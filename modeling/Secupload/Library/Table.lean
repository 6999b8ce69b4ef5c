import Mathlib.Data.List.Nodup
import Mathlib.Data.List.Basic

namespace Secupload.Library

structure Table {α κ : Type*} (key : α → κ) where
  rows : List α
  nodup : (rows.map key).Nodup

namespace Table

variable {α κ : Type*} {key : α → κ}

instance [DecidableEq α] : DecidableEq (Table key) := fun s t =>
  decidable_of_iff (s.rows = t.rows) (by cases s; cases t; simp)

@[ext] lemma ext {s t : Table key} (h : s.rows = t.rows) : s = t := by
  cases s; cases t; cases h; rfl

lemma row_unique (t : Table key) {r s : α} (hr : r ∈ t.rows) (hs : s ∈ t.rows)
    (h : key r = key s) : r = s :=
  List.inj_on_of_nodup_map t.nodup hr hs h

lemma countP_le_one (t : Table key) {p : α → Bool}
    (h : ∀ r ∈ t.rows, ∀ s ∈ t.rows, p r = true → p s = true → r = s) : t.rows.countP p ≤ 1 := by
  rw [List.countP_eq_length_filter]
  have hrows : (t.rows.filter p).Nodup := (List.Nodup.of_map key t.nodup).filter p
  have hmem : ∀ r ∈ t.rows.filter p, r ∈ t.rows ∧ p r = true := fun r hr => List.mem_filter.mp hr
  match hf : t.rows.filter p with
  | [] => simp
  | [r] => simp
  | r :: s :: rest =>
    rw [hf] at hrows hmem
    have hr := hmem r (by simp)
    have hs := hmem s (by simp)
    have he : r = s := h r hr.1 s hs.1 hr.2 hs.2
    simp [he] at hrows

def empty : Table key := ⟨[], List.nodup_nil⟩

@[simp] lemma rows_empty : (empty : Table key).rows = [] := rfl

def filter (p : α → Bool) (t : Table key) : Table key where
  rows := t.rows.filter p
  nodup := t.nodup.sublist (List.filter_sublist.map key)

@[simp] lemma rows_filter (p : α → Bool) (t : Table key) : (t.filter p).rows = t.rows.filter p := rfl

def mapRows (f : α → α) (hf : ∀ r, key (f r) = key r) (t : Table key) : Table key where
  rows := t.rows.map f
  nodup := by
    have he : (t.rows.map f).map key = t.rows.map key := by simp [hf]
    rw [he]
    exact t.nodup

@[simp] lemma rows_mapRows (f : α → α) (hf : ∀ r, key (f r) = key r) (t : Table key) :
    (t.mapRows f hf).rows = t.rows.map f := rfl

variable [DecidableEq κ]

def get? (t : Table key) (k : κ) : Option α :=
  t.rows.find? (fun r => decide (key r = k))

def setRow (key : α → κ) (r : α) : List α → List α
  | [] => [r]
  | s :: rows => if key s = key r then r :: rows else s :: setRow key r rows

lemma keys_setRow (r : α) (rows : List α) :
    (setRow key r rows).map key =
      if key r ∈ rows.map key then rows.map key else rows.map key ++ [key r] := by
  induction rows with
  | nil => simp [setRow]
  | cons s rows ih =>
    by_cases hs : key s = key r
    · simp [setRow, hs]
    · have hs' : key r ≠ key s := fun h => hs h.symm
      simp only [setRow, hs, if_false, List.map_cons, ih, List.mem_cons, hs', false_or]
      split <;> simp

lemma setRow_nodup (r : α) (rows : List α) (h : (rows.map key).Nodup) :
    ((setRow key r rows).map key).Nodup := by
  rw [keys_setRow]
  split
  · exact h
  · rename_i hr
    rw [List.nodup_append_comm, List.singleton_append]
    exact List.nodup_cons.mpr ⟨hr, h⟩

def set (t : Table key) (r : α) : Table key := ⟨setRow key r t.rows, setRow_nodup r t.rows t.nodup⟩

lemma mem_setRow {r s : α} {rows : List α} (h : (rows.map key).Nodup) :
    s ∈ setRow key r rows ↔ s = r ∨ s ∈ rows ∧ key s ≠ key r := by
  induction rows with
  | nil => simp [setRow]
  | cons q rows ih =>
    obtain ⟨hq, hrows⟩ := List.nodup_cons.mp h
    have hne : ∀ p ∈ rows, key p ≠ key q := fun p hp he => hq (he ▸ List.mem_map_of_mem hp)
    by_cases he : key q = key r
    · simp only [setRow, he, if_true, List.mem_cons]
      constructor
      · rintro (rfl | hs)
        · exact Or.inl rfl
        · exact Or.inr ⟨Or.inr hs, he ▸ hne s hs⟩
      · rintro (rfl | ⟨rfl | hs, hk⟩)
        · exact Or.inl rfl
        · exact (hk he).elim
        · exact Or.inr hs
    · simp only [setRow, he, if_false, List.mem_cons, ih hrows]
      constructor
      · rintro (rfl | rfl | ⟨hs, hk⟩)
        · exact Or.inr ⟨Or.inl rfl, he⟩
        · exact Or.inl rfl
        · exact Or.inr ⟨Or.inr hs, hk⟩
      · rintro (rfl | ⟨rfl | hs, hk⟩)
        · exact Or.inr (Or.inl rfl)
        · exact Or.inl rfl
        · exact Or.inr (Or.inr ⟨hs, hk⟩)

@[simp] lemma mem_set {t : Table key} {r s : α} :
    s ∈ (t.set r).rows ↔ s = r ∨ s ∈ t.rows ∧ key s ≠ key r :=
  mem_setRow t.nodup

lemma rows_set_of_new {t : Table key} {r : α} (h : ∀ s ∈ t.rows, key s ≠ key r) :
    (t.set r).rows = t.rows ++ [r] := by
  have happ : ∀ rows : List α, (∀ s ∈ rows, key s ≠ key r) → setRow key r rows = rows ++ [r] := by
    intro rows hrows
    induction rows with
    | nil => rfl
    | cons q rows ih =>
      simp only [setRow, hrows q List.mem_cons_self, if_false, List.cons_append]
      rw [ih (fun s hs => hrows s (List.mem_cons_of_mem _ hs))]
  exact happ t.rows h

lemma find?_set {t : Table key} {r : α} {p : α → Bool} (hr : p r = false)
    (h : ∀ s ∈ t.rows, key s = key r → p s = false) : (t.set r).rows.find? p = t.rows.find? p := by
  have hrows : ∀ rows : List α, (∀ s ∈ rows, key s = key r → p s = false) →
      (setRow key r rows).find? p = rows.find? p := by
    intro rows hp
    induction rows with
    | nil => simp [setRow, hr]
    | cons q rows ih =>
      rw [setRow]
      split
      · rename_i hq
        rw [List.find?_cons_of_neg (by simp [hr]),
          List.find?_cons_of_neg (by simp [hp q List.mem_cons_self hq])]
      · rw [List.find?_cons, List.find?_cons, ih fun s hs => hp s (List.mem_cons_of_mem _ hs)]
  exact hrows t.rows h

lemma get?_eq_some {t : Table key} {k : κ} {r : α} :
    t.get? k = some r ↔ r ∈ t.rows ∧ key r = k := by
  constructor
  · intro h
    exact ⟨List.mem_of_find?_eq_some h, by simpa using List.find?_some h⟩
  · rintro ⟨hr, rfl⟩
    cases hg : t.get? (key r) with
    | none =>
      have hn := List.find?_eq_none.mp hg r hr
      simp at hn
    | some s =>
      have hs : key s = key r := by simpa using List.find?_some hg
      rw [t.row_unique (List.mem_of_find?_eq_some hg) hr hs]

lemma get?_eq_none {t : Table key} {k : κ} : t.get? k = none ↔ ∀ r ∈ t.rows, key r ≠ k := by
  simp [get?]

@[simp] lemma get?_empty (k : κ) : (empty : Table key).get? k = none := rfl

lemma get?_of_mem {t : Table key} {r : α} (h : r ∈ t.rows) : t.get? (key r) = some r :=
  get?_eq_some.mpr ⟨h, rfl⟩

lemma get?_set (t : Table key) (r : α) (k : κ) :
    (t.set r).get? k = if key r = k then some r else t.get? k := by
  split
  · rename_i h
    exact get?_eq_some.mpr ⟨mem_set.mpr (Or.inl rfl), h⟩
  · rename_i h
    apply Option.ext
    intro s
    simp only [get?_eq_some, mem_set]
    constructor
    · rintro ⟨rfl | ⟨hs, _⟩, hk⟩
      · exact (h hk).elim
      · exact ⟨hs, hk⟩
    · rintro ⟨hs, hk⟩
      exact ⟨Or.inr ⟨hs, fun he => h (he ▸ hk)⟩, hk⟩

@[simp] lemma get?_set_self (t : Table key) (r : α) : (t.set r).get? (key r) = some r := by
  simp [get?_set]

lemma get?_set_ne (t : Table key) {r : α} {k : κ} (h : key r ≠ k) : (t.set r).get? k = t.get? k := by
  simp [get?_set, h]

lemma get?_filter_ne (t : Table key) (k k' : κ) :
    (t.filter fun r => decide (key r ≠ k')).get? k = if k' = k then none else t.get? k := by
  split
  · rename_i h
    refine get?_eq_none.mpr fun r hr hk => ?_
    obtain ⟨_, hne⟩ := List.mem_filter.mp hr
    exact of_decide_eq_true hne (hk.trans h.symm)
  · rename_i h
    apply Option.ext
    intro s
    simp only [get?_eq_some, rows_filter, List.mem_filter, decide_eq_true_eq]
    constructor
    · rintro ⟨⟨hs, _⟩, hk⟩
      exact ⟨hs, hk⟩
    · rintro ⟨hs, hk⟩
      exact ⟨⟨hs, fun he => h (he.symm.trans hk)⟩, hk⟩

lemma get?_mapRows (f : α → α) (hf : ∀ r, key (f r) = key r) (t : Table key) (k : κ) :
    (t.mapRows f hf).get? k = (t.get? k).map f := by
  simp only [get?, rows_mapRows, List.find?_map, Function.comp_def, hf]

def ofRows (rows : List α) : Table key := rows.foldl set empty

lemma get?_foldl_set (rows : List α) (t : Table key) (k : κ) (h : (rows.map key).Nodup) :
    (rows.foldl set t).get? k = (rows.find? (fun r => decide (key r = k))).or (t.get? k) := by
  induction rows generalizing t with
  | nil => simp
  | cons r rows ih =>
    obtain ⟨hr, hrows⟩ := List.nodup_cons.mp h
    rw [List.foldl_cons, ih (t.set r) hrows, get?_set, List.find?_cons]
    by_cases hk : key r = k
    · have hn : rows.find? (fun s => decide (key s = k)) = none := by
        simp only [List.find?_eq_none, decide_eq_true_eq]
        intro s hs he
        exact hr (by rw [hk, ← he]; exact List.mem_map_of_mem hs)
      simp [hk, hn]
    · simp [hk]

lemma rows_foldl_set (rows : List α) (t : Table key) (h : ((t.rows ++ rows).map key).Nodup) :
    (rows.foldl set t).rows = t.rows ++ rows := by
  induction rows generalizing t with
  | nil => simp
  | cons r rows ih =>
    have hnew : ∀ s ∈ t.rows, key s ≠ key r := by
      intro s hs he
      rw [List.map_append, List.map_cons] at h
      exact (List.nodup_append.mp h).2.2 (key s) (List.mem_map_of_mem hs) (key r)
        List.mem_cons_self he
    have hset : (t.set r).rows = t.rows ++ [r] := rows_set_of_new hnew
    rw [List.foldl_cons, ih (t.set r) (by rw [hset, List.append_assoc]; exact h), hset,
      List.append_assoc]
    rfl

lemma rows_ofRows (rows : List α) (h : (rows.map key).Nodup) :
    (ofRows rows : Table key).rows = rows := by
  simpa [ofRows] using rows_foldl_set rows empty (by simpa using h)

end Table

end Secupload.Library
