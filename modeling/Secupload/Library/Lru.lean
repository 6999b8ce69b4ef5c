import Mathlib.Data.List.Dedup
import Mathlib.Data.List.DropRight
import Mathlib.Data.PNat.Defs
import Secupload.Library.Runs

namespace Secupload.Library

structure Lru (α : Type*) where
  capacity : ℕ+
  entries : List α
  nodup : entries.Nodup
  bounded : entries.length ≤ capacity

def since {α : Type*} [DecidableEq α] (k : α) (h : List α) : List α :=
  h.rtakeWhile fun j => decide (j ≠ k)

def Recent {α : Type*} [DecidableEq α] (n : ℕ) (k : α) (h : List α) : Prop :=
  k ∈ h ∧ (since k h).dedup.length < n

section Dedup

variable {α : Type*} [DecidableEq α]

lemma dedup_concat (h : List α) (k : α) : (h ++ [k]).dedup = h.dedup.erase k ++ [k] := by
  induction h with
  | nil => simp
  | cons a h ih =>
    rw [List.cons_append]
    by_cases ha : a ∈ h
    · rw [List.dedup_cons_of_mem (List.mem_append_left _ ha), List.dedup_cons_of_mem ha, ih]
    · rw [List.dedup_cons_of_notMem ha]
      by_cases hk : a = k
      · subst hk
        rw [List.dedup_cons_of_mem (by simp), ih, List.erase_cons_head,
          List.erase_of_not_mem (by simpa using ha)]
      · rw [List.dedup_cons_of_notMem (by simp [ha, hk]), ih, List.erase_cons_tail (by simpa using hk),
          List.cons_append]

lemma dedup_split (before : List α) {after : List α} {k : α} (hk : k ∉ after) :
    ∃ older, (before ++ k :: after).dedup = older ++ k :: after.dedup := by
  rw [List.dedup_append, List.dedup_cons_of_notMem hk]
  obtain ⟨older, he⟩ := List.suffix_union_right before (k :: after.dedup)
  exact ⟨older, he.symm⟩

omit [DecidableEq α] in
lemma mem_rtake {older newer : List α} {k : α} {n : ℕ} (h : (older ++ k :: newer).Nodup) :
    k ∈ (older ++ k :: newer).rtake n ↔ newer.length < n := by
  rw [List.rtake, List.drop_append, List.mem_append]
  have hlen : (older ++ k :: newer).length = older.length + newer.length + 1 := by simp; omega
  obtain ⟨hnewer, holder⟩ : k ∉ newer ∧ k ∉ older := by
    have hsplit := List.nodup_append.mp h
    exact ⟨(List.nodup_cons.mp hsplit.2.1).1, fun hk => hsplit.2.2 k hk k List.mem_cons_self rfl⟩
  constructor
  · rintro (hk | hk)
    · exact (holder (List.mem_of_mem_drop hk)).elim
    · by_contra hlt
      obtain ⟨m, hm⟩ : ∃ m, (older ++ k :: newer).length - n - older.length = m + 1 :=
        ⟨newer.length - n, by omega⟩
      rw [hm, List.drop_succ_cons] at hk
      exact hnewer (List.mem_of_mem_drop hk)
  · intro hlt
    right
    have hzero : (older ++ k :: newer).length - n - older.length = 0 := by omega
    rw [hzero]
    exact List.mem_cons_self

omit [DecidableEq α] in
lemma exists_last {h : List α} {k : α} (hk : k ∈ h) :
    ∃ before after, h = before ++ k :: after ∧ k ∉ after := by
  obtain ⟨after, before, he, hafter⟩ := List.eq_append_cons_of_mem (List.mem_reverse.mpr hk)
  refine ⟨before.reverse, after.reverse, ?_, by simpa using hafter⟩
  rw [← List.reverse_reverse h, he]
  simp

lemma since_append {before after : List α} {k : α} (hk : k ∉ after) :
    since k (before ++ k :: after) = after := by
  rw [since, List.rtakeWhile]
  have hall : ∀ j ∈ after.reverse, decide (j ≠ k) = true := by
    intro j hj
    rw [decide_eq_true_eq]
    rintro rfl
    exact hk (List.mem_reverse.mp hj)
  rw [List.reverse_append, List.reverse_cons, List.append_assoc, List.takeWhile_append_of_pos hall]
  simp

lemma since_append_of_mem {before h : List α} {k : α} (hk : k ∈ h) :
    since k (before ++ h) = since k h := by
  obtain ⟨older, newer, rfl, hno⟩ := exists_last hk
  rw [← List.append_assoc, since_append hno, since_append hno]

lemma mem_rtake_dedup {h : List α} {k : α} {n : ℕ} : k ∈ h.dedup.rtake n ↔ Recent n k h := by
  by_cases hk : k ∈ h
  · obtain ⟨before, after, rfl, hno⟩ := exists_last hk
    obtain ⟨older, hd⟩ := dedup_split before hno
    have hnodup := List.nodup_dedup (before ++ k :: after)
    rw [hd] at hnodup
    rw [hd, mem_rtake hnodup, Recent, since_append hno]
    simp
  · refine iff_of_false (fun h => ?_) (fun h => hk h.1)
    exact hk (List.mem_dedup.mp (List.mem_of_mem_drop h))

end Dedup

namespace Lru

variable {α : Type*} [DecidableEq α]

def new (capacity : ℕ+) : Lru α := ⟨capacity, [], List.nodup_nil, Nat.zero_le _⟩

def touchEntries (n : ℕ) (entries : List α) (k : α) : List α :=
  if k ∈ entries then entries.erase k ++ [k]
  else if n < (entries ++ [k]).length then (entries ++ [k]).tail
  else entries ++ [k]

omit [DecidableEq α] in
lemma rtake_concat {n : ℕ} (hn : 0 < n) (l : List α) (k : α) :
    (l ++ [k]).rtake n = l.rtake (n - 1) ++ [k] := by
  rw [List.rtake, List.rtake, List.drop_append]
  have hzero : (l ++ [k]).length - n - l.length = 0 := by simp; omega
  have hlen : (l ++ [k]).length - n = l.length - (n - 1) := by simp; omega
  rw [hzero, hlen]
  rfl

omit [DecidableEq α] in
lemma rtake_append {m i : ℕ} {older newer : List α}
    (h : older.length + newer.length - m = older.length + i) :
    (older ++ newer).rtake m = newer.drop i := by
  rw [List.rtake, List.length_append, h, List.drop_append]
  simp

lemma touchEntries_rtake {n : ℕ} (hn : 0 < n) (l : List α) (hl : l.Nodup) (k : α) :
    touchEntries n (l.rtake n) k = (l.erase k ++ [k]).rtake n := by
  rw [rtake_concat hn]
  have hsplit : l.take (l.length - n) ++ l.rtake n = l := List.take_append_drop _ _
  have holder : (l.take (l.length - n)).length = l.length - n := by simp
  have hnewer : (l.rtake n).length = l.length - (l.length - n) := by simp [List.rtake]
  generalize l.take (l.length - n) = older at hsplit holder
  generalize l.rtake n = newer at hsplit hnewer
  subst hsplit
  rw [List.length_append] at holder hnewer
  rw [touchEntries]
  by_cases hk : k ∈ newer
  · have hno : k ∉ older := fun h => (List.nodup_append.mp hl).2.2 k h k hk rfl
    have hlen := List.length_erase_of_mem hk
    have hpos := List.length_pos_of_mem hk
    rw [if_pos hk, List.erase_append_right _ hno, rtake_append (i := 0) (by omega)]
    rfl
  · have herase : (older ++ newer).erase k = older.erase k ++ newer := by
      by_cases hold : k ∈ older
      · rw [List.erase_append_left _ hold]
      · rw [List.erase_append_right _ hold, List.erase_of_not_mem hk, List.erase_of_not_mem hold]
    have hshort : (older.erase k).length ≤ older.length := List.length_erase_le
    rw [if_neg hk, herase, List.length_append, List.length_singleton]
    split
    · rw [rtake_append (i := 1) (by omega)]
      cases newer with
      | nil => simp at *; omega
      | cons a newer => rfl
    · rw [rtake_append (i := 0) (by omega)]
      rfl

lemma touchEntries_nodup {n : ℕ} {entries : List α} (h : entries.Nodup) (k : α) :
    (touchEntries n entries k).Nodup := by
  have hconcat : ∀ l : List α, l.Nodup → k ∉ l → (l ++ [k]).Nodup := by
    intro l hl hk
    rw [List.nodup_append_comm]
    exact List.nodup_cons.mpr ⟨hk, hl⟩
  rw [touchEntries]
  split
  · exact hconcat _ (h.erase k) h.not_mem_erase
  · rename_i hk
    split
    · exact (hconcat _ h hk).tail
    · exact hconcat _ h hk

lemma touchEntries_length {n : ℕ} (entries : List α) (h : entries.length ≤ n) (k : α) :
    (touchEntries n entries k).length ≤ n := by
  rw [touchEntries]
  split
  · rename_i hk
    have hlen := List.length_erase_of_mem hk
    have hpos := List.length_pos_of_mem hk
    simp only [List.length_append, List.length_singleton]
    omega
  · split
    · simp only [List.length_tail, List.length_append, List.length_singleton]
      omega
    · omega

def touch (c : Lru α) (k : α) : Lru α where
  capacity := c.capacity
  entries := touchEntries c.capacity c.entries k
  nodup := touchEntries_nodup c.nodup k
  bounded := touchEntries_length c.entries c.bounded k

lemma mem_of_mem_touch {c : Lru α} {k j : α} (h : j ∈ (c.touch k).entries) : j = k ∨ j ∈ c.entries := by
  change j ∈ touchEntries c.capacity c.entries k at h
  rw [touchEntries] at h
  split_ifs at h
  · rcases List.mem_append.mp h with h | h
    · exact Or.inr (List.mem_of_mem_erase h)
    · exact Or.inl (List.mem_singleton.mp h)
  · rcases List.mem_append.mp (List.mem_of_mem_tail h) with h | h
    · exact Or.inr h
    · exact Or.inl (List.mem_singleton.mp h)
  · rcases List.mem_append.mp h with h | h
    · exact Or.inr h
    · exact Or.inl (List.mem_singleton.mp h)

lemma run_touch (n : ℕ+) (h : List α) :
    (run touch (new n) h).capacity = n ∧ (run touch (new n) h).entries = h.dedup.rtake n := by
  induction h using List.reverseRecOn with
  | nil => simp [new]
  | append_singleton h k ih =>
    obtain ⟨hn, he⟩ := ih
    rw [run_append]
    refine ⟨hn, ?_⟩
    change touchEntries (run touch (new n) h).capacity (run touch (new n) h).entries k = _
    rw [hn, he, touchEntries_rtake n.pos _ h.nodup_dedup, dedup_concat]

lemma mem_run_touch (n : ℕ+) (h : List α) (k : α) :
    k ∈ (run touch (new n) h).entries ↔ Recent n k h := by
  rw [(run_touch n h).2, mem_rtake_dedup]

lemma run_touch_entries (c : Lru α) : run touch (new c.capacity) c.entries = c := by
  obtain ⟨hcapacity, hentries⟩ := run_touch c.capacity c.entries
  have hall : c.entries.dedup.rtake c.capacity = c.entries := by
    rw [c.nodup.dedup, List.rtake, Nat.sub_eq_zero_of_le c.bounded, List.drop_zero]
  rw [hall] at hentries
  generalize run touch (new c.capacity) c.entries = c' at hcapacity hentries
  obtain ⟨capacity, entries, _, _⟩ := c
  obtain ⟨capacity', entries', _, _⟩ := c'
  obtain rfl : capacity' = capacity := hcapacity
  obtain rfl : entries' = entries := hentries
  rfl

lemma mem_run_touch_from (c : Lru α) (h : List α) (k : α) :
    k ∈ (run touch c h).entries ↔ Recent c.capacity k (c.entries ++ h) := by
  rw [← mem_run_touch, run_append, run_touch_entries]

lemma run_touch_capacity (c : Lru α) (h : List α) : (run touch c h).capacity = c.capacity :=
  run_invariant (I := fun c' => c'.capacity = c.capacity)
    (fun (c' : Lru α) (k : α) hc => show (c'.touch k).capacity = c.capacity from hc) rfl h

lemma mem_run_touch_of_few {c : Lru α} {k : α} {h : List α} (hk : k ∈ h) (hfew : h.dedup.length ≤ c.capacity) :
    k ∈ (run touch c h).entries := by
  obtain ⟨before, after, rfl, hafter⟩ := exists_last hk
  rw [mem_run_touch_from, ← List.append_assoc]
  refine ⟨List.mem_append_right _ List.mem_cons_self, ?_⟩
  rw [since_append hafter]
  have hsub : (k :: after.dedup).length ≤ (before ++ k :: after).dedup.length := by
    obtain ⟨older, hd⟩ := dedup_split before hafter
    rw [hd, List.length_append]
    exact Nat.le_add_left _ _
  rw [List.length_cons] at hsub
  omega

end Lru

end Secupload.Library
