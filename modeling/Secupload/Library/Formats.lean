import Mathlib.Logic.Equiv.Defs
import Secupload.Library.Parsing

/-! Formats: a writer and a reader of the same values, with the shape of the words that the
writer gives back after the reader. -/

namespace Secupload.Library

-- `size` and `Tidy` look at the front of a word only; a word is tidy when writing its value again
-- gives it back
structure Format (ε β α : Type) where
  write : α → Except ε (List β)
  read : Parser ε β α
  size : List β → ℕ
  Tidy : List β → Prop
  reads : ∀ {a w}, write a = .ok w → Reads read w a
  splits : ∀ {data a rest}, read.run data = .ok (a, rest) →
    ∃ w, w.length = size data ∧ data = w ++ rest ∧ (Tidy data ↔ write a = .ok w)

namespace Format

variable {ε β α γ : Type} {f : Format ε β α} {g : Format ε β γ} {data w rest : List β} {a : α}

lemma append_eq_ok {x y : Except ε (List β)} :
    (do return (← x) ++ (← y)) = Except.ok (ε := ε) w ↔
      ∃ u v, x = .ok u ∧ y = .ok v ∧ u ++ v = w := by
  cases x <;> cases y <;> simp [bind, Except.bind, pure, Except.pure]

lemma drop_of_splits (h : f.read.run data = .ok (a, rest)) : data.drop (f.size data) = rest := by
  obtain ⟨w, hw, rfl, _⟩ := f.splits h
  rw [← hw]
  exact List.drop_left

lemma written_eq (hread : f.read.run (w ++ rest) = .ok (a, rest)) {u : List β} (hu : f.write a = .ok u)
    {rest' : List β} (hsame : u ++ rest' = w ++ rest) : u = w ∧ rest' = rest := by
  have hback := f.reads hu rest'
  rw [hsame, hread] at hback
  obtain ⟨_, rfl⟩ := Prod.mk.inj (Except.ok.inj hback)
  exact ⟨List.append_cancel_right hsame, rfl⟩

def seq (f : Format ε β α) (g : Format ε β γ) : Format ε β (α × γ) where
  write p := do return (← f.write p.1) ++ (← g.write p.2)
  read := do
    let a ← f.read
    let c ← g.read
    return (a, c)
  size data := f.size data + g.size (data.drop (f.size data))
  Tidy data := f.Tidy data ∧ g.Tidy (data.drop (f.size data))
  reads := by
    intro p w h
    obtain ⟨u, v, hu, hv, rfl⟩ := append_eq_ok.mp h
    apply (f.reads hu).bind
    apply (g.reads hv).last
    exact Reads.pure p
  splits := by
    intro data p rest h
    obtain ⟨a, mid, ha, h⟩ := parser_bind_eq_ok.mp h
    obtain ⟨c, rest', hc, h⟩ := parser_bind_eq_ok.mp h
    obtain ⟨rfl, rfl⟩ := parser_pure_eq_ok.mp h
    have hdrop := drop_of_splits ha
    obtain ⟨u, hu, rfl, hfu⟩ := f.splits ha
    obtain ⟨v, hv, rfl, hgv⟩ := g.splits hc
    refine ⟨u ++ v, ?_, (List.append_assoc _ _ _).symm, ?_⟩
    · rw [hdrop, List.length_append, hu, hv]
    · rw [hdrop, hfu, hgv, append_eq_ok]
      constructor
      · rintro ⟨hu', hv'⟩
        exact ⟨u, v, hu', hv', rfl⟩
      · rintro ⟨u', v', hu', hv', hsame⟩
        have hfront : u' ++ (v' ++ rest) = u ++ (v ++ rest) := by
          rw [← List.append_assoc, hsame, List.append_assoc]
        obtain ⟨rfl, hback⟩ := written_eq ha hu' hfront
        exact ⟨hu', List.append_cancel_right hback ▸ hv'⟩

def equiv (f : Format ε β α) (e : γ ≃ α) : Format ε β γ where
  write c := f.write (e c)
  read := e.symm <$> f.read
  size := f.size
  Tidy := f.Tidy
  reads := by
    intro c w h
    have hread := (f.reads h).map e.symm
    rwa [e.symm_apply_apply] at hread
  splits := by
    intro data c rest h
    rw [← bind_pure_comp] at h
    obtain ⟨a, mid, ha, h⟩ := parser_bind_eq_ok.mp h
    obtain ⟨rfl, rfl⟩ := parser_pure_eq_ok.mp h
    simpa using f.splits ha

def Exact (f : Format ε β α) (data : List β) : Prop := f.Tidy data ∧ f.size data = data.length

lemma write_eq_ok_iff (h : f.read.run data = .ok (a, rest)) : f.write a = .ok data ↔ f.Exact data := by
  obtain ⟨w, hw, rfl, htidy⟩ := f.splits h
  rw [Exact, htidy, ← hw]
  constructor
  · intro hwrite
    obtain ⟨hsame, rfl⟩ := written_eq h hwrite (List.append_nil _)
    rw [List.append_nil] at hwrite ⊢
    exact ⟨hwrite, rfl⟩
  · rintro ⟨hwrite, hlength⟩
    rw [List.length_append] at hlength
    have hrest : rest = [] := List.length_eq_zero_iff.mp (by omega)
    rw [hwrite, hrest, List.append_nil]

lemma write_injective {b : α} (ha : f.write a = .ok w) (hb : f.write b = .ok w) : a = b := by
  have hreada := (f.reads ha).run
  have hreadb := (f.reads hb).run
  rw [hreada] at hreadb
  exact congrArg Prod.fst (Except.ok.inj hreadb)

def Domain (f : Format ε β α) (a : α) : Prop := ∃ w, f.write a = .ok w

lemma seq_domain {p : α × γ} : (f.seq g).Domain p ↔ f.Domain p.1 ∧ g.Domain p.2 := by
  constructor
  · rintro ⟨w, h⟩
    obtain ⟨u, v, hu, hv, _⟩ := append_eq_ok.mp h
    exact ⟨⟨u, hu⟩, v, hv⟩
  · rintro ⟨⟨u, hu⟩, v, hv⟩
    exact ⟨u ++ v, append_eq_ok.mpr ⟨u, v, hu, hv, rfl⟩⟩

lemma equiv_domain {e : γ ≃ α} {c : γ} : (f.equiv e).Domain c ↔ f.Domain (e c) := Iff.rfl

lemma Domain.reads (h : f.Domain a) : ∃ w, f.write a = .ok w ∧ f.read.run w = .ok (a, []) := by
  obtain ⟨w, hw⟩ := h
  exact ⟨w, hw, (f.reads hw).run⟩

def Closed (f : Format ε β α) : Prop := ∀ data a rest, f.read.run data = .ok (a, rest) → f.Domain a

lemma closed_of_tidy (h : ∀ data, f.Tidy data) : f.Closed := by
  intro data a rest hread
  obtain ⟨w, _, _, htidy⟩ := f.splits hread
  exact ⟨w, htidy.mp (h data)⟩

lemma Closed.seq (hf : f.Closed) (hg : g.Closed) : (f.seq g).Closed := by
  intro data p rest h
  obtain ⟨a, mid, ha, h⟩ := parser_bind_eq_ok.mp h
  obtain ⟨c, rest', hc, h⟩ := parser_bind_eq_ok.mp h
  obtain ⟨rfl, rfl⟩ := parser_pure_eq_ok.mp h
  exact seq_domain.mpr ⟨hf _ _ _ ha, hg _ _ _ hc⟩

lemma Closed.equiv (hf : f.Closed) (e : γ ≃ α) : (f.equiv e).Closed := by
  intro data c rest h
  change (e.symm <$> f.read).run data = .ok (c, rest) at h
  rw [← bind_pure_comp] at h
  obtain ⟨a, mid, ha, h⟩ := parser_bind_eq_ok.mp h
  obtain ⟨rfl, rfl⟩ := parser_pure_eq_ok.mp h
  rw [equiv_domain, e.apply_symm_apply]
  exact hf _ _ _ ha

section Repeated

def writeAll (f : Format ε β α) : List α → Except ε (List β)
  | [] => .ok []
  | a :: as => do return (← f.write a) ++ (← f.writeAll as)

def readN (f : Format ε β α) : ℕ → Parser ε β (List α)
  | 0 => return []
  | n + 1 => do
    let a ← f.read
    let as ← f.readN n
    return a :: as

def sizeN (f : Format ε β α) : ℕ → List β → ℕ
  | 0, _ => 0
  | n + 1, data => f.size data + f.sizeN n (data.drop (f.size data))

def TidyN (f : Format ε β α) : ℕ → List β → Prop
  | 0, _ => True
  | n + 1, data => f.Tidy data ∧ f.TidyN n (data.drop (f.size data))

lemma reads_all {as : List α} (h : f.writeAll as = .ok w) : Reads (f.readN as.length) w as := by
  induction as generalizing w with
  | nil =>
    obtain rfl := Except.ok.inj h
    exact Reads.pure []
  | cons a as ih =>
    obtain ⟨u, v, hu, hv, rfl⟩ := append_eq_ok.mp h
    apply (f.reads hu).bind
    apply (ih hv).last
    exact Reads.pure _

lemma splits_all {n : ℕ} {as : List α} (h : (f.readN n).run data = .ok (as, rest)) :
    as.length = n ∧ ∃ w, w.length = f.sizeN n data ∧ data = w ++ rest ∧
      (f.TidyN n data ↔ f.writeAll as = .ok w) := by
  induction n generalizing data as with
  | zero =>
    obtain ⟨rfl, rfl⟩ := parser_pure_eq_ok.mp h
    exact ⟨rfl, [], rfl, rfl, iff_of_true trivial rfl⟩
  | succ n ih =>
    obtain ⟨a, mid, ha, h⟩ := parser_bind_eq_ok.mp h
    obtain ⟨as', rest', has, h⟩ := parser_bind_eq_ok.mp h
    obtain ⟨rfl, rfl⟩ := parser_pure_eq_ok.mp h
    have hdrop := drop_of_splits ha
    obtain ⟨u, hu, rfl, hfu⟩ := f.splits ha
    obtain ⟨rfl, v, hv, rfl, hgv⟩ := ih has
    refine ⟨rfl, u ++ v, ?_, (List.append_assoc _ _ _).symm, ?_⟩
    · rw [sizeN, hdrop, List.length_append, hu, hv]
    · rw [TidyN, hdrop, hfu, hgv, writeAll, append_eq_ok]
      constructor
      · rintro ⟨hu', hv'⟩
        exact ⟨u, v, hu', hv', rfl⟩
      · rintro ⟨u', v', hu', hv', hsame⟩
        have hfront : u' ++ (v' ++ rest) = u ++ (v ++ rest) := by
          rw [← List.append_assoc, hsame, List.append_assoc]
        obtain ⟨rfl, hback⟩ := written_eq ha hu' hfront
        exact ⟨hu', List.append_cancel_right hback ▸ hv'⟩

lemma writeAll_domain {as : List α} :
    (∃ w, f.writeAll as = .ok w) ↔ ∀ a ∈ as, f.Domain a := by
  induction as with
  | nil =>
    refine iff_of_true ⟨[], rfl⟩ ?_
    intro a ha
    cases ha
  | cons a as ih =>
    rw [List.forall_mem_cons, ← ih]
    constructor
    · rintro ⟨w, h⟩
      obtain ⟨u, v, hu, hv, _⟩ := append_eq_ok.mp h
      exact ⟨⟨u, hu⟩, v, hv⟩
    · rintro ⟨⟨u, hu⟩, v, hv⟩
      exact ⟨u ++ v, append_eq_ok.mpr ⟨u, v, hu, hv, rfl⟩⟩

end Repeated

end Format

end Secupload.Library
