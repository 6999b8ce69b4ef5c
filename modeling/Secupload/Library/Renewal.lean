import Mathlib.Data.List.Chain
import Secupload.Library.Runs

/-! A lease that regular ticks renew: a successor is ordered some time before the lease ends and
takes over some time after it was ordered. -/

namespace Secupload.Library

section Paced

variable {σ ι : Type*} {D t : ℤ} {times : List ℤ}

def Paced (D t : ℤ) (times : List ℤ) : Prop := (t :: times).IsChain fun a b => a ≤ b ∧ b ≤ a + D

instance : Decidable (Paced D t times) := inferInstanceAs (Decidable (List.IsChain _ _))

@[simp] lemma paced_nil : Paced D t [] := .singleton t

lemma paced_cons {u : ℤ} : Paced D t (u :: times) ↔ (t ≤ u ∧ u ≤ t + D) ∧ Paced D u times :=
  List.isChain_cons_cons

lemma Paced.left {later : List ℤ} (h : Paced D t (times ++ later)) : Paced D t times := by
  rw [Paced, ← List.cons_append] at h
  exact h.left_of_append

lemma paced_range (n : ℕ) : Paced 1 t ((List.range n).map fun i : ℕ => t + 1 + (i : ℤ)) := by
  induction n generalizing t with
  | zero => exact paced_nil
  | succ n ih =>
    have hshift : ((List.range n).map Nat.succ).map (fun i : ℕ => t + 1 + (i : ℤ)) =
        (List.range n).map fun i : ℕ => t + 1 + 1 + (i : ℤ) := by
      rw [List.map_map]
      apply List.map_congr_left
      intro i _
      simp only [Function.comp_apply, Nat.succ_eq_add_one]
      omega
    have hfirst : t + 1 + ((0 : ℕ) : ℤ) = t + 1 := by omega
    rw [List.range_succ_eq_map, List.map_cons, paced_cons, hshift, hfirst]
    exact ⟨by omega, ih⟩

lemma getLastD_range (n : ℕ) :
    ((List.range n).map fun i : ℕ => t + 1 + (i : ℤ)).getLastD t = t + n := by
  cases n with
  | zero => simp
  | succ n =>
    rw [List.range_succ, List.map_append, List.map_singleton, List.getLastD_concat]
    omega

lemma Paced.invariant {step : σ → ι → σ} {time : ι → Option ℤ} {I : ℤ → σ → Prop} {is : List ι}
    (hstep : ∀ t s, ∀ i ∈ is, I t s → (∀ u ∈ time i, t ≤ u ∧ u ≤ t + D) →
      I ((time i).getD t) (step s i))
    {s : σ} (h : Paced D t (is.filterMap time)) (hs : I t s) :
    I ((is.filterMap time).getLastD t) (run step s is) := by
  induction is generalizing t s with
  | nil => exact hs
  | cons i is ih =>
    have htail := fun t s j hj => hstep t s j (List.mem_cons_of_mem i hj)
    cases hi : time i with
    | none =>
      rw [List.filterMap_cons_none hi] at h ⊢
      have hnext := hstep t s i List.mem_cons_self hs (by simp [hi])
      rw [hi] at hnext
      exact ih htail h hnext
    | some u =>
      rw [List.filterMap_cons_some hi] at h ⊢
      obtain ⟨hu, hpaced⟩ := paced_cons.mp h
      have hnext := hstep t s i List.mem_cons_self hs (by simp [hi, hu])
      rw [hi] at hnext
      rw [List.getLastD_cons]
      exact ih htail hpaced hnext

end Paced

-- a lease holds for `life`; its successor is ordered `lead` before its end, and waits for `delay`
structure Renewal where
  life : ℤ
  lead : ℤ
  delay : ℤ

structure Lease where
  ends : ℤ
  ordered : Option ℤ

namespace Renewal

variable (r : Renewal) (D last now : ℤ) (l : Lease)

def order : Lease := if l.ordered = none ∧ l.ends - r.lead ≤ now then ⟨l.ends, some now⟩ else l

def takeOver : Lease :=
  match l.ordered with
  | none => l
  | some t => if now < t + r.delay then l else ⟨t + r.life, none⟩

def tick : Lease := r.takeOver now (r.order now l)

structure Suits : Prop where
  nonneg : 0 ≤ D
  slack : 3 * D ≤ r.lead - r.delay
  delay : 0 ≤ r.delay
  covers : r.delay + r.lead ≤ r.life

def OnTime : Prop :=
  match l.ordered with
  | none => last < l.ends - r.lead + D
  | some t => last < t + r.delay ∧ t < l.ends - r.lead + 2 * D

variable {r D last now l}

lemma OnTime.runs (h : r.OnTime D last l) (hr : r.Suits D) (hnow : now ≤ last + D) : now < l.ends := by
  have hslack := hr.slack
  have hdelay := hr.delay
  have hD := hr.nonneg
  rw [OnTime] at h
  split at h <;> omega

lemma OnTime.order (h : r.OnTime D last l) (hr : r.Suits D) (hnow : now ≤ last + D) :
    match (r.order now l).ordered with
    | none => r.order now l = l ∧ now < l.ends - r.lead
    | some t => r.order now l = ⟨l.ends, some t⟩ ∧ now < t + r.delay + D ∧
        t < l.ends - r.lead + 2 * D := by
  have hD := hr.nonneg
  have hdelay := hr.delay
  obtain ⟨ends, ordered⟩ := l
  cases ordered with
  | none =>
    simp only [OnTime] at h
    by_cases hdue : ends - r.lead ≤ now
    · have horder : r.order now ⟨ends, none⟩ = ⟨ends, some now⟩ := if_pos ⟨rfl, hdue⟩
      rw [horder]
      dsimp only
      refine ⟨rfl, ?_, ?_⟩ <;> omega
    · have horder : r.order now ⟨ends, none⟩ = ⟨ends, none⟩ := if_neg fun hd => hdue hd.2
      rw [horder]
      dsimp only
      refine ⟨rfl, ?_⟩
      omega
  | some t =>
    simp only [OnTime] at h
    have horder : r.order now ⟨ends, some t⟩ = ⟨ends, some t⟩ := if_neg fun hd => nomatch hd.1
    rw [horder]
    dsimp only
    refine ⟨rfl, ?_, ?_⟩ <;> omega

lemma OnTime.covered (h : r.OnTime D last l) (hr : r.Suits D) (hnow : now ≤ last + D) {t : ℤ}
    (ht : (r.order now l).ordered = some t) : now < t + r.life := by
  have hslack := hr.slack
  have hcovers := hr.covers
  have hdelay := hr.delay
  have hD := hr.nonneg
  have horder := h.order hr hnow
  rw [ht] at horder
  dsimp only at horder
  omega

lemma OnTime.tick (h : r.OnTime D last l) (hr : r.Suits D) (hnow : now ≤ last + D) :
    r.OnTime D now (r.tick now l) := by
  have hD := hr.nonneg
  have hcovers := hr.covers
  have horder := h.order hr hnow
  rw [Renewal.tick]
  split at horder
  · rename_i hnone
    rw [takeOver, hnone, horder.1, OnTime]
    rw [horder.1] at hnone
    simp only [hnone]
    omega
  · rename_i t hsome
    obtain ⟨he, hlate, hearly⟩ := horder
    rw [he, takeOver]
    dsimp only
    split_ifs with hwait
    · exact ⟨hwait, hearly⟩
    · simp only [OnTime]
      omega

end Renewal

end Secupload.Library
