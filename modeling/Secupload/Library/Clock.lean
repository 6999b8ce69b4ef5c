import Mathlib.Data.Int.ConditionallyCompleteOrder
import Mathlib.Order.ConditionallyCompleteLattice.Basic
import Secupload.Library.Runs

namespace Secupload.Library

variable {σ ι τ : Type*} [Preorder τ] {step : σ → ι → σ} {now : ι → τ}

def Chronological (now : ι → τ) (is : List ι) (q : τ) : Prop :=
  (is.map now ++ [q]).Pairwise (· ≤ ·)

instance [DecidableLE τ] (now : ι → τ) (is : List ι) (q : τ) : Decidable (Chronological now is q) :=
  inferInstanceAs (Decidable ((is.map now ++ [q]).Pairwise (· ≤ ·)))

@[simp] lemma chronological_nil (q : τ) : Chronological now [] q := List.pairwise_singleton _ _

lemma chronological_cons {i : ι} {is : List ι} {q : τ} :
    Chronological now (i :: is) q ↔
      ((∀ j ∈ is, now i ≤ now j) ∧ now i ≤ q) ∧ Chronological now is q := by
  rw [Chronological, List.map_cons, List.cons_append, List.pairwise_cons, Chronological]
  simp [or_imp, forall_and]

lemma Chronological.split {is js : List ι} {j : ι} {q : τ} (h : Chronological now (is ++ j :: js) q) :
    Chronological now is (now j) ∧ Chronological now (j :: js) q := by
  induction is with
  | nil => exact ⟨chronological_nil _, h⟩
  | cons i is ih =>
    obtain ⟨⟨hle, _⟩, htail⟩ := chronological_cons.mp h
    obtain ⟨his, hjs⟩ := ih htail
    refine ⟨chronological_cons.mpr ⟨⟨?_, hle j (by simp)⟩, his⟩, hjs⟩
    intro k hk
    exact hle k (by simp [hk])

lemma Chronological.invariant {I : τ → σ → Prop} {is : List ι} {q t : τ} {s : σ}
    (h : Chronological now is q) (hmono : ∀ t t' s, t ≤ t' → I t s → I t' s)
    (hstep : ∀ t s, ∀ i ∈ is, t ≤ now i → now i ≤ q → I t s → I (now i) (step s i))
    (hle : (∀ i ∈ is, t ≤ now i) ∧ t ≤ q) (hs : I t s) : I q (run step s is) := by
  induction is generalizing t s with
  | nil => exact hmono t q s hle.2 hs
  | cons i is ih =>
    obtain ⟨hi, htail⟩ := chronological_cons.mp h
    exact ih htail (fun t s j hj => hstep t s j (List.mem_cons_of_mem _ hj)) hi
      (hstep t s i List.mem_cons_self (hle.1 i List.mem_cons_self) hi.2 hs)

lemma Chronological.invariant_of_start {I : τ → σ → Prop} {is : List ι} {q : τ} {s : σ}
    (h : Chronological now is q) (hmono : ∀ t t' s, t ≤ t' → I t s → I t' s)
    (hstep : ∀ t s, ∀ i ∈ is, t ≤ now i → now i ≤ q → I t s → I (now i) (step s i))
    (hs : ∀ t, I t s) : I q (run step s is) := by
  cases is with
  | nil => exact hs q
  | cons i is =>
    obtain ⟨hi, htail⟩ := chronological_cons.mp h
    exact htail.invariant hmono (fun t s j hj => hstep t s j (List.mem_cons_of_mem _ hj)) hi
      (hstep (now i) s i List.mem_cons_self le_rfl hi.2 (hs _))

end Secupload.Library
