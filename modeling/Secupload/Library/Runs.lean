import Mathlib.Data.List.Basic

/-! Runs of a deterministic step function over a list of inputs, and runs all of
whose steps meet a condition on the state before the step. -/

namespace Secupload.Library

variable {σ ι : Type*}

def run (step : σ → ι → σ) (s : σ) (is : List ι) : σ := is.foldl step s

section Runs

variable {step : σ → ι → σ}

@[simp] lemma run_nil (s : σ) : run step s [] = s := rfl

@[simp] lemma run_cons (s : σ) (i : ι) (is : List ι) :
    run step s (i :: is) = run step (step s i) is := rfl

lemma run_append (s : σ) (is js : List ι) :
    run step s (is ++ js) = run step (run step s is) js :=
  List.foldl_append

lemma run_invariant {I : σ → Prop} (hstep : ∀ s i, I s → I (step s i)) {s : σ} (hs : I s)
    (is : List ι) : I (run step s is) := by
  induction is generalizing s with
  | nil => exact hs
  | cons i is ih => exact ih (hstep s i hs)

end Runs

def Along (step : σ → ι → σ) (C : σ → ι → Prop) : σ → List ι → Prop
  | _, [] => True
  | s, i :: is => C s i ∧ Along step C (step s i) is

section Along

variable {step : σ → ι → σ} {C D : σ → ι → Prop}

@[simp] lemma along_nil (s : σ) : Along step C s [] := trivial

@[simp] lemma along_cons (s : σ) (i : ι) (is : List ι) :
    Along step C s (i :: is) ↔ C s i ∧ Along step C (step s i) is := Iff.rfl

instance [∀ s i, Decidable (C s i)] : ∀ s is, Decidable (Along step C s is)
  | _, [] => inferInstanceAs (Decidable True)
  | s, i :: is =>
    have := instDecidableAlong (step s i) is
    inferInstanceAs (Decidable (C s i ∧ Along step C (step s i) is))

lemma along_append (s : σ) (is js : List ι) :
    Along step C s (is ++ js) ↔ Along step C s is ∧ Along step C (run step s is) js := by
  induction is generalizing s with
  | nil => simp
  | cons i is ih => simp [ih, and_assoc]

lemma along_iff_forall (s : σ) (is : List ι) :
    Along step C s is ↔ ∀ pre i post, is = pre ++ i :: post → C (run step s pre) i := by
  constructor
  · rintro h pre i post rfl
    exact ((along_append s pre (i :: post)).mp h).2.1
  · intro h
    induction is generalizing s with
    | nil => exact along_nil s
    | cons i is ih =>
      refine ⟨h [] i is rfl, ih (step s i) fun pre j post his => ?_⟩
      rw [his] at h
      exact h (i :: pre) j post rfl

lemma along_of_forall {is : List ι} (h : ∀ i ∈ is, ∀ s, C s i) (s : σ) : Along step C s is := by
  rw [along_iff_forall]
  rintro pre i post rfl
  exact h i (by simp) _

lemma Along.invariant {I : σ → Prop} (hstep : ∀ s i, C s i → I s → I (step s i)) {s : σ}
    {is : List ι} (h : Along step C s is) (hs : I s) : I (run step s is) := by
  induction is generalizing s with
  | nil => exact hs
  | cons i is ih => exact ih h.2 (hstep s i h.1 hs)

lemma Along.along {I : σ → Prop} (hstep : ∀ s i, C s i → I s → D s i ∧ I (step s i)) {s : σ}
    {is : List ι} (h : Along step C s is) (hs : I s) : Along step D s is := by
  induction is generalizing s with
  | nil => exact along_nil s
  | cons i is ih =>
    obtain ⟨hd, hi⟩ := hstep s i h.1 hs
    exact ⟨hd, ih h.2 hi⟩

lemma along_iff_of_invariant {I : σ → Prop} (hiff : ∀ s i, I s → (C s i ↔ D s i))
    (hstep : ∀ s i, I s → C s i → I (step s i)) {s : σ} (hs : I s) (is : List ι) :
    Along step C s is ↔ Along step D s is := by
  induction is generalizing s with
  | nil => simp
  | cons i is ih =>
    rw [along_cons, along_cons, ← hiff s i hs]
    exact and_congr_right fun hc => ih (hstep s i hs hc)

lemma along_congr (h : ∀ s i, C s i ↔ D s i) (s : σ) (is : List ι) :
    Along step C s is ↔ Along step D s is := by
  induction is generalizing s with
  | nil => simp
  | cons i is ih => simp only [along_cons, h, ih]

lemma invariant_iff_along {I : σ → Prop} (hstep : ∀ s i, I s → (I (step s i) ↔ C s i)) {s : σ} (hs : I s)
    (is : List ι) : (∀ pre, pre <+: is → I (run step s pre)) ↔ Along step C s is := by
  induction is generalizing s with
  | nil =>
    refine iff_of_true (fun pre hpre => ?_) (along_nil s)
    rw [List.prefix_nil.mp hpre]
    exact hs
  | cons i is ih =>
    rw [along_cons]
    constructor
    · intro h
      have hfirst : I (step s i) := h [i] (List.prefix_append [i] is)
      refine ⟨(hstep s i hs).mp hfirst, (ih hfirst).mp fun pre hpre => ?_⟩
      exact h (i :: pre) (List.cons_prefix_cons.mpr ⟨rfl, hpre⟩)
    · rintro ⟨hc, hrest⟩ pre hpre
      cases pre with
      | nil => exact hs
      | cons j pre =>
        obtain ⟨rfl, htail⟩ := List.cons_prefix_cons.mp hpre
        exact (ih ((hstep s j hs).mpr hc)).mpr hrest pre htail

end Along

def Sometime (step : σ → ι → σ) (H : σ → ι → Prop) (s : σ) (is : List ι) : Prop :=
  ∃ pre i post, is = pre ++ i :: post ∧ H (run step s pre) i

section Sometime

variable {step : σ → ι → σ} {H G : σ → ι → Prop} {s : σ} {is : List ι}

lemma Sometime.append (h : Sometime step H s is) (js : List ι) : Sometime step H s (is ++ js) := by
  obtain ⟨pre, i, post, rfl, hi⟩ := h
  exact ⟨pre, i, post ++ js, by simp, hi⟩

lemma Sometime.last {i : ι} (h : H (run step s is) i) : Sometime step H s (is ++ [i]) :=
  ⟨is, i, [], rfl, h⟩

lemma Sometime.mono (h : Sometime step H s is) (himp : ∀ t i, H t i → G t i) : Sometime step G s is := by
  obtain ⟨pre, i, post, his, hi⟩ := h
  exact ⟨pre, i, post, his, himp _ i hi⟩

lemma sometime_of_changed {β : Type*} {f : σ → β} {I : σ → Prop} (hinv : ∀ t i, I t → I (step t i))
    (hkeep : ∀ t i, I t → ¬ H t i → f (step t i) = f t) (hs : I s) (h : f (run step s is) ≠ f s) :
    Sometime step H s is := by
  by_contra hnever
  have hquiet : Along step (fun t i => ¬ H t i) s is :=
    (along_iff_forall s is).mpr fun pre i post his hi => hnever ⟨pre, i, post, his, hi⟩
  have hsame : ∀ t i, ¬ H t i → I t ∧ f t = f s → I (step t i) ∧ f (step t i) = f s := fun t i hi ht =>
    ⟨hinv t i ht.1, (hkeep t i ht.1 hi).trans ht.2⟩
  exact h (hquiet.invariant hsame ⟨hs, rfl⟩).2

end Sometime

end Secupload.Library
