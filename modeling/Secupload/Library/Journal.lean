import Secupload.Library.Runs

/-! Systems that write a trail of events beside their state, and when a view of the state can be
rebuilt from the trail alone. -/

namespace Secupload.Library

structure Journal (σ ι ε : Type*) where
  step : σ → ι → σ
  trail : σ → List ε
  grows : ∀ s i, trail s <+: trail (step s i)

namespace Journal

variable {σ ι ε τ : Type*} (J : Journal σ ι ε)

def emitted (s : σ) (i : ι) : List ε := (J.trail (J.step s i)).drop (J.trail s).length

lemma trail_step (s : σ) (i : ι) : J.trail (J.step s i) = J.trail s ++ J.emitted s i := by
  obtain ⟨events, hevents⟩ := J.grows s i
  rw [emitted, ← hevents, List.drop_left]

lemma emitted_of_append {s : σ} {i : ι} {events : List ε} (h : J.trail (J.step s i) = J.trail s ++ events) :
    J.emitted s i = events := by
  rw [J.trail_step] at h
  exact List.append_cancel_left h

section Replay

variable (view : σ → τ) (apply : τ → ε → τ) (initial : τ)

def Rebuilds (s : σ) : Prop := view s = (J.trail s).foldl apply initial

def Accounts (s : σ) (i : ι) : Prop := view (J.step s i) = (J.emitted s i).foldl apply (view s)

variable {view apply initial}

lemma rebuilds_step {s : σ} (h : J.Rebuilds view apply initial s) (i : ι) :
    J.Rebuilds view apply initial (J.step s i) ↔ J.Accounts view apply s i := by
  rw [Rebuilds, Accounts, J.trail_step, List.foldl_append, ← h]

theorem rebuilds_run_iff {Inv : σ → Prop} {C : σ → ι → Prop} (hinv : ∀ s i, Inv s → Inv (J.step s i))
    (hiff : ∀ s i, Inv s → (J.Accounts view apply s i ↔ C s i)) {s : σ} (hs : Inv s)
    (h : J.Rebuilds view apply initial s) (is : List ι) :
    (∀ pre, pre <+: is → J.Rebuilds view apply initial (run J.step s pre)) ↔ Along J.step C s is := by
  have hstep : ∀ s i, Inv s ∧ J.Rebuilds view apply initial s →
      (Inv (J.step s i) ∧ J.Rebuilds view apply initial (J.step s i) ↔ C s i) := fun s i hi => by
    rw [and_iff_right (hinv s i hi.1), J.rebuilds_step hi.2, hiff s i hi.1]
  rw [← invariant_iff_along hstep ⟨hs, h⟩ is]
  refine forall₂_congr fun pre _ => ?_
  exact (and_iff_right (run_invariant hinv hs pre)).symm

end Replay

end Journal

end Secupload.Library
