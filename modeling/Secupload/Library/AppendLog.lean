import Secupload.Library.Runs
import Mathlib.Data.List.Basic

/-! A log that words are appended to in the order they come, and that closes when its size
is exactly the one declared for it. -/

namespace Secupload.Library

structure AppendLog (α : Type*) where
  stored : List α
  closed : Bool

namespace AppendLog

variable {α : Type*}

def new : AppendLog α := ⟨[], false⟩

def append (n : ℕ) (l : AppendLog α) (w : List α) : AppendLog α :=
  if l.closed then l else ⟨l.stored ++ w, decide ((l.stored ++ w).length = n)⟩

section Runs

variable {n : ℕ} {l : AppendLog α}

lemma run_closed (h : l.closed = true) (ws : List (List α)) : run (append n) l ws = l := by
  induction ws with
  | nil => rfl
  | cons w ws ih => rw [run_cons, append, if_pos h, ih]

lemma run_closes {pre : List (List α)} (hopen : l.closed = false) (hpre : pre ≠ [])
    (hsize : (l.stored ++ pre.flatten).length = n) (post : List (List α)) :
    run (append n) l (pre ++ post) = ⟨l.stored ++ pre.flatten, true⟩ := by
  induction pre generalizing l with
  | nil => exact (hpre rfl).elim
  | cons w pre ih =>
    rw [List.cons_append, run_cons, append, if_neg (by simp [hopen])]
    by_cases hfull : (l.stored ++ w).length = n
    · have hrest : pre.flatten = [] := by
        rw [List.flatten_cons, ← List.append_assoc, List.length_append] at hsize
        exact List.eq_nil_of_length_eq_zero (by omega)
      rw [decide_eq_true hfull, run_closed rfl, List.flatten_cons, hrest, List.append_nil]
    · have hpre' : pre ≠ [] := by
        rintro rfl
        exact hfull (by simpa using hsize)
      rw [decide_eq_false hfull]
      rw [List.flatten_cons, ← List.append_assoc] at hsize ⊢
      exact ih rfl hpre' hsize

lemma run_open {ws : List (List α)} (hopen : l.closed = false)
    (hsize : ∀ pre post, ws = pre ++ post → pre ≠ [] → (l.stored ++ pre.flatten).length ≠ n) :
    run (append n) l ws = ⟨l.stored ++ ws.flatten, false⟩ := by
  induction ws generalizing l with
  | nil =>
    rw [run_nil, List.flatten_nil, List.append_nil, ← hopen]
  | cons w ws ih =>
    have hfirst : (l.stored ++ w).length ≠ n := by
      simpa using hsize [w] ws rfl (List.cons_ne_nil _ _)
    rw [run_cons, append, if_neg (by simp [hopen]), decide_eq_false hfirst, List.flatten_cons,
      ← List.append_assoc]
    apply ih rfl
    intro pre post hws _ hfull
    refine hsize (w :: pre) post (by rw [hws]; rfl) (List.cons_ne_nil _ _) ?_
    rw [List.flatten_cons, ← List.append_assoc]
    exact hfull

lemma run_new (n : ℕ) (ws : List (List α)) :
    (∃ pre post, ws = pre ++ post ∧ pre ≠ [] ∧ pre.flatten.length = n ∧
      run (append n) new ws = ⟨pre.flatten, true⟩) ∨
    ((∀ pre post, ws = pre ++ post → pre ≠ [] → pre.flatten.length ≠ n) ∧
      run (append n) new ws = ⟨ws.flatten, false⟩) := by
  by_cases h : ∃ pre post, ws = pre ++ post ∧ pre ≠ [] ∧ pre.flatten.length = n
  · obtain ⟨pre, post, rfl, hpre, hsize⟩ := h
    exact Or.inl ⟨pre, post, rfl, hpre, hsize, run_closes (l := new) rfl hpre hsize post⟩
  · refine Or.inr ⟨fun pre post hws hpre hsize => h ⟨pre, post, hws, hpre, hsize⟩, ?_⟩
    exact run_open (l := new) rfl fun pre post hws hpre hsize => h ⟨pre, post, hws, hpre, hsize⟩

lemma run_new_eq_iff {ws : List (List α)} {content : List α} :
    run (append content.length) new ws = ⟨content, true⟩ ↔
      ∃ pre post, ws = pre ++ post ∧ pre ≠ [] ∧ pre.flatten = content := by
  constructor
  · intro h
    rcases run_new content.length ws with ⟨pre, post, hws, hpre, _, hrun⟩ | ⟨_, hrun⟩
    · rw [h] at hrun
      exact ⟨pre, post, hws, hpre, (congrArg stored hrun).symm⟩
    · rw [h] at hrun
      cases congrArg closed hrun
  · rintro ⟨pre, post, rfl, hpre, rfl⟩
    exact run_closes (l := new) rfl hpre rfl post

end Runs

end AppendLog

end Secupload.Library
