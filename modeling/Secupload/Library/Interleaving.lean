import Mathlib.Data.List.Nodup
import Mathlib.Logic.Function.Basic
import Secupload.Library.Runs

/-! Calls that read a view of a shared store and write their result back in a later step. -/

namespace Secupload.Library

-- `plan i v` is what call `i` writes back after it has read `v`; it is `none` when the call raises
structure Calls (σ ν ω ι : Type*) where
  view : σ → ν
  plan : ι → ν → Option ω
  write : σ → ω → σ

namespace Calls

variable {σ ν ω ι : Type*}

inductive Phase (ν ω : Type*)
  | idle
  | pending (seen : ν) (change : ω)
  | failed
  | done

structure World (σ ν ω ι : Type*) where
  store : σ
  phase : ι → Phase ν ω
  order : List ι

inductive Event (ι : Type*)
  | read (i : ι)
  | commit (i : ι)

def start (s : σ) : World σ ν ω ι := ⟨s, fun _ => .idle, []⟩

variable [DecidableEq ι] (C : Calls σ ν ω ι)

def step (w : World σ ν ω ι) : Event ι → World σ ν ω ι
  | .read i =>
    match w.phase i with
    | .idle =>
      match C.plan i (C.view w.store) with
      | none => { w with phase := Function.update w.phase i .failed }
      | some change =>
        { w with phase := Function.update w.phase i (.pending (C.view w.store) change) }
    | _ => w
  | .commit i =>
    match w.phase i with
    | .pending _ change =>
      { store := C.write w.store change
        phase := Function.update w.phase i .done
        order := w.order ++ [i] }
    | _ => w

def Fresh (w : World σ ν ω ι) : Event ι → Prop
  | .read _ => True
  | .commit i =>
    match w.phase i with
    | .pending seen _ => C.view w.store = seen
    | _ => True

instance [DecidableEq ν] (w : World σ ν ω ι) : ∀ ev, Decidable (C.Fresh w ev)
  | .read _ => inferInstanceAs (Decidable True)
  | .commit i =>
    match h : w.phase i with
    | .pending seen _ => decidable_of_iff (C.view w.store = seen) (by simp [Fresh, h])
    | .idle | .failed | .done => isTrue (by simp [Fresh, h])

def succeeds (s : σ) (i : ι) : Prop := C.plan i (C.view s) ≠ none

def alone (s : σ) (i : ι) : σ :=
  match C.plan i (C.view s) with
  | none => s
  | some change => C.write s change

variable {C} in
lemma step_cases (w : World σ ν ω ι) (ev : Event ι) :
    C.step w ev = w ∨
    (∃ i, w.phase i = .idle ∧ C.plan i (C.view w.store) = none ∧
      C.step w ev = { w with phase := Function.update w.phase i .failed }) ∨
    (∃ i change, w.phase i = .idle ∧ C.plan i (C.view w.store) = some change ∧
      C.step w ev =
        { w with phase := Function.update w.phase i (.pending (C.view w.store) change) }) ∨
    (∃ i seen change, ev = .commit i ∧ w.phase i = .pending seen change ∧
      C.step w ev =
        { store := C.write w.store change
          phase := Function.update w.phase i .done
          order := w.order ++ [i] }) := by
  cases ev with
  | read i =>
    cases hphase : w.phase i with
    | idle =>
      cases hplan : C.plan i (C.view w.store) with
      | none => exact Or.inr (Or.inl ⟨i, hphase, hplan, by simp only [step, hphase, hplan]⟩)
      | some change =>
        exact Or.inr (Or.inr (Or.inl ⟨i, change, hphase, hplan, by simp only [step, hphase, hplan]⟩))
    | pending seen change => exact Or.inl (by simp only [step, hphase])
    | failed => exact Or.inl (by simp only [step, hphase])
    | done => exact Or.inl (by simp only [step, hphase])
  | commit i =>
    cases hphase : w.phase i with
    | pending seen change =>
      exact Or.inr (Or.inr (Or.inr ⟨i, seen, change, rfl, hphase, by simp only [step, hphase]⟩))
    | idle => exact Or.inl (by simp only [step, hphase])
    | failed => exact Or.inl (by simp only [step, hphase])
    | done => exact Or.inl (by simp only [step, hphase])

structure Serial (s₀ : σ) (w : World σ ν ω ι) : Prop where
  store : w.store = run C.alone s₀ w.order
  succeeded : Along C.alone C.succeeds s₀ w.order
  nodup : w.order.Nodup
  done : ∀ i, i ∈ w.order ↔ w.phase i = .done
  planned : ∀ i seen change, w.phase i = .pending seen change → C.plan i seen = some change

omit [DecidableEq ι] in
lemma serial_start (s : σ) : C.Serial s (start s) where
  store := rfl
  succeeded := trivial
  nodup := List.nodup_nil
  done := by simp [start]
  planned := by simp [start]

section Step

variable {C} {s₀ : σ} {w : World σ ν ω ι}

lemma Serial.record (h : C.Serial s₀ w) {i : ι} {phase : Phase ν ω} (hidle : w.phase i = .idle)
    (hdone : phase ≠ .done)
    (hplan : ∀ seen change, phase = .pending seen change → C.plan i seen = some change) :
    C.Serial s₀ { w with phase := Function.update w.phase i phase } where
  store := h.store
  succeeded := h.succeeded
  nodup := h.nodup
  done := by
    intro j
    rw [h.done]
    by_cases hj : j = i
    · subst hj
      simp [hidle, hdone]
    · simp [hj]
  planned := by
    intro j seen change hj
    by_cases hji : j = i
    · subst hji
      exact hplan seen change (by simpa using hj)
    · exact h.planned j seen change (by simpa [hji] using hj)

lemma Serial.commit (h : C.Serial s₀ w) {i : ι} {seen : ν} {change : ω}
    (hpending : w.phase i = .pending seen change) (hfresh : C.view w.store = seen) :
    C.alone w.store i = C.write w.store change ∧
    C.Serial s₀
      { store := C.write w.store change
        phase := Function.update w.phase i .done
        order := w.order ++ [i] } := by
  have hplan : C.plan i (C.view w.store) = some change := by
    rw [hfresh]
    exact h.planned i seen change hpending
  have halone : C.alone w.store i = C.write w.store change := by
    rw [alone, hplan]
  refine ⟨halone, ?_, ?_, ?_, ?_, ?_⟩
  · rw [run_append, ← h.store, run_cons, run_nil, halone]
  · rw [along_append, ← h.store]
    refine ⟨h.succeeded, ?_, trivial⟩
    rw [succeeds, hplan]
    exact Option.some_ne_none _
  · change (w.order ++ [i]).Nodup
    rw [List.nodup_append_comm, List.singleton_append, List.nodup_cons]
    refine ⟨fun hi => ?_, h.nodup⟩
    rw [(h.done i).mp hi] at hpending
    cases hpending
  · intro j
    by_cases hj : j = i
    · simp [hj]
    · simp [hj, h.done]
  · intro j seen' change' hj
    by_cases hji : j = i
    · subst hji
      simp at hj
    · exact h.planned j seen' change' (by simpa [hji] using hj)

lemma Serial.step (h : C.Serial s₀ w) {ev : Event ι} (hfresh : C.Fresh w ev) :
    ((C.step w ev).store = w.store ∨ ∃ i, (C.step w ev).store = C.alone w.store i) ∧
      C.Serial s₀ (C.step w ev) := by
  rcases step_cases w ev with
    he | ⟨i, hidle, _, he⟩ | ⟨i, change, hidle, hplan, he⟩ | ⟨i, seen, change, rfl, hpending, he⟩
  · rw [he]
    exact ⟨Or.inl rfl, h⟩
  · rw [he]
    exact ⟨Or.inl rfl, h.record hidle (by simp) (by simp)⟩
  · rw [he]
    refine ⟨Or.inl rfl, h.record hidle (by simp) ?_⟩
    intro seen change' hphase
    obtain ⟨rfl, rfl⟩ := Phase.pending.inj hphase
    exact hplan
  · rw [he]
    obtain ⟨halone, hserial⟩ := h.commit hpending (by simpa [Fresh, hpending] using hfresh)
    exact ⟨Or.inr ⟨i, halone.symm⟩, hserial⟩

end Step

variable {C} in
lemma serial_run {s₀ : σ} {events : List (Event ι)} (h : Along C.step C.Fresh (start s₀) events) :
    C.Serial s₀ (run C.step (start s₀) events) :=
  h.invariant (I := C.Serial s₀) (fun _ _ hf hs => (hs.step hf).2) (C.serial_start s₀)

variable {C} in
lemma relation_run {R : σ → σ → Prop} (hrefl : ∀ s, R s s) (htrans : ∀ s t u, R s t → R t u → R s u)
    (hcall : ∀ s i, R s (C.alone s i)) {s₀ : σ} {pre post : List (Event ι)}
    (h : Along C.step C.Fresh (start s₀) (pre ++ post)) :
    R (run C.step (start s₀) pre).store (run C.step (start s₀) (pre ++ post)).store := by
  rw [along_append] at h
  rw [run_append]
  have hinv := h.2.invariant
    (I := fun w => C.Serial s₀ w ∧ R (run C.step (start s₀) pre).store w.store)
    (fun w ev hf hw => ?_) ⟨serial_run h.1, hrefl _⟩
  · exact hinv.2
  · obtain ⟨hstore, hserial⟩ := hw.1.step hf
    refine ⟨hserial, ?_⟩
    rcases hstore with he | ⟨i, he⟩
    · rw [he]
      exact hw.2
    · rw [he]
      exact htrans _ _ _ hw.2 (hcall w.store i)

end Calls

end Secupload.Library
