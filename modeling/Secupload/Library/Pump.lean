import Secupload.Library.Runs

namespace Secupload.Library

variable {φ : Type}

structure Pump (φ : Type) where
  live : Bool
  out : List φ

-- one pass of the loop: what is received, and whether its check and its send succeed
structure Turn (φ : Type) where
  input : Option φ
  passes : Bool
  sent : Bool

def Turn.Copies (turn : Turn φ) (a : φ) : Prop :=
  turn.input = some a ∧ turn.passes = true ∧ turn.sent = true

namespace Pump

def start : Pump φ := ⟨true, []⟩

def turn (p : Pump φ) (t : Turn φ) : Pump φ :=
  match t.input with
  | none => { p with live := false }
  | some a =>
    if p.live = true ∧ t.passes = true ∧ t.sent = true then { p with out := p.out ++ [a] }
    else { p with live := false }

section Turns

variable {p : Pump φ} {t : Turn φ} {ts : List (Turn φ)}

lemma copies_or_stops : (p.live = true ∧ ∃ a, t.Copies a) ∨ (p.live = false ∨ ∀ a, ¬ t.Copies a) := by
  by_cases h : ∃ a, t.Copies a
  · cases hlive : p.live with
    | true => exact Or.inl ⟨rfl, h⟩
    | false => exact Or.inr (Or.inl rfl)
  · exact Or.inr (Or.inr (not_exists.mp h))

lemma turn_copies {a : φ} (hlive : p.live = true) (h : t.Copies a) :
    p.turn t = ⟨true, p.out ++ [a]⟩ := by
  simp only [turn, h.1, hlive, h.2.1, h.2.2, and_self, if_true]

lemma turn_stops (h : p.live = false ∨ ∀ a, ¬ t.Copies a) : p.turn t = ⟨false, p.out⟩ := by
  simp only [turn]
  split
  · rfl
  · rename_i a ha
    rw [if_neg]
    rintro ⟨hlive, hcopies⟩
    rcases h with h | h
    · rw [h] at hlive
      cases hlive
    · exact h a ⟨ha, hcopies⟩

lemma turn_live : (p.turn t).live = true ↔ p.live = true ∧ ∃ a, t.Copies a := by
  rcases copies_or_stops (p := p) (t := t) with ⟨hlive, a, ha⟩ | h
  · rw [turn_copies hlive ha]
    exact iff_of_true rfl ⟨hlive, a, ha⟩
  · rw [turn_stops h]
    refine iff_of_false (by simp) ?_
    rintro ⟨hlive, a, ha⟩
    rcases h with h | h
    · rw [h] at hlive
      cases hlive
    · exact h a ha

lemma turn_out {a : φ} (h : (p.turn t).out = p.out ++ [a]) : p.live = true ∧ t.Copies a := by
  rcases copies_or_stops (p := p) (t := t) with ⟨hlive, b, hb⟩ | hstops
  · rw [turn_copies hlive hb] at h
    obtain rfl := List.singleton_inj.mp (List.append_cancel_left h)
    exact ⟨hlive, hb⟩
  · rw [turn_stops hstops] at h
    simp at h

lemma run_live : (run turn p ts).live = true ↔ p.live = true ∧ ∀ t ∈ ts, ∃ a, t.Copies a := by
  induction ts generalizing p with
  | nil => simp
  | cons t ts ih => rw [run_cons, ih, turn_live, List.forall_mem_cons, and_assoc]

lemma run_out_of_stopped (h : p.live = false) : (run turn p ts).out = p.out := by
  induction ts generalizing p with
  | nil => rfl
  | cons t ts ih =>
    have hstops := turn_stops (t := t) (Or.inl h)
    rw [run_cons, ih (by rw [hstops]), hstops]

lemma run_out_prefix : p.out <+: (run turn p ts).out := by
  induction ts generalizing p with
  | nil => exact List.prefix_refl _
  | cons t ts ih =>
    refine List.IsPrefix.trans ?_ ih
    rcases copies_or_stops (p := p) (t := t) with ⟨hlive, a, ha⟩ | h
    · rw [turn_copies hlive ha]
      exact List.prefix_append _ _
    · exact ⟨[], by rw [turn_stops h, List.append_nil]⟩

end Turns

end Pump

end Secupload.Library
