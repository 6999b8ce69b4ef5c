import Secupload.Library.Segments

/-! Loops that handle every entry they read. A handler that raises ends the loop, and what it has
changed before stays changed. -/

namespace Secupload.Library

variable {φ β ε ε' α τ : Type} {T : Transport φ β}

def Reader.serve (r : Reader T ε α) (handle : τ → α → τ × Bool) (t : τ) (s : T.Socket) : τ :=
  match _hread : r.read s with
  | (.error _, _) => t
  | (.ok a, s') => if (handle t a).2 then r.serve handle (handle t a).1 s' else (handle t a).1
termination_by (T.pending s).length
decreasing_by exact r.consumes (by assumption)

def serveAll (handle : τ → α → τ × Bool) : τ → List α → τ
  | t, [] => t
  | t, a :: as => if (handle t a).2 then serveAll handle (handle t a).1 as else (handle t a).1

variable {r : Reader T ε α} {parse : Parser ε' β α} {handle : τ → α → τ × Bool}

lemma Reader.serve_raises {s s' : T.Socket} {e : ε} (h : r.read s = (.error e, s')) (t : τ) :
    r.serve handle t s = t := by
  rw [Reader.serve]
  split
  · rfl
  · rename_i h'
    rw [h] at h'
    cases (Prod.mk.inj h').1

lemma Reader.serve_reads {s s' : T.Socket} {a : α} (h : r.read s = (.ok a, s')) (t : τ) :
    r.serve handle t s =
      if (handle t a).2 then r.serve handle (handle t a).1 s' else (handle t a).1 := by
  rw [Reader.serve]
  split
  · rename_i h'
    rw [h] at h'
    cases (Prod.mk.inj h').1
  · rename_i h'
    rw [h] at h'
    obtain ⟨ha, rfl⟩ := Prod.mk.inj h'
    obtain rfl := Except.ok.inj ha
    rfl

lemma Reader.serve_eq (hr : T.Follows r.read parse) {words : List (List β)} {items : List α}
    (hwords : List.Forall₂ (Reads parse) words items) {tail : List β} {e : ε'}
    (htail : parse.run tail = .error e) (t : τ) {s : T.Socket}
    (hs : T.pending s = words.flatten ++ tail) : r.serve handle t s = serveAll handle t items := by
  induction hwords generalizing t s with
  | nil =>
    obtain ⟨e', s', hread⟩ := (hr s).2 e (by rw [hs]; exact htail)
    rw [Reader.serve_raises hread, serveAll]
  | @cons word item words items hword _ ih =>
    rw [List.flatten_cons, List.append_assoc] at hs
    obtain ⟨s', hread, hrest⟩ := (hr s).1 item (words.flatten ++ tail) (by rw [hs]; exact hword _)
    rw [Reader.serve_reads hread, serveAll]
    split
    · exact ih _ hrest
    · rfl

lemma exists_words (hconsumes : ∀ s a rest, parse.run s = .ok (a, rest) →
    ∃ word, s = word ++ rest ∧ word ≠ [] ∧ Reads parse word a) (s : List β) :
    ∃ words items rest e, s = words.flatten ++ rest ∧ List.Forall₂ (Reads parse) words items ∧
      parse.run rest = .error e := by
  induction hlength : s.length using Nat.strong_induction_on generalizing s with
  | _ length ih =>
    cases hparse : parse.run s with
    | error e => exact ⟨[], [], s, e, rfl, .nil, hparse⟩
    | ok r =>
      obtain ⟨word, rfl, hne, hreads⟩ := hconsumes s r.1 r.2 hparse
      have hpos := List.length_pos_iff.mpr hne
      obtain ⟨words, items, rest, e, hrest, hwords, he⟩ :=
        ih r.2.length (by rw [← hlength, List.length_append]; omega) r.2 rfl
      refine ⟨word :: words, r.1 :: items, rest, e, ?_, .cons hreads hwords, he⟩
      rw [List.flatten_cons, List.append_assoc, ← hrest]

end Secupload.Library
