import Secupload.Library.BigEndian

namespace Secupload.Library

variable {ε β : Type} {α γ : Type}

abbrev Parser (ε β α : Type) := StateT (List β) (Except ε) α

def Reads (p : Parser ε β α) (w : List β) (a : α) : Prop :=
  ∀ rest, p.run (w ++ rest) = .ok (a, rest)

lemma Reads.pure (a : α) : Reads (pure a : Parser ε β α) [] a := by
  intro rest
  rfl

lemma Reads.bind {p : Parser ε β α} {f : α → Parser ε β γ} {v w : List β} {a : α} {c : γ}
    (hp : Reads p v a) (hf : Reads (f a) w c) : Reads (p >>= f) (v ++ w) c := by
  intro rest
  rw [StateT.run_bind, List.append_assoc, hp (w ++ rest)]
  exact hf rest

lemma Reads.map {p : Parser ε β α} {w : List β} {a : α} (hp : Reads p w a) (f : α → γ) :
    Reads (f <$> p) w (f a) := by
  intro rest
  rw [StateT.run_map, hp rest]
  rfl

lemma Reads.last {p : Parser ε β α} {f : α → Parser ε β γ} {w : List β} {a : α} {c : γ}
    (hp : Reads p w a) (hf : Reads (f a) [] c) : Reads (p >>= f) w c := by
  simpa using hp.bind hf

lemma Reads.run {p : Parser ε β α} {w : List β} {a : α} (hp : Reads p w a) :
    p.run w = .ok (a, []) := by
  simpa using hp []

def takeN (short : List β → ε) (n : ℕ) : Parser ε β (List β) := fun w =>
  if w.length < n then .error (short w) else .ok (w.take n, w.drop n)

lemma reads_takeN (short : List β → ε) (w : List β) : Reads (takeN short w.length) w w := by
  intro rest
  simp [takeN, StateT.run]

lemma takeN_run (short : List β → ε) (n : ℕ) (w : List β) :
    (takeN short n).run w = if w.length < n then .error (short w) else .ok (w.take n, w.drop n) :=
  rfl

lemma takeN_eq_ok {short : List β → ε} {n : ℕ} {w a rest : List β} :
    (takeN short n).run w = .ok (a, rest) ↔ n ≤ w.length ∧ a = w.take n ∧ rest = w.drop n := by
  rw [takeN_run]
  split
  · refine iff_of_false (by simp) ?_
    omega
  · rename_i hlen
    simp only [Except.ok.injEq, Prod.mk.injEq]
    constructor
    · rintro ⟨rfl, rfl⟩
      exact ⟨not_lt.mp hlen, rfl, rfl⟩
    · rintro ⟨_, rfl, rfl⟩
      exact ⟨rfl, rfl⟩

lemma parser_bind_eq_ok {p : Parser ε β α} {f : α → Parser ε β γ} {w rest : List β} {c : γ} :
    (p >>= f).run w = .ok (c, rest) ↔
      ∃ a mid, p.run w = .ok (a, mid) ∧ (f a).run mid = .ok (c, rest) := by
  rw [StateT.run_bind]
  cases p.run w with
  | error e =>
    refine iff_of_false ?_ ?_
    · intro h
      cases h
    · rintro ⟨a, mid, h, _⟩
      cases h
  | ok r =>
    constructor
    · intro h
      exact ⟨r.1, r.2, rfl, h⟩
    · rintro ⟨a, mid, h, hf⟩
      obtain rfl := Except.ok.inj h
      exact hf

lemma parser_pure_eq_ok {w rest : List β} {a b : α} :
    (pure a : Parser ε β α).run w = .ok (b, rest) ↔ b = a ∧ rest = w := by
  rw [StateT.run_pure]
  constructor
  · intro h
    obtain ⟨rfl, rfl⟩ := Prod.mk.inj (Except.ok.inj h)
    exact ⟨rfl, rfl⟩
  · rintro ⟨rfl, rfl⟩
    rfl

end Secupload.Library
