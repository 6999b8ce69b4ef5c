import Secupload.Library.Parsing

/-! Readers of a stream that arrives in segments of any size: what they return depends on the
entries of the stream alone. -/

namespace Secupload.Library

variable {φ β ε ε' α γ τ : Type}

-- `pending` is what is still to arrive before the stream ends or fails; a receive returns a first
-- part of it, which is empty only where nothing is pending
structure Transport (φ β : Type) where
  Socket : Type
  pending : Socket → List β
  recv : ℕ → Socket → Except φ (List β) × Socket
  ordered : ∀ {n s part s'}, recv n s = (.ok part, s') → part ++ pending s' = pending s ∧ part.length ≤ n
  progress : ∀ {n s}, 0 < n → pending s ≠ [] → ∃ part s', recv n s = (.ok part, s') ∧ part ≠ []

def recvSegment (fault : Option φ) (n : ℕ) : List (List β) → Except φ (List β) × List (List β)
  | [] => (fault.elim (.ok []) .error, [])
  | [] :: later => recvSegment fault n later
  | (b :: bs) :: later => (.ok ((b :: bs).take n), (b :: bs).drop n :: later)

def segmented (fault : Option φ) : Transport φ β where
  Socket := List (List β)
  pending := List.flatten
  recv := recvSegment fault
  ordered := by
    intro n segments part rest h
    fun_induction recvSegment fault n segments with
    | case1 =>
      obtain ⟨hpart, rfl⟩ := Prod.mk.inj h
      cases fault with
      | none => cases hpart; simp
      | some fault => cases hpart
    | case2 later ih => exact ih h
    | case3 b bs later =>
      obtain ⟨hpart, rfl⟩ := Prod.mk.inj h
      obtain rfl := Except.ok.inj hpart
      rw [List.flatten_cons, List.flatten_cons, ← List.append_assoc, List.take_append_drop]
      exact ⟨rfl, List.length_take_le _ _⟩
  progress := by
    intro n segments hn hpending
    fun_induction recvSegment fault n segments with
    | case1 => exact (hpending rfl).elim
    | case2 later ih => exact ih hpending
    | case3 b bs later =>
      refine ⟨_, _, rfl, ?_⟩
      rw [ne_eq, List.take_eq_nil_iff, not_or]
      exact ⟨hn.ne', List.cons_ne_nil b bs⟩

variable {T : Transport φ β}

def Transport.recvLoop (T : Transport φ β) (raised : Option φ → ε) (n : ℕ) (got : List β)
    (s : T.Socket) : Except ε (List β) × T.Socket :=
  if got.length < n then
    match T.recv (n - got.length) s with
    | (.error fault, s) => (.error (raised (some fault)), s)
    | (.ok part, s) => if part = [] then (.error (raised none), s) else T.recvLoop raised n (got ++ part) s
  else (.ok got, s)
termination_by n - got.length
decreasing_by
  rename_i hpart
  have hpos := List.length_pos_iff.mpr hpart
  rw [List.length_append]
  omega

def Transport.Follows (T : Transport φ β) (read : T.Socket → Except ε α × T.Socket)
    (parse : Parser ε' β α) : Prop :=
  ∀ s, (∀ a rest, parse.run (T.pending s) = .ok (a, rest) →
      ∃ s', read s = (.ok a, s') ∧ T.pending s' = rest) ∧
    ∀ e, parse.run (T.pending s) = .error e → ∃ e' s', read s = (.error e', s')

section Readers

variable {raised : Option φ → ε} {n : ℕ} {s : T.Socket}

variable (raised s) in
lemma recvLoop_ok (got : List β) (hgot : got.length ≤ n) (hn : n ≤ got.length + (T.pending s).length) :
    ∃ s', T.recvLoop raised n got s = (.ok (got ++ (T.pending s).take (n - got.length)), s') ∧
      T.pending s' = (T.pending s).drop (n - got.length) := by
  induction hneed : n - got.length using Nat.strong_induction_on generalizing got s with
  | _ need ih =>
    rw [Transport.recvLoop]
    by_cases hshort : got.length < n
    · rw [if_pos hshort]
      have hpending : T.pending s ≠ [] := by
        rw [← List.length_pos_iff]
        omega
      obtain ⟨part, s', hrecv, hpart⟩ := T.progress (Nat.sub_pos_of_lt hshort) hpending
      obtain ⟨hsplit, hlength⟩ := T.ordered hrecv
      have hpos := List.length_pos_iff.mpr hpart
      rw [hrecv]
      dsimp only
      rw [if_neg hpart]
      rw [← hsplit, List.length_append] at hn
      obtain ⟨s'', hloop, hrest⟩ := ih (n - (got ++ part).length) (by simp only [List.length_append]; omega)
        s' (got ++ part) (by rw [List.length_append]; omega) (by rw [List.length_append]; omega) rfl
      have hsub : n - (got ++ part).length = need - part.length := by
        rw [List.length_append]
        omega
      rw [hneed] at hlength
      have htake : (T.pending s).take need = part ++ (T.pending s').take (need - part.length) := by
        rw [← hsplit, List.take_append, List.take_of_length_le (i := need) hlength]
      have hdrop : (T.pending s).drop need = (T.pending s').drop (need - part.length) := by
        rw [← hsplit, List.drop_append, List.drop_of_length_le (i := need) hlength, List.nil_append]
      rw [hsub, List.append_assoc] at hloop
      rw [hsub] at hrest
      rw [htake, hdrop]
      exact ⟨s'', hloop, hrest⟩
    · rw [if_neg hshort]
      have hzero : need = 0 := by omega
      rw [hzero, List.take_zero, List.append_nil, List.drop_zero]
      exact ⟨s, rfl, rfl⟩

variable (raised) in
lemma recvLoop_error (got : List β) {s : T.Socket} (hn : got.length + (T.pending s).length < n) :
    ∃ fault s', T.recvLoop raised n got s = (.error (raised fault), s') := by
  induction hneed : n - got.length using Nat.strong_induction_on generalizing got s with
  | _ need ih =>
    rw [Transport.recvLoop, if_pos (by omega)]
    cases hrecv : T.recv (n - got.length) s with
    | mk result s' =>
      cases result with
      | error fault => exact ⟨some fault, s', rfl⟩
      | ok part =>
        dsimp only
        by_cases hpart : part = []
        · rw [if_pos hpart]
          exact ⟨none, s', rfl⟩
        · obtain ⟨hsplit, hlength⟩ := T.ordered hrecv
          have hpos := List.length_pos_iff.mpr hpart
          rw [if_neg hpart]
          rw [← hsplit, List.length_append] at hn
          exact ih (n - (got ++ part).length) (by simp only [List.length_append]; omega)
            (got ++ part) (by rw [List.length_append]; omega) rfl

variable (T raised n) in
lemma follows_recvLoop (short : List β → ε') :
    T.Follows (T.recvLoop raised n []) (takeN short n) := by
  intro s
  constructor
  · intro a rest h
    obtain ⟨hn, rfl, rfl⟩ := takeN_eq_ok.mp h
    exact recvLoop_ok raised s [] (Nat.zero_le n) (by rw [List.length_nil]; omega)
  · intro e h
    rw [takeN_run] at h
    split at h
    · rename_i hn
      have hlack : ([] : List β).length + (T.pending s).length < n := by
        rw [List.length_nil]
        omega
      obtain ⟨fault, s', hloop⟩ := recvLoop_error raised [] hlack
      exact ⟨_, s', hloop⟩
    · cases h

lemma follows_pure (a : α) : T.Follows (fun s => (.ok a, s) : T.Socket → Except ε α × T.Socket)
    (pure a : Parser ε' β α) := by
  intro s
  constructor
  · intro b rest h
    obtain ⟨rfl, rfl⟩ := parser_pure_eq_ok.mp h
    exact ⟨s, rfl, rfl⟩
  · intro e h
    cases h

lemma follows_throw (e : ε) (e' : ε') :
    T.Follows (fun s => (.error e, s) : T.Socket → Except ε α × T.Socket)
      (throw e' : Parser ε' β α) := by
  intro s
  constructor
  · intro a rest h
    cases h
  · intro _ _
    exact ⟨e, s, rfl⟩

lemma Transport.Follows.bind {read : T.Socket → Except ε α × T.Socket} {parse : Parser ε' β α}
    (next : α → T.Socket → Except ε γ × T.Socket) {parseNext : α → Parser ε' β γ}
    (hread : T.Follows read parse) (hnext : ∀ a, T.Follows (next a) (parseNext a))
    {both : T.Socket → Except ε γ × T.Socket}
    (hok : ∀ s a s', read s = (.ok a, s') → both s = next a s')
    (herror : ∀ s e s', read s = (.error e, s') → both s = (.error e, s')) :
    T.Follows both (parse >>= parseNext) := by
  intro s
  constructor
  · intro c rest h
    obtain ⟨a, mid, ha, hc⟩ := parser_bind_eq_ok.mp h
    obtain ⟨s', hs', rfl⟩ := (hread s).1 a mid ha
    rw [hok s a s' hs']
    exact (hnext a s').1 c rest hc
  · intro e h
    rw [StateT.run_bind] at h
    cases ha : parse.run (T.pending s) with
    | error e =>
      obtain ⟨e', s', hs'⟩ := (hread s).2 e ha
      exact ⟨e', s', herror s e' s' hs'⟩
    | ok r =>
      obtain ⟨s', hs', hmid⟩ := (hread s).1 r.1 r.2 ha
      rw [ha] at h
      rw [hok s r.1 s' hs']
      refine (hnext r.1 s').2 e ?_
      rw [hmid]
      exact h

lemma Transport.Follows.parsed {read : T.Socket → Except ε α × T.Socket} {parse : Parser ε' β α}
    (h : T.Follows read parse) {s s' : T.Socket} {a : α} (hread : read s = (.ok a, s')) :
    parse.run (T.pending s) = .ok (a, T.pending s') := by
  cases hparse : parse.run (T.pending s) with
  | error e =>
    obtain ⟨e', s'', he⟩ := (h s).2 e hparse
    cases hread.symm.trans he
  | ok r =>
    obtain ⟨s'', hs'', hrest⟩ := (h s).1 r.1 r.2 hparse
    obtain ⟨ha, rfl⟩ := Prod.mk.inj (hread.symm.trans hs'')
    rw [Except.ok.inj ha, hrest]

lemma recvLoop_raised {e : ε} {s' : T.Socket} (h : T.recvLoop raised n [] s = (.error e, s')) :
    ∃ fault, e = raised fault := by
  by_cases hn : n ≤ ([] : List β).length + (T.pending s).length
  · obtain ⟨s'', hok, _⟩ := recvLoop_ok raised s [] (Nat.zero_le n) hn
    cases h.symm.trans hok
  · obtain ⟨fault, s'', herror⟩ := recvLoop_error raised [] (not_le.mp hn)
    exact ⟨fault, Except.error.inj (congrArg Prod.fst (h.symm.trans herror))⟩

end Readers

structure Reader (T : Transport φ β) (ε α : Type) where
  read : T.Socket → Except ε α × T.Socket
  consumes : ∀ {s a s'}, read s = (.ok a, s') → (T.pending s').length < (T.pending s).length

def Reader.loop (r : Reader T ε α) (body : τ → α → Option τ) (t : τ) (s : T.Socket) : τ × Option ε :=
  match _hread : r.read s with
  | (.error e, _) => (t, some e)
  | (.ok a, s') =>
    match body t a with
    | none => (t, none)
    | some t' => r.loop body t' s'
termination_by (T.pending s).length
decreasing_by exact r.consumes (by assumption)

def through (body : τ → α → Option τ) : τ → List α → τ × Bool
  | t, [] => (t, true)
  | t, a :: as =>
    match body t a with
    | none => (t, false)
    | some t' => through body t' as

section Loops

variable {r : Reader T ε α} {parse : Parser ε' β α} {body : τ → α → Option τ}

lemma Reader.loop_raises {s s' : T.Socket} {e : ε} (h : r.read s = (.error e, s')) (t : τ) :
    r.loop body t s = (t, some e) := by
  rw [Reader.loop]
  split
  · rename_i h'
    rw [h] at h'
    obtain ⟨he, _⟩ := Prod.mk.inj h'
    rw [Except.error.inj he]
  · rename_i h'
    rw [h] at h'
    cases (Prod.mk.inj h').1

lemma Reader.loop_reads {s s' : T.Socket} {a : α} (h : r.read s = (.ok a, s')) (t : τ) :
    r.loop body t s =
      match body t a with
      | none => (t, none)
      | some t' => r.loop body t' s' := by
  rw [Reader.loop]
  split
  · rename_i h'
    rw [h] at h'
    cases (Prod.mk.inj h').1
  · rename_i h'
    rw [h] at h'
    obtain ⟨ha, rfl⟩ := Prod.mk.inj h'
    obtain rfl := Except.ok.inj ha
    rfl

lemma Reader.loop_eq (hr : T.Follows r.read parse) {words : List (List β)} {items : List α}
    (hwords : List.Forall₂ (Reads parse) words items) {tail : List β} {e : ε'}
    (htail : parse.run tail = .error e) (t : τ) {s : T.Socket}
    (hs : T.pending s = words.flatten ++ tail) :
    (r.loop body t s).1 = (through body t items).1 ∧
      ((r.loop body t s).2.isSome = (through body t items).2) := by
  induction hwords generalizing t s with
  | nil =>
    obtain ⟨e', s', hread⟩ := (hr s).2 e (by rw [hs]; exact htail)
    rw [Reader.loop_raises hread]
    exact ⟨rfl, rfl⟩
  | @cons word item words items hword _ ih =>
    rw [List.flatten_cons, List.append_assoc] at hs
    obtain ⟨s', hread, hrest⟩ := (hr s).1 item (words.flatten ++ tail) (by rw [hs]; exact hword _)
    rw [Reader.loop_reads hread, through]
    cases body t item with
    | none => exact ⟨rfl, rfl⟩
    | some t' => exact ih t' hrest

lemma Reader.loop_raised {s : T.Socket} {t : τ} {e : ε} (h : (r.loop body t s).2 = some e) :
    ∃ s s', r.read s = (.error e, s') := by
  induction hlength : (T.pending s).length using Nat.strong_induction_on generalizing t s with
  | _ length ih =>
    cases hread : r.read s with
    | mk result s' =>
      cases result with
      | error e' =>
        rw [loop_raises hread] at h
        obtain rfl := Option.some.inj h
        exact ⟨s, s', hread⟩
      | ok a =>
        rw [loop_reads hread] at h
        cases hbody : body t a with
        | none =>
          rw [hbody] at h
          cases h
        | some t' =>
          rw [hbody] at h
          exact ih _ (hlength ▸ r.consumes hread) h rfl

lemma through_append (items before : List α) :
    through (fun (as : List α) a => some (as ++ [a])) before items = (before ++ items, true) := by
  induction items generalizing before with
  | nil => rw [through, List.append_nil]
  | cons a items ih => exact (ih _).trans (by rw [List.append_assoc, List.singleton_append])

end Loops

end Secupload.Library
