import Secupload.Library.Runs

/-! A client that waits for the reply to each of its requests, a server that handles requests one
by one, and two first-in first-out relays between them that may stop at any time. Every run gives
the results of a run in which each exchange is a single step. -/

namespace Secupload.Library

inductive Silence
  | closed
  | timedOut
  deriving DecidableEq

structure RequestReply (σ τ χ φ ω δ ι : Type*) where
  -- the frame that a call sends, or the result of a call that sends nothing
  send : χ → σ → Except ω φ × σ
  receive : χ → σ → Except Silence φ → ω × σ
  -- without a reply the server closes the connection
  handle : τ → δ → φ → Option φ × τ
  other : τ → ι → τ

inductive Arrival
  | both
  | requestOnly (silence : Silence)
  | neither (silence : Silence)
  deriving DecidableEq

namespace RequestReply

variable {σ τ χ φ ω δ ι : Type*} (K : RequestReply σ τ χ φ ω δ ι)

structure Link (σ τ χ ω : Type*) where
  client : σ
  server : τ
  log : List (χ × ω)

inductive Step (χ δ ι : Type*)
  | exchange (x : χ) (arrival : Arrival) (d : δ)
  | other (i : ι)

def Step.other? : Step χ δ ι → Option ι
  | .exchange _ _ _ => none
  | .other i => some i

def heard : Option φ → Except Silence φ
  | none => .error .closed
  | some reply => .ok reply

def transmit (t : τ) (frame : φ) (d : δ) : Arrival → Except Silence φ × τ
  | .both => (heard (K.handle t d frame).1, (K.handle t d frame).2)
  | .requestOnly silence => (.error silence, (K.handle t d frame).2)
  | .neither silence => (.error silence, t)

def link (l : Link σ τ χ ω) : Step χ δ ι → Link σ τ χ ω
  | .exchange x arrival d =>
    match K.send x l.client with
    | (.error result, client) => { l with client, log := l.log ++ [(x, result)] }
    | (.ok frame, client) =>
      let (reply, server) := K.transmit l.server frame d arrival
      let (result, client) := K.receive x client reply
      ⟨client, server, l.log ++ [(x, result)]⟩
  | .other i => { l with server := K.other l.server i }

-- the system in which the frames travel: what was written on each way, and how far its readers are
structure Async (σ τ χ φ ω : Type*) where
  client : σ
  server : τ
  log : List (χ × ω)
  waiting : Option χ
  closed : Bool
  -- a call has stopped waiting, and left its reply to be read by the next one
  late : Bool
  serving : Bool
  sent : List φ
  arrived : ℕ
  handled : ℕ
  replies : List φ
  returned : ℕ
  received : ℕ

def Async.start (client : σ) (server : τ) : Async σ τ χ φ ω :=
  { client, server, log := [], waiting := none, closed := false, late := false, serving := true, sent := []
    arrived := 0, handled := 0, replies := [], returned := 0, received := 0 }

inductive Event (χ δ ι : Type*)
  | call (x : χ)
  | up
  | handle (d : δ)
  | down
  | receive
  | lose
  | timeout
  | other (i : ι)

def Event.other? : Event χ δ ι → Option ι
  | .other i => some i
  | _ => none

def finish (c : Async σ τ χ φ ω) (x : χ) (reply : Except Silence φ) : Async σ τ χ φ ω :=
  let (result, client) := K.receive x c.client reply
  { c with client, log := c.log ++ [(x, result)], waiting := none }

def step (c : Async σ τ χ φ ω) : Event χ δ ι → Async σ τ χ φ ω
  | .call x =>
    if c.waiting.isSome || c.closed then c
    else
      match K.send x c.client with
      | (.error result, client) => { c with client, log := c.log ++ [(x, result)] }
      | (.ok frame, client) => { c with client, waiting := some x, sent := c.sent ++ [frame] }
  | .up => if c.arrived < c.sent.length then { c with arrived := c.arrived + 1 } else c
  | .handle d =>
    if c.serving && decide (c.handled < c.arrived) then
      match c.sent[c.handled]? with
      | none => c
      | some frame =>
        match K.handle c.server d frame with
        | (none, server) => { c with server, handled := c.handled + 1, serving := false }
        | (some reply, server) =>
          { c with server, handled := c.handled + 1, replies := c.replies ++ [reply] }
    else c
  | .down => if c.returned < c.replies.length then { c with returned := c.returned + 1 } else c
  | .receive =>
    match c.waiting with
    | none => c
    | some x =>
      if c.received < c.returned then
        match c.replies[c.received]? with
        | none => c
        | some reply => { K.finish c x (.ok reply) with received := c.received + 1 }
      else c
  | .lose =>
    match c.waiting with
    | none => c
    | some x => { K.finish c x (.error .closed) with closed := true }
  | .timeout =>
    match c.waiting with
    | none => c
    | some x => { K.finish c x (.error .timedOut) with late := true }
  | .other i => { c with server := K.other c.server i }

def Missed (Ok : Arrival → Prop) (silence : Silence) : Prop := Ok (.requestOnly silence) ∧ Ok (.neither silence)

structure Allowed (Ok : Arrival → Prop) (c : Async σ τ χ φ ω) (e : Event χ δ ι) : Prop where
  lose : e = .lose → c.serving = false ∨ Missed Ok .closed
  timeout : e = .timeout → Missed Ok .timedOut
  call : ∀ x, e = .call x → c.late = false

section Reaches

def Reaches (start : Link σ τ χ ω) (Ok : Arrival → Prop) (is : List ι) (l : Link σ τ χ ω) : Prop :=
  ∃ steps : List (Step χ δ ι), run K.link start steps = l ∧ steps.filterMap Step.other? = is ∧
    ∀ x arrival d, .exchange x arrival d ∈ steps → Ok arrival

variable {K} {start l : Link σ τ χ ω} {Ok : Arrival → Prop} {is : List ι}

lemma Reaches.nil : K.Reaches start Ok [] start :=
  ⟨[], rfl, rfl, fun _ _ _ h => by cases h⟩

lemma Reaches.snoc (h : K.Reaches start Ok is l) (s : Step χ δ ι)
    (hs : ∀ x arrival d, s = .exchange x arrival d → Ok arrival) :
    K.Reaches start Ok (is ++ (Step.other? s).toList) (K.link l s) := by
  obtain ⟨steps, hrun, hothers, hok⟩ := h
  refine ⟨steps ++ [s], ?_, ?_, fun x arrival d hmem => ?_⟩
  · rw [run_append, hrun]
    rfl
  · rw [List.filterMap_append, hothers]
    cases hs : Step.other? s <;> simp [hs]
  · rcases List.mem_append.mp hmem with hmem | hmem
    · exact hok x arrival d hmem
    · exact hs x arrival d (List.mem_singleton.mp hmem).symm

lemma Reaches.other (h : K.Reaches start Ok is l) (i : ι) :
    K.Reaches start Ok (is ++ [i]) { l with server := K.other l.server i } :=
  h.snoc (.other i) fun _ _ _ he => by cases he

lemma Reaches.exchange (h : K.Reaches start Ok is l) (x : χ) {arrival : Arrival} (d : δ) (hok : Ok arrival) :
    K.Reaches start Ok is (K.link l (.exchange x arrival d)) := by
  have hsnoc := h.snoc (.exchange x arrival d) fun y a e he => by
    obtain ⟨_, rfl, _⟩ := Step.exchange.inj he
    exact hok
  rwa [show (Step.other? (.exchange x arrival d : Step χ δ ι)).toList = [] from rfl, List.append_nil] at hsnoc

lemma link_sent {x : χ} {frame : φ} {client : σ} {reply : Except Silence φ} {server : τ} {arrival : Arrival} {d : δ}
    (hsend : K.send x l.client = (.ok frame, client))
    (htransmit : K.transmit l.server frame d arrival = (reply, server)) :
    K.link l (.exchange x arrival d) =
      ⟨(K.receive x client reply).2, server, l.log ++ [(x, (K.receive x client reply).1)]⟩ := by
  simp only [link, hsend, htransmit]

end Reaches

section Phases

-- how far the exchange of the client has come, and the single-step system with it
inductive Phase (start : Link σ τ χ ω) (Ok : Arrival → Prop) (is : List ι) (c : Async σ τ χ φ ω) : Prop
  | settled (hwaiting : c.waiting = none) (hhandled : c.handled = c.sent.length)
      (hopen : c.closed = false → c.late = false → c.serving = true ∧ c.received = c.replies.length)
      (hreaches : K.Reaches start Ok is ⟨c.client, c.server, c.log⟩)
  | requested (x : χ) (client : σ) (frame : φ) (hwaiting : c.waiting = some x)
      (hhandled : c.handled + 1 = c.sent.length) (hframe : c.sent[c.handled]? = some frame)
      (hserving : c.serving = true) (hreceived : c.received = c.replies.length)
      (hsend : K.send x client = (.ok frame, c.client))
      (hreaches : K.Reaches start Ok is ⟨client, c.server, c.log⟩)
  | served (x : χ) (hwaiting : c.waiting = some x) (hhandled : c.handled = c.sent.length)
      (hreceived : c.replies.length = if c.serving then c.received + 1 else c.received)
      (hreaches : ∀ arrival reply, Ok arrival →
        arrival = .both ∧ reply = heard c.replies[c.received]? ∨
          (∃ silence, arrival = .requestOnly silence ∧ reply = .error silence) →
        K.Reaches start Ok is
          ⟨(K.receive x c.client reply).2, c.server, c.log ++ [(x, (K.receive x c.client reply).1)]⟩)
  | abandoned (x : χ) (client waited : σ) (frame : φ) (log : List (χ × ω)) (silence : Silence)
      (hwaiting : c.waiting = none) (hover : c.closed = true ∨ c.late = true)
      (hhandled : c.handled + 1 = c.sent.length) (hframe : c.sent[c.handled]? = some frame)
      (hok : Missed Ok silence) (hsend : K.send x client = (.ok frame, waited))
      (hclient : c.client = (K.receive x waited (.error silence)).2)
      (hlog : c.log = log ++ [(x, (K.receive x waited (.error silence)).1)])
      (hreaches : K.Reaches start Ok is ⟨client, c.server, log⟩)

variable {K} {start : Link σ τ χ ω} {Ok : Arrival → Prop} {is : List ι} {c : Async σ τ χ φ ω}

lemma Phase.call (h : K.Phase start Ok is c) (hboth : Ok .both) [Nonempty δ] (x : χ) (hlate : c.late = false) :
    K.Phase start Ok is (K.step c (.call x)) := by
  rw [step]
  split_ifs with hbusy
  · exact h
  · simp only [Bool.or_eq_true, not_or, Bool.not_eq_true, Option.isSome_eq_false_iff,
      Option.isNone_iff_eq_none] at hbusy
    obtain ⟨hidle, hclosed⟩ := hbusy
    cases h with
    | settled _ hhandled hopen hreaches =>
      obtain ⟨hserving, hreceived⟩ := hopen hclosed hlate
      split
      · rename_i result client hsend
        refine .settled hidle hhandled hopen ?_
        have hnext := hreaches.exchange x (Classical.arbitrary δ) hboth
        simpa only [link, hsend] using hnext
      · rename_i frame client hsend
        refine .requested x c.client frame rfl ?_ ?_ hserving hreceived hsend hreaches
        · simp [hhandled]
        · simp [hhandled]
    | requested y _ _ hwaiting | served y hwaiting => cases hidle.symm.trans hwaiting
    | abandoned _ _ _ _ _ _ _ hover =>
      rcases hover with hclosed' | hlate'
      · cases hclosed.symm.trans hclosed'
      · cases hlate.symm.trans hlate'

lemma Phase.handle (h : K.Phase start Ok is c) (d : δ) : K.Phase start Ok is (K.step c (.handle d)) := by
  rw [step]
  split_ifs with hturn
  · split
    · exact h
    · rename_i frame hnext
      have hlt : c.handled < c.sent.length := (List.getElem?_eq_some_iff.mp hnext).1
      cases h with
      | settled _ hhandled | served _ _ hhandled => omega
      | requested x client frame' hwaiting hhandled hframe hserving hreceived hsend hreaches =>
        obtain rfl := Option.some.inj (hnext.symm.trans hframe)
        split
        · rename_i server hhandle
          refine .served x hwaiting hhandled hreceived.symm fun arrival reply hok hreply => ?_
          have hnext := hreaches.exchange x d hok
          have htransmit : K.transmit c.server frame d arrival = (reply, server) := by
            rcases hreply with ⟨rfl, rfl⟩ | ⟨silence, rfl, rfl⟩
            · rw [List.getElem?_eq_none (show c.replies.length ≤ c.received by omega)]
              simp only [transmit, hhandle]
            · simp only [transmit, hhandle]
          rwa [link_sent hsend htransmit] at hnext
        · rename_i reply server hhandle
          refine .served x hwaiting hhandled ?_ fun arrival answer hok hanswer => ?_
          · simp [hserving, hreceived]
          · have hnext := hreaches.exchange x d hok
            have htransmit : K.transmit c.server frame d arrival = (answer, server) := by
              rcases hanswer with ⟨rfl, rfl⟩ | ⟨silence, rfl, rfl⟩
              · have hlast : (c.replies ++ [reply])[c.received]? = some reply := by simp [hreceived]
                dsimp only
                rw [hlast]
                simp only [transmit, hhandle]
              · simp only [transmit, hhandle]
            rwa [link_sent hsend htransmit] at hnext
      | abandoned x client waited frame' log silence hwaiting hover hhandled hframe hok hsend hclient hlog hreaches =>
        obtain rfl := Option.some.inj (hnext.symm.trans hframe)
        have hnext := hreaches.exchange x d hok.1
        have htransmit : K.transmit c.server frame d (.requestOnly silence) =
            (.error silence, (K.handle c.server d frame).2) := rfl
        rw [link_sent hsend htransmit, ← hclient, ← hlog] at hnext
        have hopen : c.closed = false → c.late = false → False := by
          intro hopen hpunctual
          rcases hover with hclosed | hlate
          · cases hopen.symm.trans hclosed
          · cases hpunctual.symm.trans hlate
        split
        · rename_i server hhandle
          rw [hhandle] at hnext
          exact .settled hwaiting hhandled (fun hc hl => (hopen hc hl).elim) hnext
        · rename_i reply server hhandle
          rw [hhandle] at hnext
          exact .settled hwaiting hhandled (fun hc hl => (hopen hc hl).elim) hnext
  · exact h

lemma Phase.receive (h : K.Phase start Ok is c) (hboth : Ok .both) :
    K.Phase start Ok is (K.step c .receive) := by
  rw [step]
  split
  · exact h
  · rename_i x hwaiting
    split_ifs
    · split
      · exact h
      · rename_i reply hnext
        have hlt : c.received < c.replies.length := (List.getElem?_eq_some_iff.mp hnext).1
        cases h with
        | settled hidle | abandoned _ _ _ _ _ _ hidle => cases hwaiting.symm.trans hidle
        | requested _ _ _ _ _ _ _ hreceived => omega
        | served y hwaiting' hhandled hreceived hreaches =>
          obtain rfl := Option.some.inj (hwaiting.symm.trans hwaiting')
          have hheard : heard c.replies[c.received]? = .ok reply := by rw [hnext]; rfl
          refine .settled rfl hhandled (fun _ _ => ?_) (hreaches .both _ hboth (Or.inl ⟨rfl, hheard.symm⟩))
          cases hserving : c.serving with
          | false =>
            rw [hserving] at hreceived
            simp only [Bool.false_eq_true, if_false] at hreceived
            omega
          | true =>
            rw [hserving] at hreceived
            exact ⟨hserving, hreceived.symm⟩
    · exact h

lemma Phase.leave (h : K.Phase start Ok is c) {x : χ} (hwaiting : c.waiting = some x) {silence : Silence}
    {closed late : Bool} (hover : closed = true ∨ late = true) (hmissed : Missed Ok silence) :
    K.Phase start Ok is { K.finish c x (.error silence) with closed, late } := by
  cases h with
  | settled hidle | abandoned _ _ _ _ _ _ hidle => cases hwaiting.symm.trans hidle
  | requested y client frame hwaiting' hhandled hframe hserving hreceived hsend hreaches =>
    obtain rfl := Option.some.inj (hwaiting.symm.trans hwaiting')
    exact .abandoned x client c.client frame c.log silence rfl hover hhandled hframe hmissed hsend rfl rfl hreaches
  | served y hwaiting' hhandled hreceived hreaches =>
    obtain rfl := Option.some.inj (hwaiting.symm.trans hwaiting')
    refine .settled rfl hhandled (fun hc hl => ?_) (hreaches _ _ hmissed.1 (Or.inr ⟨silence, rfl, rfl⟩))
    rcases hover with rfl | rfl
    · cases hc
    · cases hl

lemma Phase.lose (h : K.Phase start Ok is c) (hboth : Ok .both)
    (hallowed : c.serving = false ∨ Missed Ok .closed) :
    K.Phase start Ok is (K.step c (.lose : Event χ δ ι)) := by
  rw [step]
  split
  · exact h
  · rename_i x hwaiting
    rcases hallowed with hstopped | hmissed
    · cases h with
      | settled hidle | abandoned _ _ _ _ _ _ hidle => cases hwaiting.symm.trans hidle
      | requested _ _ _ _ _ _ hserving => cases hserving.symm.trans hstopped
      | served y hwaiting' hhandled hreceived hreaches =>
        obtain rfl := Option.some.inj (hwaiting.symm.trans hwaiting')
        rw [hstopped] at hreceived
        simp only [Bool.false_eq_true, if_false] at hreceived
        have hheard : heard c.replies[c.received]? = .error .closed := by
          rw [List.getElem?_eq_none (by omega)]
          rfl
        exact .settled rfl hhandled (fun hopen => by cases hopen) (hreaches .both _ hboth (Or.inl ⟨rfl, hheard.symm⟩))
    · exact h.leave hwaiting (Or.inl rfl) hmissed

lemma Phase.timeout (h : K.Phase start Ok is c) (hmissed : Missed Ok .timedOut) :
    K.Phase start Ok is (K.step c (.timeout : Event χ δ ι)) := by
  rw [step]
  split
  · exact h
  · rename_i x hwaiting
    exact h.leave hwaiting (Or.inr rfl) hmissed

lemma Phase.other (h : K.Phase start Ok is c) (i : ι) :
    K.Phase start Ok (is ++ [i]) (K.step c (.other i)) := by
  cases h with
  | settled hwaiting hhandled hopen hreaches => exact .settled hwaiting hhandled hopen (hreaches.other i)
  | requested x client frame hwaiting hhandled hframe hserving hreceived hsend hreaches =>
    exact .requested x client frame hwaiting hhandled hframe hserving hreceived hsend (hreaches.other i)
  | served x hwaiting hhandled hreceived hreaches =>
    exact .served x hwaiting hhandled hreceived fun arrival reply hok hreply =>
      (hreaches arrival reply hok hreply).other i
  | abandoned x client waited frame log silence hwaiting hover hhandled hframe hok hsend hclient hlog hreaches =>
    exact .abandoned x client waited frame log silence hwaiting hover hhandled hframe hok hsend hclient hlog
      (hreaches.other i)

lemma Phase.move (h : K.Phase start Ok is c) (arrived returned : ℕ) :
    K.Phase start Ok is { c with arrived, returned } := by
  cases h with
  | settled hwaiting hhandled hopen hreaches => exact .settled hwaiting hhandled hopen hreaches
  | requested x client frame hwaiting hhandled hframe hserving hreceived hsend hreaches =>
    exact .requested x client frame hwaiting hhandled hframe hserving hreceived hsend hreaches
  | served x hwaiting hhandled hreceived hreaches => exact .served x hwaiting hhandled hreceived hreaches
  | abandoned x client waited frame log silence hwaiting hover hhandled hframe hok hsend hclient hlog hreaches =>
    exact .abandoned x client waited frame log silence hwaiting hover hhandled hframe hok hsend hclient hlog hreaches

lemma Phase.step (h : K.Phase start Ok is c) (hboth : Ok .both) [Nonempty δ] (e : Event χ δ ι)
    (hallowed : Allowed Ok c e) : K.Phase start Ok (is ++ e.other?.toList) (K.step c e) := by
  cases e with
  | other i => exact h.other i
  | call x =>
    rw [show (Event.other? (.call x : Event χ δ ι)).toList = [] from rfl, List.append_nil]
    exact h.call hboth x (hallowed.call x rfl)
  | handle d =>
    rw [show (Event.other? (.handle d : Event χ δ ι)).toList = [] from rfl, List.append_nil]
    exact h.handle d
  | receive =>
    rw [show (Event.other? (.receive : Event χ δ ι)).toList = [] from rfl, List.append_nil]
    exact h.receive hboth
  | lose =>
    rw [show (Event.other? (.lose : Event χ δ ι)).toList = [] from rfl, List.append_nil]
    exact h.lose hboth (hallowed.lose rfl)
  | timeout =>
    rw [show (Event.other? (.timeout : Event χ δ ι)).toList = [] from rfl, List.append_nil]
    exact h.timeout (hallowed.timeout rfl)
  | up =>
    rw [show (Event.other? (.up : Event χ δ ι)).toList = [] from rfl, List.append_nil, RequestReply.step]
    split_ifs
    · exact h.move _ _
    · exact h
  | down =>
    rw [show (Event.other? (.down : Event χ δ ι)).toList = [] from rfl, List.append_nil, RequestReply.step]
    split_ifs
    · exact h.move _ _
    · exact h

lemma Phase.run (h : K.Phase start Ok is c) (hboth : Ok .both) [Nonempty δ] {es : List (Event χ δ ι)}
    (hallowed : Along K.step (Allowed Ok) c es) :
    K.Phase start Ok (is ++ es.filterMap Event.other?) (Library.run K.step c es) := by
  induction es generalizing c is with
  | nil => rwa [List.filterMap_nil, List.append_nil]
  | cons e es ih =>
    have hnext := ih (h.step hboth e hallowed.1) hallowed.2
    rw [List.append_assoc] at hnext
    have hothers : (e :: es).filterMap Event.other? = e.other?.toList ++ es.filterMap Event.other? := by
      cases he : e.other? <;> simp [he]
    rwa [hothers]

lemma Phase.reaches (h : K.Phase start Ok is c) [Nonempty δ] (hwaiting : c.waiting = none) :
    K.Reaches start Ok is ⟨c.client, c.server, c.log⟩ := by
  cases h with
  | settled _ _ _ hreaches => exact hreaches
  | requested _ _ _ hbusy | served _ hbusy => cases hwaiting.symm.trans hbusy
  | abandoned x client waited frame log silence _ _ _ _ hok hsend hclient hlog hreaches =>
    have hlast := hreaches.exchange x (Classical.arbitrary δ) hok.2
    have htransmit : K.transmit c.server frame (Classical.arbitrary δ) (.neither silence) =
        (.error silence, c.server) := rfl
    rwa [link_sent hsend htransmit, ← hclient, ← hlog] at hlast

end Phases

theorem linearizes (K : RequestReply σ τ χ φ ω δ ι) [Nonempty δ] {Ok : Arrival → Prop} (hboth : Ok .both)
    (client : σ) (server : τ) (es : List (Event χ δ ι))
    (hallowed : Along K.step (Allowed Ok) (Async.start client server) es)
    (hwaiting : (run K.step (Async.start client server) es).waiting = none) :
    K.Reaches ⟨client, server, []⟩ Ok (es.filterMap Event.other?)
      ⟨(run K.step (Async.start client server) es).client,
        (run K.step (Async.start client server) es).server,
        (run K.step (Async.start client server) es).log⟩ := by
  have hstart : K.Phase ⟨client, server, []⟩ Ok [] (Async.start client server) :=
    .settled rfl rfl (fun _ _ => ⟨rfl, rfl⟩) .nil
  have hrun := hstart.run hboth hallowed
  rw [List.nil_append] at hrun
  exact hrun.reaches hwaiting

section Progress

structure Between (c : Async σ τ χ φ ω) : Prop where
  handled : c.handled ≤ c.arrived
  arrived : c.arrived ≤ c.sent.length
  received : c.received ≤ c.returned
  returned : c.returned ≤ c.replies.length

-- how many of its four turns the exchange that waits still needs: `up`, `handle`, `down`, `receive`
def Async.needs (c : Async σ τ χ φ ω) : ℕ :=
  if c.handled < c.sent.length then if c.handled = c.arrived then 4 else 3
  else if c.received = c.returned then 2 else 1

def Within (n k : ℕ) (c : Async σ τ χ φ ω) : Prop :=
  n < c.log.length ∨ c.serving = false ∨ n = c.log.length ∧ c.waiting.isSome = true ∧ c.needs ≤ k

def Event.Waits (e : Event χ δ ι) : Prop := e ≠ .lose ∧ e ≠ .timeout

def Event.turn : Event χ δ ι → ℕ
  | .up => 4
  | .handle _ => 3
  | .down => 2
  | .receive => 1
  | _ => 0

variable {K} {l : Link σ τ χ ω} {Ok : Arrival → Prop} {is : List ι} {c : Async σ τ χ φ ω} {n k m : ℕ}

lemma Between.start (client : σ) (server : τ) : Between (Async.start client server : Async σ τ χ φ ω) :=
  ⟨Nat.le_refl 0, Nat.le_refl 0, Nat.le_refl 0, Nat.le_refl 0⟩

lemma Between.step (h : Between c) (e : Event χ δ ι) : Between (K.step c e) := by
  obtain ⟨hhandled, harrived, hreceived, hreturned⟩ := h
  cases e with
  | call x =>
    rw [RequestReply.step]
    split_ifs
    · exact ⟨hhandled, harrived, hreceived, hreturned⟩
    · split
      · exact ⟨hhandled, harrived, hreceived, hreturned⟩
      · exact ⟨hhandled, Nat.le_trans harrived (List.prefix_append _ _).length_le, hreceived, hreturned⟩
  | up =>
    rw [RequestReply.step]
    split_ifs with hlt
    · exact ⟨Nat.le_succ_of_le hhandled, hlt, hreceived, hreturned⟩
    · exact ⟨hhandled, harrived, hreceived, hreturned⟩
  | handle d =>
    rw [RequestReply.step]
    split_ifs with hturn
    · have hlt : c.handled < c.arrived := of_decide_eq_true (Bool.and_eq_true_iff.mp hturn).2
      split
      · exact ⟨hhandled, harrived, hreceived, hreturned⟩
      · split
        · exact ⟨hlt, harrived, hreceived, hreturned⟩
        · exact ⟨hlt, harrived, hreceived, Nat.le_trans hreturned (List.prefix_append _ _).length_le⟩
    · exact ⟨hhandled, harrived, hreceived, hreturned⟩
  | down =>
    rw [RequestReply.step]
    split_ifs with hlt
    · exact ⟨hhandled, harrived, Nat.le_succ_of_le hreceived, hlt⟩
    · exact ⟨hhandled, harrived, hreceived, hreturned⟩
  | receive =>
    rw [RequestReply.step]
    split
    · exact ⟨hhandled, harrived, hreceived, hreturned⟩
    · split_ifs with hlt
      · split
        · exact ⟨hhandled, harrived, hreceived, hreturned⟩
        · exact ⟨hhandled, harrived, hlt, hreturned⟩
      · exact ⟨hhandled, harrived, hreceived, hreturned⟩
  | lose | timeout =>
    rw [RequestReply.step]
    split
    · exact ⟨hhandled, harrived, hreceived, hreturned⟩
    · exact ⟨hhandled, harrived, hreceived, hreturned⟩
  | other i => exact ⟨hhandled, harrived, hreceived, hreturned⟩

lemma step_log (c : Async σ τ χ φ ω) (e : Event χ δ ι) : c.log <+: (K.step c e).log := by
  cases e with
  | call x =>
    rw [step]
    split_ifs
    · exact List.prefix_refl _
    · split
      · exact List.prefix_append _ _
      · exact List.prefix_refl _
  | up | handle d | down =>
    rw [step]
    split_ifs
    · repeat' split
      all_goals exact List.prefix_refl _
    · exact List.prefix_refl _
  | receive =>
    rw [step]
    split
    · exact List.prefix_refl _
    · split_ifs
      · split
        · exact List.prefix_refl _
        · exact List.prefix_append _ _
      · exact List.prefix_refl _
  | lose | timeout =>
    rw [step]
    split
    · exact List.prefix_refl _
    · exact List.prefix_append _ _
  | other i => exact List.prefix_refl _

lemma step_serving (h : c.serving = false) (e : Event χ δ ι) : (K.step c e).serving = false := by
  cases e with
  | handle d => rwa [step, h, Bool.false_and, if_neg Bool.false_ne_true]
  | other i => exact h
  | _ =>
    rw [step]
    repeat' split
    all_goals exact h

lemma within_requested (hb : Between c) {x : χ} (hx : c.waiting = some x)
    (hhandled : c.handled + 1 = c.sent.length) {frame : φ} (hframe : c.sent[c.handled]? = some frame)
    (hreceived : c.received = c.replies.length) (hserving : c.serving = true) (hlog : n = c.log.length)
    (hneeds : c.needs ≤ k) (e : Event χ δ ι) (hwaits : e.Waits) (hk : k ≤ m ∨ e.turn = k ∧ k ≤ m + 1) :
    Within n m (K.step c e) := by
  obtain ⟨hb₁, hb₂, hb₃, hb₄⟩ := hb
  have hwaiting : c.waiting.isSome = true := by rw [hx]; rfl
  have hfour : c.needs = if c.handled = c.arrived then 4 else 3 := if_pos (by omega)
  have hthree : 3 ≤ c.needs := by
    rw [hfour]
    split_ifs <;> omega
  have hsame : c.needs ≠ e.turn → Within n m c := fun hne => Or.inr (Or.inr ⟨hlog, hwaiting, by omega⟩)
  cases e with
  | lose => exact (hwaits.1 rfl).elim
  | timeout => exact (hwaits.2 rfl).elim
  | call y =>
    rw [step, hwaiting, Bool.true_or, if_pos rfl]
    exact hsame (show c.needs ≠ 0 by omega)
  | up =>
    change _ ∨ 4 = k ∧ _ at hk
    by_cases hlt : c.arrived < c.sent.length
    · rw [step, if_pos hlt]
      rw [if_pos (by omega)] at hfour
      refine Or.inr (Or.inr ⟨hlog, hwaiting, ?_⟩)
      rw [Async.needs, if_pos (show c.handled < c.sent.length by omega), if_neg (by dsimp only; omega)]
      omega
    · rw [step, if_neg hlt]
      rw [if_neg (by omega)] at hfour
      exact hsame (show c.needs ≠ 4 by omega)
  | handle d =>
    change _ ∨ 3 = k ∧ _ at hk
    by_cases hlt : c.handled < c.arrived
    · simp only [step, hserving, decide_eq_true hlt, Bool.and_self, if_true, hframe]
      split
      · exact Or.inr (Or.inl rfl)
      · refine Or.inr (Or.inr ⟨hlog, hwaiting, ?_⟩)
        rw [Async.needs, if_neg (by dsimp only; omega), if_pos (by dsimp only; omega)]
        omega
    · rw [step, decide_eq_false hlt, Bool.and_false, if_neg Bool.false_ne_true]
      rw [if_pos (by omega)] at hfour
      exact hsame (show c.needs ≠ 3 by omega)
  | down =>
    rw [step, if_neg (show ¬ c.returned < c.replies.length by omega)]
    exact hsame (show c.needs ≠ 2 by omega)
  | receive =>
    simp only [step, hx, if_neg (show ¬ c.received < c.returned by omega)]
    exact hsame (show c.needs ≠ 1 by omega)
  | other i => exact hsame (show c.needs ≠ 0 by omega)

lemma within_served (hb : Between c) {x : χ} (hx : c.waiting = some x) (hhandled : c.handled = c.sent.length)
    (hreceived : c.replies.length = c.received + 1) (hlog : n = c.log.length) (hneeds : c.needs ≤ k)
    (e : Event χ δ ι) (hwaits : e.Waits) (hk : k ≤ m ∨ e.turn = k ∧ k ≤ m + 1) : Within n m (K.step c e) := by
  obtain ⟨hb₁, hb₂, hb₃, hb₄⟩ := hb
  have hwaiting : c.waiting.isSome = true := by rw [hx]; rfl
  have htwo : c.needs = if c.received = c.returned then 2 else 1 := if_neg (by omega)
  have hfew : 1 ≤ c.needs ∧ c.needs ≤ 2 := by
    rw [htwo]
    split_ifs <;> omega
  have hsame : c.needs ≠ e.turn → Within n m c := fun hne => Or.inr (Or.inr ⟨hlog, hwaiting, by omega⟩)
  cases e with
  | lose => exact (hwaits.1 rfl).elim
  | timeout => exact (hwaits.2 rfl).elim
  | call y =>
    rw [step, hwaiting, Bool.true_or, if_pos rfl]
    exact hsame (show c.needs ≠ 0 by omega)
  | up =>
    rw [step, if_neg (show ¬ c.arrived < c.sent.length by omega)]
    exact hsame (show c.needs ≠ 4 by omega)
  | handle d =>
    rw [step, decide_eq_false (show ¬ c.handled < c.arrived by omega), Bool.and_false, if_neg Bool.false_ne_true]
    exact hsame (show c.needs ≠ 3 by omega)
  | down =>
    change _ ∨ 2 = k ∧ _ at hk
    by_cases hlt : c.returned < c.replies.length
    · rw [step, if_pos hlt]
      rw [if_pos (by omega)] at htwo
      refine Or.inr (Or.inr ⟨hlog, hwaiting, ?_⟩)
      rw [Async.needs, if_neg (show ¬ c.handled < c.sent.length by omega), if_neg (by dsimp only; omega)]
      omega
    · rw [step, if_neg hlt]
      rw [if_neg (by omega)] at htwo
      exact hsame (show c.needs ≠ 2 by omega)
  | receive =>
    by_cases hlt : c.received < c.returned
    · obtain ⟨reply, hreply⟩ : ∃ reply, c.replies[c.received]? = some reply :=
        ⟨_, List.getElem?_eq_getElem (by omega)⟩
      simp only [step, hx, if_pos hlt, hreply]
      refine Or.inl ?_
      rw [hlog, finish, List.length_append]
      exact Nat.lt_succ_self _
    · simp only [step, hx, if_neg hlt]
      rw [if_pos (by omega)] at htwo
      exact hsame (show c.needs ≠ 1 by omega)
  | other i => exact hsame (show c.needs ≠ 0 by omega)

lemma Phase.within_step (h : K.Phase l Ok is c) (hb : Between c) (hw : Within n k c) (e : Event χ δ ι)
    (hwaits : e.Waits) (hk : k ≤ m ∨ e.turn = k ∧ k ≤ m + 1) : Within n m (K.step c e) := by
  rcases hw with hlog | hserving | ⟨hlog, hwaiting, hneeds⟩
  · exact Or.inl (Nat.lt_of_lt_of_le hlog (step_log c e).length_le)
  · exact Or.inr (Or.inl (step_serving hserving e))
  · by_cases hserving : c.serving = false
    · exact Or.inr (Or.inl (step_serving hserving e))
    rw [Bool.not_eq_false] at hserving
    cases h with
    | settled hidle | abandoned _ _ _ _ _ _ hidle =>
      rw [hidle] at hwaiting
      cases hwaiting
    | requested _ _ _ hx hhandled hframe _ hreceived =>
      exact within_requested hb hx hhandled hframe hreceived hserving hlog hneeds e hwaits hk
    | served _ hx hhandled hreceived =>
      rw [hserving, if_pos rfl] at hreceived
      exact within_served hb hx hhandled hreceived hlog hneeds e hwaits hk

lemma needs_le (c : Async σ τ χ φ ω) : 1 ≤ c.needs ∧ c.needs ≤ 4 := by
  rw [Async.needs]
  split_ifs <;> omega

lemma within_zero (h : Within n 0 c) : n < c.log.length ∨ c.serving = false := by
  rcases h with hlog | hserving | ⟨_, _, hneeds⟩
  · exact Or.inl hlog
  · exact Or.inr hserving
  · have := (needs_le c).1
    omega

lemma step_late {e : Event χ δ ι} (hwaits : e.Waits) : (K.step c e).late = c.late := by
  cases e with
  | timeout => exact (hwaits.2 rfl).elim
  | _ =>
    rw [step]
    repeat' split
    all_goals rfl

lemma Event.Waits.allowed {e : Event χ δ ι} (h : e.Waits) (hlate : c.late = false) : Allowed Ok c e :=
  ⟨fun he => (h.1 he).elim, fun he => (h.2 he).elim, fun _ _ => hlate⟩

lemma allowed_of_waits (hlate : c.late = false) {es : List (Event χ δ ι)} (hwaits : ∀ e ∈ es, e.Waits) :
    Along K.step (Allowed Ok) c es :=
  (along_of_forall (fun e he _ => hwaits e he) c).along (I := fun c => c.late = false)
    (fun _ _ he h => ⟨he.allowed h, (step_late he).trans h⟩) hlate

lemma run_late (hlate : c.late = false) {es : List (Event χ δ ι)} (hwaits : ∀ e ∈ es, e.Waits) :
    (Library.run K.step c es).late = false :=
  (along_of_forall (fun e he _ => hwaits e he) c).invariant (I := fun c => c.late = false)
    (fun _ _ he h => (step_late he).trans h) hlate

lemma Phase.within_run (h : K.Phase l Ok is c) (hboth : Ok .both) [Nonempty δ] (hb : Between c) (hw : Within n k c)
    (hlate : c.late = false) {es turns : List (Event χ δ ι)} (hturns : turns.Sublist es)
    (hwaits : ∀ e ∈ es, e.Waits) (hk : turns.map Event.turn = (List.range' 1 k).reverse) :
    Within n 0 (Library.run K.step c es) := by
  induction hturns generalizing c is k with
  | slnil =>
    have hzero : k = 0 := by simpa using (congrArg List.length hk).symm
    rwa [run_nil, ← hzero]
  | cons e hturns ih =>
    have he := hwaits e List.mem_cons_self
    exact ih (h.step hboth e (he.allowed hlate)) (hb.step e) (h.within_step hb hw e he (Or.inl (Nat.le_refl k)))
      ((step_late he).trans hlate) (fun e he => hwaits e (List.mem_cons_of_mem _ he)) hk
  | cons_cons e hturns ih =>
    have he := hwaits e List.mem_cons_self
    cases k with
    | zero => cases hk
    | succ k =>
      rw [List.range'_concat, List.reverse_append] at hk
      obtain ⟨hturn, hk⟩ := List.cons.inj hk
      refine ih (h.step hboth e (he.allowed hlate)) (hb.step e)
        (h.within_step hb hw e he (Or.inr ⟨?_, Nat.le_refl _⟩)) ((step_late he).trans hlate)
        (fun e he => hwaits e (List.mem_cons_of_mem _ he)) hk
      rw [hturn]
      omega

end Progress

theorem answers (K : RequestReply σ τ χ φ ω δ ι) [Nonempty δ] (client : σ) (server : τ)
    (es es' turns : List (Event χ δ ι)) (hwaits : ∀ e ∈ es ++ es', e.Waits)
    (hwaiting : (run K.step (Async.start client server) es).waiting.isSome = true) (hturns : turns.Sublist es')
    (hfour : turns.map Event.turn = [4, 3, 2, 1]) :
    (run K.step (Async.start client server) es).log.length <
        (run K.step (Async.start client server) (es ++ es')).log.length ∨
      (run K.step (Async.start client server) (es ++ es')).serving = false := by
  have hstart : K.Phase ⟨client, server, []⟩ (fun _ => True) [] (Async.start client server) :=
    .settled rfl rfl (fun _ _ => ⟨rfl, rfl⟩) .nil
  have hfirst : ∀ e ∈ es, e.Waits := fun e he => hwaits e (List.mem_append_left _ he)
  have hphase := hstart.run trivial (allowed_of_waits rfl hfirst)
  have hbetween : Between (run K.step (Async.start client server) es) :=
    run_invariant (fun _ e h => h.step e) (.start client server) es
  have hwithin : Within (run K.step (Async.start client server) es).log.length 4
      (run K.step (Async.start client server) es) := Or.inr (Or.inr ⟨rfl, hwaiting, (needs_le _).2⟩)
  rw [run_append]
  exact within_zero (hphase.within_run trivial hbetween hwithin (run_late rfl hfirst) hturns
    (fun e he => hwaits e (List.mem_append_right _ he)) hfour)

end RequestReply

end Secupload.Library
