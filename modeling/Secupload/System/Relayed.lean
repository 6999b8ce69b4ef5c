import Secupload.Library.RequestReply
import Secupload.Proxy.Validation
import Secupload.System.ReplyKeys
import Secupload.System.Service

/-! One client connection with its proxy between: the session, the two pumps, and the server's
loop, in any order of their steps. -/

namespace Secupload.System

open Library Shared Client Server Proxy

-- what each side has written, how many of its frames the pump has read, and how far its readers are
structure Relayed where
  session : ClientSession
  log : List (Exchange × Except Exn Answer)
  waiting : Option Exchange
  closed : Bool
  -- a call has timed out: its reply, if one comes, is the next that is read
  late : Bool
  server : Connection
  serving : Bool
  tunnel : Tunnel
  taken : Side → ℕ
  sent : List Frame
  handled : ℕ
  replies : List Frame
  received : ℕ

inductive RelayedEvent
  -- a call of the session writes its frame
  | call (x : Exchange)
  -- a pump reads the next frame, if there is one, and sends it on or fails to
  | pump (src : Side) (now : ℤ) (sent : Bool)
  -- a pump finds its socket closed
  | fail (src : Side)
  | handle (d : Server.Draw)
  | receive
  -- the call that waits finds its socket closed
  | lose
  -- the call that waits has read nothing for 30 seconds; its socket stays open
  | timeout
  -- another connection of the proxy fills the cache, or the server does something else
  | updated (entries : List RegistryEntry)
  | other (e : ServerEvent)

def RelayedEvent.other? : RelayedEvent → Option ServerEvent
  | .other e => some e
  | _ => none

namespace Relayed

def start (cache : RegistryCache) (session : ClientSession) (server : Connection) : Relayed :=
  { session, log := [], waiting := none, closed := false, late := false, server, serving := true
    tunnel := .start cache, taken := fun _ => 0, sent := [], handled := 0, replies := [], received := 0 }

section Methods

variable (P : Primitives) (scfg : ServerConfig) (c : Relayed)

def written : Side → List Frame
  | .client => c.sent
  | .server => c.replies

def out (src : Side) : List Frame := (c.tunnel.pumps src).out

def finish (x : Exchange) (result : Except Exn Answer) (session : ClientSession) : Relayed :=
  { c with session, log := c.log ++ [(x, result)], waiting := none }

def call (x : Exchange) : Relayed :=
  if c.waiting.isSome || c.closed then c
  else
    match x.send c.session with
    | (.error exc, session) => { c with session, log := c.log ++ [(x, .error exc)] }
    | (.ok sent, session) =>
      { c with session, waiting := some x, sent := c.sent ++ [sent.frame] }

def pump (src : Side) (now : ℤ) (sent : Bool) : Relayed :=
  match (c.written src)[c.taken src]? with
  | none => c
  | some frame =>
    { c with
      tunnel := c.tunnel.step P Proxy.handle (.received src (some frame) now sent)
      taken := Function.update c.taken src (c.taken src + 1) }

-- the loop body of `_Connection.run`; an exception ends the connection
def handle (d : Server.Draw) : Relayed :=
  if c.serving then
    match (c.out .client)[c.handled]? with
    | none => c
    | some frame =>
      match c.server.handleFrame P scfg d frame with
      | (.error _, server) => { c with server, handled := c.handled + 1, serving := false }
      | (.ok reply, server) =>
        { c with server, handled := c.handled + 1, replies := c.replies ++ [reply] }
  else c

def receive : Relayed :=
  match c.waiting with
  | none => c
  | some x =>
    match (c.out .server)[c.received]? with
    | none => c
    | some reply =>
      let (result, session) := x.receive c.session reply
      { c.finish x result session with received := c.received + 1 }

def lose : Relayed :=
  match c.waiting with
  | none => c
  | some x =>
    { c.finish x (.error (.frameError "connection closed by peer")) c.session with closed := true }

def timeout : Relayed :=
  match c.waiting with
  | none => c
  | some x => { c.finish x (.error (.frameError "recv timed out")) c.session with late := true }

def step : RelayedEvent → Relayed
  | .call x => c.call x
  | .pump src now sent => c.pump P src now sent
  | .fail src => { c with tunnel := c.tunnel.step P Proxy.handle (.received src none 0 false) }
  | .handle d => c.handle P scfg d
  | .receive => c.receive
  | .lose => c.lose
  | .timeout => c.timeout
  | .updated entries => { c with tunnel := c.tunnel.step P Proxy.handle (.updated entries) }
  | .other e => { c with server := serve P scfg c.server e }

end Methods

end Relayed

inductive DirectEvent
  | exchange (x : Exchange) (fate : Fate) (d : Server.Draw)
  -- the client does not wait for the reply, and the server handles the request or does not
  | timeout (x : Exchange) (handled : Bool) (d : Server.Draw)
  | other (e : ServerEvent)

def DirectEvent.other? : DirectEvent → Option ServerEvent
  | .exchange _ _ _ | .timeout _ _ _ => none
  | .other e => some e

structure Direct where
  world : World
  log : List (Exchange × Except Exn Answer)

def Direct.step (P : Primitives) (scfg : ServerConfig) (l : Direct) : DirectEvent → Direct
  | .exchange x fate d =>
    let (result, world) := l.world.exchange P scfg x fate d
    ⟨world, l.log ++ [(x, result)]⟩
  | .timeout x handled d =>
    match x.send l.world.session with
    | (.error exc, session) => ⟨{ l.world with session }, l.log ++ [(x, .error exc)]⟩
    | (.ok sent, session) =>
      let server := if handled then (l.world.server.handleFrame P scfg d sent.frame).2 else l.world.server
      ⟨⟨session, server⟩, l.log ++ [(x, .error (.frameError "recv timed out"))]⟩
  | .other e => { l with world := { l.world with server := serve P scfg l.world.server e } }

section Exchanges

variable (P : Primitives) (scfg : ServerConfig)

def exchanges : RequestReply ClientSession Connection Exchange Frame (Except Exn Answer) Server.Draw
    ServerEvent where
  send x session :=
    match x.send session with
    | (.error exc, session) => (.error (.error exc), session)
    | (.ok sent, session) => (.ok sent.frame, session)
  receive x session reply :=
    match reply with
    | .error .closed => (.error (.frameError "connection closed by peer"), session)
    | .error .timedOut => (.error (.frameError "recv timed out"), session)
    | .ok frame => x.receive session frame
  handle server d frame := ((server.handleFrame P scfg d frame).1.toOption, (server.handleFrame P scfg d frame).2)
  other := serve P scfg

def directEventOf : RequestReply.Step Exchange Server.Draw ServerEvent → DirectEvent
  | .exchange x .both d => .exchange x .delivered d
  | .exchange x (.requestOnly .closed) d => .exchange x .replyLost d
  | .exchange x (.neither .closed) d => .exchange x .requestLost d
  | .exchange x (.requestOnly .timedOut) d => .timeout x true d
  | .exchange x (.neither .timedOut) d => .timeout x false d
  | .other e => .other e

def directOf (l : RequestReply.Link ClientSession Connection Exchange (Except Exn Answer)) : Direct :=
  ⟨⟨l.client, l.server⟩, l.log⟩

variable {P scfg}

lemma direct_step (l : RequestReply.Link ClientSession Connection Exchange (Except Exn Answer))
    (s : RequestReply.Step Exchange Server.Draw ServerEvent) :
    directOf ((exchanges P scfg).link l s) = (directOf l).step P scfg (directEventOf s) := by
  cases s with
  | other e => rfl
  | exchange x arrival d =>
    rcases hsend : x.send l.client with ⟨_ | sent, session⟩
    · rcases arrival with _ | ⟨_ | _⟩ | ⟨_ | _⟩ <;>
        simp only [RequestReply.link, exchanges, hsend, directOf, Direct.step, directEventOf, World.exchange,
          World.answer, Exchange.perform, Outcome.bind]
    · rcases arrival with _ | ⟨_ | _⟩ | ⟨_ | _⟩
      · rcases hhandle : l.server.handleFrame P scfg d sent.frame with ⟨_ | reply, server⟩ <;>
          simp only [RequestReply.link, RequestReply.transmit, RequestReply.heard, exchanges, hsend, directOf,
            Direct.step, directEventOf, World.exchange, World.answer, World.transmit, Exchange.perform, Outcome.bind,
            hhandle, Except.toOption]
      all_goals
        simp only [RequestReply.link, RequestReply.transmit, exchanges, hsend, directOf, Direct.step,
          directEventOf, World.exchange, World.answer, World.transmit, Exchange.perform, Outcome.bind, if_true,
          Bool.false_eq_true, if_false]

lemma direct_run (l : RequestReply.Link ClientSession Connection Exchange (Except Exn Answer))
    (steps : List (RequestReply.Step Exchange Server.Draw ServerEvent)) :
    directOf (run (exchanges P scfg).link l steps) =
      run (Direct.step P scfg) (directOf l) (steps.map directEventOf) := by
  induction steps generalizing l with
  | nil => rfl
  | cons s steps ih => rw [run_cons, ih, direct_step, List.map_cons, run_cons]

lemma directEvents_other (steps : List (RequestReply.Step Exchange Server.Draw ServerEvent)) :
    (steps.map directEventOf).filterMap DirectEvent.other? = steps.filterMap RequestReply.Step.other? := by
  rw [List.filterMap_map]
  refine List.filterMap_congr fun s _ => ?_
  rcases s with ⟨_, _ | ⟨_ | _⟩ | ⟨_ | _⟩, _⟩ | _ <;> rfl

end Exchanges

namespace Relayed

def async (c : Relayed) : RequestReply.Async ClientSession Connection Exchange Frame (Except Exn Answer) where
  client := c.session
  server := c.server
  log := c.log
  waiting := c.waiting
  closed := c.closed
  late := c.late
  serving := c.serving
  sent := c.sent
  arrived := (c.out .client).length
  handled := c.handled
  replies := c.replies
  returned := (c.out .server).length
  received := c.received

structure InOrder (c : Relayed) : Prop where
  copied : ∀ src, c.out src <+: c.written src
  live : ∀ src, (c.tunnel.pumps src).live = true → c.out src = (c.written src).take (c.taken src) ∧
    c.taken src ≤ (c.written src).length

section Async

variable (P : Primitives) (scfg : ServerConfig) (c : Relayed)

def moved : Side → RequestReply.Event Exchange Server.Draw ServerEvent
  | .client => .up
  | .server => .down

def moves : RelayedEvent → List (RequestReply.Event Exchange Server.Draw ServerEvent)
  | .call x => [.call x]
  | .pump src now sent => if ((c.pump P src now sent).out src).length = (c.out src).length then [] else [moved src]
  | .fail _ | .updated _ => []
  | .handle d => [.handle d]
  | .receive => [.receive]
  | .lose => [.lose]
  | .timeout => [.timeout]
  | .other e => [.other e]

def allMoves : Relayed → List RelayedEvent → List (RequestReply.Event Exchange Server.Draw ServerEvent)
  | _, [] => []
  | c, e :: es => c.moves P e ++ allMoves (c.step P scfg e) es

variable {P scfg c}

lemma InOrder.start (cache : RegistryCache) (session : ClientSession) (server : Connection) :
    (start cache session server).InOrder :=
  ⟨fun _ => List.nil_prefix, fun _ _ => ⟨rfl, Nat.zero_le _⟩⟩

lemma InOrder.getElem (h : c.InOrder) (src : Side) (i : ℕ) :
    (c.out src)[i]? = if i < (c.out src).length then (c.written src)[i]? else none := by
  split
  · rename_i hlt
    obtain ⟨rest, hrest⟩ := h.copied src
    rw [← hrest, List.getElem?_append_left hlt]
  · rename_i hge
    exact List.getElem?_eq_none (not_lt.mp hge)

lemma pump_others {src side : Side} (hside : side ≠ src) (now : ℤ) (sent : Bool) :
    (c.pump P src now sent).tunnel.pumps side = c.tunnel.pumps side ∧
      (c.pump P src now sent).taken side = c.taken side := by
  rw [pump]
  split
  · exact ⟨rfl, rfl⟩
  · exact ⟨Function.update_of_ne hside _ _, Function.update_of_ne hside _ _⟩

lemma pump_written (src side : Side) (now : ℤ) (sent : Bool) :
    (c.pump P src now sent).written side = c.written side := by
  rw [pump]
  split
  · rfl
  · cases side <;> rfl

lemma pump_cases (h : c.InOrder) (src : Side) (now : ℤ) (sent : Bool) :
    ((c.pump P src now sent).InOrder ∧ (c.pump P src now sent).out src = c.out src) ∨
    ((c.pump P src now sent).InOrder ∧ (c.out src).length < (c.written src).length ∧
      (c.pump P src now sent).out src = (c.written src).take ((c.out src).length + 1)) := by
  have hothers : ∀ side, side ≠ src →
      (c.pump P src now sent).out side <+: (c.pump P src now sent).written side ∧
      (((c.pump P src now sent).tunnel.pumps side).live = true →
        (c.pump P src now sent).out side =
          ((c.pump P src now sent).written side).take ((c.pump P src now sent).taken side) ∧
        (c.pump P src now sent).taken side ≤ ((c.pump P src now sent).written side).length) := by
    intro side hside
    obtain ⟨hpump, htaken⟩ := pump_others (P := P) (c := c) hside now sent
    rw [out, hpump, htaken, pump_written]
    exact ⟨h.copied side, h.live side⟩
  cases hnext : (c.written src)[c.taken src]? with
  | none =>
    have hsame : c.pump P src now sent = c := by simp only [pump, hnext]
    rw [hsame]
    exact Or.inl ⟨h, rfl⟩
  | some frame =>
    have hlt : c.taken src < (c.written src).length := (List.getElem?_eq_some_iff.mp hnext).1
    have hpump : (c.pump P src now sent).tunnel.pumps src =
        (c.tunnel.pumps src).turn (c.tunnel.turn P Proxy.handle src (some frame) now sent) := by
      simp only [pump, hnext, Tunnel.step_received]
    have htaken : (c.pump P src now sent).taken src = c.taken src + 1 := by
      simp only [pump, hnext, Function.update_self]
    rcases Pump.copies_or_stops (p := c.tunnel.pumps src)
      (t := c.tunnel.turn P Proxy.handle src (some frame) now sent) with ⟨hlive, a, ha⟩ | hstops
    · obtain rfl : a = frame := (Option.some.inj ha.1).symm
      obtain ⟨hout, _⟩ := h.live src hlive
      have hlength : (c.out src).length = c.taken src := by
        rw [hout, List.length_take]
        omega
      have hcopied : (c.pump P src now sent).out src = (c.written src).take (c.taken src + 1) := by
        rw [out, hpump, Pump.turn_copies hlive ha, List.take_add_one, hnext]
        exact congrArg (· ++ [a]) hout
      refine Or.inr ⟨⟨fun side => ?_, fun side hside => ?_⟩, by omega, by rw [hcopied, hlength]⟩
      · by_cases hs : side = src
        · rw [hs, hcopied, pump_written]
          exact List.take_prefix _ _
        · exact (hothers side hs).1
      · by_cases hs : side = src
        · rw [hs, hcopied, pump_written, htaken]
          exact ⟨rfl, hlt⟩
        · exact (hothers side hs).2 hside
    · have hsame : (c.pump P src now sent).out src = c.out src := by
        rw [out, hpump, Pump.turn_stops hstops]
        rfl
      refine Or.inl ⟨⟨fun side => ?_, fun side hside => ?_⟩, hsame⟩
      · by_cases hs : side = src
        · rw [hs, hsame, pump_written]
          exact h.copied src
        · exact (hothers side hs).1
      · by_cases hs : side = src
        · rw [hs, hpump, Pump.turn_stops hstops] at hside
          cases hside
        · exact (hothers side hs).2 hside

lemma pump_async (src : Side) (now : ℤ) (sent : Bool) : (c.pump P src now sent).async =
    { c.async with
      arrived := ((c.pump P src now sent).out .client).length
      returned := ((c.pump P src now sent).out .server).length } := by
  rw [pump]
  split <;> rfl

lemma async_pump (h : c.InOrder) (src : Side) (now : ℤ) (sent : Bool) :
    run (exchanges P scfg).step c.async (c.moves P (.pump src now sent)) = (c.pump P src now sent).async := by
  have hother : ∀ side, side ≠ src → (c.pump P src now sent).out side = c.out side := fun side hside =>
    congrArg Pump.out (pump_others hside now sent).1
  rw [pump_async, moves]
  rcases pump_cases (P := P) h src now sent with ⟨_, hsame⟩ | ⟨_, hlt, hcopied⟩
  · rw [hsame, if_pos rfl, run_nil]
    cases src with
    | client => rw [hsame, hother .server (by decide)]; rfl
    | server => rw [hsame, hother .client (by decide)]; rfl
  · have hlength : ((c.pump P src now sent).out src).length = (c.out src).length + 1 := by
      rw [hcopied, List.length_take]
      omega
    rw [hlength, if_neg (by omega), run_cons, run_nil]
    cases src with
    | client =>
      rw [hlength, hother .server (by decide)]
      exact if_pos hlt
    | server =>
      rw [hlength, hother .client (by decide)]
      exact if_pos hlt

lemma async_handle (h : c.InOrder) (d : Server.Draw) :
    (exchanges P scfg).step c.async (.handle d) = (c.handle P scfg d).async := by
  have hnext := h.getElem .client c.handled
  cases hserving : c.serving with
  | false => simp [RequestReply.step, handle, async, hserving]
  | true =>
    split_ifs at hnext with hlt
    · change _ = c.sent[c.handled]? at hnext
      cases hframe : c.sent[c.handled]? with
      | none =>
        rw [hframe] at hnext
        simp only [RequestReply.step, handle, async, hserving, decide_eq_true hlt, Bool.and_self, if_true, hnext,
          hframe]
      | some frame =>
        rw [hframe] at hnext
        rcases hserver : c.server.handleFrame P scfg d frame with ⟨_ | reply, server⟩ <;>
          simp only [RequestReply.step, handle, async, exchanges, hserving, decide_eq_true hlt, Bool.and_self,
            if_true, hnext, hframe, hserver, Except.toOption] <;>
          rfl
    · simp only [RequestReply.step, handle, async, hserving, decide_eq_false hlt, Bool.and_false, hnext,
        Bool.false_eq_true, if_false, if_true]

lemma async_receive (h : c.InOrder) : (exchanges P scfg).step c.async .receive = c.receive.async := by
  have hnext := h.getElem .server c.received
  cases hwaiting : c.waiting with
  | none => simp only [RequestReply.step, receive, async, hwaiting]
  | some x =>
    split_ifs at hnext with hlt
    · change _ = c.replies[c.received]? at hnext
      cases hreply : c.replies[c.received]? with
      | none =>
        rw [hreply] at hnext
        simp only [RequestReply.step, receive, async, hwaiting, if_pos hlt, hnext, hreply]
      | some reply =>
        rw [hreply] at hnext
        simp only [RequestReply.step, RequestReply.finish, receive, finish, async, exchanges, hwaiting, if_pos hlt,
          hnext, hreply]
        rfl
    · simp only [RequestReply.step, receive, async, hwaiting, if_neg hlt, hnext]

lemma async_call (x : Exchange) : (exchanges P scfg).step c.async (.call x) = (c.call x).async := by
  rcases hsend : x.send c.session with ⟨_ | sent, session⟩
  · simp only [RequestReply.step, call, async, exchanges, hsend]
    split_ifs <;> rfl
  · simp only [RequestReply.step, call, async, exchanges, hsend]
    split_ifs <;> rfl

lemma async_lose : (exchanges P scfg).step c.async .lose = c.lose.async := by
  cases hwaiting : c.waiting with
  | none => simp only [RequestReply.step, lose, async, hwaiting]
  | some x =>
    simp only [RequestReply.step, RequestReply.finish, lose, finish, async, exchanges, hwaiting]
    rfl

lemma async_timeout : (exchanges P scfg).step c.async .timeout = c.timeout.async := by
  cases hwaiting : c.waiting with
  | none => simp only [RequestReply.step, timeout, async, hwaiting]
  | some x =>
    simp only [RequestReply.step, RequestReply.finish, timeout, finish, async, exchanges, hwaiting]
    rfl

lemma inOrder_stop (h : c.InOrder) (tunnel : Tunnel)
    (hout : ∀ src, (tunnel.pumps src).out = c.out src)
    (hlive : ∀ src, (tunnel.pumps src).live = true → (c.tunnel.pumps src).live = true) :
    ({ c with tunnel } : Relayed).InOrder ∧ ({ c with tunnel } : Relayed).async = c.async := by
  refine ⟨⟨fun src => ?_, fun src hs => ?_⟩, ?_⟩
  · rw [out, hout]
    exact h.copied src
  · rw [out, hout]
    exact h.live src (hlive src hs)
  · simp only [async, out, hout]

lemma fail_pumps (src side : Side) :
    ((c.tunnel.step P Proxy.handle (.received src none 0 false)).pumps side).out = c.out side ∧
      (((c.tunnel.step P Proxy.handle (.received src none 0 false)).pumps side).live = true →
        (c.tunnel.pumps side).live = true) := by
  by_cases hside : side = src
  · rw [hside, Tunnel.step_received]
    exact ⟨rfl, fun h => by cases h⟩
  · have hsame : (c.tunnel.step P Proxy.handle (.received src none 0 false)).pumps side = c.tunnel.pumps side :=
      Function.update_of_ne hside _ _
    rw [hsame]
    exact ⟨rfl, id⟩

lemma inOrder_append (h : c.InOrder) {c' : Relayed} (htunnel : c'.tunnel = c.tunnel) (htaken : c'.taken = c.taken)
    (hwritten : ∀ src, c.written src <+: c'.written src) : c'.InOrder := by
  have hout : ∀ src, c'.out src = c.out src := fun src => by rw [out, htunnel, out]
  refine ⟨fun src => ?_, fun src hs => ?_⟩
  · rw [hout]
    exact (h.copied src).trans (hwritten src)
  · rw [htunnel] at hs
    obtain ⟨hcopied, hle⟩ := h.live src hs
    obtain ⟨rest, hrest⟩ := hwritten src
    rw [hout, htaken, ← hrest, List.length_append]
    refine ⟨?_, by omega⟩
    rw [List.take_append_of_le_length hle]
    exact hcopied

lemma inOrder_step (h : c.InOrder) (e : RelayedEvent) : (c.step P scfg e).InOrder := by
  cases e with
  | call x =>
    rw [step, call]
    split_ifs
    · exact h
    · split
      · exact inOrder_append h rfl rfl fun _ => List.prefix_refl _
      · refine inOrder_append h rfl rfl fun src => ?_
        cases src with
        | client => exact List.prefix_append _ _
        | server => exact List.prefix_refl _
  | pump src now sent =>
    rcases pump_cases (P := P) h src now sent with ⟨hinOrder, _⟩ | ⟨hinOrder, _⟩
    · exact hinOrder
    · exact hinOrder
  | fail src => exact (inOrder_stop h _ (fun side => (fail_pumps src side).1) fun side => (fail_pumps src side).2).1
  | handle d =>
    rw [step, handle]
    split_ifs
    · split
      · exact h
      · split
        · exact inOrder_append h rfl rfl fun _ => List.prefix_refl _
        · refine inOrder_append h rfl rfl fun src => ?_
          cases src with
          | client => exact List.prefix_refl _
          | server => exact List.prefix_append _ _
    · exact h
  | receive =>
    rw [step, receive]
    split
    · exact h
    · split
      · exact h
      · exact inOrder_append h rfl rfl fun _ => List.prefix_refl _
  | lose =>
    rw [step, lose]
    split
    · exact h
    · exact inOrder_append h rfl rfl fun _ => List.prefix_refl _
  | timeout =>
    rw [step, timeout]
    split
    · exact h
    · exact inOrder_append h rfl rfl fun _ => List.prefix_refl _
  | updated entries =>
    exact (inOrder_stop h (c.tunnel.step P Proxy.handle (.updated entries)) (fun _ => rfl) fun _ => id).1
  | other e => exact inOrder_append h rfl rfl fun _ => List.prefix_refl _

lemma async_step (h : c.InOrder) (e : RelayedEvent) :
    run (exchanges P scfg).step c.async (c.moves P e) = (c.step P scfg e).async := by
  cases e with
  | call x => exact async_call x
  | pump src now sent => exact async_pump h src now sent
  | fail src =>
    exact (inOrder_stop h _ (fun side => (fail_pumps src side).1) fun side => (fail_pumps src side).2).2.symm
  | handle d => exact async_handle h d
  | receive => exact async_receive h
  | lose => exact async_lose
  | timeout => exact async_timeout
  | updated entries =>
    exact (inOrder_stop h (c.tunnel.step P Proxy.handle (.updated entries)) (fun _ => rfl)
      fun _ => id).2.symm
  | other e => rfl

lemma async_run (h : c.InOrder) (es : List RelayedEvent) :
    run (exchanges P scfg).step c.async (allMoves P scfg c es) = (run (step P scfg) c es).async := by
  induction es generalizing c with
  | nil => rfl
  | cons e es ih => rw [allMoves, run_append, async_step h, ih (inOrder_step h e), run_cons]

lemma moves_other (c : Relayed) (e : RelayedEvent) :
    (c.moves P e).filterMap RequestReply.Event.other? = e.other?.toList := by
  cases e with
  | pump src now sent =>
    rw [moves]
    split_ifs
    · rfl
    · cases src <;> rfl
  | _ => rfl

lemma allMoves_other (c : Relayed) (es : List RelayedEvent) :
    (allMoves P scfg c es).filterMap RequestReply.Event.other? = es.filterMap RelayedEvent.other? := by
  induction es generalizing c with
  | nil => rfl
  | cons e es ih =>
    rw [allMoves, List.filterMap_append, ih, moves_other]
    cases he : e.other? <;> simp [he]

def Kept (c : Relayed) (e : RelayedEvent) : Prop := (e = .lose → c.serving = false) ∧ e ≠ .timeout

def Punctual (c : Relayed) : RelayedEvent → Prop
  | .call _ => c.late = false
  | _ => True

instance (c : Relayed) : DecidablePred c.Punctual
  | .call _ => inferInstanceAs (Decidable (_ = _))
  | .pump _ _ _ | .fail _ | .handle _ | .receive | .lose | .timeout | .updated _ | .other _ => .isTrue trivial

lemma allowed_moves {Ok : Arrival → Prop} {e : RelayedEvent} (hpunctual : c.Punctual e)
    (hlose : e = .lose → c.serving = false ∨ RequestReply.Missed Ok .closed)
    (htimeout : e = .timeout → RequestReply.Missed Ok .timedOut) :
    Along (exchanges P scfg).step (RequestReply.Allowed Ok) c.async (c.moves P e) := by
  cases e with
  | call x => exact ⟨⟨nofun, nofun, fun _ _ => hpunctual⟩, trivial⟩
  | lose => exact ⟨⟨fun _ => hlose rfl, nofun, nofun⟩, trivial⟩
  | timeout => exact ⟨⟨nofun, fun _ => htimeout rfl, nofun⟩, trivial⟩
  | pump src now sent =>
    rw [moves]
    split_ifs
    · trivial
    · cases src with
      | client => exact ⟨⟨nofun, nofun, nofun⟩, trivial⟩
      | server => exact ⟨⟨nofun, nofun, nofun⟩, trivial⟩
  | fail | updated => trivial
  | handle | receive | other => exact ⟨⟨nofun, nofun, nofun⟩, trivial⟩

lemma allowed_allMoves {Ok : Arrival → Prop} {es : List RelayedEvent} (h : c.InOrder)
    (hes : Along (step P scfg) (fun c e => c.Punctual e ∧
      (e = .lose → c.serving = false ∨ RequestReply.Missed Ok .closed) ∧
      (e = .timeout → RequestReply.Missed Ok .timedOut)) c es) :
    Along (exchanges P scfg).step (RequestReply.Allowed Ok) c.async (allMoves P scfg c es) := by
  induction es generalizing c with
  | nil => exact along_nil _
  | cons e es ih =>
    obtain ⟨⟨hpunctual, hlose, htimeout⟩, hes⟩ := hes
    rw [allMoves, along_append, async_step h]
    exact ⟨allowed_moves hpunctual hlose htimeout, ih (inOrder_step h e) hes⟩

end Async

end Relayed

instance : Nonempty Server.Draw := ⟨⟨0, 0, 0, 0, [], []⟩⟩

theorem relayed_linearizes (P : Primitives) (scfg : ServerConfig) (cache : RegistryCache)
    (session : ClientSession) (server : Connection) (es : List RelayedEvent)
    (hpunctual : Along (Relayed.step P scfg) Relayed.Punctual (.start cache session server) es)
    (hwaiting : (run (Relayed.step P scfg) (.start cache session server) es).waiting = none) :
    ∃ steps : List DirectEvent,
      run (Direct.step P scfg) ⟨⟨session, server⟩, []⟩ steps =
        ⟨⟨(run (Relayed.step P scfg) (.start cache session server) es).session,
          (run (Relayed.step P scfg) (.start cache session server) es).server⟩,
          (run (Relayed.step P scfg) (.start cache session server) es).log⟩ ∧
      steps.filterMap DirectEvent.other? = es.filterMap RelayedEvent.other? ∧
      (Along (Relayed.step P scfg) Relayed.Kept (.start cache session server) es →
        ∀ s ∈ steps, s.other? = none → ∃ x d, s = .exchange x .delivered d) := by
  have horder := Relayed.InOrder.start cache session server
  let Ok : Arrival → Prop := fun arrival =>
    Along (Relayed.step P scfg) Relayed.Kept (.start cache session server) es → arrival = .both
  have hallowed : Along (exchanges P scfg).step (RequestReply.Allowed Ok) (.start session server)
      (Relayed.allMoves P scfg (.start cache session server) es) := by
    refine Relayed.allowed_allMoves horder ((along_iff_forall _ _).mpr fun pre e post he =>
      ⟨(along_iff_forall _ _).mp hpunctual pre e post he, ?_⟩)
    by_cases hkept : Along (Relayed.step P scfg) Relayed.Kept (.start cache session server) es
    · obtain ⟨hlose, htimeout⟩ := (along_iff_forall _ _).mp hkept pre e post he
      exact ⟨fun h => Or.inl (hlose h), fun h => (htimeout h).elim⟩
    · have hmissed : ∀ silence, RequestReply.Missed Ok silence := fun _ =>
        ⟨fun h => (hkept h).elim, fun h => (hkept h).elim⟩
      exact ⟨fun _ => Or.inr (hmissed _), fun _ => hmissed _⟩
  have hasync : run (exchanges P scfg).step (.start session server)
      (Relayed.allMoves P scfg (.start cache session server) es) =
        (run (Relayed.step P scfg) (.start cache session server) es).async := Relayed.async_run horder es
  have hboth : Ok .both := fun _ => rfl
  obtain ⟨steps, hrun, hothers, hok⟩ := RequestReply.linearizes (exchanges P scfg) hboth session server _
    hallowed (by rw [hasync]; exact hwaiting)
  rw [hasync] at hrun
  refine ⟨steps.map directEventOf, ?_, ?_, fun hkept s hmem hexchange => ?_⟩
  · rw [← show directOf ⟨session, server, []⟩ = ⟨⟨session, server⟩, []⟩ from rfl, ← direct_run, hrun]
    rfl
  · rw [directEvents_other, hothers, Relayed.allMoves_other]
  · obtain ⟨s, hs, rfl⟩ := List.mem_map.mp hmem
    cases s with
    | other e => cases hexchange
    | exchange x arrival d =>
      rw [hok x arrival d hs hkept]
      exact ⟨x, d, rfl⟩

section Demo

-- the client asks for the snapshot, and each frame is read as soon as it is there
def relayedSync : List RelayedEvent :=
  [.call (ClientSession.syncRegistry tagged demoClient (demoRound 1).client .client), .pump .client 1000 true,
    .handle (demoRound 1).server, .pump .server 1000 true, .receive]

-- a second request is answered too late
def relayedLate : List RelayedEvent :=
  relayedSync ++ [.call (ClientSession.syncRegistry tagged demoClient (demoRound 2).client .proxy), .timeout,
    .pump .client 1031 true, .handle (demoRound 2).server, .pump .server 1031 true, .receive]

theorem relayed_late_linearizes :
    let after := run (Relayed.step tagged demoServer) (.start ⟨[]⟩ demoWorld.session demoWorld.server) relayedLate
    ∃ steps : List DirectEvent,
      run (Direct.step tagged demoServer) ⟨⟨demoWorld.session, demoWorld.server⟩, []⟩ steps =
        ⟨⟨after.session, after.server⟩, after.log⟩ ∧
      steps.filterMap DirectEvent.other? = relayedLate.filterMap RelayedEvent.other? ∧
      (Along (Relayed.step tagged demoServer) Relayed.Kept
          (.start ⟨[]⟩ demoWorld.session demoWorld.server) relayedLate →
        ∀ s ∈ steps, s.other? = none → ∃ x d, s = .exchange x .delivered d) :=
  relayed_linearizes tagged demoServer ⟨[]⟩ demoWorld.session demoWorld.server relayedLate (by decide +kernel)
    (Option.isNone_iff_eq_none.mp (by decide +kernel))

end Demo

end Secupload.System
