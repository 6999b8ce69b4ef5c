import Mathlib.Data.List.Flatten
import Secupload.System.Relayed
import Secupload.System.Replies

namespace Secupload.System

open Library Shared Client Server Proxy

section Replies

variable {P : Primitives} {scfg : ServerConfig} {d : Server.Draw} {conn : Connection}

lemma sendFrame_eq_ok {channel : ℤ} {payload : Bytes} {frame : Frame} (h : sendFrame channel payload = .ok frame) :
    frame = ⟨channel, payload⟩ := by
  rw [sendFrame] at h
  split_ifs at h
  exact (Except.ok.inj h).symm

lemma relayReply_parse (hP : Lawful P) (hnonce : d.nonce.length = nonceSize) {env : Envelope} {response : Response}
    {frame : Frame} (h : (do
      let reply ← conn.relayReply P scfg d env response
      sendFrame channelRelay (← reply.encode)) = .ok frame) :
    frame.channel = channelRelay ∧
      ∃ reply, parseEnvelope frame.payload = .ok reply ∧ reply.senderUuid = scfg.serverUuid := by
  obtain ⟨reply, hreply, h⟩ := except_bind_eq_ok.mp h
  obtain ⟨data, hencode, hsend⟩ := except_bind_eq_ok.mp h
  obtain ⟨cred, _, hreply⟩ := except_bind_eq_ok.mp hreply
  obtain rfl := sendFrame_eq_ok hsend
  refine ⟨rfl, reply, ?_⟩
  cases hrow : conn.state.db.getCredential env.senderUuid env.senderCredentialVersion with
  | none =>
    rw [hrow] at hreply
    cases hreply
  | some row =>
    rw [hrow] at hreply
    cases response with
    | message inner =>
      obtain ⟨signer, hseal⟩ := buildOutgoing_eq_ok hreply
      obtain ⟨hsame, hparse⟩ := sealEnvelope_parse hP rfl hnonce hseal hencode
      exact ⟨hparse, congrArg Envelope.senderUuid hsame⟩
    | chunk objectUuid chunkIndex chunk =>
      obtain ⟨signer, hseal⟩ := buildChunk_eq_ok hreply
      obtain ⟨hsame, hparse, _⟩ := sealChunkEnvelope_parse hP rfl hnonce hseal hencode
      exact ⟨hparse, congrArg Envelope.senderUuid hsame⟩

lemma check_unknown {cache : RegistryCache} {frame : Frame} {env : Envelope}
    (hparse : parseEnvelope frame.payload = .ok env) (hentry : cache.entry env.senderUuid = none) (now : ℤ) :
    check P cache now frame = .ok () := by
  rw [check]
  split_ifs
  · rfl
  · rw [hparse, except_ok_bind]
    simp only [hentry]

lemma check_reply (hP : Lawful P) (hnonce : d.nonce.length = nonceSize) {frame reply : Frame}
    (h : (conn.handleFrame P scfg d frame).1 = .ok reply) {cache : RegistryCache}
    (hentry : cache.entry scfg.serverUuid = none) (now : ℤ) : check P cache now reply = .ok () := by
  rw [Connection.handleFrame] at h
  split_ifs at h with hcontrol hrelay
  · dsimp only at h
    rw [Tunnel2Server.handleControl, Outcome.bind] at h
    split at h
    · cases h
    · obtain ⟨data, _, hsend⟩ := except_bind_eq_ok.mp h
      obtain rfl := sendFrame_eq_ok hsend
      rw [check, if_pos rfl]
  · rw [Connection.handleRelay] at h
    split at h
    · cases h
    · obtain ⟨response, _, h⟩ : ∃ response, _ := except_bind_eq_ok.mp h
      obtain ⟨_, reply, hparse, hsender⟩ := relayReply_parse hP hnonce h
      exact check_unknown hparse (by rw [hsender]; exact hentry) now

end Replies

-- no socket fails or times out, and no snapshot that reaches the cache names the server as a client or proxy
def RelayedEvent.Smooth (scfg : ServerConfig) : RelayedEvent → Prop
  | .pump _ _ sent => sent = true
  | .fail _ | .lose | .timeout => False
  | .handle d => d.nonce.length = nonceSize
  | .updated entries => (RegistryCache.mk entries).entry scfg.serverUuid = none
  | _ => True

namespace Relayed

structure Flowing (P : Primitives) (scfg : ServerConfig) (c : Relayed) : Prop where
  inOrder : c.InOrder
  live : ∀ src, (c.tunnel.pumps src).live = true
  cache : c.tunnel.cache.entry scfg.serverUuid = none
  passes : ∀ reply ∈ c.replies, ∀ cache : RegistryCache, cache.entry scfg.serverUuid = none → ∀ now,
    check P cache now reply = .ok ()

def turns : RelayedEvent → List (RequestReply.Event Exchange Server.Draw ServerEvent)
  | .call x => [.call x]
  | .pump src _ _ => [moved src]
  | .fail _ | .updated _ => []
  | .handle d => [.handle d]
  | .receive => [.receive]
  | .lose => [.lose]
  | .timeout => [.timeout]
  | .other e => [.other e]

section Flow

variable {P : Primitives} {scfg : ServerConfig} {c : Relayed}

lemma Flowing.start {cache : RegistryCache} (hcache : cache.entry scfg.serverUuid = none)
    (session : ClientSession) (server : Connection) : (start cache session server).Flowing P scfg :=
  ⟨InOrder.start cache session server, fun _ => rfl, hcache, fun _ h => by cases h⟩

lemma Flowing.length (h : c.Flowing P scfg) (src : Side) : (c.out src).length = c.taken src := by
  obtain ⟨hout, hle⟩ := h.inOrder.live src (h.live src)
  rw [hout, List.length_take]
  omega

lemma Flowing.copies (h : c.Flowing P scfg) {src : Side} {frame : Frame}
    (hnext : (c.written src)[c.taken src]? = some frame) (now : ℤ) :
    (c.tunnel.turn P Proxy.handle src (some frame) now true).Copies frame := by
  refine ⟨rfl, ?_, rfl⟩
  cases src with
  | client => rfl
  | server =>
    have hpasses := h.passes frame (List.mem_of_getElem? hnext) _ h.cache now
    simp [Tunnel.turn, hpasses]

lemma Flowing.pump_live (h : c.Flowing P scfg) (src : Side) (now : ℤ) (side : Side) :
    ((c.pump P src now true).tunnel.pumps side).live = true := by
  by_cases hside : side = src
  · rw [hside, pump]
    split
    · exact h.live src
    · rename_i frame hnext
      rw [Tunnel.step_received, Pump.turn_live]
      exact ⟨h.live src, frame, h.copies hnext now⟩
  · rw [(pump_others hside now true).1]
    exact h.live side

lemma Flowing.pump_turn (h : c.Flowing P scfg) (src : Side) (now : ℤ) :
    (c.pump P src now true).async = (exchanges P scfg).step c.async (moved src) := by
  have hlength := h.length src
  cases hnext : (c.written src)[c.taken src]? with
  | none =>
    have hle : ¬ (c.out src).length < (c.written src).length := by
      rw [hlength]
      exact not_lt.mpr (List.getElem?_eq_none_iff.mp hnext)
    have hsame : c.pump P src now true = c := by simp only [pump, hnext]
    rw [hsame]
    cases src with
    | client => exact (if_neg hle).symm
    | server => exact (if_neg hle).symm
  | some frame =>
    have hout : (c.pump P src now true).out src = c.out src ++ [frame] := by
      simp only [pump, hnext, out, Tunnel.step_received, Pump.turn_copies (h.live src) (h.copies hnext now)]
    have hmoves : c.moves P (.pump src now true) = [moved src] := by
      rw [moves, hout, List.length_append, if_neg (by simp)]
    have hasync : run (exchanges P scfg).step c.async (c.moves P (.pump src now true)) =
        (c.pump P src now true).async := async_pump h.inOrder src now true
    rw [← hasync, hmoves]
    rfl

lemma Flowing.of_tunnel (h : c.Flowing P scfg) {c' : Relayed} (hinOrder : c'.InOrder) (htunnel : c'.tunnel = c.tunnel)
    (hreplies : ∀ reply ∈ c'.replies, reply ∈ c.replies ∨ ∀ cache : RegistryCache,
      cache.entry scfg.serverUuid = none → ∀ now, check P cache now reply = .ok ()) : c'.Flowing P scfg where
  inOrder := hinOrder
  live src := by
    rw [htunnel]
    exact h.live src
  cache := by
    rw [htunnel]
    exact h.cache
  passes reply hreply := (hreplies reply hreply).elim (h.passes reply) id

lemma handle_replies (hP : Lawful P) {d : Server.Draw} (hnonce : d.nonce.length = nonceSize) :
    ∀ reply ∈ (c.handle P scfg d).replies, reply ∈ c.replies ∨ ∀ cache : RegistryCache,
      cache.entry scfg.serverUuid = none → ∀ now, check P cache now reply = .ok () := by
  rw [Relayed.handle]
  split_ifs
  · split
    · exact fun _ => Or.inl
    · rename_i frame _
      split
      · exact fun _ => Or.inl
      · rename_i reply server hhandle
        intro r hr
        rcases List.mem_append.mp hr with hr | hr
        · exact Or.inl hr
        · obtain rfl := List.mem_singleton.mp hr
          have hreply : (c.server.handleFrame P scfg d frame).1 = .ok r := congrArg Prod.fst hhandle
          exact Or.inr fun _ hcache => check_reply hP hnonce hreply hcache
  · exact fun _ => Or.inl

lemma handle_tunnel (d : Server.Draw) : (c.handle P scfg d).tunnel = c.tunnel := by
  rw [Relayed.handle]
  repeat' split
  all_goals rfl

lemma call_tunnel (x : Exchange) : (c.call x).tunnel = c.tunnel ∧ (c.call x).replies = c.replies := by
  rw [call]
  repeat' split
  all_goals exact ⟨rfl, rfl⟩

lemma receive_tunnel : c.receive.tunnel = c.tunnel ∧ c.receive.replies = c.replies := by
  rw [receive]
  repeat' split
  all_goals exact ⟨rfl, rfl⟩

lemma pump_tunnel (src : Side) (now : ℤ) (sent : Bool) :
    (c.pump P src now sent).tunnel.cache = c.tunnel.cache ∧ (c.pump P src now sent).replies = c.replies := by
  rw [pump]
  split
  all_goals exact ⟨rfl, rfl⟩

lemma Flowing.step (hP : Lawful P) (h : c.Flowing P scfg) {e : RelayedEvent} (he : e.Smooth scfg) :
    (c.step P scfg e).Flowing P scfg ∧
      (c.step P scfg e).async = run (exchanges P scfg).step c.async (turns e) := by
  have hinOrder : (c.step P scfg e).InOrder := inOrder_step h.inOrder e
  have hasync : run (exchanges P scfg).step c.async (c.moves P e) = (c.step P scfg e).async :=
    async_step h.inOrder e
  cases e with
  | call x =>
    refine ⟨h.of_tunnel hinOrder (call_tunnel x).1 fun reply hreply => Or.inl ?_, hasync.symm⟩
    rwa [← (call_tunnel (c := c) x).2]
  | pump src now sent =>
    obtain rfl : sent = true := he
    refine ⟨⟨hinOrder, h.pump_live src now, ?_, ?_⟩, h.pump_turn src now⟩
    · exact (congrArg (fun cache => cache.entry scfg.serverUuid) (pump_tunnel src now true).1).trans h.cache
    · intro reply hreply
      refine h.passes reply ?_
      rwa [← (pump_tunnel (P := P) (c := c) src now true).2]
  | fail src => exact he.elim
  | handle d => exact ⟨h.of_tunnel hinOrder (handle_tunnel d) (handle_replies hP he), hasync.symm⟩
  | receive =>
    refine ⟨h.of_tunnel hinOrder receive_tunnel.1 fun reply hreply => Or.inl ?_, hasync.symm⟩
    rwa [← (receive_tunnel (c := c)).2]
  | lose | timeout => exact he.elim
  | updated entries => exact ⟨⟨hinOrder, h.live, he, h.passes⟩, hasync.symm⟩
  | other e => exact ⟨h.of_tunnel hinOrder rfl fun _ => Or.inl, hasync.symm⟩

lemma Flowing.run (hP : Lawful P) (h : c.Flowing P scfg) {es : List RelayedEvent} (hes : ∀ e ∈ es, e.Smooth scfg) :
    (Library.run (Relayed.step P scfg) c es).async =
      Library.run (exchanges P scfg).step c.async (es.flatMap turns) := by
  induction es generalizing c with
  | nil => rfl
  | cons e es ih =>
    obtain ⟨hnext, hasync⟩ := h.step hP (hes e List.mem_cons_self)
    rw [List.flatMap_cons, run_append, ← hasync, run_cons, ih hnext fun e he => hes e (List.mem_cons_of_mem _ he)]

lemma turns_wait {es : List RelayedEvent} (hes : ∀ e ∈ es, e.Smooth scfg) : ∀ e ∈ es.flatMap turns, e.Waits := by
  intro e he
  obtain ⟨r, hr, hmem⟩ := List.mem_flatMap.mp he
  have hsmooth := hes r hr
  cases r with
  | fail | updated => cases hmem
  | lose | timeout => exact hsmooth.elim
  | pump src now sent =>
    rw [List.mem_singleton.mp hmem]
    cases src <;> exact ⟨nofun, nofun⟩
  | call | handle | receive | other =>
    rw [List.mem_singleton.mp hmem]
    exact ⟨nofun, nofun⟩

end Flow

end Relayed

theorem relayed_answers (P : Primitives) (hP : Lawful P) (scfg : ServerConfig) (cache : RegistryCache)
    (hcache : cache.entry scfg.serverUuid = none) (session : ClientSession) (server : Connection)
    (es es' : List RelayedEvent) (hsmooth : ∀ e ∈ es ++ es', e.Smooth scfg)
    (hwaiting : (run (Relayed.step P scfg) (.start cache session server) es).waiting.isSome = true)
    (up down : ℤ) (d : Server.Draw)
    (hturns : [.pump .client up true, .handle d, .pump .server down true, .receive].Sublist es') :
    (run (Relayed.step P scfg) (.start cache session server) es).log.length <
        (run (Relayed.step P scfg) (.start cache session server) (es ++ es')).log.length ∨
      (run (Relayed.step P scfg) (.start cache session server) (es ++ es')).serving = false := by
  have hflowing := Relayed.Flowing.start (P := P) hcache session server
  have hfirst := hflowing.run hP fun e he => hsmooth e (List.mem_append_left _ he)
  have hboth := hflowing.run hP hsmooth
  have hstart : (Relayed.start cache session server).async = .start session server := rfl
  rw [hstart] at hfirst hboth
  have hanswers := (exchanges P scfg).answers session server (es.flatMap Relayed.turns) (es'.flatMap Relayed.turns)
    [.up, .handle d, .down, .receive] (by rw [← List.flatMap_append]; exact Relayed.turns_wait hsmooth)
    (by rw [← hfirst]; exact hwaiting) ?_ rfl
  · rw [← List.flatMap_append, ← hfirst, ← hboth] at hanswers
    exact hanswers
  · exact hturns.flatMap Relayed.turns

section Demo

-- the client waits, the proxy learns of a snapshot, and a second request is put off
theorem relayed_sync_answers :
    let asked : List RelayedEvent :=
      [.call (ClientSession.syncRegistry tagged demoClient (demoRound 1).client .client)]
    let later : List RelayedEvent :=
      [.pump .client 1000 true, .updated [], .handle (demoRound 1).server,
        .call (ClientSession.syncRegistry tagged demoClient (demoRound 2).client .proxy),
        .pump .server 1001 true, .receive]
    let start := Relayed.start ⟨[]⟩ demoWorld.session demoWorld.server
    (run (Relayed.step tagged demoServer) start asked).log.length <
        (run (Relayed.step tagged demoServer) start (asked ++ later)).log.length ∨
      (run (Relayed.step tagged demoServer) start (asked ++ later)).serving = false :=
  relayed_answers tagged lawful_tagged demoServer ⟨[]⟩ rfl demoWorld.session demoWorld.server _ _
    (by
      intro e he
      simp only [List.cons_append, List.nil_append, List.mem_cons, List.not_mem_nil, or_false] at he
      rcases he with rfl | rfl | rfl | rfl | rfl | rfl | rfl
      · trivial
      · exact rfl
      · exact rfl
      · exact List.length_replicate
      · trivial
      · exact rfl
      · trivial)
    (by decide +kernel) 1000 1001 (demoRound 1).server
    (.cons_cons _ (.cons _ (.cons_cons _ (.cons _ (.cons_cons _ (.cons_cons _ .slnil))))))

end Demo

end Secupload.System
