import Secupload.System.Accountability
import Secupload.System.Replies

/-! Envelopes presented again while the clock still accepts their timestamp: how many frames the
replay cache has to remember until then. -/

namespace Secupload.System

open Library Shared Client Server

def carried? (frame : Frame) : Option Envelope :=
  if frame.channel = channelControl then
    match parseControl frame.payload with
    | .error _ => none
    | .ok msg =>
      match Action.ofCode? msg.ctype with
      | none => none
      | some _ => (parseEnvelope msg.body).toOption
  else if frame.channel = channelRelay then (parseEnvelope frame.payload).toOption
  else none

def ServerEvent.clock? : ServerEvent → Option ℤ
  | .frame f d => (carried? f).map fun _ => d.authNow
  | _ => none

def ServerEvent.key? : ServerEvent → Option Bytes
  | .frame f d =>
    match carried? f with
    | none => none
    | some env => if timestampOk env.timestamp d.authNow then some env.replayKey else none
  | _ => none

-- the clock never goes back, and the envelopes that come while it passes the timestamp window
-- from end to end have no more keys than the cache holds
structure Moderate (capacity : ℕ) (events : List ServerEvent) : Prop where
  forward : (events.filterMap ServerEvent.clock?).Pairwise (· ≤ ·)
  sparse : ∀ stretch, stretch <:+: events →
    (∀ t ∈ stretch.filterMap ServerEvent.clock?, ∀ t' ∈ stretch.filterMap ServerEvent.clock?,
      t' - t ≤ 2 * timestampWindow) →
    (stretch.filterMap ServerEvent.key?).dedup.length ≤ capacity

lemma carried?_of_carries {frame : Frame} {env : Envelope} (h : Carries frame env) : carried? frame = some env := by
  rcases h with ⟨hchannel, hparse⟩ | ⟨hchannel, msg, action, hmsg, haction, hparse⟩
  · rw [carried?, if_neg (by rw [hchannel]; decide), if_pos hchannel, hparse]
    rfl
  · rw [carried?, if_pos hchannel, hmsg]
    dsimp only
    rw [haction, hparse]
    rfl

section Cache

variable {P : Primitives} {scfg : ServerConfig} {conn : Connection} {d : Server.Draw}

variable (P scfg) in
lemma authenticate_replay (auth : Authenticator) (db : Server.Database) (env : Envelope) (now : ℤ) :
    (auth.authenticate P scfg.params db env now).2.replay =
      if timestampOk env.timestamp now then auth.replay.touch env.replayKey else auth.replay :=
  Authenticator.present_replay auth ⟨db, env, now⟩

lemma receive_replay (srv : Tunnel2Server) (body : Bytes) :
    (srv.receive P scfg d body).2.auth.replay =
      match parseEnvelope body with
      | .error _ => srv.auth.replay
      | .ok env => if timestampOk env.timestamp d.authNow then srv.auth.replay.touch env.replayKey
          else srv.auth.replay := by
  rw [Tunnel2Server.receive]
  cases parseEnvelope body with
  | error exc => rfl
  | ok env =>
    dsimp only
    rw [← authenticate_replay P scfg srv.auth srv.state.db env d.authNow]
    split
    · rename_i hauth
      rw [hauth]
    · rename_i hauth
      rw [hauth]

lemma handleAuthenticated_replay (srv : Tunnel2Server) (action : Action) (body : Bytes) :
    (srv.handleAuthenticated P scfg d action body).2.auth.replay = (srv.receive P scfg d body).2.auth.replay := by
  rw [Tunnel2Server.handleAuthenticated]
  rcases srv.receive P scfg d body with ⟨_ | _, srv'⟩ <;> rfl

lemma handleEnroll_replay (srv : Tunnel2Server) (body : Bytes) :
    (srv.handleEnroll P scfg d body).2.auth.replay = srv.auth.replay := by
  rw [Tunnel2Server.handleEnroll]
  split
  · rfl
  · split <;> rfl

lemma handleControl_replay (srv : Tunnel2Server) (payload : Bytes) :
    (srv.handleControl P scfg d payload).2.auth.replay =
      match parseControl payload with
      | .error _ => srv.auth.replay
      | .ok msg =>
        match Action.ofCode? msg.ctype with
        | none => srv.auth.replay
        | some _ => (srv.receive P scfg d msg.body).2.auth.replay := by
  have hperform : (srv.handleControl P scfg d payload).2 = (srv.perform P scfg d payload).2 := by
    rw [Tunnel2Server.handleControl]
    rcases srv.perform P scfg d payload with ⟨_ | _, srv'⟩ <;> rfl
  rw [hperform, Tunnel2Server.perform]
  cases parseControl payload with
  | error exc => rfl
  | ok msg =>
    dsimp only
    split_ifs with henroll
    · rw [henroll]
      exact handleEnroll_replay srv msg.body
    · cases Action.ofCode? msg.ctype with
      | none => rfl
      | some action => exact handleAuthenticated_replay srv action msg.body

lemma handleRelay_replay (payload : Bytes) :
    (conn.handleRelay P scfg d payload).2.auth.replay =
      match parseEnvelope payload with
      | .error _ => conn.auth.replay
      | .ok env => if timestampOk env.timestamp d.authNow then conn.auth.replay.touch env.replayKey
          else conn.auth.replay := by
  rw [Connection.handleRelay]
  cases parseEnvelope payload with
  | error exc => rfl
  | ok env =>
    dsimp only
    obtain ⟨objects, hattempt⟩ := attempt_withObjects P scfg conn d env
    rw [hattempt]
    exact authenticate_replay P scfg conn.auth conn.state.db env d.authNow

variable (P scfg conn) in
lemma serve_replay (e : ServerEvent) :
    (serve P scfg conn e).auth.replay = run Lru.touch conn.auth.replay e.key?.toList := by
  cases e with
  | issue token purpose kind ttl identityUuid now time => rfl
  | rotate fresh successor now => rfl
  | frame f d =>
    rw [serve, Connection.handleFrame, ServerEvent.key?, carried?]
    split_ifs with hcontrol hrelay
    · dsimp only
      rw [handleControl_replay]
      cases parseControl f.payload with
      | error exc => rfl
      | ok msg =>
        dsimp only
        cases Action.ofCode? msg.ctype with
        | none => rfl
        | some action =>
          dsimp only
          rw [receive_replay]
          cases parseEnvelope msg.body with
          | error exc => rfl
          | ok env =>
            dsimp only [Except.toOption]
            split_ifs <;> rfl
    · rw [handleRelay_replay]
      cases parseEnvelope f.payload with
      | error exc => rfl
      | ok env =>
        dsimp only [Except.toOption]
        split_ifs <;> rfl
    · rfl

lemma run_serve_replay (events : List ServerEvent) : (run (serve P scfg) conn events).auth.replay =
    run Lru.touch conn.auth.replay (events.filterMap ServerEvent.key?) := by
  induction events generalizing conn with
  | nil => rfl
  | cons e events ih =>
    rw [run_cons, ih, serve_replay]
    cases hkey : e.key? with
    | none => rw [List.filterMap_cons_none hkey, Option.toList_none, run_nil]
    | some key => rw [List.filterMap_cons_some hkey, Option.toList_some, run_cons, run_nil, run_cons]

variable (P scfg) in
lemma authenticate_again {auth : Authenticator} {env : Envelope} {now : ℤ}
    (h : timestampOk env.timestamp now = true → env.replayKey ∈ auth.replay.entries) (db : Server.Database) :
    ∃ message auth', auth.authenticate P scfg.params db env now = (.error (.authError
      (if timestampOk env.timestamp now then "REPLAY" else "STALE_TIMESTAMP") message), auth') := by
  rw [Authenticator.authenticate]
  cases htimely : timestampOk env.timestamp now with
  | false => exact ⟨_, _, rfl⟩
  | true =>
    rw [if_neg (by decide), ReplayCache.checkAndAdd, decide_eq_false (not_not.mpr (h htimely))]
    exact ⟨_, _, rfl⟩

lemma handleFrame_refused {frame : Frame} {env : Envelope} {exc : Exn} {auth : Authenticator}
    (hcarries : Carries frame env)
    (hrefused : conn.auth.authenticate P scfg.params conn.state.db env d.authNow = (.error exc, auth)) :
    (conn.handleFrame P scfg d frame).2 = conn.withAuth auth := by
  rcases hcarries with ⟨hchannel, hparse⟩ | ⟨hchannel, msg, action, hmsg, haction, hparse⟩
  · rw [Connection.handleFrame, if_neg (by rw [hchannel]; decide), if_pos hchannel, Connection.handleRelay, hparse]
    dsimp only
    rw [Connection.attempt, hrefused]
  · have henroll : msg.ctype ≠ ControlType.enroll.code := by
      intro henroll
      rw [henroll] at haction
      cases haction
    rw [Connection.handleFrame, if_pos hchannel, Tunnel2Server.handleControl, Tunnel2Server.perform, hmsg]
    dsimp only
    rw [if_neg henroll, haction]
    dsimp only
    rw [Tunnel2Server.handleAuthenticated, Tunnel2Server.receive, hparse]
    dsimp only
    rw [hrefused]
    rfl

end Cache

lemma Moderate.few {capacity : ℕ} {pre mid post : List ServerEvent} {frame frame' : Frame} {d d' : Server.Draw}
    {env env' : Envelope} (h : Moderate capacity (pre ++ .frame frame d :: (mid ++ .frame frame' d' :: post)))
    (hfirst : Carries frame env) (hagain : Carries frame' env')
    (hwithin : d'.authNow - d.authNow ≤ 2 * timestampWindow) :
    ((ServerEvent.frame frame d :: mid).filterMap ServerEvent.key?).dedup.length ≤ capacity := by
  have hclock : (ServerEvent.frame frame d).clock? = some d.authNow := by
    rw [ServerEvent.clock?, carried?_of_carries hfirst]
    rfl
  have hclock' : (ServerEvent.frame frame' d').clock? = some d'.authNow := by
    rw [ServerEvent.clock?, carried?_of_carries hagain]
    rfl
  have hforward := h.forward
  rw [List.filterMap_append, List.filterMap_cons_some hclock, List.filterMap_append,
    List.filterMap_cons_some hclock'] at hforward
  obtain ⟨-, hlater, -⟩ := List.pairwise_append.mp hforward
  obtain ⟨hfrom, hmid⟩ := List.pairwise_cons.mp hlater
  obtain ⟨-, -, huntil⟩ := List.pairwise_append.mp hmid
  have hbetween : ∀ t ∈ (ServerEvent.frame frame d :: mid).filterMap ServerEvent.clock?,
      d.authNow ≤ t ∧ t ≤ d'.authNow := by
    intro t ht
    rw [List.filterMap_cons_some hclock] at ht
    rcases List.mem_cons.mp ht with rfl | ht
    · exact ⟨le_rfl, hfrom _ (List.mem_append_right _ List.mem_cons_self)⟩
    · exact ⟨hfrom t (List.mem_append_left _ ht), huntil t ht _ List.mem_cons_self⟩
  refine h.sparse _ ⟨pre, .frame frame' d' :: post, by simp⟩ ?_
  intro t ht t' ht'
  have hlow := (hbetween t ht).1
  have hhigh := (hbetween t' ht').2
  omega

theorem presented_once (P : Primitives) (scfg : ServerConfig) (conn : Connection) (pre mid post : List ServerEvent)
    (frame frame' : Frame) (d d' : Server.Draw) (env env' : Envelope)
    (hmoderate : Moderate conn.auth.replay.capacity (pre ++ .frame frame d :: (mid ++ .frame frame' d' :: post)))
    (hfirst : Carries frame env) (htimely : timestampOk env.timestamp d.authNow = true) (hagain : Carries frame' env')
    (hsame : env'.senderUuid = env.senderUuid ∧ env'.nonce = env.nonce ∧ env'.timestamp = env.timestamp) :
    let srv := run (serve P scfg) conn (pre ++ .frame frame d :: mid)
    srv.auth.verdict P scfg.params srv.state.db env' d'.authNow =
        .refuse (if timestampOk env'.timestamp d'.authNow then "REPLAY" else "STALE_TIMESTAMP") ∧
      ∃ auth, serve P scfg srv (.frame frame' d') = srv.withAuth auth := by
  intro srv
  have hkey : (ServerEvent.frame frame d).key? = some env.replayKey := by
    rw [ServerEvent.key?, carried?_of_carries hfirst]
    exact if_pos htimely
  have hremembered : timestampOk env'.timestamp d'.authNow = true → env'.replayKey ∈ srv.auth.replay.entries := by
    intro htimely'
    -- both readings are within the window of the one timestamp
    have hwithin : d'.authNow - d.authNow ≤ 2 * timestampWindow := by
      have hbefore := abs_le'.mp (of_decide_eq_true htimely)
      have hafter := abs_le'.mp (of_decide_eq_true htimely')
      rw [hsame.2.2] at hafter
      omega
    have hfew := hmoderate.few hfirst hagain hwithin
    rw [Envelope.replayKey_eq_iff.mpr ⟨hsame.1, hsame.2.1⟩]
    change env.replayKey ∈ (run (serve P scfg) conn (pre ++ .frame frame d :: mid)).auth.replay.entries
    rw [run_append, run_serve_replay]
    refine Lru.mem_run_touch_of_few ?_ ?_
    · rw [List.filterMap_cons_some hkey]
      exact List.mem_cons_self
    · rw [run_serve_replay, Lru.run_touch_capacity]
      exact hfew
  obtain ⟨message, auth, hauth⟩ := authenticate_again P scfg hremembered srv.state.db
  refine ⟨?_, auth, handleFrame_refused hagain hauth⟩
  rw [Authenticator.verdict, hauth]
  rfl

section Demo

open Server.Tunnel2Server (frontServer serving demoDraw demoControlEnvelope demoControlBody)

def rotatingServer : Connection :=
  ⟨serving transparent frontServer Database.rotatingRun (demoKeys 6) 1000, .empty, .empty⟩

def actionFrame (action : Action) : Frame :=
  ⟨channelControl, (encodeControl action.ctype.code demoControlBody).toOption.getD []⟩

lemma actionFrame_carries {action : Action} (h : action = .rotateCheckpoint ∨ action = .rotateRollback) :
    Carries (actionFrame action) (demoControlEnvelope.toOption.getD (Authenticator.demoEnvelope 0)) := by
  have hbody : parseEnvelope demoControlBody =
      .ok (demoControlEnvelope.toOption.getD (Authenticator.demoEnvelope 0)) := by decide +kernel
  refine Or.inr ⟨rfl, ⟨action.ctype.code, demoControlBody⟩, action, ?_, Action.ofCode?_code action, ?_⟩
  · rcases h with rfl | rfl <;> decide +kernel
  · dsimp only
    exact hbody

theorem checkpoint_not_rolled_back :
    ∃ auth, serve transparent frontServer
        (run (serve transparent frontServer) rotatingServer [.frame (actionFrame .rotateCheckpoint) demoDraw])
        (.frame (actionFrame .rotateRollback) demoDraw) =
      (run (serve transparent frontServer) rotatingServer
        [.frame (actionFrame .rotateCheckpoint) demoDraw]).withAuth auth := by
  refine (presented_once transparent frontServer rotatingServer [] [] [] (actionFrame .rotateCheckpoint)
    (actionFrame .rotateRollback) demoDraw demoDraw _ _ ⟨by decide +kernel, ?_⟩
    (actionFrame_carries (Or.inl rfl)) (by decide +kernel) (actionFrame_carries (Or.inr rfl)) ⟨rfl, rfl, rfl⟩).2
  intro stretch hstretch _
  calc (stretch.filterMap ServerEvent.key?).dedup.length
    _ ≤ (stretch.filterMap ServerEvent.key?).length := (List.dedup_sublist _).length_le
    _ ≤ stretch.length := List.length_filterMap_le _ _
    _ ≤ 2 := hstretch.length_le
    _ ≤ rotatingServer.auth.replay.capacity := by decide +kernel

end Demo

end Secupload.System
