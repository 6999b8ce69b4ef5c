import Secupload.Server.OwnRotation
import Secupload.System.Enrollment

/-! What a session knows of the server's key after any history of connections, calls and
restarts of its process. -/

namespace Secupload.System

open Library Shared Client Server
open Shared.RotationEngine (mem_of_byStatus mem_put get_of_mem get_eq_some)

-- what happens to a process: its connections and calls, and what the server does meanwhile
inductive ProcessEvent (P : Primitives)
  | connect (k : PrivateKeys) (now : ℤ) (fate : Fate) (d : Server.Draw)
  | reopen
  | restart
  | call (operation : Operation) (fate : Fate) (r : Round) (drawn : Drawn P r)
  | tick (fresh successor : PrivateKeys) (now : ℤ)
  | serve (frame : Frame) (d : Server.Draw)

-- a new ClientSession with the identity and the ServerKeyState of the one before it
def reopened (s : ClientSession) : ClientSession := { s with connected := false }

-- a new process builds both anew, and finds the identity file
def restarted (ccfg : ClientConfig) (s : ClientSession) : ClientSession :=
  ⟨{ ClientIdentity.start ccfg with file := s.identity.file }, {}, false⟩

def calling (P : Primitives) (ccfg : ClientConfig) (operation : Operation) (d : Client.Draw) : Exchange :=
  Call.exchange P ccfg ⟨operation, d, none⟩

def undergo (P : Primitives) (ccfg : ClientConfig) (scfg : ServerConfig) (w : World) : ProcessEvent P → World
  | .connect k now fate d => (w.connect P ccfg scfg k now fate d).2
  | .reopen => { w with session := reopened w.session }
  | .restart => { w with session := restarted ccfg w.session }
  | .call operation fate r _ => (w.exchange P scfg (calling P ccfg operation r.client) fate r.server).2
  | .tick fresh successor now =>
    { w with server := { w.server with
        state := (w.server.state.maybeRotate P scfg fresh successor now).2 } }
  | .serve frame d => { w with server := (w.server.handleFrame P scfg d frame).2 }

def Issued (state : ServerState) (keys : ServerKeyState) : Prop :=
  ∃ c ∈ state.identity.engine.creds.rows, c.version = keys.version ∧ c.x25519Public = keys.x25519Public

-- the mark that `ensure_loaded` leaves in the identity
def markedEnrolled (c : ClientIdentity) : Bool :=
  match c.file with
  | none => c.enrolled
  | some file => file.enrolled

def Forgotten (s : ClientSession) : Prop := markedEnrolled s.identity = true ∧ s.serverKeys = {}

instance (state : ServerState) (keys : ServerKeyState) : Decidable (Issued state keys) :=
  inferInstanceAs (Decidable (∃ c ∈ _, _))

instance (s : ClientSession) : Decidable (Forgotten s) := inferInstanceAs (Decidable (_ ∧ _))

section Server

variable {P : Primitives} {scfg : ServerConfig} {s : ServerState} {k : PrivateKeys} {now : ℤ}

def Numbered (s : ServerState) : Prop := ∀ c ∈ s.identity.engine.creds.rows, 0 < c.version

structure Continues (s s' : ServerState) : Prop where
  loaded : s'.identity.loaded = s.identity.loaded
  evolves : s.identity.engine.Evolves s'.identity.engine
  numbered : Numbered s → Numbered s'

lemma Continues.refl (s : ServerState) : Continues s s := ⟨rfl, .refl _, id⟩

lemma Continues.of_identity {s s' : ServerState} (h : s'.identity = s.identity) : Continues s s' := by
  rw [← show ({ s' with identity := s.identity } : ServerState) = s' by rw [← h]]
  exact ⟨rfl, .refl _, id⟩

lemma Continues.trans {s s' s'' : ServerState} (h : Continues s s') (h' : Continues s' s'') :
    Continues s s'' :=
  ⟨h'.loaded.trans h.loaded, h.evolves.trans h'.evolves, h'.numbered ∘ h.numbered⟩

lemma numbered_rows {s' : ServerState} (h : Numbered s)
    (hrows : ∀ d ∈ s'.identity.engine.creds.rows, ∃ c ∈ s.identity.engine.creds.rows, c.Evolves d) :
    Numbered s' := by
  intro d hd
  obtain ⟨c, hc, hcd⟩ := hrows d hd
  rw [hcd.version]
  exact h c hc

lemma submitSuccessor_continues {active : CredentialPublic} (hactive : active ∈ s.identity.engine.creds.rows) :
    Continues s (s.submitSuccessor P scfg active k now).2 := by
  rw [ServerState.submitSuccessor]
  rcases Holder.generateSuccessor_cases P scfg.serverUuid s.identity.toHolder active k now with
    ⟨exc, he⟩ | ⟨signer, payload, _, _, hs, he⟩
  · rw [he]
    exact .refl s
  · rw [he]
    refine ⟨rfl, .put_new hs.newest, fun h d hd => ?_⟩
    rcases mem_put.mp hd with rfl | ⟨hd, _⟩
    · have hpositive : 0 < active.version := h active hactive
      change 0 < active.version + 1
      omega
    · exact h d hd

lemma promote_continues (s : ServerState) (now : ℤ) : Continues s (s.promote now).2 := by
  have hnumbered : Numbered s → Numbered (s.promote now).2 := fun h =>
    numbered_rows h fun d hd => ServerState.promote_rows s now hd
  rcases ServerState.promote_cases s now with ⟨_, he⟩ | ⟨_, v3, hv3, he⟩ | ⟨_, v2, v3, hv2, hv3, he⟩
  · rw [he]
    exact .refl s
  · rw [he] at hnumbered ⊢
    exact ⟨rfl, .put_of_mem (mem_of_byStatus hv3).1 (.retired rfl), hnumbered⟩
  · rw [he] at hnumbered ⊢
    exact ⟨rfl, s.identity.engine.evolves_promote now hv2 hv3, hnumbered⟩

lemma rotate_continues (s : ServerState) (k : PrivateKeys) (now : ℤ) :
    Continues s (s.rotate P scfg k now).2 := by
  cases hactive : s.identity.engine.active with
  | none =>
    rw [ServerState.rotate, hactive]
    exact .refl s
  | some active =>
    rw [ServerState.rotate_due hactive]
    refine Continues.trans ?_ (promote_continues _ now)
    rw [ServerState.due, hactive]
    dsimp only
    split_ifs
    · exact submitSuccessor_continues (mem_of_byStatus hactive).1
    · exact .refl s

lemma Issued.continues {s' : ServerState} {keys : ServerKeyState} (h : Issued s keys)
    (hs : Continues s s') : Issued s' keys := by
  obtain ⟨c, hc, hversion, hx25519⟩ := h
  obtain ⟨c', hc', hcc'⟩ := hs.evolves.cred c.version c (get_of_mem hc)
  exact ⟨c', (get_eq_some.mp hc').1, hcc'.version.trans hversion, hcc'.x25519.trans hx25519⟩

end Server

section Session

variable {P : Primitives} {ccfg : ClientConfig} {scfg : ServerConfig} {w : World}

lemma exchange_session (x : Exchange) (fate : Fate) (d : Server.Draw) :
    (w.exchange P scfg x fate d).2.session = (x.perform w.session (w.answer P scfg x fate d).1).2 := by
  rw [World.exchange]

lemma relay_serverKeys {x : Exchange} (hP : Lawful P) (hcipher : Conclusive P) (fate : Fate) {r : Round}
    (hr : Drawn P r) (hsend : ∀ s, (x.send s).2 = s)
    (hchannel : ∀ sent, (x.send w.session).1 = .ok sent → sent.frame.channel = channelRelay)
    (henvelope : x.envelope = relayEnvelope)
    (huse : ∀ s env, x.use s env = s.recvRelayResponse P env) :
    (w.exchange P scfg x fate r.server).2.session.serverKeys = w.session.serverKeys := by
  have hs := hsend w.session
  generalize hsending : x.send w.session = sending at hs hchannel
  obtain ⟨_ | sent, waiting⟩ := sending
  · rw [exchange_unsent scfg fate r.server hsending]
    exact congrArg ClientSession.serverKeys hs
  · obtain rfl : waiting = w.session := hs
    have hrelay := hchannel sent rfl
    simp only [World.exchange, World.answer, Exchange.perform, Outcome.bind, hsending, World.transmit]
    cases fate with
    | requestLost => rfl
    | replyLost => rfl
    | delivered =>
      dsimp only
      rw [handleFrame_relay hrelay]
      generalize hreply : w.server.handleRelay P scfg r.server sent.frame.payload = replied
      obtain ⟨_ | reply, server⟩ := replied
      · rfl
      · simp only [Except.toOption, Exchange.receive, henvelope]
        cases hread : relayEnvelope reply with
        | error exc => rfl
        | ok read =>
          dsimp only
          rw [huse]
          exact relay_announces_nothing hP hcipher hr hreply hread

lemma unannounced {operation : Operation} {fate : Fate} {r : Round}
    (hrequest : ∀ msg, operation ≠ .request msg)
    (hchunk : ∀ objectUuid chunkIndex data, operation ≠ .sendChunk objectUuid chunkIndex data) :
    (w.exchange P scfg (calling P ccfg operation r.client) fate r.server).2.session.serverKeys =
      w.session.serverKeys := by
  rw [exchange_session]
  generalize (w.answer P scfg (calling P ccfg operation r.client) fate r.server).1 = reply
  have hstep : (w.session.step P ccfg ⟨operation, r.client, reply⟩).serverKeys = _ :=
    ClientSession.step_serverKeys ⟨operation, r.client, reply⟩
  rw [ClientSession.response?_none hrequest hchunk] at hstep
  exact hstep

lemma exchange_serverKeys (hP : Lawful P) (hcipher : Conclusive P) (operation : Operation) (fate : Fate)
    {r : Round} (hr : Drawn P r) :
    (w.exchange P scfg (calling P ccfg operation r.client) fate r.server).2.session.serverKeys =
      w.session.serverKeys := by
  cases operation with
  | request msg =>
    refine relay_serverKeys hP hcipher fate hr (fun _ => rfl) ?_ rfl fun _ _ => rfl
    intro sent hsent
    obtain ⟨inner, _, hsent⟩ := except_bind_eq_ok.mp hsent
    obtain ⟨env, _, hsent⟩ := except_bind_eq_ok.mp hsent
    exact (sendRelay_relays hsent).1
  | sendChunk objectUuid chunkIndex data =>
    refine relay_serverKeys hP hcipher fate hr (fun _ => rfl) ?_ rfl fun _ _ => rfl
    intro sent hsent
    obtain ⟨env, _, hsent⟩ := except_bind_eq_ok.mp hsent
    exact (sendRelay_relays hsent).1
  | requestChunk objectUuid chunkIndex => exact unannounced nofun nofun
  | syncRegistry kind => exact unannounced nofun nofun
  | rotate => exact unannounced nofun nofun
  | checkpointRotation => exact unannounced nofun nofun
  | rollbackRotation => exact unannounced nofun nofun

lemma transmit_identity (frame : Frame) (fate : Fate) (d : Server.Draw) :
    (w.transmit P scfg frame fate d).2.state.identity = w.server.state.identity := by
  cases fate with
  | requestLost => rfl
  | replyLost => exact handleFrame_identity P scfg w.server d frame
  | delivered => exact handleFrame_identity P scfg w.server d frame

lemma exchange_identity (x : Exchange) (fate : Fate) (d : Server.Draw) :
    (w.exchange P scfg x fate d).2.server.state.identity = w.server.state.identity := by
  simp only [World.exchange, World.answer]
  split
  · rfl
  · exact transmit_identity _ fate d

lemma enroll_identity (fate : Fate) (d : Server.Draw) :
    (w.enroll P ccfg scfg fate d).2.server.state.identity = w.server.state.identity := by
  rw [World.enroll]
  split
  · rfl
  · rename_i frame _
    have hidentity : (w.transmit P scfg frame fate d).2.state.identity = w.server.state.identity :=
      transmit_identity frame fate d
    generalize w.transmit P scfg frame fate d = transmitted at hidentity
    obtain ⟨_ | reply, server⟩ := transmitted
    · exact hidentity
    · exact hidentity

lemma enroll_issued {fate : Fate} {d : Server.Draw} (h : (w.enroll P ccfg scfg fate d).1 = .ok ()) :
    Issued (w.enroll P ccfg scfg fate d).2.server.state
      (w.enroll P ccfg scfg fate d).2.session.serverKeys := by
  rcases enroll_cases P ccfg scfg w fate d with
    ⟨hfailed, _⟩ | ⟨frame, reply, info, hframe, hreply, hkey, hdone⟩
  · exact (hfailed h).elim
  obtain ⟨_, hchannel, cred, body, _, hbody, hpayload⟩ := enrollFrame_eq_ok hframe
  have hidentity := handleFrame_identity P scfg w.server d frame
  rw [Connection.handleFrame, if_pos hchannel] at hreply
  obtain ⟨_, _, c, _, _, hcredential, _, hversion, hx25519⟩ := handleEnroll_done hpayload hbody rfl hreply hkey
  rw [hdone]
  refine ⟨c, ?_, hversion.symm, hx25519.symm⟩
  dsimp only
  rw [hidentity]
  rw [ServerState.credential] at hcredential
  split at hcredential
  · cases hcredential
  · rename_i active hactive
    obtain rfl := Except.ok.inj hcredential
    exact (mem_of_byStatus hactive).1

lemma dial_keeps {s s' : ClientSession} {result : Except Exn Unit} {k : PrivateKeys} {now : ℤ}
    (h : s.dial P ccfg k now = (result, s')) : s'.serverKeys = s.serverKeys ∧
      (result = .ok () → s'.identity.enrolled = markedEnrolled s.identity) := by
  rw [ClientSession.dial, ClientIdentity.ensureLoaded] at h
  rw [markedEnrolled]
  cases hfile : s.identity.file with
  | none =>
    rw [hfile] at h
    dsimp only at h
    rw [ClientIdentity.fresh] at h
    generalize s.identity.toHolder.provision P (s.identity.identityUuid P ccfg) k now = provisioned at h
    obtain ⟨_ | _, holder⟩ := provisioned
    · obtain ⟨rfl, rfl⟩ := Prod.mk.inj h
      exact ⟨rfl, fun hok => by cases hok⟩
    · obtain ⟨rfl, rfl⟩ := Prod.mk.inj h
      exact ⟨rfl, fun _ => rfl⟩
  | some file =>
    rw [hfile] at h
    dsimp only at h
    rw [ClientIdentity.load] at h
    by_cases hempty : file.keys.rows = []
    · rw [if_pos hempty] at h
      obtain ⟨rfl, rfl⟩ := Prod.mk.inj h
      exact ⟨rfl, fun hok => by cases hok⟩
    · rw [if_neg hempty] at h
      obtain ⟨rfl, rfl⟩ := Prod.mk.inj h
      exact ⟨rfl, fun _ => rfl⟩

variable (P ccfg scfg w) in
lemma connect_cases (k : PrivateKeys) (now : ℤ) (fate : Fate) (d : Server.Draw) :
    (w.connect P ccfg scfg k now fate d).2.server.state.identity = w.server.state.identity ∧
      (Issued (w.connect P ccfg scfg k now fate d).2.server.state
          (w.connect P ccfg scfg k now fate d).2.session.serverKeys ∧
          markedEnrolled w.session.identity = false ∨
        (w.connect P ccfg scfg k now fate d).2.session.serverKeys = w.session.serverKeys ∧
          ((w.connect P ccfg scfg k now fate d).1 = .ok () → markedEnrolled w.session.identity = true)) := by
  rw [World.connect]
  generalize hdial : w.session.dial P ccfg k now = dialled
  obtain ⟨_ | _, session⟩ := dialled
  · exact ⟨rfl, Or.inr ⟨(dial_keeps hdial).1, fun hok => by cases hok⟩⟩
  · obtain ⟨hkeys, hmarked⟩ := dial_keeps hdial
    have hmarked := hmarked rfl
    dsimp only
    split_ifs with henrolled
    · exact ⟨rfl, Or.inr ⟨hkeys, fun _ => hmarked.symm.trans henrolled⟩⟩
    · refine ⟨enroll_identity fate d, ?_⟩
      by_cases hok : (({ w with session } : World).enroll P ccfg scfg fate d).1 = .ok ()
      · refine Or.inl ⟨enroll_issued hok, ?_⟩
        rw [← hmarked]
        simpa using henrolled
      · refine Or.inr ⟨?_, fun h => (hok h).elim⟩
        rcases enroll_cases P ccfg scfg { w with session } fate d with
          ⟨_, hsession⟩ | ⟨_, _, _, _, _, _, hdone⟩
        · rw [hsession]
          exact hkeys
        · exact (hok (congrArg Prod.fst hdone)).elim

structure Informed (w : World) : Prop where
  loaded : w.server.state.identity.loaded = true
  numbered : Numbered w.server.state
  keys : w.session.serverKeys = {} ∨ Issued w.server.state w.session.serverKeys

lemma Informed.next {w' : World} (h : Informed w) (hserver : Continues w.server.state w'.server.state)
    (hkeys : w'.session.serverKeys = {} ∨ w'.session.serverKeys = w.session.serverKeys ∨
      Issued w'.server.state w'.session.serverKeys) : Informed w' := by
  refine ⟨hserver.loaded.trans h.loaded, hserver.numbered h.numbered, ?_⟩
  rcases hkeys with hnone | hsame | hissued
  · exact Or.inl hnone
  · rw [hsame]
    exact h.keys.imp_right fun hissued => hissued.continues hserver
  · exact Or.inr hissued

lemma Informed.undergo (hP : Lawful P) (hcipher : Conclusive P) (h : Informed w) (e : ProcessEvent P) :
    Informed (undergo P ccfg scfg w e) := by
  cases e with
  | connect k now fate d =>
    obtain ⟨hidentity, ⟨hissued, _⟩ | ⟨hsame, _⟩⟩ := connect_cases P ccfg scfg w k now fate d
    · exact h.next (.of_identity hidentity) (Or.inr (Or.inr hissued))
    · exact h.next (.of_identity hidentity) (Or.inr (Or.inl hsame))
  | reopen => exact h.next (.refl _) (Or.inr (Or.inl rfl))
  | restart => exact h.next (.refl _) (Or.inl rfl)
  | call operation fate r drawn =>
    exact h.next (.of_identity (exchange_identity _ fate r.server))
      (Or.inr (Or.inl (exchange_serverKeys hP hcipher operation fate drawn)))
  | tick fresh successor now =>
    refine h.next ?_ (Or.inr (Or.inl rfl))
    rw [System.undergo, ServerState.maybeRotate_loaded h.loaded]
    exact rotate_continues w.server.state successor now
  | serve frame d => exact h.next (.of_identity (handleFrame_identity P scfg w.server d frame)) (Or.inr (Or.inl rfl))

end Session

lemma numbered_provisioned (P : Primitives) {scfg : ServerConfig} {db : Database} (keyFile : Option KeyMap)
    (k : PrivateKeys) (now : ℤ) (hdb : db.loadEngine scfg.params scfg.serverUuid = none) :
    ((ServerState.start scfg db keyFile).ensureLoaded P scfg k now).2.identity.loaded = true ∧
      Numbered ((ServerState.start scfg db keyFile).ensureLoaded P scfg k now).2 := by
  rw [ServerState.ensureLoaded_first P scfg db keyFile k now hdb]
  refine ⟨rfl, fun c hc => ?_⟩
  rcases mem_put.mp hc with rfl | ⟨hc, _⟩
  · exact one_pos
  · cases hc

theorem connect_informs_iff (P : Primitives) (hP : Lawful P) (hcipher : Conclusive P)
    (ccfg : ClientConfig) (scfg : ServerConfig) (db : Database) (keyFile : Option KeyMap)
    (k₀ : PrivateKeys) (t₀ : ℤ) (w : World) (hdb : db.loadEngine scfg.params scfg.serverUuid = none)
    (hserver : w.server.state = ((ServerState.start scfg db keyFile).ensureLoaded P scfg k₀ t₀).2)
    (hsession : w.session.serverKeys = {}) (es : List (ProcessEvent P)) (k : PrivateKeys) (now : ℤ)
    (fate : Fate) (d : Server.Draw) :
    let before := run (undergo P ccfg scfg) w es
    let after := before.connect P ccfg scfg k now fate d
    after.1 = .ok () →
      (Issued after.2.server.state after.2.session.serverKeys ↔ ¬ Forgotten before.session) := by
  intro before after hok
  have hstart : Informed w := by
    obtain ⟨hloaded, hnumbered⟩ := numbered_provisioned P keyFile k₀ t₀ hdb
    rw [← hserver] at hloaded hnumbered
    exact ⟨hloaded, hnumbered, Or.inl hsession⟩
  have hbefore : Informed before :=
    run_invariant (fun _ e h => h.undergo hP hcipher e) hstart es
  have hafter : Informed after.2 := hbefore.undergo hP hcipher (.connect k now fate d)
  obtain ⟨hidentity, hcases⟩ := connect_cases P ccfg scfg before k now fate d
  rcases hcases with ⟨hissued, hunmarked⟩ | ⟨hsame, hmarked⟩
  · refine iff_of_true hissued ?_
    rintro ⟨hmarked, _⟩
    rw [hunmarked] at hmarked
    cases hmarked
  · constructor
    · rintro ⟨c, hc, hversion, _⟩ ⟨_, hnone⟩
      have hpositive := hafter.numbered c hc
      have hzero : after.2.session.serverKeys.version = 0 := by
        rw [show after.2.session.serverKeys = _ from hsame, hnone]
      omega
    · intro hkept
      refine hafter.keys.resolve_left fun hnone => hkept ⟨hmarked hok, ?_⟩
      rw [← show after.2.session.serverKeys = before.session.serverKeys from hsame]
      exact hnone

section Demo

def demoStart : World := ⟨ClientSession.start demoClient, demoConnection⟩

def enrolling : ProcessEvent tagged := .connect (demoKeys 1) 1000 .delivered (demoRound 0).server

theorem reopened_session_informed :
    let after := (run (undergo tagged demoClient demoServer) demoStart [enrolling, .reopen]).connect tagged
      demoClient demoServer (demoKeys 1) 2000 .delivered (demoRound 1).server
    Issued after.2.server.state after.2.session.serverKeys :=
  (connect_informs_iff tagged lawful_tagged conclusive_tagged demoClient demoServer _ none (demoKeys 9) 1000
    demoStart (by decide +kernel) rfl rfl [enrolling, .reopen] (demoKeys 1) 2000 .delivered
    (demoRound 1).server (by decide +kernel)).mpr (by decide +kernel)

-- a process that starts again finds the mark in the identity file, and asks for no key
theorem restarted_session_uninformed :
    ¬ ∀ (P : Primitives) (ccfg : ClientConfig) (scfg : ServerConfig) (db : Database)
      (keyFile : Option KeyMap) (k₀ : PrivateKeys) (t₀ : ℤ) (w : World), Lawful P → Conclusive P →
      db.loadEngine scfg.params scfg.serverUuid = none →
      w.server.state = ((ServerState.start scfg db keyFile).ensureLoaded P scfg k₀ t₀).2 →
      w.session.serverKeys = {} → ∀ (es : List (ProcessEvent P)) (k : PrivateKeys) (now : ℤ) (fate : Fate)
        (d : Server.Draw),
      ((run (undergo P ccfg scfg) w es).connect P ccfg scfg k now fate d).1 = .ok () →
      Issued ((run (undergo P ccfg scfg) w es).connect P ccfg scfg k now fate d).2.server.state
        ((run (undergo P ccfg scfg) w es).connect P ccfg scfg k now fate d).2.session.serverKeys := by
  intro h
  have hissued := h tagged demoClient demoServer _ none (demoKeys 9) 1000 demoStart lawful_tagged
    conclusive_tagged (by decide +kernel) rfl rfl [enrolling, .restart] (demoKeys 1) 2000 .delivered
    (demoRound 1).server (by decide +kernel)
  revert hissued
  decide +kernel

end Demo

end Secupload.System
