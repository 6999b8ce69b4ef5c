import Secupload.Server.ControlActions
import Secupload.Server.EngineRefinement
import Secupload.System.Replies

namespace Secupload.System

open Library Shared Client Server
open Shared.RotationEngine (Transition submitted promoted demoted retired)
open Server.Database (call_eq_error call_eq_ok loadEngine_call)

section Submission

lemma parse_encodeSuccessorPayload {I : Uuid} {oldVersion newVersion : ℤ}
    {ed25519Public x25519Public metadata data : Bytes}
    (h : encodeSuccessorPayload I oldVersion newVersion ed25519Public x25519Public metadata =
      .ok data) :
    parseSuccessorPayload data =
      .ok ⟨I, oldVersion, newVersion, ed25519Public, x25519Public, metadata⟩ := by
  have hparse : Decoder.parse data (do
      let tag ← Decoder.bytes
      let identityUuid ← Decoder.uuid
      let oldVersion ← Decoder.u32
      let newVersion ← Decoder.u32
      let newEd25519Public ← Decoder.bytes
      let newX25519Public ← Decoder.bytes
      let transitionMetadata ← Decoder.bytes
      return (tag, (⟨identityUuid.getD Uuid.nil, oldVersion, newVersion, newEd25519Public,
        newX25519Public, transitionMetadata⟩ : SuccessorPayload))) =
      .ok (successorTag, ⟨I, oldVersion, newVersion, ed25519Public, x25519Public, metadata⟩) := by
    refine Leads.parse (fun hnew => ?_) h
    have hversions := (((hnew.bytes successorTag).uuid (some I)).u32 oldVersion).u32 newVersion
    have hread := ((hversions.bytes ed25519Public).bytes x25519Public).bytes metadata
    exact hread
  rw [Decoder.parse, StateT.run_bind] at hparse
  obtain ⟨⟨_, _⟩, hrun, hsame⟩ := except_bind_eq_ok.mp hparse
  obtain ⟨⟨tag, dec⟩, htag, hfields⟩ := except_bind_eq_ok.mp hrun
  simp only [StateT.run_bind, except_bind_eq_ok, Prod.exists] at hfields
  obtain ⟨u, d₁, hu, v, d₂, hv, w, d₃, hw, x, d₄, hx, y, d₅, hy, z, d₆, hz, hlast⟩ := hfields
  obtain ⟨rfl, rfl⟩ := Prod.mk.inj (Except.ok.inj hlast)
  obtain ⟨rfl, hpayload⟩ := Prod.mk.inj (Except.ok.inj hsame)
  simp only [parseSuccessorPayload, htag, hu, hv, hw, hx, hy, hz, except_ok_bind, StateT.run_bind]
  rw [← hpayload]
  rfl

lemma payloadPart_signed {payload signature : Bytes} (h : signature.length = ed25519SignatureSize) :
    Database.payloadPart (payload ++ signature) = payload := by
  rw [Database.payloadPart, List.length_append, h, Nat.add_sub_cancel]
  exact List.take_left

lemma signaturePart_signed {payload signature : Bytes} (h : signature.length = ed25519SignatureSize) :
    Database.signaturePart (payload ++ signature) = signature := by
  rw [Database.signaturePart, List.length_append, h, Nat.add_sub_cancel]
  exact List.drop_left

end Submission

lemma parse_status {status : ℤ} {message data : Bytes} (h : encodeControl status message = .ok data) :
    parseStatusInner data = .ok (status, message) := by
  refine Leads.parse (fun hnew => ?_) h
  have hread := (hnew.u8 status).bytes message
  exact hread

def okResponse : Bytes := [0, 0, 0, 0, 2] ++ utf8 "ok"

lemma parse_okResponse : parseStatusInner okResponse = .ok (0, utf8 "ok") :=
  parse_status Database.encodeControl_ok

def Acts (P : Primitives) (I : Uuid) (S : RotationEngine) (inner : Bytes) (now : ℤ) :
    Action → RotationEngine → Prop
  | .rotateSubmit, S' => ∃ p, parseSuccessorPayload (Database.payloadPart inner) = .ok p ∧
      S.Submittable P (newCredential I p.newVersion p.newEd25519Public p.newX25519Public)
        (Database.signaturePart inner) p.transitionMetadata now ∧
      S' = S.put (submitted S.params
        (newCredential I p.newVersion p.newEd25519Public p.newX25519Public) now)
  | .rotateCheckpoint, S' => ∃ v3 v2, S.validating = some v3 ∧ S.active = some v2 ∧
      S.Checkpointable now ∧
      S' = (S.terminateFallback.put (demoted S.params v2 now)).put (promoted v3 now)
  | .rotateRollback, S' => ∃ v3, S.validating = some v3 ∧ S' = S.put (retired v3 .terminated)
  | _, _ => False

def Rotates : Action → Prop
  | .rotateSubmit | .rotateCheckpoint | .rotateRollback => True
  | _ => False

section Registry

variable {P : Primitives} {params : RotationParams} {db : Database} {I : Uuid} {S : RotationEngine}
  {inner : Bytes} {now : ℤ} {action : Action}

lemma call_answered {c : Server.Call} {α : Type} {f : List CredentialPublic → Database → α}
    (hload : db.loadEngine params I = some S) :
    (∃ exc, ((db.call P params I c).map f).bind (fun _ db => (encodeControl 0 (utf8 "ok"), db)) =
      (.error exc, db)) ∨
    ∃ changed S' db', (c.transition I).exec P S = (.ok changed, S') ∧
      db'.loadEngine params I = some S' ∧
      ((db.call P params I c).map f).bind (fun _ db => (encodeControl 0 (utf8 "ok"), db)) =
        (.ok okResponse, db') := by
  cases he : (c.transition I).exec P S with
  | mk result S' =>
    cases result with
    | error exc =>
      rw [call_eq_error hload (congrArg Prod.fst he)]
      exact Or.inl ⟨_, rfl⟩
    | ok changed =>
      refine Or.inr ⟨changed, S', (db.call P params I c).2, rfl,
        loadEngine_call hload he, ?_⟩
      have hok : db.call P params I c = (.ok changed, (db.call P params I c).2) :=
        Prod.ext (call_eq_ok hload he) rfl
      rw [hok]
      exact Prod.ext Database.encodeControl_ok rfl

lemma submit_done {p : SuccessorPayload} {changed : List CredentialPublic} {S' : RotationEngine}
    (he : ((Server.Call.submitSuccessor p.newVersion p.newEd25519Public p.newX25519Public
      (Database.signaturePart inner) p.transitionMetadata now).transition I).exec P S =
        (.ok changed, S')) :
    S.Submittable P (newCredential I p.newVersion p.newEd25519Public p.newX25519Public)
        (Database.signaturePart inner) p.transitionMetadata now ∧
      S' = S.put (submitted S.params
        (newCredential I p.newVersion p.newEd25519Public p.newX25519Public) now) := by
  rcases RotationEngine.submitSuccessor_cases P S now
    (newCredential I p.newVersion p.newEd25519Public p.newX25519Public)
    (Database.signaturePart inner) p.transitionMetadata with ⟨exc, hrefused⟩ | ⟨hs, hput⟩
  · simp only [Server.Call.transition, RotationEngine.Transition.exec, hrefused, Outcome.map,
      Except.map] at he
    cases congrArg Prod.fst he
  · simp only [Server.Call.transition, RotationEngine.Transition.exec, hput, Outcome.map] at he
    exact ⟨hs, (congrArg Prod.snd he).symm⟩

lemma checkpoint_done {changed : List CredentialPublic} {S' : RotationEngine}
    (he : S.checkpoint now = (.ok changed, S')) :
    ∃ v3 v2, S.validating = some v3 ∧ S.active = some v2 ∧ S.Checkpointable now ∧
      S' = (S.terminateFallback.put (demoted S.params v2 now)).put (promoted v3 now) := by
  rcases RotationEngine.checkpoint_cases S now with
    ⟨exc, hc⟩ | ⟨v3, exc, _, _, _, hc⟩ | ⟨v3, v2, changed, hv3, hd, hx3, hv2, hx2, hc⟩
  · cases congrArg Prod.fst (hc.symm.trans he)
  · cases congrArg Prod.fst (hc.symm.trans he)
  · exact ⟨v3, v2, hv3, hv2, ⟨v3, v2, hv3, hd, hx3, hv2, hx2⟩,
      (congrArg Prod.snd (hc.symm.trans he)).symm⟩

lemma rollback_done {changed : List CredentialPublic} {S' : RotationEngine}
    (he : (S.rollback now).map (fun c _ => [c]) = (.ok changed, S')) :
    ∃ v3, S.validating = some v3 ∧ S' = S.put (retired v3 .terminated) := by
  rcases RotationEngine.rollback_cases S now with ⟨exc, hc⟩ | ⟨v3, hv3, hc⟩
  · rw [hc] at he
    cases congrArg Prod.fst he
  · rw [hc] at he
    exact ⟨v3, hv3, (congrArg Prod.snd he).symm⟩

lemma handleRotateSubmit_cases (hload : db.loadEngine params I = some S) :
    (∃ exc, db.handleRotateSubmit P params I inner now = (.error exc, db)) ∨
    ∃ S' db' t, Acts P I S inner now .rotateSubmit S' ∧ (Transition.exec P S t).2 = S' ∧
      db'.loadEngine params I = some S' ∧
      db.handleRotateSubmit P params I inner now = (.ok okResponse, db') := by
  unfold Database.handleRotateSubmit
  split
  · exact Or.inl ⟨_, rfl⟩
  · rename_i p hparse
    split_ifs with hidentity
    · exact Or.inl ⟨_, rfl⟩
    · rcases call_answered (P := P) (c := .submitSuccessor p.newVersion p.newEd25519Public
        p.newX25519Public (Database.signaturePart inner) p.transitionMetadata now) hload with
        hrefused | ⟨changed, S', db', he, hload', hdone⟩
      · exact Or.inl hrefused
      · exact Or.inr ⟨S', db', _, ⟨p, hparse, submit_done he⟩, congrArg Prod.snd he, hload', hdone⟩

variable (P inner now) in
lemma handleAction_cases (haction : Rotates action) (hload : db.loadEngine params I = some S) :
    (∃ exc, db.handleAction P params action I inner now = (.error exc, db)) ∨
    ∃ S' db' t, Acts P I S inner now action S' ∧ (Transition.exec P S t).2 = S' ∧
      db'.loadEngine params I = some S' ∧
      db.handleAction P params action I inner now = (.ok okResponse, db') := by
  cases action with
  | registrySync => exact haction.elim
  | rotateRevoke => exact haction.elim
  | rotateSubmit => exact handleRotateSubmit_cases hload
  | rotateCheckpoint =>
    rw [Database.handleAction, Database.handleRotateCheckpoint, Database.checkpoint,
      ← Outcome.map_id (db.call P params I (.checkpoint now))]
    rcases call_answered (c := .checkpoint now) hload with
      hrefused | ⟨changed, S', db', he, hload', hdone⟩
    · exact Or.inl hrefused
    · exact Or.inr ⟨S', db', .checkpoint now, checkpoint_done he, congrArg Prod.snd he, hload', hdone⟩
  | rotateRollback =>
    rcases call_answered (c := .rollback now) hload with
      hrefused | ⟨changed, S', db', he, hload', hdone⟩
    · exact Or.inl hrefused
    · exact Or.inr ⟨S', db', .rollback now, rollback_done he, congrArg Prod.snd he, hload', hdone⟩

lemma submission_stored {oldVersion newVersion : ℤ} {ed25519Public x25519Public payload signature : Bytes}
    (hload : db.loadEngine params I = some S)
    (hsignature : signature.length = ed25519SignatureSize)
    (hpayload : encodeSuccessorPayload I oldVersion newVersion ed25519Public x25519Public [] = .ok payload)
    (hsubmit : S.Submittable P (newCredential I newVersion ed25519Public x25519Public) signature [] now) :
    ∃ db', db.handleRotateSubmit P params I (payload ++ signature) now = (.ok okResponse, db') ∧
      db'.loadEngine params I =
        some (S.put (submitted params (newCredential I newVersion ed25519Public x25519Public) now)) := by
  have hparse : parseSuccessorPayload (Database.payloadPart (payload ++ signature)) =
      .ok ⟨I, oldVersion, newVersion, ed25519Public, x25519Public, []⟩ := by
    rw [payloadPart_signed hsignature, parse_encodeSuccessorPayload hpayload]
  have hparams : S.params = params := (Database.loadEngine_rows hload).1
  obtain ⟨response, haccepted⟩ : ∃ response,
      (db.handleRotateSubmit P params I (payload ++ signature) now).1 = .ok response := by
    refine Database.handleRotateSubmit_accepts.mpr ⟨_, S, hparse, rfl, hload, ?_⟩
    rw [signaturePart_signed hsignature]
    exact hsubmit
  rcases handleRotateSubmit_cases hload with ⟨exc, he⟩ | ⟨S', db', t, ⟨p, hp, _, hput⟩, _, hload', he⟩
  · rw [he] at haccepted
    cases haccepted
  · obtain rfl := Except.ok.inj (hparse.symm.trans hp)
    refine ⟨db', he, ?_⟩
    rw [hload', hput, hparams]

end Registry

structure Tracks (P : Primitives) (session : ClientSession) (state : ServerState) : Prop where
  credential : ∃ c, state.credential = .ok c ∧ InUInt32 c.version
  keys : ∃ k, state.activeKeys = .ok k ∧ P.x25519Loads k.x25519 = true ∧
    session.serverKeys.x25519Public = P.x25519Public k.x25519

section Frames

variable {P : Primitives} {ccfg : ClientConfig} {scfg : ServerConfig} {cred : CredentialPublic}
  {keys : PrivateKeys} {session : ClientSession} {srv : Tunnel2Server} {db : Database} {r : Round}
  {env : Envelope} {inner body payload : Bytes} {action : Action}

lemma sendSealed_sent (hP : Lawful P) (hpair : Paired P ccfg cred keys session db) (hr : Drawn P r)
    {ctype : ControlType} {sent : Sent}
    (h : session.sendSealed P ccfg r.client ctype inner = .ok sent) :
    ∃ env body, sent.frame.channel = channelControl ∧
      encodeControl ctype.code body = .ok sent.frame.payload ∧ parseEnvelope body = .ok env ∧
      env = { session.header P ccfg r.client .control cred.version r.client.now with
        payload := env.payload, signature := env.signature } ∧ InUInt32 cred.version ∧
      ∀ k : PrivateKeys, P.x25519Loads k.x25519 = true →
        session.serverKeys.x25519Public = P.x25519Public k.x25519 →
        openPayload P env k.x25519 = .ok inner := by
  obtain ⟨env, henv, h⟩ := except_bind_eq_ok.mp h
  obtain ⟨body, hbody, h⟩ := except_bind_eq_ok.mp h
  obtain ⟨_, _, h⟩ := except_bind_eq_ok.mp h
  obtain ⟨payload, hpayload, h⟩ := except_bind_eq_ok.mp h
  obtain ⟨frame, hframe, h⟩ := except_bind_eq_ok.mp h
  obtain rfl := Except.ok.inj h
  rw [sendFrame] at hframe
  split_ifs at hframe
  obtain rfl := Except.ok.inj hframe
  rw [ClientSession.signedEnvelope_eq hpair.current hpair.currentKeys] at henv
  obtain ⟨hsame, hparse⟩ := sealEnvelope_parse hP rfl hr.nonce henv hbody
  have hformed := Envelope.wellFormed_of_encode (by rw [hsame]; rfl) (by rw [hsame]; exact hr.nonce) hbody
  refine ⟨env, body, rfl, hpayload, hparse, hsame,
    (header_same hsame).2 ▸ hformed.credentialVersion, fun k hk htracked => ?_⟩
  rw [htracked] at henv
  exact sealEnvelope_open hP rfl hr.nonce hr.ephemeral hk henv hbody

lemma openControl_tracked (htracks : Tracks P session srv.state)
    (hopen : ∀ k : PrivateKeys, P.x25519Loads k.x25519 = true →
      session.serverKeys.x25519Public = P.x25519Public k.x25519 →
      openPayload P env k.x25519 = .ok inner) : srv.state.openControl P env = .ok inner := by
  obtain ⟨k, hkeys, hloads, htracked⟩ := htracks.keys
  rw [ServerState.openControl, hkeys, except_ok_bind, decryptTo, hopen k hloads htracked]
  rfl

def acted (srv : Tunnel2Server) (auth : Authenticator) (db : Database) : Tunnel2Server :=
  ({ srv with auth } : Tunnel2Server).withDb db

variable (scfg) in
lemma handleControl_cases (d : Server.Draw) (hframe : encodeControl action.ctype.code body = .ok payload)
    (hparse : parseEnvelope body = .ok env) (hopen : srv.state.openControl P env = .ok inner) :
    (∃ exc srv', srv.handleControl P scfg d payload = (.error exc, srv') ∧ srv'.state = srv.state) ∨
    ∃ row auth, timestampOk env.timestamp d.authNow = true ∧ env.replayKey ∉ srv.auth.replay.entries ∧
      srv.state.db.credentialForAuth scfg.params env.senderUuid env.senderCredentialVersion d.authNow =
        .ok (some row) ∧
      srv.handleControl P scfg d payload =
        let outcome := srv.state.db.handleAction P scfg.params action env.senderUuid inner d.now
        ((Performed.action action env <$> Tunnel2Server.handled outcome.1) >>= fun performed =>
            (acted srv auth outcome.2).reply P scfg d performed >>= sendFrame channelControl,
          acted srv auth outcome.2) := by
  rw [Tunnel2Server.handleControl, Tunnel2Server.perform_encoded hframe,
    Tunnel2Server.handleAuthenticated, Tunnel2Server.receive, hparse]
  dsimp only
  generalize hauth : srv.auth.authenticate P scfg.params srv.state.db env d.authNow = authenticated
  obtain ⟨result, auth⟩ := authenticated
  cases result with
  | error exc => exact Or.inl ⟨exc, _, rfl, rfl⟩
  | ok known =>
    obtain ⟨kind, row⟩ := known
    obtain ⟨hwindow, hfresh, husable⟩ := Authenticator.authenticate_checks hauth
    refine Or.inr ⟨row, auth, hwindow, hfresh, husable, ?_⟩
    dsimp only
    rw [hopen]
    simp only [Except.map, Outcome.bind]
    generalize srv.state.db.handleAction P scfg.params action env.senderUuid inner d.now = outcome
    cases Tunnel2Server.handled outcome.1 <;> rfl

lemma sendControlResponse_read (hP : Lawful P) (hr : Drawn P r) {row : CredentialPublic}
    (hrow : srv.state.db.getCredential env.senderUuid env.senderCredentialVersion = some row)
    (hpublic : row.x25519Public = P.x25519Public keys.x25519)
    (hloads : P.x25519Loads keys.x25519 = true)
    (h : srv.sendControlResponse P scfg r.server action env inner = .ok payload) :
    ∃ read, controlEnvelope action.respType ⟨channelControl, payload⟩ = .ok read ∧
      openPayload P read keys.x25519 = .ok inner := by
  obtain ⟨serverCred, _, h⟩ := except_bind_eq_ok.mp h
  rw [hrow] at h
  dsimp only at h
  obtain ⟨read, hbuilt, h⟩ := except_bind_eq_ok.mp h
  obtain ⟨data, hencode, hcontrol⟩ := except_bind_eq_ok.mp h
  obtain ⟨signer, hseal⟩ := buildOutgoing_eq_ok hbuilt
  rw [hpublic] at hseal
  obtain ⟨_, hparse⟩ := sealEnvelope_parse hP rfl (replyHeader_nonce hr _ _ _) hseal hencode
  refine ⟨read, ?_, sealEnvelope_open hP rfl (replyHeader_nonce hr _ _ _) hr.serverEphemeral hloads
    hseal hencode⟩
  rw [controlEnvelope, if_neg (not_not.mpr rfl), parse_encodeControl hcontrol, except_ok_bind]
  dsimp only
  rw [if_neg (not_not.mpr rfl)]
  exact hparse

lemma sendControlResponse_ok (hP : Lawful P) (hr : Drawn P r) (hsentAt : InInt64 r.server.sentAt)
    (htracks : Tracks P session srv.state) {row : CredentialPublic}
    (hrow : srv.state.db.getCredential env.senderUuid env.senderCredentialVersion = some row)
    (hpublic : row.x25519Public = P.x25519Public keys.x25519)
    (hloads : P.x25519Loads keys.x25519 = true) (hversion : InUInt32 env.senderCredentialVersion)
    (hinner : 223 + inner.length ≤ maxFrameSize) :
    ∃ payload, srv.sendControlResponse P scfg r.server action env inner = .ok payload ∧
      payload.length ≤ maxFrameSize := by
  rw [maxFrameSize] at hinner ⊢
  obtain ⟨serverCred, hcred, hserverVersion⟩ := htracks.credential
  obtain ⟨serverKeys, hkeys, _⟩ := htracks.keys
  have hformed : (Tunnel2Server.replyHeader scfg r.server env .request serverCred.version).WellFormed :=
    ⟨rfl, MsgType.code_range .request, hserverVersion, hsentAt, hr.serverNonce⟩
  obtain ⟨reply, data, hseal, harrives, hdata, _⟩ := sealEnvelope_ok hP hformed hr.serverEphemeral
    hloads hversion (show inner.length < 2 ^ 31 by omega) serverKeys.ed25519
  obtain ⟨payload, hcontrol, hlength⟩ := encodeControl_writes
    (show 0 ≤ action.respType.code ∧ action.respType.code < 2 ^ 8 by cases action <;> decide)
    (show data.length < 2 ^ 32 by omega)
  refine ⟨payload, ?_, by omega⟩
  rw [Tunnel2Server.sendControlResponse, hcred, except_ok_bind, hrow]
  dsimp only
  rw [Tunnel2Server.buildOutgoing_eq hkeys, hpublic, hseal, except_ok_bind, harrives.encode,
    except_ok_bind]
  exact hcontrol

end Frames

def Answers (P : Primitives) (session : ClientSession) (action : Action) (status : ℤ) (reply : Frame) :
    Prop :=
  ∃ read message, controlEnvelope action.respType reply = .ok read ∧
    session.controlStatus P read = .ok (status, message)

def Authentic (I : Uuid) (conn : Connection) (S : RotationEngine) (version : ℤ) (r : Round) : Prop :=
  timestampOk r.client.now r.server.authNow = true ∧
    envelopeReplayKey I.bytes r.client.requestId.bytes r.client.nonce ∉ conn.auth.replay.entries ∧
    (S.credentialForAuth version r.server.authNow).isSome = true

instance (I : Uuid) (conn : Connection) (S : RotationEngine) (version : ℤ) (r : Round) :
    Decidable (Authentic I conn S version r) := inferInstanceAs (Decidable (_ ∧ _ ∧ _))

structure Served (P : Primitives) (scfg : ServerConfig) (I : Uuid) (version : ℤ) (action : Action)
    (inner : Bytes) (r : Round) (S S' : RotationEngine) (conn conn' : Connection) : Prop where
  authentic : Authentic I conn S version r
  acts : Acts P I S inner r.server.now action S'
  transition : ∃ t, (Transition.exec P S t).2 = S'
  load : conn'.state.db.loadEngine scfg.params I = some S'
  identity : conn'.state.identity = conn.state.identity

section Serving

variable {P : Primitives} {ccfg : ClientConfig} {scfg : ServerConfig} {cred : CredentialPublic}
  {keys : PrivateKeys} {session : ClientSession} {conn : Connection} {r : Round}
  {S : RotationEngine} {env : Envelope} {inner body : Bytes} {action : Action} {frame : Frame}

lemma Tracks.of_identity {state state' : ServerState} (h : Tracks P session state)
    (hidentity : state'.identity = state.identity) : Tracks P session state' := by
  obtain ⟨hcredential, hkeys⟩ := h
  constructor
  · rw [ServerState.credential, hidentity]
    exact hcredential
  · rw [ServerState.activeKeys, ServerState.credential, hidentity]
    simp only [ServerState.keys, hidentity]
    exact hkeys

lemma controlStatus_eq {db : Database} (hpair : Paired P ccfg cred keys session db) {read : Envelope}
    (hopen : openPayload P read keys.x25519 = .ok inner) :
    session.controlStatus P read = parseStatusInner inner := by
  have hsame : session.decryptResponse P read = openPayload P read keys.x25519 := by
    rw [ClientSession.decryptResponse, openPayload, hpair.currentKeys]
    rfl
  rw [ClientSession.controlStatus, ClientSession.decryptControlResponse, hsame, hopen]
  rfl

lemma reply_answers (hP : Lawful P) {db : Database} (hpair : Paired P ccfg cred keys session db)
    (hr : Drawn P r) {srv : Tunnel2Server} {row : CredentialPublic}
    (hrow : srv.state.db.getCredential env.senderUuid env.senderCredentialVersion = some row)
    (hpublic : row.x25519Public = P.x25519Public keys.x25519) {status : ℤ} {message : Bytes}
    (hinner : parseStatusInner inner = .ok (status, message)) {reply : Frame}
    (h : (srv.sendControlResponse P scfg r.server action env inner >>= sendFrame channelControl) =
      .ok reply) : Answers P session action status reply := by
  obtain ⟨payload, hpayload, hframe⟩ := except_bind_eq_ok.mp h
  rw [sendFrame] at hframe
  split_ifs at hframe
  obtain rfl := Except.ok.inj hframe
  obtain ⟨read, hread, hopen⟩ := sendControlResponse_read hP hr hrow hpublic hpair.x25519 hpayload
  exact ⟨read, message, hread, (controlStatus_eq hpair hopen).trans hinner⟩

lemma handled_refused {exc : Exn} {h : Handled} (hh : Tunnel2Server.handled (.error exc) = .ok h) :
    ∃ inner message, h = .refused inner ∧ parseStatusInner inner = .ok (1, message) := by
  cases exc with
  | registryError code message =>
    obtain ⟨inner, hinner, rfl⟩ := except_map_eq_ok.mp hh
    exact ⟨inner, utf8 message, rfl, parse_status hinner⟩
  | rotationError code message =>
    obtain ⟨inner, hinner, rfl⟩ := except_map_eq_ok.mp hh
    exact ⟨inner, utf8 message, rfl, parse_status hinner⟩
  | _ => cases hh

lemma handleFrame_cases (hP : Lawful P) (haction : Rotates action)
    (hpair : Paired P ccfg cred keys session conn.state.db) (hr : Drawn P r)
    (htracks : Tracks P session conn.state)
    (hload : conn.state.db.loadEngine scfg.params (session.identity.identityUuid P ccfg) = some S)
    (hchannel : frame.channel = channelControl)
    (hframe : encodeControl action.ctype.code body = .ok frame.payload)
    (hparse : parseEnvelope body = .ok env)
    (hsame : env = { session.header P ccfg r.client .control cred.version r.client.now with
      payload := env.payload, signature := env.signature }) (hversion : InUInt32 cred.version)
    (hopen : ∀ k : PrivateKeys, P.x25519Loads k.x25519 = true →
      session.serverKeys.x25519Public = P.x25519Public k.x25519 →
      openPayload P env k.x25519 = .ok inner) :
    ((conn.handleFrame P scfg r.server frame).2.state = conn.state ∧
      ∀ reply, (conn.handleFrame P scfg r.server frame).1 = .ok reply →
        Answers P session action 1 reply) ∨
    ∃ S', Served P scfg (session.identity.identityUuid P ccfg) cred.version action inner r S S'
        conn (conn.handleFrame P scfg r.server frame).2 ∧
      (InInt64 r.server.sentAt → ∃ reply, (conn.handleFrame P scfg r.server frame).1 = .ok reply) ∧
      ∀ reply, (conn.handleFrame P scfg r.server frame).1 = .ok reply →
        Answers P session action 0 reply := by
  rw [Connection.handleFrame, if_pos hchannel]
  dsimp only
  rcases handleControl_cases scfg r.server hframe hparse (openControl_tracked htracks hopen) with
    ⟨exc, srv', he, hstate⟩ | ⟨row, auth, hwindow, hfresh, hauth, he⟩
  · rw [he]
    refine Or.inl ⟨hstate, fun reply hreply => ?_⟩
    cases hreply
  · obtain ⟨pre, hpre, hpublic⟩ := hpair.row
    obtain ⟨hsender, hnamed⟩ := header_same hsame
    dsimp only at he
    rw [he]
    rw [hsender, hnamed] at hauth
    rcases handleAction_cases P inner r.server.now haction hload with
      ⟨exc, hdone⟩ | ⟨S', db', t, hacts, ht, hload', hdone⟩
    · rw [← hsender] at hdone
      rw [hdone]
      refine Or.inl ⟨rfl, fun reply hreply => ?_⟩
      obtain ⟨performed, hperformed, hreply⟩ := except_bind_eq_ok.mp hreply
      obtain ⟨h, hhandled, rfl⟩ := except_map_eq_ok.mp hperformed
      obtain ⟨response, message, rfl, hmessage⟩ := handled_refused hhandled
      refine reply_answers hP hpair hr ?_ hpublic hmessage hreply
      rw [hsender, hnamed]
      exact hpre
    · rw [← hsender] at hdone
      rw [hdone]
      have hevolves := S.evolves_transition P t
      rw [ht] at hevolves
      obtain ⟨row', hrow', hkept⟩ := hevolves.cred cred.version pre
        (by rw [Database.loadEngine_get hload]; exact hpre)
      have hget : db'.getCredential env.senderUuid env.senderCredentialVersion = some row' := by
        rw [hsender, hnamed, Database.getCredential, ← Database.loadEngine_get hload']
        exact hrow'
      have hpublic' := hkept.x25519.trans hpublic
      refine Or.inr ⟨S', ⟨⟨?_, ?_, ?_⟩, hacts, ⟨t, ht⟩, hload', rfl⟩, fun hsentAt => ?_,
        fun reply hreply => ?_⟩
      · rw [hsame] at hwindow
        exact hwindow
      · rw [hsame] at hfresh
        exact hfresh
      · rw [Database.credentialForAuth, Database.engineFor, hload] at hauth
        rw [Except.ok.inj hauth]
        rfl
      · obtain ⟨payload, hpayload, hsize⟩ : ∃ payload,
            (acted conn.toTunnel2Server auth db').sendControlResponse P scfg r.server action env okResponse =
              .ok payload ∧ payload.length ≤ maxFrameSize :=
          sendControlResponse_ok hP hr hsentAt (htracks.of_identity rfl) hget hpublic' hpair.x25519
            (hnamed ▸ hversion) (by decide)
        refine ⟨⟨channelControl, payload⟩, ?_⟩
        change ((acted conn.toTunnel2Server auth db').sendControlResponse P scfg r.server action env
          okResponse >>= sendFrame channelControl) = .ok ⟨channelControl, payload⟩
        rw [hpayload, except_ok_bind, sendFrame, if_neg (by omega)]
      · exact reply_answers hP hpair hr hget hpublic' parse_okResponse hreply

lemma receive_answer {x : Exchange} {status : ℤ} (henvelope : x.envelope = controlEnvelope action.respType)
    (h : Answers P session action status frame) :
    ∃ read message, session.controlStatus P read = .ok (status, message) ∧
      x.receive session frame = x.use session read := by
  obtain ⟨read, message, hread, hstatus⟩ := h
  refine ⟨read, message, hstatus, ?_⟩
  rw [Exchange.receive, henvelope, hread]

variable (inner action) in
lemma control_exchange {w : World} (x : Exchange) (hP : Lawful P) (haction : Rotates action)
    (hpair : Paired P ccfg cred keys session w.server.state.db) (hr : Drawn P r)
    (htracks : Tracks P session w.server.state)
    (hload : w.server.state.db.loadEngine scfg.params (session.identity.identityUuid P ccfg) = some S)
    (hsend : x.send w.session = (session.sendSealed P ccfg r.client action.ctype inner, session))
    (henvelope : x.envelope = controlEnvelope action.respType) (fate : Fate) :
    ((w.exchange P scfg x fate r.server).2.server.state = w.server.state ∧
      (((∃ exc, (w.exchange P scfg x fate r.server).1 = .error exc) ∧
          (w.exchange P scfg x fate r.server).2.session = session) ∨
        ∃ read message, session.controlStatus P read = .ok (1, message) ∧
          ((w.exchange P scfg x fate r.server).1, (w.exchange P scfg x fate r.server).2.session) =
            x.use session read)) ∨
    ∃ S', Served P scfg (session.identity.identityUuid P ccfg) cred.version action inner r S S'
        w.server (w.exchange P scfg x fate r.server).2.server ∧
      (((∃ exc, (w.exchange P scfg x fate r.server).1 = .error exc) ∧
          (w.exchange P scfg x fate r.server).2.session = session ∧ fate ≠ .requestLost ∧
          ¬ (fate = .delivered ∧ InInt64 r.server.sentAt)) ∨
        fate = .delivered ∧ ∃ read message, session.controlStatus P read = .ok (0, message) ∧
          ((w.exchange P scfg x fate r.server).1, (w.exchange P scfg x fate r.server).2.session) =
            x.use session read) := by
  generalize hsealed : session.sendSealed P ccfg r.client action.ctype inner = sealed at hsend
  cases sealed with
  | error exc =>
    rw [exchange_unsent scfg fate r.server hsend]
    exact Or.inl ⟨rfl, Or.inl ⟨⟨exc, rfl⟩, rfl⟩⟩
  | ok sent =>
    obtain ⟨env, body, hchannel, hframe, hparse, hsame, hversion, hopen⟩ :=
      sendSealed_sent hP hpair hr hsealed
    have hcases := handleFrame_cases hP haction hpair hr htracks hload hchannel hframe hparse hsame
      hversion hopen
    simp only [World.exchange, World.answer, Exchange.perform, Outcome.bind, hsend, World.transmit]
    cases fate with
    | requestLost => exact Or.inl ⟨rfl, Or.inl ⟨⟨_, rfl⟩, rfl⟩⟩
    | replyLost =>
      rcases hcases with ⟨hstate, _⟩ | ⟨S', hserved, _, _⟩
      · exact Or.inl ⟨hstate, Or.inl ⟨⟨_, rfl⟩, rfl⟩⟩
      · exact Or.inr ⟨S', hserved, Or.inl ⟨⟨_, rfl⟩, rfl, by decide, fun h => by cases h.1⟩⟩
    | delivered =>
      generalize w.server.handleFrame P scfg r.server sent.frame = out at hcases
      obtain ⟨reply, server⟩ := out
      dsimp only at hcases ⊢
      cases reply with
      | error exc =>
        rcases hcases with ⟨hstate, _⟩ | ⟨S', hserved, hreplies, _⟩
        · exact Or.inl ⟨hstate, Or.inl ⟨⟨_, rfl⟩, rfl⟩⟩
        · refine Or.inr ⟨S', hserved, Or.inl ⟨⟨_, rfl⟩, rfl, by decide, fun h => ?_⟩⟩
          obtain ⟨reply, hreply⟩ := hreplies h.2
          cases hreply
      | ok frame =>
        rcases hcases with ⟨hstate, hanswers⟩ | ⟨S', hserved, _, hanswers⟩
        · obtain ⟨read, message, hstatus, hreceive⟩ := receive_answer henvelope (hanswers frame rfl)
          exact Or.inl ⟨hstate, Or.inr ⟨read, message, hstatus, hreceive⟩⟩
        · obtain ⟨read, message, hstatus, hreceive⟩ := receive_answer henvelope (hanswers frame rfl)
          exact Or.inr ⟨S', hserved, Or.inr ⟨rfl, read, message, hstatus, hreceive⟩⟩

end Serving

end Secupload.System
