import Secupload.Client.ResponseAuthenticity
import Secupload.Client.Rotation
import Secupload.Shared.SignedBytes
import Secupload.System.Accountability

/-! A client and the server with an attacker between them, who sees every frame and delivers what it
likes to either side. -/

namespace Secupload.Client

open Library Shared

def Call.successor? (P : Primitives) (call : Call) (s : ClientSession) : Option (Bytes × Bytes) :=
  match call.operation with
  | .rotate =>
    match s.identity.generateSuccessor P call.draw.successor call.draw.identityNow with
    | (.ok (_, signature, payload), _) => some (payload, signature)
    | (.error _, _) => none
  | _ => none

def Call.frame? (P : Primitives) (cfg : ClientConfig) (call : Call) (s : ClientSession) : Option Frame :=
  ((call.exchange P cfg).send s).1.toOption.map (·.frame)

section Evolution

variable {P : Primitives} {cfg : ClientConfig}

lemma ClientIdentity.generateSuccessor_evolves (c : ClientIdentity) (k : PrivateKeys) (now : ℤ) :
    c.engine.Evolves (c.generateSuccessor P k now).2.engine := by
  rcases c.generateSuccessor_cases P k now with ⟨exc, he⟩ | ⟨active, signer, payload, _, _, _, hsubmit, he⟩
  · rw [he]
    exact .refl _
  · rw [he]
    exact .put_new hsubmit.newest

lemma ClientIdentity.checkpoint_evolves (c : ClientIdentity) (now : ℤ) :
    c.engine.Evolves (c.checkpoint now).2.engine := by
  rcases c.checkpoint_cases now with ⟨_, he | ⟨v3, hv3, he⟩⟩ | ⟨_, v3, v2, hv3, hv2, he⟩
  · rw [he]
    exact .refl _
  · rw [he]
    exact .put_of_mem (RotationEngine.mem_of_byStatus hv3).1 (.retired rfl)
  · rw [he]
    exact c.engine.evolves_promote now hv2 hv3

lemma ClientIdentity.rollback_evolves (c : ClientIdentity) (now : ℤ) :
    c.engine.Evolves (c.rollback now).2.engine := by
  rcases c.rollback_cases now with ⟨exc, he⟩ | ⟨v3, hv3, he⟩
  · rw [he]
    exact .refl _
  · rw [he]
    exact .put_of_mem (RotationEngine.mem_of_byStatus hv3).1 (.retired rfl)

lemma recvRelayResponse_identity (s : ClientSession) (env : Envelope) :
    (s.recvRelayResponse P env).2.identity = s.identity := by
  rw [ClientSession.recvRelayResponse]
  split
  · rfl
  · rw [ClientSession.adoptPiggyback]
    split <;> rfl

variable (P cfg) in
lemma Call.send_evolves (call : Call) (s : ClientSession) :
    s.identity.engine.Evolves ((call.exchange P cfg).send s).2.identity.engine := by
  obtain ⟨operation, d, reply⟩ := call
  cases operation with
  | request | sendChunk | requestChunk | syncRegistry | checkpointRotation | rollbackRotation => exact .refl _
  | rotate =>
    have hgenerated := s.identity.generateSuccessor_evolves (P := P) d.successor d.identityNow
    change s.identity.engine.Evolves ((ClientSession.rotate P cfg d).send s).2.identity.engine
    dsimp only [ClientSession.rotate]
    generalize s.identity.generateSuccessor P d.successor d.identityNow = generated at hgenerated
    obtain ⟨_ | ⟨_, _, _⟩, identity⟩ := generated <;> exact hgenerated

variable (P cfg) in
lemma Call.use_evolves (call : Call) (s : ClientSession) (env : Envelope) :
    s.identity.engine.Evolves ((call.exchange P cfg).use s env).2.identity.engine := by
  obtain ⟨operation, d, reply⟩ := call
  cases operation with
  | request | sendChunk =>
    change s.identity.engine.Evolves (s.recvRelayResponse P env).2.identity.engine
    rw [recvRelayResponse_identity]
    exact .refl _
  | requestChunk | syncRegistry => exact .refl _
  | rotate =>
    change s.identity.engine.Evolves ((ClientSession.rotate P cfg d).use s env).2.identity.engine
    dsimp only [ClientSession.rotate]
    split
    · exact .refl _
    · have hrolled := s.identity.rollback_evolves d.laterNow
      split_ifs
      · generalize s.identity.rollback d.laterNow = rolled at hrolled
        obtain ⟨_ | _, identity⟩ := rolled <;> exact hrolled
      · exact s.identity.checkpoint_evolves d.laterNow
  | checkpointRotation =>
    change s.identity.engine.Evolves ((ClientSession.checkpointRotation P cfg d).use s env).2.identity.engine
    dsimp only [ClientSession.checkpointRotation]
    split
    · exact .refl _
    · split_ifs
      · exact .refl _
      · exact s.identity.checkpoint_evolves d.laterNow
  | rollbackRotation =>
    change s.identity.engine.Evolves ((ClientSession.rollbackRotation P cfg d).use s env).2.identity.engine
    dsimp only [ClientSession.rollbackRotation]
    split
    · exact .refl _
    · split_ifs
      · exact .refl _
      · exact s.identity.rollback_evolves d.laterNow

variable (P cfg) in
lemma Call.reply_evolves (call : Call) (s : ClientSession) :
    ((call.exchange P cfg).send s).2.identity.engine.Evolves (s.step P cfg call).identity.engine := by
  have huse := call.use_evolves P cfg
  rw [ClientSession.step]
  generalize call.exchange P cfg = x at huse
  rw [Exchange.perform]
  generalize x.send s = sending
  obtain ⟨_ | sent, waiting⟩ := sending
  · exact .refl _
  · cases call.reply with
    | none => exact .refl _
    | some frame =>
      change waiting.identity.engine.Evolves (x.receive waiting frame).2.identity.engine
      rw [Exchange.receive]
      split
      · exact .refl _
      · exact huse waiting _

variable (P cfg) in
lemma ClientSession.step_evolves (s : ClientSession) (call : Call) :
    s.identity.engine.Evolves (s.step P cfg call).identity.engine :=
  (call.send_evolves P cfg s).trans (call.reply_evolves P cfg s)

lemma Call.successor?_stored {call : Call} {s : ClientSession} {payload signature : Bytes}
    (h : call.successor? P s = some (payload, signature)) :
    ∃ identityUuid oldVersion c, (s.step P cfg call).identity.engine.get c.version = some c ∧
      encodeSuccessorPayload identityUuid oldVersion c.version c.ed25519Public c.x25519Public [] = .ok payload := by
  have hreply := call.reply_evolves P cfg s
  obtain ⟨operation, d, reply⟩ := call
  cases operation with
  | request | sendChunk | requestChunk | syncRegistry | checkpointRotation | rollbackRotation => cases h
  | rotate =>
    rcases s.identity.generateSuccessor_cases P d.successor d.identityNow with
      ⟨exc, he⟩ | ⟨active, signer, payload', hactive, _, hpayload, _, he⟩
    · simp only [Call.successor?, he] at h
      cases h
    · simp only [Call.successor?, he] at h
      obtain ⟨rfl, rfl⟩ := Prod.mk.inj (Option.some.inj h)
      have hsend : ((Call.exchange P cfg ⟨.rotate, d, reply⟩).send s).2.identity =
          s.identity.submittedBy P active d.successor d.identityNow := by
        change ((ClientSession.rotate P cfg d).send s).2.identity = _
        simp only [ClientSession.rotate, he]
        rfl
      rw [hsend] at hreply
      obtain ⟨c, hc, hevolves⟩ := hreply.cred (active.version + 1) _
        (RotationEngine.get_put _ |>.trans (if_pos rfl))
      have hversion : c.version = active.version + 1 := hevolves.version
      refine ⟨active.identityUuid, active.version, c, by rw [hversion]; exact hc, ?_⟩
      rw [hversion, hevolves.ed25519, hevolves.x25519]
      exact hpayload

end Evolution

end Secupload.Client

namespace Secupload.Server.Database

open Library Shared

variable {P : Primitives} {params : RotationParams} {db : Database} {sender : Uuid} {inner : Bytes}
  {now : ℤ}

variable (P params db sender inner now) in
lemma handleRotateSubmit_step : (db.handleRotateSubmit P params sender inner now).2 = db ∨
    ∃ p, parseSuccessorPayload (payloadPart inner) = .ok p ∧
      (db.handleRotateSubmit P params sender inner now).2 =
        registryStep P params db (.submitSuccessor sender p.newVersion p.newEd25519Public p.newX25519Public
          (signaturePart inner) p.transitionMetadata now) := by
  unfold handleRotateSubmit
  cases hparse : parseSuccessorPayload (payloadPart inner) with
  | error exc => exact Or.inl rfl
  | ok p =>
    dsimp only
    split_ifs
    · exact Or.inl rfl
    · exact Or.inr ⟨p, rfl, bind_db _ _⟩

def Submitted (params : RotationParams) (db : Database) (sender : Uuid) (inner : Bytes) (p : SuccessorPayload)
    (payload : Bytes) : Prop :=
  parseSuccessorPayload (payloadPart inner) = .ok p ∧ ∃ e signer, db.loadEngine params sender = some e ∧
    e.active = some signer ∧ encodeSuccessorPayload sender signer.version p.newVersion p.newEd25519Public
      p.newX25519Public p.transitionMetadata = .ok payload

structure Admitted (P : Primitives) (params : RotationParams) (db : Database) (sender : Uuid) (inner : Bytes)
    (c : CredentialPublic) (p : SuccessorPayload) (payload : Bytes) : Prop where
  submitted : Submitted params db sender inner p payload
  verified : ∃ v signer, db.credential sender v = some signer ∧
    verifyEd25519 P signer.ed25519Public payload (signaturePart inner) = .ok ()
  version : c.version = p.newVersion
  ed25519 : c.ed25519Public = p.newEd25519Public
  x25519 : c.x25519Public = p.newX25519Public

lemma handleAction_row {action : Action} {J : Uuid} {v : ℤ} {c : CredentialPublic}
    (hc : (db.handleAction P params action sender inner now).2.credential J v = some c) :
    (∃ b, db.credential J v = some b ∧ b.Evolves c) ∨
      action = .rotateSubmit ∧ ∃ p payload, Admitted P params db sender inner c p payload := by
  have hstep (op : RegistryOp) (hop : ∀ row, ¬ db.Brings P params row op)
      (hc : (registryStep P params db op).credential J v = some c) :
      ∃ b, db.credential J v = some b ∧ b.Evolves c :=
    (row_step hc).resolve_right (hop c)
  cases action with
  | registrySync => exact Or.inl ⟨c, hc, .refl c⟩
  | rotateSubmit =>
    rcases handleRotateSubmit_step P params db sender inner now with hsame | ⟨p, hp, hdb⟩
    · rw [handleAction, hsame] at hc
      exact Or.inl ⟨c, hc, .refl c⟩
    · rw [handleAction, hdb] at hc
      rcases row_step hc with
        hevolves | ⟨hrow, e, hload, signer, payload, hactive, _, _, _, hsame, _, hpayload, hverify⟩
      · exact Or.inl hevolves
      · obtain ⟨hmem, _⟩ := RotationEngine.mem_of_byStatus hactive
        have hsender : sender = signer.identityUuid := hsame
        subst hsender
        have hstored := (loadEngine_get hload signer.version).symm.trans (RotationEngine.get_of_mem hmem)
        exact Or.inr ⟨rfl, p, payload, ⟨hp, e, signer, hload, hactive, hpayload⟩,
          ⟨signer.version, signer, hstored, hverify⟩, by rw [hrow]; rfl, by rw [hrow]; rfl, by rw [hrow]; rfl⟩
  | rotateCheckpoint =>
    refine Or.inl (hstep (.checkpoint sender now) (fun _ h => h) ?_)
    rwa [handleAction, handleRotateCheckpoint, bind_db] at hc
  | rotateRollback =>
    refine Or.inl (hstep (.rollback sender now) (fun _ h => h) ?_)
    rwa [handleAction, handleRotateRollback, bind_db] at hc
  | rotateRevoke =>
    rw [handleAction, handleRotateRevoke] at hc
    split at hc
    · exact Or.inl ⟨c, hc, .refl c⟩
    · rename_i version _
      refine Or.inl (hstep (.revoke sender version now) (fun _ h => h) ?_)
      rwa [bind_db] at hc

end Secupload.Server.Database

namespace Secupload.System

open Library Shared Client Server
open Server.Database (hashToken signaturePart Submitted Admitted)

-- `sent` and `successors` are all that the attacker has of the client's signatures
structure Hostile where
  session : ClientSession
  server : Connection
  sent : List Frame
  successors : List (Bytes × Bytes)

-- every reply that the client reads is the attacker's, and so is every frame that the server handles
inductive HostileEvent
  | call (call : Client.Call)
  | serve (e : ServerEvent)

inductive Shown (P : Primitives) (scfg : ServerConfig) (state : ServerState) (frame : Frame) : Bytes → Bytes → Prop
  | envelope {env : Envelope} {message : Bytes} (hcarries : Carries frame env)
      (hmessage : env.signedBytes = .ok message) : Shown P scfg state frame message env.signature
  | successor {msg : ControlMessage} {env : Envelope} {inner message : Bytes} {p : SuccessorPayload}
      (hchannel : frame.channel = channelControl) (hmsg : parseControl frame.payload = .ok msg)
      (haction : Action.ofCode? msg.ctype = some .rotateSubmit) (hparse : parseEnvelope msg.body = .ok env)
      (hopen : state.openControl P env = .ok inner)
      (hsubmitted : Submitted scfg.params state.db env.senderUuid inner p message) :
      Shown P scfg state frame message (signaturePart inner)

def Redeems (P : Primitives) (conn : Connection) (I : Uuid) (b : EnrollmentBody) : ServerEvent → Prop
  | .frame frame d => frame.channel = channelControl ∧ ∃ msg kind row, parseControl frame.payload = .ok msg ∧
      msg.ctype = ControlType.enroll.code ∧ parseEnrollmentBody msg.body = .ok b ∧
      kindFromCode b.identityKind = .ok kind ∧ I = Tunnel2Server.tokenIdentity P b.token kind ∧
      conn.state.db.tokens.get? (hashToken P b.token) = some row ∧
      conn.state.db.Admits I kind (intOr (some d.now) d.time) row
  | _ => False

namespace Hostile

def start (session : ClientSession) (server : Connection) : Hostile := ⟨session, server, [], []⟩

section Methods

variable (P : Primitives) (ccfg : ClientConfig) (scfg : ServerConfig) (I : Uuid) (w : Hostile)

def step (w : Hostile) : HostileEvent → Hostile
  | .call call =>
    { w with
      session := w.session.step P ccfg call
      sent := w.sent ++ (call.frame? P ccfg w.session).toList
      successors := w.successors ++ (call.successor? P w.session).toList }
  | .serve e => { w with server := serve P scfg w.server e }

def Holds (v : ℤ) (ed25519Public x25519Public : Bytes) : Prop :=
  ∃ c, w.session.identity.engine.get v = some c ∧ c.ed25519Public = ed25519Public ∧
    c.x25519Public = x25519Public

def Sent (env : Envelope) : Prop := ∃ frame ∈ w.sent, Carries frame env

def Given (message signature : Bytes) : Prop :=
  (message, signature) ∈ w.successors ∨
    ∃ env, w.Sent env ∧ env.signedBytes = .ok message ∧ env.signature = signature

def Unforged : HostileEvent → Prop
  | .serve (.frame frame _) => ∀ v ed25519Public x25519Public message signature,
      w.Holds v ed25519Public x25519Public → Shown P scfg w.server.state frame message signature →
      verifyEd25519 P ed25519Public message signature = .ok () → w.Given message signature
  | _ => True

def OwnEnrollment : HostileEvent → Prop
  | .call _ => True
  | .serve e => ∀ b, Redeems P w.server I b e → w.Holds b.version b.ed25519Public b.x25519Public

def Registered : Prop :=
  ∀ v row, w.server.state.db.credential I v = some row → w.Holds v row.ed25519Public row.x25519Public

structure Secure : Prop where
  rotating : w.server.state.Rotating scfg
  registered : w.Registered I
  successors : ∀ message signature, (message, signature) ∈ w.successors →
    ∃ identityUuid oldVersion c, w.session.identity.engine.get c.version = some c ∧
      encodeSuccessorPayload identityUuid oldVersion c.version c.ed25519Public c.x25519Public [] = .ok message

structure Spoken (e : ServerEvent) : Prop where
  accepted : ∀ frame d env, e = .frame frame d → Carries frame env → env.senderUuid = I →
    Genuine P scfg w.server.toTunnel2Server d env → w.Sent env
  rows : rowsOf I (serve P scfg w.server e) ≠ rowsOf I w.server →
    (∃ b, Redeems P w.server I b e ∧ w.Holds b.version b.ed25519Public b.x25519Public) ∨
      ∃ frame d env, e = .frame frame d ∧ Carries frame env ∧ env.senderUuid = I ∧ w.Sent env
  objects : ∀ o, keptOf o (serve P scfg w.server e) ≠ keptOf o w.server → ∃ frame d env, e = .frame frame d ∧
    Carries frame env ∧ Allowed w.server.permissions env.senderUuid o "WRITE" ∧ (env.senderUuid = I → w.Sent env)

end Methods

section Secure

variable {P : Primitives} {ccfg : ClientConfig} {scfg : ServerConfig} {I : Uuid} {w : Hostile}

@[simp] lemma step_serve_sent (e : ServerEvent) : (w.step P ccfg scfg (.serve e)).sent = w.sent := rfl

@[simp] lemma step_call_sent (call : Client.Call) : (w.step P ccfg scfg (.call call)).sent =
    w.sent ++ (call.frame? P ccfg w.session).toList := rfl

lemma carries_formed {frame : Frame} {env : Envelope} (h : Carries frame env) : env.WellFormed := by
  rcases h with ⟨_, hparse⟩ | ⟨_, _, _, _, _, hparse⟩
  · exact parseEnvelope_wellFormed hparse
  · exact parseEnvelope_wellFormed hparse

lemma signedBytes_ne_successor {env : Envelope} (h : env.WellFormed) {message : Bytes}
    (hmessage : env.signedBytes = .ok message) (identityUuid : Uuid) (oldVersion newVersion : ℤ)
    (ed25519Public x25519Public metadata : Bytes) :
    encodeSuccessorPayload identityUuid oldVersion newVersion ed25519Public x25519Public metadata ≠
      .ok message := by
  intro hpayload
  have hfronts := (signedBytes_starts h.version).disjoint (encodeSuccessorPayload_starts identityUuid oldVersion
    newVersion ed25519Public x25519Public metadata) hmessage hpayload
  revert hfronts
  decide

lemma Secure.sent (h : w.Secure scfg I) {frame : Frame} {env : Envelope} (hcarries : Carries frame env)
    {message : Bytes} (hmessage : env.signedBytes = .ok message) (hgiven : w.Given message env.signature) :
    w.Sent env := by
  have hformed := carries_formed hcarries
  rcases hgiven with hsuccessor | ⟨env', ⟨frame', hframe, hcarries'⟩, hmessage', hsignature⟩
  · obtain ⟨identityUuid, oldVersion, c, _, hpayload⟩ := h.successors _ _ hsuccessor
    exact (signedBytes_ne_successor hformed hmessage _ _ _ _ _ _ hpayload).elim
  · have hformed' := carries_formed hcarries'
    have hsame := signedBytes_injective hformed.version hformed.nonce hformed'.version hformed'.nonce hmessage
      hmessage'
    rw [hsignature] at hsame
    obtain rfl : env' = env := hsame
    exact ⟨frame', hframe, hcarries'⟩

lemma Secure.accepted (h : w.Secure scfg I) {frame : Frame} {d : Server.Draw} {env : Envelope}
    (hunforged : w.Unforged P scfg (.serve (.frame frame d))) (hcarries : Carries frame env)
    (hsender : env.senderUuid = I) (hgenuine : Genuine P scfg w.server.toTunnel2Server d env) : w.Sent env := by
  obtain ⟨cred, hcred, _, hverify⟩ := hgenuine.signed
  obtain ⟨hrow, _⟩ := Server.Database.credentialForAuth_eq_some.mp hcred
  rw [hsender] at hrow
  obtain ⟨message, hmessage, hverified⟩ := Envelope.verify_eq_ok hverify
  exact h.sent hcarries hmessage (hunforged _ _ _ _ _ (h.registered _ _ hrow) (.envelope hcarries hmessage) hverified)

lemma Secure.successor (h : w.Secure scfg I) {frame : Frame} {d : Server.Draw} {msg : ControlMessage}
    {env : Envelope} (hunforged : w.Unforged P scfg (.serve (.frame frame d)))
    (hchannel : frame.channel = channelControl) (hmsg : parseControl frame.payload = .ok msg)
    (haction : Action.ofCode? msg.ctype = some .rotateSubmit) (hparse : parseEnvelope msg.body = .ok env)
    {inner payload : Bytes} (hopen : w.server.state.openControl P env = .ok inner) {c : CredentialPublic}
    {p : SuccessorPayload} (hsender : env.senderUuid = I)
    (hadmitted : Admitted P scfg.params w.server.state.db env.senderUuid inner c p payload) :
    w.Holds c.version c.ed25519Public c.x25519Public := by
  obtain ⟨v, signer, hsigner, hverify⟩ := hadmitted.verified
  rw [hsender] at hsigner
  have hgiven := hunforged _ _ _ _ _ (h.registered _ _ hsigner)
    (.successor hchannel hmsg haction hparse hopen hadmitted.submitted) hverify
  obtain ⟨_, e, active, _, _, hencoded⟩ := hadmitted.submitted
  rcases hgiven with hsuccessor | ⟨env', ⟨frame', hframe, hcarries'⟩, hmessage', _⟩
  · obtain ⟨identityUuid, oldVersion, b, hb, hpayload⟩ := h.successors _ _ hsuccessor
    have hsame := SuccessorPayload.format.write_injective
      ((SuccessorPayload.write_format ⟨env.senderUuid, active.version, p.newVersion, p.newEd25519Public,
        p.newX25519Public, p.transitionMetadata⟩).trans hencoded)
      ((SuccessorPayload.write_format ⟨identityUuid, oldVersion, b.version, b.ed25519Public, b.x25519Public,
        []⟩).trans hpayload)
    obtain ⟨_, _, hversion, hed25519, hx25519, _⟩ := SuccessorPayload.mk.inj hsame
    rw [hadmitted.version, hadmitted.ed25519, hadmitted.x25519, hversion, hed25519, hx25519]
    exact ⟨b, hb, rfl, rfl⟩
  · exact (signedBytes_ne_successor (carries_formed hcarries') hmessage' _ _ _ _ _ _ hencoded).elim

lemma Holds.step {v : ℤ} {ed25519Public x25519Public : Bytes} (h : w.Holds v ed25519Public x25519Public)
    (e : HostileEvent) : (w.step P ccfg scfg e).Holds v ed25519Public x25519Public := by
  cases e with
  | serve e => exact h
  | call call =>
    obtain ⟨c, hc, hed25519, hx25519⟩ := h
    obtain ⟨c', hc', hevolves⟩ := (w.session.step_evolves P ccfg call).cred v c hc
    exact ⟨c', hc', hevolves.ed25519.trans hed25519, hevolves.x25519.trans hx25519⟩

lemma Secure.frame_row (h : w.Secure scfg I) {frame : Frame} {d : Server.Draw}
    (hunforged : w.Unforged P scfg (.serve (.frame frame d))) (hown : w.OwnEnrollment P I (.serve (.frame frame d)))
    {v : ℤ} {row : CredentialPublic}
    (hrow : (w.server.handleFrame P scfg d frame).2.state.db.credential I v = some row) :
    w.Holds v row.ed25519Public row.x25519Public := by
  have hkept {b : CredentialPublic} (hb : w.server.state.db.credential I v = some b) (hevolves : b.Evolves row) :
      w.Holds v row.ed25519Public row.x25519Public := by
    rw [hevolves.ed25519, hevolves.x25519]
    exact h.registered v b hb
  rcases handleFrame_authorized P scfg w.server d frame with
    hsame | ⟨hchannel, msg, hmsg, ⟨hctype, b, kind, entry, hb, hkind, hentry, hadmits, hdb⟩ |
      ⟨action, env, inner, haction, hparse, hgenuine, hopen, hdb⟩⟩
  · rw [hsame] at hrow
    exact h.registered v row hrow
  · rw [hdb] at hrow
    have hstep : (Server.Database.registryStep P scfg.params w.server.state.db (.enroll
        (Tunnel2Server.tokenIdentity P b.token kind) kind b.token b.version b.ed25519Public b.x25519Public
        (some d.now) d.time)).credential I v = some row := hrow
    rcases Server.Database.row_step hstep with ⟨c, hc, hevolves⟩ | ⟨rfl, _⟩
    · exact hkept hc hevolves
    · obtain ⟨_, hidentity, hversion⟩ := Server.Database.credential_eq_some.mp hrow
      obtain rfl : Tunnel2Server.tokenIdentity P b.token kind = I := hidentity
      obtain rfl : b.version = v := hversion
      exact hown b ⟨hchannel, msg, kind, entry, hmsg, hctype, hb, hkind, rfl, hentry, hadmits⟩
  · rw [hdb] at hrow
    by_cases hsender : env.senderUuid = I
    · rcases Server.Database.handleAction_row hrow with ⟨c, hc, hevolves⟩ | ⟨rfl, p, payload, hadmitted⟩
      · exact hkept hc hevolves
      · obtain ⟨_, _, rfl⟩ := Server.Database.credential_eq_some.mp hrow
        exact h.successor hunforged hchannel hmsg haction hparse hopen hsender hadmitted
    · rw [(Server.Database.handleAction_touches P scfg.params w.server.state.db action env.senderUuid inner
        d.now).others I (Ne.symm hsender)] at hrow
      exact h.registered v row hrow

lemma Secure.step (h : w.Secure scfg I) (hserver : I ≠ scfg.serverUuid) {e : HostileEvent}
    (hunforged : w.Unforged P scfg e) (hown : w.OwnEnrollment P I e) : (w.step P ccfg scfg e).Secure scfg I := by
  cases e with
  | call call =>
    refine ⟨h.rotating, fun v row hrow => (h.registered v row hrow).step (.call call), ?_⟩
    intro message signature hmem
    rcases List.mem_append.mp hmem with hold | hnew
    · obtain ⟨identityUuid, oldVersion, c, hc, hpayload⟩ := h.successors _ _ hold
      obtain ⟨c', hc', hevolves⟩ := (w.session.step_evolves P ccfg call).cred _ c hc
      refine ⟨identityUuid, oldVersion, c', by rw [hevolves.version]; exact hc', ?_⟩
      rw [hevolves.version, hevolves.ed25519, hevolves.x25519]
      exact hpayload
    · exact Client.Call.successor?_stored (Option.mem_toList.mp hnew)
  | serve e =>
    refine ⟨serve_rotating h.rotating, ?_, h.successors⟩
    intro v row hrow
    change (serve P scfg w.server e).state.db.credential I v = some row at hrow
    by_cases hauthorized : RowsAuthorized P scfg w.server I e
    · cases e with
      | issue => exact hauthorized.elim
      | rotate => exact (hserver hauthorized).elim
      | frame frame d => exact h.frame_row hunforged hown hrow
    · have hrows := congrFun (congrArg Prod.fst (serve_rows h.rotating hauthorized)) v
      exact h.registered v row (hrows.symm.trans hrow)

lemma Secure.spoken (h : w.Secure scfg I) {e : ServerEvent} (hserver : I ≠ scfg.serverUuid)
    (hunforged : w.Unforged P scfg (.serve e)) (hown : w.OwnEnrollment P I (.serve e)) : w.Spoken P scfg I e := by
  have haccepted : ∀ frame d env, e = .frame frame d → Carries frame env → env.senderUuid = I →
      Genuine P scfg w.server.toTunnel2Server d env → w.Sent env := by
    rintro frame d env rfl hcarries hsender hgenuine
    exact h.accepted hunforged hcarries hsender hgenuine
  refine ⟨haccepted, fun hchanged => ?_, fun o hchanged => ?_⟩
  · have hauthorized : RowsAuthorized P scfg w.server I e := by
      by_contra hnot
      exact hchanged (serve_rows h.rotating hnot)
    cases e with
    | issue => exact hauthorized.elim
    | rotate => exact (hserver hauthorized).elim
    | frame frame d =>
      obtain ⟨hchannel, msg, hmsg, ⟨hctype, b, kind, row, hb, hkind, rfl, hrow, hadmits⟩ |
        ⟨action, env, haction, hparse, rfl, hgenuine⟩⟩ := hauthorized
      · have hredeems : Redeems P w.server (Tunnel2Server.tokenIdentity P b.token kind) b (.frame frame d) :=
          ⟨hchannel, msg, kind, row, hmsg, hctype, hb, hkind, rfl, hrow, hadmits⟩
        exact Or.inl ⟨b, hredeems, hown b hredeems⟩
      · have hcarries : Carries frame env := Or.inr ⟨hchannel, msg, action, hmsg, haction, hparse⟩
        exact Or.inr ⟨frame, d, env, rfl, hcarries, rfl, haccepted frame d env rfl hcarries rfl hgenuine⟩
  · have hauthorized : ObjectAuthorized P scfg w.server o e := by
      by_contra hnot
      exact hchanged (serve_objects hnot)
    cases e with
    | issue | rotate => exact hauthorized.elim
    | frame frame d =>
      obtain ⟨hchannel, env, hparse, hgenuine, hallowed⟩ := hauthorized
      have hcarries : Carries frame env := Or.inl ⟨hchannel, hparse⟩
      exact ⟨frame, d, env, rfl, hcarries, hallowed, fun hsender =>
        haccepted frame d env rfl hcarries hsender hgenuine⟩

end Secure

theorem client_not_impersonated (P : Primitives) (ccfg : ClientConfig) (scfg : ServerConfig) (I : Uuid)
    (session : ClientSession) (server : Connection) (hserver : I ≠ scfg.serverUuid)
    (hrotating : server.state.Rotating scfg) (hregistered : (start session server).Registered I)
    (es : List HostileEvent)
    (hattack : Along (step P ccfg scfg) (fun w e => w.Unforged P scfg e ∧ w.OwnEnrollment P I e)
      (start session server) es) :
    Along (step P ccfg scfg) (fun w e => ∀ served, e = .serve served → w.Spoken P scfg I served)
      (start session server) es ∧
    (run (step P ccfg scfg) (start session server) es).Registered I := by
  have hstart : (start session server).Secure scfg I := ⟨hrotating, hregistered, fun _ _ h => by cases h⟩
  have hsecure : ∀ (w : Hostile) (e : HostileEvent), w.Unforged P scfg e ∧ w.OwnEnrollment P I e →
      w.Secure scfg I → (w.step P ccfg scfg e).Secure scfg I := fun _ _ h hw => hw.step hserver h.1 h.2
  refine ⟨hattack.along (fun w e h hw => ⟨?_, hsecure w e h hw⟩) hstart, (hattack.invariant hsecure hstart).registered⟩
  rintro served rfl
  exact hw.spoken hserver h.1 h.2

section Demo

def demoRead : Client.Call where
  operation := .request { op := Op.read.code, objectUuid := some Uuid.nil }
  draw := (demoRound 1).client
  reply := some ⟨channelRelay, []⟩

def demoFrame : Frame := (demoRead.frame? tagged demoClient demoWorld.session).getD ⟨0, []⟩

-- the attacker delivers the client's frame twice, and something of its own
def attack : List HostileEvent :=
  [.call demoRead, .serve (.frame demoFrame (demoRound 1).server), .serve (.frame demoFrame (demoRound 2).server),
    .serve (.frame ⟨channelControl, []⟩ (demoRound 3).server)]

lemma unforged_replayed {P : Primitives} {scfg : ServerConfig} {w : Hostile} {frame : Frame} (d : Server.Draw)
    (hsent : frame ∈ w.sent) (hchannel : frame.channel ≠ channelControl) :
    w.Unforged P scfg (.serve (.frame frame d)) := by
  intro v ed25519Public x25519Public message signature _ hshown _
  cases hshown with
  | envelope hcarries hmessage => exact Or.inr ⟨_, ⟨frame, hsent, hcarries⟩, hmessage, rfl⟩
  | successor hcontrol => exact (hchannel hcontrol).elim

lemma unforged_unparsed {P : Primitives} {scfg : ServerConfig} {w : Hostile} {frame : Frame} (d : Server.Draw)
    (hchannel : frame.channel = channelControl) {exc : Exn} (hmsg : parseControl frame.payload = .error exc) :
    w.Unforged P scfg (.serve (.frame frame d)) := by
  intro v ed25519Public x25519Public message signature _ hshown _
  have hnone : ∀ msg, parseControl frame.payload ≠ .ok msg := by
    intro msg h
    cases hmsg.symm.trans h
  cases hshown with
  | envelope hcarries =>
    rcases hcarries with ⟨hrelay, _⟩ | ⟨_, msg, _, h, _⟩
    · rw [hchannel] at hrelay
      cases hrelay
    · exact (hnone msg h).elim
  | successor _ h => exact (hnone _ h).elim

theorem attack_fails :
    Along (step tagged demoClient demoServer)
      (fun w e => ∀ served, e = .serve served → w.Spoken tagged demoServer demoIdentity served)
      (start demoWorld.session demoWorld.server) attack ∧
    (run (step tagged demoClient demoServer) (start demoWorld.session demoWorld.server) attack).Registered
      demoIdentity := by
  have hframe : demoRead.frame? tagged demoClient demoWorld.session = some demoFrame := by decide +kernel
  have hrelay : demoFrame.channel = channelRelay := by decide +kernel
  have hchannel : demoFrame.channel ≠ channelControl := by
    rw [hrelay]
    decide
  have hregistered : ∀ row ∈ demoWorld.server.state.db.credentials.rows, row.identityUuid = demoIdentity →
      (demoWorld.session.identity.engine.get row.version).map (fun c => (c.ed25519Public, c.x25519Public)) =
        some (row.ed25519Public, row.x25519Public) := by decide +kernel
  have hidentity : demoWorld.server.state.identity.toHolder = demoConnection.state.identity.toHolder ∧
      demoWorld.server.state.identity.loaded = demoConnection.state.identity.loaded := by decide +kernel
  have hrotating : demoConnection.state.Rotating demoServer :=
    ServerState.rotating_first _ none (demoKeys 9) 1000 (by decide +kernel)
  refine client_not_impersonated tagged demoClient demoServer demoIdentity demoWorld.session demoWorld.server
    (by decide +kernel) (hrotating.of_identity (congrArg₂ ServerIdentity.mk hidentity.1 hidentity.2)) ?_ attack ?_
  · intro v row hrow
    obtain ⟨hmem, hidentity, rfl⟩ := Server.Database.credential_eq_some.mp hrow
    obtain ⟨c, hc, hkeys⟩ := Option.map_eq_some_iff.mp (hregistered row hmem hidentity)
    obtain ⟨hed25519, hx25519⟩ := Prod.mk.inj hkeys
    exact ⟨c, hc, hed25519, hx25519⟩
  · have hsent : demoFrame ∈ (demoRead.frame? tagged demoClient demoWorld.session).toList := by simp [hframe]
    refine ⟨⟨trivial, trivial⟩, ⟨unforged_replayed _ ?_ hchannel, ?_⟩, ⟨unforged_replayed _ ?_ hchannel, ?_⟩,
      ⟨unforged_unparsed _ rfl rfl, ?_⟩, trivial⟩
    · rw [step_call_sent]
      exact List.mem_append_right _ hsent
    · exact fun b h => (hchannel h.1).elim
    · rw [step_serve_sent, step_call_sent]
      exact List.mem_append_right _ hsent
    · exact fun b h => (hchannel h.1).elim
    · rintro b ⟨_, msg, _, _, h, _⟩
      cases h

end Demo

end Hostile

end Secupload.System
