import Secupload.Server.OwnKeys

/-! Which control actions the server can be made to perform with one signed envelope, when
the type of the outer frame is not signed. -/

namespace Secupload.Server

open Library Shared

variable (P : Primitives)

namespace Database

section Accepts

variable (params : RotationParams) (db : Database) (sender : Uuid) (inner : Bytes) (now : ℤ)

def Accepts : Action → Prop
  | .registrySync => ∃ kind snapshot, syncKind inner = .ok kind ∧
      encodeRegistrySnapshot ((db.publicEntries kind).map registryEntryFromPublic) = .ok snapshot
  | .rotateSubmit => ∃ p e,
      parseSuccessorPayload (payloadPart inner) = .ok p ∧
      p.identityUuid = sender ∧ db.loadEngine params sender = some e ∧
      e.Submittable P (newCredential sender p.newVersion p.newEd25519Public p.newX25519Public)
        (signaturePart inner) p.transitionMetadata now
  | .rotateCheckpoint => ∃ e, db.loadEngine params sender = some e ∧ e.Checkpointable now
  | .rotateRollback => ∃ e, db.loadEngine params sender = some e ∧ e.validating ≠ none
  | .rotateRevoke => ∃ version e c, Decoder.parse inner Decoder.u32 = .ok version ∧
      db.loadEngine params sender = some e ∧ e.get version = some c

variable {P params db sender inner now}

lemma transact_accepts {α : Type} {e : RotationEngine}
    {fn : RotationEngine → Outcome RotationEngine α} {a : α} :
    (db.transact e fn).1 = .ok a ↔ (fn e).1 = .ok a := by
  simp only [transact]
  split <;> rename_i he <;> simp [he]

lemma call_accepts {c : Call} :
    (∃ changed, (db.call P params sender c).1 = .ok changed) ↔
      ∃ e, db.loadEngine params sender = some e ∧
        ∃ changed, ((c.transition sender).exec P e).1 = .ok changed := by
  simp only [call, apply]
  cases db.loadEngine params sender with
  | none => simp
  | some e => simp [transact_accepts]

lemma encodeControl_ok : encodeControl 0 (utf8 "ok") = .ok ([0, 0, 0, 0, 2] ++ utf8 "ok") := by
  generalize hbody : utf8 "ok" = body
  have hlength : body.length = 2 := by
    rw [← hbody]
    rfl
  simp only [encodeControl, Encoder.finish, Encoder.bytes, Encoder.u32, Encoder.u8, Encoder.write, hlength]
  rfl

lemma answered_accepts {α : Type} {r : Outcome Database α} :
    (∃ response, (r.bind fun _ db => (encodeControl 0 (utf8 "ok"), db)).1 = .ok response) ↔
      ∃ a, r.1 = .ok a := by
  obtain ⟨result, db'⟩ := r
  cases result with
  | error exc => simp [Outcome.bind]
  | ok a => exact iff_of_true ⟨_, encodeControl_ok⟩ ⟨a, rfl⟩

lemma map_accepts {σ α β : Type} {r : Outcome σ α} {f : α → σ → β} :
    (∃ b, (r.map f).1 = .ok b) ↔ ∃ a, r.1 = .ok a := by
  obtain ⟨result, s⟩ := r
  cases result <;> simp [Outcome.map, Except.map]

lemma submit_accepts {newVersion : ℤ} {ed25519Public x25519Public signature metadata : Bytes} :
    (∃ cred, (db.submitSuccessor P params sender newVersion ed25519Public x25519Public signature
      metadata now).1 = .ok cred) ↔
    ∃ e, db.loadEngine params sender = some e ∧ e.Submittable P
      (newCredential sender newVersion ed25519Public x25519Public) signature metadata now := by
  rw [submitSuccessor, map_accepts, call_accepts]
  refine exists_congr fun e => and_congr_right fun _ => ?_
  rw [← RotationEngine.submitSuccessor_accepts]
  exact map_accepts.trans ⟨fun ⟨_, h⟩ => h, fun h => ⟨(), h⟩⟩

lemma checkpoint_accepts : (∃ changed, (db.checkpoint P params sender now).1 = .ok changed) ↔
    ∃ e, db.loadEngine params sender = some e ∧ e.Checkpointable now := by
  rw [checkpoint, call_accepts]
  exact exists_congr fun e => and_congr_right fun _ => RotationEngine.checkpoint_accepts

lemma rollback_accepts : (∃ cred, (db.rollback P params sender now).1 = .ok cred) ↔
    ∃ e, db.loadEngine params sender = some e ∧ e.validating ≠ none := by
  rw [rollback, map_accepts, call_accepts]
  refine exists_congr fun e => and_congr_right fun _ => map_accepts.trans ?_
  simp only [RotationEngine.rollback]
  cases e.validating <;> simp

lemma revoke_accepts {version : ℤ} :
    (∃ cred, (db.revoke P params sender version now).1 = .ok cred) ↔
    ∃ e, db.loadEngine params sender = some e ∧ ∃ c, e.get version = some c := by
  rw [revoke, map_accepts, call_accepts]
  refine exists_congr fun e => and_congr_right fun _ => map_accepts.trans ?_
  simp only [RotationEngine.revoke]
  cases e.get version <;> simp

lemma handleRotateSubmit_accepts :
    (∃ response, (db.handleRotateSubmit P params sender inner now).1 = .ok response) ↔
      Accepts P params db sender inner now .rotateSubmit := by
  unfold handleRotateSubmit Accepts
  generalize parseSuccessorPayload (payloadPart inner) = parsed
  cases parsed with
  | error exc => simp
  | ok p =>
    dsimp only
    by_cases hp : p.identityUuid = sender
    · rw [if_neg (not_not.mpr hp), answered_accepts, submit_accepts]
      constructor
      · rintro ⟨e, hload, hsubmit⟩
        exact ⟨p, e, rfl, hp, hload, hsubmit⟩
      · rintro ⟨p', e, he, _, hload, hsubmit⟩
        obtain rfl := Except.ok.inj he
        exact ⟨e, hload, hsubmit⟩
    · rw [if_pos hp]
      refine iff_of_false ?_ ?_
      · rintro ⟨response, h⟩
        cases h
      · rintro ⟨p', e, he, hp', _⟩
        obtain rfl := Except.ok.inj he
        exact hp hp'

lemma handleRotateRevoke_accepts :
    (∃ response, (db.handleRotateRevoke P params sender inner now).1 = .ok response) ↔
      Accepts P params db sender inner now .rotateRevoke := by
  simp only [handleRotateRevoke, Accepts]
  generalize Decoder.parse inner Decoder.u32 = parsed
  cases parsed with
  | error exc => simp
  | ok version =>
    dsimp only
    rw [answered_accepts, revoke_accepts]
    constructor
    · rintro ⟨e, hload, c, hc⟩
      exact ⟨version, e, c, rfl, hload, hc⟩
    · rintro ⟨version', e, c, he, hload, hc⟩
      obtain rfl := Except.ok.inj he
      exact ⟨e, hload, c, hc⟩

lemma handleAction_accepts {action : Action} :
    (∃ response, (db.handleAction P params action sender inner now).1 = .ok response) ↔
      Accepts P params db sender inner now action := by
  cases action with
  | registrySync =>
    simp only [handleAction, handleRegistrySync, Accepts, except_bind_eq_ok]
    exact exists_comm
  | rotateSubmit => exact handleRotateSubmit_accepts
  | rotateCheckpoint =>
    simp only [handleAction, handleRotateCheckpoint, answered_accepts]
    exact checkpoint_accepts
  | rotateRollback =>
    simp only [handleAction, handleRotateRollback, answered_accepts]
    exact rollback_accepts
  | rotateRevoke => exact handleRotateRevoke_accepts

lemma syncKind_zero (rest : Bytes) : ∀ kind, syncKind (0 :: rest) ≠ .ok kind := by
  intro kind h
  cases h

-- a successor payload starts with the length of its tag, whose first byte is 0
lemma submission_head {p : SuccessorPayload} (h : parseSuccessorPayload (payloadPart inner) = .ok p) :
    ∃ rest, inner = 0 :: rest := by
  obtain ⟨⟨tag, dec⟩, hbytes, hrest⟩ := except_bind_eq_ok.mp h
  obtain ⟨hlen, htag⟩ := Decoder.bytes_eq_ok hbytes
  have heq : tag = successorTag := by
    by_contra hne
    simp only [ne_eq, hne, not_false_eq_true, if_true] at hrest
    cases hrest
  have hpayload : 4 ≤ inner.length := by
    rw [payloadPart, List.length_take] at hlen
    omega
  obtain ⟨b, rest, rfl⟩ := List.exists_cons_of_length_pos (by omega : 0 < inner.length)
  have hhead : ∃ w : Bytes, (payloadPart (b :: rest)).take 4 = b :: w ∧ w.length = 3 := by
    have hn : (b :: rest).length - ed25519SignatureSize ≠ 0 := by
      intro hzero
      rw [payloadPart, hzero] at hlen
      simp at hlen
    obtain ⟨n, hn⟩ := Nat.exists_eq_succ_of_ne_zero hn
    rw [payloadPart, hn] at hlen ⊢
    refine ⟨(rest.take n).take 3, by simp, ?_⟩
    simp only [List.take_succ_cons, List.length_cons] at hlen
    rw [List.length_take]
    omega
  obtain ⟨w, hw, hwlen⟩ := hhead
  rw [hw, unpackUInt, beValue_cons, hwlen, heq] at htag
  have hten : successorTag.length = 10 := rfl
  rw [hten] at htag
  have hb : b.toNat = (0 : UInt8).toNat := by
    change b.toNat = 0
    omega
  exact ⟨rest, by rw [UInt8.toNat_inj.mp hb]⟩

lemma accepts_checkpoint_rollback (h : Accepts P params db sender inner now .rotateCheckpoint) :
    Accepts P params db sender inner now .rotateRollback := by
  obtain ⟨e, hload, v3, v2, hv3, _⟩ := h
  exact ⟨e, hload, by simp [hv3]⟩

lemma accepts_submit_rollback (h : Accepts P params db sender inner now .rotateSubmit) :
    ¬ Accepts P params db sender inner now .rotateRollback := by
  rintro ⟨e', hload', hv⟩
  obtain ⟨p, e, _, _, hload, signer, payload, _, _, hnone, _⟩ := h
  obtain rfl := Option.some.inj (hload.symm.trans hload')
  exact hv hnone

lemma accepts_submit_sync (h : Accepts P params db sender inner now .rotateSubmit) :
    ¬ Accepts P params db sender inner now .registrySync := by
  rintro ⟨kind, snapshot, hkind, _⟩
  obtain ⟨p, e, hparse, _⟩ := h
  obtain ⟨rest, rfl⟩ := submission_head hparse
  exact syncKind_zero rest kind hkind

def Ambiguous (P : Primitives) (params : RotationParams) (db : Database) (sender : Uuid)
    (inner : Bytes) (now : ℤ) : Prop :=
  let accepts := Accepts P params db sender inner now
  accepts .rotateRollback ∧
      (accepts .rotateCheckpoint ∨ accepts .registrySync ∨ accepts .rotateRevoke) ∨
    accepts .rotateRevoke ∧ (accepts .rotateSubmit ∨ accepts .registrySync)

lemma ambiguous_iff : Ambiguous P params db sender inner now ↔
    ∃ a b, a ≠ b ∧ Accepts P params db sender inner now a ∧ Accepts P params db sender inner now b := by
  let accepts := Accepts P params db sender inner now
  change accepts .rotateRollback ∧
      (accepts .rotateCheckpoint ∨ accepts .registrySync ∨ accepts .rotateRevoke) ∨
    accepts .rotateRevoke ∧ (accepts .rotateSubmit ∨ accepts .registrySync) ↔
      ∃ a b, a ≠ b ∧ accepts a ∧ accepts b
  constructor
  · rintro (⟨h, h' | h' | h'⟩ | ⟨h, h' | h'⟩)
    · exact ⟨_, _, by decide, h, h'⟩
    · exact ⟨_, _, by decide, h, h'⟩
    · exact ⟨_, _, by decide, h, h'⟩
    · exact ⟨_, _, by decide, h, h'⟩
    · exact ⟨_, _, by decide, h, h'⟩
  · rintro ⟨a, b, hne, ha, hb⟩
    have hcheckpoint : accepts .rotateCheckpoint → accepts .rotateRollback :=
      accepts_checkpoint_rollback
    have hrollback : accepts .rotateSubmit → ¬ accepts .rotateRollback := accepts_submit_rollback
    have hsync : accepts .rotateSubmit → ¬ accepts .registrySync := accepts_submit_sync
    cases a <;> cases b <;> first | exact (hne rfl).elim | tauto

end Accepts

end Database

namespace Tunnel2Server

section Executes

variable (cfg : ServerConfig) (srv : Tunnel2Server) (d : Draw)

def Executes (body : Bytes) (action : Action) : Prop :=
  ∃ frame env response, encodeControl action.ctype.code body = .ok frame ∧
    (srv.perform P cfg d frame).1 = .ok (.action action env (.done response))

def ActionAuthentic (body : Bytes) : Prop :=
  (∀ a b, a ≠ b → srv.Executes P cfg d body a → ¬ srv.Executes P cfg d body b) ∧
  ∀ env, parseEnvelope body = .ok env →
    env.msgType = MsgType.request.code ∨ env.msgType = MsgType.objChunk.code →
      ∀ a, ¬ srv.Executes P cfg d body a

def Received (body : Bytes) (env : Envelope) (inner : Bytes) : Prop :=
  (srv.receive P cfg d body).1 = .ok (env, inner)

variable {P cfg srv d} {body inner : Bytes} {env : Envelope}

lemma encodable {c : ControlType} : (∃ frame, encodeControl c.code body = .ok frame) ↔
    body.length < 2 ^ 32 := by
  have hlength : (∃ bs, packUInt 4 body.length = .ok bs) ↔ body.length < 2 ^ 32 := by
    rw [packUInt_isOk]
    omega
  rw [← hlength]
  constructor
  · rintro ⟨frame, h⟩
    obtain ⟨_, _, hlen, _, _⟩ := Encoder.write_eq_ok.mp h
    obtain ⟨_, len, _, hlen, _⟩ := Encoder.write_eq_ok.mp hlen
    exact ⟨len, hlen⟩
  · rintro ⟨len, hlen⟩
    have hcode : 0 ≤ c.code ∧ c.code < 256 ^ 1 := by cases c <;> decide
    obtain ⟨code, hcode⟩ := packUInt_isOk.mpr hcode
    refine ⟨code ++ len ++ body, ?_⟩
    simp only [encodeControl, Encoder.finish, Encoder.bytes, Encoder.u32, Encoder.u8]
    refine Encoder.write_eq_ok.mpr ⟨_, _, Encoder.write_eq_ok.mpr ⟨_, _, ?_, hlen, rfl⟩, rfl, rfl⟩
    exact Encoder.write_eq_ok.mpr ⟨[], code, rfl, hcode, rfl⟩

lemma receive_state : (srv.receive P cfg d body).2.state = srv.state := by
  simp only [receive]
  split
  · rfl
  · split <;> rfl

lemma received_envelope (h : srv.Received P cfg d body env inner) : parseEnvelope body = .ok env := by
  simp only [Received, receive] at h
  split at h
  · cases h
  · rename_i env' henv
    split at h
    · cases h
    · cases hopen : srv.state.openControl P env' with
      | error exc =>
        rw [hopen] at h
        cases h
      | ok plaintext =>
        rw [hopen] at h
        obtain ⟨rfl, _⟩ := Prod.mk.inj (Except.ok.inj h)
        exact henv

lemma handled_done {response : Except Exn Bytes} {r : Bytes} :
    handled response = .ok (.done r) ↔ response = .ok r := by
  simp only [handled]
  split
  · simp
  · cases encodeControl 1 (utf8 _) <;> simp
  · cases encodeControl 1 (utf8 _) <;> simp
  · simp

lemma handleAuthenticated_done {action : Action} :
    (∃ env response, (srv.handleAuthenticated P cfg d action body).1 =
      .ok (.action action env (.done response))) ↔
    ∃ env inner, srv.Received P cfg d body env inner ∧
      Database.Accepts P cfg.params srv.state.db env.senderUuid inner d.now action := by
  simp only [handleAuthenticated, Received, ← Database.handleAction_accepts]
  have hstate : (srv.receive P cfg d body).2.state = srv.state := receive_state
  generalize srv.receive P cfg d body = received at hstate
  obtain ⟨result, srv'⟩ := received
  rw [← show srv'.state = srv.state from hstate]
  cases result with
  | error exc => simp [Outcome.bind]
  | ok r =>
    obtain ⟨env, inner⟩ := r
    simp only [Outcome.bind]
    constructor
    · rintro ⟨env', response, h⟩
      obtain ⟨handled, hhandled, he⟩ := except_map_eq_ok.mp h
      obtain ⟨rfl, rfl⟩ := (Performed.action.inj he).2
      exact ⟨env, inner, rfl, response, handled_done.mp hhandled⟩
    · rintro ⟨env', inner', he, response, h⟩
      obtain ⟨rfl, rfl⟩ := Prod.mk.inj (Except.ok.inj he)
      exact ⟨env, response, except_map_eq_ok.mpr ⟨_, handled_done.mpr h, rfl⟩⟩

lemma perform_encoded {action : Action} {frame : Bytes}
    (h : encodeControl action.ctype.code body = .ok frame) :
    srv.perform P cfg d frame = srv.handleAuthenticated P cfg d action body := by
  simp only [perform, parse_encodeControl h, if_neg action.ctype_ne_enroll, Action.ofCode?_code]

lemma executes_iff {action : Action} : srv.Executes P cfg d body action ↔
    body.length < 2 ^ 32 ∧ ∃ env inner, srv.Received P cfg d body env inner ∧
      Database.Accepts P cfg.params srv.state.db env.senderUuid inner d.now action := by
  rw [← handleAuthenticated_done, ← encodable (c := action.ctype)]
  constructor
  · rintro ⟨frame, env, response, hframe, hdone⟩
    rw [perform_encoded hframe] at hdone
    exact ⟨⟨frame, hframe⟩, env, response, hdone⟩
  · rintro ⟨⟨frame, hframe⟩, env, response, hdone⟩
    refine ⟨frame, env, response, hframe, ?_⟩
    rw [perform_encoded hframe]
    exact hdone

end Executes

theorem action_authentic_iff (P : Primitives) (cfg : ServerConfig) (srv : Tunnel2Server) (d : Draw)
    (body : Bytes) :
    srv.ActionAuthentic P cfg d body ↔
      ∀ env inner, body.length < 2 ^ 32 → srv.Received P cfg d body env inner →
        ¬ Database.Ambiguous P cfg.params srv.state.db env.senderUuid inner d.now ∧
        (env.msgType = MsgType.request.code ∨ env.msgType = MsgType.objChunk.code →
          ∀ a, ¬ Database.Accepts P cfg.params srv.state.db env.senderUuid inner d.now a) := by
  simp only [ActionAuthentic, executes_iff, Database.ambiguous_iff]
  constructor
  · rintro ⟨honly, hrelay⟩ env inner hlen hreceived
    constructor
    · rintro ⟨a, b, hne, ha, hb⟩
      exact honly a b hne ⟨hlen, env, inner, hreceived, ha⟩ ⟨hlen, env, inner, hreceived, hb⟩
    · intro htype a ha
      exact hrelay env (received_envelope hreceived) htype a ⟨hlen, env, inner, hreceived, ha⟩
  · intro h
    constructor
    · rintro a b hne ⟨hlen, env, inner, hreceived, ha⟩ ⟨_, env', inner', hreceived', hb⟩
      obtain ⟨rfl, rfl⟩ := Prod.mk.inj (Except.ok.inj (hreceived.symm.trans hreceived'))
      exact (h env inner hlen hreceived).1 ⟨a, b, hne, ha, hb⟩
    · rintro env henv htype a ⟨hlen, env', inner, hreceived, ha⟩
      obtain rfl := Except.ok.inj (henv.symm.trans (received_envelope hreceived))
      exact (h env inner hlen hreceived).2 htype a ha

section Demo

def serving (P : Primitives) (cfg : ServerConfig) (ops : List Database.RegistryOp) (k : PrivateKeys)
    (now : ℤ) : Tunnel2Server where
  state := ((ServerState.start cfg (Database.reached P cfg.params ops) none).ensureLoaded P cfg k now).2
  auth := Authenticator.new defaultReplayCacheSize

def frontServer : ServerConfig := { serverUuid := Uuid.repeated 1 }

def demoDraw : Draw where
  authNow := 50000
  now := 50000
  time := 50000
  sentAt := 50000
  nonce := List.replicate 12 1
  ephemeral := demoKey 8

def demoControlEnvelope : Except Exn Envelope := do
  let env : Envelope :=
    { msgType := MsgType.control.code, senderUuid := Uuid.nil, recipientUuid := frontServer.serverUuid
      requestId := Uuid.nil, senderCredentialVersion := 1, timestamp := 50000
      nonce := List.replicate 12 0, payload := [] }
  let r ← sealMessage transparent (demoKey 9) (demoKeys 6).x25519 env.nonce (← env.aad 0) []
  let payload ← wrapEncrypted ⟨1, r.1, env.nonce, r.2⟩
  { env with payload }.sign transparent (demoKey 1)

def demoControlBody : Bytes := (demoControlEnvelope >>= Envelope.encode).toOption.getD []

lemma demo_executes (action : Action) (h : action = .rotateCheckpoint ∨ action = .rotateRollback) :
    (serving transparent frontServer Database.rotatingRun (demoKeys 6) 1000).Executes transparent
      frontServer demoDraw demoControlBody action := by
  refine ⟨(encodeControl action.ctype.code demoControlBody).toOption.getD [],
    demoControlEnvelope.toOption.getD (Authenticator.demoEnvelope 0),
    [0, 0, 0, 0, 2] ++ utf8 "ok", ?_, ?_⟩
  · rcases h with rfl | rfl <;> decide +kernel
  · rcases h with rfl | rfl <;> decide +kernel

-- once the promotion is due, one signed body both promotes and rolls back
theorem checkpoint_body_rolls_back :
    ¬ ∀ (P : Primitives) (cfg : ServerConfig) (ops : List Database.RegistryOp) (k : PrivateKeys)
      (now : ℤ) (d : Draw) (body : Bytes), (serving P cfg ops k now).ActionAuthentic P cfg d body := by
  intro h
  have hauthentic := h transparent frontServer Database.rotatingRun (demoKeys 6) 1000 demoDraw
    demoControlBody
  exact hauthentic.1 .rotateCheckpoint .rotateRollback (by decide) (demo_executes _ (Or.inl rfl))
    (demo_executes _ (Or.inr rfl))

end Demo

end Tunnel2Server

end Secupload.Server
