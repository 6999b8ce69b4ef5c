import Secupload.Client.Session
import Secupload.Library.Runs

namespace Secupload.Client

open Library Shared

inductive Operation
  | request (msg : RequestMessage)
  | sendChunk (objectUuid : Uuid) (chunkIndex : ℤ) (data : Bytes)
  | requestChunk (objectUuid : Uuid) (chunkIndex : ℤ)
  | syncRegistry (kind : IdentityKind)
  | rotate
  | checkpointRotation
  | rollbackRotation

structure Call where
  operation : Operation
  draw : Draw
  reply : Option Frame

variable (P : Primitives) (cfg : ClientConfig)

def Call.exchange (call : Call) : Exchange :=
  match call.operation with
  | .request msg => ClientSession.request P cfg call.draw msg
  | .sendChunk objectUuid chunkIndex data =>
    ClientSession.sendChunk P cfg call.draw objectUuid chunkIndex data
  | .requestChunk objectUuid chunkIndex =>
    ClientSession.requestChunk P cfg call.draw objectUuid chunkIndex
  | .syncRegistry kind => ClientSession.syncRegistry P cfg call.draw kind
  | .rotate => ClientSession.rotate P cfg call.draw
  | .checkpointRotation => ClientSession.checkpointRotation P cfg call.draw
  | .rollbackRotation => ClientSession.rollbackRotation P cfg call.draw

def Call.Awaits (call : Call) (s waiting : ClientSession) (requestId : Uuid) (env : Envelope) : Prop :=
  ∃ sent frame, (call.exchange P cfg).send s = (.ok sent, waiting) ∧ sent.requestId = requestId ∧
    call.reply = some frame ∧ (call.exchange P cfg).envelope frame = .ok env

namespace ClientSession

def Uses (s : ClientSession) (call : Call) (env : Envelope) : Prop :=
  (∃ answer, ((call.exchange P cfg).use s env).1 = .ok answer) ∨
    ((call.exchange P cfg).use s env).2.identity ≠ s.identity ∨
    ((call.exchange P cfg).use s env).2.serverKeys ≠ s.serverKeys

structure Bound (s : ClientSession) (requestId : Uuid) (env : Envelope) : Prop where
  signature : env.verify P s.serverKeys.ed25519Public = .ok ()
  sender : env.senderUuid = cfg.serverUuid
  recipient : env.recipientUuid = s.identity.identityUuid P cfg
  request : env.requestId = requestId

def step (s : ClientSession) (call : Call) : ClientSession :=
  ((call.exchange P cfg).perform s call.reply).2

def Authentic (s : ClientSession) (call : Call) : Prop :=
  ∀ waiting requestId env, call.Awaits P cfg s waiting requestId env →
    waiting.Uses P cfg call env → waiting.Bound P cfg requestId env

def Opens (s : ClientSession) (env : Envelope) (plain : Bytes) : Prop :=
  ∃ keys, s.identity.currentKeys = .ok keys ∧ openPayload P env keys.x25519 = .ok plain

def OpensStatus (s : ClientSession) (env : Envelope) (status : ℤ) : Prop :=
  ∃ plain message, s.Opens P env plain ∧ parseStatusInner plain = .ok (status, message)

def OpensChunk (s : ClientSession) (env : Envelope) (objectUuid : Uuid) (chunkIndex : ℤ) : Prop :=
  ∃ keys p aad data, s.identity.currentKeys = .ok keys ∧ unwrapEncryptedChunk env.payload = .ok p ∧
    p.objectUuid = objectUuid ∧ p.chunkIndex = chunkIndex ∧ env.aad chunkIndex = .ok aad ∧
    openChunk P keys.x25519 objectUuid.bytes chunkIndex aad p.ephemeralPublic p.ciphertext = .ok data

def Usable (s : ClientSession) (env : Envelope) : Operation → Prop
  | .request _ | .sendChunk _ _ _ => ∃ plain response, s.Opens P env plain ∧
      parseResponseMessage plain = .ok response
  | .requestChunk objectUuid chunkIndex => env.msgType = MsgType.objChunk.code ∧
      s.OpensChunk P env objectUuid chunkIndex
  | .syncRegistry _ => ∃ plain entries, s.Opens P env plain ∧
      parseRegistrySnapshot plain = .ok entries
  | .rotate => ∃ status, s.OpensStatus P env status ∧
      (status = 0 ∨ s.identity.engine.validating ≠ none)
  | .checkpointRotation => ∃ status, s.OpensStatus P env status
  | .rollbackRotation => s.OpensStatus P env 0 ∧ s.identity.engine.validating ≠ none

def Unforged (s : ClientSession) (call : Call) : Prop :=
  ∀ waiting requestId env, call.Awaits P cfg s waiting requestId env →
    waiting.Usable P env call.operation → waiting.Bound P cfg requestId env

end ClientSession

section Identity

variable {c : ClientIdentity} (now : ℤ)

lemma checkpoint_ok : (c.checkpoint now).1 = .ok () := by
  simp only [ClientIdentity.checkpoint]
  split
  · rfl
  · split
    · rfl
    · rename_i exc h hno he
      obtain ⟨code, message, rfl⟩ := RotationEngine.checkpoint_error (congrArg Prod.fst he)
      exact (hno code message rfl).elim
    · rfl

lemma rollback_none (h : c.engine.validating = none) : ∃ exc, c.rollback now = (.error exc, c) := by
  simp only [ClientIdentity.rollback, Holder.rollback, RotationEngine.rollback, h]
  exact ⟨_, rfl⟩

lemma rollback_some (h : c.engine.validating ≠ none) :
    (c.rollback now).1 = .ok () ∧ (c.rollback now).2 ≠ c := by
  obtain ⟨v3, hv3⟩ := Option.ne_none_iff_exists'.mp h
  simp only [ClientIdentity.rollback, Holder.rollback, RotationEngine.rollback, hv3]
  refine ⟨trivial, fun he => ?_⟩
  obtain ⟨hmem, hs⟩ := RotationEngine.mem_of_byStatus hv3
  have hengine : c.engine.put (RotationEngine.retired v3 .terminated) = c.engine :=
    congrArg (fun c : ClientIdentity => c.engine) he
  have hget : (c.engine.put (RotationEngine.retired v3 .terminated)).get v3.version =
      some (RotationEngine.retired v3 .terminated) :=
    (RotationEngine.get_put v3.version).trans (if_pos rfl)
  rw [hengine, RotationEngine.get_of_mem hmem] at hget
  have hstatus := congrArg CredentialPublic.status (Option.some.inj hget)
  rw [hs] at hstatus
  cases hstatus

end Identity

namespace ClientSession

section Uses

variable {P cfg} {s : ClientSession} {call : Call} {env : Envelope}

lemma uses_of_ok (answer : Answer) (h : ((call.exchange P cfg).use s env).1 = .ok answer) :
    s.Uses P cfg call env := Or.inl ⟨answer, h⟩

lemma not_uses_of_error (exc : Exn) (h : (call.exchange P cfg).use s env = (.error exc, s)) :
    ¬ s.Uses P cfg call env := by
  rw [Uses, h]
  rintro (⟨answer, hok⟩ | hne | hne)
  · cases hok
  · exact hne rfl
  · exact hne rfl

lemma decryptResponse_eq_ok {plain : Bytes} :
    s.decryptResponse P env = .ok plain ↔ s.Opens P env plain := by
  simp only [decryptResponse, Opens, openPayload, except_bind_eq_ok]
  constructor
  · rintro ⟨p, hp, aad, haad, keys, hkeys, hopen⟩
    exact ⟨keys, hkeys, p, hp, aad, haad, hopen⟩
  · rintro ⟨keys, hkeys, p, hp, aad, haad, hopen⟩
    exact ⟨p, hp, aad, haad, keys, hkeys, hopen⟩

lemma opens_eq_ok {α : Type} {f : Bytes → Except Exn α} {a : α} :
    (s.decryptResponse P env >>= f) = .ok a ↔ ∃ plain, s.Opens P env plain ∧ f plain = .ok a := by
  simp only [except_bind_eq_ok, decryptResponse_eq_ok]

lemma controlStatus_eq_ok {status : ℤ} {message : Bytes} :
    s.controlStatus P env = .ok (status, message) ↔
      ∃ plain, s.Opens P env plain ∧ parseStatusInner plain = .ok (status, message) :=
  opens_eq_ok

lemma opensStatus_iff {status : ℤ} :
    s.OpensStatus P env status ↔ ∃ message, s.controlStatus P env = .ok (status, message) := by
  simp only [OpensStatus, controlStatus_eq_ok]
  exact exists_comm

lemma recvRelayResponse_uses (huse : (call.exchange P cfg).use s env = s.recvRelayResponse P env) :
    s.Uses P cfg call env ↔ ∃ plain response, s.Opens P env plain ∧
      parseResponseMessage plain = .ok response := by
  have hopens : ∀ response, (do parseResponseMessage (← s.decryptRelayResponse P env)) = .ok response ↔
      ∃ plain, s.Opens P env plain ∧ parseResponseMessage plain = .ok response := fun _ => opens_eq_ok
  rw [exists_comm]
  simp only [← hopens]
  cases hread : (do parseResponseMessage (← s.decryptRelayResponse P env)) with
  | error exc =>
    refine iff_of_false (not_uses_of_error exc ?_) (by simp)
    simp only [huse, recvRelayResponse, hread]
  | ok response =>
    refine iff_of_true (uses_of_ok (.response response) ?_) ⟨response, rfl⟩
    simp only [huse, recvRelayResponse, hread]

lemma requestedChunk_eq_ok {objectUuid : Uuid} {chunkIndex : ℤ} {p : EncryptedChunk} :
    requestedChunk objectUuid chunkIndex env = .ok p ↔
      unwrapEncryptedChunk env.payload = .ok p ∧ p.objectUuid = objectUuid ∧
        p.chunkIndex = chunkIndex := by
  simp only [requestedChunk, except_bind_eq_ok]
  constructor
  · rintro ⟨q, hq, h⟩
    split at h
    · cases h
    · rename_i hsame
      obtain rfl := Except.ok.inj h
      rw [not_or, not_not, not_not] at hsame
      exact ⟨hq, hsame⟩
  · rintro ⟨hp, hobject, hindex⟩
    exact ⟨p, hp, if_neg (by simp [hobject, hindex])⟩

lemma openChunkResponse_eq_ok {objectUuid : Uuid} {chunkIndex : ℤ} :
    (∃ data, s.openChunkResponse P objectUuid chunkIndex env = .ok data) ↔
      env.msgType = MsgType.objChunk.code ∧ s.OpensChunk P env objectUuid chunkIndex := by
  rw [openChunkResponse]
  split
  · rename_i htype
    refine iff_of_false ?_ fun h => htype h.1
    rintro ⟨data, h⟩
    obtain ⟨plain, _, h⟩ := except_bind_eq_ok.mp h
    obtain ⟨response, _, h⟩ := except_bind_eq_ok.mp h
    cases h
  · rename_i htype
    simp only [except_bind_eq_ok, requestedChunk_eq_ok]
    constructor
    · rintro ⟨data, p, ⟨hp, hobject, hindex⟩, aad, haad, keys, hkeys, hopen⟩
      exact ⟨not_not.mp htype, keys, p, aad, data, hkeys, hp, hobject, hindex, haad, hopen⟩
    · rintro ⟨_, keys, p, aad, data, hkeys, hp, hobject, hindex, haad, hopen⟩
      exact ⟨data, p, ⟨hp, hobject, hindex⟩, aad, haad, keys, hkeys, hopen⟩

lemma read_uses {α : Type} {read : Except Exn α} {answer : α → Answer}
    (huse : (call.exchange P cfg).use s env = (answer <$> read, s)) :
    s.Uses P cfg call env ↔ ∃ a, read = .ok a := by
  cases hread : read with
  | error exc =>
    refine iff_of_false (not_uses_of_error exc ?_) (by simp)
    rw [huse, hread]
    rfl
  | ok a =>
    refine iff_of_true (uses_of_ok (answer a) ?_) ⟨a, rfl⟩
    rw [huse, hread]
    rfl

lemma rotate_uses {d : Draw} {reply : Option Frame} :
    s.Uses P cfg ⟨.rotate, d, reply⟩ env ↔ ∃ status, s.OpensStatus P env status ∧
      (status = 0 ∨ s.identity.engine.validating ≠ none) := by
  simp only [opensStatus_iff]
  cases hstatus : s.controlStatus P env with
  | error exc =>
    refine iff_of_false (not_uses_of_error exc ?_) (by simp)
    simp only [Call.exchange, rotate, hstatus]
  | ok r =>
    obtain ⟨status, message⟩ := r
    by_cases hzero : status = 0
    · refine iff_of_true (uses_of_ok .done ?_) ⟨status, ⟨message, rfl⟩, Or.inl hzero⟩
      simp only [Call.exchange, rotate, hstatus, hzero, checkpoint_ok d.laterNow]
      rfl
    · by_cases hvalidating : s.identity.engine.validating = none
      · obtain ⟨exc, he⟩ := rollback_none d.laterNow hvalidating
        refine iff_of_false (not_uses_of_error exc ?_) ?_
        · simp only [Call.exchange, rotate, hstatus, if_pos hzero, he]
          rfl
        · rintro ⟨status', ⟨message', h⟩, hor⟩
          obtain ⟨rfl, _⟩ := Prod.mk.inj (Except.ok.inj h)
          exact hor.elim hzero fun h => h hvalidating
      · refine iff_of_true (Or.inr (Or.inl ?_)) ⟨status, ⟨message, rfl⟩, Or.inr hvalidating⟩
        obtain ⟨hok, hne⟩ := rollback_some d.laterNow hvalidating
        simp only [Call.exchange, rotate, hstatus, if_pos hzero]
        split
        · rename_i he
          rw [he] at hok
          cases hok
        · rename_i he
          rw [he] at hne
          exact hne

lemma checkpointRotation_uses {d : Draw} {reply : Option Frame} :
    s.Uses P cfg ⟨.checkpointRotation, d, reply⟩ env ↔ ∃ status, s.OpensStatus P env status := by
  simp only [opensStatus_iff]
  cases hstatus : s.controlStatus P env with
  | error exc =>
    refine iff_of_false (not_uses_of_error exc ?_) (by simp)
    simp only [Call.exchange, checkpointRotation, hstatus]
  | ok r =>
    obtain ⟨status, message⟩ := r
    refine iff_of_true (uses_of_ok (.promoted (decide (status = 0))) ?_) ⟨status, message, rfl⟩
    by_cases hzero : status = 0
    · simp only [Call.exchange, checkpointRotation, hstatus, hzero, checkpoint_ok d.laterNow]
      rfl
    · simp only [Call.exchange, checkpointRotation, hstatus, if_pos hzero, hzero]
      rfl

lemma rollbackRotation_uses {d : Draw} {reply : Option Frame} :
    s.Uses P cfg ⟨.rollbackRotation, d, reply⟩ env ↔
      s.OpensStatus P env 0 ∧ s.identity.engine.validating ≠ none := by
  simp only [opensStatus_iff]
  cases hstatus : s.controlStatus P env with
  | error exc =>
    refine iff_of_false (not_uses_of_error exc ?_) (by simp)
    simp only [Call.exchange, rollbackRotation, hstatus]
  | ok r =>
    obtain ⟨status, message⟩ := r
    by_cases hzero : status = 0
    · by_cases hvalidating : s.identity.engine.validating = none
      · obtain ⟨exc, he⟩ := rollback_none d.laterNow hvalidating
        refine iff_of_false (not_uses_of_error exc ?_) fun h => h.2 hvalidating
        simp only [Call.exchange, rollbackRotation, hstatus, if_neg (not_not.mpr hzero), he]
        rfl
      · refine iff_of_true (uses_of_ok .done ?_) ⟨⟨message, by rw [hzero]⟩, hvalidating⟩
        simp only [Call.exchange, rollbackRotation, hstatus, if_neg (not_not.mpr hzero),
          (rollback_some d.laterNow hvalidating).1]
        rfl
    · refine iff_of_false (not_uses_of_error (.rotateRejected message) ?_) ?_
      · simp only [Call.exchange, rollbackRotation, hstatus, if_pos hzero]
      · rintro ⟨⟨message', h⟩, _⟩
        exact hzero (Prod.mk.inj (Except.ok.inj h)).1

lemma uses_iff : s.Uses P cfg call env ↔ s.Usable P env call.operation := by
  obtain ⟨operation, d, reply⟩ := call
  cases operation with
  | request msg => exact recvRelayResponse_uses rfl
  | sendChunk objectUuid chunkIndex data => exact recvRelayResponse_uses rfl
  | requestChunk objectUuid chunkIndex => exact (read_uses rfl).trans openChunkResponse_eq_ok
  | syncRegistry kind =>
    refine (read_uses rfl).trans ?_
    simp only [Usable, decryptControlResponse, opens_eq_ok]
    exact exists_comm
  | rotate => exact rotate_uses
  | checkpointRotation => exact checkpointRotation_uses
  | rollbackRotation => exact rollbackRotation_uses

end Uses

theorem responses_authentic_iff (P : Primitives) (cfg : ClientConfig) (s : ClientSession)
    (calls : List Call) :
    Along (step P cfg) (Authentic P cfg) s calls ↔ Along (step P cfg) (Unforged P cfg) s calls := by
  apply along_congr
  intro s call
  simp only [Authentic, Unforged, uses_iff]

section Demo

def demoClient : ClientConfig where
  serverUuid := Uuid.repeated 1
  enrollmentToken := "t"

def demoSession : ClientSession where
  identity := ((ClientIdentity.start demoClient).fresh transparent demoClient (demoKeys 1) 1000).2.markEnrolled
  serverKeys := ⟨1, demoKey 6, demoKey 106⟩
  connected := true

def demoDraw : Draw where
  now := 1000
  identityNow := 1000
  laterNow := 1000
  time := 1000
  requestId := Uuid.nil
  nonce := List.replicate 12 1
  ephemeral := demoKey 8
  successor := demoKeys 2

-- sealed to the client's public key, and signed by nobody
def forgedEnvelope : Envelope :=
  let env : Envelope :=
    { msgType := MsgType.response.code, senderUuid := Uuid.nil, recipientUuid := Uuid.nil
      requestId := Uuid.nil, senderCredentialVersion := 1, timestamp := 0
      nonce := List.replicate 12 0, payload := [], signature := List.replicate 64 0 }
  let payload : Except Exn Bytes := do
    let plain ← encodeResponseMessage { serverKeyVersion := 7 }
    let r ← sealMessage transparent (demoKey 9) (demoKeys 1).x25519 env.nonce (← env.aad 0) plain
    wrapEncrypted ⟨1, r.1, env.nonce, r.2⟩
  { env with payload := payload.toOption.getD [] }

def forgedCall : Call where
  operation := .request { op := Op.read.code, objectUuid := some Uuid.nil }
  draw := demoDraw
  reply := some ⟨channelRelay, forgedEnvelope.encode.toOption.getD []⟩

theorem forged_reply_used :
    ¬ ∀ (P : Primitives) (cfg : ClientConfig) (s : ClientSession) (calls : List Call),
      s.serverKeys.version ≠ 0 → Along (step P cfg) (Authentic P cfg) s calls := by
  intro h
  have hauthentic := h transparent demoClient demoSession [forgedCall] (by decide)
  have hawaits : forgedCall.Awaits transparent demoClient demoSession demoSession Uuid.nil
      forgedEnvelope := by
    refine ⟨(((forgedCall.exchange transparent demoClient).send demoSession).1.toOption).getD
      ⟨⟨0, []⟩, Uuid.nil⟩, _, ?_, ?_, rfl, ?_⟩
    · decide +kernel
    · decide +kernel
    · decide +kernel
  have huses : demoSession.Uses transparent demoClient forgedCall forgedEnvelope :=
    uses_of_ok (.response { serverKeyVersion := 7 }) (by decide +kernel)
  have hbound := hauthentic.1 demoSession Uuid.nil forgedEnvelope hawaits huses
  exact absurd hbound.sender (by decide)

end Demo

end ClientSession

end Secupload.Client
