import Secupload.Client.Identity
import Secupload.Shared.Framing
import Secupload.Shared.Sealing

/-! The client's session. Each call sends one frame and reads one frame back. -/

namespace Secupload.Client

open Library Shared

structure ServerKeyState where
  version : ℤ := 0
  ed25519Public : Bytes := []
  x25519Public : Bytes := []
  deriving DecidableEq

structure ClientSession where
  identity : ClientIdentity
  serverKeys : ServerKeyState
  connected : Bool
  deriving DecidableEq

structure Draw where
  now : ℤ
  identityNow : ℤ
  laterNow : ℤ
  time : ℤ
  requestId : Uuid
  nonce : Bytes
  ephemeral : Bytes
  successor : PrivateKeys

structure Sent where
  frame : Frame
  requestId : Uuid
  deriving DecidableEq

inductive Answer
  | response (msg : ResponseMessage)
  | chunk (data : Bytes)
  | entries (entries : List RegistryEntry)
  | promoted (done : Bool)
  | done
  deriving DecidableEq

-- the frame that a call sends, the envelope in the frame it reads, and what it makes of it
structure Exchange where
  send : ClientSession → Outcome ClientSession Sent
  envelope : Frame → Except Exn Envelope
  use : ClientSession → Envelope → Outcome ClientSession Answer

def Exchange.receive (x : Exchange) (s : ClientSession) (reply : Frame) :
    Outcome ClientSession Answer :=
  match x.envelope reply with
  | .error exc => (.error exc, s)
  | .ok env => x.use s env

-- without a reply, `recv_frame` raises FrameError
def Exchange.perform (x : Exchange) (s : ClientSession) (reply : Option Frame) :
    Outcome ClientSession Answer :=
  (x.send s).bind fun _ s =>
    match reply with
    | none => (.error (.frameError "connection closed by peer"), s)
    | some frame => x.receive s frame

def relayEnvelope (reply : Frame) : Except Exn Envelope :=
  if reply.channel ≠ channelRelay then .error (.clientError "BAD_CHANNEL" "expected relay frame")
  else parseEnvelope reply.payload

def controlEnvelope (expected : ControlType) (reply : Frame) : Except Exn Envelope :=
  if reply.channel ≠ channelControl then
    .error (.clientError "BAD_CHANNEL" "expected control frame")
  else do
    let msg ← parseControl reply.payload
    if msg.ctype ≠ expected.code then
      throw (.clientError "BAD_PROTOCOL" "unexpected control response")
    parseEnvelope msg.body

def parseStatusInner (inner : Bytes) : Except Exn (ℤ × Bytes) :=
  Decoder.parse inner do
    let status ← Decoder.u8
    let message ← Decoder.bytes
    return (status, message)

namespace ClientSession

section Methods

variable (P : Primitives) (cfg : ClientConfig) (d : Draw) (s : ClientSession)

def withIdentity (identity : ClientIdentity) : ClientSession := { s with identity }

def sockRequired : Except Exn Unit :=
  if s.connected then .ok () else .error (.clientError "NOT_CONNECTED" "call connect() first")

def unsigned (msgType : MsgType) (timestamp : ℤ) : Except Exn Envelope := do
  let cred ← s.identity.current
  return { msgType := msgType.code, senderUuid := s.identity.identityUuid P cfg
           recipientUuid := cfg.serverUuid, requestId := d.requestId
           senderCredentialVersion := cred.version, timestamp, nonce := d.nonce, payload := [] }

def signedEnvelope (msgType : MsgType) (serverVersion : ℤ) (inner : Bytes) : Except Exn Envelope := do
  let env ← s.unsigned P cfg d msgType d.now
  let aad ← env.aad 0
  let (ephemeralPublic, ciphertext) ←
    sealMessage P d.ephemeral s.serverKeys.x25519Public env.nonce aad inner
  let payload ← wrapEncrypted
    { recipientVersion := serverVersion, ephemeralPublic, nonce := env.nonce, ciphertext }
  let keys ← s.identity.currentKeys
  { env with payload }.sign P keys.ed25519

-- the envelope of `send_chunk`, signed again once its payload is in place
def chunkEnvelope (objectUuid : Uuid) (chunkIndex : ℤ) (data : Bytes) : Except Exn Envelope := do
  let env ← s.unsigned P cfg d .objChunk d.time
  let keys ← s.identity.currentKeys
  let _ ← env.sign P keys.ed25519
  let aad ← env.aad chunkIndex
  let (ephemeralPublic, ciphertext) ←
    sealChunk P d.ephemeral s.serverKeys.x25519Public objectUuid.bytes chunkIndex aad data
  let payload ← wrapEncryptedChunk
    { recipientVersion := s.serverKeys.version, objectUuid, chunkIndex, ephemeralPublic, ciphertext }
  { env with payload }.sign P keys.ed25519

def sendRelay (env : Envelope) : Except Exn Sent := do
  s.sockRequired
  let frame ← sendFrame channelRelay (← env.encode)
  return ⟨frame, env.requestId⟩

def sendControl (ctype : ControlType) (env : Envelope) : Except Exn Sent := do
  let body ← env.encode
  s.sockRequired
  let frame ← sendFrame channelControl (← encodeControl ctype.code body)
  return ⟨frame, env.requestId⟩

def decryptResponse (env : Envelope) : Except Exn Bytes := do
  let p ← unwrapEncrypted env.payload
  let aad ← env.aad 0
  let keys ← s.identity.currentKeys
  openMessage P keys.x25519 p.ephemeralPublic p.nonce aad p.ciphertext

def decryptControlResponse (env : Envelope) : Except Exn Bytes := s.decryptResponse P env

def decryptRelayResponse (env : Envelope) : Except Exn Bytes := s.decryptResponse P env

def adoptPiggyback (response : ResponseMessage) : ClientSession :=
  if response.serverKeyVersion ≠ 0 then
    { s with serverKeys := ⟨response.serverKeyVersion, response.serverEd25519Public,
                            response.serverX25519Public⟩ }
  else s

-- `_recv_relay_response` once the envelope is parsed
def recvRelayResponse (env : Envelope) : Outcome ClientSession Answer :=
  let response : Except Exn ResponseMessage := do
    parseResponseMessage (← s.decryptRelayResponse P env)
  match response with
  | .error exc => (.error exc, s)
  | .ok response => (.ok (.response response), s.adoptPiggyback response)

def controlStatus (env : Envelope) : Except Exn (ℤ × Bytes) := do
  parseStatusInner (← s.decryptControlResponse P env)

def request (msg : RequestMessage) : Exchange where
  send s :=
    let sent : Except Exn Sent := do
      let inner ← encodeRequestMessage msg
      s.sendRelay (← s.signedEnvelope P cfg d .request s.serverKeys.version inner)
    (sent, s)
  envelope := relayEnvelope
  use s env := s.recvRelayResponse P env

def sendChunk (objectUuid : Uuid) (chunkIndex : ℤ) (data : Bytes) : Exchange where
  send s := (s.chunkEnvelope P cfg d objectUuid chunkIndex data >>= s.sendRelay, s)
  envelope := relayEnvelope
  use s env := s.recvRelayResponse P env

def requestedChunk (objectUuid : Uuid) (chunkIndex : ℤ) (env : Envelope) : Except Exn EncryptedChunk := do
  let p ← unwrapEncryptedChunk env.payload
  if p.objectUuid ≠ objectUuid ∨ p.chunkIndex ≠ chunkIndex then
    .error (.clientError "BAD_CHUNK" "chunk identity mismatch")
  else .ok p

def openChunkResponse (objectUuid : Uuid) (chunkIndex : ℤ) (env : Envelope) : Except Exn Bytes :=
  if env.msgType ≠ MsgType.objChunk.code then do
    let response ← parseResponseMessage (← s.decryptRelayResponse P env)
    throw (.clientError "CHUNK_READ_REJECTED" response.message)
  else do
    let p ← requestedChunk objectUuid chunkIndex env
    let aad ← env.aad chunkIndex
    let keys ← s.identity.currentKeys
    openChunk P keys.x25519 objectUuid.bytes chunkIndex aad p.ephemeralPublic p.ciphertext

def requestChunk (objectUuid : Uuid) (chunkIndex : ℤ) : Exchange where
  send := (request P cfg d
    { op := Op.readChunk.code, objectUuid := some objectUuid, fileSize := chunkIndex }).send
  envelope := relayEnvelope
  use s env := (.chunk <$> s.openChunkResponse P objectUuid chunkIndex env, s)

def sendSealed (ctype : ControlType) (inner : Bytes) : Except Exn Sent := do
  s.sendControl ctype (← s.signedEnvelope P cfg d .control s.serverKeys.version inner)

def syncRegistry (kind : IdentityKind) : Exchange where
  send s := (s.sendSealed P cfg d .registrySyncReq [UInt8.ofNat (kindToCode kind).toNat], s)
  envelope := controlEnvelope .registrySyncResp
  use s env :=
    let entries : Except Exn (List RegistryEntry) := do
      parseRegistrySnapshot (← s.decryptControlResponse P env)
    (.entries <$> entries, s)

def rotate : Exchange where
  send s :=
    match s.identity.generateSuccessor P d.successor d.identityNow with
    | (.error exc, identity) => (.error exc, s.withIdentity identity)
    | (.ok (_, signature, payload), identity) =>
      ((s.withIdentity identity).sendSealed P cfg d .rotateSubmit (payload ++ signature),
        s.withIdentity identity)
  envelope := controlEnvelope .rotateSubmitResp
  use s env :=
    match s.controlStatus P env with
    | .error exc => (.error exc, s)
    | .ok (status, message) =>
      if status ≠ 0 then
        match s.identity.rollback d.laterNow with
        | (.error exc, identity) => (.error exc, s.withIdentity identity)
        | (.ok (), identity) => (.error (.rotateRejected message), s.withIdentity identity)
      else
        let (result, identity) := s.identity.checkpoint d.laterNow
        ((fun _ => .done) <$> result, s.withIdentity identity)

def checkpointRotation : Exchange where
  send s := (s.sendSealed P cfg d .rotateCheckpoint [], s)
  envelope := controlEnvelope .rotateCheckpointResp
  use s env :=
    match s.controlStatus P env with
    | .error exc => (.error exc, s)
    | .ok (status, _) =>
      if status ≠ 0 then (.ok (.promoted false), s)
      else
        let (result, identity) := s.identity.checkpoint d.laterNow
        ((fun _ => .promoted true) <$> result, s.withIdentity identity)

def rollbackRotation : Exchange where
  send s := (s.sendSealed P cfg d .rotateRollback [], s)
  envelope := controlEnvelope .rotateRollbackResp
  use s env :=
    match s.controlStatus P env with
    | .error exc => (.error exc, s)
    | .ok (status, message) =>
      if status ≠ 0 then (.error (.rotateRejected message), s)
      else
        let (result, identity) := s.identity.rollback d.laterNow
        ((fun _ => .done) <$> result, s.withIdentity identity)

end Methods

section Sealing

variable {P : Primitives} {cfg : ClientConfig} {d : Draw} {s : ClientSession}

def header (P : Primitives) (cfg : ClientConfig) (d : Draw) (s : ClientSession) (msgType : MsgType)
    (version timestamp : ℤ) : Envelope where
  msgType := msgType.code
  senderUuid := s.identity.identityUuid P cfg
  recipientUuid := cfg.serverUuid
  requestId := d.requestId
  senderCredentialVersion := version
  timestamp
  nonce := d.nonce
  payload := []

lemma unsigned_eq {cred : CredentialPublic} (hcred : s.identity.current = .ok cred)
    (msgType : MsgType) (timestamp : ℤ) :
    s.unsigned P cfg d msgType timestamp = .ok (s.header P cfg d msgType cred.version timestamp) := by
  rw [unsigned, hcred]
  rfl

lemma signedEnvelope_eq {cred : CredentialPublic} {keys : PrivateKeys}
    (hcred : s.identity.current = .ok cred) (hkeys : s.identity.currentKeys = .ok keys)
    (msgType : MsgType) (serverVersion : ℤ) (inner : Bytes) :
    s.signedEnvelope P cfg d msgType serverVersion inner =
      sealEnvelope P (s.header P cfg d msgType cred.version d.now) d.ephemeral
        s.serverKeys.x25519Public serverVersion inner keys.ed25519 := by
  rw [signedEnvelope, unsigned_eq hcred]
  simp only [hkeys, except_ok_bind]
  rfl

lemma chunkEnvelope_eq {cred : CredentialPublic} {keys : PrivateKeys} {signed : Envelope}
    (hcred : s.identity.current = .ok cred) (hkeys : s.identity.currentKeys = .ok keys)
    (hsigned : (s.header P cfg d .objChunk cred.version d.time).sign P keys.ed25519 = .ok signed)
    (objectUuid : Uuid) (chunkIndex : ℤ) (data : Bytes) :
    s.chunkEnvelope P cfg d objectUuid chunkIndex data =
      sealChunkEnvelope P (s.header P cfg d .objChunk cred.version d.time) d.ephemeral
        s.serverKeys.x25519Public s.serverKeys.version objectUuid chunkIndex data keys.ed25519 := by
  rw [chunkEnvelope, unsigned_eq hcred]
  simp only [hkeys, hsigned, except_ok_bind]
  rfl

end Sealing

end ClientSession

end Secupload.Client
