import Secupload.Server.Auth
import Secupload.Server.Identity
import Secupload.Shared.Framing
import Secupload.Shared.Sealing

namespace Secupload.Server

open Library Shared

variable (P : Primitives)

def decryptTo (env : Envelope) (x25519Private : Bytes) : Except Exn Bytes :=
  openPayload P env x25519Private

def decryptChunkTo (env : Envelope) (x25519Private payload : Bytes) :
    Except Exn (Uuid × ℤ × Bytes) := do
  let p ← unwrapEncryptedChunk payload
  let aad ← env.aad p.chunkIndex
  let plaintext ← openChunk P x25519Private p.objectUuid.bytes p.chunkIndex aad p.ephemeralPublic
    p.ciphertext
  return (p.objectUuid, p.chunkIndex, plaintext)

namespace ServerState

variable (s : ServerState)

-- the inner plaintext of a control envelope, in `_handle_authenticated`
def openControl (env : Envelope) : Except Exn Bytes := do
  let keys ← s.activeKeys
  match decryptTo P env keys.x25519 with
  | .error exc => throw (.tunnel2Error s!"control payload decrypt failed: {exc.str}")
  | .ok inner => return inner

-- the plaintext of a REQUEST envelope, in `_dispatch`
def openRequest (env : Envelope) : Except Exn Bytes := do
  let keys ← s.activeKeys
  decryptTo P env keys.x25519

-- the chunk of an OBJ_CHUNK envelope, in `_handle_obj_chunk`
def openObjChunk (env : Envelope) : Except Exn (Uuid × ℤ × Bytes) := do
  let keys ← s.activeKeys
  decryptChunkTo P env keys.x25519 env.payload

end ServerState

structure Draw where
  authNow : ℤ
  now : ℤ
  time : ℤ
  sentAt : ℤ
  nonce : Bytes
  ephemeral : Bytes

inductive Action
  | registrySync
  | rotateSubmit
  | rotateCheckpoint
  | rotateRollback
  | rotateRevoke
  deriving DecidableEq

namespace Action

def ctype : Action → ControlType
  | registrySync => .registrySyncReq
  | rotateSubmit => .rotateSubmit
  | rotateCheckpoint => .rotateCheckpoint
  | rotateRollback => .rotateRollback
  | rotateRevoke => .rotateRevoke

def respType : Action → ControlType
  | registrySync => .registrySyncResp
  | rotateSubmit => .rotateSubmitResp
  | rotateCheckpoint => .rotateCheckpointResp
  | rotateRollback => .rotateRollbackResp
  | rotateRevoke => .rotateRevokeResp

def all : List Action := [registrySync, rotateSubmit, rotateCheckpoint, rotateRollback, rotateRevoke]

-- the dispatch of `_handle_control`, ENROLL apart
def ofCode? (code : ℤ) : Option Action := all.find? fun a => decide (a.ctype.code = code)

@[simp] lemma ofCode?_code (a : Action) : ofCode? a.ctype.code = some a := by
  cases a <;> rfl

lemma ctype_ne_enroll (a : Action) : a.ctype.code ≠ ControlType.enroll.code := by
  cases a <;> decide

end Action

namespace Database

variable (params : RotationParams) (db : Database)

def publicEntries (kind : IdentityKind) : List CredentialPublic :=
  let uuids := (if kind = .client then db.clients.rows else db.proxies.rows).map (·.uuid)
  (db.credentials.rows.filter fun c => decide (c.identityUuid ∈ uuids)).insertionSort
    fun c d => c.identityUuid.bytes < d.identityUuid.bytes ∨
      c.identityUuid = d.identityUuid ∧ c.version ≤ d.version

def syncKind : Bytes → Except Exn IdentityKind
  | [] => .ok .client
  | code :: _ => kindFromCode code.toNat

def handleRegistrySync (inner : Bytes) : Except Exn Bytes := do
  let kind ← syncKind inner
  encodeRegistrySnapshot ((db.publicEntries kind).map registryEntryFromPublic)

-- `inner[:-64]` and `inner[-64:]`
def payloadPart (inner : Bytes) : Bytes := inner.take (inner.length - ed25519SignatureSize)

def signaturePart (inner : Bytes) : Bytes := inner.drop (inner.length - ed25519SignatureSize)

def handleRotateSubmit (sender : Uuid) (inner : Bytes) (now : ℤ) : Outcome Database Bytes :=
  match parseSuccessorPayload (payloadPart inner) with
  | .error exc => (.error exc, db)
  | .ok p =>
    if p.identityUuid ≠ sender then
      (.error (.registryError "TOKEN_MISMATCH" "successor payload identity mismatch"), db)
    else
      (db.submitSuccessor P params sender p.newVersion p.newEd25519Public p.newX25519Public
        (signaturePart inner) p.transitionMetadata now).bind fun _ db =>
          (encodeControl 0 (utf8 "ok"), db)

def handleRotateCheckpoint (identity : Uuid) (now : ℤ) : Outcome Database Bytes :=
  (db.checkpoint P params identity now).bind fun _ db => (encodeControl 0 (utf8 "ok"), db)

def handleRotateRollback (identity : Uuid) (now : ℤ) : Outcome Database Bytes :=
  (db.rollback P params identity now).bind fun _ db => (encodeControl 0 (utf8 "ok"), db)

def handleRotateRevoke (identity : Uuid) (inner : Bytes) (now : ℤ) : Outcome Database Bytes :=
  match Decoder.parse inner Decoder.u32 with
  | .error exc => (.error exc, db)
  | .ok version =>
    (db.revoke P params identity version now).bind fun _ db => (encodeControl 0 (utf8 "ok"), db)

def handleAction (action : Action) (sender : Uuid) (inner : Bytes) (now : ℤ) :
    Outcome Database Bytes :=
  match action with
  | .registrySync => (db.handleRegistrySync inner, db)
  | .rotateSubmit => db.handleRotateSubmit P params sender inner now
  | .rotateCheckpoint => db.handleRotateCheckpoint P params sender now
  | .rotateRollback => db.handleRotateRollback P params sender now
  | .rotateRevoke => db.handleRotateRevoke P params sender inner now

end Database

structure Tunnel2Server where
  state : ServerState
  auth : Authenticator

-- how `handler(env, cred, inner)` ended: with its response, or with an exception that
-- `_handle_authenticated` turns into one
inductive Handled
  | done (response : Bytes)
  | refused (response : Bytes)
  deriving DecidableEq

inductive Performed
  | enrolled (response : Bytes)
  | action (action : Action) (env : Envelope) (handled : Handled)
  deriving DecidableEq

namespace Tunnel2Server

section Methods

variable (cfg : ServerConfig) (srv : Tunnel2Server) (d : Draw)

def withDb (db : Database) : Tunnel2Server := { srv with state := { srv.state with db } }

def handled (response : Except Exn Bytes) : Except Exn Handled :=
  match response with
  | .ok inner => .ok (.done inner)
  | .error (.registryError _ message) | .error (.rotationError _ message) =>
    .refused <$> encodeControl 1 (utf8 message)
  | .error exc => .error exc

def receive (body : Bytes) : Outcome Tunnel2Server (Envelope × Bytes) :=
  match parseEnvelope body with
  | .error exc => (.error (.tunnel2Error s!"malformed control envelope: {exc.str}"), srv)
  | .ok env =>
    match srv.auth.authenticate P cfg.params srv.state.db env d.authNow with
    | (.error exc, auth) => (.error exc, { srv with auth })
    | (.ok _, auth) => ((srv.state.openControl P env).map fun inner => (env, inner), { srv with auth })

def handleAuthenticated (action : Action) (body : Bytes) : Outcome Tunnel2Server Performed :=
  (srv.receive P cfg d body).bind fun (env, inner) srv =>
    let (response, db) := srv.state.db.handleAction P cfg.params action env.senderUuid inner d.now
    (.action action env <$> handled response, srv.withDb db)

def tokenIdentity (token : String) (kind : IdentityKind) : Uuid :=
  tokenUuid P (if kind = .proxy then "proxy" else "client") token

def keyInfoResponse : Except Exn Bytes := do
  let cred ← srv.state.credential
  let keyInfo ← encodeServerKeyInfo
    { version := cred.version, ed25519Public := cred.ed25519Public
      x25519Public := cred.x25519Public, prevVersion := 0, successorSignature := [] }
  encodeEnrollResponse
    { status := RespStatus.ok.code, message := "enrolled", serverKeyInfo := keyInfo }

def handleEnroll (body : Bytes) : Outcome Tunnel2Server Performed :=
  let parsed : Except Exn (EnrollmentBody × IdentityKind) := do
    let b ← parseEnrollmentBody body
    return (b, ← kindFromCode b.identityKind)
  match parsed with
  | .error exc => (.error exc, srv)
  | .ok (b, kind) =>
    match srv.state.db.enroll P cfg.params (tokenIdentity P b.token kind) kind b.token b.version
        b.ed25519Public b.x25519Public (some d.now) d.time with
    | (.error (.registryError _ message), db) =>
      (.enrolled <$> encodeEnrollResponse
        { status := RespStatus.error.code, message, serverKeyInfo := [] }, srv.withDb db)
    | (.error exc, db) => (.error exc, srv.withDb db)
    | (.ok _, db) => (.enrolled <$> srv.keyInfoResponse, srv.withDb db)

-- `_handle_control` up to the reply
def perform (payload : Bytes) : Outcome Tunnel2Server Performed :=
  match parseControl payload with
  | .error exc => (.error exc, srv)
  | .ok msg =>
    if msg.ctype = ControlType.enroll.code then srv.handleEnroll P cfg d msg.body
    else
      match Action.ofCode? msg.ctype with
      | none => (.error (.tunnel2Error s!"unsupported control type {msg.ctype}"), srv)
      | some action => srv.handleAuthenticated P cfg d action msg.body

def buildOutgoing (reqEnv : Envelope) (serverVersion : ℤ) (inner clientX25519Public : Bytes) :
    Except Exn Envelope := do
  let unsealed : Envelope :=
    { msgType := MsgType.request.code, senderUuid := cfg.serverUuid
      recipientUuid := reqEnv.senderUuid, requestId := reqEnv.requestId
      senderCredentialVersion := serverVersion, timestamp := d.sentAt, nonce := d.nonce
      payload := [] }
  let aad ← unsealed.aad 0
  let (ephemeralPublic, ciphertext) ← sealMessage P d.ephemeral clientX25519Public d.nonce aad inner
  let payload ← wrapEncrypted
    { recipientVersion := reqEnv.senderCredentialVersion, ephemeralPublic, nonce := d.nonce
      ciphertext }
  let keys ← srv.state.activeKeys
  { unsealed with payload }.sign P keys.ed25519

def sendControlResponse (action : Action) (reqEnv : Envelope) (inner : Bytes) : Except Exn Bytes := do
  let serverCred ← srv.state.credential
  match srv.state.db.getCredential reqEnv.senderUuid reqEnv.senderCredentialVersion with
  | none => throw (.tunnel2Error "unknown sender credential for control response")
  | some clientCred =>
    let envelope ← srv.buildOutgoing P cfg d reqEnv serverCred.version inner clientCred.x25519Public
    encodeControl action.respType.code (← envelope.encode)

def reply : Performed → Except Exn Bytes
  | .enrolled response => encodeControl ControlType.enrollResp.code response
  | .action action env (.done inner) | .action action env (.refused inner) =>
    srv.sendControlResponse P cfg d action env inner

def handleControl (payload : Bytes) : Outcome Tunnel2Server Frame :=
  (srv.perform P cfg d payload).bind fun performed srv =>
    (srv.reply P cfg d performed >>= sendFrame channelControl, srv)

end Methods

def replyHeader (cfg : ServerConfig) (d : Draw) (reqEnv : Envelope) (msgType : MsgType)
    (version : ℤ) : Envelope where
  msgType := msgType.code
  senderUuid := cfg.serverUuid
  recipientUuid := reqEnv.senderUuid
  requestId := reqEnv.requestId
  senderCredentialVersion := version
  timestamp := d.sentAt
  nonce := d.nonce
  payload := []

lemma buildOutgoing_eq {P : Primitives} {cfg : ServerConfig} {srv : Tunnel2Server} {d : Draw}
    {keys : PrivateKeys} (hkeys : srv.state.activeKeys = .ok keys)
    (reqEnv : Envelope) (serverVersion : ℤ) (inner clientX25519Public : Bytes) :
    srv.buildOutgoing P cfg d reqEnv serverVersion inner clientX25519Public =
      sealEnvelope P (replyHeader cfg d reqEnv .request serverVersion) d.ephemeral clientX25519Public
        reqEnv.senderCredentialVersion inner keys.ed25519 := by
  rw [buildOutgoing]
  simp only [hkeys, except_ok_bind]
  rfl

end Tunnel2Server

end Secupload.Server
