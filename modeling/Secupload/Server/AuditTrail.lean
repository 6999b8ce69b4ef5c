import Secupload.Server.Audit
import Secupload.Server.OwnRotation
import Secupload.Server.Relay

namespace Secupload.Server

open Library Shared

abbrev AuditLog := List AuditEvent

-- `clock n` is what `time.time()` gives when the `n`-th row is written
def AuditLog.record (clock : ℕ → ℤ) (log : AuditLog) (eventType : EventType) (identityUuid : Option Uuid)
    (credentialVersion : Option ℤ) (source : String := "SERVER") (result : String := "OK") : AuditLog :=
  log ++ [{ identityUuid, credentialVersion, eventType, timestamp := clock log.length, source, result }]

namespace Authenticator

variable (P : Primitives) (params : RotationParams) (clock : ℕ → ℤ) (db : Database)

def auditCredential (env : Envelope) (now : ℤ) (log : AuditLog) : AuditLog :=
  let sender := some env.senderUuid
  let version := some env.senderCredentialVersion
  let denied := log.record clock .authFailure sender version "SERVER" "DENY"
  match db.credentialForAuth params env.senderUuid env.senderCredentialVersion now with
  | .error (.registryError _ _) => denied
  | .error _ => log
  | .ok none => denied
  | .ok (some cred) =>
    if cred.status.authenticating = false then denied
    else
      match env.verify P cred.ed25519Public with
      | .error (.protocolError _) => denied
      | .error _ => log
      -- the kind of the sender is looked up afterwards
      | .ok () => log.record clock .authSuccess sender version

def audit (auth : Authenticator) (env : Envelope) (now : ℤ) (log : AuditLog) : AuditLog :=
  let sender := some env.senderUuid
  let version := some env.senderCredentialVersion
  if timestampOk env.timestamp now = false then
    log.record clock .authFailure sender version "SERVER" "DENY"
  else
    match auth.replay.checkAndAdd env.replayKey with
    | (false, _) => log.record clock .replayRejection sender version "SERVER" "DENY"
    | (true, _) => auditCredential P params clock db env now log

end Authenticator

namespace Database

variable (P : Primitives) (params : RotationParams) (clock : ℕ → ℤ) (db : Database)

-- the credential that authenticated `env` has the version that `env` names
def auditRegistrySync (env : Envelope) (inner : Bytes) (log : AuditLog) : AuditLog :=
  match syncKind inner with
  | .error _ => log
  | .ok _ => log.record clock .registrySync (some env.senderUuid) (some env.senderCredentialVersion)

def auditRotateSubmit (sender : Uuid) (inner : Bytes) (now : ℤ) (log : AuditLog) : AuditLog :=
  match parseSuccessorPayload (payloadPart inner) with
  | .error _ => log
  | .ok p =>
    if p.identityUuid ≠ sender then log
    else
      (AuditedRegistry.submitSuccessor P params clock ⟨db, log⟩ sender p.newVersion p.newEd25519Public
        p.newX25519Public (signaturePart inner) p.transitionMetadata now).2.auditEvents

def auditRotateRevoke (identity : Uuid) (inner : Bytes) (now : ℤ) (log : AuditLog) : AuditLog :=
  match Decoder.parse inner Decoder.u32 with
  | .error _ => log
  | .ok version => (AuditedRegistry.revoke P params clock ⟨db, log⟩ identity version now).2.auditEvents

def auditAction (action : Action) (env : Envelope) (inner : Bytes) (now : ℤ) (log : AuditLog) : AuditLog :=
  match action with
  | .registrySync => auditRegistrySync clock env inner log
  | .rotateSubmit => db.auditRotateSubmit P params clock env.senderUuid inner now log
  | .rotateCheckpoint => (AuditedRegistry.checkpoint P params clock ⟨db, log⟩ env.senderUuid now).2.auditEvents
  | .rotateRollback => (AuditedRegistry.rollback P params clock ⟨db, log⟩ env.senderUuid now).2.auditEvents
  | .rotateRevoke => db.auditRotateRevoke P params clock env.senderUuid inner now log

end Database

namespace Tunnel2Server

variable (P : Primitives) (cfg : ServerConfig) (clock : ℕ → ℤ) (srv : Tunnel2Server) (d : Draw)

def auditAuthenticated (action : Action) (body : Bytes) (log : AuditLog) : AuditLog :=
  match parseEnvelope body with
  | .error _ => log
  | .ok env =>
    let log := srv.auth.audit P cfg.params clock srv.state.db env d.authNow log
    match (srv.receive P cfg d body).1 with
    | .error _ => log
    | .ok (env, inner) => srv.state.db.auditAction P cfg.params clock action env inner d.now log

def auditEnroll (body : Bytes) (log : AuditLog) : AuditLog :=
  let parsed : Except Exn (EnrollmentBody × IdentityKind) := do
    let b ← parseEnrollmentBody body
    return (b, ← kindFromCode b.identityKind)
  match parsed with
  | .error _ => log
  | .ok (b, kind) =>
    (AuditedRegistry.enroll P cfg.params clock ⟨srv.state.db, log⟩ (tokenIdentity P b.token kind) kind b.token
      b.version b.ed25519Public b.x25519Public (some d.now) d.time).2.auditEvents

def auditControl (payload : Bytes) (log : AuditLog) : AuditLog :=
  match parseControl payload with
  | .error _ => log
  | .ok msg =>
    if msg.ctype = ControlType.enroll.code then srv.auditEnroll P cfg clock d msg.body log
    else
      match Action.ofCode? msg.ctype with
      | none => log
      | some action => srv.auditAuthenticated P cfg clock d action msg.body log

end Tunnel2Server

namespace Connection

variable (P : Primitives) (cfg : ServerConfig) (clock : ℕ → ℤ) (conn : Connection) (d : Draw)

def auditObjChunk (env : Envelope) (log : AuditLog) : AuditLog :=
  match conn.acceptedChunk P env with
  | .error _ => log
  | .ok (objectUuid, chunkIndex, data) =>
    match (conn.objects.writeChunk objectUuid chunkIndex data).1 with
    | .error _ => log
    | .ok () =>
      let log := log.record clock .objectAccess (some objectUuid) none
      match (conn.storeChunk P objectUuid chunkIndex data).1 with
      | .error _ => log
      | .ok _ => log.record clock .objectAccess (some env.senderUuid) none

-- once in `create`, for the owner, and once more for the sender
def auditWrite (env : Envelope) (request : RequestMessage) (log : AuditLog) : AuditLog :=
  match conn.requestedObject "WRITE" request.objectUuid env "WRITE" with
  | .error _ => log
  | .ok objectUuid =>
    match (conn.objects.create objectUuid request.fileType request.fileSize request.metadata).1 with
    | .error _ => log
    | .ok _ =>
      let log := log.record clock .objectAccess (some env.senderUuid) none
      log.record clock .objectAccess (some env.senderUuid) none

def auditRead (env : Envelope) (request : RequestMessage) (log : AuditLog) : AuditLog :=
  match conn.requestedObject "READ" request.objectUuid env "READ" with
  | .error _ => log
  | .ok objectUuid =>
    match conn.objects.info objectUuid with
    | .error _ => log
    | .ok _ => log.record clock .objectAccess (some env.senderUuid) none

def auditReadChunk (env : Envelope) (request : RequestMessage) (log : AuditLog) : AuditLog :=
  match conn.handleReadChunk cfg env request with
  | .error _ => log
  | .ok _ => log.record clock .objectAccess (some env.senderUuid) none

def auditAnswer (env : Envelope) (request : RequestMessage) (log : AuditLog) : AuditLog :=
  if request.op = Op.write.code then conn.auditWrite clock env request log
  else if request.op = Op.read.code then conn.auditRead clock env request log
  else if request.op = Op.readChunk.code then conn.auditReadChunk cfg clock env request log
  else log

def auditDispatch (env : Envelope) (log : AuditLog) : AuditLog :=
  let parsed : Except Exn RequestMessage := do parseRequestMessage (← conn.state.openRequest P env)
  match parsed with
  | .error _ => log
  | .ok request => conn.auditAnswer cfg clock env request log

def auditRelay (payload : Bytes) (log : AuditLog) : AuditLog :=
  match parseEnvelope payload with
  | .error _ => log
  | .ok env =>
    let log := conn.auth.audit P cfg.params clock conn.state.db env d.authNow log
    match (conn.auth.authenticate P cfg.params conn.state.db env d.authNow).1 with
    | .error _ => log
    | .ok _ =>
      if env.msgType = MsgType.objChunk.code then conn.auditObjChunk P clock env log
      else conn.auditDispatch P cfg clock env log

def auditFrame (frame : Frame) (log : AuditLog) : AuditLog :=
  if frame.channel = channelControl then conn.auditControl P cfg clock d frame.payload log
  else if frame.channel = channelRelay then conn.auditRelay P cfg clock d frame.payload log
  else log

end Connection

namespace ServerState

variable (P : Primitives) (cfg : ServerConfig) (clock : ℕ → ℤ) (s : ServerState)

def auditLoaded (k : PrivateKeys) (now : ℤ) (log : AuditLog) : AuditLog :=
  if s.identity.loaded then log
  else
    match s.db.loadEngine cfg.params cfg.serverUuid with
    | some _ => log
    | none =>
      match (s.provision P cfg k now).1 with
      | .error _ => log
      | .ok () => log.record clock .enrollment (some cfg.serverUuid) (some 1)

def auditPromote (now : ℤ) (log : AuditLog) : AuditLog :=
  match s.identity.engine.validating with
  | none => log
  | some validating =>
    if now < validating.validationDeadline.getD 0 then log
    else
      match (s.identity.toHolder.checkpoint now).1 with
      | .error _ => log
      | .ok _ => log.record clock .credentialPromotion (some cfg.serverUuid) (some validating.version)

def auditRotate (k : PrivateKeys) (now : ℤ) (log : AuditLog) : AuditLog :=
  match s.identity.engine.active with
  | none => log
  | some active =>
    let rotateAt := intOr active.expirationTime now - 2 * cfg.params.fallbackPeriod
    if s.identity.engine.validating = none ∧ rotateAt ≤ now then
      match s.submitSuccessor P cfg active k now with
      | (.error _, _) => log
      | (.ok (), s) => s.auditPromote cfg clock now
          (log.record clock .credentialGeneration (some cfg.serverUuid) (some (active.version + 1)))
    else s.auditPromote cfg clock now log

def auditTick (fresh successor : PrivateKeys) (now : ℤ) (log : AuditLog) : AuditLog :=
  let log' := s.auditLoaded P cfg clock fresh now log
  match s.ensureLoaded P cfg fresh now with
  | (.error _, _) => log'
  | (.ok (), s) => s.auditRotate P cfg clock successor now log'

end ServerState

end Secupload.Server
