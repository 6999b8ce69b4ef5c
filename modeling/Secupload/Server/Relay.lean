import Secupload.Server.Objects
import Secupload.Server.Tunnel2

namespace Secupload.Server

open Library Shared

def chunkSize : ℕ := 64 * 1024

structure Permission where
  clientUuid : Uuid
  objectUuid : Uuid
  operation : String
  policy : String := "ALLOW"
  deriving DecidableEq

def Permission.key (p : Permission) : Uuid × Uuid × String := (p.clientUuid, p.objectUuid, p.operation)

abbrev Permissions := Table Permission.key

def checkPermission (permissions : Permissions) (clientUuid objectUuid : Uuid) (operation : String) :
    Except Exn Unit :=
  let refused : Except Exn Unit := .error (.authorizationError "FORBIDDEN"
    s!"{operation} on {objectUuid.str} not permitted")
  match permissions.get? (clientUuid, objectUuid, operation) with
  | none => refused
  | some row => if row.policy ≠ "ALLOW" then refused else .ok ()

def Allowed (permissions : Permissions) (clientUuid objectUuid : Uuid) (operation : String) : Prop :=
  ∃ row, permissions.get? (clientUuid, objectUuid, operation) = some row ∧ row.policy = "ALLOW"

lemma checkPermission_eq_ok {permissions : Permissions} {clientUuid objectUuid : Uuid}
    {operation : String} : checkPermission permissions clientUuid objectUuid operation = .ok () ↔
      Allowed permissions clientUuid objectUuid operation := by
  simp only [checkPermission, Allowed]
  cases permissions.get? (clientUuid, objectUuid, operation) with
  | none => simp
  | some row => by_cases h : row.policy = "ALLOW" <;> simp [h]

inductive Response
  | message (inner : Bytes)
  | chunk (objectUuid : Uuid) (chunkIndex : ℤ) (data : Bytes)
  deriving DecidableEq

def errorResponse (message : String) : ResponseMessage where
  status := RespStatus.error.code
  message

@[simp] lemma errorResponse_status (message : String) :
    (errorResponse message).status = RespStatus.error.code := rfl

def infoResponse (info : ObjectInfo) : ResponseMessage where
  status := RespStatus.ok.code
  objectUuid := some info.objectUuid
  fileType := info.fileType
  fileSize := info.fileSize
  contentIntegrity := info.contentIntegrity

@[simp] lemma infoResponse_status (info : ObjectInfo) :
    (infoResponse info).status = RespStatus.ok.code := rfl

lemma infoResponse_writes (info : ObjectInfo) (hsize : 0 ≤ info.fileSize ∧ info.fileSize < 2 ^ 64)
    (htype : (utf8 info.fileType).length < 2 ^ 32)
    (hintegrity : (utf8 info.contentIntegrity).length < 2 ^ 32) :
    Encoder.Writes (encodeResponseMessage (infoResponse info))
      (58 + (utf8 info.fileType).length + (utf8 info.contentIntegrity).length) := by
  have hempty : (utf8 "").length = 0 := by decide
  refine (encodeResponseMessage_writes (some info.objectUuid) (by decide) (by decide) htype hsize
    hintegrity).of_eq ?_
  rw [hempty]

-- `_Connection`, with what it shares with the other connections
structure Connection extends Tunnel2Server where
  objects : ObjectStore
  permissions : Permissions

namespace Connection

section Methods

variable (P : Primitives) (cfg : ServerConfig) (conn : Connection) (d : Draw)

def withAuth (auth : Authenticator) : Connection := { conn with auth }

def withObjects (objects : ObjectStore) : Connection := { conn with objects }

-- the three steps on the store that `_handle_obj_chunk` takes
def storeChunk (objectUuid : Uuid) (chunkIndex : ℤ) (data : Bytes) : Outcome ObjectStore ObjectInfo :=
  (conn.objects.writeChunk objectUuid chunkIndex data).bind fun _ st =>
    let sized : Except Exn (ObjectInfo × ℤ) := do
      let info ← st.info objectUuid
      let content ← st.readFile objectUuid
      return (info, content.length)
    match sized with
    | .error exc => (.error exc, st)
    | .ok (info, size) =>
      if info.fileSize ≤ size then
        (st.finalize P objectUuid).bind fun _ st => (.ok info, st)
      else (.ok info, st)

def acceptedChunk (env : Envelope) : Except Exn (Uuid × ℤ × Bytes) := do
  let (objectUuid, chunkIndex, data) ← conn.state.openObjChunk P env
  checkPermission conn.permissions env.senderUuid objectUuid "WRITE"
  return (objectUuid, chunkIndex, data)

def handleObjChunk (env : Envelope) : Outcome Connection Response :=
  match conn.acceptedChunk P env with
  | .error exc => (.error exc, conn)
  | .ok (objectUuid, chunkIndex, data) =>
    let (stored, objects) := conn.storeChunk P objectUuid chunkIndex data
    (do return .message (← encodeResponseMessage (infoResponse (← stored))), conn.withObjects objects)

def requestedObject (operation : String) (objectUuid : Option Uuid) (env : Envelope)
    (permission : String) : Except Exn Uuid :=
  match objectUuid with
  | none => .error (.objectStoreError "BAD_REQUEST" (operation ++ " requires object_uuid"))
  | some objectUuid => do
    checkPermission conn.permissions env.senderUuid objectUuid permission
    return objectUuid

def handleWrite (env : Envelope) (request : RequestMessage) : Outcome Connection Response :=
  match conn.requestedObject "WRITE" request.objectUuid env "WRITE" with
  | .error exc => (.error exc, conn)
  | .ok objectUuid =>
    let (created, objects) :=
      conn.objects.create objectUuid request.fileType request.fileSize request.metadata
    (do return .message (← encodeResponseMessage (infoResponse (← created))), conn.withObjects objects)

def handleRead (env : Envelope) (request : RequestMessage) : Except Exn Response := do
  let objectUuid ← conn.requestedObject "READ" request.objectUuid env "READ"
  let info ← conn.objects.info objectUuid
  return .message (← encodeResponseMessage (infoResponse info))

def handleReadChunk (env : Envelope) (request : RequestMessage) : Except Exn Response := do
  let objectUuid ← conn.requestedObject "READ_CHUNK" request.objectUuid env "READ"
  let data ← conn.objects.readChunk objectUuid cfg.maxOffset request.fileSize chunkSize
  if data = [] then throw (.objectStoreError "NOT_FOUND" "chunk index out of range")
  else return .chunk objectUuid request.fileSize data

def answer (env : Envelope) (request : RequestMessage) : Outcome Connection Response :=
  if request.op = Op.write.code then conn.handleWrite env request
  else if request.op = Op.read.code then (conn.handleRead env request, conn)
  else if request.op = Op.readChunk.code then (conn.handleReadChunk cfg env request, conn)
  else (.message <$> encodeResponseMessage (errorResponse "unknown operation"), conn)

def dispatch (env : Envelope) : Outcome Connection Response :=
  let parsed : Except Exn RequestMessage := do parseRequestMessage (← conn.state.openRequest P env)
  match parsed with
  | .error exc => (.error exc, conn)
  | .ok request => conn.answer cfg env request

-- `_handle_relay` up to what it catches
def attempt (env : Envelope) : Outcome Connection Response :=
  match conn.auth.authenticate P cfg.params conn.state.db env d.authNow with
  | (.error exc, auth) => (.error exc, conn.withAuth auth)
  | (.ok _, auth) =>
    if env.msgType = MsgType.objChunk.code then (conn.withAuth auth).handleObjChunk P env
    else (conn.withAuth auth).dispatch P cfg env

def caught (result : Except Exn Response) : Except Exn Response :=
  match result with
  | .error (.authError _ message) | .error (.authorizationError _ message)
  | .error (.objectStoreError _ message) | .error (.registryError _ message) =>
    .message <$> encodeResponseMessage (errorResponse message)
  | result => result

def buildChunk (reqEnv : Envelope) (serverVersion : ℤ) (objectUuid : Uuid) (chunkIndex : ℤ)
    (data clientX25519Public : Bytes) : Except Exn Envelope := do
  let unsealed : Envelope :=
    { msgType := MsgType.objChunk.code, senderUuid := cfg.serverUuid
      recipientUuid := reqEnv.senderUuid, requestId := reqEnv.requestId
      senderCredentialVersion := serverVersion, timestamp := d.sentAt, nonce := d.nonce
      payload := [] }
  let aad ← unsealed.aad chunkIndex
  let (ephemeralPublic, ciphertext) ←
    sealChunk P d.ephemeral clientX25519Public objectUuid.bytes chunkIndex aad data
  let payload ← wrapEncryptedChunk
    { recipientVersion := reqEnv.senderCredentialVersion, objectUuid, chunkIndex, ephemeralPublic
      ciphertext }
  let keys ← conn.state.activeKeys
  { unsealed with payload }.sign P keys.ed25519

def relayReply (env : Envelope) (response : Response) : Except Exn Envelope := do
  let serverCred ← conn.state.credential
  match conn.state.db.getCredential env.senderUuid env.senderCredentialVersion with
  | none => throw (.tunnel2Error "unknown sender credential for relay response")
  | some clientCred =>
    match response with
    | .message inner =>
      conn.buildOutgoing P cfg d env serverCred.version inner clientCred.x25519Public
    | .chunk objectUuid chunkIndex data =>
      conn.buildChunk P cfg d env serverCred.version objectUuid chunkIndex data
        clientCred.x25519Public

def handleRelay (payload : Bytes) : Outcome Connection Frame :=
  match parseEnvelope payload with
  | .error exc => (.error (.tunnel2Error s!"malformed relay envelope: {exc.str}"), conn)
  | .ok env =>
    let (result, conn) := conn.attempt P cfg d env
    (do
      let reply ← conn.relayReply P cfg d env (← caught result)
      sendFrame channelRelay (← reply.encode), conn)

-- the loop body of `run`; an exception ends the connection
def handleFrame (frame : Frame) : Outcome Connection Frame :=
  if frame.channel = channelControl then
    let (reply, srv) := conn.toTunnel2Server.handleControl P cfg d frame.payload
    (reply, { conn with toTunnel2Server := srv })
  else if frame.channel = channelRelay then conn.handleRelay P cfg d frame.payload
  else (.error (.tunnel2Error s!"unknown channel {frame.channel}"), conn)

end Methods

lemma withObjects_objects (conn : Connection) (objects : ObjectStore) :
    (conn.withObjects objects).objects = objects := rfl

lemma caught_ok (response : Response) : caught (.ok response) = .ok response := rfl

lemma requestedObject_ok {conn : Connection} {env : Envelope} {o : Uuid} {permission : String}
    (hallowed : Allowed conn.permissions env.senderUuid o permission) (operation : String) :
    conn.requestedObject operation (some o) env permission = .ok o := by
  rw [requestedObject, checkPermission_eq_ok.mpr hallowed]
  rfl

lemma buildChunk_eq {P : Primitives} {cfg : ServerConfig} {conn : Connection} {d : Draw}
    {keys : PrivateKeys} (hkeys : conn.state.activeKeys = .ok keys) (reqEnv : Envelope)
    (serverVersion : ℤ) (objectUuid : Uuid) (chunkIndex : ℤ) (data clientX25519Public : Bytes) :
    conn.buildChunk P cfg d reqEnv serverVersion objectUuid chunkIndex data clientX25519Public =
      sealChunkEnvelope P (Tunnel2Server.replyHeader cfg d reqEnv .objChunk serverVersion) d.ephemeral
        clientX25519Public reqEnv.senderCredentialVersion objectUuid chunkIndex data keys.ed25519 := by
  rw [buildChunk]
  simp only [hkeys, except_ok_bind]
  rfl

structure CanReply (P : Primitives) (state : ServerState) (d : Draw) (env : Envelope)
    (serverCred : CredentialPublic) (serverKeys : PrivateKeys) (priv : Bytes) : Prop where
  nonce : d.nonce.length = nonceSize
  ephemeral : P.x25519Loads d.ephemeral = true
  sentAt : -2 ^ 63 ≤ d.sentAt ∧ d.sentAt < 2 ^ 63
  credential : state.credential = .ok serverCred
  keys : state.activeKeys = .ok serverKeys
  version : 0 ≤ serverCred.version ∧ serverCred.version < 2 ^ 32
  row : ∃ row, state.db.getCredential env.senderUuid env.senderCredentialVersion = some row ∧
    row.x25519Public = P.x25519Public priv
  loads : P.x25519Loads priv = true
  sender : 0 ≤ env.senderCredentialVersion ∧ env.senderCredentialVersion < 2 ^ 32

section Replies

variable {P : Primitives} {conn : Connection} {d : Draw} {env : Envelope} {serverCred : CredentialPublic}
  {serverKeys : PrivateKeys} {priv : Bytes}

lemma CanReply.wellFormed {state : ServerState} (h : CanReply P state d env serverCred serverKeys priv)
    (cfg : ServerConfig) (msgType : MsgType) : (Tunnel2Server.replyHeader cfg d env msgType serverCred.version).WellFormed where
  version := rfl
  msgType := msgType.code_range
  credentialVersion := h.version
  timestamp := h.sentAt
  nonce := h.nonce

lemma CanReply.message (h : CanReply P conn.state d env serverCred serverKeys priv) (hP : Lawful P)
    (cfg : ServerConfig) {inner : Bytes} (hsize : 218 + inner.length ≤ maxFrameSize) :
    ∃ reply data, conn.relayReply P cfg d env (.message inner) = .ok reply ∧
      sealEnvelope P (Tunnel2Server.replyHeader cfg d env .request serverCred.version) d.ephemeral
        (P.x25519Public priv) env.senderCredentialVersion inner serverKeys.ed25519 = .ok reply ∧
      Arrives P (Tunnel2Server.replyHeader cfg d env .request serverCred.version) reply serverKeys.ed25519 data ∧
      data.length ≤ maxFrameSize ∧ openPayload P reply priv = .ok inner := by
  have hlen : inner.length < 2 ^ 31 := by
    rw [maxFrameSize] at hsize
    omega
  obtain ⟨reply, data, hseal, harrives, hdata, hopen⟩ := sealEnvelope_ok hP (h.wellFormed cfg .request)
    h.ephemeral h.loads h.sender hlen serverKeys.ed25519
  refine ⟨reply, data, ?_, hseal, harrives, by omega, hopen⟩
  obtain ⟨row, hrow, hpublic⟩ := h.row
  rw [relayReply, h.credential, except_ok_bind, hrow]
  dsimp only
  rw [Tunnel2Server.buildOutgoing_eq h.keys, hpublic]
  exact hseal

lemma CanReply.chunk (h : CanReply P conn.state d env serverCred serverKeys priv) (hP : Lawful P)
    (cfg : ServerConfig) (objectUuid : Uuid) {chunkIndex : ℤ}
    (hindex : 0 ≤ chunkIndex ∧ chunkIndex < 2 ^ 64) {chunk : Bytes}
    (hsize : 227 + chunk.length ≤ maxFrameSize) :
    ∃ reply data aad p, conn.relayReply P cfg d env (.chunk objectUuid chunkIndex chunk) = .ok reply ∧
      sealChunkEnvelope P (Tunnel2Server.replyHeader cfg d env .objChunk serverCred.version) d.ephemeral
        (P.x25519Public priv) env.senderCredentialVersion objectUuid chunkIndex chunk serverKeys.ed25519 =
          .ok reply ∧
      Arrives P (Tunnel2Server.replyHeader cfg d env .objChunk serverCred.version) reply serverKeys.ed25519
        data ∧
      data.length ≤ maxFrameSize ∧ unwrapEncryptedChunk reply.payload = .ok p ∧ p.objectUuid = objectUuid ∧
      p.chunkIndex = chunkIndex ∧ reply.aad chunkIndex = .ok aad ∧
      openChunk P priv objectUuid.bytes chunkIndex aad p.ephemeralPublic p.ciphertext = .ok chunk := by
  have hlen : chunk.length < 2 ^ 31 := by
    rw [maxFrameSize] at hsize
    omega
  obtain ⟨reply, data, aad, p, hseal, harrives, hdata, hunwrap, hobject, hchunk, haad, hopen⟩ :=
    sealChunkEnvelope_ok hP (h.wellFormed cfg .objChunk) h.ephemeral h.loads h.sender objectUuid hindex
      hlen serverKeys.ed25519
  refine ⟨reply, data, aad, p, ?_, hseal, harrives, by omega, hunwrap, hobject, hchunk, haad, hopen⟩
  obtain ⟨row, hrow, hpublic⟩ := h.row
  rw [relayReply, h.credential, except_ok_bind, hrow]
  dsimp only
  rw [buildChunk_eq h.keys, hpublic]
  exact hseal

end Replies

end Connection

end Secupload.Server
