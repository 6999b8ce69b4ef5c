import Secupload.Shared.Envelope

namespace Secupload.Shared

open Library

inductive Op
  | read
  | write
  | readChunk
  deriving DecidableEq

def Op.code : Op → ℤ
  | read => 1
  | write => 2
  | readChunk => 3

inductive ControlType
  | enroll
  | enrollResp
  | recover
  | rotateSubmit
  | rotateSubmitResp
  | rotateCheckpoint
  | rotateCheckpointResp
  | rotateRollback
  | rotateRollbackResp
  | rotateRevoke
  | rotateRevokeResp
  | registrySyncReq
  | registrySyncResp
  | registryUpdate
  deriving DecidableEq

def ControlType.code : ControlType → ℤ
  | enroll => 1
  | enrollResp => 2
  | recover => 3
  | rotateSubmit => 4
  | rotateSubmitResp => 5
  | rotateCheckpoint => 6
  | rotateCheckpointResp => 7
  | rotateRollback => 8
  | rotateRollbackResp => 9
  | rotateRevoke => 10
  | rotateRevokeResp => 11
  | registrySyncReq => 12
  | registrySyncResp => 13
  | registryUpdate => 14

inductive RespStatus
  | ok
  | error
  | unauthorized
  | forbidden
  | notFound
  | invalid
  | replay
  | integrity
  deriving DecidableEq

def RespStatus.code : RespStatus → ℤ
  | ok => 0
  | error => 1
  | unauthorized => 2
  | forbidden => 3
  | notFound => 4
  | invalid => 5
  | replay => 6
  | integrity => 7

def Decoder.parse {α : Type} (data : Bytes) (dec : Decoder α) : Except Exn α := do
  let (a, _) ← dec.run data
  return a

def Decoder.parseAll {α : Type} (data : Bytes) (trailing : Exn) (dec : Decoder α) : Except Exn α := do
  let (a, rest) ← dec.run data
  if rest = [] then return a else throw trailing

structure RequestMessage where
  op : ℤ
  objectUuid : Option Uuid := none
  fileType : String := ""
  fileSize : ℤ := 0
  metadata : String := ""
  deriving DecidableEq

def encodeRequestMessage (msg : RequestMessage) : Except Exn Bytes :=
  Encoder.new |>.u8 msg.op |>.uuid msg.objectUuid |>.str msg.fileType |>.u64 msg.fileSize
    |>.str msg.metadata |>.finish

def parseRequestMessage (data : Bytes) : Except Exn RequestMessage :=
  Decoder.parse data do
    let op ← Decoder.u8
    let objectUuid ← Decoder.uuid
    let fileType ← Decoder.str
    let fileSize ← Decoder.u64
    let metadata ← Decoder.str
    return { op, objectUuid, fileType, fileSize, metadata }

structure ResponseMessage where
  status : ℤ := RespStatus.ok.code
  message : String := ""
  objectUuid : Option Uuid := none
  fileType : String := ""
  fileSize : ℤ := 0
  contentIntegrity : String := ""
  serverKeyVersion : ℤ := 0
  serverEd25519Public : Bytes := []
  serverX25519Public : Bytes := []
  serverSuccessorSignature : Bytes := []
  serverPrevVersion : ℤ := 0
  deriving DecidableEq

def encodeResponseMessage (msg : ResponseMessage) : Except Exn Bytes :=
  Encoder.new |>.u8 msg.status |>.str msg.message |>.uuid msg.objectUuid |>.str msg.fileType
    |>.u64 msg.fileSize |>.str msg.contentIntegrity |>.u32 msg.serverKeyVersion
    |>.bytes msg.serverEd25519Public |>.bytes msg.serverX25519Public
    |>.bytes msg.serverSuccessorSignature |>.u32 msg.serverPrevVersion |>.finish

def parseResponseMessage (data : Bytes) : Except Exn ResponseMessage :=
  Decoder.parse data do
    let status ← Decoder.u8
    let message ← Decoder.str
    let objectUuid ← Decoder.uuid
    let fileType ← Decoder.str
    let fileSize ← Decoder.u64
    let contentIntegrity ← Decoder.str
    let serverKeyVersion ← Decoder.u32
    let serverEd25519Public ← Decoder.bytes
    let serverX25519Public ← Decoder.bytes
    let serverSuccessorSignature ← Decoder.bytes
    let serverPrevVersion ← Decoder.u32
    return { status, message, objectUuid, fileType, fileSize, contentIntegrity, serverKeyVersion,
             serverEd25519Public, serverX25519Public, serverSuccessorSignature, serverPrevVersion }

structure ControlMessage where
  ctype : ℤ
  body : Bytes
  deriving DecidableEq

def encodeControl (ctype : ℤ) (body : Bytes) : Except Exn Bytes :=
  Encoder.new |>.u8 ctype |>.bytes body |>.finish

def parseControl (data : Bytes) : Except Exn ControlMessage :=
  Decoder.parse data do
    let ctype ← Decoder.u8
    let body ← Decoder.bytes
    return { ctype, body }

structure RegistryEntry where
  identityUuid : Uuid
  version : ℤ
  status : ℤ
  ed25519Public : Bytes
  x25519Public : Bytes
  createdAt : ℤ
  validationDeadline : ℤ
  activationTime : ℤ
  expirationTime : ℤ
  deriving DecidableEq

def encodeRegistryEntry (entry : RegistryEntry) : Except Exn Bytes :=
  Encoder.new |>.uuid (some entry.identityUuid) |>.u32 entry.version |>.u8 entry.status
    |>.bytes entry.ed25519Public |>.bytes entry.x25519Public |>.i64 entry.createdAt
    |>.i64 entry.validationDeadline |>.i64 entry.activationTime |>.i64 entry.expirationTime |>.finish

def parseRegistryEntry (data : Bytes) : Except Exn RegistryEntry :=
  Decoder.parse data do
    let identityUuid ← Decoder.uuid
    let version ← Decoder.u32
    let status ← Decoder.u8
    let ed25519Public ← Decoder.bytes
    let x25519Public ← Decoder.bytes
    let createdAt ← Decoder.i64
    let validationDeadline ← Decoder.i64
    let activationTime ← Decoder.i64
    let expirationTime ← Decoder.i64
    return { identityUuid := identityUuid.getD Uuid.nil, version, status, ed25519Public, x25519Public,
             createdAt, validationDeadline, activationTime, expirationTime }

def encodeRegistrySnapshot (entries : List RegistryEntry) : Except Exn Bytes :=
  Encoder.finish <| entries.foldl
    (fun enc entry => do
      let buf ← enc
      let field ← encodeRegistryEntry entry
      Encoder.bytes (.ok buf) field)
    (Encoder.new.u32 entries.length)

def snapshotEntries : ℕ → Decoder (List RegistryEntry)
  | 0 => return []
  | count + 1 => do
    let field ← Decoder.bytes
    match parseRegistryEntry field with
    | .error exc => throw exc
    | .ok entry => return entry :: (← snapshotEntries count)

def parseRegistrySnapshot (data : Bytes) : Except Exn (List RegistryEntry) :=
  Decoder.parseAll data (.decodeError "trailing data in registry snapshot") do
    snapshotEntries (← Decoder.u32).toNat

def kindToCode : IdentityKind → ℤ
  | .client => 1
  | .proxy => 2
  | .server => 3

def kindFromCode (code : ℤ) : Except Exn IdentityKind :=
  if code = 1 then .ok .client
  else if code = 2 then .ok .proxy
  else if code = 3 then .ok .server
  else .error (.protocolError s!"unknown identity kind code {code}")

lemma kindFromCode_code (kind : IdentityKind) : kindFromCode (kindToCode kind) = .ok kind := by
  cases kind <;> rfl

def statusToCode : CredentialStatus → ℤ
  | .generated => 0
  | .validating => 1
  | .active => 2
  | .fallback => 3
  | .expired => 4
  | .terminated => 5
  | .revoked => 6

def registryEntryFromPublic (cred : CredentialPublic) : RegistryEntry where
  identityUuid := cred.identityUuid
  version := cred.version
  status := statusToCode cred.status
  ed25519Public := cred.ed25519Public
  x25519Public := cred.x25519Public
  createdAt := cred.createdAt
  validationDeadline := cred.validationDeadline.getD 0
  activationTime := cred.activationTime.getD 0
  expirationTime := cred.expirationTime.getD 0

structure EnrollmentBody where
  identityKind : ℤ
  token : String
  version : ℤ
  ed25519Public : Bytes
  x25519Public : Bytes
  deriving DecidableEq

def encodeEnrollmentBody (body : EnrollmentBody) : Except Exn Bytes :=
  Encoder.new |>.u8 body.identityKind |>.str body.token |>.u32 body.version
    |>.bytes body.ed25519Public |>.bytes body.x25519Public |>.finish

def parseEnrollmentBody (data : Bytes) : Except Exn EnrollmentBody :=
  Decoder.parse data do
    let identityKind ← Decoder.u8
    let token ← Decoder.str
    let version ← Decoder.u32
    let ed25519Public ← Decoder.bytes
    let x25519Public ← Decoder.bytes
    return { identityKind, token, version, ed25519Public, x25519Public }

structure EncryptedPayload where
  recipientVersion : ℤ
  ephemeralPublic : Bytes
  nonce : Bytes
  ciphertext : Bytes
  deriving DecidableEq

def wrapEncrypted (p : EncryptedPayload) : Except Exn Bytes :=
  Encoder.new |>.u32 p.recipientVersion |>.bytes p.ephemeralPublic |>.bytes p.nonce
    |>.bytes p.ciphertext |>.finish

def unwrapEncrypted (data : Bytes) : Except Exn EncryptedPayload :=
  Decoder.parseAll data (.protocolError "trailing data in encrypted payload") do
    let recipientVersion ← Decoder.u32
    let ephemeralPublic ← Decoder.bytes
    let nonce ← Decoder.bytes
    let ciphertext ← Decoder.bytes
    return { recipientVersion, ephemeralPublic, nonce, ciphertext }

structure EncryptedChunk where
  recipientVersion : ℤ
  objectUuid : Uuid
  chunkIndex : ℤ
  ephemeralPublic : Bytes
  ciphertext : Bytes
  deriving DecidableEq

def wrapEncryptedChunk (p : EncryptedChunk) : Except Exn Bytes :=
  Encoder.new |>.u32 p.recipientVersion |>.uuid (some p.objectUuid) |>.u64 p.chunkIndex
    |>.bytes p.ephemeralPublic |>.bytes p.ciphertext |>.finish

def unwrapEncryptedChunk (data : Bytes) : Except Exn EncryptedChunk :=
  Decoder.parseAll data (.protocolError "trailing data in encrypted chunk payload") do
    let recipientVersion ← Decoder.u32
    let objectUuid ← Decoder.uuid
    let chunkIndex ← Decoder.u64
    let ephemeralPublic ← Decoder.bytes
    let ciphertext ← Decoder.bytes
    return { recipientVersion, objectUuid := objectUuid.getD Uuid.nil, chunkIndex, ephemeralPublic,
             ciphertext }

def openPayload (P : Primitives) (env : Envelope) (x25519Private : Bytes) : Except Exn Bytes := do
  let p ← unwrapEncrypted env.payload
  let aad ← env.aad 0
  openMessage P x25519Private p.ephemeralPublic p.nonce aad p.ciphertext

structure ServerKeyInfo where
  version : ℤ
  ed25519Public : Bytes
  x25519Public : Bytes
  prevVersion : ℤ
  successorSignature : Bytes
  deriving DecidableEq

def encodeServerKeyInfo (info : ServerKeyInfo) : Except Exn Bytes :=
  Encoder.new |>.u32 info.version |>.bytes info.ed25519Public |>.bytes info.x25519Public
    |>.u32 info.prevVersion |>.bytes info.successorSignature |>.finish

def parseServerKeyInfo (data : Bytes) : Except Exn ServerKeyInfo :=
  Decoder.parse data do
    let version ← Decoder.u32
    let ed25519Public ← Decoder.bytes
    let x25519Public ← Decoder.bytes
    let prevVersion ← Decoder.u32
    let successorSignature ← Decoder.bytes
    return { version, ed25519Public, x25519Public, prevVersion, successorSignature }

structure EnrollResponse where
  status : ℤ
  message : String
  serverKeyInfo : Bytes
  deriving DecidableEq

def encodeEnrollResponse (resp : EnrollResponse) : Except Exn Bytes :=
  Encoder.new |>.u8 resp.status |>.str resp.message |>.bytes resp.serverKeyInfo |>.finish

def parseEnrollResponse (data : Bytes) : Except Exn EnrollResponse :=
  Decoder.parse data do
    let status ← Decoder.u8
    let message ← Decoder.str
    let serverKeyInfo ← Decoder.bytes
    return { status, message, serverKeyInfo }

section RoundTrips

variable {data : Bytes}

lemma Leads.parse {α : Type} {enc : Encoder} {dec : Decoder α} {a : α}
    (h : Leads Encoder.new dec dec → Leads enc dec (pure a)) (henc : enc.finish = .ok data) :
    Decoder.parse data dec = .ok a := by
  have hrun := h (.new dec) data [] henc
  rw [List.append_nil] at hrun
  rw [Decoder.parse, hrun]
  rfl

lemma Leads.parseAll {α : Type} {enc : Encoder} {dec : Decoder α} {a : α} {trailing : Exn}
    (h : Leads Encoder.new dec dec → Leads enc dec (pure a)) (henc : enc.finish = .ok data) :
    Decoder.parseAll data trailing dec = .ok a := by
  have hrun := h (.new dec) data [] henc
  rw [List.append_nil] at hrun
  rw [Decoder.parseAll, hrun]
  rfl

lemma parse_encodeControl {ctype : ℤ} {body : Bytes} (h : encodeControl ctype body = .ok data) :
    parseControl data = .ok ⟨ctype, body⟩ := by
  refine Leads.parse (fun hnew => ?_) h
  have hread := (hnew.u8 ctype).bytes body
  exact hread

lemma unwrap_wrapEncrypted {p : EncryptedPayload} (h : wrapEncrypted p = .ok data) :
    unwrapEncrypted data = .ok p := by
  refine Leads.parseAll (fun hnew => ?_) h
  have hkey := (hnew.u32 p.recipientVersion).bytes p.ephemeralPublic
  have hread := (hkey.bytes p.nonce).bytes p.ciphertext
  exact hread

lemma unwrap_wrapEncryptedChunk {p : EncryptedChunk} (h : wrapEncryptedChunk p = .ok data) :
    unwrapEncryptedChunk data = .ok p := by
  refine Leads.parseAll (fun hnew => ?_) h
  have hobject := ((hnew.u32 p.recipientVersion).uuid (some p.objectUuid)).u64 p.chunkIndex
  have hread := (hobject.bytes p.ephemeralPublic).bytes p.ciphertext
  exact hread

lemma parse_encodeRequestMessage {msg : RequestMessage} (h : encodeRequestMessage msg = .ok data) :
    parseRequestMessage data = .ok msg := by
  refine Leads.parse (fun hnew => ?_) h
  have hobject := ((hnew.u8 msg.op).uuid msg.objectUuid).str msg.fileType
  have hread := (hobject.u64 msg.fileSize).str msg.metadata
  exact hread

lemma parse_encodeResponseMessage {msg : ResponseMessage} (h : encodeResponseMessage msg = .ok data) :
    parseResponseMessage data = .ok msg := by
  refine Leads.parse (fun hnew => ?_) h
  have hobject := ((hnew.u8 msg.status).str msg.message).uuid msg.objectUuid
  have hfile := ((hobject.str msg.fileType).u64 msg.fileSize).str msg.contentIntegrity
  have hkeys := ((hfile.u32 msg.serverKeyVersion).bytes msg.serverEd25519Public).bytes
    msg.serverX25519Public
  have hread := (hkeys.bytes msg.serverSuccessorSignature).u32 msg.serverPrevVersion
  exact hread

lemma parse_encodeEnrollmentBody {body : EnrollmentBody} (h : encodeEnrollmentBody body = .ok data) :
    parseEnrollmentBody data = .ok body := by
  refine Leads.parse (fun hnew => ?_) h
  have hversion := ((hnew.u8 body.identityKind).str body.token).u32 body.version
  have hread := (hversion.bytes body.ed25519Public).bytes body.x25519Public
  exact hread

lemma parse_encodeServerKeyInfo {info : ServerKeyInfo} (h : encodeServerKeyInfo info = .ok data) :
    parseServerKeyInfo data = .ok info := by
  refine Leads.parse (fun hnew => ?_) h
  have hkeys := ((hnew.u32 info.version).bytes info.ed25519Public).bytes info.x25519Public
  have hread := (hkeys.u32 info.prevVersion).bytes info.successorSignature
  exact hread

lemma encodeServerKeyInfo_version {info : ServerKeyInfo} (h : encodeServerKeyInfo info = .ok data) :
    0 ≤ info.version ∧ info.version < 2 ^ 32 := by
  obtain ⟨_, hprev⟩ := Encoder.of_bytes h
  obtain ⟨_, hx25519⟩ := Encoder.of_write hprev
  obtain ⟨_, hed25519⟩ := Encoder.of_bytes hx25519
  obtain ⟨_, hversion⟩ := Encoder.of_bytes hed25519
  obtain ⟨_, w, _, hw, _⟩ := Encoder.write_eq_ok.mp hversion
  exact packUInt_isOk.mp ⟨w, hw⟩

lemma parse_encodeEnrollResponse {resp : EnrollResponse} (h : encodeEnrollResponse resp = .ok data) :
    parseEnrollResponse data = .ok resp := by
  refine Leads.parse (fun hnew => ?_) h
  have hread := ((hnew.u8 resp.status).str resp.message).bytes resp.serverKeyInfo
  exact hread

end RoundTrips

section Sizes

lemma encodeControl_writes {ctype : ℤ} {body : Bytes} (hctype : 0 ≤ ctype ∧ ctype < 2 ^ 8)
    (hbody : body.length < 2 ^ 32) : Encoder.Writes (encodeControl ctype body) (5 + body.length) :=
  (Encoder.Writes.new.u8 hctype.1 hctype.2).bytes hbody

lemma encodeRequestMessage_writes (msg : RequestMessage) (hop : 0 ≤ msg.op ∧ msg.op < 2 ^ 8)
    (hsize : 0 ≤ msg.fileSize ∧ msg.fileSize < 2 ^ 64) (htype : (utf8 msg.fileType).length < 2 ^ 32)
    (hmetadata : (utf8 msg.metadata).length < 2 ^ 32) :
    Encoder.Writes (encodeRequestMessage msg)
      (34 + (utf8 msg.fileType).length + (utf8 msg.metadata).length) := by
  have hobject := (Encoder.Writes.new.u8 hop.1 hop.2).uuid msg.objectUuid
  have hfile := ((hobject.str htype).u64 hsize.1 hsize.2).str hmetadata
  exact hfile.of_eq (by omega)

lemma encodeResponseMessage_writes {status fileSize : ℤ} {message fileType contentIntegrity : String}
    (objectUuid : Option Uuid) (hstatus : 0 ≤ status ∧ status < 2 ^ 8)
    (hmessage : (utf8 message).length < 2 ^ 32) (htype : (utf8 fileType).length < 2 ^ 32)
    (hsize : 0 ≤ fileSize ∧ fileSize < 2 ^ 64) (hintegrity : (utf8 contentIntegrity).length < 2 ^ 32) :
    Encoder.Writes
      (encodeResponseMessage { status, message, objectUuid, fileType, fileSize, contentIntegrity })
      (58 + (utf8 message).length + (utf8 fileType).length + (utf8 contentIntegrity).length) := by
  have hobject := ((Encoder.Writes.new.u8 hstatus.1 hstatus.2).str hmessage).uuid objectUuid
  have hfile := ((hobject.str htype).u64 hsize.1 hsize.2).str hintegrity
  have hversion := hfile.u32 (v := 0) (by decide) (by decide)
  have hkeys := ((hversion.bytes (b := []) (by decide)).bytes (b := []) (by decide)).bytes (b := [])
    (by decide)
  have hall := hkeys.u32 (v := 0) (by decide) (by decide)
  rw [encodeResponseMessage, Encoder.finish]
  refine hall.of_eq ?_
  rw [List.length_nil]
  omega

lemma wrapEncrypted_writes {p : EncryptedPayload}
    (hversion : 0 ≤ p.recipientVersion ∧ p.recipientVersion < 2 ^ 32)
    (hephemeral : p.ephemeralPublic.length = 32) (hnonce : p.nonce.length = nonceSize)
    (hciphertext : p.ciphertext.length < 2 ^ 32) :
    Encoder.Writes (wrapEncrypted p) (60 + p.ciphertext.length) := by
  have hkey := (Encoder.Writes.new.u32 hversion.1 hversion.2).bytes (b := p.ephemeralPublic) (by omega)
  have hall := (hkey.bytes (b := p.nonce) (by rw [hnonce]; decide)).bytes hciphertext
  exact hall.of_eq (by rw [hephemeral, hnonce]; rfl)

lemma wrapEncrypted_length {p : EncryptedPayload} {data : Bytes} (h : wrapEncrypted p = .ok data) :
    data.length = 16 + p.ephemeralPublic.length + p.nonce.length + p.ciphertext.length := by
  simp only [wrapEncrypted, Encoder.finish, Encoder.bytes, Encoder.u32, Encoder.write_eq_ok, Encoder.new,
    Except.ok.injEq] at h
  obtain ⟨_, _, ⟨_, len'', ⟨_, _, ⟨_, len', ⟨_, _, ⟨_, len, ⟨_, version, rfl, hversion, rfl⟩, hlen, rfl⟩,
    rfl, rfl⟩, hlen', rfl⟩, rfl, rfl⟩, hlen'', rfl⟩, rfl, rfl⟩ := h
  simp only [List.length_append, List.length_nil, packUInt_length hversion, packUInt_length hlen,
    packUInt_length hlen', packUInt_length hlen'']
  omega

lemma wrapEncryptedChunk_writes {p : EncryptedChunk}
    (hversion : 0 ≤ p.recipientVersion ∧ p.recipientVersion < 2 ^ 32)
    (hindex : 0 ≤ p.chunkIndex ∧ p.chunkIndex < 2 ^ 64)
    (hephemeral : p.ephemeralPublic.length = 32) (hciphertext : p.ciphertext.length < 2 ^ 32) :
    Encoder.Writes (wrapEncryptedChunk p) (69 + p.ciphertext.length) := by
  have hobject := ((Encoder.Writes.new.u32 hversion.1 hversion.2).uuid (some p.objectUuid)).u64
    hindex.1 hindex.2
  have hall := (hobject.bytes (b := p.ephemeralPublic) (by omega)).bytes hciphertext
  exact hall.of_eq (by rw [hephemeral])

lemma wrapEncryptedChunk_layout {p : EncryptedChunk} {data : Bytes}
    (h : wrapEncryptedChunk p = .ok data) : ∃ version rest, version.length = 4 ∧
      data = version ++ 1 :: (p.objectUuid.bytes ++ rest) ∧
      rest.length = 16 + p.ephemeralPublic.length + p.ciphertext.length := by
  simp only [wrapEncryptedChunk, Encoder.finish, Encoder.bytes, Encoder.u32, Encoder.u64,
    Encoder.uuid, Encoder.write_eq_ok, Encoder.new, Except.ok.injEq] at h
  obtain ⟨_, _, ⟨_, len', ⟨_, _, ⟨_, len, ⟨_, index, ⟨_, _, ⟨_, version, rfl, hversion, rfl⟩, rfl, rfl⟩,
    hindex, rfl⟩, hephemeral, rfl⟩, rfl, rfl⟩, hciphertext, rfl⟩, rfl, rfl⟩ := h
  refine ⟨version, index ++ len ++ p.ephemeralPublic ++ len' ++ p.ciphertext,
    packUInt_length hversion, ?_, ?_⟩
  · simp only [List.nil_append, List.append_assoc, List.cons_append]
  · simp only [List.length_append, packUInt_length hindex, packUInt_length hephemeral,
      packUInt_length hciphertext]
    omega

lemma unwrapEncrypted_chunk {p : EncryptedChunk} {data : Bytes}
    (h : wrapEncryptedChunk p = .ok data)
    (hsmall : p.ephemeralPublic.length + p.ciphertext.length < 2 ^ 23) (q : EncryptedPayload) :
    unwrapEncrypted data ≠ .ok q := by
  obtain ⟨version, rest, hversion, rfl, hrest⟩ := wrapEncryptedChunk_layout h
  intro hok
  obtain ⟨⟨_, left⟩, hrun, _⟩ := except_bind_eq_ok.mp hok
  obtain ⟨_, mid, hfirst, hrun⟩ := parser_bind_eq_ok.mp hrun
  obtain ⟨_, _, rfl⟩ := Decoder.u32_eq_ok.mp hfirst
  obtain ⟨ephemeral, _, hbytes, _⟩ := parser_bind_eq_ok.mp hrun
  obtain ⟨len, _, hlen, htake⟩ := parser_bind_eq_ok.mp hbytes
  obtain ⟨_, rfl, rfl⟩ := Decoder.u32_eq_ok.mp hlen
  obtain ⟨hshort, _⟩ := takeN_eq_ok.mp htake
  rw [← hversion, List.drop_left, unpackUInt, Int.toNat_natCast] at hshort
  have hflag : 256 ^ 3 ≤ beValue ((1 :: (p.objectUuid.bytes ++ rest)).take 4) := by
    rw [List.take_succ_cons, beValue_cons, List.length_take, List.length_append, p.objectUuid.size,
      min_eq_left (by omega)]
    exact Nat.le_add_right _ _
  have hsize := p.objectUuid.size
  rw [hversion] at hshort
  simp only [List.length_drop, List.length_cons, List.length_append] at hshort
  omega

end Sizes

end Secupload.Shared
