import Secupload.Shared.Crypto

namespace Secupload.Shared

open Library

def envelopeVersion : ℤ := 1
def nonceSize : ℕ := aesgcmNonceSize
def headerSize : ℕ := 1 + 1 + 16 + 16 + 16 + 4 + 8 + 12 + 4

inductive MsgType
  | request
  | response
  | objChunk
  | control
  deriving DecidableEq

def MsgType.code : MsgType → ℤ
  | request => 1
  | response => 2
  | objChunk => 3
  | control => 4

lemma MsgType.code_range (msgType : MsgType) : 0 ≤ msgType.code ∧ msgType.code < 2 ^ 8 := by
  cases msgType <;> decide

def aadTag : Bytes := utf8 "SIH-AAD-1"

def buildAad (senderUuid recipientUuid requestId : Uuid) (senderCredentialVersion timestamp : ℤ)
    (nonce : Bytes) (chunkIndex : ℤ) : Except Exn Bytes :=
  ((((((((Encoder.new).bytes aadTag).uuid (some senderUuid)).uuid (some recipientUuid)).uuid
    (some requestId)).u32 senderCredentialVersion).i64 timestamp).bytes nonce).u64 chunkIndex |>.finish

structure Envelope where
  msgType : ℤ
  senderUuid : Uuid
  recipientUuid : Uuid
  requestId : Uuid
  senderCredentialVersion : ℤ
  timestamp : ℤ
  nonce : Bytes
  payload : Bytes
  version : ℤ := envelopeVersion
  signature : Bytes := []
  deriving DecidableEq

-- `12s` pads a short nonce with zeros and cuts a long one
def packNonce (nonce : Bytes) : Bytes := (nonce ++ List.replicate nonceSize 0).take nonceSize

def packHeader (env : Envelope) : Except Exn Bytes := do
  let version ← packUInt 1 env.version
  let msgType ← packUInt 1 env.msgType
  let credentialVersion ← packUInt 4 env.senderCredentialVersion
  let timestamp ← packInt64 env.timestamp
  let payloadLen ← packUInt 4 env.payload.length
  return version ++ msgType ++ env.senderUuid.bytes ++ env.recipientUuid.bytes ++
    env.requestId.bytes ++ credentialVersion ++ timestamp ++ packNonce env.nonce ++ payloadLen

namespace Envelope

def aad (env : Envelope) (chunkIndex : ℤ) : Except Exn Bytes :=
  buildAad env.senderUuid env.recipientUuid env.requestId env.senderCredentialVersion env.timestamp
    env.nonce chunkIndex

variable (P : Primitives)

def signedBytes (env : Envelope) : Except Exn Bytes := do
  return (← packHeader env) ++ env.payload

def sign (env : Envelope) (ed25519Private : Bytes) : Except Exn Envelope := do
  return { env with signature := signEd25519 P ed25519Private (← env.signedBytes) }

def verify (env : Envelope) (ed25519Public : Bytes) : Except Exn Unit := do
  let data ← env.signedBytes
  match verifyEd25519 P ed25519Public data env.signature with
  | .error (.signatureError message) =>
    throw (.protocolError s!"envelope signature invalid: {message}")
  | result => result

def encode (env : Envelope) : Except Exn Bytes := do
  return (← env.signedBytes) ++ env.signature

lemma signedBytes_error {env : Envelope} {exc : Exn} (h : env.signedBytes = .error exc) :
    exc = .structError := by
  simp only [signedBytes, packHeader, except_bind_eq_error, pure, Except.pure, reduceCtorEq,
    and_false, exists_false, or_false] at h
  rcases h with h | ⟨_, _, h | ⟨_, _, h | ⟨_, _, h | ⟨_, _, h⟩⟩⟩⟩
  · exact packUInt_error h
  · exact packUInt_error h
  · exact packUInt_error h
  · exact packInt64_error h
  · exact packUInt_error h

variable {P} in
lemma verify_error {env : Envelope} {ed25519Public : Bytes} {exc : Exn}
    (h : env.verify P ed25519Public = .error exc) :
    exc = .structError ∨ (∃ message, exc = .cryptoError message) ∨
      ∃ message, exc = .protocolError message := by
  rw [verify] at h
  rcases except_bind_eq_error.mp h with h | ⟨data, _, h⟩
  · exact Or.inl (signedBytes_error h)
  · right
    rw [verifyEd25519] at h
    split_ifs at h
    · exact Or.inr ⟨_, (Except.error.inj h).symm⟩
    · exact Or.inl ⟨_, (Except.error.inj h).symm⟩
    · exact Or.inr ⟨_, (Except.error.inj h).symm⟩

end Envelope

def slice (data : Bytes) (i n : ℕ) : Bytes := (data.drop i).take n

-- the sixteen bytes at `i`; the header is never cut short when they are read
def uuidAt (data : Bytes) (i : ℕ) : Uuid := (Uuid.ofBytes? (slice data i 16)).getD Uuid.nil

def parseEnvelope (data : Bytes) : Except Exn Envelope :=
  let version := unpackUInt (slice data 0 1)
  let payloadLen := (unpackUInt (slice data 74 4)).toNat
  let payload := slice data headerSize payloadLen
  let signature := data.drop (headerSize + payloadLen)
  if data.length < headerSize + ed25519SignatureSize then .error (.protocolError "envelope too short")
  else if version ≠ envelopeVersion then
    .error (.protocolError s!"unsupported envelope version {version}")
  else if payload.length ≠ payloadLen then .error (.protocolError "envelope payload truncated")
  else if signature.length ≠ ed25519SignatureSize then
    .error (.protocolError "envelope signature truncated")
  else
    .ok
      { version
        msgType := unpackUInt (slice data 1 1)
        senderUuid := uuidAt data 2
        recipientUuid := uuidAt data 18
        requestId := uuidAt data 34
        senderCredentialVersion := unpackUInt (slice data 50 4)
        timestamp := unpackInt64 (slice data 54 8)
        nonce := slice data 62 12
        payload
        signature }

section RoundTrip

lemma slice_flatten {fields : List Bytes} {field : Bytes} {i n : ℕ} (k : ℕ)
    (hfield : fields[k]? = some field) (hi : ((fields.take k).map List.length).sum = i)
    (hn : field.length = n) : slice fields.flatten i n = field := by
  obtain ⟨hk, rfl⟩ := List.getElem?_eq_some_iff.mp hfield
  subst hi hn
  have hsplit : fields = fields.take k ++ fields[k] :: fields.drop (k + 1) := by
    rw [← List.drop_eq_getElem_cons hk, List.take_append_drop]
  have hflatten : fields.flatten =
      (fields.take k).flatten ++ (fields[k] ++ (fields.drop (k + 1)).flatten) := by
    conv_lhs => rw [hsplit]
    rw [List.flatten_append, List.flatten_cons]
  rw [hflatten, slice, ← List.length_flatten, List.drop_left, List.take_left]

lemma uuidAt_flatten {fields : List Bytes} {u : Uuid} {i : ℕ} (k : ℕ)
    (hfield : fields[k]? = some u.bytes) (hi : ((fields.take k).map List.length).sum = i) :
    uuidAt fields.flatten i = u := by
  rw [uuidAt, slice_flatten k hfield hi u.size, Uuid.ofBytes?_bytes, Option.getD_some]

lemma packNonce_length (nonce : Bytes) : (packNonce nonce).length = nonceSize := by
  rw [packNonce, List.length_take, List.length_append, List.length_replicate]
  omega

lemma packNonce_of_length {nonce : Bytes} (h : nonce.length = nonceSize) : packNonce nonce = nonce := by
  rw [packNonce, ← h, List.take_left]

lemma parseEnvelope_fields (sender recipient request : Uuid) {version msgType credential timestamp
    nonce payloadLen payload signature : Bytes} (hv : version.length = 1)
    (hm : msgType.length = 1) (hc : credential.length = 4) (ht : timestamp.length = 8)
    (hn : nonce.length = 12) (hl : payloadLen.length = 4)
    (hsignature : signature.length = ed25519SignatureSize)
    (hversion : unpackUInt version = envelopeVersion)
    (hpayload : unpackUInt payloadLen = payload.length) :
    parseEnvelope [version, msgType, sender.bytes, recipient.bytes, request.bytes, credential,
        timestamp, nonce, payloadLen, payload, signature].flatten =
      .ok
        { version := unpackUInt version
          msgType := unpackUInt msgType
          senderUuid := sender
          recipientUuid := recipient
          requestId := request
          senderCredentialVersion := unpackUInt credential
          timestamp := unpackInt64 timestamp
          nonce
          payload
          signature } := by
  generalize hfields : [version, msgType, sender.bytes, recipient.bytes, request.bytes, credential,
    timestamp, nonce, payloadLen, payload, signature] = fields
  have hsizes : fields.map List.length = [1, 1, 16, 16, 16, 4, 8, 12, 4, payload.length, 64] := by
    rw [← hfields]
    simp only [List.map_cons, List.map_nil, hv, hm, Uuid.size, hc, ht, hn, hl, hsignature]
    rfl
  have hoffset (k i : ℕ) (h : (([1, 1, 16, 16, 16, 4, 8, 12, 4, payload.length, 64] : List ℕ).take
      k).sum = i) : ((fields.take k).map List.length).sum = i := by
    rw [List.map_take, hsizes, h]
  have h0 := slice_flatten 0 (by rw [← hfields]; rfl) (hoffset 0 0 rfl) hv
  have h1 := slice_flatten 1 (by rw [← hfields]; rfl) (hoffset 1 1 rfl) hm
  have h2 := uuidAt_flatten (u := sender) 2 (by rw [← hfields]; rfl) (hoffset 2 2 rfl)
  have h18 := uuidAt_flatten (u := recipient) 3 (by rw [← hfields]; rfl) (hoffset 3 18 rfl)
  have h34 := uuidAt_flatten (u := request) 4 (by rw [← hfields]; rfl) (hoffset 4 34 rfl)
  have h50 := slice_flatten 5 (by rw [← hfields]; rfl) (hoffset 5 50 rfl) hc
  have h54 := slice_flatten 6 (by rw [← hfields]; rfl) (hoffset 6 54 rfl) ht
  have h62 := slice_flatten 7 (by rw [← hfields]; rfl) (hoffset 7 62 rfl) hn
  have h74 := slice_flatten 8 (by rw [← hfields]; rfl) (hoffset 8 74 rfl) hl
  have h78 : slice fields.flatten headerSize payload.length = payload :=
    slice_flatten 9 (by rw [← hfields]; rfl) (hoffset 9 78 rfl) rfl
  have hsize : fields.flatten.length = headerSize + payload.length + ed25519SignatureSize := by
    rw [List.length_flatten, hsizes]
    simp [headerSize, ed25519SignatureSize]
    omega
  have hlast : fields.flatten.drop (headerSize + payload.length) = signature := by
    have h := slice_flatten 10 (i := headerSize + payload.length) (by rw [← hfields]; rfl)
      (hoffset 10 _ (by simp [headerSize]; omega)) hsignature
    rwa [slice, List.take_of_length_le (by rw [List.length_drop, hsize]; omega)] at h
  have hlen : (unpackUInt payloadLen).toNat = payload.length := by rw [hpayload, Int.toNat_natCast]
  simp only [parseEnvelope, h0, h1, h2, h18, h34, h50, h54, h62, h74, h78, hlen, hlast]
  rw [if_neg (by omega), if_neg (not_not.mpr hversion), if_neg (not_not.mpr rfl),
    if_neg (not_not.mpr hsignature)]

namespace Envelope

structure WellFormed (env : Envelope) : Prop where
  version : env.version = envelopeVersion
  msgType : 0 ≤ env.msgType ∧ env.msgType < 2 ^ 8
  credentialVersion : 0 ≤ env.senderCredentialVersion ∧ env.senderCredentialVersion < 2 ^ 32
  timestamp : -2 ^ 63 ≤ env.timestamp ∧ env.timestamp < 2 ^ 63
  nonce : env.nonce.length = nonceSize

lemma aad_ok {env : Envelope} (h : env.WellFormed) {chunkIndex : ℤ} (hi : 0 ≤ chunkIndex)
    (hlt : chunkIndex < 2 ^ 64) : ∃ aad, env.aad chunkIndex = .ok aad := by
  have htag := Encoder.Writes.new.bytes (b := aadTag) (by decide)
  have hparties := ((htag.uuid (some env.senderUuid)).uuid (some env.recipientUuid)).uuid
    (some env.requestId)
  have hclock := (hparties.u32 h.credentialVersion.1 h.credentialVersion.2).i64 h.timestamp.1
    h.timestamp.2
  have hnonce : env.nonce.length < 2 ^ 32 := by
    rw [h.nonce]
    decide
  obtain ⟨aad, haad, _⟩ := (hclock.bytes hnonce).u64 hi hlt
  exact ⟨aad, haad⟩

lemma packHeader_ok {env : Envelope} (h : env.WellFormed) (hpayload : env.payload.length < 2 ^ 32) :
    ∃ header, packHeader env = .ok header ∧ header.length = headerSize := by
  obtain ⟨version, hversion⟩ := packUInt_isOk (n := 1).mpr
    (show 0 ≤ env.version ∧ env.version < 256 ^ 1 by rw [h.version]; decide)
  obtain ⟨msgType, hmsgType⟩ := packUInt_isOk (n := 1).mpr h.msgType
  obtain ⟨credentialVersion, hcredential⟩ := packUInt_isOk (n := 4).mpr
    (show _ ∧ env.senderCredentialVersion < 256 ^ 4 from
      ⟨h.credentialVersion.1, by have := h.credentialVersion.2; omega⟩)
  obtain ⟨timestamp, htimestamp⟩ : ∃ bs, packInt64 env.timestamp = .ok bs := ⟨_, if_pos h.timestamp⟩
  obtain ⟨payloadLen, hlen⟩ := packUInt_isOk (n := 4).mpr
    (show 0 ≤ (env.payload.length : ℤ) ∧ (env.payload.length : ℤ) < 256 ^ 4 by omega)
  refine ⟨_, by rw [packHeader, hversion, hmsgType, hcredential, htimestamp, hlen]; rfl, ?_⟩
  simp only [List.length_append, packUInt_length hversion, packUInt_length hmsgType, Uuid.size,
    packUInt_length hcredential, packInt64_length htimestamp, packUInt_length hlen,
    packNonce_of_length h.nonce, h.nonce]
  rfl

lemma signedBytes_ok {env : Envelope} (h : env.WellFormed) (hpayload : env.payload.length < 2 ^ 32) :
    ∃ data, env.signedBytes = .ok data ∧ data.length = headerSize + env.payload.length := by
  obtain ⟨header, hheader, hlen⟩ := packHeader_ok h hpayload
  exact ⟨header ++ env.payload, by rw [signedBytes, hheader]; rfl, by rw [List.length_append, hlen]⟩

lemma encode_fields {env : Envelope} {data : Bytes} (henc : env.encode = .ok data) :
    ∃ version msgType credentialVersion timestamp payloadLen, packUInt 1 env.version = .ok version ∧
      packUInt 1 env.msgType = .ok msgType ∧
      packUInt 4 env.senderCredentialVersion = .ok credentialVersion ∧
      packInt64 env.timestamp = .ok timestamp ∧ packUInt 4 env.payload.length = .ok payloadLen ∧
      data = version ++ msgType ++ env.senderUuid.bytes ++ env.recipientUuid.bytes ++ env.requestId.bytes ++
        credentialVersion ++ timestamp ++ packNonce env.nonce ++ payloadLen ++ env.payload ++ env.signature := by
  obtain ⟨signed, hsigned, hdata⟩ := except_bind_eq_ok.mp henc
  obtain ⟨header, hheader, hbody⟩ := except_bind_eq_ok.mp hsigned
  obtain ⟨version, hversion, hheader⟩ := except_bind_eq_ok.mp hheader
  obtain ⟨msgType, hmsgType, hheader⟩ := except_bind_eq_ok.mp hheader
  obtain ⟨credential, hcredential, hheader⟩ := except_bind_eq_ok.mp hheader
  obtain ⟨timestamp, htimestamp, hheader⟩ := except_bind_eq_ok.mp hheader
  obtain ⟨payloadLen, hpayloadLen, hheader⟩ := except_bind_eq_ok.mp hheader
  obtain rfl := Except.ok.inj hheader
  obtain rfl := Except.ok.inj hbody
  exact ⟨version, msgType, credential, timestamp, payloadLen, hversion, hmsgType, hcredential, htimestamp,
    hpayloadLen, (Except.ok.inj hdata).symm⟩

lemma encode_length {env : Envelope} {data : Bytes} (henc : env.encode = .ok data) :
    data.length = headerSize + env.payload.length + env.signature.length := by
  obtain ⟨version, msgType, credential, timestamp, payloadLen, hversion, hmsgType, hcredential, htimestamp,
    hpayloadLen, rfl⟩ := encode_fields henc
  simp only [List.length_append, packUInt_length hversion, packUInt_length hmsgType, Uuid.size,
    packUInt_length hcredential, packInt64_length htimestamp, packUInt_length hpayloadLen, packNonce_length]
  rfl

lemma parse_encode {env : Envelope} {data : Bytes} (h : env.WellFormed)
    (hsignature : env.signature.length = ed25519SignatureSize) (henc : env.encode = .ok data) :
    parseEnvelope data = .ok env := by
  obtain ⟨version, msgType, credential, timestamp, payloadLen, hversion, hmsgType, hcredential, htimestamp,
    hpayloadLen, rfl⟩ := encode_fields henc
  have hparse := parseEnvelope_fields env.senderUuid env.recipientUuid env.requestId
    (packUInt_length hversion) (packUInt_length hmsgType) (packUInt_length hcredential)
    (packInt64_length htimestamp) h.nonce (packUInt_length hpayloadLen) hsignature
    ((unpack_packUInt hversion).trans h.version) (unpack_packUInt hpayloadLen)
  simp only [List.flatten_cons, List.flatten_nil, List.append_nil] at hparse
  simp only [packNonce_of_length h.nonce, List.append_assoc]
  rw [hparse, unpack_packUInt hversion, unpack_packUInt hmsgType, unpack_packUInt hcredential,
    unpack_packInt64 htimestamp]

lemma wellFormed_of_encode {env : Envelope} {data : Bytes} (hversion : env.version = envelopeVersion)
    (hnonce : env.nonce.length = nonceSize) (henc : env.encode = .ok data) : env.WellFormed := by
  obtain ⟨_, msgType, credential, timestamp, _, _, hmsgType, hcredential, htimestamp, _, _⟩ :=
    encode_fields henc
  refine ⟨hversion, packUInt_isOk.mp ⟨_, hmsgType⟩, packUInt_isOk.mp ⟨_, hcredential⟩, ?_, hnonce⟩
  rw [packInt64] at htimestamp
  by_contra hrange
  rw [if_neg hrange] at htimestamp
  cases htimestamp

structure Written (P : Primitives) (env signed : Envelope) (ed25519Private data : Bytes) : Prop where
  sign : env.sign P ed25519Private = .ok signed
  same : signed = { env with signature := signed.signature }
  verify : ed25519Private.length = 32 → signed.verify P (P.ed25519Public ed25519Private) = .ok ()
  encode : signed.encode = .ok data
  length : data.length = headerSize + env.payload.length + ed25519SignatureSize
  parse : parseEnvelope data = .ok signed

lemma sign_ok {P : Primitives} (hP : Lawful P) {env : Envelope} (h : env.WellFormed)
    (hpayload : env.payload.length < 2 ^ 32) (ed25519Private : Bytes) :
    ∃ signed data, Written P env signed ed25519Private data := by
  obtain ⟨body, hbody, hlen⟩ := signedBytes_ok h hpayload
  let signature := signEd25519 P ed25519Private body
  have hsignature : signature.length = ed25519SignatureSize := hP.signature_length _ _
  let signed : Envelope := { env with signature }
  have hsigned : signed.signedBytes = .ok body := hbody
  have hencode : signed.encode = .ok (body ++ signature) := by
    rw [encode, hsigned]
    rfl
  refine ⟨signed, body ++ signature, ?_, rfl, ?_, hencode, ?_, ?_⟩
  · rw [sign, hbody]
    rfl
  · intro hkey
    rw [verify, hsigned, except_ok_bind, hP.verify hkey]
  · rw [List.length_append, hlen, hsignature]
  · have hformed : signed.WellFormed := ⟨h.version, h.msgType, h.credentialVersion, h.timestamp, h.nonce⟩
    exact parse_encode hformed hsignature hencode

end Envelope

end RoundTrip

def envelopeRecipient (data : Bytes) : Except Exn Uuid :=
  if data.length < headerSize then .error (.protocolError "envelope too short for header")
  else .ok (uuidAt data 18)

def envelopeMsgType (data : Bytes) : Except Exn ℤ :=
  if data.length < headerSize then .error (.protocolError "envelope too short for header")
  else .ok (unpackUInt (slice data 1 1))

end Secupload.Shared
