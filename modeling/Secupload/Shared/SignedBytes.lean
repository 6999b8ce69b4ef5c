import Secupload.Shared.Canonical

namespace Secupload.Shared

open Library

def Starts (enc : Encoder) (front : Bytes) : Prop := ∀ data, enc = .ok data → front <+: data

namespace Starts

variable {enc : Encoder} {front : Bytes}

lemma write (h : Starts enc front) (field : Except Exn Bytes) : Starts (enc.write field) front := by
  intro data hdata
  obtain ⟨v, w, hv, _, rfl⟩ := Encoder.write_eq_ok.mp hdata
  exact (h v hv).trans (List.prefix_append v w)

lemma u32 (h : Starts enc front) (v : ℤ) : Starts (enc.u32 v) front := h.write _

lemma u64 (h : Starts enc front) (v : ℤ) : Starts (enc.u64 v) front := h.write _

lemma i64 (h : Starts enc front) (v : ℤ) : Starts (enc.i64 v) front := h.write _

lemma bytes (h : Starts enc front) (b : Bytes) : Starts (enc.bytes b) front := (h.u32 _).write _

lemma uuid (h : Starts enc front) (u : Option Uuid) : Starts (enc.uuid u) front := by
  cases u <;> exact h.write _

lemma tag {b len : Bytes} (h : packUInt 4 b.length = .ok len) : Starts (Encoder.new.bytes b) len := by
  intro data hdata
  obtain ⟨len', hlen, rfl⟩ := Format.new_bytes.mp hdata
  obtain rfl := Except.ok.inj (h.symm.trans hlen)
  exact List.prefix_append _ _

end Starts

lemma buildAad_starts (sender recipient request : Uuid) (version timestamp : ℤ) (nonce : Bytes)
    (chunkIndex : ℤ) :
    Starts (buildAad sender recipient request version timestamp nonce chunkIndex) [0, 0, 0, 9] := by
  have htag : Starts (Encoder.new.bytes aadTag) [0, 0, 0, 9] := Starts.tag (by decide)
  have hparties := ((htag.uuid (some sender)).uuid (some recipient)).uuid (some request)
  exact (((hparties.u32 version).i64 timestamp).bytes nonce).u64 chunkIndex

lemma encodeSuccessorPayload_starts (identity : Uuid) (oldVersion newVersion : ℤ)
    (ed25519Public x25519Public metadata : Bytes) :
    Starts (encodeSuccessorPayload identity oldVersion newVersion ed25519Public x25519Public metadata)
      [0, 0, 0, 10] := by
  have htag : Starts (Encoder.new.bytes successorTag) [0, 0, 0, 10] := Starts.tag (by decide)
  have hversions := ((htag.uuid (some identity)).u32 oldVersion).u32 newVersion
  exact ((hversions.bytes ed25519Public).bytes x25519Public).bytes metadata

lemma signedBytes_starts {env : Envelope} (h : env.version = envelopeVersion) :
    Starts env.signedBytes [1] := by
  intro data hdata
  obtain ⟨header, hheader, hdata⟩ := except_bind_eq_ok.mp hdata
  obtain ⟨version, hversion, hheader⟩ := except_bind_eq_ok.mp hheader
  obtain ⟨msgType, _, hheader⟩ := except_bind_eq_ok.mp hheader
  obtain ⟨credential, _, hheader⟩ := except_bind_eq_ok.mp hheader
  obtain ⟨timestamp, _, hheader⟩ := except_bind_eq_ok.mp hheader
  obtain ⟨payloadLen, _, hheader⟩ := except_bind_eq_ok.mp hheader
  obtain rfl := Except.ok.inj hheader
  obtain rfl := Except.ok.inj hdata
  rw [h] at hversion
  obtain rfl : [1] = version := Except.ok.inj hversion
  simp only [List.append_assoc]
  exact List.prefix_append _ _

lemma Starts.disjoint {enc enc' : Encoder} {front front' data : Bytes} (h : Starts enc front)
    (h' : Starts enc' front') (henc : enc = .ok data) (henc' : enc' = .ok data) :
    front <+: front' ∨ front' <+: front :=
  List.prefix_or_prefix_of_prefix (h data henc) (h' data henc')

lemma signedBytes_injective {env env' : Envelope} {data : Bytes} (hversion : env.version = envelopeVersion)
    (hnonce : env.nonce.length = nonceSize) (hversion' : env'.version = envelopeVersion)
    (hnonce' : env'.nonce.length = nonceSize) (henv : env.signedBytes = .ok data)
    (henv' : env'.signedBytes = .ok data) : env' = { env with signature := env'.signature } := by
  let zeros : Bytes := List.replicate ed25519SignatureSize 0
  have hparse (e : Envelope) (hv : e.version = envelopeVersion) (hn : e.nonce.length = nonceSize)
      (he : e.signedBytes = .ok data) :
      parseEnvelope (data ++ zeros) = .ok { e with signature := zeros } := by
    have henc : Envelope.encode { e with signature := zeros } = .ok (data ++ zeros) := by
      have hsame : Envelope.signedBytes { e with signature := zeros } = .ok data := he
      rw [Envelope.encode, hsame]
      rfl
    have hformed : Envelope.WellFormed { e with signature := zeros } :=
      Envelope.wellFormed_of_encode hv hn henc
    exact Envelope.parse_encode hformed List.length_replicate henc
  have hsame := (hparse env hversion hnonce henv).symm.trans (hparse env' hversion' hnonce' henv')
  cases env
  cases env'
  simp_all

-- associated data is never decoded; a reader shows that it could be
def aadFormat : Format Exn UInt8 (((((((Unit × Uuid) × Uuid) × Uuid) × ℤ) × ℤ) × Bytes) × ℤ) :=
  (((((((Format.marker aadTag (.decodeError "not associated data")).seq Format.someUuid).seq
    Format.someUuid).seq Format.someUuid).seq Format.u32).seq Format.i64).seq Format.bytes).seq Format.u64

lemma aadFormat_write (sender recipient request : Uuid) (version timestamp : ℤ) (nonce : Bytes)
    (chunkIndex : ℤ) :
    aadFormat.write ((((((((), sender), recipient), request), version), timestamp), nonce), chunkIndex) =
      buildAad sender recipient request version timestamp nonce chunkIndex := by
  simp only [buildAad, Format.encoder_bytes, Format.encoder_uuid, Format.encoder_u32,
    Format.encoder_i64, Format.encoder_u64, Encoder.finish, Encoder.new_write]
  rfl

def Binds (P : Primitives) (ed25519Public signature : Bytes) : Prop :=
  ∀ m m', P.ed25519Verify ed25519Public m signature = true →
    P.ed25519Verify ed25519Public m' signature = true → m = m'

lemma Envelope.verify_eq_ok {P : Primitives} {env : Envelope} {ed25519Public : Bytes}
    (h : env.verify P ed25519Public = .ok ()) :
    ∃ data, env.signedBytes = .ok data ∧
      verifyEd25519 P ed25519Public data env.signature = .ok () := by
  obtain ⟨data, hdata, h⟩ := except_bind_eq_ok.mp h
  refine ⟨data, hdata, ?_⟩
  cases hverify : verifyEd25519 P ed25519Public data env.signature with
  | error exc =>
    rw [hverify] at h
    cases exc <;> cases h
  | ok _ => rfl

theorem signed_bytes_unambiguous :
    (∀ (env env' : Envelope) (data : Bytes),
      env.version = envelopeVersion → env.nonce.length = nonceSize →
      env'.version = envelopeVersion → env'.nonce.length = nonceSize →
      env.signedBytes = .ok data → env'.signedBytes = .ok data →
      env' = { env with signature := env'.signature }) ∧
    (∀ (u u' : Uuid) (v v' w w' : ℤ) (ed ed' x x' m m' data : Bytes),
      encodeSuccessorPayload u v w ed x m = .ok data →
      encodeSuccessorPayload u' v' w' ed' x' m' = .ok data →
      u = u' ∧ v = v' ∧ w = w' ∧ ed = ed' ∧ x = x' ∧ m = m') ∧
    (∀ (s s' r r' q q' : Uuid) (v v' t t' : ℤ) (n n' : Bytes) (i i' : ℤ) (data : Bytes),
      buildAad s r q v t n i = .ok data → buildAad s' r' q' v' t' n' i' = .ok data →
      s = s' ∧ r = r' ∧ q = q' ∧ v = v' ∧ t = t' ∧ n = n' ∧ i = i') ∧
    (∀ (env : Envelope) (u : Uuid) (v w : ℤ) (ed x m data : Bytes), env.version = envelopeVersion →
      env.signedBytes = .ok data → encodeSuccessorPayload u v w ed x m ≠ .ok data) ∧
    (∀ (env : Envelope) (s r q : Uuid) (v t : ℤ) (n : Bytes) (i : ℤ) (data : Bytes),
      env.version = envelopeVersion → env.signedBytes = .ok data → buildAad s r q v t n i ≠ .ok data) ∧
    (∀ (s r q u : Uuid) (v t : ℤ) (n : Bytes) (i v' w : ℤ) (ed x m data : Bytes),
      buildAad s r q v t n i = .ok data → encodeSuccessorPayload u v' w ed x m ≠ .ok data) ∧
    (∀ (P : Primitives) (env : Envelope) (pub : Bytes) (u : Uuid) (v w : ℤ) (ed x m payload : Bytes),
      env.version = envelopeVersion → Binds P pub env.signature →
      encodeSuccessorPayload u v w ed x m = .ok payload → env.verify P pub = .ok () →
      verifyEd25519 P pub payload env.signature ≠ .ok ()) := by
  refine ⟨?_, ?_, ?_, ?_, ?_, ?_, ?_⟩
  · intro env env' data hversion hnonce hversion' hnonce' henv henv'
    exact signedBytes_injective hversion hnonce hversion' hnonce' henv henv'
  · intro u u' v v' w w' ed ed' x x' m m' data h h'
    have hsame := SuccessorPayload.format.write_injective
      ((SuccessorPayload.write_format ⟨u, v, w, ed, x, m⟩).trans h)
      ((SuccessorPayload.write_format ⟨u', v', w', ed', x', m'⟩).trans h')
    simpa using hsame
  · intro s s' r r' q q' v v' t t' n n' i i' data h h'
    have hsame := aadFormat.write_injective ((aadFormat_write s r q v t n i).trans h)
      ((aadFormat_write s' r' q' v' t' n' i').trans h')
    simpa [and_assoc] using hsame
  · intro env u v w ed x m data hversion henv hpayload
    have hfronts := (signedBytes_starts hversion).disjoint (encodeSuccessorPayload_starts u v w ed x m)
      henv hpayload
    revert hfronts
    decide
  · intro env s r q v t n i data hversion henv haad
    have hfronts := (signedBytes_starts hversion).disjoint (buildAad_starts s r q v t n i) henv haad
    revert hfronts
    decide
  · intro s r q u v t n i v' w ed x m data haad hpayload
    have hfronts := (buildAad_starts s r q v t n i).disjoint
      (encodeSuccessorPayload_starts u v' w ed x m) haad hpayload
    revert hfronts
    decide
  · intro P env pub u v w ed x m payload hversion hbinds hpayload hverify hverify'
    obtain ⟨data, hdata, hsigned⟩ := Envelope.verify_eq_ok hverify
    obtain ⟨_, _, hvalid⟩ := verifyEd25519_eq_ok.mp hsigned
    obtain ⟨_, _, hvalid'⟩ := verifyEd25519_eq_ok.mp hverify'
    obtain rfl := hbinds data payload hvalid hvalid'
    have hfronts := (signedBytes_starts hversion).disjoint (encodeSuccessorPayload_starts u v w ed x m)
      hdata hpayload
    revert hfronts
    decide

-- only the one message that has been signed verifies
def signedOnly (m : Bytes) : Primitives :=
  { transparent with ed25519Verify := fun k m' s => decide (m' = m ∧ s = transparent.ed25519Sign k m) }

def signedEnvelope : Envelope :=
  let env : Envelope :=
    { msgType := MsgType.request.code, senderUuid := Uuid.nil, recipientUuid := Uuid.nil, requestId := Uuid.nil
      senderCredentialVersion := 1, timestamp := 1000, nonce := List.replicate 12 0, payload := [] }
  (env.sign transparent (demoKey 1)).toOption.getD env

def signedMessage : Bytes := signedEnvelope.signedBytes.toOption.getD []

def successorPayload : Bytes :=
  (encodeSuccessorPayload Uuid.nil 1 2 (demoKey 2) (demoKey 102) []).toOption.getD []

theorem envelope_not_authorization :
    signedEnvelope.verify (signedOnly signedMessage) (demoKey 1) = .ok () ∧
      verifyEd25519 (signedOnly signedMessage) (demoKey 1) successorPayload signedEnvelope.signature ≠ .ok () := by
  obtain ⟨_, _, _, _, _, _, h⟩ := signed_bytes_unambiguous
  have hverify : signedEnvelope.verify (signedOnly signedMessage) (demoKey 1) = .ok () := by decide +kernel
  have hbinds : Binds (signedOnly signedMessage) (demoKey 1) signedEnvelope.signature := fun m m' hm hm' =>
    (of_decide_eq_true hm).1.trans (of_decide_eq_true hm').1.symm
  exact ⟨hverify, h (signedOnly signedMessage) signedEnvelope (demoKey 1) Uuid.nil 1 2 (demoKey 2) (demoKey 102) []
    successorPayload (by decide +kernel) hbinds (by decide +kernel) hverify⟩

theorem signature_not_signed :
    ¬ ∀ (env env' : Envelope) (data : Bytes),
      env.version = envelopeVersion → env.nonce.length = nonceSize →
      env'.version = envelopeVersion → env'.nonce.length = nonceSize →
      env.signedBytes = .ok data → env'.signedBytes = .ok data → env = env' := by
  intro h
  let env : Envelope := ⟨1, Uuid.nil, Uuid.nil, Uuid.nil, 1, 0, List.replicate 12 0, [], 1, []⟩
  have hformed : env.WellFormed :=
    ⟨rfl, ⟨by decide, by decide⟩, ⟨by decide, by decide⟩, ⟨by decide, by decide⟩, rfl⟩
  obtain ⟨data, hdata, _⟩ := Envelope.signedBytes_ok hformed (by decide)
  have hsame := h env { env with signature := [0] } data rfl rfl rfl rfl hdata hdata
  exact absurd (congrArg Envelope.signature hsame) (by decide)

end Secupload.Shared
