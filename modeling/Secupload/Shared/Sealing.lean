import Secupload.Shared.Messages

namespace Secupload.Shared

open Library

variable (P : Primitives)

def sealEnvelope (base : Envelope) (ephemeral recipientX25519Public : Bytes) (recipientVersion : ℤ)
    (inner signer : Bytes) : Except Exn Envelope := do
  let aad ← base.aad 0
  let (ephemeralPublic, ciphertext) ←
    sealMessage P ephemeral recipientX25519Public base.nonce aad inner
  let payload ← wrapEncrypted { recipientVersion, ephemeralPublic, nonce := base.nonce, ciphertext }
  { base with payload }.sign P signer

def sealChunkEnvelope (base : Envelope) (ephemeral recipientX25519Public : Bytes)
    (recipientVersion : ℤ) (objectUuid : Uuid) (chunkIndex : ℤ) (data signer : Bytes) :
    Except Exn Envelope := do
  let aad ← base.aad chunkIndex
  let (ephemeralPublic, ciphertext) ←
    sealChunk P ephemeral recipientX25519Public objectUuid.bytes chunkIndex aad data
  let payload ← wrapEncryptedChunk
    { recipientVersion, objectUuid, chunkIndex, ephemeralPublic, ciphertext }
  { base with payload }.sign P signer

structure Arrives (base env : Envelope) (signer data : Bytes) : Prop where
  same : env = { base with payload := env.payload, signature := env.signature }
  encode : env.encode = .ok data
  parse : parseEnvelope data = .ok env
  verify : signer.length = 32 → env.verify P (P.ed25519Public signer) = .ok ()

section Sealing

variable {P} {base : Envelope} {ephemeral priv signer : Bytes} {recipientVersion : ℤ}

lemma Envelope.aad_same {env : Envelope}
    (h : env = { base with payload := env.payload, signature := env.signature }) (chunkIndex : ℤ) :
    env.aad chunkIndex = base.aad chunkIndex := by
  rw [h]
  rfl

lemma arrives_of_payload (hP : Lawful P) (hbase : base.WellFormed) (payload : Bytes)
    (hpayload : payload.length < 2 ^ 32) (signer : Bytes) :
    ∃ env data, { base with payload }.sign P signer = .ok env ∧ Arrives P base env signer data ∧
      env.payload = payload ∧ data.length = 142 + payload.length := by
  have hformed : Envelope.WellFormed { base with payload } :=
    ⟨hbase.version, hbase.msgType, hbase.credentialVersion, hbase.timestamp, hbase.nonce⟩
  obtain ⟨env, data, h⟩ := Envelope.sign_ok hP hformed hpayload signer
  have hpay : env.payload = payload := by rw [h.same]
  refine ⟨env, data, h.sign, ⟨?_, h.encode, h.parse, h.verify⟩, hpay, ?_⟩
  · rw [hpay]
    exact h.same
  · rw [h.length]
    simp only [headerSize, ed25519SignatureSize]
    omega

lemma sealEnvelope_ok (hP : Lawful P) (hbase : base.WellFormed) (he : P.x25519Loads ephemeral = true)
    (hp : P.x25519Loads priv = true) (hversion : 0 ≤ recipientVersion ∧ recipientVersion < 2 ^ 32)
    {inner : Bytes} (hinner : inner.length < 2 ^ 31) (signer : Bytes) :
    ∃ env data,
      sealEnvelope P base ephemeral (P.x25519Public priv) recipientVersion inner signer = .ok env ∧
      Arrives P base env signer data ∧ data.length = 218 + inner.length ∧
      openPayload P env priv = .ok inner := by
  obtain ⟨aad, haad⟩ := Envelope.aad_ok hbase (le_refl 0) (by decide)
  obtain ⟨ciphertext, hseal, hlen, hopen⟩ := hP.sealMessage he hp hbase.nonce aad inner
  obtain ⟨payload, hwrap, hpayload⟩ := wrapEncrypted_writes
    (p := ⟨recipientVersion, P.x25519Public ephemeral, base.nonce, ciphertext⟩) hversion
    (hP.x25519_length ephemeral he) hbase.nonce (by dsimp only; omega)
  dsimp only at hpayload
  obtain ⟨env, data, hsign, harrives, hsealed, hdata⟩ :=
    arrives_of_payload hP hbase payload (by omega) signer
  refine ⟨env, data, ?_, harrives, by omega, ?_⟩
  · rw [sealEnvelope, haad, except_ok_bind, hseal, except_ok_bind]
    dsimp only
    rw [hwrap]
    exact hsign
  · rw [openPayload, hsealed, unwrap_wrapEncrypted hwrap, except_ok_bind,
      Envelope.aad_same harrives.same, haad]
    exact hopen

lemma sealChunkEnvelope_ok (hP : Lawful P) (hbase : base.WellFormed)
    (he : P.x25519Loads ephemeral = true) (hp : P.x25519Loads priv = true)
    (hversion : 0 ≤ recipientVersion ∧ recipientVersion < 2 ^ 32) (objectUuid : Uuid)
    {chunkIndex : ℤ} (hindex : 0 ≤ chunkIndex ∧ chunkIndex < 2 ^ 64) {data : Bytes}
    (hdata : data.length < 2 ^ 31) (signer : Bytes) :
    ∃ env encoded aad p,
      sealChunkEnvelope P base ephemeral (P.x25519Public priv) recipientVersion objectUuid chunkIndex
        data signer = .ok env ∧
      Arrives P base env signer encoded ∧ encoded.length = 227 + data.length ∧
      unwrapEncryptedChunk env.payload = .ok p ∧ p.objectUuid = objectUuid ∧
      p.chunkIndex = chunkIndex ∧ env.aad chunkIndex = .ok aad ∧
      openChunk P priv objectUuid.bytes chunkIndex aad p.ephemeralPublic p.ciphertext = .ok data := by
  obtain ⟨aad, haad⟩ := Envelope.aad_ok hbase hindex.1 hindex.2
  obtain ⟨ciphertext, hseal, hlen, hopen⟩ := hP.sealChunk he hp hindex.1 (by omega) objectUuid.bytes
    aad data
  obtain ⟨payload, hwrap, hpayload⟩ := wrapEncryptedChunk_writes
    (p := ⟨recipientVersion, objectUuid, chunkIndex, P.x25519Public ephemeral, ciphertext⟩) hversion
    hindex (hP.x25519_length ephemeral he) (by dsimp only; omega)
  dsimp only at hpayload
  obtain ⟨env, encoded, hsign, harrives, hsealed, hencoded⟩ :=
    arrives_of_payload hP hbase payload (by omega) signer
  refine ⟨env, encoded, aad,
    ⟨recipientVersion, objectUuid, chunkIndex, P.x25519Public ephemeral, ciphertext⟩, ?_, harrives,
    by omega, ?_, rfl, rfl, ?_, hopen⟩
  · rw [sealChunkEnvelope, haad, except_ok_bind, hseal, except_ok_bind]
    dsimp only
    rw [hwrap]
    exact hsign
  · rw [hsealed, unwrap_wrapEncryptedChunk hwrap]
  · rw [Envelope.aad_same harrives.same, haad]

lemma parse_signed (hP : Lawful P) (hversion : base.version = envelopeVersion)
    (hnonce : base.nonce.length = nonceSize) {payload data : Bytes} {env : Envelope}
    (hsign : { base with payload }.sign P signer = .ok env) (henc : env.encode = .ok data) :
    env = { base with payload := env.payload, signature := env.signature } ∧
      env.payload = payload ∧ parseEnvelope data = .ok env := by
  obtain ⟨body, _, hsigned⟩ := except_bind_eq_ok.mp hsign
  obtain rfl := Except.ok.inj hsigned
  have hformed : Envelope.WellFormed
      { base with payload, signature := signEd25519 P signer body } :=
    Envelope.wellFormed_of_encode hversion hnonce henc
  exact ⟨rfl, rfl, Envelope.parse_encode hformed (hP.signature_length _ _) henc⟩

lemma sealEnvelope_parse (hP : Lawful P) (hversion : base.version = envelopeVersion)
    (hnonce : base.nonce.length = nonceSize) {recipientX25519Public inner data : Bytes}
    {env : Envelope}
    (hseal : sealEnvelope P base ephemeral recipientX25519Public recipientVersion inner signer =
      .ok env) (henc : env.encode = .ok data) :
    env = { base with payload := env.payload, signature := env.signature } ∧
      parseEnvelope data = .ok env := by
  obtain ⟨aad, haad, hseal⟩ := except_bind_eq_ok.mp hseal
  obtain ⟨sealed, hsealed, hseal⟩ := except_bind_eq_ok.mp hseal
  obtain ⟨payload, hwrap, hsign⟩ := except_bind_eq_ok.mp hseal
  obtain ⟨hsame, _, hparse⟩ := parse_signed hP hversion hnonce hsign henc
  exact ⟨hsame, hparse⟩

lemma sealEnvelope_length (hP : Lawful P) (hnonce : base.nonce.length = nonceSize)
    (he : P.x25519Loads ephemeral = true) {recipientX25519Public inner data : Bytes} {env : Envelope}
    (hseal : sealEnvelope P base ephemeral recipientX25519Public recipientVersion inner signer =
      .ok env) (henc : env.encode = .ok data) : data.length = 218 + inner.length := by
  obtain ⟨aad, haad, hseal⟩ := except_bind_eq_ok.mp hseal
  obtain ⟨sealed, hsealed, hseal⟩ := except_bind_eq_ok.mp hseal
  obtain ⟨payload, hwrap, hsign⟩ := except_bind_eq_ok.mp hseal
  obtain ⟨shared, _, rfl⟩ := sealMessage_eq_ok hsealed
  obtain ⟨body, _, hsigned⟩ := except_bind_eq_ok.mp hsign
  obtain rfl := Except.ok.inj hsigned
  have hpayload := wrapEncrypted_length hwrap
  dsimp only at hpayload
  rw [hP.x25519_length _ he, hP.ciphertext_length, hnonce] at hpayload
  have hsignature : (signEd25519 P signer body).length = ed25519SignatureSize := hP.signature_length _ _
  rw [Envelope.encode_length henc, hsignature, hpayload, headerSize, ed25519SignatureSize, nonceSize,
    aesgcmNonceSize]
  omega

lemma sealEnvelope_open (hP : Lawful P) (hversion : base.version = envelopeVersion)
    (hnonce : base.nonce.length = nonceSize) (he : P.x25519Loads ephemeral = true)
    (hp : P.x25519Loads priv = true) {inner data : Bytes} {env : Envelope}
    (hseal : sealEnvelope P base ephemeral (P.x25519Public priv) recipientVersion inner signer = .ok env)
    (henc : env.encode = .ok data) : openPayload P env priv = .ok inner := by
  obtain ⟨aad, haad, hseal⟩ := except_bind_eq_ok.mp hseal
  obtain ⟨sealed, hsealed, hseal⟩ := except_bind_eq_ok.mp hseal
  obtain ⟨payload, hwrap, hsign⟩ := except_bind_eq_ok.mp hseal
  obtain ⟨hsame, hpayload, _⟩ := parse_signed hP hversion hnonce hsign henc
  obtain ⟨shared, hthere, rfl⟩ := sealMessage_eq_ok hsealed
  obtain ⟨shared', hthere', hback⟩ := hP.exchange he hp
  obtain rfl := Except.ok.inj (hthere.symm.trans hthere')
  rw [openPayload, hpayload, unwrap_wrapEncrypted hwrap, except_ok_bind, Envelope.aad_same hsame, haad]
  exact openMessage_eq_ok.mpr ⟨shared, hback, hP.decrypts _ _ _ _⟩

lemma sealEnvelope_open_only (hP : Lawful P) (hcipher : Conclusive P)
    (hversion : base.version = envelopeVersion) (hnonce : base.nonce.length = nonceSize)
    {recipientX25519Public inner data : Bytes} {env : Envelope}
    (hseal : sealEnvelope P base ephemeral recipientX25519Public recipientVersion inner signer =
      .ok env) (henc : env.encode = .ok data) {m : Bytes} (hopen : openPayload P env priv = .ok m) :
    m = inner := by
  obtain ⟨aad, haad, hseal⟩ := except_bind_eq_ok.mp hseal
  obtain ⟨sealed, hsealed, hseal⟩ := except_bind_eq_ok.mp hseal
  obtain ⟨payload, hwrap, hsign⟩ := except_bind_eq_ok.mp hseal
  obtain ⟨hsame, hpayload, _⟩ := parse_signed hP hversion hnonce hsign henc
  obtain ⟨shared, _, rfl⟩ := sealMessage_eq_ok hsealed
  rw [openPayload, hpayload, unwrap_wrapEncrypted hwrap, except_ok_bind, Envelope.aad_same hsame,
    haad] at hopen
  obtain ⟨_, _, hdecrypt⟩ := openMessage_eq_ok.mp hopen
  exact hcipher _ _ _ _ _ _ hdecrypt

lemma sealChunkEnvelope_parse (hP : Lawful P) (hversion : base.version = envelopeVersion)
    (hnonce : base.nonce.length = nonceSize) {recipientX25519Public data encoded : Bytes}
    {objectUuid : Uuid} {chunkIndex : ℤ} {env : Envelope}
    (hseal : sealChunkEnvelope P base ephemeral recipientX25519Public recipientVersion objectUuid
      chunkIndex data signer = .ok env) (henc : env.encode = .ok encoded) :
    env = { base with payload := env.payload, signature := env.signature } ∧
      parseEnvelope encoded = .ok env ∧ ∃ p, wrapEncryptedChunk p = .ok env.payload ∧
        p.ephemeralPublic = P.x25519Public ephemeral ∧
        ∃ key nonce aad, p.ciphertext = P.aesgcmEncrypt key nonce data aad := by
  obtain ⟨aad, _, hseal⟩ := except_bind_eq_ok.mp hseal
  obtain ⟨sealed, hsealed, hseal⟩ := except_bind_eq_ok.mp hseal
  obtain ⟨payload, hwrap, hsign⟩ := except_bind_eq_ok.mp hseal
  obtain ⟨hsame, hpayload, hparse⟩ := parse_signed hP hversion hnonce hsign henc
  obtain ⟨_, _, _, _, rfl⟩ := sealChunk_eq_ok hsealed
  exact ⟨hsame, hparse, _, hpayload ▸ hwrap, rfl, _, _, _, rfl⟩

end Sealing

end Secupload.Shared
