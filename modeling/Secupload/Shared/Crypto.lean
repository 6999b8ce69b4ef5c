import Secupload.Shared.Codec

/-! Cryptographic primitives. The functions of the `cryptography` package are the fields of
`Primitives`; private keys are drawn by the caller and passed in. -/

namespace Secupload.Shared

open Library

structure Primitives where
  ed25519Public : Bytes → Bytes
  ed25519Loads : Bytes → Bool
  ed25519Sign : Bytes → Bytes → Bytes
  ed25519Verify : Bytes → Bytes → Bytes → Bool
  x25519Public : Bytes → Bytes
  x25519Loads : Bytes → Bool
  x25519Exchange : Bytes → Bytes → Option Bytes
  hkdf : Bytes → Bytes → Bytes → Bytes
  aesgcmEncrypt : Bytes → Bytes → Bytes → Bytes → Bytes
  aesgcmDecrypt : Bytes → Bytes → Bytes → Bytes → Option Bytes
  sha256 : Bytes → Bytes

def ed25519SignatureSize : ℕ := 64
def aesgcmNonceSize : ℕ := 12

def appSalt : Bytes := utf8 "sih-app-enc-v1"
def objectInfoPrefix : Bytes := utf8 "sih-object-key-v1" ++ [0]
def messageInfo : Bytes := utf8 "sih-message-key-v1"

variable (P : Primitives)

def generateEd25519Keypair (privateKey : Bytes) : Bytes × Bytes :=
  (privateKey, P.ed25519Public privateKey)

def generateX25519Keypair (privateKey : Bytes) : Bytes × Bytes :=
  (privateKey, P.x25519Public privateKey)

def signEd25519 (privateKey data : Bytes) : Bytes := P.ed25519Sign privateKey data

def verifyEd25519 (publicKey data signature : Bytes) : Except Exn Unit :=
  if signature.length ≠ ed25519SignatureSize then
    .error (.signatureError "invalid signature length")
  else if P.ed25519Loads publicKey = false then
    .error (.cryptoError "invalid Ed25519 public key")
  else if P.ed25519Verify publicKey data signature = false then
    .error (.signatureError "Ed25519 signature verification failed")
  else .ok ()

def x25519SharedSecret (privateKey peerPublicKey : Bytes) : Except Exn Bytes :=
  if P.x25519Loads privateKey = false ∨ P.x25519Loads peerPublicKey = false then
    .error (.cryptoError "invalid X25519 key material")
  else match P.x25519Exchange privateKey peerPublicKey with
    | none => .error .valueError
    | some shared => .ok shared

def objectKeyFromShared (sharedSecret objectUuid : Bytes) : Bytes :=
  P.hkdf appSalt sharedSecret (objectInfoPrefix ++ objectUuid)

def messageKeyFromShared (sharedSecret : Bytes) : Bytes :=
  P.hkdf appSalt sharedSecret messageInfo

-- `ephemeral.exchange(X25519PublicKey.from_public_bytes(..))`: both steps raise ValueError
def ephemeralExchange (ephemeral recipientX25519Public : Bytes) : Except Exn Bytes :=
  if P.x25519Loads recipientX25519Public = false then .error .valueError
  else match P.x25519Exchange ephemeral recipientX25519Public with
    | none => .error .valueError
    | some shared => .ok shared

def sealMessage (ephemeral recipientX25519Public nonce aad plaintext : Bytes) :
    Except Exn (Bytes × Bytes) :=
  if nonce.length ≠ aesgcmNonceSize then .error (.cryptoError "invalid AES-GCM nonce size")
  else do
    let shared ← ephemeralExchange P ephemeral recipientX25519Public
    let key := messageKeyFromShared P shared
    return (P.x25519Public ephemeral, P.aesgcmEncrypt key nonce plaintext aad)

def asAuthenticationError {α : Type} : Except Exn α → Except Exn α
  | .ok a => .ok a
  | .error (.cryptoError _) => .error (.authenticationError "decryption failed")
  | .error (.signatureError _) => .error (.authenticationError "decryption failed")
  | .error .valueError => .error (.authenticationError "AES-GCM authentication failure")
  | .error e => .error e

def openMessage (recipientX25519Private ephemeralPublic nonce aad ciphertext : Bytes) :
    Except Exn Bytes :=
  asAuthenticationError do
    let shared ← x25519SharedSecret P recipientX25519Private ephemeralPublic
    let key := messageKeyFromShared P shared
    match P.aesgcmDecrypt key nonce ciphertext aad with
    | none => .error .valueError
    | some plaintext => return plaintext

def chunkNonce (chunkIndex : ℤ) : Except Exn Bytes :=
  if chunkIndex < 0 ∨ 2 ^ 96 ≤ chunkIndex then .error (.cryptoError "chunk index out of range")
  else .ok (beBytes aesgcmNonceSize chunkIndex.toNat)

def sealChunk (ephemeral recipientX25519Public objectUuid : Bytes) (chunkIndex : ℤ)
    (aad chunk : Bytes) : Except Exn (Bytes × Bytes) := do
  let shared ← ephemeralExchange P ephemeral recipientX25519Public
  let key := objectKeyFromShared P shared objectUuid
  let nonce ← chunkNonce chunkIndex
  return (P.x25519Public ephemeral, P.aesgcmEncrypt key nonce chunk aad)

def openChunk (recipientX25519Private objectUuid : Bytes) (chunkIndex : ℤ)
    (aad ephemeralPublic ciphertext : Bytes) : Except Exn Bytes :=
  asAuthenticationError do
    let shared ← x25519SharedSecret P recipientX25519Private ephemeralPublic
    let key := objectKeyFromShared P shared objectUuid
    let nonce ← chunkNonce chunkIndex
    match P.aesgcmDecrypt key nonce ciphertext aad with
    | none => .error .valueError
    | some plaintext => return plaintext

structure SealedBox (P : Primitives) : Prop where
  message : ∀ ephemeral priv nonce aad m r, P.x25519Loads ephemeral = true →
    P.x25519Loads priv = true →
    sealMessage P ephemeral (P.x25519Public priv) nonce aad m = .ok r →
    openMessage P priv r.1 nonce aad r.2 = .ok m
  message_other : ∀ ephemeral priv priv' nonce aad m r m', P.x25519Loads ephemeral = true →
    P.x25519Public priv' ≠ P.x25519Public priv →
    sealMessage P ephemeral (P.x25519Public priv) nonce aad m = .ok r →
    openMessage P priv' r.1 nonce aad r.2 ≠ .ok m'
  chunk : ∀ ephemeral priv object index aad m r, P.x25519Loads ephemeral = true →
    P.x25519Loads priv = true →
    sealChunk P ephemeral (P.x25519Public priv) object index aad m = .ok r →
    openChunk P priv object index aad r.1 r.2 = .ok m
  chunk_other : ∀ ephemeral priv priv' object index aad m r m', P.x25519Loads ephemeral = true →
    P.x25519Public priv' ≠ P.x25519Public priv →
    sealChunk P ephemeral (P.x25519Public priv) object index aad m = .ok r →
    openChunk P priv' object index aad r.1 r.2 ≠ .ok m'

-- what the `cryptography` package documents of keys, signatures and ciphertexts
structure Lawful (P : Primitives) : Prop where
  decrypts : ∀ key nonce m aad, P.aesgcmDecrypt key nonce (P.aesgcmEncrypt key nonce m aad) aad = some m
  ciphertext_length : ∀ key nonce m aad, (P.aesgcmEncrypt key nonce m aad).length = m.length + 16
  x25519_loads : ∀ k, P.x25519Loads k = true → P.x25519Loads (P.x25519Public k) = true
  x25519_length : ∀ k, P.x25519Loads k = true → (P.x25519Public k).length = 32
  x25519_agrees : ∀ k k', P.x25519Loads k = true → P.x25519Loads k' = true →
    ∃ shared, P.x25519Exchange k (P.x25519Public k') = some shared ∧
      P.x25519Exchange k' (P.x25519Public k) = some shared
  ed25519_loads : ∀ k, k.length = 32 → P.ed25519Loads (P.ed25519Public k) = true
  signature_length : ∀ k m, (P.ed25519Sign k m).length = ed25519SignatureSize
  verifies : ∀ k m, k.length = 32 →
    P.ed25519Verify (P.ed25519Public k) m (P.ed25519Sign k m) = true

def Conclusive (P : Primitives) : Prop := ∀ key key' nonce m m' aad,
  P.aesgcmDecrypt key' nonce (P.aesgcmEncrypt key nonce m aad) aad = some m' → m' = m

section Outcomes

lemma verifyEd25519_eq_ok {P : Primitives} {publicKey data signature : Bytes} :
    verifyEd25519 P publicKey data signature = .ok () ↔ signature.length = ed25519SignatureSize ∧
      P.ed25519Loads publicKey = true ∧ P.ed25519Verify publicKey data signature = true := by
  rw [verifyEd25519]
  split_ifs with hlength hloads hverify
  · exact iff_of_false nofun fun h => hlength h.1
  · exact iff_of_false nofun fun h => by simp [hloads] at h
  · exact iff_of_false nofun fun h => by simp [hverify] at h
  · exact iff_of_true rfl ⟨not_not.mp hlength, by simpa using hloads, by simpa using hverify⟩

variable {P} {priv pub ephemeral nonce aad m object ciphertext : Bytes} {index : ℤ} {r : Bytes × Bytes}

lemma sealMessage_eq_ok (h : sealMessage P ephemeral pub nonce aad m = .ok r) :
    ∃ shared, ephemeralExchange P ephemeral pub = .ok shared ∧
      r = (P.x25519Public ephemeral,
        P.aesgcmEncrypt (messageKeyFromShared P shared) nonce m aad) := by
  rw [sealMessage] at h
  split at h
  · cases h
  · obtain ⟨shared, hs, hr⟩ := except_bind_eq_ok.mp h
    exact ⟨shared, hs, (Except.ok.inj hr).symm⟩

lemma sealChunk_eq_ok (h : sealChunk P ephemeral pub object index aad m = .ok r) :
    ∃ shared nonce, ephemeralExchange P ephemeral pub = .ok shared ∧
      chunkNonce index = .ok nonce ∧ r = (P.x25519Public ephemeral,
        P.aesgcmEncrypt (objectKeyFromShared P shared object) nonce m aad) := by
  obtain ⟨shared, hs, h⟩ := except_bind_eq_ok.mp h
  obtain ⟨nonce, hn, hr⟩ := except_bind_eq_ok.mp h
  exact ⟨shared, nonce, hs, hn, (Except.ok.inj hr).symm⟩

lemma asAuthenticationError_eq_ok {α : Type} {x : Except Exn α} {a : α} :
    asAuthenticationError x = .ok a ↔ x = .ok a := by
  cases x with
  | ok b => rfl
  | error exc => cases exc <;> simp [asAuthenticationError]

lemma decrypted_eq_ok {plaintext : Option Bytes} :
    (match plaintext with
      | none => .error .valueError
      | some plaintext => return plaintext : Except Exn Bytes) = .ok m ↔ plaintext = some m := by
  cases plaintext with
  | none => simp
  | some plaintext => simp [pure, Except.pure]

lemma openMessage_eq_ok : openMessage P priv ephemeral nonce aad ciphertext = .ok m ↔
    ∃ shared, x25519SharedSecret P priv ephemeral = .ok shared ∧
      P.aesgcmDecrypt (messageKeyFromShared P shared) nonce ciphertext aad = some m := by
  simp only [openMessage, asAuthenticationError_eq_ok, except_bind_eq_ok, decrypted_eq_ok]

lemma openChunk_eq_ok : openChunk P priv object index aad ephemeral ciphertext = .ok m ↔
    ∃ shared nonce, x25519SharedSecret P priv ephemeral = .ok shared ∧
      chunkNonce index = .ok nonce ∧
      P.aesgcmDecrypt (objectKeyFromShared P shared object) nonce ciphertext aad = some m := by
  simp only [openChunk, asAuthenticationError_eq_ok, except_bind_eq_ok, decrypted_eq_ok,
    exists_and_left]

lemma Lawful.exchange (hP : Lawful P) (he : P.x25519Loads ephemeral = true)
    (hp : P.x25519Loads priv = true) : ∃ shared,
      ephemeralExchange P ephemeral (P.x25519Public priv) = .ok shared ∧
      x25519SharedSecret P priv (P.x25519Public ephemeral) = .ok shared := by
  obtain ⟨shared, hthere, hback⟩ := hP.x25519_agrees ephemeral priv he hp
  refine ⟨shared, ?_, ?_⟩
  · rw [ephemeralExchange, if_neg (by rw [hP.x25519_loads priv hp]; simp), hthere]
  · rw [x25519SharedSecret, if_neg (by rw [hP.x25519_loads ephemeral he, hp]; simp), hback]

lemma Lawful.sealMessage (hP : Lawful P) (he : P.x25519Loads ephemeral = true)
    (hp : P.x25519Loads priv = true) (hnonce : nonce.length = aesgcmNonceSize) (aad m : Bytes) :
    ∃ ciphertext, sealMessage P ephemeral (P.x25519Public priv) nonce aad m =
        .ok (P.x25519Public ephemeral, ciphertext) ∧ ciphertext.length = m.length + 16 ∧
      openMessage P priv (P.x25519Public ephemeral) nonce aad ciphertext = .ok m := by
  obtain ⟨shared, hthere, hback⟩ := hP.exchange he hp
  refine ⟨P.aesgcmEncrypt (messageKeyFromShared P shared) nonce m aad, ?_,
    hP.ciphertext_length _ _ _ _, openMessage_eq_ok.mpr ⟨shared, hback, hP.decrypts _ _ _ _⟩⟩
  rw [Shared.sealMessage, if_neg (not_not.mpr hnonce), hthere]
  rfl

lemma chunkNonce_ok (h : 0 ≤ index) (hlt : index < 2 ^ 96) :
    chunkNonce index = .ok (beBytes aesgcmNonceSize index.toNat) :=
  if_neg (by omega)

lemma Lawful.sealChunk (hP : Lawful P) (he : P.x25519Loads ephemeral = true)
    (hp : P.x25519Loads priv = true) (hindex : 0 ≤ index) (hlt : index < 2 ^ 96)
    (object aad m : Bytes) :
    ∃ ciphertext, sealChunk P ephemeral (P.x25519Public priv) object index aad m =
        .ok (P.x25519Public ephemeral, ciphertext) ∧ ciphertext.length = m.length + 16 ∧
      openChunk P priv object index aad (P.x25519Public ephemeral) ciphertext = .ok m := by
  obtain ⟨shared, hthere, hback⟩ := hP.exchange he hp
  have hnonce := chunkNonce_ok hindex hlt
  refine ⟨P.aesgcmEncrypt (objectKeyFromShared P shared object) _ m aad, ?_,
    hP.ciphertext_length _ _ _ _, openChunk_eq_ok.mpr ⟨shared, _, hback, hnonce, hP.decrypts _ _ _ _⟩⟩
  rw [Shared.sealChunk, hthere, hnonce]
  rfl

lemma Lawful.verify (hP : Lawful P) (hp : priv.length = 32) (m : Bytes) :
    verifyEd25519 P (P.ed25519Public priv) m (signEd25519 P priv m) = .ok () := by
  rw [verifyEd25519, signEd25519, if_neg (not_not.mpr (hP.signature_length priv m)),
    if_neg (by rw [hP.ed25519_loads priv hp]; simp), if_neg (by rw [hP.verifies priv m hp]; simp)]

end Outcomes

-- keys are their own public parts, a ciphertext shows its key, and a digest its message
def transparent : Primitives where
  ed25519Public k := k
  ed25519Loads k := decide (k.length = 32)
  ed25519Sign k m := k ++ beBytes 32 (beValue m)
  ed25519Verify k m s := decide (s = k ++ beBytes 32 (beValue m))
  x25519Public k := k
  x25519Loads k := decide (k.length = 32)
  x25519Exchange k k' := some (List.zipWith (· ^^^ ·) k k')
  hkdf _ secret _ := secret
  aesgcmEncrypt key nonce m aad := key ++ nonce ++ aad ++ m
  aesgcmDecrypt key nonce c aad :=
    if key ++ nonce ++ aad <+: c then some (c.drop (key ++ nonce ++ aad).length) else none
  sha256 m := beBytes 32 (beValue m)

def demoKey (n : UInt8) : Bytes := List.replicate 32 n

section Transparent

lemma xor_cancel {a b c : Bytes} (ha : a.length = c.length) (hb : b.length = c.length)
    (h : List.zipWith (· ^^^ ·) c a = List.zipWith (· ^^^ ·) c b) : a = b := by
  induction c generalizing a b with
  | nil => rw [List.eq_nil_of_length_eq_zero ha, List.eq_nil_of_length_eq_zero hb]
  | cons z c ih =>
    obtain ⟨x, a, rfl⟩ := List.exists_cons_of_length_eq_add_one ha
    obtain ⟨y, b, rfl⟩ := List.exists_cons_of_length_eq_add_one hb
    simp only [List.zipWith_cons_cons, List.cons.injEq] at h
    rw [(UInt8.xor_right_inj z).mp h.1, ih (by simpa using ha) (by simpa using hb) h.2]

lemma transparent_open {key nonce aad m : Bytes} :
    transparent.aesgcmDecrypt key nonce (transparent.aesgcmEncrypt key nonce m aad) aad = some m := by
  simp [transparent]

lemma transparent_open_other {key key' nonce aad m : Bytes} (hlen : key'.length = key.length)
    (hne : key' ≠ key) :
    transparent.aesgcmDecrypt key' nonce (transparent.aesgcmEncrypt key nonce m aad) aad = none := by
  simp only [transparent]
  rw [if_neg]
  rintro ⟨rest, he⟩
  rw [List.append_assoc, List.append_assoc, List.append_assoc, List.append_assoc] at he
  exact hne (List.append_inj_left he hlen)

lemma transparent_loads {k : Bytes} : transparent.x25519Loads k = true ↔ k.length = 32 := by
  simp [transparent]

lemma transparent_shared {ephemeral pub shared : Bytes} (he : ephemeral.length = 32)
    (h : ephemeralExchange transparent ephemeral pub = .ok shared) :
    pub.length = 32 ∧ shared = List.zipWith (· ^^^ ·) ephemeral pub ∧ shared.length = 32 := by
  rw [ephemeralExchange] at h
  split at h
  · cases h
  · rename_i hloads
    have hpub : pub.length = 32 := by
      rw [← transparent_loads]
      simpa using hloads
    obtain rfl := Except.ok.inj h
    exact ⟨hpub, rfl, by simp [he, hpub]⟩

lemma transparent_exchange {priv ephemeral : Bytes} (hp : priv.length = 32)
    (he : ephemeral.length = 32) : x25519SharedSecret transparent priv ephemeral =
      .ok (List.zipWith (· ^^^ ·) ephemeral priv) := by
  rw [x25519SharedSecret]
  rw [if_neg (by simp [transparent, hp, he])]
  simp only [transparent]
  rw [List.zipWith_comm]
  simp only [UInt8.xor_comm]

lemma transparent_decrypts {ephemeral priv shared : Bytes} (nonce aad m : Bytes)
    (he : ephemeral.length = 32) (hp : priv.length = 32)
    (hs : ephemeralExchange transparent ephemeral priv = .ok shared) :
    ∃ key, x25519SharedSecret transparent priv ephemeral = .ok key ∧
      transparent.aesgcmDecrypt key nonce (transparent.aesgcmEncrypt shared nonce m aad) aad =
        some m := by
  obtain ⟨_, rfl, _⟩ := transparent_shared he hs
  exact ⟨_, transparent_exchange hp he, transparent_open⟩

lemma transparent_refuses {ephemeral priv priv' shared key : Bytes} (nonce aad m : Bytes)
    (he : ephemeral.length = 32) (hne : priv' ≠ priv)
    (hs : ephemeralExchange transparent ephemeral priv = .ok shared)
    (hkey : x25519SharedSecret transparent priv' ephemeral = .ok key) :
    transparent.aesgcmDecrypt key nonce (transparent.aesgcmEncrypt shared nonce m aad) aad = none := by
  obtain ⟨hp, rfl, _⟩ := transparent_shared he hs
  have hp' : priv'.length = 32 := by
    by_contra hlength
    rw [x25519SharedSecret] at hkey
    rw [if_pos (Or.inl (by simpa [transparent] using hlength))] at hkey
    cases hkey
  obtain rfl := Except.ok.inj (hkey.symm.trans (transparent_exchange hp' he))
  apply transparent_open_other (by simp [he, hp, hp'])
  intro hsame
  exact hne (xor_cancel (by rw [hp', he]) (by rw [hp, he]) hsame)

lemma sealedBox_transparent : SealedBox transparent where
  message := by
    intro ephemeral priv nonce aad m r he hp h
    obtain ⟨shared, hs, rfl⟩ := sealMessage_eq_ok h
    exact openMessage_eq_ok.mpr
      (transparent_decrypts nonce aad m (transparent_loads.mp he) (transparent_loads.mp hp) hs)
  message_other := by
    intro ephemeral priv priv' nonce aad m r m' he hne h hok
    obtain ⟨shared, hs, rfl⟩ := sealMessage_eq_ok h
    obtain ⟨key, hkey, hopen⟩ := openMessage_eq_ok.mp hok
    have hclosed := transparent_refuses nonce aad m (transparent_loads.mp he) hne hs hkey
    cases hopen.symm.trans hclosed
  chunk := by
    intro ephemeral priv object index aad m r he hp h
    obtain ⟨shared, nonce, hs, hnonce, rfl⟩ := sealChunk_eq_ok h
    obtain ⟨key, hkey, hopen⟩ := transparent_decrypts nonce aad m (transparent_loads.mp he)
      (transparent_loads.mp hp) hs
    exact openChunk_eq_ok.mpr ⟨key, nonce, hkey, hnonce, hopen⟩
  chunk_other := by
    intro ephemeral priv priv' object index aad m r m' he hne h hok
    obtain ⟨shared, nonce, hs, hnonce, rfl⟩ := sealChunk_eq_ok h
    obtain ⟨key, nonce', hkey, hnonce', hopen⟩ := openChunk_eq_ok.mp hok
    obtain rfl := Except.ok.inj (hnonce.symm.trans hnonce')
    have hclosed := transparent_refuses nonce aad m (transparent_loads.mp he) hne hs hkey
    cases hopen.symm.trans hclosed

end Transparent

-- keys are their own public parts, and a ciphertext is its message and a tag of sixteen bytes
def tagged : Primitives where
  ed25519Public k := k
  ed25519Loads k := decide (k.length = 32)
  ed25519Sign k m := beBytes 32 (beValue k) ++ beBytes 32 (beValue m)
  ed25519Verify k m s := decide (s = beBytes 32 (beValue k) ++ beBytes 32 (beValue m))
  x25519Public k := k
  x25519Loads k := decide (k.length = 32)
  x25519Exchange k k' := some (List.zipWith (· ^^^ ·) k k')
  hkdf _ secret _ := secret
  aesgcmEncrypt key nonce m aad := m ++ beBytes 16 (beValue (key ++ nonce ++ aad))
  aesgcmDecrypt key nonce c aad :=
    if c.drop (c.length - 16) = beBytes 16 (beValue (key ++ nonce ++ aad)) then
      some (c.take (c.length - 16))
    else none
  sha256 m := beBytes 32 (beValue m)

lemma lawful_tagged : Lawful tagged where
  decrypts := by
    intro key nonce m aad
    simp [tagged, beBytes_length]
  ciphertext_length := by simp [tagged, beBytes_length]
  x25519_loads := by simp [tagged]
  x25519_length := by simp [tagged]
  x25519_agrees := by
    intro k k' _ _
    refine ⟨_, rfl, ?_⟩
    simp only [tagged]
    rw [List.zipWith_comm]
    simp only [UInt8.xor_comm]
  ed25519_loads := by simp [tagged]
  signature_length := by simp [tagged, beBytes_length, ed25519SignatureSize]
  verifies := by simp [tagged]

lemma sha256_tagged (content : Bytes) : (tagged.sha256 content).length = 32 := beBytes_length _ _

lemma conclusive_tagged : Conclusive tagged := by
  intro key key' nonce m m' aad h
  simp only [tagged] at h
  split_ifs at h
  simpa [beBytes_length] using h.symm

end Secupload.Shared
