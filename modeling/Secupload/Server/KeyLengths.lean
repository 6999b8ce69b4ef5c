import Secupload.Server.Auth
import Secupload.Server.RegistryRuns
import Secupload.Shared.Canonical

namespace Secupload.Shared

open Library

structure CredentialPublic.Formed (c : CredentialPublic) : Prop where
  ed25519 : c.ed25519Public.length = 32
  x25519 : c.x25519Public.length = 32

lemma CredentialPublic.Formed.evolves {c d : CredentialPublic} (h : c.Formed) (hcd : c.Evolves d) :
    d.Formed := by
  refine ⟨?_, ?_⟩
  · rw [hcd.ed25519]
    exact h.ed25519
  · rw [hcd.x25519]
    exact h.x25519

section Verify

variable {P : Primitives} {key : Bytes}

lemma verifyEd25519_loaded (data signature : Bytes) (hloads : P.ed25519Loads key = true) :
    verifyEd25519 P key data signature = .ok () ∨
      ∃ message, verifyEd25519 P key data signature = .error (.signatureError message) := by
  rw [verifyEd25519]
  split_ifs with hlength hrefuses hverify
  · exact Or.inr ⟨_, rfl⟩
  · rw [hloads] at hrefuses
    cases hrefuses
  · exact Or.inr ⟨_, rfl⟩
  · exact Or.inl rfl

lemma Envelope.verify_loaded {env : Envelope} (hsigned : ∃ data, env.signedBytes = .ok data)
    (hloads : P.ed25519Loads key = true) :
    env.verify P key = .ok () ∨ ∃ message, env.verify P key = .error (.protocolError message) := by
  obtain ⟨data, hdata⟩ := hsigned
  rw [verify, hdata, except_ok_bind]
  rcases verifyEd25519_loaded data env.signature hloads with h | ⟨message, h⟩
  · rw [h]
    exact Or.inl rfl
  · rw [h]
    exact Or.inr ⟨_, rfl⟩

lemma parsed_signedBytes {env : Envelope} {body : Bytes} (h : parseEnvelope body = .ok env) :
    ∃ data, env.signedBytes = .ok data := by
  obtain ⟨hshaped, rfl⟩ := parseEnvelope_eq_ok.mp h
  obtain ⟨data, hdata, _⟩ := except_bind_eq_ok.mp (encode_envelopeFields hshaped)
  exact ⟨data, hdata⟩

end Verify

lemma RotationEngine.submitSuccessor_loaded {P : Primitives} {e : RotationEngine}
    (newCred : CredentialPublic) (signature : Bytes) {metadata : Bytes} (now : ℤ)
    (hencodes : ∀ signer, e.active = some signer → ∃ payload, encodeSuccessorPayload signer.identityUuid
      signer.version newCred.version newCred.ed25519Public newCred.x25519Public metadata = .ok payload)
    (hloads : ∀ signer, e.active = some signer → P.ed25519Loads signer.ed25519Public = true) :
    (e.submitSuccessor P newCred signature metadata now).1 = .ok () ∨ ∃ code message,
      (e.submitSuccessor P newCred signature metadata now).1 = .error (.rotationError code message) := by
  rw [submitSuccessor]
  split
  · exact Or.inr ⟨_, _, rfl⟩
  · rename_i signer hsigner
    obtain ⟨payload, hpayload⟩ := hencodes signer hsigner
    rw [hpayload]
    split_ifs
    · exact Or.inr ⟨_, _, rfl⟩
    · exact Or.inr ⟨_, _, rfl⟩
    · exact Or.inr ⟨_, _, rfl⟩
    · exact Or.inr ⟨_, _, rfl⟩
    · exact Or.inr ⟨_, _, rfl⟩
    · dsimp only
      rcases verifyEd25519_loaded payload signature (hloads signer hsigner) with
        h | ⟨message, h⟩
      · rw [h]
        exact Or.inl rfl
      · rw [h]
        exact Or.inr ⟨_, _, rfl⟩

end Secupload.Shared

namespace Secupload.Server

open Library Shared

namespace Database

def KeysFormed (db : Database) : Prop := ∀ I v row, db.credential I v = some row → row.Formed

def Writable (params : RotationParams) (db : Database) (I : Uuid) (newVersion : ℤ)
    (ed25519Public x25519Public metadata : Bytes) : Prop :=
  ∀ e signer, db.loadEngine params I = some e → e.active = some signer →
    ∃ payload, encodeSuccessorPayload signer.identityUuid signer.version newVersion ed25519Public
      x25519Public metadata = .ok payload

structure Total (P : Primitives) (params : RotationParams) (db : Database) : Prop where
  keys : db.KeysFormed
  authenticates : ∀ (auth : Authenticator) (env : Envelope) (now : ℤ),
    (∃ data, env.signedBytes = .ok data) →
    (∃ r, (auth.authenticate P params db env now).1 = .ok r) ∨
      ∃ code message, (auth.authenticate P params db env now).1 = .error (.authError code message)
  submits : ∀ (I : Uuid) (newVersion : ℤ) (ed25519Public x25519Public signature metadata : Bytes) (now : ℤ),
    db.Writable params I newVersion ed25519Public x25519Public metadata →
    (∃ cred, (db.submitSuccessor P params I newVersion ed25519Public x25519Public signature metadata
      now).1 = .ok cred) ∨
      ∃ code message, (db.submitSuccessor P params I newVersion ed25519Public x25519Public signature
        metadata now).1 = .error (.registryError code message)

section Formed

variable {P : Primitives} {params : RotationParams} {db : Database} {I : Uuid}

lemma keysFormed_step (h : db.KeysFormed) (op : RegistryOp) :
    (registryStep P params db op).KeysFormed ↔ ∀ row, db.Brings P params row op → row.Formed := by
  constructor
  · intro hafter row hbrings
    exact hafter row.identityUuid row.version row (stored_of_brings hbrings)
  · intro hformed I v row hrow
    rcases row_step hrow with ⟨d, hd, hevolves⟩ | hbrings
    · exact (h I v d hd).evolves hevolves
    · exact hformed row hbrings

lemma active_formed {e : RotationEngine} {signer : CredentialPublic} (h : db.KeysFormed)
    (hload : db.loadEngine params I = some e) (hsigner : e.active = some signer) : signer.Formed := by
  obtain ⟨hmem, _⟩ := RotationEngine.mem_of_byStatus hsigner
  exact h I signer.version signer ((loadEngine_get hload _).symm.trans (RotationEngine.get_of_mem hmem))

lemma submitSuccessor_formed (h : db.KeysFormed)
    (hloads : ∀ key, P.ed25519Loads key = decide (key.length = 32)) {newVersion : ℤ}
    {ed25519Public x25519Public signature metadata : Bytes} {now : ℤ}
    (hwritable : db.Writable params I newVersion ed25519Public x25519Public metadata) :
    (∃ cred, (db.submitSuccessor P params I newVersion ed25519Public x25519Public signature metadata
      now).1 = .ok cred) ∨
      ∃ code message, (db.submitSuccessor P params I newVersion ed25519Public x25519Public signature
        metadata now).1 = .error (.registryError code message) := by
  cases hload : db.loadEngine params I with
  | none =>
    rw [submitSuccessor, call, apply, hload]
    exact Or.inr ⟨_, _, rfl⟩
  | some e =>
    have hanswers := RotationEngine.submitSuccessor_loaded
      (newCredential I newVersion ed25519Public x25519Public) signature now
      (fun signer => hwritable e signer hload) fun signer hsigner => by
        rw [hloads, (active_formed h hload hsigner).ed25519]
        rfl
    rw [submitSuccessor, call, apply, hload]
    dsimp only [transact, Call.transition, RotationEngine.Transition.exec]
    generalize e.submitSuccessor P (newCredential I newVersion ed25519Public x25519Public) signature metadata
      now = outcome at hanswers
    obtain ⟨result, e'⟩ := outcome
    rcases hanswers with rfl | ⟨code, message, rfl⟩
    · exact Or.inl ⟨_, rfl⟩
    · exact Or.inr ⟨_, _, rfl⟩

end Formed

end Database

namespace Authenticator

variable {P : Primitives} {params : RotationParams} {db : Database}

lemma checkCredential_formed (h : db.KeysFormed)
    (hloads : ∀ key, P.ed25519Loads key = decide (key.length = 32)) {env : Envelope} {now : ℤ}
    (hsigned : ∃ data, env.signedBytes = .ok data) :
    (∃ r, checkCredential P params db env now = .ok r) ∨
      ∃ code message, checkCredential P params db env now = .error (.authError code message) := by
  simp only [checkCredential]
  split
  · exact Or.inr ⟨_, _, rfl⟩
  · rename_i exc hno hauth
    exact (hno _ _ (Database.credentialForAuth_error hauth)).elim
  · exact Or.inr ⟨_, _, rfl⟩
  · rename_i cred hauth
    have hformed := h _ _ cred (Database.credentialForAuth_eq_some.mp hauth).1
    have hkey : P.ed25519Loads cred.ed25519Public = true := by
      rw [hloads, hformed.ed25519]
      rfl
    split_ifs
    · exact Or.inr ⟨_, _, rfl⟩
    · rcases Envelope.verify_loaded hsigned hkey with hverify | ⟨message, hverify⟩
      · rw [hverify]
        dsimp only
        split
        · exact Or.inr ⟨_, _, rfl⟩
        · exact Or.inl ⟨_, rfl⟩
      · rw [hverify]
        exact Or.inr ⟨_, _, rfl⟩

lemma authenticate_formed (h : db.KeysFormed)
    (hloads : ∀ key, P.ed25519Loads key = decide (key.length = 32)) (auth : Authenticator)
    {env : Envelope} (now : ℤ) (hsigned : ∃ data, env.signedBytes = .ok data) :
    (∃ r, (auth.authenticate P params db env now).1 = .ok r) ∨
      ∃ code message, (auth.authenticate P params db env now).1 = .error (.authError code message) := by
  rw [authenticate]
  split_ifs
  · exact Or.inr ⟨_, _, rfl⟩
  · split
    · exact Or.inr ⟨_, _, rfl⟩
    · exact checkCredential_formed h hloads hsigned

end Authenticator

namespace Database

lemma KeysFormed.total {P : Primitives} {params : RotationParams} {db : Database} (h : db.KeysFormed)
    (hloads : ∀ key, P.ed25519Loads key = decide (key.length = 32)) : Total P params db where
  keys := h
  authenticates := fun auth _ now => Authenticator.authenticate_formed h hloads auth now
  submits := fun _ _ _ _ _ _ _ => submitSuccessor_formed h hloads

theorem total_iff_formed (P : Primitives) (hloads : ∀ key, P.ed25519Loads key = decide (key.length = 32))
    (params : RotationParams) (ops : List RegistryOp) :
    (∀ pre, pre <+: ops → Total P params (reached P params pre)) ↔
      Along (registryStep P params) (fun db op => ∀ row, db.Brings P params row op → row.Formed)
        empty ops := by
  have hempty : KeysFormed empty := by
    intro I v row hrow
    cases hrow
  rw [← invariant_iff_along (I := KeysFormed) (s := empty) (fun db op h => keysFormed_step h op) hempty]
  constructor
  · intro h pre hpre
    exact (h pre hpre).keys
  · intro h pre hpre
    exact (h pre hpre).total hloads

theorem enrolled_total : Total transparent {} (reached transparent {} enrolledRun) := by
  refine (total_iff_formed transparent (fun key => rfl) {} enrolledRun).mpr ⟨?_, ?_, trivial⟩ enrolledRun
    (List.prefix_refl enrolledRun)
  · intro row hbrings
    exact hbrings.elim
  · rintro row ⟨rfl, _⟩
    exact ⟨rfl, rfl⟩

-- the ACTIVE credential of the identity has an empty Ed25519 key
def malformedRun : List RegistryOp :=
  [.issueToken "t" .enroll .client 900 none (some 1000) 0,
    .enroll Uuid.nil .client "t" 1 [] [] (some 1000) 0]

theorem malformed_key_escapes :
    ¬ ∀ (P : Primitives) (params : RotationParams) (ops : List RegistryOp),
      (∀ key, P.ed25519Loads key = decide (key.length = 32)) → Total P params (reached P params ops) := by
  intro h
  have hraised : ((Authenticator.new 1).authenticate transparent {} (reached transparent {} malformedRun)
      (Authenticator.demoEnvelope 0) 1000).1 = .error (.cryptoError "invalid Ed25519 public key") := by
    decide +kernel
  have hsigned : ∃ data, (Authenticator.demoEnvelope 0).signedBytes = .ok data :=
    exists_of_isOk (by decide +kernel)
  rcases (h transparent {} malformedRun fun key => rfl).authenticates (Authenticator.new 1)
    (Authenticator.demoEnvelope 0) 1000 hsigned with ⟨r, hr⟩ | ⟨code, message, hr⟩
  · rw [hraised] at hr
    cases hr
  · rw [hraised] at hr
    cases hr

end Database

end Secupload.Server
