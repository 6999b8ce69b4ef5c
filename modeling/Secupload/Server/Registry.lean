import Secupload.Server.Database

/-! The credential registry. A method returns its result or exception together with the
committed database. -/

namespace Secupload.Server

open Library Shared
open Shared.RotationEngine (Transition)

-- what `raise RegistryError(exc.code, exc.message) from exc` does to a RotationError
def asRegistryError : Exn → Exn
  | .rotationError code message => .registryError code message
  | exc => exc

inductive Call
  | submitSuccessor (newVersion : ℤ)
      (ed25519Public x25519Public signature transitionMetadata : Bytes) (now : ℤ)
  | checkpoint (now : ℤ)
  | rollback (now : ℤ)
  | revoke (version now : ℤ)
  | expireAll (now : ℤ)

def newCredential (I : Uuid) (version : ℤ) (ed25519Public x25519Public : Bytes) : CredentialPublic :=
  { identityUuid := I, version, ed25519Public, x25519Public, status := .generated }

def Call.transition (I : Uuid) : Call → Transition
  | .submitSuccessor newVersion ed25519Public x25519Public signature metadata now =>
    .submitSuccessor (newCredential I newVersion ed25519Public x25519Public) signature metadata now
  | .checkpoint now => .checkpoint now
  | .rollback now => .rollback now
  | .revoke version now => .revoke version now
  | .expireAll now => .expireAll now

namespace Database

section Methods

variable (P : Primitives) (params : RotationParams) (db : Database) (I : Uuid)

def engineFor : Except Exn RotationEngine :=
  match db.loadEngine params I with
  | none => .error (.registryError "UNKNOWN_IDENTITY" "no credentials registered for identity")
  | some e => .ok e

def highestVersion : Option ℤ := ((db.credentialRows I).map (·.version)).max?

def getCredential (version : ℤ) : Option CredentialPublic := db.credential I version

def credentialForAuth (version now : ℤ) : Except Exn (Option CredentialPublic) := do
  return (← db.engineFor params I).credentialForAuth version now

def identityKind : Option IdentityKind :=
  if (db.clients.get? I).isSome then some .client
  else if (db.proxies.get? I).isSome then some .proxy
  else none

-- the transaction of `_apply` once the engine is loaded
def transact {α : Type} (e : RotationEngine) (fn : RotationEngine → Outcome RotationEngine α) :
    Outcome Database α :=
  match fn e with
  | (.error exc, _) => (.error (asRegistryError exc), db)
  | (.ok changed, e') => (.ok changed, db.saveAll e')

def apply {α : Type} (fn : RotationEngine → Outcome RotationEngine α) (allowUnknown : Bool) :
    Outcome Database α :=
  match db.loadEngine params I with
  | none =>
    if allowUnknown then db.transact (RotationEngine.new params) fn
    else (.error (.registryError "UNKNOWN_IDENTITY" "identity not registered"), db)
  | some e => db.transact e fn

def call (c : Call) : Outcome Database (List CredentialPublic) :=
  db.apply params I ((c.transition I).exec P) false

def submitSuccessor (newVersion : ℤ)
    (ed25519Public x25519Public signature transitionMetadata : Bytes) (now : ℤ) :
    Outcome Database (Option CredentialPublic) :=
  (db.call P params I (.submitSuccessor newVersion ed25519Public x25519Public signature
    transitionMetadata now)).map fun changed _ => changed.head?

def checkpoint (now : ℤ) : Outcome Database (List CredentialPublic) :=
  db.call P params I (.checkpoint now)

def rollback (now : ℤ) : Outcome Database (Option CredentialPublic) :=
  (db.call P params I (.rollback now)).map fun rolled _ => rolled.head?

def revoke (version now : ℤ) : Outcome Database (Option CredentialPublic) :=
  (db.call P params I (.revoke version now)).map fun revoked _ => revoked.head?

def expireEach (now : ℤ) : List Uuid → Database → Outcome Database (List (Uuid × CredentialPublic))
  | [], db => (.ok [], db)
  | ident :: idents, db =>
    (db.call P params ident (.expireAll now)).bind fun changed db =>
      (expireEach now idents db).map fun expired _ => changed.map (fun c => (ident, c)) ++ expired

def expireAll (now : ℤ) : Outcome Database (List (Uuid × CredentialPublic)) :=
  expireEach P params now (db.credentials.rows.map (·.identityUuid)).dedup db

def hashToken (token : String) : Bytes := P.sha256 (utf8 token)

-- `token` is what `secrets.token_urlsafe` draws
def issueToken (token : String) (purpose : Purpose) (kind : IdentityKind) (ttl : ℤ)
    (identityUuid : Option Uuid) (now : Option ℤ) (time : ℤ) : Outcome Database String :=
  let row : EnrollmentToken :=
    { tokenHash := hashToken P token, purpose, identityKind := kind, identityUuid
      expiresAt := intOr now time + ttl }
  if (db.tokens.get? row.tokenHash).isSome then (.error .integrityError, db)
  else (.ok token, { db with tokens := db.tokens.set row })

def revokeUsable (now : ℤ) : RotationEngine × Database → CredentialPublic →
    Except Exn (RotationEngine × Database)
  | (e, db), cred =>
    if cred.status = .active ∨ cred.status = .fallback then do
      let (result, e') := e.revoke cred.version now
      let _ ← result
      match e'.get cred.version with
      | none => throw (.registryError "INTERNAL" "revoked credential missing")
      | some revoked => return (e', db.savePublic revoked)
    else return (e, db)

def recoverCredentials (purpose : Purpose) (now : ℤ) : Except Exn Database :=
  match db.loadEngine params I with
  | none =>
    if purpose = .recover then
      .error (.registryError "UNKNOWN_IDENTITY" "no credentials to recover")
    else .ok db
  | some e =>
    if purpose = .recover then (·.2) <$> e.all.foldlM (revokeUsable now) (e, db)
    else .error (.registryError "ALREADY_ENROLLED" "identity already enrolled")

def commitToken (kind : IdentityKind) (identityRow : Option IdentityRow) (row : EnrollmentToken)
    (now : ℤ) : Database :=
  let known := if identityRow = none then db.addIdentity I kind else db
  { known with tokens := known.tokens.set { row with usedAt := some now } }

-- the first transaction of `enroll`, which ends with its commit
def redeemToken (kind : IdentityKind) (tokenHash : Bytes) (now : ℤ) :
    Except Exn (EnrollmentToken × Database) :=
  match db.tokens.get? tokenHash with
  | none => .error (.registryError "BAD_TOKEN" "unknown enrollment token")
  | some row =>
    if row.usedAt.isSome then .error (.registryError "TOKEN_USED" "token already used")
    else if row.expiresAt < now then .error (.registryError "TOKEN_EXPIRED" "token has expired")
    else if row.purpose = .recover ∧ row.identityUuid ≠ some I then
      .error (.registryError "TOKEN_MISMATCH" "recovery token not bound to this identity")
    else if row.purpose = .recover ∧ db.identityRow I kind = none then
      .error (.registryError "UNKNOWN_IDENTITY" "cannot recover: identity unknown")
    else if row.purpose = .enroll ∧ db.identityRow I kind ≠ none then
      .error (.registryError "ALREADY_ENROLLED" "identity already enrolled")
    else
      match db.recoverCredentials params I row.purpose now with
      | .error exc => .error exc
      | .ok db' => .ok (row, db'.commitToken I kind (db.identityRow I kind) row now)

def enroll (kind : IdentityKind) (token : String) (version : ℤ)
    (ed25519Public x25519Public : Bytes) (now : Option ℤ) (time : ℤ) :
    Outcome Database (Option CredentialPublic) :=
  let now := intOr now time
  match db.redeemToken params I kind (hashToken P token) now with
  | .error exc => (.error exc, db)
  | .ok (row, committed) =>
    if row.purpose = .enroll ∧ version ≠ 1 then
      (.error (.registryError "VERSION_ORDER" "initial enrollment must use credential version 1"),
        committed)
    else
      let newCred := newCredential I version ed25519Public x25519Public
      (committed.apply params I (fun e => e.provisionInitial newCred now) true).map
        fun _ final => final.getCredential I version

end Methods

inductive RegistryOp
  | issueToken (token : String) (purpose : Purpose) (kind : IdentityKind) (ttl : ℤ)
      (identityUuid : Option Uuid) (now : Option ℤ) (time : ℤ)
  | enroll (I : Uuid) (kind : IdentityKind) (token : String) (version : ℤ)
      (ed25519Public x25519Public : Bytes) (now : Option ℤ) (time : ℤ)
  | submitSuccessor (I : Uuid) (newVersion : ℤ)
      (ed25519Public x25519Public signature transitionMetadata : Bytes) (now : ℤ)
  | checkpoint (I : Uuid) (now : ℤ)
  | rollback (I : Uuid) (now : ℤ)
  | revoke (I : Uuid) (version now : ℤ)
  | expireAll (now : ℤ)

def registryStep (P : Primitives) (params : RotationParams) (db : Database) : RegistryOp → Database
  | .issueToken token purpose kind ttl identityUuid now time =>
    (db.issueToken P token purpose kind ttl identityUuid now time).2
  | .enroll I kind token version ed25519Public x25519Public now time =>
    (db.enroll P params I kind token version ed25519Public x25519Public now time).2
  | .submitSuccessor I newVersion ed25519Public x25519Public signature metadata now =>
    (db.submitSuccessor P params I newVersion ed25519Public x25519Public signature metadata now).2
  | .checkpoint I now => (db.checkpoint P params I now).2
  | .rollback I now => (db.rollback P params I now).2
  | .revoke I version now => (db.revoke P params I version now).2
  | .expireAll now => (db.expireAll P params now).2

def reached (P : Primitives) (params : RotationParams) (ops : List RegistryOp) : Database :=
  run (registryStep P params) empty ops

lemma issueToken_cases (P : Primitives) (db : Database) (token : String) (purpose : Purpose)
    (kind : IdentityKind) (ttl : ℤ) (identityUuid : Option Uuid) (now : Option ℤ) (time : ℤ) :
    (db.issueToken P token purpose kind ttl identityUuid now time).2 = db ∨
    ∃ row, (db.issueToken P token purpose kind ttl identityUuid now time).2 =
      { db with tokens := db.tokens.set row } := by
  simp only [issueToken]
  split
  · exact Or.inl rfl
  · exact Or.inr ⟨_, rfl⟩

lemma credentialForAuth_error {params : RotationParams} {db : Database} {I : Uuid}
    {version now : ℤ} {exc : Exn} (h : db.credentialForAuth params I version now = .error exc) :
    exc = .registryError "UNKNOWN_IDENTITY" "no credentials registered for identity" := by
  rw [credentialForAuth, engineFor] at h
  split at h
  · exact (Except.error.inj h).symm
  · cases h

section Apply

variable (params : RotationParams) (db : Database) (I : Uuid) {α : Type}
  (fn : RotationEngine → Outcome RotationEngine α) (allowUnknown : Bool)

lemma apply_cases :
    (∃ exc, db.apply params I fn allowUnknown = (.error exc, db)) ∨
    (∃ e changed e', (db.loadEngine params I = some e ∨
        db.loadEngine params I = none ∧ allowUnknown = true ∧ e = RotationEngine.new params) ∧
      fn e = (.ok changed, e') ∧
      db.apply params I fn allowUnknown = (.ok changed, db.saveAll e')) := by
  have htransact : ∀ e, (∃ exc, db.transact e fn = (.error exc, db)) ∨
      (∃ changed e', fn e = (.ok changed, e') ∧ db.transact e fn = (.ok changed, db.saveAll e')) := by
    intro e
    rw [transact]
    split
    · exact Or.inl ⟨_, rfl⟩
    · rename_i changed e' he
      exact Or.inr ⟨changed, e', he, rfl⟩
  rw [apply]
  split
  · rename_i hnone
    split
    · rename_i hallow
      rcases htransact (RotationEngine.new params) with ⟨exc, he⟩ | ⟨changed, e', he, hs⟩
      · exact Or.inl ⟨exc, he⟩
      · exact Or.inr ⟨_, changed, e', Or.inr ⟨hnone, hallow, rfl⟩, he, hs⟩
    · exact Or.inl ⟨_, rfl⟩
  · rename_i e hsome
    rcases htransact e with ⟨exc, he⟩ | ⟨changed, e', he, hs⟩
    · exact Or.inl ⟨exc, he⟩
    · exact Or.inr ⟨e, changed, e', Or.inl hsome, he, hs⟩

end Apply

structure Touches (I : Uuid) (db db' : Database) : Prop where
  clients : db'.clients = db.clients
  proxies : db'.proxies = db.proxies
  tokens : db'.tokens = db.tokens
  others : ∀ J, J ≠ I → ∀ v, db'.credential J v = db.credential J v
  own : ∀ v c, db.credential I v = some c → ∃ c', db'.credential I v = some c' ∧ c.Evolves c'

section Touches

variable {P : Primitives} {params : RotationParams} {db db' db'' : Database} {I : Uuid}

lemma Touches.refl (I : Uuid) (db : Database) : Touches I db db :=
  ⟨rfl, rfl, rfl, fun _ _ _ => rfl, fun _ c hc => ⟨c, hc, .refl c⟩⟩

lemma Touches.trans (h : Touches I db db') (k : Touches I db' db'') : Touches I db db'' where
  clients := k.clients.trans h.clients
  proxies := k.proxies.trans h.proxies
  tokens := k.tokens.trans h.tokens
  others := fun J hJ v => (k.others J hJ v).trans (h.others J hJ v)
  own := by
    intro v c hc
    obtain ⟨c', hc', hcc'⟩ := h.own v c hc
    obtain ⟨c'', hc'', hcc''⟩ := k.own v c' hc'
    exact ⟨c'', hc'', hcc'.trans hcc''⟩

lemma Touches.saveAll {e e' : RotationEngine} (hload : db.loadEngine params I = some e)
    (hevolves : e.Evolves e') (hbelongs : e'.BelongsTo I) : Touches I db (db.saveAll e') where
  clients := saveAll_clients
  proxies := saveAll_proxies
  tokens := saveAll_tokens
  others := by
    intro J hJ v
    rw [credential_saveAll hbelongs, if_neg hJ]
  own := by
    intro v c hc
    obtain ⟨c', hc', hcc'⟩ := hevolves.cred v c (by rw [loadEngine_get hload, hc])
    refine ⟨c', ?_, hcc'⟩
    rw [credential_saveAll hbelongs, if_pos rfl, hc']
    rfl

variable (P params db I) in
lemma call_cases (c : Call) :
    (∃ exc, db.call P params I c = (.error exc, db)) ∨
    (∃ e changed e', db.loadEngine params I = some e ∧
      (c.transition I).exec P e = (.ok changed, e') ∧
      db.call P params I c = (.ok changed, db.saveAll e')) := by
  rcases apply_cases params db I ((c.transition I).exec P) false with
    h | ⟨e, changed, e', hload | ⟨_, hf, _⟩, he, hs⟩
  · exact Or.inl h
  · exact Or.inr ⟨e, changed, e', hload, he, hs⟩
  · cases hf

variable (P params db I) in
lemma call_touches (c : Call) : Touches I db (db.call P params I c).2 := by
  rcases call_cases P params db I c with
    ⟨exc, he⟩ | ⟨e, changed, e', hload, he, hs⟩
  · rw [he]
    exact .refl I db
  · rw [hs]
    have hevolves := e.evolves_transition P (c.transition I)
    have hbelongs := (loadEngine_belongs hload).transition P (c.transition I)
    rw [he] at hevolves hbelongs
    exact .saveAll hload hevolves hbelongs

lemma credential_saveAll_of_evolves {e e' : RotationEngine} (hload : db.loadEngine params I = some e)
    (hevolves : e.Evolves e') (hbelongs : e'.BelongsTo I) (v : ℤ) :
    (db.saveAll e').credential I v = e'.get v := by
  rw [credential_saveAll hbelongs, if_pos rfl, ← loadEngine_get hload]
  cases hget : e'.get v with
  | some c => rfl
  | none =>
    cases hold : e.get v with
    | none => rfl
    | some c =>
      obtain ⟨c', hc', _⟩ := hevolves.cred v c hold
      rw [hget] at hc'
      cases hc'

lemma credential_call {e e' : RotationEngine} {c : Call} {changed : List CredentialPublic}
    (hload : db.loadEngine params I = some e) (he : (c.transition I).exec P e = (.ok changed, e'))
    (v : ℤ) : (db.call P params I c).2.credential I v = e'.get v := by
  have hevolves := e.evolves_transition P (c.transition I)
  have hbelongs := (loadEngine_belongs hload).transition P (c.transition I)
  rw [he] at hevolves hbelongs
  rw [call, apply, hload]
  dsimp only [transact]
  rw [he]
  exact credential_saveAll_of_evolves hload hevolves hbelongs v

end Touches

end Database

end Secupload.Server
