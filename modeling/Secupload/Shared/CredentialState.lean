import Mathlib.Data.List.Sort
import Secupload.Shared.Crypto

/-! The credential rotation state machine. A transition returns its result or exception
together with the engine, which an exception may leave changed. -/

namespace Secupload.Shared

open Library

def successorTag : Bytes := utf8 "SIH-SUCC-1"

def encodeSuccessorPayload (identityUuid : Uuid) (oldVersion newVersion : ℤ)
    (newEd25519Public newX25519Public transitionMetadata : Bytes) : Except Exn Bytes :=
  ((((((((Encoder.new).bytes successorTag).uuid (some identityUuid)).u32 oldVersion).u32
    newVersion).bytes newEd25519Public).bytes newX25519Public).bytes transitionMetadata).finish

structure SuccessorPayload where
  identityUuid : Uuid
  oldVersion : ℤ
  newVersion : ℤ
  newEd25519Public : Bytes
  newX25519Public : Bytes
  transitionMetadata : Bytes
  deriving DecidableEq

def parseSuccessorPayload (data : Bytes) : Except Exn SuccessorPayload := do
  let (tag, dec) ← Decoder.bytes.run data
  if tag ≠ successorTag then throw (.rotationError "BAD_TAG" "not a successor payload")
  let fields : Decoder SuccessorPayload := do
    let identityUuid ← Decoder.uuid
    let oldVersion ← Decoder.u32
    let newVersion ← Decoder.u32
    let newEd25519Public ← Decoder.bytes
    let newX25519Public ← Decoder.bytes
    let transitionMetadata ← Decoder.bytes
    return ⟨identityUuid.getD Uuid.nil, oldVersion, newVersion, newEd25519Public,
      newX25519Public, transitionMetadata⟩
  let (payload, _) ← fields.run dec
  return payload

structure RotationEngine where
  params : RotationParams
  creds : Table CredentialPublic.version
  deriving DecidableEq

namespace RotationEngine

def new (params : RotationParams) : RotationEngine := ⟨params, Table.empty⟩

def load (params : RotationParams) (creds : List CredentialPublic) : RotationEngine :=
  ⟨params, Table.ofRows creds⟩

def get (e : RotationEngine) (version : ℤ) : Option CredentialPublic := e.creds.get? version

def all (e : RotationEngine) : List CredentialPublic :=
  e.creds.rows.insertionSort (fun c d => c.version ≤ d.version)

def versionsInWindow (e : RotationEngine) : ℕ := e.creds.rows.countP (fun c => c.status.inWindow)

def byStatus (e : RotationEngine) (status : CredentialStatus) : Option CredentialPublic :=
  e.creds.rows.find? (fun c => decide (c.status = status))

def active (e : RotationEngine) : Option CredentialPublic := e.byStatus .active

def fallback (e : RotationEngine) : Option CredentialPublic := e.byStatus .fallback

def validating (e : RotationEngine) : Option CredentialPublic := e.byStatus .validating

-- `max(self._creds)`, which is only evaluated on a nonempty dict
def maxVersion? (e : RotationEngine) : Option ℤ := (e.creds.rows.map (·.version)).max?

def put (e : RotationEngine) (cred : CredentialPublic) : RotationEngine :=
  { e with creds := e.creds.set cred }

def expired (cred : CredentialPublic) (now : ℤ) : Bool :=
  match cred.expirationTime with
  | none => false
  | some expirationTime => decide (expirationTime ≤ now)

def provisioned (params : RotationParams) (cred : CredentialPublic) (now : ℤ) : CredentialPublic :=
  { cred with
    status := .active
    createdAt := now
    validationDeadline := none
    activationTime := some now
    expirationTime := some (params.expirationFrom now) }

def submitted (params : RotationParams) (newCred : CredentialPublic) (now : ℤ) : CredentialPublic :=
  { newCred with
    status := .validating
    createdAt := now
    validationDeadline := some (params.validationDeadlineFrom now)
    activationTime := none
    expirationTime := some (params.expirationFrom now) }

def demoted (params : RotationParams) (v2 : CredentialPublic) (now : ℤ) : CredentialPublic :=
  { v2 with
    status := .fallback
    expirationTime := some (max (v2.expirationTime.getD 0) (now + params.fallbackPeriod)) }

def promoted (v3 : CredentialPublic) (now : ℤ) : CredentialPublic :=
  { v3 with status := .active, activationTime := some now }

def retired (cred : CredentialPublic) (status : CredentialStatus) : CredentialPublic :=
  { cred with status }

def provisionInitial (e : RotationEngine) (cred : CredentialPublic) (now : ℤ) :
    Outcome RotationEngine Unit :=
  if e.active.isSome ∨ e.validating.isSome then
    (.error (.rotationError "ALREADY_PROVISIONED" "identity already provisioned"), e)
  else if ∃ m ∈ e.maxVersion?, cred.version ≠ m + 1 then
    (.error (.rotationError "VERSION_ORDER"
      s!"provisioned version must be {e.maxVersion?.getD 0 + 1}"), e)
  else if cred.status ≠ .generated then
    (.error (.rotationError "INVALID_STATUS" "initial credential must be GENERATED"), e)
  else
    (.ok (), e.put (provisioned e.params cred now))

def submitSuccessor (P : Primitives) (e : RotationEngine) (newCred : CredentialPublic)
    (signature transitionMetadata : Bytes) (now : ℤ) : Outcome RotationEngine Unit :=
  match e.active with
  | none => (.error (.rotationError "NO_ACTIVE" "no active credential to authorize rotation"), e)
  | some signer =>
    if expired signer now then
      (.error (.rotationError "SIGNER_EXPIRED" "active credential is expired"), e)
    else if e.validating.isSome then
      (.error (.rotationError "WINDOW_FULL" "a validating credential already exists"), e)
    else if newCred.version ≠ e.maxVersion?.getD 0 + 1 then
      (.error (.rotationError "VERSION_ORDER"
        s!"new version must be sequential (expected {e.maxVersion?.getD 0 + 1})"), e)
    else if newCred.identityUuid ≠ signer.identityUuid then
      (.error (.rotationError "IDENTITY_MISMATCH" "new credential has a different identity"), e)
    else if 3 ≤ e.versionsInWindow then
      (.error (.rotationError "WINDOW_FULL" "three-version window is full (SR-03)"), e)
    else
      match encodeSuccessorPayload signer.identityUuid signer.version newCred.version
          newCred.ed25519Public newCred.x25519Public transitionMetadata with
      | .error exc => (.error exc, e)
      | .ok payload =>
        match verifyEd25519 P signer.ed25519Public payload signature with
        | .error (.signatureError _) =>
          (.error (.rotationError "BAD_SUCCESSOR_SIGNATURE" "successor signature invalid"), e)
        | .error exc => (.error exc, e)
        | .ok () =>
          (.ok (), e.put (submitted e.params newCred now))

def terminateFallback (e : RotationEngine) : RotationEngine :=
  match e.fallback with
  | none => e
  | some v1 => e.put (retired v1 .terminated)

def checkpoint (e : RotationEngine) (now : ℤ) : Outcome RotationEngine (List CredentialPublic) :=
  match e.validating with
  | none => (.error (.rotationError "NO_VALIDATING" "no validating credential"), e)
  | some v3 =>
    if now < v3.validationDeadline.getD 0 then
      (.error (.rotationError "CHECKPOINT_NOT_REACHED" "promotion checkpoint not reached"), e)
    else if expired v3 now then
      (.error (.rotationError "V3_EXPIRED" "validating credential expired before promotion"),
        e.put (retired v3 .expired))
    else
      match e.active with
      | none => (.error (.rotationError "NO_ACTIVE" "no active credential to demote"), e)
      | some v2 =>
        if expired v2 now then
          (.error (.rotationError "FALLBACK_VALIDITY"
            "active credential cannot cover the fallback period (SR-14)"), e)
        else
          let terminated := e.fallback.toList.map fun v1 => retired v1 .terminated
          (.ok (terminated ++ [demoted e.params v2 now, promoted v3 now]),
            (e.terminateFallback.put (demoted e.params v2 now)).put (promoted v3 now))

def rollback (e : RotationEngine) (_now : ℤ) : Outcome RotationEngine CredentialPublic :=
  match e.validating with
  | none => (.error (.rotationError "NO_VALIDATING" "no validating credential to roll back"), e)
  | some v3 =>
    (.ok (retired v3 .terminated), e.put (retired v3 .terminated))

def revoke (e : RotationEngine) (version _now : ℤ) : Outcome RotationEngine CredentialPublic :=
  match e.get version with
  | none => (.error (.rotationError "UNKNOWN_VERSION" "no such credential version"), e)
  | some cred => (.ok (retired cred .revoked), e.put (retired cred .revoked))

def sweeps (now : ℤ) (cred : CredentialPublic) : Bool :=
  decide (cred.status = .active ∨ cred.status = .fallback) && expired cred now

def sweep (now : ℤ) (cred : CredentialPublic) : CredentialPublic :=
  if sweeps now cred then retired cred .expired else cred

lemma sweep_version (now : ℤ) (cred : CredentialPublic) :
    (sweep now cred).version = cred.version := by
  rw [sweep]
  split <;> rfl

def expireAll (e : RotationEngine) (now : ℤ) : Outcome RotationEngine (List CredentialPublic) :=
  (.ok ((e.creds.rows.filter (sweeps now)).map fun c => retired c .expired),
    { e with creds := e.creds.mapRows (sweep now) (sweep_version now) })

def credentialForAuth (e : RotationEngine) (version now : ℤ) : Option CredentialPublic :=
  match e.get version with
  | none => none
  | some cred =>
    if cred.status ≠ .active ∧ cred.status ≠ .fallback then none
    else if expired cred now then none
    else some cred

section Lookup

variable {e : RotationEngine} {c d : CredentialPublic} {status : CredentialStatus}

lemma mem_put : d ∈ (e.put c).creds.rows ↔ d = c ∨ d ∈ e.creds.rows ∧ d.version ≠ c.version :=
  Table.mem_set

@[simp] lemma put_params : (e.put c).params = e.params := rfl

lemma get_put (version : ℤ) :
    (e.put c).get version = if c.version = version then some c else e.get version :=
  Table.get?_set e.creds c version

lemma get_eq_some {version : ℤ} : e.get version = some c ↔ c ∈ e.creds.rows ∧ c.version = version :=
  Table.get?_eq_some

lemma credentialForAuth_eq_some {version now : ℤ} :
    e.credentialForAuth version now = some c ↔
      e.get version = some c ∧ (c.status = .active ∨ c.status = .fallback) ∧ expired c now = false := by
  rw [credentialForAuth]
  cases e.get version with
  | none => simp
  | some d =>
    dsimp only
    split_ifs with hs hx
    · refine iff_of_false not_false ?_
      rintro ⟨hd, hcs, _⟩
      obtain rfl := Option.some.inj hd
      exact hcs.elim hs.1 hs.2
    · refine iff_of_false not_false ?_
      rintro ⟨hd, _, hcx⟩
      obtain rfl := Option.some.inj hd
      rw [hx] at hcx
      cases hcx
    · constructor
      · intro hd
        obtain rfl := Option.some.inj hd
        refine ⟨rfl, ?_, by simpa using hx⟩
        by_contra hno
        exact hs ⟨fun ha => hno (Or.inl ha), fun hf => hno (Or.inr hf)⟩
      · rintro ⟨hd, _⟩
        exact hd

lemma mem_of_byStatus (h : e.byStatus status = some c) : c ∈ e.creds.rows ∧ c.status = status :=
  ⟨List.mem_of_find?_eq_some h, by simpa using List.find?_some h⟩

lemma byStatus_eq_none : e.byStatus status = none ↔ ∀ c ∈ e.creds.rows, c.status ≠ status := by
  simp [byStatus]

lemma byStatus_isSome : (e.byStatus status).isSome = true ↔ ∃ c ∈ e.creds.rows, c.status = status := by
  simp [byStatus]

lemma maxVersion?_eq_some {m : ℤ} :
    e.maxVersion? = some m ↔
      (∃ c ∈ e.creds.rows, c.version = m) ∧ ∀ c ∈ e.creds.rows, c.version ≤ m := by
  simp [maxVersion?, List.max?_eq_some_iff]

lemma maxVersion?_eq_none : e.maxVersion? = none ↔ e.creds.rows = [] := by
  simp [maxVersion?]

lemma get_of_mem (h : c ∈ e.creds.rows) : e.get c.version = some c :=
  Table.get?_of_mem h

lemma get_eq_none {version : ℤ} : e.get version = none ↔ ∀ c ∈ e.creds.rows, c.version ≠ version :=
  Table.get?_eq_none

lemma expireAll_get (now version : ℤ) :
    (e.expireAll now).2.get version = (e.get version).map (sweep now) :=
  Table.get?_mapRows (sweep now) (sweep_version now) e.creds version

lemma all_perm (e : RotationEngine) : e.all.Perm e.creds.rows := List.perm_insertionSort _ _

@[simp] lemma mem_all : c ∈ e.all ↔ c ∈ e.creds.rows := (all_perm e).mem_iff

lemma all_versions_nodup (e : RotationEngine) : (e.all.map (·.version)).Nodup :=
  ((all_perm e).map _).nodup_iff.mpr e.creds.nodup

end Lookup

def Submittable (P : Primitives) (e : RotationEngine) (newCred : CredentialPublic)
    (signature transitionMetadata : Bytes) (now : ℤ) : Prop :=
  ∃ signer payload, e.active = some signer ∧ expired signer now = false ∧ e.validating = none ∧
    newCred.version = e.maxVersion?.getD 0 + 1 ∧ newCred.identityUuid = signer.identityUuid ∧
    e.versionsInWindow < 3 ∧
    encodeSuccessorPayload signer.identityUuid signer.version newCred.version
      newCred.ed25519Public newCred.x25519Public transitionMetadata = .ok payload ∧
    verifyEd25519 P signer.ed25519Public payload signature = .ok ()

def Checkpointable (e : RotationEngine) (now : ℤ) : Prop :=
  ∃ v3 v2, e.validating = some v3 ∧ v3.validationDeadline.getD 0 ≤ now ∧ expired v3 now = false ∧
    e.active = some v2 ∧ expired v2 now = false

section Cases

variable (P : Primitives) (e : RotationEngine) (now : ℤ)

structure Provisionable (cred : CredentialPublic) : Prop where
  active : e.active = none
  validating : e.validating = none
  order : ∀ m ∈ e.maxVersion?, cred.version = m + 1
  status : cred.status = .generated

variable {e} in
lemma provisionInitial_ok {cred : CredentialPublic} (h : e.Provisionable cred) :
    e.provisionInitial cred now = (.ok (), e.put (provisioned e.params cred now)) := by
  have horder : ¬ ∃ m ∈ e.maxVersion?, cred.version ≠ m + 1 := by
    push Not
    exact h.order
  rw [provisionInitial]
  rw [if_neg (by simp [h.active, h.validating]), if_neg horder, if_neg (by simp [h.status])]

variable {e} in
lemma provisionInitial_refused {cred : CredentialPublic} (h : ¬ e.Provisionable cred) :
    ∃ code message, e.provisionInitial cred now = (.error (.rotationError code message), e) := by
  rw [provisionInitial]
  split_ifs with hwindow horder hstatus
  · exact ⟨_, _, rfl⟩
  · exact ⟨_, _, rfl⟩
  · exact ⟨_, _, rfl⟩
  · simp only [not_or, Option.not_isSome_iff_eq_none] at hwindow
    push Not at horder hstatus
    exact (h ⟨hwindow.1, hwindow.2, horder, hstatus⟩).elim

lemma provisionInitial_cases (cred : CredentialPublic) :
    (∃ exc, e.provisionInitial cred now = (.error exc, e)) ∨
    (e.Provisionable cred ∧
      e.provisionInitial cred now = (.ok (), e.put (provisioned e.params cred now))) := by
  by_cases h : e.Provisionable cred
  · exact Or.inr ⟨h, provisionInitial_ok now h⟩
  · obtain ⟨code, message, he⟩ := provisionInitial_refused now h
    exact Or.inl ⟨_, he⟩

lemma submitSuccessor_cases (newCred : CredentialPublic) (signature metadata : Bytes) :
    (∃ exc, e.submitSuccessor P newCred signature metadata now = (.error exc, e)) ∨
    (e.Submittable P newCred signature metadata now ∧
      e.submitSuccessor P newCred signature metadata now =
        (.ok (), e.put (submitted e.params newCred now))) := by
  rw [submitSuccessor]
  split
  · exact Or.inl ⟨_, rfl⟩
  · rename_i signer hsigner
    split_ifs with hexpired hvalidating hversion hidentity hfull
    · exact Or.inl ⟨_, rfl⟩
    · exact Or.inl ⟨_, rfl⟩
    · exact Or.inl ⟨_, rfl⟩
    · exact Or.inl ⟨_, rfl⟩
    · exact Or.inl ⟨_, rfl⟩
    · split
      · exact Or.inl ⟨_, rfl⟩
      · rename_i payload hpayload
        split
        · exact Or.inl ⟨_, rfl⟩
        · exact Or.inl ⟨_, rfl⟩
        · rename_i hverify
          refine Or.inr ⟨⟨signer, payload, hsigner, ?_, ?_, ?_, ?_, ?_, hpayload, hverify⟩, rfl⟩
          · simpa using hexpired
          · simpa using hvalidating
          · simpa using hversion
          · simpa using hidentity
          · omega

variable {P e now} in
lemma submitSuccessor_accepts {newCred : CredentialPublic} {signature metadata : Bytes} :
    (e.submitSuccessor P newCred signature metadata now).1 = .ok () ↔
      e.Submittable P newCred signature metadata now := by
  constructor
  · intro hok
    rcases submitSuccessor_cases P e now newCred signature metadata with ⟨exc, he⟩ | ⟨hs, _⟩
    · rw [he] at hok
      cases hok
    · exact hs
  · rintro ⟨signer, payload, ha, hx, hv, hm, hi, hw, hp, hs⟩
    have hfull : ¬ 3 ≤ e.versionsInWindow := by omega
    simp [submitSuccessor, ha, hx, hv, hm, hi, hfull, hm ▸ hp, hs]

variable {P e now} in
lemma Submittable.submit {newCred : CredentialPublic} {signature metadata : Bytes}
    (h : e.Submittable P newCred signature metadata now) :
    e.submitSuccessor P newCred signature metadata now =
      (.ok (), e.put (submitted e.params newCred now)) := by
  have hok := submitSuccessor_accepts.mpr h
  rcases submitSuccessor_cases P e now newCred signature metadata with ⟨exc, he⟩ | ⟨_, he⟩
  · rw [he] at hok
    cases hok
  · exact he

lemma checkpoint_cases :
    (∃ exc, e.checkpoint now = (.error exc, e)) ∨
    (∃ v3 exc, e.validating = some v3 ∧ v3.validationDeadline.getD 0 ≤ now ∧
      expired v3 now = true ∧ e.checkpoint now = (.error exc, e.put (retired v3 .expired))) ∨
    (∃ v3 v2 changed, e.validating = some v3 ∧ v3.validationDeadline.getD 0 ≤ now ∧
      expired v3 now = false ∧ e.active = some v2 ∧ expired v2 now = false ∧
      e.checkpoint now = (.ok changed,
        (e.terminateFallback.put (demoted e.params v2 now)).put (promoted v3 now))) := by
  rw [checkpoint]
  split
  · exact Or.inl ⟨_, rfl⟩
  · rename_i v3 hvalidating
    split_ifs with hdeadline hexpired
    · exact Or.inl ⟨_, rfl⟩
    · exact Or.inr (Or.inl ⟨v3, _, hvalidating, by omega, hexpired, rfl⟩)
    · split
      · exact Or.inl ⟨_, rfl⟩
      · rename_i v2 hactive
        split_ifs with hcover
        · exact Or.inl ⟨_, rfl⟩
        · exact Or.inr (Or.inr ⟨v3, v2, _, hvalidating, by omega, by simpa using hexpired, hactive,
            by simpa using hcover, rfl⟩)

variable {e now} in
lemma checkpoint_accepts : (∃ changed, (e.checkpoint now).1 = .ok changed) ↔ e.Checkpointable now := by
  constructor
  · rintro ⟨changed, hok⟩
    rcases checkpoint_cases e now with
      ⟨exc, he⟩ | ⟨v3, exc, _, _, _, he⟩ | ⟨v3, v2, changed, hv3, hd, hx3, hv2, hx2, _⟩
    · rw [he] at hok
      cases hok
    · rw [he] at hok
      cases hok
    · exact ⟨v3, v2, hv3, hd, hx3, hv2, hx2⟩
  · rintro ⟨v3, v2, hv3, hd, hx3, hv2, hx2⟩
    have hdeadline : ¬ now < v3.validationDeadline.getD 0 := by omega
    simp [checkpoint, hv3, hdeadline, hx3, hv2, hx2]

variable {e now} in
lemma checkpoint_isOk : (e.checkpoint now).1.isOk = true ↔ e.Checkpointable now := by
  rw [← checkpoint_accepts]
  cases (e.checkpoint now).1 with
  | error exc => exact iff_of_false Bool.false_ne_true fun ⟨_, h⟩ => by cases h
  | ok changed => exact iff_of_true rfl ⟨changed, rfl⟩

instance : Decidable (e.Checkpointable now) := decidable_of_iff _ checkpoint_isOk

variable {e now} in
lemma checkpoint_error {exc : Exn} (h : (e.checkpoint now).1 = .error exc) :
    ∃ code message, exc = .rotationError code message := by
  rw [checkpoint] at h
  split at h
  · exact ⟨_, _, (Except.error.inj h).symm⟩
  · split_ifs at h
    · exact ⟨_, _, (Except.error.inj h).symm⟩
    · exact ⟨_, _, (Except.error.inj h).symm⟩
    · split at h
      · exact ⟨_, _, (Except.error.inj h).symm⟩
      · split_ifs at h
        exact ⟨_, _, (Except.error.inj h).symm⟩

lemma rollback_cases :
    (∃ exc, e.rollback now = (.error exc, e)) ∨
    (∃ v3, e.validating = some v3 ∧
      e.rollback now = (.ok (retired v3 .terminated), e.put (retired v3 .terminated))) := by
  rw [rollback]
  split
  · exact Or.inl ⟨_, rfl⟩
  · rename_i v3 hvalidating
    exact Or.inr ⟨v3, hvalidating, rfl⟩

lemma revoke_cases (version : ℤ) :
    (∃ exc, e.revoke version now = (.error exc, e)) ∨
    (∃ cred, e.get version = some cred ∧
      e.revoke version now = (.ok (retired cred .revoked), e.put (retired cred .revoked))) := by
  rw [revoke]
  split
  · exact Or.inl ⟨_, rfl⟩
  · rename_i cred hcred
    exact Or.inr ⟨cred, hcred, rfl⟩

end Cases

end RotationEngine

end Secupload.Shared
