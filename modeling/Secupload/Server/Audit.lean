import Secupload.Library.Journal
import Secupload.Server.RegistryRuns

namespace Secupload.Shared

namespace RotationEngine

lemma checkpoint_changed {e e' : RotationEngine} {now : ℤ} {changed : List CredentialPublic}
    (h : e.checkpoint now = (.ok changed, e')) : ∃ v2 v3, e.active = some v2 ∧
      changed.getLast? = some (promoted v3 now) ∧
      e' = (e.terminateFallback.put (demoted e.params v2 now)).put (promoted v3 now) := by
  rw [checkpoint] at h
  split at h
  · cases congrArg Prod.fst h
  · rename_i v3 _
    split_ifs at h
    · cases congrArg Prod.fst h
    · cases congrArg Prod.fst h
    · split at h
      · cases congrArg Prod.fst h
      · rename_i v2 hv2
        split_ifs at h
        · cases congrArg Prod.fst h
        · obtain ⟨hchanged, rfl⟩ := Prod.mk.inj h
          obtain rfl := Except.ok.inj hchanged
          exact ⟨v2, v3, hv2, by simp, rfl⟩

end RotationEngine

end Secupload.Shared

namespace Secupload.Server

open Library Shared

inductive EventType
  | enrollment
  | recovery
  | authSuccess
  | authFailure
  | credentialGeneration
  | credentialValidation
  | credentialPromotion
  | credentialRollback
  | credentialRevocation
  | credentialExpiration
  | authorizationFailure
  | objectAccess
  | integrityFailure
  | replayRejection
  | registrySync
  | tlsFailure
  | transitionFailure
  deriving DecidableEq

def EventType.value : EventType → String
  | enrollment => "ENROLLMENT"
  | recovery => "RECOVERY"
  | authSuccess => "AUTH_SUCCESS"
  | authFailure => "AUTH_FAILURE"
  | credentialGeneration => "CREDENTIAL_GENERATION"
  | credentialValidation => "CREDENTIAL_VALIDATION"
  | credentialPromotion => "CREDENTIAL_PROMOTION"
  | credentialRollback => "CREDENTIAL_ROLLBACK"
  | credentialRevocation => "CREDENTIAL_REVOCATION"
  | credentialExpiration => "CREDENTIAL_EXPIRATION"
  | authorizationFailure => "AUTHORIZATION_FAILURE"
  | objectAccess => "OBJECT_ACCESS"
  | integrityFailure => "INTEGRITY_FAILURE"
  | replayRejection => "REPLAY_REJECTION"
  | registrySync => "REGISTRY_SYNC"
  | tlsFailure => "TLS_FAILURE"
  | transitionFailure => "TRANSITION_FAILURE"

-- a row of `audit_events`, of which the id is its place among the rows
structure AuditEvent where
  identityUuid : Option Uuid
  credentialVersion : Option ℤ
  eventType : EventType
  timestamp : ℤ
  source : String := "SERVER"
  result : String := "OK"
  deriving DecidableEq

structure AuditedRegistry where
  db : Database
  auditEvents : List AuditEvent

namespace AuditedRegistry

def empty : AuditedRegistry := ⟨Database.empty, []⟩

section Methods

-- `clock n` is what `time.time()` gives when the `n`-th row is written
variable (P : Primitives) (params : RotationParams) (clock : ℕ → ℤ) (r : AuditedRegistry)

def record (eventType : EventType) (identityUuid : Option Uuid) (credentialVersion : Option ℤ) :
    AuditedRegistry :=
  let event : AuditEvent :=
    { identityUuid, credentialVersion, eventType, timestamp := clock r.auditEvents.length }
  { r with auditEvents := r.auditEvents ++ [event] }

def audited {α : Type} (result : Outcome Database α) (recorded : α → AuditedRegistry → AuditedRegistry) :
    Outcome AuditedRegistry α :=
  match result with
  | (.error exc, db) => (.error exc, { r with db })
  | (.ok a, db) => (.ok a, recorded a { r with db })

def issueToken (token : String) (purpose : Purpose) (kind : IdentityKind) (ttl : ℤ)
    (identityUuid : Option Uuid) (now : Option ℤ) (time : ℤ) : Outcome AuditedRegistry String :=
  r.audited (r.db.issueToken P token purpose kind ttl identityUuid now time) fun _ r => r

-- `row.purpose` is read after the session is closed
def enroll (I : Uuid) (kind : IdentityKind) (token : String) (version : ℤ)
    (ed25519Public x25519Public : Bytes) (now : Option ℤ) (time : ℤ) :
    Outcome AuditedRegistry (Option CredentialPublic) :=
  let purpose := (r.db.tokens.get? (Database.hashToken P token)).map (·.purpose)
  r.audited (r.db.enroll P params I kind token version ed25519Public x25519Public now time) fun _ r =>
    r.record clock (if purpose = some .enroll then .enrollment else .recovery) (some I) (some version)

def submitSuccessor (I : Uuid) (newVersion : ℤ)
    (ed25519Public x25519Public signature transitionMetadata : Bytes) (now : ℤ) :
    Outcome AuditedRegistry (Option CredentialPublic) :=
  r.audited (r.db.submitSuccessor P params I newVersion ed25519Public x25519Public signature
      transitionMetadata now) fun _ r =>
    r.record clock .credentialGeneration (some I) (some newVersion)

def checkpoint (I : Uuid) (now : ℤ) : Outcome AuditedRegistry (List CredentialPublic) :=
  r.audited (r.db.checkpoint P params I now) fun changed r =>
    r.record clock .credentialPromotion (some I) (changed.getLast?.map (·.version))

def rollback (I : Uuid) (now : ℤ) : Outcome AuditedRegistry (Option CredentialPublic) :=
  r.audited (r.db.rollback P params I now) fun rolled r =>
    r.record clock .credentialRollback (some I) (rolled.map (·.version))

def revoke (I : Uuid) (version now : ℤ) : Outcome AuditedRegistry (Option CredentialPublic) :=
  r.audited (r.db.revoke P params I version now) fun _ r =>
    r.record clock .credentialRevocation (some I) (some version)

def recordExpired (I : Uuid) (changed : List CredentialPublic) : AuditedRegistry :=
  changed.foldl (fun r cred => r.record clock .credentialExpiration (some I) (some cred.version)) r

def expireEach (now : ℤ) :
    List Uuid → AuditedRegistry → Outcome AuditedRegistry (List (Uuid × CredentialPublic))
  | [], r => (.ok [], r)
  | ident :: idents, r =>
    (r.audited (r.db.call P params ident (.expireAll now)) fun changed r =>
        r.recordExpired clock ident changed).bind fun changed r =>
      (expireEach now idents r).map fun expired _ => changed.map (fun c => (ident, c)) ++ expired

def expireAll (now : ℤ) : Outcome AuditedRegistry (List (Uuid × CredentialPublic)) :=
  expireEach P params clock now (r.db.credentials.rows.map (·.identityUuid)).dedup r

end Methods

def step (P : Primitives) (params : RotationParams) (clock : ℕ → ℤ) (r : AuditedRegistry) :
    Database.RegistryOp → AuditedRegistry
  | .issueToken token purpose kind ttl identityUuid now time =>
    (r.issueToken P token purpose kind ttl identityUuid now time).2
  | .enroll I kind token version ed25519Public x25519Public now time =>
    (r.enroll P params clock I kind token version ed25519Public x25519Public now time).2
  | .submitSuccessor I newVersion ed25519Public x25519Public signature metadata now =>
    (r.submitSuccessor P params clock I newVersion ed25519Public x25519Public signature metadata now).2
  | .checkpoint I now => (r.checkpoint P params clock I now).2
  | .rollback I now => (r.rollback P params clock I now).2
  | .revoke I version now => (r.revoke P params clock I version now).2
  | .expireAll now => (r.expireAll P params clock now).2

end AuditedRegistry

namespace AuditedRegistry

section Step

variable (P : Primitives) (params : RotationParams) (clock : ℕ → ℤ) (r : AuditedRegistry)

@[simp] lemma record_db (eventType : EventType) (identityUuid : Option Uuid)
    (credentialVersion : Option ℤ) :
    (r.record clock eventType identityUuid credentialVersion).db = r.db := rfl

@[simp] lemma recordExpired_db (I : Uuid) (changed : List CredentialPublic) :
    (r.recordExpired clock I changed).db = r.db := by
  induction changed generalizing r with
  | nil => rfl
  | cons c changed ih => exact ih _

lemma audited_db {α : Type} (result : Outcome Database α)
    {recorded : α → AuditedRegistry → AuditedRegistry} (h : ∀ a r, (recorded a r).db = r.db) :
    (r.audited result recorded).2.db = result.2 ∧ (r.audited result recorded).1 = result.1 := by
  obtain ⟨_ | a, db⟩ := result
  · exact ⟨rfl, rfl⟩
  · exact ⟨h a _, rfl⟩

lemma expireEach_db (now : ℤ) (idents : List Uuid) :
    (expireEach P params clock now idents r).2.db = (Database.expireEach P params now idents r.db).2 := by
  induction idents generalizing r with
  | nil => rfl
  | cons ident idents ih =>
    have hsame : ∀ changed (r : AuditedRegistry), (r.recordExpired clock ident changed).db = r.db := by simp
    have hdb := r.audited_db (r.db.call P params ident (.expireAll now)) hsame
    rw [expireEach, Database.expireEach, Outcome.bind, Outcome.bind, hdb.2, ← hdb.1]
    split
    · rfl
    · rw [Outcome.map_snd, Outcome.map_snd, ih]

lemma step_db (op : Database.RegistryOp) : (step P params clock r op).db = Database.registryStep P params r.db op := by
  cases op with
  | expireAll now => exact expireEach_db P params clock r now _
  | _ => exact (r.audited_db _ (by simp)).1

lemma record_grows (eventType : EventType) (identityUuid : Option Uuid) (credentialVersion : Option ℤ) :
    r.auditEvents <+: (r.record clock eventType identityUuid credentialVersion).auditEvents :=
  List.prefix_append _ _

lemma recordExpired_grows (I : Uuid) (changed : List CredentialPublic) :
    r.auditEvents <+: (r.recordExpired clock I changed).auditEvents := by
  induction changed generalizing r with
  | nil => exact List.prefix_refl _
  | cons c changed ih => exact (r.record_grows clock _ _ _).trans (ih _)

lemma audited_grows {α : Type} (result : Outcome Database α)
    {recorded : α → AuditedRegistry → AuditedRegistry}
    (h : ∀ a r, r.auditEvents <+: (recorded a r).auditEvents) :
    r.auditEvents <+: (r.audited result recorded).2.auditEvents := by
  obtain ⟨_ | a, db⟩ := result
  · exact List.prefix_refl _
  · exact h a { r with db }

lemma expireEach_grows (now : ℤ) (idents : List Uuid) :
    r.auditEvents <+: (expireEach P params clock now idents r).2.auditEvents := by
  induction idents generalizing r with
  | nil => exact List.prefix_refl _
  | cons ident idents ih =>
    have hgrows := r.audited_grows (r.db.call P params ident (.expireAll now))
      fun changed r => r.recordExpired_grows clock ident changed
    rw [expireEach, Outcome.bind]
    split
    · exact hgrows
    · exact hgrows.trans (ih _)

lemma step_grows (op : Database.RegistryOp) : r.auditEvents <+: (step P params clock r op).auditEvents := by
  cases op with
  | issueToken token purpose kind ttl identityUuid now time =>
    exact r.audited_grows _ fun _ _ => List.prefix_refl _
  | expireAll now => exact expireEach_grows P params clock r now _
  | _ => exact r.audited_grows _ fun _ r => r.record_grows clock _ _ _

def journal : Journal AuditedRegistry Database.RegistryOp AuditEvent where
  step := step P params clock
  trail := auditEvents
  grows := step_grows P params clock

end Step

end AuditedRegistry

abbrev Statuses := Uuid → ℤ → Option CredentialStatus

namespace Statuses

def set (s : Statuses) (I : Uuid) (v : ℤ) (status : CredentialStatus) : Statuses :=
  fun J w => if J = I ∧ w = v then some status else s J w

def mapOf (s : Statuses) (I : Uuid) (f : CredentialStatus → CredentialStatus) : Statuses :=
  fun J w => if J = I then (s J w).map f else s J w

def revoked : CredentialStatus → CredentialStatus
  | .active | .fallback => .revoked
  | status => status

def succeeded : CredentialStatus → CredentialStatus
  | .active => .fallback
  | .fallback => .terminated
  | status => status

def apply (s : Statuses) (event : AuditEvent) : Statuses :=
  match event.identityUuid, event.credentialVersion with
  | some I, some v =>
    match event.eventType with
    | .enrollment => s.set I v .active
    | .recovery => (s.mapOf I revoked).set I v .active
    | .credentialGeneration => s.set I v .validating
    | .credentialPromotion => (s.mapOf I succeeded).set I v .active
    | .credentialRollback => s.set I v .terminated
    | .credentialRevocation => s.set I v .revoked
    | .credentialExpiration => s.set I v .expired
    | _ => s
  | _, _ => s

end Statuses

def Database.statuses (db : Database) : Statuses := fun I v => (db.credential I v).map (·.status)

namespace Statuses

variable {s : Statuses} {I : Uuid} {v : ℤ}

lemma foldl_expired (rows : List CredentialPublic) (J : Uuid) (w : ℤ) :
    (rows.foldl (fun s c => s.set I c.version .expired) s) J w =
      if J = I ∧ w ∈ rows.map (·.version) then some .expired else s J w := by
  induction rows generalizing s with
  | nil => simp
  | cons c rows ih =>
    rw [List.foldl_cons, ih, set]
    by_cases hJ : J = I <;> by_cases hw : w = c.version <;> simp [hJ, hw]

end Statuses

namespace Database

open Shared.RotationEngine (demoted promoted retired submitted ended sweep sweeps)

section Statuses

variable {P : Primitives} {params : RotationParams} {db db' : Database} {I : Uuid} {e e' : RotationEngine}

lemma statuses_loaded (hload : db.loadEngine params I = some e) (v : ℤ) : db.statuses I v = e.statusAt v := by
  rw [statuses, ← loadEngine_get hload]
  rfl

lemma statuses_call {c : Call} {changed : List CredentialPublic} (hload : db.loadEngine params I = some e)
    (he : (c.transition I).exec P e = (.ok changed, e')) :
    (db.call P params I c).2.statuses = fun J v => if J = I then e'.statusAt v else db.statuses J v := by
  funext J v
  rw [statuses]
  split
  · rename_i hJ
    rw [hJ, credential_call hload he]
    rfl
  · rename_i hJ
    rw [(call_touches P params db I c).others J hJ]
    rfl

lemma statuses_put (hload : db.loadEngine params I = some e) (c : CredentialPublic) :
    (fun J v => if J = I then (e.put c).statusAt v else db.statuses J v) =
      db.statuses.set I c.version c.status := by
  funext J v
  rw [Statuses.set, RotationEngine.statusAt_put]
  by_cases hJ : J = I
  · subst hJ
    rw [statuses_loaded hload]
    simp [eq_comm]
  · simp [hJ]

lemma statuses_promote (hload : db.loadEngine params I = some e) (hwindow : e.WindowInv)
    {v2 v3 : CredentialPublic} (hv2 : e.active = some v2) (now : ℤ) :
    (fun J v => if J = I then
        ((e.terminateFallback.put (demoted e.params v2 now)).put (promoted v3 now)).statusAt v
      else db.statuses J v) = (db.statuses.mapOf I Statuses.succeeded).set I v3.version .active := by
  have hactive : e.statusAt v2.version = some .active := RotationEngine.statusAt_of_byStatus hv2
  funext J v
  rw [Statuses.set, Statuses.mapOf, hwindow.statusAt_promote]
  by_cases hJ : J = I
  · subst hJ
    rw [if_pos rfl, if_pos rfl, statuses_loaded hload]
    by_cases h3 : v3.version = v
    · rw [if_pos h3, if_pos ⟨rfl, h3.symm⟩]
    · have h3' : ¬ (J = J ∧ v = v3.version) := fun h => h3 h.2.symm
      rw [if_neg h3, if_neg h3']
      by_cases h2 : v2.version = v
      · rw [if_pos h2, ← h2, hactive]
        rfl
      · rw [if_neg h2, RotationEngine.statusAt, Option.map_map]
        cases hc : e.get v with
        | none => rfl
        | some c =>
          have hne : c.status ≠ .active := by
            intro hs
            have hat : e.statusAt v = some .active := by rw [RotationEngine.statusAt_of_get hc, hs]
            exact h2 (hwindow.statusAt_unique hactive hat rfl)
          rw [Option.map_some, Option.map_some, Function.comp_apply, ended]
          cases hs : c.status <;> simp_all [retired, Statuses.succeeded]
  · simp [hJ]

lemma statuses_expire (hload : db.loadEngine params I = some e) (now : ℤ) :
    (fun J v => if J = I then (e.expireAll now).2.statusAt v else db.statuses J v) =
      ((e.creds.rows.filter (sweeps now)).map fun c => retired c .expired).foldl
        (fun s c => s.set I c.version .expired) db.statuses := by
  funext J v
  rw [Statuses.foldl_expired, List.map_map]
  by_cases hJ : J = I
  · subst hJ
    rw [if_pos rfl, statuses_loaded hload, RotationEngine.statusAt, RotationEngine.statusAt,
      RotationEngine.expireAll_get]
    have hmem : v ∈ (e.creds.rows.filter (sweeps now)).map ((·.version) ∘ fun c => retired c .expired) ↔
        ∃ c, e.get v = some c ∧ sweeps now c = true := by
      simp only [List.mem_map, List.mem_filter, RotationEngine.get_eq_some, Function.comp_apply, retired]
      constructor
      · rintro ⟨c, ⟨hc, hs⟩, hv⟩
        exact ⟨c, ⟨hc, hv⟩, hs⟩
      · rintro ⟨c, ⟨hc, hv⟩, hs⟩
        exact ⟨c, ⟨hc, hs⟩, hv⟩
    by_cases hswept : ∃ c, e.get v = some c ∧ sweeps now c = true
    · obtain ⟨c, hc, hs⟩ := hswept
      rw [if_pos ⟨rfl, hmem.mpr ⟨c, hc, hs⟩⟩, hc, Option.map_some, Option.map_some, sweep, if_pos hs]
      rfl
    · rw [if_neg fun h => hswept (hmem.mp h.2)]
      cases hc : e.get v with
      | none => rfl
      | some c =>
        have hs : ¬ sweeps now c = true := fun hs => hswept ⟨c, hc, hs⟩
        rw [Option.map_some, Option.map_some, sweep, if_neg hs]
        rfl
  · simp [hJ]

end Statuses

end Database

namespace Database

-- a recovery that is refused after its first commit has revoked something
def Silent (P : Primitives) (db : Database) : RegistryOp → Prop
  | .enroll I kind token version _ _ now time => ∃ row, db.tokens.get? (hashToken P token) = some row ∧
      db.Admits I kind (intOr now time) row ∧ row.purpose = .recover ∧ db.RefusedLate I version row ∧
      ∃ v, db.statuses I v = some .active ∨ db.statuses I v = some .fallback
  | _ => False

section Enroll

variable {P : Primitives} {params : RotationParams} {db db' final : Database} {I : Uuid} {kind : IdentityKind}
  {now : ℤ} {row : EnrollmentToken}

lemma status_recovered (c : CredentialPublic) : (recovered c).status = Statuses.revoked c.status := by
  rw [recovered]
  cases hs : c.status <;> simp [hs, Statuses.revoked, RotationEngine.retired]

lemma Redeemed.statuses (h : db.Redeemed I kind now row db') : db'.statuses =
    if row.purpose = .recover then db.statuses.mapOf I Statuses.revoked else db.statuses := by
  funext J v
  rw [Database.statuses, h.credential]
  by_cases hp : row.purpose = .recover
  · rw [if_pos hp, Statuses.mapOf]
    by_cases hJ : J = I
    · rw [if_pos ⟨hJ, hp⟩, if_pos hJ, Database.statuses, Option.map_map, Option.map_map]
      exact congrArg (Option.map · _) (funext status_recovered)
    · rw [if_neg fun h => hJ h.1, if_neg hJ]
      rfl
  · rw [if_neg fun h => hp h.2, if_neg hp]
    rfl

lemma Provisioned.statuses {cred : CredentialPublic} (h : Provisioned cred db final) :
    final.statuses = db.statuses.set cred.identityUuid cred.version cred.status := by
  funext J v
  rw [Database.statuses, h.credential, Statuses.set]
  split
  · rfl
  · rfl

lemma Redeemed.told (h : db.Redeemed I kind now row db') (hadmits : db.Admits I kind now row) (v : ℤ)
    (timestamp : ℤ) : db'.statuses.set I v .active = db.statuses.apply
      { identityUuid := some I, credentialVersion := some v, timestamp
        eventType := if some row.purpose = some .enroll then .enrollment else .recovery } := by
  rw [h.statuses]
  have hpurpose := hadmits.2.2
  cases hp : row.purpose with
  | enroll => rfl
  | recover => rfl
  | other name =>
    rw [hp] at hpurpose
    have hnone : db.statuses.mapOf I Statuses.revoked = db.statuses := by
      funext J w
      rw [Statuses.mapOf]
      split
      · rename_i hJ
        rw [hJ, Database.statuses, hpurpose w]
        rfl
      · rfl
    change db.statuses.set I v .active = (db.statuses.mapOf I Statuses.revoked).set I v .active
    rw [hnone]

lemma revoked_eq_self (s : Statuses) :
    s.mapOf I Statuses.revoked = s ↔ ¬ ∃ v, s I v = some .active ∨ s I v = some .fallback := by
  constructor
  · rintro h ⟨v, hv⟩
    have hat := congrFun (congrFun h I) v
    rw [Statuses.mapOf, if_pos rfl] at hat
    rcases hv with hv | hv <;> rw [hv] at hat <;> cases hat
  · intro h
    funext J v
    rw [Statuses.mapOf]
    split
    · rename_i hJ
      subst hJ
      cases hv : s J v with
      | none => rfl
      | some status =>
        cases status with
        | active => exact (h ⟨v, Or.inl hv⟩).elim
        | fallback => exact (h ⟨v, Or.inr hv⟩).elim
        | _ => rfl
    · rfl

end Enroll

end Database

namespace AuditedRegistry

def Tells (r r' : AuditedRegistry) : Prop :=
  ∃ events, r'.auditEvents = r.auditEvents ++ events ∧
    r'.db.statuses = events.foldl Statuses.apply r.db.statuses

section Tells

variable {P : Primitives} {params : RotationParams} {clock : ℕ → ℤ} {r r' r'' : AuditedRegistry}
  {I : Uuid} {db : Database}

lemma Tells.nothing (h : db.statuses = r.db.statuses) : r.Tells { r with db } :=
  ⟨[], (List.append_nil _).symm, h⟩

lemma Tells.trans (h : r.Tells r') (k : r'.Tells r'') : r.Tells r'' := by
  obtain ⟨events, htrail, hstatuses⟩ := h
  obtain ⟨events', htrail', hstatuses'⟩ := k
  refine ⟨events ++ events', ?_, ?_⟩
  · rw [htrail', htrail, List.append_assoc]
  · rw [hstatuses', hstatuses, List.foldl_append]

lemma Tells.record {eventType : EventType} {identityUuid : Option Uuid} {credentialVersion : Option ℤ}
    (h : ∀ timestamp, db.statuses =
      r.db.statuses.apply { identityUuid, credentialVersion, eventType, timestamp }) :
    r.Tells (({ r with db } : AuditedRegistry).record clock eventType identityUuid credentialVersion) :=
  ⟨_, rfl, h _⟩

lemma tells_recordExpired (changed : List CredentialPublic)
    (h : db.statuses = changed.foldl (fun s c => s.set I c.version .expired) r.db.statuses) :
    r.Tells (({ r with db } : AuditedRegistry).recordExpired clock I changed) := by
  suffices ∀ r : AuditedRegistry, ∃ events, (r.recordExpired clock I changed).auditEvents =
      r.auditEvents ++ events ∧ ∀ s : Statuses, events.foldl Statuses.apply s =
        changed.foldl (fun s c => s.set I c.version .expired) s by
    obtain ⟨events, htrail, hevents⟩ := this { r with db }
    refine ⟨events, htrail, ?_⟩
    rw [recordExpired_db, hevents, h]
  clear h
  induction changed with
  | nil => exact fun r => ⟨[], (List.append_nil _).symm, fun _ => rfl⟩
  | cons c changed ih =>
    intro r
    obtain ⟨events, htrail, hevents⟩ :=
      ih (r.record clock .credentialExpiration (some I) (some c.version))
    refine ⟨_ :: events, htrail.trans (List.append_assoc _ _ _), fun s => ?_⟩
    rw [List.foldl_cons, List.foldl_cons, hevents]
    rfl

lemma tells_call {β : Type} {c : Call} {f : List CredentialPublic → Database → β}
    {recorded : β → AuditedRegistry → AuditedRegistry}
    (h : ∀ e changed e', r.db.loadEngine params I = some e → (c.transition I).exec P e = (.ok changed, e') →
      r.Tells (recorded (f changed (r.db.call P params I c).2)
        { r with db := (r.db.call P params I c).2 })) :
    r.Tells (r.audited ((r.db.call P params I c).map f) recorded).2 := by
  rcases Database.call_cases P params r.db I c with ⟨exc, he⟩ | ⟨e, changed, e', hload, he, hs⟩
  · rw [he]
    exact .nothing rfl
  · have htold := h e changed e' hload he
    rw [hs] at htold ⊢
    exact htold

variable (r)

lemma tells_submitSuccessor (I : Uuid) (newVersion : ℤ)
    (ed25519Public x25519Public signature metadata : Bytes) (now : ℤ) :
    r.Tells (r.submitSuccessor P params clock I newVersion ed25519Public x25519Public signature metadata
      now).2 := by
  refine tells_call fun e changed e' hload he => .record fun _ => ?_
  rw [Database.statuses_call hload he]
  rcases RotationEngine.submitSuccessor_cases P e now
    (newCredential I newVersion ed25519Public x25519Public) signature metadata with ⟨exc, hr⟩ | ⟨_, hr⟩
  · rw [Call.transition, RotationEngine.Transition.exec, hr] at he
    cases congrArg Prod.fst he
  · rw [Call.transition, RotationEngine.Transition.exec, hr] at he
    obtain rfl := congrArg Prod.snd he
    exact Database.statuses_put hload _

lemma tells_checkpoint (hwindow : r.db.Windowed params) (I : Uuid) (now : ℤ) :
    r.Tells (r.checkpoint P params clock I now).2 := by
  rw [checkpoint, Database.checkpoint, ← Outcome.map_id (r.db.call P params I (.checkpoint now))]
  refine tells_call fun e changed e' hload he => ?_
  obtain ⟨v2, v3, hv2, hchanged, hpromoted⟩ := RotationEngine.checkpoint_changed he
  refine .record fun _ => ?_
  rw [Database.statuses_call hload he, hpromoted,
    Database.statuses_promote hload (hwindow I e hload) hv2, hchanged]
  rfl

lemma tells_rollback (I : Uuid) (now : ℤ) : r.Tells (r.rollback P params clock I now).2 := by
  refine tells_call fun e changed e' hload he => .record fun _ => ?_
  rw [Database.statuses_call hload he]
  rcases RotationEngine.rollback_cases e now with ⟨exc, hr⟩ | ⟨v3, _, hr⟩
  · rw [Call.transition, RotationEngine.Transition.exec, hr] at he
    cases congrArg Prod.fst he
  · rw [Call.transition, RotationEngine.Transition.exec, hr] at he
    obtain ⟨hchanged, rfl⟩ := Prod.mk.inj he
    obtain rfl := Except.ok.inj hchanged
    exact Database.statuses_put hload _

lemma tells_revoke (I : Uuid) (version now : ℤ) :
    r.Tells (r.revoke P params clock I version now).2 := by
  refine tells_call fun e changed e' hload he => .record fun _ => ?_
  rw [Database.statuses_call hload he]
  rcases RotationEngine.revoke_cases e now version with ⟨exc, hr⟩ | ⟨cred, hcred, hr⟩
  · rw [Call.transition, RotationEngine.Transition.exec, hr] at he
    cases congrArg Prod.fst he
  · rw [Call.transition, RotationEngine.Transition.exec, hr] at he
    obtain rfl := congrArg Prod.snd he
    obtain rfl := (RotationEngine.get_eq_some.mp hcred).2
    exact Database.statuses_put hload _

lemma tells_expireEach (now : ℤ) (idents : List Uuid) :
    r.Tells (expireEach P params clock now idents r).2 := by
  induction idents generalizing r with
  | nil => exact .nothing rfl
  | cons ident idents ih =>
    have hcall : r.Tells (r.audited (r.db.call P params ident (.expireAll now))
        fun changed r => r.recordExpired clock ident changed).2 := by
      rw [← Outcome.map_id (r.db.call P params ident (.expireAll now))]
      refine tells_call fun e changed e' hload he => tells_recordExpired changed ?_
      rw [Database.statuses_call hload he]
      obtain ⟨hchanged, rfl⟩ := Prod.mk.inj he
      obtain rfl := Except.ok.inj hchanged
      exact Database.statuses_expire hload now
    rw [expireEach, Outcome.bind]
    split
    · exact hcall
    · exact hcall.trans (ih _)

lemma tells_nothing_iff : r.Tells { r with db } ↔ db.statuses = r.db.statuses := by
  refine ⟨?_, Tells.nothing⟩
  rintro ⟨events, htrail, hstatuses⟩
  obtain rfl : events = [] := by simpa using htrail
  exact hstatuses

lemma tells_unrecorded {α : Type} {result : Outcome Database α} (h : result.2.statuses = r.db.statuses) :
    r.Tells (r.audited result fun _ r => r).2 := by
  obtain ⟨_ | _, db⟩ := result
  · exact .nothing h
  · exact .nothing h

lemma tells_enroll_iff (I : Uuid) (kind : IdentityKind) (token : String) (version : ℤ)
    (ed25519Public x25519Public : Bytes) (now : Option ℤ) (time : ℤ) :
    r.Tells (r.enroll P params clock I kind token version ed25519Public x25519Public now time).2 ↔
      ¬ r.db.Silent P (.enroll I kind token version ed25519Public x25519Public now time) := by
  rw [enroll]
  rcases Database.enroll_cases P params r.db I kind token version ed25519Public x25519Public now time with
    ⟨hno, code, message, he⟩ |
    ⟨row, db', hrow, hadmits, hr, ⟨hlate, code, message, he⟩ | ⟨hlate, final, he, hfinal⟩⟩
  · rw [he]
    refine iff_of_true (.nothing rfl) ?_
    rintro ⟨row, hrow, hadmits, _⟩
    exact hno row hrow hadmits
  · rw [he]
    change r.Tells { r with db := db' } ↔ _
    rw [r.tells_nothing_iff, hr.statuses]
    have honly : r.db.Silent P (.enroll I kind token version ed25519Public x25519Public now time) ↔
        row.purpose = .recover ∧ ∃ v, r.db.statuses I v = some .active ∨ r.db.statuses I v = some .fallback := by
      constructor
      · rintro ⟨row', hrow', _, hp, _, husable⟩
        obtain rfl := Option.some.inj (hrow.symm.trans hrow')
        exact ⟨hp, husable⟩
      · rintro ⟨hp, husable⟩
        exact ⟨row, hrow, hadmits, hp, hlate, husable⟩
    rw [honly]
    by_cases hp : row.purpose = .recover
    · rw [if_pos hp, Database.revoked_eq_self]
      simp [hp]
    · simp [hp]
  · rw [he]
    refine iff_of_true (.record fun timestamp => ?_) ?_
    · rw [hfinal.statuses, hrow]
      exact hr.told hadmits version timestamp
    · rintro ⟨row', hrow', _, _, hsilent, _⟩
      obtain rfl := Option.some.inj (hrow.symm.trans hrow')
      exact hlate hsilent

lemma tells_step_iff (hwindow : r.db.Windowed params) (op : Database.RegistryOp) :
    r.Tells (step P params clock r op) ↔ ¬ r.db.Silent P op := by
  cases op with
  | issueToken token purpose kind ttl identityUuid now time =>
    refine iff_of_true (r.tells_unrecorded ?_) not_false
    rcases Database.issueToken_cases P r.db token purpose kind ttl identityUuid now time with he | ⟨row, he⟩
    · rw [he]
    · rw [he]
      rfl
  | enroll I kind token version ed25519Public x25519Public now time => exact r.tells_enroll_iff ..
  | submitSuccessor I newVersion ed25519Public x25519Public signature metadata now =>
    exact iff_of_true (r.tells_submitSuccessor ..) not_false
  | checkpoint I now => exact iff_of_true (r.tells_checkpoint hwindow I now) not_false
  | rollback I now => exact iff_of_true (r.tells_rollback I now) not_false
  | revoke I version now => exact iff_of_true (r.tells_revoke I version now) not_false
  | expireAll now => exact iff_of_true (r.tells_expireEach now _) not_false

end Tells

lemma accounts_iff (P : Primitives) (params : RotationParams) (clock : ℕ → ℤ) (r : AuditedRegistry)
    (op : Database.RegistryOp) :
    (journal P params clock).Accounts (fun r => r.db.statuses) Statuses.apply r op ↔
      r.Tells (step P params clock r op) := by
  constructor
  · exact fun h => ⟨_, (journal P params clock).trail_step r op, h⟩
  · rintro ⟨events, htrail, hstatuses⟩
    rw [Journal.Accounts, (journal P params clock).emitted_of_append htrail]
    exact hstatuses

lemma run_db (P : Primitives) (params : RotationParams) (clock : ℕ → ℤ) (r : AuditedRegistry)
    (ops : List Database.RegistryOp) :
    (run (step P params clock) r ops).db = run (Database.registryStep P params) r.db ops := by
  induction ops generalizing r with
  | nil => rfl
  | cons op ops ih => rw [run_cons, run_cons, ih, step_db]

lemma along_db (P : Primitives) (params : RotationParams) (clock : ℕ → ℤ)
    {C : Database → Database.RegistryOp → Prop} (r : AuditedRegistry) (ops : List Database.RegistryOp) :
    Along (step P params clock) (fun r op => C r.db op) r ops ↔
      Along (Database.registryStep P params) C r.db ops := by
  induction ops generalizing r with
  | nil => exact Iff.rfl
  | cons op ops ih => rw [along_cons, along_cons, ih, step_db]

theorem statuses_rebuilt_iff (P : Primitives) (params : RotationParams) (clock : ℕ → ℤ)
    (ops : List Database.RegistryOp) :
    (∀ pre, pre <+: ops →
      (run (step P params clock) empty pre).auditEvents.foldl Statuses.apply (fun _ _ => none) =
        (Database.reached P params pre).statuses) ↔
      Along (Database.registryStep P params) (fun db op => ¬ db.Silent P op) Database.empty ops := by
  have hwindowed : ∀ (r : AuditedRegistry) (op : Database.RegistryOp), r.db.Windowed params →
      (step P params clock r op).db.Windowed params := fun r op h => by
    rw [step_db]
    exact Database.windowed_step P h op
  have hrebuilds := (journal P params clock).rebuilds_run_iff hwindowed
    (fun r op h => (accounts_iff P params clock r op).trans (r.tells_step_iff h op))
    (Database.windowed_reached P params []) (rfl : (journal P params clock).Rebuilds
      (fun r => r.db.statuses) Statuses.apply (fun _ _ => none) empty) ops
  have halong := along_db P params clock (C := fun db op => ¬ db.Silent P op) empty ops
  refine Iff.trans (forall₂_congr fun pre _ => ?_) (hrebuilds.trans halong)
  have hdb : (run (step P params clock) empty pre).db = Database.reached P params pre :=
    run_db P params clock empty pre
  rw [← hdb]
  exact eq_comm

end AuditedRegistry

end Secupload.Server
