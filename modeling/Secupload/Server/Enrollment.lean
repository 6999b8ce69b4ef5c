import Secupload.Server.Registry

namespace Secupload.Server.Database

open Library Shared

def recovered (c : CredentialPublic) : CredentialPublic :=
  if c.status = .active ∨ c.status = .fallback then RotationEngine.retired c .revoked else c

lemma recovered_version (c : CredentialPublic) : (recovered c).version = c.version := by
  rw [recovered]
  split <;> rfl

lemma recovered_identity (c : CredentialPublic) : (recovered c).identityUuid = c.identityUuid := by
  rw [recovered]
  split <;> rfl

structure Becomes (db db' : Database) (f : Uuid → ℤ → Option CredentialPublic) : Prop where
  clients : db'.clients = db.clients
  proxies : db'.proxies = db.proxies
  tokens : db'.tokens = db.tokens
  credential : ∀ J v, db'.credential J v = f J v

section Revoke

variable {params : RotationParams} {I : Uuid} (now : ℤ)

lemma revokeUsable_eq {e : RotationEngine} {db : Database} {c : CredentialPublic}
    (hc : e.get c.version = some c) (hI : c.identityUuid = I)
    (hdb : db.credential I c.version = some c) :
    ∃ e' db', revokeUsable now (e, db) c = .ok (e', db') ∧
      (∀ v, v ≠ c.version → e'.get v = e.get v) ∧
      db.Becomes db' fun J v =>
        if J = I ∧ v = c.version then some (recovered c) else db.credential J v := by
  by_cases hs : c.status = .active ∨ c.status = .fallback
  · have hrevoke : e.revoke c.version now = (.ok (RotationEngine.retired c .revoked),
        e.put (RotationEngine.retired c .revoked)) := by
      simp [RotationEngine.revoke, hc]
    refine ⟨e.put (recovered c), db.savePublic (recovered c), ?_, ?_, rfl, rfl, rfl, ?_⟩
    · simp [revokeUsable, hs, hrevoke, RotationEngine.get_put, recovered, RotationEngine.retired]
    · intro v hv
      rw [RotationEngine.get_put, if_neg]
      rw [recovered_version]
      exact fun h => hv h.symm
    · intro J v
      rw [credential_savePublic, recovered_identity, recovered_version, hI]
      simp only [eq_comm]
  · refine ⟨e, db, by simp [revokeUsable, hs]; rfl, fun _ _ => rfl, rfl, rfl, rfl, ?_⟩
    intro J v
    split
    · rename_i h
      rw [h.1, h.2, hdb, recovered, if_neg hs]
    · rfl

lemma foldlM_revokeUsable {rows : List CredentialPublic} {e : RotationEngine} {db : Database}
    (hnodup : (rows.map (·.version)).Nodup)
    (hrows : ∀ c ∈ rows, e.get c.version = some c ∧ c.identityUuid = I ∧
      db.credential I c.version = some c) :
    ∃ e' db', rows.foldlM (revokeUsable now) (e, db) = .ok (e', db') ∧
      db.Becomes db' fun J v =>
        if J = I ∧ v ∈ rows.map (·.version) then (db.credential J v).map recovered
        else db.credential J v := by
  induction rows generalizing e db with
  | nil => exact ⟨e, db, rfl, rfl, rfl, rfl, by simp⟩
  | cons c rows ih =>
    obtain ⟨hc, hI, hdb⟩ := hrows c List.mem_cons_self
    obtain ⟨e₁, db₁, hstep, hget, hcl, hpr, htk, hcred⟩ := revokeUsable_eq now hc hI hdb
    obtain ⟨hnew, hnodup'⟩ := List.nodup_cons.mp hnodup
    have hrows₁ : ∀ d ∈ rows, e₁.get d.version = some d ∧ d.identityUuid = I ∧
        db₁.credential I d.version = some d := by
      intro d hd
      have hne : d.version ≠ c.version := by
        intro h
        exact hnew (List.mem_map.mpr ⟨d, hd, h⟩)
      obtain ⟨hd₁, hd₂, hd₃⟩ := hrows d (List.mem_cons_of_mem _ hd)
      refine ⟨(hget _ hne).trans hd₁, hd₂, ?_⟩
      rw [hcred, if_neg (fun h => hne h.2), hd₃]
    obtain ⟨e', db', hfold, hcl', hpr', htk', hcred'⟩ := ih hnodup' hrows₁
    refine ⟨e', db', ?_, hcl'.trans hcl, hpr'.trans hpr, htk'.trans htk, ?_⟩
    · rw [List.foldlM_cons, hstep]
      exact hfold
    · intro J v
      rw [hcred', hcred, List.map_cons]
      by_cases hJ : J = I
      · subst hJ
        by_cases hv : v = c.version
        · subst hv
          simp [hnew, hdb]
        · simp [hv]
      · simp [hJ]

lemma revoke_all {e : RotationEngine} {db : Database} (hload : db.loadEngine params I = some e) :
    ∃ e' db', e.all.foldlM (revokeUsable now) (e, db) = .ok (e', db') ∧
      db.Becomes db' fun J v =>
        if J = I then (db.credential J v).map recovered else db.credential J v := by
  have hrows : ∀ c ∈ e.all, e.get c.version = some c ∧ c.identityUuid = I ∧
      db.credential I c.version = some c := by
    intro c hc
    have hmem := RotationEngine.mem_all.mp hc
    have hget := RotationEngine.get_of_mem hmem
    exact ⟨hget, loadEngine_belongs hload c hmem, (loadEngine_get hload _).symm.trans hget⟩
  obtain ⟨e', db', hfold, hcl, hpr, htk, hcred⟩ := foldlM_revokeUsable now
    e.all_versions_nodup hrows
  refine ⟨e', db', hfold, hcl, hpr, htk, ?_⟩
  intro J v
  rw [hcred]
  by_cases hJ : J = I
  · subst hJ
    by_cases hv : v ∈ e.all.map (·.version)
    · simp [hv]
    · have hnone : db.credential J v = none := by
        rw [← loadEngine_get hload, RotationEngine.get_eq_none]
        intro c hc he
        exact hv (he ▸ List.mem_map_of_mem (RotationEngine.mem_all.mpr hc))
      simp [hnone]
  · simp [hJ]

end Revoke

section Redeem

variable (params : RotationParams) (db : Database) (I : Uuid) (kind : IdentityKind) (now : ℤ)

-- the checks of the first transaction
def Admits (row : EnrollmentToken) : Prop :=
  row.usedAt = none ∧ now ≤ row.expiresAt ∧
    match row.purpose with
    | .recover => row.identityUuid = some I ∧ db.identityRow I kind ≠ none ∧
        ∃ v, db.credential I v ≠ none
    | .enroll => db.identityRow I kind = none ∧ ∀ v, db.credential I v = none
    | .other _ => ∀ v, db.credential I v = none

structure Redeemed (row : EnrollmentToken) (db' : Database) : Prop where
  tokens : db'.tokens = db.tokens.set { row with usedAt := some now }
  identity : db'.identityRow I kind ≠ none
  clients : ∀ J, db.clients.get? J ≠ none → db'.clients.get? J ≠ none
  proxies : ∀ J, db.proxies.get? J ≠ none → db'.proxies.get? J ≠ none
  credential : ∀ J v, db'.credential J v =
    if J = I ∧ row.purpose = .recover then (db.credential J v).map recovered
    else db.credential J v

variable {params db I kind now} {row : EnrollmentToken} {tokenHash : Bytes}

lemma credential_some_of_load {e : RotationEngine} (h : db.loadEngine params I = some e) :
    ∃ v, db.credential I v ≠ none := by
  by_contra hno
  push Not at hno
  have hnone : db.loadEngine params I = none := loadEngine_eq_none.mpr hno
  rw [hnone] at h
  cases h

variable (params db I now) in
lemma recoverCredentials_cases (purpose : Purpose) :
    (∃ code message, db.recoverCredentials params I purpose now =
        .error (.registryError code message) ∧
      (purpose = .recover ↔ ∀ v, db.credential I v = none)) ∨
    (∃ db', db.recoverCredentials params I purpose now = .ok db' ∧
      (purpose = .recover ↔ ∃ v, db.credential I v ≠ none) ∧
      db.Becomes db' fun J v =>
        if J = I ∧ purpose = .recover then (db.credential J v).map recovered
        else db.credential J v) := by
  rw [recoverCredentials]
  split
  · rename_i hnone
    have hno := loadEngine_eq_none.mp hnone
    split
    · rename_i hp
      exact Or.inl ⟨_, _, rfl, by simp [hp, hno]⟩
    · rename_i hp
      exact Or.inr ⟨db, rfl, by simp [hp, hno], rfl, rfl, rfl, by simp [hp]⟩
  · rename_i e hload
    obtain ⟨v, hv⟩ := credential_some_of_load hload
    split
    · rename_i hp
      obtain ⟨e', db', hfold, hcl, hpr, htk, hcred⟩ := revoke_all now hload
      refine Or.inr ⟨db', by rw [hfold]; rfl, ?_, hcl, hpr, htk, by simpa [hp] using hcred⟩
      exact iff_of_true hp ⟨v, hv⟩
    · rename_i hp
      exact Or.inl ⟨_, _, rfl, iff_of_false hp fun hno => hv (hno v)⟩

lemma addIdentity_row (db : Database) : (db.addIdentity I kind).identityRow I kind ≠ none := by
  rw [addIdentity, identityRow]
  split
  · rw [Table.get?_set, if_pos rfl]
    exact Option.some_ne_none _
  · rw [Table.get?_set, if_pos rfl]
    exact Option.some_ne_none _

lemma addIdentity_kept (db : Database) (J : Uuid) :
    (db.clients.get? J ≠ none → (db.addIdentity I kind).clients.get? J ≠ none) ∧
      (db.proxies.get? J ≠ none → (db.addIdentity I kind).proxies.get? J ≠ none) := by
  rw [addIdentity]
  split
  · refine ⟨fun h => ?_, id⟩
    rw [Table.get?_set]
    split
    · exact Option.some_ne_none _
    · exact h
  · refine ⟨id, fun h => ?_⟩
    rw [Table.get?_set]
    split
    · exact Option.some_ne_none _
    · exact h

variable (I kind) in
lemma addIdentity_rest (db : Database) :
    (db.addIdentity I kind).credentials = db.credentials ∧
      (db.addIdentity I kind).tokens = db.tokens := by
  rw [addIdentity]
  split <;> exact ⟨rfl, rfl⟩

lemma commitToken_redeemed {db' : Database} (h : db.Becomes db' fun J v =>
      if J = I ∧ row.purpose = .recover then (db.credential J v).map recovered
      else db.credential J v) :
    db.Redeemed I kind now row (db'.commitToken I kind (db.identityRow I kind) row now) := by
  obtain ⟨hcl, hpr, htk, hcred⟩ := h
  rw [commitToken]
  split
  · obtain ⟨hc, ht⟩ := addIdentity_rest I kind db'
    refine ⟨by rw [← htk, ← ht], addIdentity_row db', fun J h => ?_, fun J h => ?_, fun J v => ?_⟩
    · exact (addIdentity_kept db' J).1 (hcl ▸ h)
    · exact (addIdentity_kept db' J).2 (hpr ▸ h)
    · rw [← hcred J v]
      exact congrArg (Table.get? · (J, v)) hc
  · rename_i hknown
    refine ⟨by rw [← htk], ?_, fun J h => hcl ▸ h, fun J h => hpr ▸ h, hcred⟩
    simpa [identityRow, hcl, hpr] using hknown

variable (params) in
lemma redeemToken_cases (hrow : db.tokens.get? tokenHash = some row) :
    (¬ db.Admits I kind now row ∧ ∃ code message, db.redeemToken params I kind tokenHash now =
      .error (.registryError code message)) ∨
    (db.Admits I kind now row ∧ ∃ db', db.redeemToken params I kind tokenHash now =
      .ok (row, db') ∧ db.Redeemed I kind now row db') := by
  rw [redeemToken, hrow]
  dsimp only
  split_ifs with hused hexpired hbound hunknown henrolled
  · refine Or.inl ⟨fun h => ?_, _, _, rfl⟩
    simp [h.1] at hused
  · refine Or.inl ⟨fun h => ?_, _, _, rfl⟩
    exact absurd h.2.1 (not_le.mpr hexpired)
  · refine Or.inl ⟨fun h => ?_, _, _, rfl⟩
    have hp := h.2.2
    rw [hbound.1] at hp
    exact hbound.2 hp.1
  · refine Or.inl ⟨fun h => ?_, _, _, rfl⟩
    have hp := h.2.2
    rw [hunknown.1] at hp
    exact hp.2.1 hunknown.2
  · refine Or.inl ⟨fun h => ?_, _, _, rfl⟩
    have hp := h.2.2
    rw [henrolled.1] at hp
    exact henrolled.2 hp.1
  · have hunused : row.usedAt = none := by simpa using hused
    have hvalid : now ≤ row.expiresAt := not_lt.mp hexpired
    rcases recoverCredentials_cases params db I now row.purpose with
      ⟨code, message, he, hp⟩ | ⟨db', he, hp, hbecomes⟩
    · rw [he]
      refine Or.inl ⟨fun h => ?_, code, message, rfl⟩
      have hmatch := h.2.2
      cases hpurpose : row.purpose <;> simp_all
    · rw [he]
      refine Or.inr ⟨⟨hunused, hvalid, ?_⟩, _, rfl, ?_⟩
      · cases hpurpose : row.purpose <;> simp_all
      · exact commitToken_redeemed hbecomes

variable (params) in
lemma redeemToken_refused (h : ∀ row, db.tokens.get? tokenHash = some row → ¬ db.Admits I kind now row) :
    ∃ code message, db.redeemToken params I kind tokenHash now =
      .error (.registryError code message) := by
  cases hrow : db.tokens.get? tokenHash with
  | none => exact ⟨_, _, by rw [redeemToken, hrow]⟩
  | some row =>
    rcases redeemToken_cases params hrow with ⟨_, he⟩ | ⟨hadmits, _⟩
    · exact he
    · exact (h row hrow hadmits).elim

variable (params) in
lemma redeemToken_admitted (hrow : db.tokens.get? tokenHash = some row)
    (h : db.Admits I kind now row) :
    ∃ db', db.redeemToken params I kind tokenHash now = .ok (row, db') ∧
      db.Redeemed I kind now row db' := by
  rcases redeemToken_cases params hrow with ⟨hno, _⟩ | ⟨_, hok⟩
  · exact (hno h).elim
  · exact hok

end Redeem

section Provision

variable (params : RotationParams) (db : Database) (I : Uuid) (version : ℤ)
  (ed25519Public x25519Public : Bytes) (now : ℤ)

def enrolled : CredentialPublic :=
  RotationEngine.provisioned params (newCredential I version ed25519Public x25519Public) now

-- the checks that only the second transaction makes
def RefusedLate (row : EnrollmentToken) : Prop :=
  match row.purpose with
  | .enroll => version ≠ 1
  | .recover => (∃ v c, db.credential I v = some c ∧ c.status = .validating) ∨
      version ≠ (db.highestVersion I).getD 0 + 1
  | .other _ => False

variable {params db I version ed25519Public x25519Public now} {e : RotationEngine}

lemma maxVersion?_loadEngine (hload : db.loadEngine params I = some e) :
    e.maxVersion? = db.highestVersion I := by
  rw [RotationEngine.maxVersion?, (loadEngine_rows hload).2, highestVersion]

lemma highestVersion_congr {db' : Database} {f : CredentialPublic → CredentialPublic}
    (h : ∀ v, db'.credential I v = (db.credential I v).map f) :
    db'.highestVersion I = db.highestVersion I := by
  have hmem : ∀ v, v ∈ (db'.credentialRows I).map (·.version) ↔
      v ∈ (db.credentialRows I).map (·.version) := by
    intro v
    have hrow : ∀ db : Database, v ∈ (db.credentialRows I).map (·.version) ↔
        db.credential I v ≠ none := by
      intro db
      rw [Option.ne_none_iff_exists']
      simp only [List.mem_map, mem_credentialRows, credential_eq_some, and_assoc]
    rw [hrow, hrow, h v]
    simp
  apply Option.ext
  intro m
  simp only [highestVersion, List.max?_eq_some_iff, hmem]

lemma credential_provisioned (hload : db.loadEngine params I = some e ∨
      db.loadEngine params I = none ∧ e = RotationEngine.new params) (J : Uuid) (v : ℤ) :
    (db.saveAll (e.put (enrolled params I version ed25519Public x25519Public now))).credential J v =
      if J = I ∧ v = version then some (enrolled params I version ed25519Public x25519Public now)
      else db.credential J v := by
  have hget : ∀ v, e.get v = db.credential I v := by
    intro v
    rcases hload with hload | ⟨hnone, rfl⟩
    · exact loadEngine_get hload v
    · rw [loadEngine_eq_none.mp hnone v]
      rfl
  have hbelongs : e.BelongsTo I := by
    rcases hload with hload | ⟨hnone, rfl⟩
    · exact loadEngine_belongs hload
    · simp [RotationEngine.BelongsTo, RotationEngine.new]
  rw [credential_saveAll (hbelongs.put rfl), RotationEngine.get_put, hget]
  by_cases hJ : J = I
  · subst hJ
    by_cases hv : v = version
    · simp [hv, enrolled, RotationEngine.provisioned, newCredential]
    · have hv' : ¬ version = v := fun h => hv h.symm
      simp [hv, hv', enrolled, RotationEngine.provisioned, newCredential]
  · simp [hJ]

lemma apply_provision_new (hnone : ∀ v, db.credential I v = none) :
    db.apply params I (fun e => e.provisionInitial
        (newCredential I version ed25519Public x25519Public) now) true =
      (.ok (), db.saveAll ((RotationEngine.new params).put
        (enrolled params I version ed25519Public x25519Public now))) := by
  rw [apply, loadEngine_eq_none.mpr hnone]
  rfl

variable (version ed25519Public x25519Public) in
lemma provisionable_loaded (hload : db.loadEngine params I = some e)
    (hactive : ∀ v c, db.credential I v = some c → c.status ≠ .active) :
    e.Provisionable (newCredential I version ed25519Public x25519Public) ↔
      ¬ ((∃ v c, db.credential I v = some c ∧ c.status = .validating) ∨
        version ≠ (db.highestVersion I).getD 0 + 1) := by
  have hnoactive : e.active = none := by
    rw [RotationEngine.active, RotationEngine.byStatus_eq_none]
    intro c hc
    exact hactive c.version c (by rw [← loadEngine_get hload, RotationEngine.get_of_mem hc])
  have hvalidating : e.validating = none ↔
      ¬ ∃ v c, db.credential I v = some c ∧ c.status = .validating := by
    rw [RotationEngine.validating, RotationEngine.byStatus_eq_none]
    push Not
    constructor
    · intro h v c hc
      rw [← loadEngine_get hload] at hc
      exact h c (RotationEngine.get_eq_some.mp hc).1
    · intro h c hc
      exact h c.version c (by rw [← loadEngine_get hload, RotationEngine.get_of_mem hc])
  obtain ⟨m, hm⟩ : ∃ m, e.maxVersion? = some m := by
    obtain ⟨v, hv⟩ := credential_some_of_load hload
    obtain ⟨c, hc⟩ := Option.ne_none_iff_exists'.mp hv
    rw [← loadEngine_get hload] at hc
    exact ⟨_, RotationEngine.maxVersion?_of_mem (RotationEngine.get_eq_some.mp hc).1⟩
  have hhigh : (db.highestVersion I).getD 0 = m := by
    rw [← maxVersion?_loadEngine hload, hm]
    rfl
  rw [hhigh, not_or, ← hvalidating, not_not]
  constructor
  · intro h
    exact ⟨h.validating, h.order m hm⟩
  · rintro ⟨hv, hver⟩
    refine ⟨hnoactive, hv, fun k hk => ?_, rfl⟩
    obtain rfl := Option.some.inj (hm.symm.trans hk)
    exact hver

lemma apply_provision_loaded (hload : db.loadEngine params I = some e)
    (h : e.Provisionable (newCredential I version ed25519Public x25519Public)) :
    db.apply params I (fun e => e.provisionInitial
        (newCredential I version ed25519Public x25519Public) now) true =
      (.ok (), db.saveAll (e.put (enrolled params I version ed25519Public x25519Public now))) := by
  rw [apply, hload]
  dsimp only [transact]
  rw [RotationEngine.provisionInitial_ok now h, (loadEngine_rows hload).1]
  rfl

lemma apply_provision_refused (hload : db.loadEngine params I = some e)
    (h : ¬ e.Provisionable (newCredential I version ed25519Public x25519Public)) :
    ∃ code message, db.apply params I (fun e => e.provisionInitial
        (newCredential I version ed25519Public x25519Public) now) true =
      (.error (.registryError code message), db) := by
  obtain ⟨code, message, he⟩ := RotationEngine.provisionInitial_refused now h
  refine ⟨code, message, ?_⟩
  rw [apply, hload]
  dsimp only [transact]
  rw [he]
  rfl

end Provision

section Enroll

variable {P : Primitives} {params : RotationParams} {db : Database} {I : Uuid}
  {kind : IdentityKind} {token : String} {version : ℤ} {ed25519Public x25519Public : Bytes}
  {now : Option ℤ} {time : ℤ}

structure Provisioned (cred : CredentialPublic) (db db' : Database) : Prop where
  clients : db'.clients = db.clients
  proxies : db'.proxies = db.proxies
  tokens : db'.tokens = db.tokens
  credential : ∀ J v, db'.credential J v =
    if J = cred.identityUuid ∧ v = cred.version then some cred else db.credential J v

lemma provisioned_saveAll {e : RotationEngine} {t : ℤ} (hload : db.loadEngine params I = some e ∨
      db.loadEngine params I = none ∧ e = RotationEngine.new params) :
    Provisioned (enrolled params I version ed25519Public x25519Public t) db
      (db.saveAll (e.put (enrolled params I version ed25519Public x25519Public t))) :=
  ⟨saveAll_clients, saveAll_proxies, saveAll_tokens, credential_provisioned hload⟩

lemma recovered_status (c : CredentialPublic) :
    (recovered c).status ≠ .active ∧ ((recovered c).status = .validating ↔ c.status = .validating) := by
  rw [recovered]
  split
  · rename_i h
    refine ⟨by simp [RotationEngine.retired], ?_⟩
    rcases h with h | h <;> simp [RotationEngine.retired, h]
  · rename_i h
    exact ⟨fun ha => h (Or.inl ha), Iff.rfl⟩

lemma recovered_inWindow {c : CredentialPublic} (h : (recovered c).status.inWindow = true) :
    c.status = .validating := by
  rw [recovered] at h
  split at h
  · cases h
  · rename_i hs
    cases hc : c.status <;> simp_all [CredentialStatus.inWindow]

variable (params version ed25519Public x25519Public) in
lemma recover_cases {row : EnrollmentToken} {db' : Database} {t : ℤ} (hp : row.purpose = .recover)
    (hadmits : db.Admits I kind t row) (hredeemed : db.Redeemed I kind t row db') :
    (db.RefusedLate I version row ∧ ∃ code message, db'.apply params I (fun e => e.provisionInitial
        (newCredential I version ed25519Public x25519Public) t) true =
          (.error (.registryError code message), db')) ∨
    (¬ db.RefusedLate I version row ∧ ∃ final, db'.apply params I (fun e => e.provisionInitial
        (newCredential I version ed25519Public x25519Public) t) true = (.ok (), final) ∧
          Provisioned (enrolled params I version ed25519Public x25519Public t) db' final) := by
  have hcred : ∀ v, db'.credential I v = (db.credential I v).map recovered := by
    intro v
    rw [hredeemed.credential, if_pos ⟨rfl, hp⟩]
  have hadmit := hadmits.2.2
  rw [hp] at hadmit
  obtain ⟨v, hv⟩ := hadmit.2.2
  have hactive : ∀ v c, db'.credential I v = some c → c.status ≠ .active := by
    intro v c hc
    rw [hcred] at hc
    obtain ⟨d, _, rfl⟩ := Option.map_eq_some_iff.mp hc
    exact (recovered_status d).1
  have hlate : db.RefusedLate I version row ↔
      (∃ v c, db'.credential I v = some c ∧ c.status = .validating) ∨
        version ≠ (db'.highestVersion I).getD 0 + 1 := by
    rw [RefusedLate, hp, highestVersion_congr hcred]
    simp only [hcred, Option.map_eq_some_iff]
    apply or_congr_left
    constructor
    · rintro ⟨v, c, hc, hs⟩
      exact ⟨v, recovered c, ⟨c, hc, rfl⟩, (recovered_status c).2.mpr hs⟩
    · rintro ⟨v, c, ⟨d, hd, rfl⟩, hs⟩
      exact ⟨v, d, hd, (recovered_status d).2.mp hs⟩
  cases hload : db'.loadEngine params I with
  | none =>
    have hnone := loadEngine_eq_none.mp hload v
    rw [hcred, Option.map_eq_none_iff] at hnone
    exact (hv hnone).elim
  | some e =>
    have hprov := provisionable_loaded version ed25519Public x25519Public hload hactive
    rw [← hlate] at hprov
    by_cases h : e.Provisionable (newCredential I version ed25519Public x25519Public)
    · exact Or.inr ⟨hprov.mp h, _, apply_provision_loaded hload h, provisioned_saveAll (Or.inl hload)⟩
    · exact Or.inl ⟨by_contra fun hl => h (hprov.mpr hl), apply_provision_refused hload h⟩

lemma apply_first {row : EnrollmentToken} {db' : Database} {t : ℤ}
    (hredeemed : db.Redeemed I kind t row db') (hp : row.purpose ≠ .recover)
    (hnone : ∀ v, db.credential I v = none) :
    ∃ final, db'.apply params I (fun e => e.provisionInitial
        (newCredential I version ed25519Public x25519Public) t) true = (.ok (), final) ∧
      Provisioned (enrolled params I version ed25519Public x25519Public t) db' final := by
  have hnone' : ∀ v, db'.credential I v = none := by
    intro v
    rw [hredeemed.credential, if_neg (fun h => hp h.2), hnone]
  exact ⟨_, apply_provision_new hnone',
    provisioned_saveAll (Or.inr ⟨loadEngine_eq_none.mpr hnone', rfl⟩)⟩

variable (P params db I kind token version ed25519Public x25519Public now time) in
lemma enroll_cases :
    ((∀ row, db.tokens.get? (hashToken P token) = some row →
        ¬ db.Admits I kind (intOr now time) row) ∧
      ∃ code message, db.enroll P params I kind token version ed25519Public x25519Public now time =
        (.error (.registryError code message), db)) ∨
    ∃ row db', db.tokens.get? (hashToken P token) = some row ∧
      db.Admits I kind (intOr now time) row ∧ db.Redeemed I kind (intOr now time) row db' ∧
      ((db.RefusedLate I version row ∧ ∃ code message,
          db.enroll P params I kind token version ed25519Public x25519Public now time =
            (.error (.registryError code message), db')) ∨
        (¬ db.RefusedLate I version row ∧ ∃ final,
          db.enroll P params I kind token version ed25519Public x25519Public now time =
            (.ok (some (enrolled params I version ed25519Public x25519Public (intOr now time))), final) ∧
          Provisioned (enrolled params I version ed25519Public x25519Public (intOr now time))
            db' final)) := by
  by_cases h : ∃ row, db.tokens.get? (hashToken P token) = some row ∧
      db.Admits I kind (intOr now time) row
  · obtain ⟨row, hrow, hadmits⟩ := h
    obtain ⟨db', hredeem, hredeemed⟩ := redeemToken_admitted params hrow hadmits
    refine Or.inr ⟨row, db', hrow, hadmits, hredeemed, ?_⟩
    have hget : ∀ final, Provisioned (enrolled params I version ed25519Public x25519Public
        (intOr now time)) db' final → final.getCredential I version =
          some (enrolled params I version ed25519Public x25519Public (intOr now time)) := by
      intro final hfinal
      rw [getCredential, hfinal.credential]
      exact if_pos ⟨rfl, rfl⟩
    have hadmit := hadmits.2.2
    simp only [enroll, hredeem]
    cases hp : row.purpose with
    | recover =>
      rw [if_neg (by simp)]
      rcases recover_cases params version ed25519Public x25519Public hp hadmits hredeemed with
        ⟨hlate, code, message, he⟩ | ⟨hlate, final, he, hfinal⟩
      · refine Or.inl ⟨hlate, code, message, ?_⟩
        rw [he]
        rfl
      · refine Or.inr ⟨hlate, final, ?_, hfinal⟩
        rw [he, ← hget final hfinal]
        rfl
    | enroll =>
      rw [hp] at hadmit
      by_cases hv : version = 1
      · refine Or.inr ⟨by simp [RefusedLate, hp, hv], ?_⟩
        obtain ⟨final, he, hfinal⟩ := apply_first hredeemed (by simp [hp]) hadmit.2
        refine ⟨final, ?_, hfinal⟩
        rw [if_neg (by simp [hv]), he, ← hget final hfinal]
        rfl
      · rw [if_pos ⟨rfl, hv⟩]
        exact Or.inl ⟨by simp [RefusedLate, hp, hv], _, _, rfl⟩
    | other name =>
      rw [hp] at hadmit
      refine Or.inr ⟨by simp [RefusedLate, hp], ?_⟩
      obtain ⟨final, he, hfinal⟩ := apply_first hredeemed (by simp [hp]) hadmit
      refine ⟨final, ?_, hfinal⟩
      rw [if_neg (by simp), he, ← hget final hfinal]
      rfl
  · push Not at h
    obtain ⟨code, message, he⟩ := redeemToken_refused params h
    refine Or.inl ⟨h, code, message, ?_⟩
    rw [enroll, he]

lemma enroll_usable {result : Option CredentialPublic} {final : Database}
    (h : db.enroll P params I kind token version ed25519Public x25519Public now time =
      (.ok result, final)) :
    final.credential I version =
        some (enrolled params I version ed25519Public x25519Public (intOr now time)) ∧
      ∀ v d, final.credential I v = some d → d.status.inWindow = true → v = version := by
  rcases enroll_cases P params db I kind token version ed25519Public x25519Public now time with
    ⟨_, code, message, he⟩ |
    ⟨row, db', hrow, hadmits, hredeemed, ⟨_, code, message, he⟩ | ⟨hlate, final', he, hfinal⟩⟩
  · rw [he] at h
    cases congrArg Prod.fst h
  · rw [he] at h
    cases congrArg Prod.fst h
  · rw [he] at h
    obtain rfl := congrArg Prod.snd h
    refine ⟨(hfinal.credential I version).trans (if_pos ⟨rfl, rfl⟩), fun v d hd hwindow => ?_⟩
    by_contra hne
    rw [hfinal.credential, if_neg fun hv => hne hv.2, hredeemed.credential] at hd
    have hchecks := hadmits.2.2
    cases hp : row.purpose with
    | recover =>
      rw [if_pos ⟨rfl, hp⟩] at hd
      obtain ⟨c, hc, rfl⟩ := Option.map_eq_some_iff.mp hd
      rw [RefusedLate, hp] at hlate
      exact hlate (Or.inl ⟨v, c, hc, recovered_inWindow hwindow⟩)
    | enroll =>
      rw [hp] at hchecks hd
      simp [hchecks.2 v] at hd
    | other name =>
      rw [hp] at hchecks hd
      simp [hchecks v] at hd

lemma redeemed_ne {row : EnrollmentToken} {db' : Database} {t : ℤ}
    (hrow : db.tokens.get? (hashToken P token) = some row) (hunused : row.usedAt = none)
    (h : db.Redeemed I kind t row db') : db' ≠ db := by
  intro he
  have hkey : row.tokenHash = hashToken P token := (Table.get?_eq_some.mp hrow).2
  have hget : db'.tokens.get? (hashToken P token) = some { row with usedAt := some t } := by
    rw [h.tokens, Table.get?_set, if_pos hkey]
  rw [he, hrow] at hget
  have hused := congrArg EnrollmentToken.usedAt (Option.some.inj hget)
  simp [hunused] at hused

theorem enroll_atomic_iff (P : Primitives) (params : RotationParams) (db : Database) (I : Uuid)
    (kind : IdentityKind) (token : String) (version : ℤ) (ed25519Public x25519Public : Bytes)
    (now : Option ℤ) (time : ℤ) :
    (∀ code message,
      (db.enroll P params I kind token version ed25519Public x25519Public now time).1 =
          .error (.registryError code message) →
        (db.enroll P params I kind token version ed25519Public x25519Public now time).2 = db) ↔
    ¬ ∃ row, db.tokens.get? (hashToken P token) = some row ∧
      db.Admits I kind (intOr now time) row ∧ db.RefusedLate I version row := by
  rcases enroll_cases P params db I kind token version ed25519Public x25519Public now time with
    ⟨hno, code, message, he⟩ |
    ⟨row, db', hrow, hadmits, hredeemed, ⟨hlate, code, message, he⟩ | ⟨hlate, final, he, _⟩⟩
  · refine iff_of_true (fun _ _ _ => by rw [he]) ?_
    rintro ⟨row, hrow, hadmits, _⟩
    exact hno row hrow hadmits
  · refine iff_of_false (fun h => ?_) (fun h => h ⟨row, hrow, hadmits, hlate⟩)
    have hsame := h code message (by rw [he])
    rw [he] at hsame
    exact redeemed_ne hrow hadmits.1 hredeemed hsame
  · refine iff_of_true (fun code message h => ?_) ?_
    · rw [he] at h
      cases h
    · rintro ⟨row', hrow', _, hlate'⟩
      obtain rfl := Option.some.inj (hrow.symm.trans hrow')
      exact hlate hlate'

theorem enroll_consumes_token_and_refuses :
    ¬ ∀ (P : Primitives) (params : RotationParams) (ops : List RegistryOp) (I : Uuid)
      (kind : IdentityKind) (token : String) (version : ℤ) (ed25519Public x25519Public : Bytes)
      (now : Option ℤ) (time : ℤ) (code message : String),
      ((reached P params ops).enroll P params I kind token version ed25519Public x25519Public
          now time).1 = .error (.registryError code message) →
        ((reached P params ops).enroll P params I kind token version ed25519Public x25519Public
          now time).2 = reached P params ops := by
  intro h
  have hsame := h transparent {} [.issueToken "t" .enroll .client 900 none (some 1000) 0] Uuid.nil
    .client "t" 2 (List.replicate 32 1) (List.replicate 32 2) (some 1000) 0 "VERSION_ORDER"
    "initial enrollment must use credential version 1" (by decide)
  exact absurd hsame (by decide)

end Enroll

end Secupload.Server.Database
