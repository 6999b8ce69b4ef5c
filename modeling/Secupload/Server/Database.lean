import Secupload.Shared.CredentialLifecycle

/-! The registry's tables and the rotation engine of one identity loaded from them. -/

namespace Secupload.Shared

def CredentialPublic.rowKey (c : CredentialPublic) : Uuid × ℤ := (c.identityUuid, c.version)

end Secupload.Shared

namespace Secupload.Server

open Library Shared

-- a row of `clients` or of `proxies`
structure IdentityRow where
  uuid : Uuid
  status : String := "ACTIVE"
  deriving DecidableEq

inductive Purpose
  | enroll
  | recover
  | other (name : String)
  deriving DecidableEq

structure EnrollmentToken where
  tokenHash : Bytes
  purpose : Purpose
  identityKind : IdentityKind
  identityUuid : Option Uuid
  expiresAt : ℤ
  usedAt : Option ℤ := none
  deriving DecidableEq

structure Database where
  clients : Table IdentityRow.uuid
  proxies : Table IdentityRow.uuid
  credentials : Table CredentialPublic.rowKey
  tokens : Table EnrollmentToken.tokenHash
  deriving DecidableEq

namespace Database

def empty : Database := ⟨Table.empty, Table.empty, Table.empty, Table.empty⟩

variable (params : RotationParams) (db : Database) (I : Uuid)

def identityRow (kind : IdentityKind) : Option IdentityRow :=
  if kind = .client then db.clients.get? I else db.proxies.get? I

def addIdentity (kind : IdentityKind) : Database :=
  if kind = .client then { db with clients := db.clients.set { uuid := I } }
  else { db with proxies := db.proxies.set { uuid := I } }

def credential (version : ℤ) : Option CredentialPublic := db.credentials.get? (I, version)

def credentialRows : List CredentialPublic :=
  (db.credentials.rows.filter fun c => decide (c.identityUuid = I)).insertionSort
    (fun c d => c.version ≤ d.version)

def loadEngine : Option RotationEngine :=
  match db.credentialRows I with
  | [] => none
  | rows => some (RotationEngine.load params rows)

def savePublic (cred : CredentialPublic) : Database :=
  { db with credentials := db.credentials.set cred }

def saveAll (e : RotationEngine) : Database := e.all.foldl savePublic db

section Load

variable {params db I} {e : RotationEngine}

lemma credentialRows_perm :
    (db.credentialRows I).Perm (db.credentials.rows.filter fun c => decide (c.identityUuid = I)) :=
  List.perm_insertionSort _ _

lemma mem_credentialRows {c : CredentialPublic} :
    c ∈ db.credentialRows I ↔ c ∈ db.credentials.rows ∧ c.identityUuid = I := by
  rw [credentialRows_perm.mem_iff, List.mem_filter, decide_eq_true_eq]

lemma credentialRows_versions_nodup : ((db.credentialRows I).map (·.version)).Nodup := by
  rw [(credentialRows_perm.map _).nodup_iff]
  have hkeys := (db.credentials.filter fun c => decide (c.identityUuid = I)).nodup
  apply List.Nodup.map_on
  · intro c hc d hd hv
    simp only [List.mem_filter, decide_eq_true_eq] at hc hd
    exact db.credentials.row_unique hc.1 hd.1 (Prod.ext (hc.2.trans hd.2.symm) hv)
  · exact .of_map _ hkeys

lemma credential_eq_some {c : CredentialPublic} {v : ℤ} :
    db.credential I v = some c ↔ c ∈ db.credentials.rows ∧ c.identityUuid = I ∧ c.version = v := by
  simp [credential, Table.get?_eq_some, CredentialPublic.rowKey]

lemma credential_eq_none {v : ℤ} :
    db.credential I v = none ↔ ∀ c ∈ db.credentials.rows, c.identityUuid = I → c.version ≠ v := by
  simp [credential, Table.get?_eq_none, CredentialPublic.rowKey]

lemma loadEngine_eq_none : db.loadEngine params I = none ↔ ∀ v, db.credential I v = none := by
  have hrows : db.loadEngine params I = none ↔ db.credentialRows I = [] := by
    rw [loadEngine]
    split
    · rename_i hnil
      simp [hnil]
    · rename_i hne
      exact iff_of_false (Option.some_ne_none _) hne
  rw [hrows, List.eq_nil_iff_forall_not_mem]
  simp only [mem_credentialRows, credential_eq_none]
  constructor
  · intro h v c hc hI _
    exact h c ⟨hc, hI⟩
  · rintro h c ⟨hc, hI⟩
    exact h c.version c hc hI rfl

lemma loadEngine_rows (h : db.loadEngine params I = some e) :
    e.params = params ∧ e.creds.rows = db.credentialRows I := by
  rw [loadEngine] at h
  split at h
  · cases h
  · obtain rfl := Option.some.inj h
    exact ⟨rfl, Table.rows_ofRows _ credentialRows_versions_nodup⟩

lemma mem_loadEngine (h : db.loadEngine params I = some e) {c : CredentialPublic} :
    c ∈ e.creds.rows ↔ c ∈ db.credentials.rows ∧ c.identityUuid = I := by
  rw [(loadEngine_rows h).2, mem_credentialRows]

lemma loadEngine_belongs (h : db.loadEngine params I = some e) : e.BelongsTo I :=
  fun _ hc => ((mem_loadEngine h).mp hc).2

lemma loadEngine_get (h : db.loadEngine params I = some e) (v : ℤ) :
    e.get v = db.credential I v := by
  apply Option.ext
  intro c
  rw [RotationEngine.get_eq_some, mem_loadEngine h, credential_eq_some, and_assoc]

end Load

section Save

variable {db I} {e : RotationEngine}

lemma credential_savePublic (cred : CredentialPublic) (J : Uuid) (v : ℤ) :
    (db.savePublic cred).credential J v =
      if cred.identityUuid = J ∧ cred.version = v then some cred else db.credential J v := by
  simp only [credential, savePublic, Table.get?_set, CredentialPublic.rowKey, Prod.mk.injEq]

lemma foldl_savePublic (rows : List CredentialPublic) :
    rows.foldl savePublic db = { db with credentials := rows.foldl Table.set db.credentials } := by
  induction rows generalizing db with
  | nil => rfl
  | cons c rows ih => exact ih

lemma saveAll_eq (db : Database) (e : RotationEngine) :
    db.saveAll e = { db with credentials := (db.saveAll e).credentials } := by
  rw [saveAll, foldl_savePublic]

@[simp] lemma saveAll_clients : (db.saveAll e).clients = db.clients := by rw [saveAll_eq]

@[simp] lemma saveAll_proxies : (db.saveAll e).proxies = db.proxies := by rw [saveAll_eq]

@[simp] lemma saveAll_tokens : (db.saveAll e).tokens = db.tokens := by rw [saveAll_eq]

@[simp] lemma saveAll_identityRow (J : Uuid) (kind : IdentityKind) :
    (db.saveAll e).identityRow J kind = db.identityRow J kind := by
  simp [identityRow]

lemma credential_saveAll (h : e.BelongsTo I) (J : Uuid) (v : ℤ) :
    (db.saveAll e).credential J v =
      if J = I then (e.get v).or (db.credential I v) else db.credential J v := by
  have hkeys : (e.all.map CredentialPublic.rowKey).Nodup := by
    apply List.Nodup.of_map Prod.snd
    rw [List.map_map]
    exact e.all_versions_nodup
  rw [saveAll, foldl_savePublic, credential, Table.get?_foldl_set _ _ _ hkeys]
  have hfind : ∀ c, e.all.find? (fun r => decide (r.rowKey = (J, v))) = some c ↔
      c ∈ e.creds.rows ∧ c.rowKey = (J, v) := by
    intro c
    constructor
    · intro hc
      exact ⟨RotationEngine.mem_all.mp (List.mem_of_find?_eq_some hc), by simpa using List.find?_some hc⟩
    · rintro ⟨hc, hk⟩
      cases hf : e.all.find? (fun r => decide (r.rowKey = (J, v))) with
      | none => simpa [hk] using List.find?_eq_none.mp hf c (RotationEngine.mem_all.mpr hc)
      | some d =>
        have hd : d.rowKey = (J, v) := by simpa using List.find?_some hf
        have hdm := RotationEngine.mem_all.mp (List.mem_of_find?_eq_some hf)
        rw [e.creds.row_unique hdm hc (congrArg Prod.snd (hd.trans hk.symm))]
  split
  · rename_i hJ
    subst hJ
    congr 1
    apply Option.ext
    intro c
    rw [hfind, RotationEngine.get_eq_some]
    constructor
    · rintro ⟨hc, hk⟩
      exact ⟨hc, congrArg Prod.snd hk⟩
    · rintro ⟨hc, hv⟩
      exact ⟨hc, Prod.ext (h c hc) hv⟩
  · rename_i hJ
    have hnone : e.all.find? (fun r => decide (r.rowKey = (J, v))) = none := by
      rw [Option.eq_none_iff_forall_ne_some]
      intro c hc
      obtain ⟨hmem, hk⟩ := (hfind c).mp hc
      exact hJ ((congrArg Prod.fst hk).symm.trans (h c hmem))
    rw [hnone]
    rfl

end Save

end Database

end Secupload.Server
