import Secupload.Server.Recovery

namespace Secupload.Server.Database

open Library Shared

def Persists (db db' : Database) : Prop :=
  ∀ I v c, db.credential I v = some c → ∃ c', db'.credential I v = some c' ∧ c.Evolves c'

section Persists

variable {P : Primitives} {params : RotationParams} {db db' db'' : Database} {I : Uuid}

lemma Persists.refl (db : Database) : Persists db db := fun _ _ c hc => ⟨c, hc, .refl c⟩

lemma Persists.trans (h : Persists db db') (k : Persists db' db'') : Persists db db'' := by
  intro I v c hc
  obtain ⟨c', hc', hcc'⟩ := h I v c hc
  obtain ⟨c'', hc'', hcc''⟩ := k I v c' hc'
  exact ⟨c'', hc'', hcc'.trans hcc''⟩

lemma Touches.persists (h : Touches I db db') : Persists db db' := by
  intro J v c hc
  by_cases hJ : J = I
  · subst hJ
    exact h.own v c hc
  · exact ⟨c, (h.others J hJ v).trans hc, .refl c⟩

lemma persists_redeemed {kind : IdentityKind} {t : ℤ} {row : EnrollmentToken}
    (h : db.Redeemed I kind t row db') : Persists db db' := by
  intro J v c hc
  rw [h.credential]
  split
  · refine ⟨recovered c, by rw [hc]; rfl, ?_⟩
    rw [recovered]
    split
    · exact .retired rfl
    · exact .refl c
  · exact ⟨c, hc, .refl c⟩

lemma credential_le_highest {v : ℤ} {c : CredentialPublic} (hc : db.credential I v = some c) :
    v < (db.highestVersion I).getD 0 + 1 := by
  obtain ⟨hrow, hI, hv⟩ := credential_eq_some.mp hc
  have hmem : v ∈ (db.credentialRows I).map (·.version) :=
    List.mem_map.mpr ⟨c, mem_credentialRows.mpr ⟨hrow, hI⟩, hv⟩
  cases hm : db.highestVersion I with
  | none =>
    rw [highestVersion, List.max?_eq_none_iff] at hm
    simp [hm] at hmem
  | some m =>
    have hle := (List.max?_eq_some_iff.mp hm).2 v hmem
    exact Int.lt_add_one_of_le hle

lemma enrolled_version_last {kind : IdentityKind} {t version : ℤ} {row : EnrollmentToken}
    (hadmits : db.Admits I kind t row) (hlate : ¬ db.RefusedLate I version row) {v : ℤ}
    (hv : db.credential I v ≠ none) : v < version := by
  obtain ⟨c, hc⟩ := Option.ne_none_iff_exists'.mp hv
  have hroom := hadmits.2.2
  cases hp : row.purpose with
  | enroll =>
    rw [hp] at hroom
    exact (hv (hroom.2 v)).elim
  | other name =>
    rw [hp] at hroom
    exact (hv (hroom v)).elim
  | recover =>
    rw [RefusedLate, hp] at hlate
    have hversion : version = (db.highestVersion I).getD 0 + 1 :=
      by_contra fun hne => hlate (Or.inr hne)
    rw [hversion]
    exact credential_le_highest hc

lemma enrolled_version_new {kind : IdentityKind} {t version : ℤ} {row : EnrollmentToken}
    (hadmits : db.Admits I kind t row) (hlate : ¬ db.RefusedLate I version row) :
    db.credential I version = none := by
  by_contra hv
  exact lt_irrefl version (enrolled_version_last hadmits hlate hv)

lemma enroll_last {P : Primitives} {params : RotationParams} {kind : IdentityKind} {token : String}
    {version : ℤ} {ed25519Public x25519Public : Bytes} {now : Option ℤ} {time : ℤ}
    {result : Option CredentialPublic} {final : Database}
    (h : db.enroll P params I kind token version ed25519Public x25519Public now time =
      (.ok result, final)) :
    (∀ v, db.credential I v ≠ none → v < version) ∧ (∀ v, final.credential I v ≠ none → v ≤ version) ∧
      final.identityKind I ≠ none := by
  rcases enroll_cases P params db I kind token version ed25519Public x25519Public now time with
    ⟨_, code, message, he⟩ |
    ⟨row, db', _, hadmits, hredeemed, ⟨_, code, message, he⟩ | ⟨hlate, final', he, hfinal⟩⟩
  · rw [he] at h
    cases congrArg Prod.fst h
  · rw [he] at h
    cases congrArg Prod.fst h
  · rw [he] at h
    obtain rfl := congrArg Prod.snd h
    have hlast : ∀ v, db.credential I v ≠ none → v < version := fun v =>
      enrolled_version_last hadmits hlate
    refine ⟨hlast, fun v hv => ?_, ?_⟩
    · by_cases hsame : v = version
      · exact hsame.le
      · rw [hfinal.credential, if_neg fun h => hsame h.2, hredeemed.credential] at hv
        refine (hlast v fun hnone => hv ?_).le
        split_ifs
        · rw [hnone]
          rfl
        · exact hnone
    · have hrow := hredeemed.identity
      rw [identityKind_ne_none, hfinal.clients, hfinal.proxies]
      cases kind with
      | client => exact Or.inl hrow
      | proxy => exact Or.inr hrow
      | server => exact Or.inr hrow

lemma persists_provisioned {cred : CredentialPublic} (h : Provisioned cred db db')
    (hnew : db.credential cred.identityUuid cred.version = none) : Persists db db' := by
  intro J v c hc
  rw [h.credential, if_neg]
  · exact ⟨c, hc, .refl c⟩
  · rintro ⟨rfl, rfl⟩
    rw [hnew] at hc
    cases hc

lemma persists_enroll (P : Primitives) (params : RotationParams) (db : Database) (I : Uuid)
    (kind : IdentityKind) (token : String) (version : ℤ) (ed25519Public x25519Public : Bytes)
    (now : Option ℤ) (time : ℤ) :
    Persists db (db.enroll P params I kind token version ed25519Public x25519Public now time).2 := by
  rcases enroll_cases P params db I kind token version ed25519Public x25519Public now time with
    ⟨_, code, message, he⟩ |
    ⟨row, db', _, hadmits, hr, ⟨_, code, message, he⟩ | ⟨hlate, final, he, hfinal⟩⟩
  · rw [he]
    exact .refl db
  · rw [he]
    exact persists_redeemed hr
  · rw [he]
    have hnone : db'.credential I version = none := by
      rw [hr.credential, enrolled_version_new hadmits hlate]
      split <;> rfl
    exact (persists_redeemed hr).trans (persists_provisioned hfinal hnone)

lemma persists_step (P : Primitives) (params : RotationParams) (db : Database) (op : RegistryOp) :
    Persists db (registryStep P params db op) := by
  refine registryStep_invariant (Persists db) ?_ ?_ ?_ (.refl db) op
  · exact fun _ _ h => h
  · exact fun db' I kind token version ed25519Public x25519Public now time h =>
      h.trans (persists_enroll P params db' I kind token version ed25519Public x25519Public now time)
  · exact fun db' I c h => h.trans (call_touches P params db' I c).persists

lemma persists_run (P : Primitives) (params : RotationParams) (db : Database)
    (ops : List RegistryOp) : Persists db (run (registryStep P params) db ops) :=
  run_invariant (I := Persists db) (fun _ op h => h.trans (persists_step P params _ op))
    (.refl db) ops

lemma credentialForAuth_dead {v : ℤ} {c : CredentialPublic} (hc : db.credential I v = some c)
    (hdead : c.status.dead = true) (now : ℤ) : db.credentialForAuth params I v now = .ok none := by
  rw [credentialForAuth, engineFor]
  cases hload : db.loadEngine params I with
  | none =>
    rw [loadEngine_eq_none.mp hload] at hc
    cases hc
  | some e =>
    have hget : e.get v = some c := (loadEngine_get hload v).trans hc
    have hs : c.status ≠ .active ∧ c.status ≠ .fallback := by
      constructor
      · intro ha
        simp [ha, CredentialStatus.dead] at hdead
      · intro hf
        simp [hf, CredentialStatus.dead] at hdead
    simp [RotationEngine.credentialForAuth, hget, hs]

end Persists

theorem dead_credential_stays_dead (P : Primitives) (params : RotationParams)
    (ops later : List RegistryOp) (I : Uuid) (v : ℤ) (c : CredentialPublic)
    (hc : (reached P params ops).credential I v = some c) :
    ∃ d, (reached P params (ops ++ later)).credential I v = some d ∧
      d.ed25519Public = c.ed25519Public ∧ d.x25519Public = c.x25519Public ∧
      (c.status.dead = true → d.status.dead = true ∧
        ∀ now, (reached P params (ops ++ later)).credentialForAuth params I v now = .ok none) := by
  have hlater : reached P params (ops ++ later) =
      run (registryStep P params) (reached P params ops) later := run_append _ _ _
  obtain ⟨d, hd, hcd⟩ := persists_run P params (reached P params ops) later I v c hc
  rw [hlater]
  refine ⟨d, hd, hcd.ed25519, hcd.x25519, fun hdead => ⟨hcd.dead hdead, fun now => ?_⟩⟩
  exact credentialForAuth_dead hd (hcd.dead hdead) now

def revokingRun : List RegistryOp := enrolledRun ++ [.revoke Uuid.nil 1 1001]

theorem revoked_credential_stays_dead :
    ∃ d, (reached transparent {} (revokingRun ++ [recoveryToken,
        .enroll Uuid.nil .client "r" 2 (demoKey 5) (demoKey 6) (some 1002) 0])).credential
          Uuid.nil 1 = some d ∧
      d.status.dead = true ∧ ∀ now, (reached transparent {} (revokingRun ++ [recoveryToken,
        .enroll Uuid.nil .client "r" 2 (demoKey 5) (demoKey 6) (some 1002) 0])).credentialForAuth
          {} Uuid.nil 1 now = .ok none := by
  obtain ⟨d, hd, _, _, hdead⟩ := dead_credential_stays_dead transparent {} revokingRun
    [recoveryToken, .enroll Uuid.nil .client "r" 2 (demoKey 5) (demoKey 6) (some 1002) 0] Uuid.nil 1
    ⟨Uuid.nil, 1, demoKey 1, demoKey 2, .revoked, 1000, none, some 1000, some 130600⟩
    (by decide +kernel)
  exact ⟨d, hd, hdead rfl⟩

end Secupload.Server.Database
