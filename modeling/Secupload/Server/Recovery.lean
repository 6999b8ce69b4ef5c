import Secupload.Server.Enrollment

namespace Secupload.Server.Database

open Library Shared

section Registered

variable {P : Primitives} {params : RotationParams} {db db' : Database} {I : Uuid}

def Registered (db : Database) : Prop :=
  ∀ I v c, db.credential I v = some c → db.identityKind I ≠ none

lemma identityKind_ne_none :
    db.identityKind I ≠ none ↔ db.clients.get? I ≠ none ∨ db.proxies.get? I ≠ none := by
  rw [identityKind]
  cases hc : db.clients.get? I <;> cases hp : db.proxies.get? I <;> simp

lemma identityRow_of_kind {kind : IdentityKind} (h : db.identityKind I = some kind) :
    db.identityRow I kind ≠ none := by
  rw [identityKind] at h
  split at h
  · rename_i hc
    obtain rfl := Option.some.inj h
    exact Option.isSome_iff_ne_none.mp hc
  · split at h
    · rename_i hp
      obtain rfl := Option.some.inj h
      exact Option.isSome_iff_ne_none.mp hp
    · cases h

lemma registered_call (h : db.Registered) (c : Call) :
    (db.call P params I c).2.Registered := by
  have ht := call_touches P params db I c
  intro J v d hd
  rw [identityKind_ne_none, ht.clients, ht.proxies, ← identityKind_ne_none]
  by_cases hJ : J = I
  · subst hJ
    rcases call_cases P params db J c with
      ⟨exc, he⟩ | ⟨e, changed, e', hload, _, _⟩
    · rw [he] at hd
      exact h J v d hd
    · obtain ⟨w, hw⟩ := credential_some_of_load hload
      obtain ⟨c, hc⟩ := Option.ne_none_iff_exists'.mp hw
      exact h J w c hc
  · rw [ht.others J hJ] at hd
    exact h J v d hd

lemma expireEach_invariant (Inv : Database → Prop) {now : ℤ}
    (hcall : ∀ db J, Inv db → Inv (db.call P params J (.expireAll now)).2) (idents : List Uuid)
    {db : Database} (h : Inv db) : Inv (expireEach P params now idents db).2 := by
  induction idents generalizing db with
  | nil => exact h
  | cons J idents ih =>
    have hstep := hcall db J h
    rw [expireEach, Outcome.bind]
    split
    · exact hstep
    · exact ih hstep

lemma identityKind_of_row {kind : IdentityKind} (h : db.identityRow I kind ≠ none) :
    db.identityKind I ≠ none := by
  rw [identityKind_ne_none]
  rw [identityRow] at h
  split at h
  · exact Or.inl h
  · exact Or.inr h

lemma registered_redeemed {kind : IdentityKind} {t : ℤ} {row : EnrollmentToken} (h : db.Registered)
    (hr : db.Redeemed I kind t row db') : db'.Registered := by
  intro J v c hc
  rw [hr.credential] at hc
  have hold : ∃ d, db.credential J v = some d := by
    split at hc
    · obtain ⟨d, hd, _⟩ := Option.map_eq_some_iff.mp hc
      exact ⟨d, hd⟩
    · exact ⟨c, hc⟩
  obtain ⟨d, hd⟩ := hold
  rw [identityKind_ne_none]
  exact (identityKind_ne_none.mp (h J v d hd)).imp (hr.clients J) (hr.proxies J)

lemma registered_enroll {kind : IdentityKind} {token : String} {version : ℤ}
    {ed25519Public x25519Public : Bytes} {now : Option ℤ} {time : ℤ} (h : db.Registered) :
    (db.enroll P params I kind token version ed25519Public x25519Public now time).2.Registered := by
  rcases enroll_cases P params db I kind token version ed25519Public x25519Public now time with
    ⟨_, code, message, he⟩ |
    ⟨row, db', _, _, hr, ⟨_, code, message, he⟩ | ⟨_, final, he, hfinal⟩⟩
  · rw [he]
    exact h
  · rw [he]
    exact registered_redeemed h hr
  · rw [he]
    intro J v c hc
    rw [identityKind_ne_none, hfinal.clients, hfinal.proxies, ← identityKind_ne_none]
    rw [hfinal.credential] at hc
    split at hc
    · rename_i hJ
      rw [hJ.1]
      exact identityKind_of_row hr.identity
    · exact registered_redeemed h hr J v c hc

lemma registryStep_invariant (Inv : Database → Prop)
    (htoken : ∀ db row, Inv db → Inv { db with tokens := db.tokens.set row })
    (henroll : ∀ db I kind token version ed25519Public x25519Public now time, Inv db →
      Inv (db.enroll P params I kind token version ed25519Public x25519Public now time).2)
    (hcall : ∀ db I c, Inv db → Inv (db.call P params I c).2) {db : Database} (h : Inv db) (op : RegistryOp) :
    Inv (registryStep P params db op) := by
  cases op with
  | issueToken token purpose kind ttl identityUuid now time =>
    change Inv (db.issueToken P token purpose kind ttl identityUuid now time).2
    rcases issueToken_cases P db token purpose kind ttl identityUuid now time with he | ⟨row, he⟩
    · rw [he]
      exact h
    · rw [he]
      exact htoken db row h
  | enroll I kind token version ed25519Public x25519Public now time =>
    exact henroll db I kind token version ed25519Public x25519Public now time h
  | submitSuccessor I newVersion ed25519Public x25519Public signature metadata now => exact hcall db I _ h
  | checkpoint I now => exact hcall db I _ h
  | rollback I now => exact hcall db I _ h
  | revoke I version now => exact hcall db I _ h
  | expireAll now => exact expireEach_invariant Inv (fun db J hi => hcall db J _ hi) _ h

lemma registered_step (P : Primitives) (params : RotationParams) (h : db.Registered)
    (op : RegistryOp) : (registryStep P params db op).Registered :=
  registryStep_invariant Registered (fun _ _ hi => hi) (fun _ _ _ _ _ _ _ _ _ hi => registered_enroll hi)
    (fun _ _ c hi => registered_call hi c) h op

lemma registered_reached (P : Primitives) (params : RotationParams) (ops : List RegistryOp) :
    (reached P params ops).Registered :=
  run_invariant (I := Registered) (fun _ op h => registered_step P params h op)
    (fun I v c hc => by simp [empty, credential] at hc) ops

end Registered

-- no successful transition on the identity, save `expire_all`, which only takes credentials away
def Quiet (P : Primitives) (params : RotationParams) (I : Uuid) (db : Database) : RegistryOp → Prop
  | .issueToken .. => True
  | .enroll J kind token version ed25519Public x25519Public now time => J = I →
    ∀ r, (db.enroll P params J kind token version ed25519Public x25519Public now time).1 ≠ .ok r
  | .submitSuccessor J newVersion ed25519Public x25519Public signature metadata now => J = I →
    ∀ r, (db.submitSuccessor P params J newVersion ed25519Public x25519Public signature metadata
      now).1 ≠ .ok r
  | .checkpoint J now => J = I → ∀ r, (db.checkpoint P params J now).1 ≠ .ok r
  | .rollback J now => J = I → ∀ r, (db.rollback P params J now).1 ≠ .ok r
  | .revoke J version now => J = I → ∀ r, (db.revoke P params J version now).1 ≠ .ok r
  | .expireAll _ => True

section Quiet

variable {P : Primitives} {params : RotationParams} {db db' : Database} {I : Uuid} {n : ℤ}

def Only (I : Uuid) (n : ℤ) (db : Database) : Prop :=
  ∀ v c, db.credential I v = some c → c.status = .active ∨ c.status = .fallback → v = n

lemma Only.congr (h : Only I n db) (hsame : ∀ v, db'.credential I v = db.credential I v) :
    Only I n db' := by
  intro v c hc
  rw [hsame] at hc
  exact h v c hc

lemma Only.call (h : Only I n db) {J : Uuid} {c : Call}
    (hquiet : J = I → ∀ r, (db.call P params J c).1 ≠ .ok r) :
    Only I n (db.call P params J c).2 := by
  by_cases hJ : J = I
  · subst hJ
    rcases call_cases P params db J c with
      ⟨exc, he⟩ | ⟨e, changed, e', _, _, he⟩
    · rw [he]
      exact h
    · exact (hquiet rfl changed (by rw [he])).elim
  · exact h.congr ((call_touches P params db J c).others I (fun hI => hJ hI.symm))

lemma Only.expire (h : Only I n db) (J : Uuid) (now : ℤ) :
    Only I n (db.call P params J (.expireAll now)).2 := by
  by_cases hJ : J = I
  · subst hJ
    rcases call_cases P params db J (.expireAll now) with
      ⟨exc, he⟩ | ⟨e, changed, e', hload, he, _⟩
    · rw [he]
      exact h
    · intro v c hc hs
      rw [credential_call hload he] at hc
      have he' : e' = (e.expireAll now).2 := (congrArg Prod.snd he).symm
      rw [he', RotationEngine.expireAll_get] at hc
      obtain ⟨d, hd, rfl⟩ := Option.map_eq_some_iff.mp hc
      have hold : db.credential J v = some d := (loadEngine_get hload v).symm.trans hd
      apply h v d hold
      rw [RotationEngine.sweep] at hs
      split at hs
      · simp [RotationEngine.retired] at hs
      · exact hs
  · exact h.congr ((call_touches P params db J _).others I (fun hI => hJ hI.symm))

lemma Only.redeemed {J : Uuid} {kind : IdentityKind} {t : ℤ} {row : EnrollmentToken}
    (h : Only I n db) (hr : db.Redeemed J kind t row db') : Only I n db' := by
  intro v c hc hs
  rw [hr.credential] at hc
  split at hc
  · obtain ⟨d, hd, rfl⟩ := Option.map_eq_some_iff.mp hc
    rw [recovered] at hs
    split at hs
    · simp [RotationEngine.retired] at hs
    · exact h v d hd hs
  · exact h v c hc hs

lemma Only.map_outcome {α β : Type} {r : Outcome Database α} {f : α → Database → β} {J : Uuid}
    (hquiet : J = I → ∀ b, (r.map f).1 ≠ .ok b) : J = I → ∀ a, r.1 ≠ .ok a := by
  intro hJ a ha
  exact hquiet hJ (f a r.2) (by simp [Outcome.map, ha, Except.map])

lemma Only.step {op : RegistryOp} (h : Only I n db) (hquiet : Quiet P params I db op) :
    Only I n (registryStep P params db op) := by
  cases op with
  | issueToken token purpose kind ttl identityUuid now time =>
    change Only I n (db.issueToken P token purpose kind ttl identityUuid now time).2
    rcases issueToken_cases P db token purpose kind ttl identityUuid now time with he | ⟨row, he⟩
    · rw [he]
      exact h
    · rw [he]
      exact h
  | enroll J kind token version ed25519Public x25519Public now time =>
    change Only I n (db.enroll P params J kind token version ed25519Public x25519Public now time).2
    rcases enroll_cases P params db J kind token version ed25519Public x25519Public now time with
      ⟨_, code, message, he⟩ |
      ⟨row, db', _, _, hr, ⟨_, code, message, he⟩ | ⟨_, final, he, hfinal⟩⟩
    · rw [he]
      exact h
    · rw [he]
      exact h.redeemed hr
    · rw [he]
      by_cases hJ : J = I
      · exact (hquiet hJ _ (by rw [he])).elim
      · apply (h.redeemed hr).congr
        intro v
        rw [hfinal.credential, if_neg]
        exact fun hI => hJ hI.1.symm
  | submitSuccessor J newVersion ed25519Public x25519Public signature metadata now =>
    exact h.call (Only.map_outcome hquiet)
  | checkpoint J now => exact h.call hquiet
  | rollback J now => exact h.call (Only.map_outcome hquiet)
  | revoke J version now => exact h.call (Only.map_outcome hquiet)
  | expireAll now => exact expireEach_invariant (Only I n) (fun _ J hi => hi.expire J now) _ h

lemma Only.credentialForAuth (h : Only I n db) {v t : ℤ} {c : CredentialPublic}
    (hc : db.credentialForAuth params I v t = .ok (some c)) : v = n := by
  rw [Database.credentialForAuth, engineFor] at hc
  cases hload : db.loadEngine params I with
  | none =>
    rw [hload] at hc
    cases hc
  | some e =>
    rw [hload] at hc
    have hauth : e.credentialForAuth v t = some c := Except.ok.inj hc
    rw [RotationEngine.credentialForAuth] at hauth
    split at hauth
    · cases hauth
    · rename_i d hd
      split_ifs at hauth with hs
      apply h v d ((loadEngine_get hload v).symm.trans hd)
      tauto

end Quiet

section Recover

variable {P : Primitives} {params : RotationParams} {db db' final : Database} {I : Uuid}
  {kind : IdentityKind} {row : EnrollmentToken} {version : ℤ} {ed25519Public x25519Public : Bytes}
  {t : ℤ}

lemma only_recovered (hr : db.Redeemed I kind t row db') (hpurpose : row.purpose = .recover)
    (hfinal : Provisioned (enrolled params I version ed25519Public x25519Public t) db' final) :
    Only I version final := by
  intro v c hc hs
  rw [hfinal.credential] at hc
  split at hc
  · rename_i hv
    exact hv.2
  · rw [hr.credential, if_pos ⟨rfl, hpurpose⟩] at hc
    obtain ⟨d, _, rfl⟩ := Option.map_eq_some_iff.mp hc
    rw [recovered] at hs
    split at hs
    · simp [RotationEngine.retired] at hs
    · rename_i hd
      exact (hd hs).elim

lemma credentialForAuth_eq_some {v : ℤ} {c : CredentialPublic} :
    db.credentialForAuth params I v t = .ok (some c) ↔ db.credential I v = some c ∧
      (c.status = .active ∨ c.status = .fallback) ∧ RotationEngine.expired c t = false := by
  rw [credentialForAuth, engineFor]
  cases hload : db.loadEngine params I with
  | none =>
    rw [loadEngine_eq_none.mp hload]
    exact iff_of_false (fun h => by cases h) fun h => by cases h.1
  | some e =>
    rw [← loadEngine_get hload, ← RotationEngine.credentialForAuth_eq_some]
    exact ⟨Except.ok.inj, congrArg Except.ok⟩

lemma credentialForAuth_active {c : CredentialPublic} (hc : db.credential I version = some c)
    (hs : c.status = .active) (hexpired : RotationEngine.expired c t = false) :
    db.credentialForAuth params I version t = .ok (some c) :=
  credentialForAuth_eq_some.mpr ⟨hc, Or.inl hs, hexpired⟩

end Recover

def Recovers (P : Primitives) (params : RotationParams) (db : Database) (I : Uuid)
    (kind : IdentityKind) (token : String) (version : ℤ) (ed25519Public x25519Public : Bytes)
    (now : Option ℤ) (time : ℤ) : Prop :=
  ∃ cred final, db.enroll P params I kind token version ed25519Public x25519Public now time =
      (.ok (some cred), final) ∧
    final.getCredential I version = some cred ∧ cred.status = .active ∧
    cred.ed25519Public = ed25519Public ∧ cred.x25519Public = x25519Public ∧
    (∀ t, t < params.expirationFrom (intOr now time) →
      final.credentialForAuth params I version t = .ok (some cred)) ∧
    ∀ later, Along (registryStep P params) (Quiet P params I) final later →
      ∀ v t c, (run (registryStep P params) final later).credentialForAuth params I v t =
        .ok (some c) → v = version

theorem recovery_works_iff (P : Primitives) (params : RotationParams) (ops : List RegistryOp)
    (I : Uuid) (row : EnrollmentToken) (token : String) (version : ℤ)
    (ed25519Public x25519Public : Bytes) (now : Option ℤ) (time : ℤ)
    (hrow : (reached P params ops).tokens.get? (hashToken P token) = some row)
    (hpurpose : row.purpose = .recover) (hbound : row.identityUuid = some I)
    (hunused : row.usedAt = none) (hvalid : intOr now time ≤ row.expiresAt)
    (hversion : (reached P params ops).highestVersion I = some (version - 1)) :
    ∃ kind, (reached P params ops).identityKind I = some kind ∧
      (Recovers P params (reached P params ops) I kind token version ed25519Public x25519Public
          now time ↔
        ¬ ∃ v c, (reached P params ops).credential I v = some c ∧ c.status = .validating) := by
  have hregistered := registered_reached P params ops
  generalize reached P params ops = db at *
  obtain ⟨c, hc, hmax⟩ : ∃ c, db.credential I (version - 1) = some c ∧
      (db.highestVersion I).getD 0 + 1 = version := by
    obtain ⟨hmem, _⟩ := List.max?_eq_some_iff.mp hversion
    obtain ⟨c, hc, hv⟩ := List.mem_map.mp hmem
    obtain ⟨hrow, hI⟩ := mem_credentialRows.mp hc
    refine ⟨c, credential_eq_some.mpr ⟨hrow, hI, hv⟩, ?_⟩
    rw [hversion]
    exact sub_add_cancel version 1
  obtain ⟨kind, hkind⟩ := Option.ne_none_iff_exists'.mp (hregistered I _ c hc)
  refine ⟨kind, hkind, ?_⟩
  have hadmits : db.Admits I kind (intOr now time) row := by
    refine ⟨hunused, hvalid, ?_⟩
    rw [hpurpose]
    exact ⟨hbound, identityRow_of_kind hkind, version - 1, by simp [hc]⟩
  have hlate_iff : db.RefusedLate I version row ↔
      ∃ v c, db.credential I v = some c ∧ c.status = .validating := by
    rw [RefusedLate, hpurpose, hmax]
    simp
  rcases enroll_cases P params db I kind token version ed25519Public x25519Public now time with
    ⟨hno, _⟩ |
    ⟨row', db', hrow', _, hr, ⟨hlate, code, message, he⟩ | ⟨hlate, final, he, hfinal⟩⟩
  · exact (hno row hrow hadmits).elim
  · obtain rfl := Option.some.inj (hrow.symm.trans hrow')
    refine iff_of_false ?_ (fun h => h (hlate_iff.mp hlate))
    rintro ⟨cred, final, hok, _⟩
    rw [he] at hok
    cases hok
  · obtain rfl := Option.some.inj (hrow.symm.trans hrow')
    refine iff_of_true ?_ (fun h => hlate (hlate_iff.mpr h))
    have hnew : final.credential I version =
        some (enrolled params I version ed25519Public x25519Public (intOr now time)) := by
      rw [hfinal.credential]
      exact if_pos ⟨rfl, rfl⟩
    refine ⟨_, final, he, hnew, rfl, rfl, rfl, ?_, ?_⟩
    · intro t ht
      apply credentialForAuth_active hnew rfl
      exact decide_eq_false (not_le.mpr ht)
    · intro later hlater v t c hauth
      exact (hlater.invariant (fun _ _ hq ho => Only.step ho hq)
        (only_recovered hr hpurpose hfinal)).credentialForAuth hauth

def enrolledRun : List RegistryOp :=
  [.issueToken "t" .enroll .client 900 none (some 1000) 0,
    .enroll Uuid.nil .client "t" 1 (demoKey 1) (demoKey 2) (some 1000) 0]

def rotatingRun : List RegistryOp :=
  enrolledRun ++ [.submitSuccessor Uuid.nil 2 (demoKey 3) (demoKey 4)
    (((encodeSuccessorPayload Uuid.nil 1 2 (demoKey 3) (demoKey 4) []).toOption.map
      (signEd25519 transparent (demoKey 1))).getD []) [] 1000]

def recoveryToken : RegistryOp := .issueToken "r" .recover .client 900 (some Uuid.nil) (some 1000) 0

theorem recovery_of_enrolled : ∃ kind,
    (reached transparent {} (enrolledRun ++ [recoveryToken])).identityKind Uuid.nil = some kind ∧
      Recovers transparent {} (reached transparent {} (enrolledRun ++ [recoveryToken])) Uuid.nil kind
        "r" 2 (demoKey 5) (demoKey 6) (some 1001) 0 := by
  obtain ⟨kind, hkind, hiff⟩ := recovery_works_iff transparent {} (enrolledRun ++ [recoveryToken])
    Uuid.nil ⟨hashToken transparent "r", .recover, .client, some Uuid.nil, 1900, none⟩ "r" 2
    (demoKey 5) (demoKey 6) (some 1001) 0 (by decide +kernel) rfl rfl rfl (by decide)
    (by decide +kernel)
  refine ⟨kind, hkind, hiff.mpr ?_⟩
  rintro ⟨v, c, hc, hs⟩
  have hrow := (credential_eq_some.mp hc).1
  have hnone : ∀ c ∈ (reached transparent {} (enrolledRun ++ [recoveryToken])).credentials.rows,
      c.status ≠ .validating := by decide +kernel
  exact hnone c hrow hs

-- a token for the identity is issued while its successor is VALIDATING
theorem recovery_refused_during_rotation :
    ¬ ∀ (P : Primitives) (params : RotationParams) (ops : List RegistryOp)
      (I : Uuid) (row : EnrollmentToken) (token : String) (version : ℤ)
      (ed25519Public x25519Public : Bytes) (now : Option ℤ) (time : ℤ),
      (reached P params ops).tokens.get? (hashToken P token) = some row →
      row.purpose = .recover → row.identityUuid = some I → row.usedAt = none →
      intOr now time ≤ row.expiresAt →
      (reached P params ops).highestVersion I = some (version - 1) →
      ∃ kind, (reached P params ops).identityKind I = some kind ∧
        Recovers P params (reached P params ops) I kind token version ed25519Public x25519Public
          now time := by
  intro h
  obtain ⟨kind, hkind, cred, final, he, _⟩ := h transparent {} (rotatingRun ++ [recoveryToken])
    Uuid.nil ⟨hashToken transparent "r", .recover, .client, some Uuid.nil, 1900, none⟩ "r" 3
    (demoKey 5) (demoKey 6) (some 1001) 0 (by decide +kernel) rfl rfl rfl (by decide)
    (by decide +kernel)
  have hclient : (reached transparent {} (rotatingRun ++ [recoveryToken])).identityKind Uuid.nil =
      some .client := by decide +kernel
  obtain rfl := Option.some.inj (hclient.symm.trans hkind)
  have hrefused : ((reached transparent {} (rotatingRun ++ [recoveryToken])).enroll transparent {}
      Uuid.nil .client "r" 3 (demoKey 5) (demoKey 6) (some 1001) 0).1 =
      .error (.registryError "ALREADY_PROVISIONED" "identity already provisioned") := by
    decide +kernel
  rw [he] at hrefused
  cases hrefused

end Secupload.Server.Database
