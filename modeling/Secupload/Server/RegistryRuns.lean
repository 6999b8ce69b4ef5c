import Secupload.Server.EngineRefinement
import Secupload.Server.Permanence
import Secupload.Server.Succession

namespace Secupload.Server.Database

open Library Shared
open Shared.RotationEngine (WindowInv windowInv_transition windowInv_single submitted step added_by)

def Windowed (params : RotationParams) (db : Database) : Prop :=
  ∀ I e, db.loadEngine params I = some e → WindowInv e

section Windowed

variable {P : Primitives} {params : RotationParams} {db db' : Database} {I : Uuid}

lemma windowed_call (h : db.Windowed params) (I : Uuid) (c : Call) :
    (db.call P params I c).2.Windowed params := by
  rcases call_cases P params db I c with ⟨exc, he⟩ | ⟨e, changed, e', hload, he, _⟩
  · rw [he]
    exact h
  · intro J f hf
    by_cases hJ : J = I
    · subst hJ
      obtain rfl := Option.some.inj ((loadEngine_call hload he).symm.trans hf)
      have hwindow := windowInv_transition P (h J e hload) (c.transition J)
      rwa [he] at hwindow
    · rw [loadEngine_call_ne hJ] at hf
      exact h J f hf

lemma windowed_redeemed {kind : IdentityKind} {t : ℤ} {row : EnrollmentToken} (h : db.Windowed params)
    (hr : db.Redeemed I kind t row db') : db'.Windowed params := by
  intro J f hf
  -- every row of `f` is a row of `db`, unless the recovery revoked it
  have hrow : ∀ c ∈ f.creds.rows, ∃ d, db.credential J c.version = some d ∧
      (c = d ∨ c.status.inWindow = false) := by
    intro c hc
    have hget := RotationEngine.get_of_mem hc
    rw [loadEngine_get hf, hr.credential] at hget
    split_ifs at hget
    · obtain ⟨d, hd, rfl⟩ := Option.map_eq_some_iff.mp hget
      refine ⟨d, hd, ?_⟩
      rw [recovered]
      split
      · exact Or.inr rfl
      · exact Or.inl rfl
    · exact ⟨c, hget, Or.inl rfl⟩
  cases hload : db.loadEngine params J with
  | none =>
    obtain ⟨c, hc⟩ := List.exists_mem_of_ne_nil _ (loadEngine_ordered hf).2
    obtain ⟨d, hd, _⟩ := hrow c hc
    rw [loadEngine_eq_none.mp hload] at hd
    cases hd
  | some e =>
    refine (h J e hload).retire fun c hc => ?_
    obtain ⟨d, hd, hsame⟩ := hrow c hc
    rw [← loadEngine_get hload] at hd
    obtain ⟨hmem, hversion⟩ := RotationEngine.get_eq_some.mp hd
    exact ⟨d, hmem, hversion.symm, hsame⟩

lemma windowed_enroll {kind : IdentityKind} {token : String} {version : ℤ}
    {ed25519Public x25519Public : Bytes} {now : Option ℤ} {time : ℤ} (h : db.Windowed params) :
    (db.enroll P params I kind token version ed25519Public x25519Public now time).2.Windowed params := by
  rcases enroll_cases P params db I kind token version ed25519Public x25519Public now time with
    ⟨_, code, message, he⟩ |
    ⟨row, db', _, _, hr, ⟨_, code, message, he⟩ | ⟨_, final, he, hfinal⟩⟩
  · rw [he]
    exact h
  · rw [he]
    exact windowed_redeemed h hr
  · obtain ⟨henrolled, honly⟩ := enroll_usable he
    rw [he]
    intro J f hf
    by_cases hJ : J = I
    · subst hJ
      refine windowInv_single (v := version) fun d hd hwindow => ?_
      have hget := RotationEngine.get_of_mem hd
      rw [loadEngine_get hf] at hget
      have hversion := honly d.version d hget hwindow
      rw [hversion, henrolled] at hget
      obtain rfl := Option.some.inj hget
      exact ⟨hversion, rfl⟩
    · have hsame : ∀ v, final.credential J v = db'.credential J v := fun v =>
        (hfinal.credential J v).trans (if_neg fun hv => hJ hv.1)
      rw [loadEngine_congr hsame] at hf
      exact windowed_redeemed h hr J f hf

lemma windowed_step (P : Primitives) (h : db.Windowed params) (op : RegistryOp) :
    (registryStep P params db op).Windowed params :=
  registryStep_invariant (Windowed params) (fun _ _ hi => hi) (fun _ _ _ _ _ _ _ _ _ hi => windowed_enroll hi)
    (fun _ J c hi => windowed_call hi J c) h op

lemma windowed_reached (P : Primitives) (params : RotationParams) (ops : List RegistryOp) :
    (reached P params ops).Windowed params := by
  refine run_invariant (I := Windowed params) (fun _ op h => windowed_step P h op) ?_ ops
  intro I e hload
  rw [loadEngine_eq_none.mpr fun v => rfl] at hload
  cases hload

end Windowed

def Brings (P : Primitives) (params : RotationParams) (db : Database) (c : CredentialPublic) :
    RegistryOp → Prop
  | .enroll I kind token version ed25519Public x25519Public now time =>
    c = enrolled params I version ed25519Public x25519Public (intOr now time) ∧
      ∃ row, db.tokens.get? (hashToken P token) = some row ∧ db.Admits I kind (intOr now time) row ∧
        ¬ db.RefusedLate I version row
  | .submitSuccessor I newVersion ed25519Public x25519Public signature metadata now =>
    c = submitted params (newCredential I newVersion ed25519Public x25519Public) now ∧
      ∃ e, db.loadEngine params I = some e ∧
        e.Submittable P (newCredential I newVersion ed25519Public x25519Public) signature metadata now
  | _ => False

section Brings

variable {P : Primitives} {params : RotationParams} {db : Database} {I J : Uuid} {v : ℤ}
  {row : CredentialPublic} {op : RegistryOp}

lemma call_brings {c : Call} (hnew : db.credential J v = none)
    (hrow : (db.call P params I c).2.credential J v = some row) :
    ∃ newVersion ed25519Public x25519Public signature metadata now,
      c = .submitSuccessor newVersion ed25519Public x25519Public signature metadata now ∧
        db.Brings P params row (.submitSuccessor I newVersion ed25519Public x25519Public signature
          metadata now) := by
  have hJ : J = I := by
    by_contra hJ
    rw [(call_touches P params db I c).others J hJ, hnew] at hrow
    cases hrow
  subst hJ
  rcases call_cases P params db J c with ⟨exc, he⟩ | ⟨e, changed, e', hload, he, _⟩
  · rw [he, hnew] at hrow
    cases hrow
  · rw [credential_call hload he] at hrow
    obtain ⟨hmem, hversion⟩ := RotationEngine.get_eq_some.mp hrow
    rw [← loadEngine_get hload, ← hversion] at hnew
    have hstep : step P e (.transition (c.transition J)) = e' := congrArg Prod.snd he
    rw [← hstep] at hmem
    rcases added_by hmem hnew with ⟨_, _, hop, _⟩ | ⟨⟨_, _, _, _, hop, _⟩, _⟩
    · cases hop
    · cases c with
      | checkpoint _ | rollback _ | revoke _ _ | expireAll _ => cases hop
      | submitSuccessor newVersion ed25519Public x25519Public signature metadata now =>
        refine ⟨newVersion, ed25519Public, x25519Public, signature, metadata, now, rfl, ?_⟩
        have hparams := (loadEngine_rows hload).1
        change row ∈ (e.submitSuccessor P (newCredential J newVersion ed25519Public x25519Public) signature
          metadata now).2.creds.rows at hmem
        rcases RotationEngine.submitSuccessor_cases P e now
          (newCredential J newVersion ed25519Public x25519Public) signature metadata with ⟨exc, hr⟩ | ⟨hs, hr⟩
        · rw [hr] at hmem
          rw [RotationEngine.get_of_mem hmem] at hnew
          cases hnew
        · rw [hr] at hmem
          rcases RotationEngine.mem_put.mp hmem with rfl | ⟨hmem, _⟩
          · exact ⟨by rw [hparams], e, hload, hs⟩
          · rw [RotationEngine.get_of_mem hmem] at hnew
            cases hnew

lemma enroll_brings {kind : IdentityKind} {token : String} {version : ℤ}
    {ed25519Public x25519Public : Bytes} {now : Option ℤ} {time : ℤ} (hnew : db.credential J v = none)
    (hrow : (db.enroll P params I kind token version ed25519Public x25519Public now time).2.credential J v =
      some row) :
    db.Brings P params row (.enroll I kind token version ed25519Public x25519Public now time) := by
  have hredeemed : ∀ {token t db'}, db.Redeemed I kind t token db' → db'.credential J v ≠ some row := by
    intro token t db' hr hrow
    rw [hr.credential, hnew] at hrow
    split_ifs at hrow
    cases hrow
  rcases enroll_cases P params db I kind token version ed25519Public x25519Public now time with
    ⟨_, code, message, he⟩ |
    ⟨entry, db', hentry, hadmits, hr, ⟨_, code, message, he⟩ | ⟨hlate, final, he, hfinal⟩⟩
  · rw [he, hnew] at hrow
    cases hrow
  · rw [he] at hrow
    exact (hredeemed hr hrow).elim
  · rw [he, hfinal.credential] at hrow
    split_ifs at hrow
    · exact ⟨(Option.some.inj hrow).symm, entry, hentry, hadmits, hlate⟩
    · exact (hredeemed hr hrow).elim

lemma row_step (hrow : (registryStep P params db op).credential J v = some row) :
    (∃ d, db.credential J v = some d ∧ d.Evolves row) ∨ db.Brings P params row op := by
  cases hold : db.credential J v with
  | some d =>
    obtain ⟨d', hd', hevolves⟩ := persists_step P params db op J v d hold
    obtain rfl := Option.some.inj (hd'.symm.trans hrow)
    exact Or.inl ⟨d, rfl, hevolves⟩
  | none =>
    right
    cases op with
    | issueToken token purpose kind ttl identityUuid now time =>
      change (db.issueToken P token purpose kind ttl identityUuid now time).2.credential J v = _ at hrow
      rcases issueToken_cases P db token purpose kind ttl identityUuid now time with he | ⟨entry, he⟩
      · rw [he, hold] at hrow
        cases hrow
      · rw [he] at hrow
        cases hold.symm.trans hrow
    | enroll I kind token version ed25519Public x25519Public now time => exact enroll_brings hold hrow
    | submitSuccessor I newVersion ed25519Public x25519Public signature metadata now =>
      obtain ⟨_, _, _, _, _, _, he, hbrings⟩ := call_brings hold hrow
      injection he with hversion hed25519 hx25519 hsignature hmetadata hnow
      subst hversion hed25519 hx25519 hsignature hmetadata hnow
      exact hbrings
    | checkpoint I now =>
      obtain ⟨_, _, _, _, _, _, he, _⟩ := call_brings hold hrow
      cases he
    | rollback I now =>
      obtain ⟨_, _, _, _, _, _, he, _⟩ := call_brings (c := .rollback now) hold hrow
      cases he
    | revoke I version now =>
      obtain ⟨_, _, _, _, _, _, he, _⟩ := call_brings (c := .revoke version now) hold hrow
      cases he
    | expireAll now =>
      have hnone : (expireEach P params now (db.credentials.rows.map (·.identityUuid)).dedup db).2.credential J v =
          none := expireEach_invariant (fun db => db.credential J v = none) (fun db K hnone => ?_) _ hold
      · cases hnone.symm.trans hrow
      · by_contra hsome
        obtain ⟨d, hd⟩ := Option.ne_none_iff_exists'.mp hsome
        obtain ⟨_, _, _, _, _, _, he, _⟩ := call_brings hnone hd
        cases he

lemma stored_of_brings (h : db.Brings P params row op) :
    (registryStep P params db op).credential row.identityUuid row.version = some row := by
  cases op with
  | enroll I kind token version ed25519Public x25519Public now time =>
    obtain ⟨rfl, entry, hentry, hadmits, hlate⟩ := h
    change (db.enroll P params I kind token version ed25519Public x25519Public now time).2.credential I
      version = _
    rcases enroll_cases P params db I kind token version ed25519Public x25519Public now time with
      ⟨hno, _⟩ | ⟨entry', db', hentry', _, _, ⟨hlate', _⟩ | ⟨_, final, he, hfinal⟩⟩
    · exact (hno entry hentry hadmits).elim
    · obtain rfl := Option.some.inj (hentry.symm.trans hentry')
      exact (hlate hlate').elim
    · rw [he, hfinal.credential, if_pos ⟨rfl, rfl⟩]
  | submitSuccessor I newVersion ed25519Public x25519Public signature metadata now =>
    obtain ⟨rfl, e, hload, hs⟩ := h
    have hexec : ((Call.submitSuccessor newVersion ed25519Public x25519Public signature metadata
        now).transition I).exec P e = (.ok (((e.put (submitted e.params
          (newCredential I newVersion ed25519Public x25519Public) now)).get newVersion).toList),
        e.put (submitted e.params (newCredential I newVersion ed25519Public x25519Public) now)) := by
      rw [Call.transition, RotationEngine.Transition.exec, hs.submit]
      rfl
    change (db.call P params I _).2.credential I newVersion = _
    rw [credential_call hload hexec, RotationEngine.get_put, (loadEngine_rows hload).1]
    exact if_pos rfl
  | issueToken _ _ _ _ _ _ _ | checkpoint _ _ | rollback _ _ | revoke _ _ _ | expireAll _ => exact h.elim

end Brings

end Secupload.Server.Database
