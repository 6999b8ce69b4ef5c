import Mathlib.Data.List.Dedup
import Secupload.Server.Permanence

/-! The registry against one rotation engine kept in memory: the engine loaded from the rows
after a call is the one in memory, save for a change the engine makes before it raises. -/

namespace Secupload.Shared.RotationEngine

def Ordered (e : RotationEngine) : Prop := (e.creds.rows.map (·.version)).Pairwise (· < ·)

section Ordered

variable {e : RotationEngine} {n : CredentialPublic}

lemma Ordered.put (h : e.Ordered)
    (hn : (∃ c ∈ e.creds.rows, c.version = n.version) ∨ ∀ c ∈ e.creds.rows, c.version < n.version) :
    (e.put n).Ordered := by
  rw [Ordered, RotationEngine.put, Library.Table.set, Library.Table.keys_setRow]
  rcases hn with ⟨c, hc, hv⟩ | hn
  · rw [if_pos (List.mem_map.mpr ⟨c, hc, hv⟩)]
    exact h
  · rw [if_neg]
    · rw [List.pairwise_append]
      refine ⟨h, List.pairwise_singleton _ _, ?_⟩
      intro v hv w hw
      obtain ⟨c, hc, rfl⟩ := List.mem_map.mp hv
      rw [List.mem_singleton.mp hw]
      exact hn c hc
    · rintro hv
      obtain ⟨c, hc, hcv⟩ := List.mem_map.mp hv
      exact (hn c hc).ne hcv

lemma Ordered.put_of_mem {c : CredentialPublic} (h : e.Ordered) (hc : c ∈ e.creds.rows)
    (hv : c.version = n.version) : (e.put n).Ordered :=
  h.put (Or.inl ⟨c, hc, hv⟩)

lemma Ordered.terminateFallback (h : e.Ordered) : e.terminateFallback.Ordered := by
  rw [RotationEngine.terminateFallback]
  split
  · exact h
  · rename_i v1 hv1
    exact h.put_of_mem (mem_of_byStatus hv1).1 rfl

lemma Ordered.transition (P : Primitives) (h : e.Ordered) (t : Transition) :
    (t.exec P e).2.Ordered := by
  rcases transition_cases P e t with
    he | ⟨n, signature, metadata, now, hs, he⟩ | ⟨c, status, hc, _, _, he⟩ |
    ⟨v2, v3, now, hv2, hv3, he⟩ | ⟨now, rfl⟩
  · exact he.symm ▸ h
  · exact he ▸ h.put (Or.inr hs.newest)
  · exact he ▸ h.put_of_mem hc rfl
  · obtain ⟨v2', hv2', hev2⟩ := (Evolves.terminateFallback e).cred v2.version v2
      (get_of_mem (mem_of_byStatus hv2).1)
    obtain ⟨v3', hv3', hev3⟩ := (Evolves.terminateFallback e).cred v3.version v3
      (get_of_mem (mem_of_byStatus hv3).1)
    have hmem := get_eq_some.mp hv2'
    have hdemoted := h.terminateFallback.put_of_mem (n := demoted e.params v2 now) hmem.1 hmem.2
    have hmem := get_eq_some.mp hv3'
    rw [he]
    apply hdemoted.put
    left
    by_cases hv : v3'.version = v2.version
    · exact ⟨_, mem_put.mpr (Or.inl rfl), hv.symm.trans hmem.2⟩
    · exact ⟨v3', mem_put.mpr (Or.inr ⟨hmem.1, hv⟩), hmem.2⟩
  · change ((e.creds.rows.map (sweep now)).map (·.version)).Pairwise (· < ·)
    rw [List.map_map]
    simp only [Function.comp_def, sweep_version]
    exact h

lemma nonempty_transition (P : Primitives) (h : e.creds.rows ≠ []) (t : Transition) :
    (t.exec P e).2.creds.rows ≠ [] := by
  obtain ⟨c, hc⟩ := List.exists_mem_of_ne_nil _ h
  obtain ⟨c', hc', _⟩ := (e.evolves_transition P t).cred c.version c (get_of_mem hc)
  exact List.ne_nil_of_mem (get_eq_some.mp hc').1

end Ordered

end Secupload.Shared.RotationEngine

namespace Secupload.Server.Database

open Library Shared

section Load

variable {P : Primitives} {params : RotationParams} {db db' : Database} {I : Uuid}
  {e e' : RotationEngine}

lemma credentialRows_sorted : (db.credentialRows I).Pairwise (fun c d => c.version ≤ d.version) := by
  have : Std.Total (fun c d : CredentialPublic => c.version ≤ d.version) :=
    ⟨fun c d => le_total c.version d.version⟩
  have : IsTrans CredentialPublic (fun c d => c.version ≤ d.version) :=
    ⟨fun _ _ _ h k => le_trans h k⟩
  exact List.pairwise_insertionSort _ _

lemma loadEngine_ordered (h : db.loadEngine params I = some e) :
    e.Ordered ∧ e.creds.rows ≠ [] := by
  have hrows := (loadEngine_rows h).2
  refine ⟨?_, ?_⟩
  · rw [RotationEngine.Ordered, hrows]
    have hle : ((db.credentialRows I).map (·.version)).Pairwise (· ≤ ·) :=
      List.pairwise_map.mpr credentialRows_sorted
    exact (hle.and credentialRows_versions_nodup).imp fun h => lt_of_le_of_ne h.1 h.2
  · rw [hrows]
    intro hnil
    rw [loadEngine, hnil] at h
    cases h

lemma loadEngine_of_credential (hparams : e.params = params) (hordered : e.Ordered)
    (hne : e.creds.rows ≠ []) (hbelongs : e.BelongsTo I)
    (h : ∀ v, db.credential I v = e.get v) : db.loadEngine params I = some e := by
  have hmem : ∀ c, c ∈ db.credentialRows I ↔ c ∈ e.creds.rows := by
    intro c
    rw [mem_credentialRows]
    constructor
    · rintro ⟨hc, hI⟩
      have hget := (h c.version).symm.trans (credential_eq_some.mpr ⟨hc, hI, rfl⟩)
      exact (RotationEngine.get_eq_some.mp hget).1
    · intro hc
      have hget := (h c.version).trans (RotationEngine.get_of_mem hc)
      exact ⟨(credential_eq_some.mp hget).1, hbelongs c hc⟩
  have hrows : db.credentialRows I = e.creds.rows := by
    apply List.Perm.eq_of_pairwise _ credentialRows_sorted
      ((List.pairwise_map.mp hordered).imp le_of_lt)
    · exact (List.perm_ext_iff_of_nodup (.of_map _ credentialRows_versions_nodup)
        (.of_map _ e.creds.nodup)).mpr hmem
    · intro c d hc hd hcd hdc
      exact e.creds.row_unique ((hmem c).mp hc) hd (le_antisymm hcd hdc)
  rw [loadEngine, hrows]
  split
  · rename_i hnil
    exact (hne hnil).elim
  · rw [RotationEngine.load]
    congr 1
    have htable : (Table.ofRows e.creds.rows : Table CredentialPublic.version) = e.creds :=
      Table.ext (Table.rows_ofRows _ e.creds.nodup)
    rw [htable, ← hparams]

lemma loadEngine_congr (h : ∀ v, db'.credential I v = db.credential I v) :
    db'.loadEngine params I = db.loadEngine params I := by
  cases hload : db.loadEngine params I with
  | none =>
    rw [loadEngine_eq_none] at hload ⊢
    intro v
    rw [h, hload]
  | some e =>
    obtain ⟨hordered, hne⟩ := loadEngine_ordered hload
    refine loadEngine_of_credential (loadEngine_rows hload).1 hordered hne
      (loadEngine_belongs hload) fun v => ?_
    rw [h, loadEngine_get hload]

lemma loadEngine_call {c : Call} {changed : List CredentialPublic}
    (hload : db.loadEngine params I = some e)
    (he : (c.transition I).exec P e = (.ok changed, e')) :
    (db.call P params I c).2.loadEngine params I = some e' := by
  obtain ⟨hordered, hne⟩ := loadEngine_ordered hload
  have hparams := (e.evolves_transition P (c.transition I)).params
  have hordered' := hordered.transition P (c.transition I)
  have hne' := RotationEngine.nonempty_transition P hne (c.transition I)
  have hbelongs := (loadEngine_belongs hload).transition P (c.transition I)
  rw [he] at hparams hordered' hne' hbelongs
  exact loadEngine_of_credential (hparams.trans (loadEngine_rows hload).1) hordered' hne' hbelongs
    (credential_call hload he)

lemma loadEngine_call_ne {J : Uuid} (hJ : J ≠ I) (c : Call) :
    (db.call P params I c).2.loadEngine params J = db.loadEngine params J :=
  loadEngine_congr ((call_touches P params db I c).others J hJ)

lemma call_eq_ok {c : Call} {changed : List CredentialPublic}
    (hload : db.loadEngine params I = some e)
    (he : (c.transition I).exec P e = (.ok changed, e')) :
    (db.call P params I c).1 = .ok changed := by
  rw [call, apply, hload]
  dsimp only [transact]
  rw [he]

lemma call_eq_error {c : Call} {exc : Exn} (hload : db.loadEngine params I = some e)
    (he : ((c.transition I).exec P e).1 = .error exc) :
    db.call P params I c = (.error (asRegistryError exc), db) := by
  have heq : (c.transition I).exec P e = (.error exc, ((c.transition I).exec P e).2) :=
    Prod.ext he rfl
  rw [call, apply, hload]
  dsimp only [transact]
  rw [heq]

lemma expireEach_load (now : ℤ) {idents : List Uuid} (hnodup : idents.Nodup)
    (hall : ∀ J ∈ idents, db.loadEngine params J ≠ none) :
    (∃ expired, (expireEach P params now idents db).1 = .ok expired) ∧
    ∀ J, (expireEach P params now idents db).2.loadEngine params J =
      if J ∈ idents then (db.loadEngine params J).map fun e => (e.expireAll now).2
      else db.loadEngine params J := by
  induction idents generalizing db with
  | nil => exact ⟨⟨[], rfl⟩, fun J => by rw [if_neg (by simp)]; rfl⟩
  | cons K idents ih =>
    obtain ⟨hK, hnodup'⟩ := List.nodup_cons.mp hnodup
    obtain ⟨e, hload⟩ := Option.ne_none_iff_exists'.mp (hall K List.mem_cons_self)
    have he : ((Call.expireAll now).transition K).exec P e = e.expireAll now := rfl
    have hother : ∀ J ∈ idents, J ≠ K := by
      rintro J hJ rfl
      exact hK hJ
    have hall' : ∀ J ∈ idents,
        (db.call P params K (.expireAll now)).2.loadEngine params J ≠ none := by
      intro J hJ
      rw [loadEngine_call_ne (hother J hJ)]
      exact hall J (List.mem_cons_of_mem _ hJ)
    obtain ⟨⟨expired, hok⟩, hrest⟩ := ih hnodup' hall'
    rw [expireEach, Outcome.bind, call_eq_ok hload he]
    refine ⟨⟨_, by simp only [Outcome.map, hok]; rfl⟩, fun J => ?_⟩
    rw [Outcome.map_snd, hrest]
    by_cases hJ : J = K
    · subst hJ
      rw [if_neg hK, if_pos List.mem_cons_self, loadEngine_call hload he, hload]
      rfl
    · simp only [List.mem_cons, hJ, false_or, loadEngine_call_ne hJ]

end Load

def method (P : Primitives) (params : RotationParams) (I : Uuid) (db : Database) :
    Call → Outcome Database Unit
  | .submitSuccessor newVersion ed25519Public x25519Public signature metadata now =>
    (db.submitSuccessor P params I newVersion ed25519Public x25519Public signature metadata
      now).map fun _ _ => ()
  | .checkpoint now => (db.checkpoint P params I now).map fun _ _ => ()
  | .rollback now => (db.rollback P params I now).map fun _ _ => ()
  | .revoke version now => (db.revoke P params I version now).map fun _ _ => ()
  | .expireAll now => (db.expireAll P params now).map fun _ _ => ()

def twinStep (P : Primitives) (params : RotationParams) (I : Uuid)
    (s : Database × RotationEngine) (c : Call) : Database × RotationEngine :=
  ((s.1.method P params I c).2, ((c.transition I).exec P s.2).2)

structure Agrees (P : Primitives) (params : RotationParams) (I : Uuid)
    (s : Database × RotationEngine) (c : Call) : Prop where
  outcome : (s.1.method P params I c).1 =
    (((c.transition I).exec P s.2).1.mapError asRegistryError).map fun _ => ()
  credentials : (twinStep P params I s c).1.loadEngine params I = some (twinStep P params I s c).2

-- a VALIDATING credential past its expiry is marked EXPIRED by an engine that then raises
def ExpiresValidating (e : RotationEngine) : Call → Prop
  | .checkpoint now => ∃ v3, e.validating = some v3 ∧ v3.validationDeadline.getD 0 ≤ now ∧
      RotationEngine.expired v3 now = true
  | _ => False

section Agrees

variable {P : Primitives} {params : RotationParams} {db : Database} {I : Uuid} {e : RotationEngine}

lemma method_call (P : Primitives) (params : RotationParams) (I : Uuid) (db : Database) {c : Call}
    (hc : ∀ now, c ≠ .expireAll now) :
    db.method P params I c = ((db.call P params I c).1.map fun _ => (), (db.call P params I c).2) := by
  have hmap : ∀ {α : Type} (r : Outcome Database (List CredentialPublic))
      (f : List CredentialPublic → Database → α),
      (r.map f).map (fun _ _ => ()) = (r.1.map fun _ => (), r.2) := by
    rintro α ⟨_ | _, db'⟩ f <;> rfl
  cases c with
  | submitSuccessor newVersion ed25519Public x25519Public signature metadata now => exact hmap _ _
  | checkpoint now => rfl
  | rollback now => exact hmap _ _
  | revoke version now => exact hmap _ _
  | expireAll now => exact (hc now rfl).elim

lemma agrees_call_ok {c : Call} {changed : List CredentialPublic} {e' : RotationEngine}
    (hload : db.loadEngine params I = some e) (hc : ∀ now, c ≠ .expireAll now)
    (he : (c.transition I).exec P e = (.ok changed, e')) : Agrees P params I (db, e) c where
  outcome := by
    rw [method_call P params I db hc, call_eq_ok hload he, he]
    rfl
  credentials := by
    rw [twinStep, method_call P params I db hc, loadEngine_call hload he, he]

lemma agrees_expireAll (hload : db.loadEngine params I = some e) (now : ℤ) :
    Agrees P params I (db, e) (.expireAll now) := by
  have hload_of_row : ∀ c ∈ db.credentials.rows, db.loadEngine params c.identityUuid ≠ none := by
    intro c hc hnone
    have h := loadEngine_eq_none.mp hnone c.version
    rw [credential_eq_some.mpr ⟨hc, rfl, rfl⟩] at h
    cases h
  have hall : ∀ J ∈ (db.credentials.rows.map (·.identityUuid)).dedup,
      db.loadEngine params J ≠ none := by
    intro J hJ
    obtain ⟨c, hc, rfl⟩ := List.mem_map.mp (List.mem_dedup.mp hJ)
    exact hload_of_row c hc
  have hI : I ∈ (db.credentials.rows.map (·.identityUuid)).dedup := by
    obtain ⟨c, hc⟩ := List.exists_mem_of_ne_nil _ (loadEngine_ordered hload).2
    obtain ⟨hrow, hcI⟩ := (mem_loadEngine hload).mp hc
    exact List.mem_dedup.mpr (List.mem_map.mpr ⟨c, hrow, hcI⟩)
  obtain ⟨⟨expired, hok⟩, hrest⟩ := expireEach_load (P := P) now (List.nodup_dedup _) hall
  constructor
  · change (db.expireAll P params now).1.map _ = _
    rw [expireAll, hok]
    rfl
  · change (db.expireAll P params now).2.loadEngine params I = _
    rw [expireAll, hrest, if_pos hI, hload]
    rfl

lemma exec_error {c : Call} {exc : Exn} (h : ((c.transition I).exec P e).1 = .error exc) :
    (((c.transition I).exec P e).2 = e ∧ ¬ ExpiresValidating e c) ∨
      ((((c.transition I).exec P e).2 ≠ e) ∧ ExpiresValidating e c) := by
  cases c with
  | submitSuccessor newVersion ed25519Public x25519Public signature metadata now =>
    refine Or.inl ⟨?_, id⟩
    rcases RotationEngine.submitSuccessor_cases P e now
      (newCredential I newVersion ed25519Public x25519Public) signature metadata with
      ⟨exc, he⟩ | ⟨_, he⟩
    · exact congrArg Prod.snd he
    · simp [Call.transition, RotationEngine.Transition.exec, he, Outcome.map, Except.map] at h
  | checkpoint now =>
    change ((e.checkpoint now).1 = _) at h
    change ((e.checkpoint now).2 = e ∧ _) ∨ ((e.checkpoint now).2 ≠ e ∧ _)
    by_cases hexpires : ExpiresValidating e (.checkpoint now)
    · obtain ⟨v3, hv3, hdeadline, hx⟩ := hexpires
      refine Or.inr ⟨?_, v3, hv3, hdeadline, hx⟩
      have hlate : ¬ now < v3.validationDeadline.getD 0 := not_lt.mpr hdeadline
      simp only [RotationEngine.checkpoint, hv3, hlate, if_false, hx, if_true]
      intro hsame
      have hget := RotationEngine.get_put (e := e)
        (c := RotationEngine.retired v3 .expired) v3.version
      obtain ⟨hmem, hs⟩ := RotationEngine.mem_of_byStatus hv3
      rw [hsame, RotationEngine.get_of_mem hmem, if_pos (show (RotationEngine.retired v3 .expired).version =
        v3.version from rfl)] at hget
      have hstatus := congrArg CredentialPublic.status (Option.some.inj hget)
      rw [hs] at hstatus
      cases hstatus
    · refine Or.inl ⟨?_, hexpires⟩
      rcases RotationEngine.checkpoint_cases e now with
        ⟨exc, he⟩ | ⟨v3, exc, hv3, hdeadline, hx, _⟩ | ⟨v3, v2, changed, _, _, _, _, _, he⟩
      · exact congrArg Prod.snd he
      · exact (hexpires ⟨v3, hv3, hdeadline, hx⟩).elim
      · rw [he] at h
        cases h
  | rollback now =>
    refine Or.inl ⟨?_, id⟩
    rcases RotationEngine.rollback_cases e now with ⟨exc, he⟩ | ⟨_, _, he⟩
    · exact congrArg Prod.snd he
    · simp [Call.transition, RotationEngine.Transition.exec, he, Outcome.map, Except.map] at h
  | revoke version now =>
    refine Or.inl ⟨?_, id⟩
    rcases RotationEngine.revoke_cases e now version with ⟨exc, he⟩ | ⟨_, _, he⟩
    · exact congrArg Prod.snd he
    · simp [Call.transition, RotationEngine.Transition.exec, he, Outcome.map, Except.map] at h
  | expireAll now => cases h

lemma not_expiresValidating_of_ok {c : Call} {changed : List CredentialPublic}
    (h : ((c.transition I).exec P e).1 = .ok changed) : ¬ ExpiresValidating e c := by
  cases c with
  | checkpoint now =>
    rintro ⟨v3, hv3, _, hx⟩
    obtain ⟨w, _, hw, _, hnx, _⟩ := RotationEngine.checkpoint_accepts.mp ⟨changed, h⟩
    obtain rfl := Option.some.inj (hv3.symm.trans hw)
    rw [hx] at hnx
    cases hnx
  | _ => exact id

lemma step_agrees (hload : db.loadEngine params I = some e) (c : Call) :
    Agrees P params I (db, e) c ↔ ¬ ExpiresValidating e c := by
  by_cases hsweep : ∃ now, c = .expireAll now
  · obtain ⟨now, rfl⟩ := hsweep
    exact iff_of_true (agrees_expireAll hload now) id
  · have hc : ∀ now, c ≠ .expireAll now := fun now h => hsweep ⟨now, h⟩
    cases hr : ((c.transition I).exec P e).1 with
    | ok changed =>
      exact iff_of_true (agrees_call_ok hload hc (Prod.ext hr rfl)) (not_expiresValidating_of_ok hr)
    | error exc =>
      have hcall := call_eq_error hload hr
      have hstored : (twinStep P params I (db, e) c).1 = db := by
        rw [twinStep, method_call P params I db hc, hcall]
      rcases exec_error hr with ⟨hsame, hno⟩ | ⟨hchanged, hyes⟩
      · refine iff_of_true ⟨?_, ?_⟩ hno
        · rw [method_call P params I db hc, hcall, hr]
          rfl
        · rw [hstored, hload, twinStep, hsame]
      · refine iff_of_false (fun h => hchanged ?_) (fun h => h hyes)
        have hcredentials := h.credentials
        rw [hstored, hload] at hcredentials
        exact (Option.some.inj hcredentials).symm

end Agrees

theorem registry_refines_engine_iff (P : Primitives) (params : RotationParams) (db : Database)
    (I : Uuid) (e : RotationEngine) (calls : List Call) (hload : db.loadEngine params I = some e) :
    Along (twinStep P params I) (Agrees P params I) (db, e) calls ↔
      Along (twinStep P params I) (fun s c => ¬ ExpiresValidating s.2 c) (db, e) calls :=
  along_iff_of_invariant (I := fun s => s.1.loadEngine params I = some s.2)
    (fun _ c h => step_agrees h c) (fun _ _ _ h => h.credentials) hload calls

def rotatingEngine : RotationEngine :=
  RotationEngine.load {} ((reached transparent {} rotatingRun).credentialRows Uuid.nil)

theorem registry_refines_engine_rotating :
    Along (twinStep transparent {} Uuid.nil) (Agrees transparent {} Uuid.nil)
        (reached transparent {} rotatingRun, rotatingEngine)
        [.checkpoint 1001, .checkpoint 44200, .rollback 44201] ↔
      Along (twinStep transparent {} Uuid.nil) (fun s c => ¬ ExpiresValidating s.2 c)
        (reached transparent {} rotatingRun, rotatingEngine)
        [.checkpoint 1001, .checkpoint 44200, .rollback 44201] :=
  registry_refines_engine_iff transparent {} (reached transparent {} rotatingRun) Uuid.nil
    rotatingEngine [.checkpoint 1001, .checkpoint 44200, .rollback 44201] (by decide +kernel)

-- the checkpoint comes when the successor's validity is over
theorem registry_keeps_expired_validating :
    ¬ ∀ (P : Primitives) (params : RotationParams) (ops : List RegistryOp) (I : Uuid)
      (e : RotationEngine) (calls : List Call),
      (reached P params ops).loadEngine params I = some e →
      Along (twinStep P params I) (Agrees P params I) (reached P params ops, e) calls := by
  intro h
  have hagrees := (h transparent {} rotatingRun Uuid.nil rotatingEngine [.checkpoint 130600]
    (by decide +kernel)).1
  have hdiffers : (twinStep transparent {} Uuid.nil (reached transparent {} rotatingRun,
      rotatingEngine) (.checkpoint 130600)).1.loadEngine {} Uuid.nil ≠
      some (twinStep transparent {} Uuid.nil (reached transparent {} rotatingRun,
        rotatingEngine) (.checkpoint 130600)).2 := by
    decide +kernel
  exact hdiffers hagrees.credentials

end Secupload.Server.Database
