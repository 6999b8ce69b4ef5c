import Secupload.Library.Clock
import Secupload.Shared.CredentialLifecycle

namespace Secupload.Shared.RotationEngine

open Library

def Transition.now : Transition → ℤ
  | .submitSuccessor _ _ _ now => now
  | .checkpoint now => now
  | .rollback now => now
  | .revoke _ now => now
  | .expireAll now => now

def EngineOp.now : EngineOp → ℤ
  | .provisionInitial _ now => now
  | .transition t => t.now

inductive Moves (e : RotationEngine) (op : EngineOp) (c : CredentialPublic) : CredentialPublic → Prop
  | kept : Moves e op c c
  | revoked : op = .transition (.revoke c.version op.now) → Moves e op c (retired c .revoked)
  | dropped {status : CredentialStatus} : c.status = .validating → status.dead = true →
      Moves e op c (retired c status)
  | swept : sweeps op.now c = true → Moves e op c (retired c .expired)
  | terminated : op = .transition (.checkpoint op.now) → e.Checkpointable op.now →
      c.status = .fallback → Moves e op c (retired c .terminated)
  | demoted : op = .transition (.checkpoint op.now) → e.Checkpointable op.now →
      e.active = some c → Moves e op c (demoted e.params c op.now)
  | promoted : e.validating = some c → c.validationDeadline.getD 0 ≤ op.now →
      Moves e op c (promoted c op.now)

inductive Installs (e : RotationEngine) (op : EngineOp) : CredentialPublic → Prop
  | provisioned (cred : CredentialPublic) : Installs e op (provisioned e.params cred op.now)
  | submitted (cred : CredentialPublic) : Installs e op (submitted e.params cred op.now)

section Rows

variable {P : Primitives} {e : RotationEngine} {op : EngineOp} {c d n : CredentialPublic}

lemma Moves.version (h : Moves e op c d) : d.version = c.version := by
  cases h <;> rfl

lemma Moves.createdAt (h : Moves e op c d) : d.createdAt = c.createdAt := by
  cases h <;> rfl

lemma Moves.validationDeadline (h : Moves e op c d) :
    d.validationDeadline = c.validationDeadline := by
  cases h <;> rfl

lemma moves_put (hc : c ∈ e.creds.rows) (h : Moves e op c n) (hd : d ∈ (e.put n).creds.rows) :
    ∃ b ∈ e.creds.rows, Moves e op b d := by
  rcases mem_put.mp hd with rfl | ⟨hd', _⟩
  · exact ⟨c, hc, h⟩
  · exact ⟨d, hd', .kept⟩

lemma moves_promote {v2 v3 : CredentialPublic} (hop : op = .transition (.checkpoint op.now))
    (h : e.Checkpointable op.now) (hv2 : e.active = some v2) (hv3 : e.validating = some v3)
    (hdeadline : v3.validationDeadline.getD 0 ≤ op.now)
    (hd : d ∈ ((e.terminateFallback.put (RotationEngine.demoted e.params v2 op.now)).put
      (RotationEngine.promoted v3 op.now)).creds.rows) : ∃ b ∈ e.creds.rows, Moves e op b d := by
  rcases mem_put.mp hd with rfl | ⟨hd, _⟩
  · exact ⟨v3, (mem_of_byStatus hv3).1, .promoted hv3 hdeadline⟩
  · rcases mem_put.mp hd with rfl | ⟨hd, _⟩
    · exact ⟨v2, (mem_of_byStatus hv2).1, .demoted hop h hv2⟩
    · rw [terminateFallback] at hd
      split at hd
      · exact ⟨d, hd, .kept⟩
      · rename_i v1 hv1
        obtain ⟨hmem, hs⟩ := mem_of_byStatus hv1
        exact moves_put hmem (.terminated hop h hs) hd

lemma installs_put {rows : List CredentialPublic} (hrows : rows = e.creds.rows)
    (h : Installs e op n) (hnew : ∀ b ∈ rows, b.version < n.version)
    (hd : d ∈ (e.put n).creds.rows) :
    (∃ b ∈ e.creds.rows, Moves e op b d) ∨
      Installs e op d ∧ ∀ b ∈ e.creds.rows, b.version < d.version := by
  subst hrows
  rcases mem_put.mp hd with rfl | ⟨hd', _⟩
  · exact Or.inr ⟨h, hnew⟩
  · exact Or.inl ⟨d, hd', .kept⟩

lemma mem_step (P : Primitives) (op : EngineOp) (hd : d ∈ (step P e op).creds.rows) :
    (∃ b ∈ e.creds.rows, Moves e op b d) ∨
      Installs e op d ∧ ∀ b ∈ e.creds.rows, b.version < d.version := by
  have hsame : ∀ {e' : RotationEngine}, e' = e → d ∈ e'.creds.rows →
      ∃ b ∈ e.creds.rows, Moves e op b d := by
    rintro e' rfl hd
    exact ⟨d, hd, .kept⟩
  cases op with
  | provisionInitial cred now =>
    change d ∈ (e.provisionInitial cred now).2.creds.rows at hd
    rcases provisionInitial_cases e now cred with ⟨exc, he⟩ | ⟨hp, he⟩
    · exact Or.inl (hsame (congrArg Prod.snd he) hd)
    · rw [he] at hd
      exact installs_put rfl (.provisioned cred) (lt_of_maxVersion hp.order) hd
  | transition t =>
    cases t with
    | submitSuccessor cred signature metadata now =>
      change d ∈ (e.submitSuccessor P cred signature metadata now).2.creds.rows at hd
      rcases submitSuccessor_cases P e now cred signature metadata with ⟨exc, he⟩ | ⟨hs, he⟩
      · exact Or.inl (hsame (congrArg Prod.snd he) hd)
      · rw [he] at hd
        exact installs_put rfl (.submitted cred) hs.newest hd
    | checkpoint now =>
      change d ∈ (e.checkpoint now).2.creds.rows at hd
      left
      rcases checkpoint_cases e now with
        ⟨exc, he⟩ | ⟨v3, exc, hv3, _, _, he⟩ | ⟨v3, v2, changed, hv3, hdeadline, hx3, hv2, hx2, he⟩
      · exact hsame (congrArg Prod.snd he) hd
      · rw [he] at hd
        obtain ⟨hmem, hs⟩ := mem_of_byStatus hv3
        exact moves_put hmem (.dropped hs rfl) hd
      · rw [he] at hd
        exact moves_promote rfl ⟨v3, v2, hv3, hdeadline, hx3, hv2, hx2⟩ hv2 hv3 hdeadline hd
    | rollback now =>
      change d ∈ (e.rollback now).2.creds.rows at hd
      left
      rcases rollback_cases e now with ⟨exc, he⟩ | ⟨v3, hv3, he⟩
      · exact hsame (congrArg Prod.snd he) hd
      · rw [he] at hd
        obtain ⟨hmem, hs⟩ := mem_of_byStatus hv3
        exact moves_put hmem (.dropped hs rfl) hd
    | revoke version now =>
      change d ∈ (e.revoke version now).2.creds.rows at hd
      left
      rcases revoke_cases e now version with ⟨exc, he⟩ | ⟨cred, hcred, he⟩
      · exact hsame (congrArg Prod.snd he) hd
      · rw [he] at hd
        obtain ⟨hmem, hv⟩ := get_eq_some.mp hcred
        exact moves_put hmem (.revoked (by rw [hv]; rfl)) hd
    | expireAll now =>
      left
      obtain ⟨b, hb, rfl⟩ := List.mem_map.mp hd
      refine ⟨b, hb, ?_⟩
      rw [sweep]
      split
      · rename_i hs
        exact .swept hs
      · exact .kept

lemma moves_of_get (P : Primitives) (op : EngineOp) {v : ℤ} (hc : e.get v = some c) :
    ∃ d, (step P e op).get v = some d ∧ Moves e op c d := by
  have hevolves : e.Evolves (step P e op) := by
    cases op with
    | provisionInitial cred now => exact e.evolves_provisionInitial cred now
    | transition t => exact e.evolves_transition P t
  obtain ⟨d, hd, hcd⟩ := hevolves.cred v c hc
  obtain ⟨hmem, hv⟩ := get_eq_some.mp hc
  refine ⟨d, hd, ?_⟩
  rcases mem_step P op (get_eq_some.mp hd).1 with ⟨b, hb, hbd⟩ | ⟨_, hnew⟩
  · rwa [e.creds.row_unique hmem hb (hcd.version.symm.trans hbd.version)]
  · have hlt := hnew c hmem
    have hvd := hcd.version
    omega

lemma step_params (P : Primitives) (e : RotationEngine) (op : EngineOp) :
    (step P e op).params = e.params := by
  cases op with
  | provisionInitial cred now => exact (e.evolves_provisionInitial cred now).params
  | transition t => exact (e.evolves_transition P t).params

lemma run_params (P : Primitives) (params : RotationParams) (ops : List EngineOp) :
    (run (step P) (new params) ops).params = params :=
  run_invariant (I := fun e => e.params = params)
    (fun e op h => (step_params P e op).trans h) rfl ops

end Rows

structure Timed (params : RotationParams) (t : ℤ) (e : RotationEngine) : Prop where
  params_eq : e.params = params
  validating : ∀ c ∈ e.creds.rows, c.status = .validating →
    c.validationDeadline = some (params.validationDeadlineFrom c.createdAt)
  usable : ∀ c ∈ e.creds.rows, c.status = .active ∨ c.status = .fallback →
    ∀ d, c.validationDeadline = some d → d ≤ t

section Timed

variable {P : Primitives} {params : RotationParams} {e : RotationEngine} {op : EngineOp}
  {c d : CredentialPublic} {t t' : ℤ}

lemma Timed.mono (h : Timed params t e) (ht : t ≤ t') : Timed params t' e :=
  ⟨h.params_eq, h.validating, fun c hc hs d hd => (h.usable c hc hs d hd).trans ht⟩

lemma retired_unusable {status : CredentialStatus} (hs : status.dead = true) :
    (retired c status).status ≠ .validating ∧ (retired c status).status ≠ .active ∧
      (retired c status).status ≠ .fallback := by
  cases status <;> simp_all [retired, CredentialStatus.dead]

lemma Moves.of_validating (h : Moves e op c d) (hd : d.status = .validating) : d = c := by
  cases h with
  | kept => rfl
  | revoked _ => exact ((retired_unusable rfl).1 hd).elim
  | dropped _ hdead => exact ((retired_unusable hdead).1 hd).elim
  | swept _ => exact ((retired_unusable rfl).1 hd).elim
  | terminated _ _ _ => exact ((retired_unusable rfl).1 hd).elim
  | demoted _ _ _ => cases hd
  | promoted _ _ => cases hd

lemma Moves.of_usable (h : Moves e op c d) (hd : d.status = .active ∨ d.status = .fallback) :
    (c.status = .active ∨ c.status = .fallback) ∨
      c.status = .validating ∧ c.validationDeadline.getD 0 ≤ op.now := by
  have hno : ∀ {status : CredentialStatus}, status.dead = true →
      ¬ ((retired c status).status = .active ∨ (retired c status).status = .fallback) :=
    fun hdead hs => hs.elim (retired_unusable hdead).2.1 (retired_unusable hdead).2.2
  cases h with
  | kept => exact Or.inl hd
  | revoked _ => exact (hno rfl hd).elim
  | dropped _ hdead => exact (hno hdead hd).elim
  | swept _ => exact (hno rfl hd).elim
  | terminated _ _ _ => exact (hno rfl hd).elim
  | demoted _ _ ha => exact Or.inl (Or.inl (mem_of_byStatus ha).2)
  | promoted hv hdeadline => exact Or.inr ⟨(mem_of_byStatus hv).2, hdeadline⟩

lemma Timed.step (h : Timed params t e) (ht : t ≤ op.now) :
    Timed params op.now (RotationEngine.step P e op) where
  params_eq := (step_params P e op).trans h.params_eq
  validating := by
    intro d hd hs
    rcases mem_step P op hd with ⟨b, hb, hbd⟩ | ⟨hnew, _⟩
    · obtain rfl := hbd.of_validating hs
      exact h.validating d hb hs
    · cases hnew with
      | provisioned cred => cases hs
      | submitted cred =>
        rw [← h.params_eq]
        rfl
  usable := by
    intro d hd hs x hx
    rcases mem_step P op hd with ⟨b, hb, hbd⟩ | ⟨hnew, _⟩
    · rw [hbd.validationDeadline] at hx
      rcases hbd.of_usable hs with husable | ⟨_, hdeadline⟩
      · exact (h.usable b hb husable x hx).trans ht
      · rw [hx] at hdeadline
        exact hdeadline
    · cases hnew with
      | provisioned cred => cases hx
      | submitted cred => rcases hs with hs | hs <;> cases hs

lemma timed_new (params : RotationParams) (t : ℤ) : Timed params t (new params) :=
  ⟨rfl, by simp [new], by simp [new]⟩

lemma timed_run {ops : List EngineOp} {q : ℤ} (h : Chronological EngineOp.now ops q) :
    Timed params q (run (RotationEngine.step P) (new params) ops) :=
  h.invariant_of_start (fun _ _ _ ht hi => hi.mono ht) (fun _ _ _ _ ht _ hi => hi.step ht)
    (timed_new params)

end Timed

section Submission

variable {P : Primitives} {params : RotationParams} {e : RotationEngine} {n c : CredentialPublic}
  {v q s : ℤ}

lemma deadline_run {d : Option ℤ} (ops : List EngineOp)
    (h : ∃ c, e.get v = some c ∧ c.validationDeadline = d) :
    ∃ c, (run (step P) e ops).get v = some c ∧ c.validationDeadline = d :=
  run_invariant (I := fun e : RotationEngine => ∃ c, e.get v = some c ∧ c.validationDeadline = d)
    (fun e op ⟨c, hc, hd⟩ => by
      obtain ⟨c', hc', hm⟩ := moves_of_get P op hc
      exact ⟨c', hc', hm.validationDeadline.trans hd⟩) h ops

lemma unusable_before_deadline (h : Timed params q e) (hc : e.get v = some c)
    (hd : c.validationDeadline = some s) (hq : q < s) :
    c.status ≠ .active ∧ e.credentialForAuth v q = none := by
  have hno : ¬ (c.status = .active ∨ c.status = .fallback) := by
    intro hs
    have hle := h.usable c (get_eq_some.mp hc).1 hs s hd
    omega
  refine ⟨fun ha => hno (Or.inl ha), ?_⟩
  rw [Option.eq_none_iff_forall_ne_some]
  intro d hauth
  obtain ⟨hget, hs, _⟩ := credentialForAuth_eq_some.mp hauth
  obtain rfl := Option.some.inj (hc.symm.trans hget)
  exact hno hs

end Submission

def SubmittedFrom (s : ℤ) (e : RotationEngine) : Prop :=
  ∀ c ∈ e.creds.rows, c.status = .validating → s ≤ c.createdAt

section Promotion

variable {P : Primitives} {params : RotationParams} {e : RotationEngine} {op : EngineOp}
  {c : CredentialPublic} {changed : List CredentialPublic} {s t q : ℤ}

lemma SubmittedFrom.step (h : SubmittedFrom s e) (hs : s ≤ op.now) :
    SubmittedFrom s (RotationEngine.step P e op) := by
  intro d hd hv
  rcases mem_step P op hd with ⟨b, hb, hbd⟩ | ⟨hnew, _⟩
  · obtain rfl := hbd.of_validating hv
    exact h d hb hv
  · cases hnew with
    | provisioned cred => cases hv
    | submitted cred => exact hs

lemma checkpoint_eq_ok (h : (e.checkpoint t).1 = .ok changed) :
    ∃ v2 v3, e.active = some v2 ∧ e.validating = some v3 ∧ v3.validationDeadline.getD 0 ≤ t ∧
      expired v2 t = false ∧ expired v3 t = false ∧
      changed = (e.fallback.toList.map fun v1 => retired v1 .terminated) ++
        [demoted e.params v2 t, promoted v3 t] ∧
      (e.checkpoint t).2 = (e.terminateFallback.put (demoted e.params v2 t)).put (promoted v3 t) := by
  obtain ⟨v3, v2, hv3, hdeadline, hx3, hv2, hx2⟩ := checkpoint_accepts.mp ⟨changed, h⟩
  have hlate : ¬ t < v3.validationDeadline.getD 0 := not_lt.mpr hdeadline
  have he : e.checkpoint t = (.ok ((e.fallback.toList.map fun v1 => retired v1 .terminated) ++
      [demoted e.params v2 t, promoted v3 t]),
      (e.terminateFallback.put (demoted e.params v2 t)).put (promoted v3 t)) := by
    simp [checkpoint, hv3, hlate, hx3, hv2, hx2]
  rw [he] at h ⊢
  exact ⟨v2, v3, hv2, hv3, hdeadline, hx2, hx3, (Except.ok.inj h).symm, rfl⟩

lemma validating_after_checkpoint (hw : WindowInv e) (h : (e.checkpoint t).1 = .ok changed) :
    (e.checkpoint t).2.validating = none := by
  obtain ⟨v2, v3, hv2, hv3, _, _, _, _, he⟩ := checkpoint_eq_ok h
  obtain ⟨hm3, hs3⟩ := mem_of_byStatus hv3
  rw [validating, byStatus_eq_none, he]
  intro d hd hs
  rcases mem_put.mp hd with rfl | ⟨hd, hne⟩
  · cases hs
  · rcases mem_put.mp hd with rfl | ⟨hd, _⟩
    · cases hs
    · rcases hw.mem_terminateFallback.mp hd with ⟨hd, _⟩ | ⟨v1, _, _, rfl⟩
      · exact hne (congrArg (·.version) (hw.unique d hd v3 hm3 (by rw [hs]; rfl) (hs.trans hs3.symm)))
      · cases hs

lemma deadline_of_checkpointable (ht : Timed params q e) (hs : SubmittedFrom s e)
    (h : e.Checkpointable t) : s + params.rotationDuration / 2 ≤ t := by
  obtain ⟨v3, _, hv3, hdeadline, _⟩ := h
  obtain ⟨hmem, hv⟩ := mem_of_byStatus hv3
  rw [ht.validating v3 hmem hv] at hdeadline
  have hle := hs v3 hmem hv
  change v3.createdAt + params.rotationDuration / 2 ≤ t at hdeadline
  omega

lemma submittedFrom_run {mid : List EngineOp} (h : Chronological EngineOp.now mid q) (hst : s ≤ t)
    (hle : (∀ op ∈ mid, t ≤ op.now) ∧ t ≤ q) (hv : e.validating = none) :
    SubmittedFrom s (run (step P) e mid) :=
  h.invariant (I := fun t e => s ≤ t ∧ SubmittedFrom s e)
    (fun _ _ _ ht hi => ⟨hi.1.trans ht, hi.2⟩)
    (fun _ _ _ _ ht _ hi => ⟨hi.1.trans ht, hi.2.step (hi.1.trans ht)⟩) hle
    ⟨hst, fun c hc hs => (byStatus_eq_none.mp hv c hc hs).elim⟩ |>.2

structure Covered (params : RotationParams) (s v t : ℤ) (e : RotationEngine) : Prop where
  timed : Timed params t e
  started : s ≤ t
  submitted : SubmittedFrom s e
  fallback : ∃ c x, e.get v = some c ∧ c.status = .fallback ∧ c.expirationTime = some x ∧
    s + params.rotationDuration / 2 ≤ x

lemma Covered.step {v : ℤ} (h : Covered params s v t e) (ht : t ≤ op.now)
    (hearly : op.now < s + params.rotationDuration / 2)
    (hrevoke : op ≠ .transition (.revoke v op.now)) :
    Covered params s v op.now (RotationEngine.step P e op) where
  timed := h.timed.step ht
  started := h.started.trans ht
  submitted := h.submitted.step (h.started.trans ht)
  fallback := by
    obtain ⟨c, x, hc, hs, hx, hle⟩ := h.fallback
    obtain ⟨d, hd, hmoves⟩ := moves_of_get P op hc
    obtain ⟨hmem, hv⟩ := get_eq_some.mp hc
    cases hmoves with
    | kept => exact ⟨c, x, hd, hs, hx, hle⟩
    | revoked hop =>
      rw [hv] at hop
      exact (hrevoke hop).elim
    | dropped hvalidating _ =>
      rw [hs] at hvalidating
      cases hvalidating
    | swept hsweep =>
      rw [sweeps, Bool.and_eq_true, expired, hx] at hsweep
      have hexpired := of_decide_eq_true hsweep.2
      omega
    | terminated _ hcheckpoint _ =>
      have hdeadline := deadline_of_checkpointable h.timed h.submitted hcheckpoint
      omega
    | demoted _ _ hactive =>
      rw [(mem_of_byStatus hactive).2] at hs
      cases hs
    | promoted hvalidating _ =>
      rw [(mem_of_byStatus hvalidating).2] at hs
      cases hs

lemma covered_checkpoint (ht : Timed params q e) (hqt : q ≤ t) (hw : WindowInv e)
    (h : (e.checkpoint t).1 = .ok changed) (hc : c ∈ changed) (hs : c.status = .fallback) :
    Covered params t c.version t (e.checkpoint t).2 := by
  have hnext (op : EngineOp) (hop : q ≤ op.now) : Timed params op.now (step transparent e op) :=
    ht.step hop
  have htimed : Timed params t (e.checkpoint t).2 := hnext (.transition (.checkpoint t)) hqt
  have hvalidating := validating_after_checkpoint hw h
  refine ⟨htimed, le_rfl, fun d hd hds => (byStatus_eq_none.mp hvalidating d hd hds).elim, ?_⟩
  obtain ⟨v2, v3, hv2, hv3, _, _, _, hchanged, he⟩ := checkpoint_eq_ok h
  obtain ⟨hm2, hs2⟩ := mem_of_byStatus hv2
  obtain ⟨hm3, hs3⟩ := mem_of_byStatus hv3
  have hc2 : c = demoted e.params v2 t := by
    rw [hchanged, List.mem_append, List.mem_cons, List.mem_singleton] at hc
    rcases hc with hc | rfl | rfl
    · obtain ⟨v1, _, rfl⟩ := List.mem_map.mp hc
      cases hs
    · rfl
    · cases hs
  subst hc2
  refine ⟨demoted e.params v2 t, max (v2.expirationTime.getD 0) (t + e.params.fallbackPeriod), ?_,
    rfl, rfl, ?_⟩
  · rw [he, get_put, if_neg, get_put, if_pos rfl]
    intro hv
    rw [e.creds.row_unique hm3 hm2 hv, hs2] at hs3
    cases hs3
  · rw [ht.params_eq]
    exact le_max_right _ _

lemma Covered.credentialForAuth {v : ℤ} (h : Covered params s v q e)
    (hq : q < s + params.rotationDuration / 2) :
    ∃ c, e.credentialForAuth v q = some c ∧ c.version = v := by
  obtain ⟨c, x, hc, hs, hx, hle⟩ := h.fallback
  refine ⟨c, credentialForAuth_eq_some.mpr ⟨hc, Or.inr hs, ?_⟩, (get_eq_some.mp hc).2⟩
  rw [expired, hx]
  exact decide_eq_false (by omega)

end Promotion

theorem promotion_timing (P : Primitives) (params : RotationParams) (ops : List EngineOp) (q : ℤ)
    (h : Chronological EngineOp.now ops q) :
    (∀ pre n signature metadata s post,
      ops = pre ++ .transition (.submitSuccessor n signature metadata s) :: post →
      ((run (step P) (new params) pre).submitSuccessor P n signature metadata s).1 = .ok () →
      q < s + params.rotationDuration / 2 →
      (∀ c, (run (step P) (new params) ops).get n.version = some c → c.status ≠ .active) ∧
        (run (step P) (new params) ops).credentialForAuth n.version q = none) ∧
    (∀ pre t mid t' post changed changed',
      ops = pre ++ .transition (.checkpoint t) :: (mid ++ .transition (.checkpoint t') :: post) →
      ((run (step P) (new params) pre).checkpoint t).1 = .ok changed →
      ((run (step P) (new params) (pre ++ .transition (.checkpoint t) :: mid)).checkpoint t').1 =
        .ok changed' →
      t + params.rotationDuration / 2 ≤ t') ∧
    (∀ pre t post changed c, ops = pre ++ .transition (.checkpoint t) :: post →
      ((run (step P) (new params) pre).checkpoint t).1 = .ok changed →
      c ∈ changed → c.status = .fallback →
      (∀ now, .transition (.revoke c.version now) ∉ post) → q < t + params.rotationDuration / 2 →
      ∃ d, (run (step P) (new params) ops).credentialForAuth c.version q = some d ∧
        d.version = c.version) := by
  refine ⟨?_, ?_, ?_⟩
  · rintro pre n signature metadata s post rfl hok hq
    have htimed : Timed params q (run (step P) (new params) _) := timed_run h
    rw [run_append, run_cons] at htimed ⊢
    have hpost : ∃ c, (run (step P) (step P (run (step P) (new params) pre)
        (.transition (.submitSuccessor n signature metadata s))) post).get n.version = some c ∧
        c.validationDeadline = some (params.validationDeadlineFrom s) := by
      apply deadline_run
      refine ⟨submitted params n s, ?_, rfl⟩
      rcases submitSuccessor_cases P (run (step P) (new params) pre) s n signature metadata with
        ⟨exc, he⟩ | ⟨_, he⟩
      · rw [he] at hok
        cases hok
      · change (submitSuccessor P _ n signature metadata s).2.get n.version = _
        rw [he, get_put, run_params]
        exact if_pos rfl
    obtain ⟨c, hc, hdeadline⟩ := hpost
    obtain ⟨hactive, hauth⟩ := unusable_before_deadline htimed hc hdeadline hq
    refine ⟨fun d hd => ?_, hauth⟩
    obtain rfl := Option.some.inj (hc.symm.trans hd)
    exact hactive
  · rintro pre t mid t' post changed changed' rfl hok hok'
    obtain ⟨_, htail⟩ := h.split
    obtain ⟨hle, htail⟩ := chronological_cons.mp htail
    obtain ⟨hmid, _⟩ := htail.split
    have hbefore : Chronological EngineOp.now (pre ++ .transition (.checkpoint t) :: mid) t' := by
      have hall := h
      rw [← List.cons_append, ← List.append_assoc] at hall
      exact hall.split.1
    have htimed : Timed params t' (run (step P) (new params) _) := timed_run hbefore
    refine deadline_of_checkpointable htimed ?_ (checkpoint_accepts.mp ⟨changed', hok'⟩)
    rw [run_append, run_cons]
    refine submittedFrom_run hmid le_rfl ⟨fun op hop => hle.1 op (by simp [hop]), ?_⟩ ?_
    · exact hle.1 (.transition (.checkpoint t')) (by simp)
    · exact validating_after_checkpoint (windowInv_run P params pre) hok
  · rintro pre t post changed c rfl hok hc hs hrevoke hq
    obtain ⟨hpre, htail⟩ := h.split
    obtain ⟨hle, hpost⟩ := chronological_cons.mp htail
    have hcovered := covered_checkpoint (timed_run (P := P) hpre) le_rfl (windowInv_run P params pre)
      hok hc hs
    rw [run_append, run_cons]
    suffices hend : Covered params t c.version q _ from hend.credentialForAuth hq
    refine hpost.invariant (I := Covered params t c.version)
      (fun _ _ _ ht hi => ⟨hi.timed.mono ht, hi.started.trans ht, hi.submitted, hi.fallback⟩)
      (fun _ _ op hop ht hopq hi => hi.step ht (lt_of_le_of_lt hopq hq) ?_) hle hcovered
    intro hrevoked
    exact hrevoke op.now (hrevoked ▸ hop)

def firstRotation : List EngineOp :=
  [.provisionInitial ⟨Uuid.nil, 1, demoKey 1, demoKey 2, .generated, 0, none, none, none⟩ 1000,
    .transition (.submitSuccessor
      ⟨Uuid.nil, 2, demoKey 3, demoKey 4, .generated, 0, none, none, none⟩
      (((encodeSuccessorPayload Uuid.nil 1 2 (demoKey 3) (demoKey 4) []).toOption.map
        (signEd25519 transparent (demoKey 1))).getD []) [] 1000)]

theorem fallback_of_first_rotation :
    ∃ d, (run (step transparent) (new {}) (firstRotation ++
      [.transition (.checkpoint 44200), .transition (.expireAll 87000)])).credentialForAuth 1 87399 =
        some d ∧ d.version = 1 := by
  have htiming := promotion_timing transparent {} (firstRotation ++
    [.transition (.checkpoint 44200), .transition (.expireAll 87000)]) 87399 (by decide)
  exact htiming.2.2 firstRotation 44200 [.transition (.expireAll 87000)]
    [⟨Uuid.nil, 1, demoKey 1, demoKey 2, .fallback, 1000, none, some 1000, some 130600⟩,
      ⟨Uuid.nil, 2, demoKey 3, demoKey 4, .active, 1000, some 44200, some 44200, some 130600⟩]
    ⟨Uuid.nil, 1, demoKey 1, demoKey 2, .fallback, 1000, none, some 1000, some 130600⟩ rfl
    (by decide +kernel) (by simp) rfl (by simp) (by decide)

def Covers (params : RotationParams) (e : RotationEngine) (now : ℤ) : Prop :=
  ∃ v2 x, e.active = some v2 ∧ v2.expirationTime = some x ∧ now + params.rotationDuration / 2 ≤ x

structure KeepsLifetime (P : Primitives) (params : RotationParams) (e : RotationEngine)
    (op : EngineOp) : Prop where
  kept : ∀ v c c' x, e.get v = some c → (step P e op).get v = some c' →
    c.expirationTime = some x → ∃ y, c'.expirationTime = some y ∧ y ≤ x
  lifetime : ∀ v c now, (step P e op).get v = some c →
    c.createdAt + 3 * params.rotationDuration / 2 ≤ now →
    (step P e op).credentialForAuth v now = none
  promotes : ∀ now changed, op = .transition (.checkpoint now) →
    (e.checkpoint now).1 = .ok changed → Covers params e now
  refuses : ∀ now, op = .transition (.checkpoint now) → ¬ Covers params e now →
    (∃ exc, (e.checkpoint now).1 = .error exc) ∧ (step P e op).active = e.active ∧
      (step P e op).fallback = e.fallback

def Uncovered (params : RotationParams) (e : RotationEngine) (op : EngineOp) : Prop :=
  ∃ now, op = .transition (.checkpoint now) ∧ e.Checkpointable now ∧ ¬ Covers params e now

structure FullValidity (params : RotationParams) (e : RotationEngine) : Prop where
  params_eq : e.params = params
  expiration : ∀ c ∈ e.creds.rows, c.expirationTime = some (params.expirationFrom c.createdAt)

section Lifetime

variable {P : Primitives} {params : RotationParams} {e : RotationEngine} {op : EngineOp}
  {c d : CredentialPublic}

lemma Moves.expirationTime (h : Moves e op c d) (hparams : e.params = params)
    (hcovered : ¬ Uncovered params e op) (hc : c.expirationTime ≠ none) :
    d.expirationTime = c.expirationTime := by
  cases h with
  | demoted hop hcheckpoint hactive =>
    obtain ⟨x, hx⟩ := Option.ne_none_iff_exists'.mp hc
    obtain ⟨v2, y, hv2, hy, hle⟩ := by_contra fun h => hcovered ⟨op.now, hop, hcheckpoint, h⟩
    obtain rfl := Option.some.inj (hactive.symm.trans hv2)
    obtain rfl := Option.some.inj (hx.symm.trans hy)
    change some (max (c.expirationTime.getD 0) (op.now + e.params.fallbackPeriod)) = _
    rw [hx, hparams]
    exact congrArg some (max_eq_left hle)
  | _ => rfl

lemma FullValidity.step (h : FullValidity params e) (hcovered : ¬ Uncovered params e op) :
    FullValidity params (RotationEngine.step P e op) where
  params_eq := (step_params P e op).trans h.params_eq
  expiration := by
    intro d hd
    rcases mem_step P op hd with ⟨b, hb, hbd⟩ | ⟨hnew, _⟩
    · have hx := h.expiration b hb
      rw [hbd.expirationTime h.params_eq hcovered (by simp [hx]), hbd.createdAt, hx]
    · cases hnew with
      | provisioned cred => rw [← h.params_eq]; rfl
      | submitted cred => rw [← h.params_eq]; rfl

lemma byStatus_put {n : CredentialPublic} {status : CredentialStatus} (hc : c ∈ e.creds.rows)
    (hv : n.version = c.version) (hcs : c.status ≠ status) (hns : n.status ≠ status) :
    (e.put n).byStatus status = e.byStatus status := by
  apply Table.find?_set
  · simpa using hns
  · intro b hb hbv
    rw [e.creds.row_unique hb hc (hbv.trans hv)]
    simpa using hcs

lemma checkpoint_refused {now : ℤ} (h : ¬ e.Checkpointable now) :
    (∃ exc, (e.checkpoint now).1 = .error exc) ∧ (e.checkpoint now).2.active = e.active ∧
      (e.checkpoint now).2.fallback = e.fallback := by
  rcases checkpoint_cases e now with
    ⟨exc, he⟩ | ⟨v3, exc, hv3, _, _, he⟩ | ⟨v3, v2, changed, hv3, hd, hx3, hv2, hx2, _⟩
  · rw [he]
    exact ⟨⟨exc, rfl⟩, rfl, rfl⟩
  · obtain ⟨hmem, hs⟩ := mem_of_byStatus hv3
    rw [he]
    refine ⟨⟨exc, rfl⟩, byStatus_put hmem rfl ?_ ?_, byStatus_put hmem rfl ?_ ?_⟩
    · simp [hs]
    · simp [retired]
    · simp [hs]
    · simp [retired]
  · exact (h ⟨v3, v2, hv3, hd, hx3, hv2, hx2⟩).elim

lemma FullValidity.keepsLifetime_iff (h : FullValidity params e) :
    KeepsLifetime P params e op ↔ ¬ Uncovered params e op := by
  constructor
  · rintro hkeeps ⟨now, rfl, hcheckpoint, hcovers⟩
    obtain ⟨changed, hok⟩ := checkpoint_accepts.mpr hcheckpoint
    exact hcovers (hkeeps.promotes now changed rfl hok)
  · intro hcovered
    have hcovers : ∀ now, op = .transition (.checkpoint now) → e.Checkpointable now →
        Covers params e now :=
      fun now hop hcheckpoint => by_contra fun hno => hcovered ⟨now, hop, hcheckpoint, hno⟩
    refine ⟨?_, ?_, ?_, ?_⟩
    · intro v c c' x hc hc' hx
      obtain ⟨d, hd, hmoves⟩ := moves_of_get P op hc
      obtain rfl := Option.some.inj (hc'.symm.trans hd)
      refine ⟨x, ?_, le_rfl⟩
      rw [hmoves.expirationTime h.params_eq hcovered (by simp [hx]), hx]
    · intro v c now hc hnow
      have hx := (h.step (P := P) hcovered).expiration c (get_eq_some.mp hc).1
      rw [Option.eq_none_iff_forall_ne_some]
      intro d hauth
      obtain ⟨hget, _, hvalid⟩ := credentialForAuth_eq_some.mp hauth
      obtain rfl := Option.some.inj (hc.symm.trans hget)
      rw [expired, hx] at hvalid
      exact of_decide_eq_false hvalid hnow
    · intro now changed hop hok
      exact hcovers now hop (checkpoint_accepts.mp ⟨changed, hok⟩)
    · rintro now rfl hno
      exact checkpoint_refused fun hcheckpoint => hno (hcovers now rfl hcheckpoint)

end Lifetime

theorem lifetime_bound_iff (P : Primitives) (params : RotationParams) (ops : List EngineOp) :
    Along (step P) (KeepsLifetime P params) (new params) ops ↔
      Along (step P) (fun e op => ¬ Uncovered params e op) (new params) ops :=
  along_iff_of_invariant (I := FullValidity params) (fun _ _ h => h.keepsLifetime_iff)
    (fun _ _ h hkeeps => h.step (h.keepsLifetime_iff.mp hkeeps)) ⟨rfl, by simp [new]⟩ ops

-- the checkpoint comes one second before the ACTIVE credential expires
theorem late_checkpoint_extends_lifetime :
    ¬ ∀ (P : Primitives) (params : RotationParams) (ops : List EngineOp) (q : ℤ),
      Chronological EngineOp.now ops q → Along (step P) (KeepsLifetime P params) (new params) ops := by
  intro h
  have hkeeps := h transparent {} (firstRotation ++ [.transition (.checkpoint 130599)]) 130599
    (by decide)
  rw [along_append] at hkeeps
  have hlater := hkeeps.2.1.lifetime 1
    ⟨Uuid.nil, 1, demoKey 1, demoKey 2, .fallback, 1000, none, some 1000, some 173799⟩ 173798
    (by decide +kernel) (by decide)
  have hreturned : (step transparent (run (step transparent) (new {}) firstRotation)
      (.transition (.checkpoint 130599))).credentialForAuth 1 173798 ≠ none := by
    decide +kernel
  exact hreturned hlater

end Secupload.Shared.RotationEngine
