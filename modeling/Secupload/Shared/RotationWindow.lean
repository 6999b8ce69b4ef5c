import Secupload.Library.Runs
import Secupload.Shared.CredentialState

namespace Secupload.Shared.RotationEngine

open Library

inductive Transition
  | submitSuccessor (newCred : CredentialPublic) (signature transitionMetadata : Bytes) (now : ℤ)
  | checkpoint (now : ℤ)
  | rollback (now : ℤ)
  | revoke (version now : ℤ)
  | expireAll (now : ℤ)

def Transition.exec (P : Primitives) (e : RotationEngine) :
    Transition → Outcome RotationEngine (List CredentialPublic)
  | .submitSuccessor newCred signature metadata now =>
    (e.submitSuccessor P newCred signature metadata now).map
      fun _ e' => (e'.get newCred.version).toList
  | .checkpoint now => e.checkpoint now
  | .rollback now => (e.rollback now).map fun c _ => [c]
  | .revoke version now => (e.revoke version now).map fun c _ => [c]
  | .expireAll now => e.expireAll now

inductive EngineOp
  | provisionInitial (cred : CredentialPublic) (now : ℤ)
  | transition (t : Transition)

def EngineOp.exec (P : Primitives) (e : RotationEngine) :
    EngineOp → Outcome RotationEngine (List CredentialPublic)
  | .provisionInitial cred now => (e.provisionInitial cred now).map fun _ _ => []
  | .transition t => t.exec P e

def step (P : Primitives) (e : RotationEngine) (op : EngineOp) : RotationEngine := (op.exec P e).2

section Effects

variable {P : Primitives} {e : RotationEngine}

lemma lt_of_maxVersion {n : CredentialPublic} (h : ∀ m ∈ e.maxVersion?, n.version = m + 1) :
    ∀ d ∈ e.creds.rows, d.version < n.version := by
  intro d hd
  cases hm : e.maxVersion? with
  | none => simp [maxVersion?_eq_none.mp hm] at hd
  | some m =>
    have hle := (maxVersion?_eq_some.mp hm).2 d hd
    have hn := h m hm
    omega

lemma maxVersion?_of_mem {c : CredentialPublic} (h : c ∈ e.creds.rows) :
    e.maxVersion? = some (e.maxVersion?.getD 0) := by
  cases hm : e.maxVersion? with
  | none => simp [maxVersion?_eq_none.mp hm] at h
  | some m => rfl

lemma Submittable.newest {n : CredentialPublic} {signature metadata : Bytes} {now : ℤ}
    (h : e.Submittable P n signature metadata now) : ∀ d ∈ e.creds.rows, d.version < n.version := by
  obtain ⟨_, _, _, _, _, hversion, _⟩ := h
  refine lt_of_maxVersion fun m hm => ?_
  rw [hm] at hversion
  exact hversion

lemma transition_cases (P : Primitives) (e : RotationEngine) (t : Transition) :
    (t.exec P e).2 = e ∨
    (∃ n signature metadata now, e.Submittable P n signature metadata now ∧
      (t.exec P e).2 = e.put (submitted e.params n now)) ∨
    (∃ c status, c ∈ e.creds.rows ∧ status.dead = true ∧
      (c.status = .active → ∃ now, t = .revoke c.version now) ∧
      (t.exec P e).2 = e.put (retired c status)) ∨
    (∃ v2 v3 now, e.active = some v2 ∧ e.validating = some v3 ∧
      (t.exec P e).2 = (e.terminateFallback.put (demoted e.params v2 now)).put (promoted v3 now)) ∨
    ∃ now, t = .expireAll now := by
  have hvalidating : ∀ {v3}, e.validating = some v3 → v3.status = .active →
      ∃ now, t = .revoke v3.version now := by
    intro v3 hv3 hs
    rw [(mem_of_byStatus hv3).2] at hs
    cases hs
  cases t with
  | submitSuccessor newCred signature metadata now =>
    rcases submitSuccessor_cases P e now newCred signature metadata with ⟨exc, he⟩ | ⟨hs, he⟩
    · exact Or.inl (congrArg Prod.snd he)
    · exact Or.inr (Or.inl ⟨newCred, signature, metadata, now, hs, congrArg Prod.snd he⟩)
  | checkpoint now =>
    rcases checkpoint_cases e now with
      ⟨exc, he⟩ | ⟨v3, exc, hv3, _, _, he⟩ | ⟨v3, v2, changed, hv3, _, _, hv2, _, he⟩
    · exact Or.inl (congrArg Prod.snd he)
    · exact Or.inr (Or.inr (Or.inl ⟨v3, .expired, (mem_of_byStatus hv3).1, rfl, hvalidating hv3,
        congrArg Prod.snd he⟩))
    · exact Or.inr (Or.inr (Or.inr (Or.inl ⟨v2, v3, now, hv2, hv3, congrArg Prod.snd he⟩)))
  | rollback now =>
    rcases rollback_cases e now with ⟨exc, he⟩ | ⟨v3, hv3, he⟩
    · exact Or.inl (congrArg Prod.snd he)
    · exact Or.inr (Or.inr (Or.inl ⟨v3, .terminated, (mem_of_byStatus hv3).1, rfl, hvalidating hv3,
        congrArg Prod.snd he⟩))
  | revoke version now =>
    rcases revoke_cases e now version with ⟨exc, he⟩ | ⟨cred, hcred, he⟩
    · exact Or.inl (congrArg Prod.snd he)
    · obtain ⟨hmem, hv⟩ := get_eq_some.mp hcred
      exact Or.inr (Or.inr (Or.inl ⟨cred, .revoked, hmem, rfl, fun _ => ⟨now, by rw [hv]⟩,
        congrArg Prod.snd he⟩))
  | expireAll now => exact Or.inr (Or.inr (Or.inr (Or.inr ⟨now, rfl⟩)))

end Effects

structure WindowInv (e : RotationEngine) : Prop where
  unique : ∀ c ∈ e.creds.rows, ∀ d ∈ e.creds.rows,
    c.status.inWindow = true → c.status = d.status → c = d
  validating_last : ∀ c ∈ e.creds.rows, c.status = .validating →
    ∀ d ∈ e.creds.rows, d.version ≤ c.version
  fallback_before : ∀ c ∈ e.creds.rows, c.status = .fallback →
    ∀ d ∈ e.creds.rows, d.status = .active → c.version < d.version

lemma windowInv_new (params : RotationParams) : WindowInv (new params) where
  unique := by simp [new]
  validating_last := by simp [new]
  fallback_before := by simp [new]

section Put

variable {e : RotationEngine} {n : CredentialPublic}

lemma WindowInv.put (h : WindowInv e)
    (hunique : n.status.inWindow = true →
      ∀ d ∈ e.creds.rows, d.version ≠ n.version → d.status ≠ n.status)
    (hlast : n.status = .validating → ∀ d ∈ e.creds.rows, d.version ≤ n.version)
    (hbelow : ∀ c ∈ e.creds.rows, c.version ≠ n.version → c.status = .validating →
      n.version ≤ c.version)
    (hbefore : n.status = .fallback →
      ∀ d ∈ e.creds.rows, d.version ≠ n.version → d.status = .active → n.version < d.version)
    (hafter : n.status = .active →
      ∀ c ∈ e.creds.rows, c.version ≠ n.version → c.status = .fallback → c.version < n.version) :
    WindowInv (e.put n) where
  unique := by
    intro c hc d hd hw hs
    rcases mem_put.mp hc with rfl | ⟨hc', hcn⟩ <;> rcases mem_put.mp hd with rfl | ⟨hd', hdn⟩
    · rfl
    · exact (hunique hw d hd' hdn hs.symm).elim
    · exact (hunique (hs ▸ hw) c hc' hcn hs).elim
    · exact h.unique c hc' d hd' hw hs
  validating_last := by
    intro c hc hs d hd
    rcases mem_put.mp hc with rfl | ⟨hc', hcn⟩ <;> rcases mem_put.mp hd with rfl | ⟨hd', hdn⟩
    · exact le_rfl
    · exact hlast hs d hd'
    · exact hbelow c hc' hcn hs
    · exact h.validating_last c hc' hs d hd'
  fallback_before := by
    intro c hc hs d hd ht
    rcases mem_put.mp hc with rfl | ⟨hc', hcn⟩ <;> rcases mem_put.mp hd with rfl | ⟨hd', hdn⟩
    · simp [hs] at ht
    · exact hbefore hs d hd' hdn ht
    · exact hafter ht c hc' hcn hs
    · exact h.fallback_before c hc' hs d hd' ht

lemma WindowInv.put_retired (h : WindowInv e) {c : CredentialPublic} (hc : c ∈ e.creds.rows)
    {status : CredentialStatus} (hs : status.dead = true) : WindowInv (e.put (retired c status)) := by
  have hstatus : (retired c status).status = status := rfl
  have hnot := CredentialStatus.not_inWindow_of_dead hs
  apply h.put
  · intro hw
    rw [hstatus, hnot] at hw
    cases hw
  · intro hv
    rw [← hstatus, hv] at hs
    cases hs
  · intro d hd _ hv
    exact h.validating_last d hd hv c hc
  · intro hv
    rw [← hstatus, hv] at hs
    cases hs
  · intro hv
    rw [← hstatus, hv] at hs
    cases hs

end Put

section Transitions

variable {e : RotationEngine}

lemma WindowInv.mem_terminateFallback (h : WindowInv e) {c : CredentialPublic} :
    c ∈ e.terminateFallback.creds.rows ↔
      c ∈ e.creds.rows ∧ c.status ≠ .fallback ∨
      ∃ v1 ∈ e.creds.rows, v1.status = .fallback ∧ c = retired v1 .terminated := by
  rw [terminateFallback]
  split
  · rename_i hnone
    have hno := byStatus_eq_none.mp hnone
    constructor
    · intro hc
      exact Or.inl ⟨hc, hno c hc⟩
    · rintro (⟨hc, _⟩ | ⟨v1, hv1, hs, _⟩)
      · exact hc
      · exact (hno v1 hv1 hs).elim
  · rename_i v1 hv1
    obtain ⟨hmem, hs⟩ := mem_of_byStatus hv1
    have honly : ∀ c ∈ e.creds.rows, c.status = .fallback → c = v1 := fun c hc hf =>
      h.unique c hc v1 hmem (by rw [hf]; rfl) (hf.trans hs.symm)
    rw [mem_put]
    constructor
    · rintro (rfl | ⟨hc, hne⟩)
      · exact Or.inr ⟨v1, hmem, hs, rfl⟩
      · exact Or.inl ⟨hc, fun hf => hne (by rw [honly c hc hf]; rfl)⟩
    · rintro (⟨hc, hne⟩ | ⟨w, hw, hf, rfl⟩)
      · refine Or.inr ⟨hc, fun hv => hne ?_⟩
        rw [e.creds.row_unique hc hmem hv, hs]
      · exact Or.inl (by rw [honly w hw hf])

lemma WindowInv.terminateFallback (h : WindowInv e) : WindowInv e.terminateFallback := by
  rw [RotationEngine.terminateFallback]
  split
  · exact h
  · rename_i v1 hv1
    exact h.put_retired (mem_of_byStatus hv1).1 rfl

lemma WindowInv.install (h : WindowInv e) {n : CredentialPublic}
    (hvalidating : e.validating = none) (hactive : n.status = .active → e.active = none)
    (hstatus : n.status = .active ∨ n.status = .validating)
    (hnew : ∀ d ∈ e.creds.rows, d.version < n.version) : WindowInv (e.put n) := by
  have hnv := byStatus_eq_none.mp hvalidating
  apply h.put
  · intro _ d hd _ hs
    rcases hstatus with ha | hv
    · exact byStatus_eq_none.mp (hactive ha) d hd (hs.trans ha)
    · exact hnv d hd (hs.trans hv)
  · intro _ d hd
    exact (hnew d hd).le
  · intro c hc _ hv
    exact (hnv c hc hv).elim
  · intro hf
    rcases hstatus with ha | hv
    · simp [ha] at hf
    · simp [hv] at hf
  · intro _ c hc _ _
    exact hnew c hc

lemma WindowInv.promote (h : WindowInv e) {v2 v3 : CredentialPublic} (now : ℤ)
    (hv2 : e.active = some v2) (hv3 : e.validating = some v3) :
    WindowInv ((e.terminateFallback.put (demoted e.params v2 now)).put (promoted v3 now)) := by
  obtain ⟨hm2, hs2⟩ := mem_of_byStatus hv2
  obtain ⟨hm3, hs3⟩ := mem_of_byStatus hv3
  have hne : v3.version ≠ v2.version := by
    intro hv
    rw [e.creds.row_unique hm3 hm2 hv, hs2] at hs3
    cases hs3
  have hterm := h.terminateFallback
  have hm2' : v2 ∈ e.terminateFallback.creds.rows :=
    h.mem_terminateFallback.mpr (Or.inl ⟨hm2, by simp [hs2]⟩)
  have hm3' : v3 ∈ e.terminateFallback.creds.rows :=
    h.mem_terminateFallback.mpr (Or.inl ⟨hm3, by simp [hs3]⟩)
  have hnofb : ∀ c ∈ e.terminateFallback.creds.rows, c.status ≠ .fallback := by
    intro c hc
    rcases h.mem_terminateFallback.mp hc with ⟨_, hs⟩ | ⟨v1, _, _, rfl⟩
    · exact hs
    · simp [retired]
  have hactive : ∀ c ∈ e.terminateFallback.creds.rows, c.status = .active → c = v2 :=
    fun c hc hs => hterm.unique c hc v2 hm2' (by rw [hs]; rfl) (hs.trans hs2.symm)
  have hlast := hterm.validating_last v3 hm3' hs3
  -- V2 becomes the only FALLBACK, and no ACTIVE credential is left
  have hdemoted : WindowInv (e.terminateFallback.put (demoted e.params v2 now)) := by
    apply hterm.put
    · intro _ d hd _
      exact hnofb d hd
    · intro hv
      cases hv
    · intro c hc _ hv
      exact hterm.validating_last c hc hv v2 hm2'
    · intro _ d hd hdv hs
      exact (hdv (by rw [hactive d hd hs]; rfl)).elim
    · intro ha
      cases ha
  apply hdemoted.put
  · intro _ d hd _ hs
    rcases mem_put.mp hd with rfl | ⟨hd', hdv⟩
    · cases hs
    · exact hdv (by rw [hactive d hd' hs]; rfl)
  · intro hv
    cases hv
  · intro c hc hcv hv
    rcases mem_put.mp hc with rfl | ⟨hc', _⟩
    · cases hv
    · have he := hterm.unique c hc' v3 hm3' (by rw [hv]; rfl) (hv.trans hs3.symm)
      exact (hcv (by rw [he]; rfl)).elim
  · intro hf
    cases hf
  · intro _ c hc hcv _
    rcases mem_put.mp hc with rfl | ⟨hc', _⟩
    · exact lt_of_le_of_ne (hlast v2 hm2') (Ne.symm hne)
    · exact lt_of_le_of_ne (hlast c hc') hcv

lemma WindowInv.retire {e' : RotationEngine} (h : WindowInv e)
    (hrow : ∀ c ∈ e'.creds.rows, ∃ c' ∈ e.creds.rows,
      c.version = c'.version ∧ (c = c' ∨ c.status.inWindow = false)) : WindowInv e' := by
  constructor
  · intro c hc d hd hw hs
    obtain ⟨c', hc', _, rfl | hout⟩ := hrow c hc
    · obtain ⟨d', hd', _, rfl | hout⟩ := hrow d hd
      · exact h.unique c hc' d hd' hw hs
      · rw [hs, hout] at hw
        cases hw
    · rw [hout] at hw
      cases hw
  · intro c hc hs d hd
    obtain ⟨c', hc', _, rfl | hout⟩ := hrow c hc
    · obtain ⟨d', hd', hv, _⟩ := hrow d hd
      exact hv ▸ h.validating_last c hc' hs d' hd'
    · rw [hs] at hout
      cases hout
  · intro c hc hs d hd ht
    obtain ⟨c', hc', _, rfl | hout⟩ := hrow c hc
    · obtain ⟨d', hd', _, rfl | hout⟩ := hrow d hd
      · exact h.fallback_before c hc' hs d hd' ht
      · rw [ht] at hout
        cases hout
    · rw [hs] at hout
      cases hout

lemma WindowInv.sweep (h : WindowInv e) (now : ℤ) : WindowInv (e.expireAll now).2 := by
  refine h.retire fun c hc => ?_
  obtain ⟨c', hc', rfl⟩ := List.mem_map.mp hc
  refine ⟨c', hc', sweep_version now c', ?_⟩
  rw [RotationEngine.sweep]
  split
  · exact Or.inr rfl
  · exact Or.inl rfl

lemma windowInv_transition (P : Primitives) (h : WindowInv e) (t : Transition) :
    WindowInv (t.exec P e).2 := by
  rcases transition_cases P e t with
    he | ⟨n, signature, metadata, now, hs, he⟩ | ⟨c, status, hc, hdead, _, he⟩ |
    ⟨v2, v3, now, hv2, hv3, he⟩ | ⟨now, rfl⟩
  · exact he.symm ▸ h
  · have hnew := hs.newest
    obtain ⟨_, _, _, _, hvalidating, _⟩ := hs
    refine he ▸ h.install hvalidating (fun ha => ?_) (Or.inr rfl) hnew
    cases ha
  · exact he ▸ h.put_retired hc hdead
  · exact he ▸ h.promote now hv2 hv3
  · exact h.sweep now

lemma Submittable.window {P : Primitives} {n : CredentialPublic} {signature metadata : Bytes} {now : ℤ}
    (hs : e.Submittable P n signature metadata now) (h : WindowInv e) :
    WindowInv (e.put (submitted e.params n now)) := by
  have hwindow := windowInv_transition P h (.submitSuccessor n signature metadata now)
  rwa [Transition.exec, hs.submit] at hwindow

lemma windowInv_step (P : Primitives) (h : WindowInv e) (op : EngineOp) :
    WindowInv (step P e op) := by
  cases op with
  | provisionInitial cred now =>
    change WindowInv (e.provisionInitial cred now).2
    rcases provisionInitial_cases e now cred with ⟨exc, he⟩ | ⟨hp, he⟩
    · exact he ▸ h
    · exact he ▸ h.install hp.validating (fun _ => hp.active) (Or.inl rfl) (lt_of_maxVersion hp.order)
  | transition t => exact windowInv_transition P h t

lemma windowInv_run (P : Primitives) (params : RotationParams) (ops : List EngineOp) :
    WindowInv (run (step P) (new params) ops) :=
  run_invariant (I := WindowInv) (fun _ op h => windowInv_step P h op) (windowInv_new params) ops

end Transitions

def countStatus (e : RotationEngine) (status : CredentialStatus) : ℕ :=
  e.creds.rows.countP (fun c => decide (c.status = status))

section Counting

variable {e : RotationEngine}

lemma WindowInv.countStatus_le_one (h : WindowInv e) {status : CredentialStatus}
    (hw : status.inWindow = true) : countStatus e status ≤ 1 := by
  apply e.creds.countP_le_one
  intro c hc d hd hcs hds
  have hcs : c.status = status := by simpa using hcs
  have hds : d.status = status := by simpa using hds
  exact h.unique c hc d hd (hcs ▸ hw) (hcs.trans hds.symm)

lemma versionsInWindow_eq :
    e.versionsInWindow = countStatus e .validating + countStatus e .active + countStatus e .fallback := by
  unfold versionsInWindow countStatus
  induction e.creds.rows with
  | nil => rfl
  | cons c rows ih =>
    simp only [List.countP_cons, ih]
    cases c.status <;> simp [CredentialStatus.inWindow] <;> omega

lemma WindowInv.countStatus_active (h : WindowInv e) (ha : e.active ≠ none) :
    countStatus e .active = 1 := by
  apply le_antisymm (h.countStatus_le_one rfl)
  obtain ⟨c, hc⟩ := Option.ne_none_iff_exists'.mp ha
  obtain ⟨hmem, hs⟩ := mem_of_byStatus hc
  exact List.countP_pos_iff.mpr ⟨c, hmem, by simp [hs]⟩

end Counting

-- `expire_all` and a revocation of the ACTIVE version may leave no ACTIVE credential
def Undisturbed (e : RotationEngine) : EngineOp → Prop
  | .transition (.expireAll _) => False
  | .transition (.revoke version _) => ∀ c, e.active = some c → c.version ≠ version
  | _ => True

section Active

variable {e : RotationEngine}

lemma active_ne_none : e.active ≠ none ↔ ∃ c ∈ e.creds.rows, c.status = .active := by
  rw [← Option.isSome_iff_ne_none]
  exact byStatus_isSome

lemma active_put {c : CredentialPublic} (hc : c.status = .active) : (e.put c).active ≠ none :=
  active_ne_none.mpr ⟨c, mem_put.mpr (Or.inl rfl), hc⟩

lemma active_put_ne {c a : CredentialPublic} (ha : e.active = some a) (hne : a.version ≠ c.version) :
    (e.put c).active ≠ none :=
  have hmem := mem_of_byStatus ha
  active_ne_none.mpr ⟨a, mem_put.mpr (Or.inr ⟨hmem.1, hne⟩), hmem.2⟩

lemma active_transition (P : Primitives) (t : Transition) (h : Undisturbed e (.transition t))
    (ha : e.active ≠ none) : (t.exec P e).2.active ≠ none := by
  obtain ⟨a, ha⟩ := Option.ne_none_iff_exists'.mp ha
  obtain ⟨hmem, has⟩ := mem_of_byStatus ha
  rcases transition_cases P e t with
    he | ⟨n, signature, metadata, now, hs, he⟩ | ⟨c, status, hc, _, hrevoke, he⟩ |
    ⟨v2, v3, now, hv2, hv3, he⟩ | ⟨now, rfl⟩
  · rw [he, ha]
    exact Option.some_ne_none a
  · rw [he]
    exact active_put_ne ha (hs.newest a hmem).ne
  · rw [he]
    apply active_put_ne ha
    intro hv
    obtain rfl := e.creds.row_unique hmem hc hv
    obtain ⟨now, rfl⟩ := hrevoke has
    exact h a ha rfl
  · rw [he]
    exact active_put rfl
  · exact h.elim

lemma active_step (P : Primitives) (op : EngineOp) (h : Undisturbed e op) (ha : e.active ≠ none) :
    (step P e op).active ≠ none := by
  cases op with
  | provisionInitial cred now =>
    change (e.provisionInitial cred now).2.active ≠ none
    rcases provisionInitial_cases e now cred with ⟨exc, he⟩ | ⟨hp, _⟩
    · rw [he]
      exact ha
    · exact (ha hp.active).elim
  | transition t => exact active_transition P t h ha

end Active

theorem rotation_window (P : Primitives) (params : RotationParams) (ops : List EngineOp) :
    let e := run (step P) (new params) ops
    (countStatus e .active ≤ 1 ∧ countStatus e .fallback ≤ 1 ∧ countStatus e .validating ≤ 1 ∧
      e.versionsInWindow ≤ 3) ∧
    (∀ f ∈ e.creds.rows, ∀ a ∈ e.creds.rows, ∀ v ∈ e.creds.rows,
      (f.status = .fallback → a.status = .active → f.version < a.version) ∧
      (a.status = .active → v.status = .validating → a.version < v.version) ∧
      (f.status = .fallback → v.status = .validating → f.version < v.version)) ∧
    (∀ v ∈ e.creds.rows, v.status = .validating → ∀ c ∈ e.creds.rows, c.version ≤ v.version) ∧
    (∀ pre cred now post, ops = pre ++ .provisionInitial cred now :: post →
      ((run (step P) (new params) pre).provisionInitial cred now).1 = .ok () →
      Along (step P) Undisturbed (run (step P) (new params) (pre ++ [.provisionInitial cred now])) post →
      countStatus e .active = 1) := by
  intro e
  have h : WindowInv e := windowInv_run P params ops
  have hbelow : ∀ c ∈ e.creds.rows, ∀ v ∈ e.creds.rows, c.status ≠ .validating →
      v.status = .validating → c.version < v.version := by
    intro c hc v hv hcs hvs
    apply lt_of_le_of_ne (h.validating_last v hv hvs c hc)
    intro he
    exact hcs (e.creds.row_unique hc hv he ▸ hvs)
  refine ⟨⟨h.countStatus_le_one rfl, h.countStatus_le_one rfl, h.countStatus_le_one rfl, ?_⟩,
    ?_, h.validating_last, ?_⟩
  · have ha : countStatus e .active ≤ 1 := h.countStatus_le_one rfl
    have hf : countStatus e .fallback ≤ 1 := h.countStatus_le_one rfl
    have hv : countStatus e .validating ≤ 1 := h.countStatus_le_one rfl
    rw [versionsInWindow_eq]
    omega
  · intro f hf a ha v hv
    exact ⟨fun hfs has => h.fallback_before f hf hfs a ha has,
      fun has hvs => hbelow a ha v hv (by simp [has]) hvs,
      fun hfs hvs => hbelow f hf v hv (by simp [hfs]) hvs⟩
  · intro pre cred now post hops hok hpost
    apply h.countStatus_active
    have hrun : e = run (step P) (run (step P) (new params) (pre ++ [.provisionInitial cred now])) post := by
      change run (step P) (new params) ops = _
      rw [← run_append, hops, List.append_assoc]
      rfl
    rw [hrun]
    refine hpost.invariant (I := fun e => e.active ≠ none) (fun _ op hc ha => active_step P op hc ha) ?_
    rw [run_append]
    change ((run (step P) (new params) pre).provisionInitial cred now).2.active ≠ none
    rcases provisionInitial_cases (run (step P) (new params) pre) now cred with
      ⟨exc, he⟩ | ⟨_, he⟩
    · rw [he] at hok
      cases hok
    · rw [he]
      exact active_put rfl

end Secupload.Shared.RotationEngine
