import Secupload.Shared.RotationTiming

namespace Secupload.Shared.RotationEngine

open Library

section Rows

variable {cred : CredentialPublic} {now t : ℤ}

lemma expired_mono (ht : now ≤ t) (h : expired cred now = true) : expired cred t = true := by
  cases hx : cred.expirationTime with
  | none => simp [expired, hx] at h
  | some x =>
    simp only [expired, hx, decide_eq_true_eq] at h ⊢
    omega

lemma sweeps_iff : sweeps now cred = true ↔
    (cred.status = .active ∨ cred.status = .fallback) ∧ expired cred now = true := by
  rw [sweeps, Bool.and_eq_true, decide_eq_true_eq]

lemma sweep_of_sweeps (h : sweeps now cred = true) : sweep now cred = retired cred .expired := by
  rw [sweep, if_pos h]

lemma sweep_of_not (h : ¬ sweeps now cred = true) : sweep now cred = cred := by
  rw [sweep, if_neg h]

lemma not_sweeps_expired : ¬ sweeps now (retired cred .expired) = true := by
  rw [sweeps_iff]
  rintro ⟨ha | hf, _⟩
  · cases ha
  · cases hf

lemma sweep_sweep (ht : now ≤ t) (cred : CredentialPublic) : sweep t (sweep now cred) = sweep t cred := by
  by_cases h : sweeps now cred = true
  · obtain ⟨hs, hx⟩ := sweeps_iff.mp h
    have hlater : sweeps t cred = true := sweeps_iff.mpr ⟨hs, expired_mono ht hx⟩
    rw [sweep_of_sweeps h, sweep_of_sweeps hlater, sweep_of_not not_sweeps_expired]
  · rw [sweep_of_not h]

lemma sweep_of_validating (h : cred.status = .validating) : sweep now cred = cred := by
  refine sweep_of_not fun hs => ?_
  rcases (sweeps_iff.mp hs).1 with ha | hf
  · rw [h] at ha
    cases ha
  · rw [h] at hf
    cases hf

lemma sweep_of_unexpired (h : expired cred now = false) : sweep now cred = cred := by
  refine sweep_of_not fun hs => ?_
  rw [(sweeps_iff.mp hs).2] at h
  cases h

lemma sweep_of_not_inWindow (h : cred.status.inWindow = false) : sweep now cred = cred := by
  refine sweep_of_not fun hs => ?_
  rcases (sweeps_iff.mp hs).1 with ha | hf
  · rw [ha] at h
    cases h
  · rw [hf] at h
    cases h

end Rows

lemma validating_of_stale {cred : CredentialPublic} {now : ℤ}
    (hw : (sweep now cred).status.inWindow = true) (hx : expired (sweep now cred) now = true) :
    cred.status = .validating := by
  by_cases h : sweeps now cred = true
  · rw [sweep_of_sweeps h] at hw
    cases hw
  · rw [sweep_of_not h] at hw hx
    cases hs : cred.status with
    | validating => rfl
    | active => exact (h (sweeps_iff.mpr ⟨Or.inl hs, hx⟩)).elim
    | fallback => exact (h (sweeps_iff.mpr ⟨Or.inr hs, hx⟩)).elim
    | generated | expired | terminated | revoked =>
      rw [hs] at hw
      cases hw

section Engines

variable (e : RotationEngine) {now t : ℤ}

lemma expireAll_get_of_kept {v : ℤ} {c : CredentialPublic} (hc : e.get v = some c)
    (h : expired c now = false ∨ c.status.inWindow = false) : (e.expireAll now).2.get v = some c := by
  rw [expireAll_get, hc, Option.map_some]
  rcases h with hx | hw
  · rw [sweep_of_unexpired hx]
  · rw [sweep_of_not_inWindow hw]

lemma expireAll_credentialForAuth (ht : now ≤ t) (v : ℤ) :
    (e.expireAll now).2.credentialForAuth v t = e.credentialForAuth v t := by
  rw [credentialForAuth, credentialForAuth, expireAll_get]
  cases hc : e.get v with
  | none => rfl
  | some c =>
    by_cases h : sweeps now c = true
    · obtain ⟨hs, hx⟩ := sweeps_iff.mp h
      rw [Option.map_some, sweep_of_sweeps h]
      simp [retired, expired_mono ht hx]
    · rw [Option.map_some, sweep_of_not h]

lemma expireAll_expireAll (ht : now ≤ t) :
    ((e.expireAll now).2.expireAll t).2 = (e.expireAll t).2 := by
  have hrows : (e.creds.rows.map (sweep now)).map (sweep t) = e.creds.rows.map (sweep t) := by
    rw [List.map_map]
    exact List.map_congr_left fun c _ => sweep_sweep ht c
  exact congrArg (RotationEngine.mk e.params) (Table.ext hrows)

lemma mem_expireAll {c : CredentialPublic} :
    c ∈ (e.expireAll now).2.creds.rows ↔ ∃ d ∈ e.creds.rows, sweep now d = c :=
  List.mem_map

lemma expireAll_validating {c : CredentialPublic} (hc : c ∈ e.creds.rows)
    (hs : c.status = .validating) : c ∈ (e.expireAll now).2.creds.rows :=
  (mem_expireAll e).mpr ⟨c, hc, sweep_of_validating hs⟩

end Engines

structure SweptClean (e : RotationEngine) (now : ℤ) : Prop where
  complete : ∀ c ∈ (e.expireAll now).2.creds.rows, c.status.inWindow = true → expired c now = false
  kept : ∀ v c, e.get v = some c → expired c now = false ∨ c.status.inWindow = false →
    (e.expireAll now).2.get v = some c
  transparent : ∀ v t, now ≤ t →
    (e.expireAll now).2.credentialForAuth v t = e.credentialForAuth v t
  absorbed : ∀ t, now ≤ t → ((e.expireAll now).2.expireAll t).2 = (e.expireAll t).2

lemma sweptClean_iff (e : RotationEngine) (now : ℤ) :
    SweptClean e now ↔ ∀ c ∈ e.creds.rows, c.status = .validating → expired c now = false := by
  constructor
  · intro h c hc hs
    exact h.complete c (expireAll_validating e hc hs) (by rw [hs]; rfl)
  · intro h
    refine ⟨fun c hc hw => ?_, fun v c => expireAll_get_of_kept e,
      fun v t ht => expireAll_credentialForAuth e ht v, fun t => expireAll_expireAll e⟩
    obtain ⟨d, hd, rfl⟩ := (mem_expireAll e).mp hc
    by_contra hx
    rw [Bool.not_eq_false] at hx
    have hs := validating_of_stale hw hx
    rw [sweep_of_validating hs, h d hd hs] at hx
    cases hx

theorem expiry_sweep_iff (P : Primitives) (params : RotationParams) (ops : List EngineOp) (now : ℤ) :
    let e := run (step P) (new params) ops
    SweptClean e now ↔ ∀ c ∈ e.creds.rows, c.status = .validating → expired c now = false :=
  sweptClean_iff _ now

-- the successor was never promoted, and outlives its expiry in the window
theorem validating_survives_sweep :
    ¬ ∀ (P : Primitives) (params : RotationParams) (ops : List EngineOp) (now : ℤ),
      SweptClean (run (step P) (new params) ops) now := by
  intro h
  have hstale := (h transparent {} firstRotation 130600).complete
    ⟨Uuid.nil, 2, demoKey 3, demoKey 4, .validating, 1000, some 44200, none, some 130600⟩
    (by decide +kernel) rfl
  cases hstale

end Secupload.Shared.RotationEngine
