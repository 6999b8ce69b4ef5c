import Secupload.Shared.CredentialLifecycle

namespace Secupload.Shared.RotationEngine

open Library

def statusAt (e : RotationEngine) (v : ℤ) : Option CredentialStatus := (e.get v).map (·.status)

section StatusAt

variable {e e' : RotationEngine} {c : CredentialPublic} {s : CredentialStatus} {u v now : ℤ}

lemma statusAt_eq_some : e.statusAt v = some s ↔ ∃ c, e.get v = some c ∧ c.status = s :=
  Option.map_eq_some_iff

lemma statusAt_of_get (h : e.get v = some c) : e.statusAt v = some c.status := by
  rw [statusAt, h]
  rfl

lemma statusAt_eq_none : e.statusAt v = none ↔ e.get v = none := Option.map_eq_none_iff

lemma statusAt_put (v : ℤ) :
    (e.put c).statusAt v = if c.version = v then some c.status else e.statusAt v := by
  rw [statusAt, get_put]
  split <;> rfl

lemma statusAt_of_byStatus (h : e.byStatus s = some c) : e.statusAt c.version = some s := by
  obtain ⟨hmem, hs⟩ := mem_of_byStatus h
  rw [statusAt_of_get (get_of_mem hmem), hs]

lemma byStatus_none_iff : e.byStatus s = none ↔ ∀ v, e.statusAt v ≠ some s := by
  constructor
  · intro h v hv
    obtain ⟨c, hc, hs⟩ := statusAt_eq_some.mp hv
    exact byStatus_eq_none.mp h c (get_eq_some.mp hc).1 hs
  · intro h
    refine byStatus_eq_none.mpr fun c hc hs => h c.version ?_
    rw [statusAt_of_get (get_of_mem hc), hs]

lemma WindowInv.byStatus_of_statusAt (h : WindowInv e) (hv : e.statusAt v = some s)
    (hs : s.inWindow = true) : ∃ c, e.byStatus s = some c ∧ c.version = v ∧ e.get v = some c := by
  obtain ⟨c, hc, rfl⟩ := statusAt_eq_some.mp hv
  exact ⟨c, h.byStatus_of_get hc hs, (get_eq_some.mp hc).2, hc⟩

lemma WindowInv.statusAt_unique (h : WindowInv e) (hu : e.statusAt u = some s)
    (hv : e.statusAt v = some s) (hs : s.inWindow = true) : u = v := by
  obtain ⟨c, hc, hcu, _⟩ := h.byStatus_of_statusAt hu hs
  obtain ⟨d, hd, hdv, _⟩ := h.byStatus_of_statusAt hv hs
  obtain rfl := Option.some.inj (hc.symm.trans hd)
  exact hcu.symm.trans hdv

lemma WindowInv.statusAt_promote (h : WindowInv e) {v2 v3 : CredentialPublic} (now : ℤ) (v : ℤ) :
    ((e.terminateFallback.put (demoted e.params v2 now)).put (promoted v3 now)).statusAt v =
      if v3.version = v then some .active
      else if v2.version = v then some .fallback
      else (e.get v).map fun c => (ended c).status := by
  rw [statusAt, h.get_promote]
  split
  · rfl
  · split
    · rfl
    · rw [Option.map_map]
      rfl

lemma WindowInv.validating_promote (h : WindowInv e) {v2 v3 : CredentialPublic}
    (hv3 : e.validating = some v3) (now : ℤ) :
    ((e.terminateFallback.put (demoted e.params v2 now)).put (promoted v3 now)).validating = none := by
  refine byStatus_none_iff.mpr fun v hv => ?_
  rw [h.statusAt_promote] at hv
  split_ifs at hv with h3 h2
  · cases hv
  · cases hv
  · obtain ⟨c, hc, hs⟩ := Option.map_eq_some_iff.mp hv
    rw [ended] at hs
    split_ifs at hs
    · cases hs
    · have hstatus := statusAt_of_get hc
      rw [hs] at hstatus
      exact h3 (h.statusAt_unique (statusAt_of_byStatus hv3) hstatus rfl)

lemma WindowInv.validating_rollback (h : WindowInv e) {v3 : CredentialPublic}
    (hv3 : e.validating = some v3) : (e.put (retired v3 .terminated)).validating = none := by
  refine byStatus_none_iff.mpr fun v hv => ?_
  rw [statusAt_put] at hv
  split_ifs at hv with h3
  · cases hv
  · have hstatus : e.statusAt v3.version = some .validating := statusAt_of_byStatus hv3
    exact h3 (h.statusAt_unique hstatus hv rfl)

lemma Submittable.unknown {P : Primitives} {signature metadata : Bytes}
    (h : e.Submittable P c signature metadata now) : e.statusAt c.version = none := by
  refine statusAt_eq_none.mpr (get_eq_none.mpr fun d hd => ?_)
  have hlt := h.newest d hd
  omega

lemma get_congr (h : ∀ d, d ∈ e'.creds.rows ↔ d ∈ e.creds.rows) (v : ℤ) : e'.get v = e.get v := by
  apply Option.ext
  intro c
  rw [get_eq_some, get_eq_some, h]

lemma WindowInv.congr (hw : WindowInv e) (h : ∀ d, d ∈ e'.creds.rows ↔ d ∈ e.creds.rows) :
    WindowInv e' where
  unique := by simpa only [h] using hw.unique
  validating_last := by simpa only [h] using hw.validating_last
  fallback_before := by simpa only [h] using hw.fallback_before

lemma windowInv_single (h : ∀ d ∈ e.creds.rows, d.status.inWindow = true →
    d.version = v ∧ d.status = .active) : WindowInv e where
  unique := by
    intro c hc d hd hw hs
    exact e.creds.row_unique hc hd ((h c hc hw).1.trans (h d hd (hs ▸ hw)).1.symm)
  validating_last := by
    intro c hc hs
    have hactive := (h c hc (by rw [hs]; rfl)).2
    rw [hs] at hactive
    cases hactive
  fallback_before := by
    intro c hc hs
    have hactive := (h c hc (by rw [hs]; rfl)).2
    rw [hs] at hactive
    cases hactive

end StatusAt

end Secupload.Shared.RotationEngine
