import Secupload.Library.Renewal
import Secupload.Server.OwnRotation
import Secupload.Shared.Canonical
import Secupload.Shared.StatusTable

namespace Secupload.Server

open Library Shared
open Shared.RotationEngine (WindowInv submitted promoted demoted expired mem_of_byStatus get_put
  get_eq_some get_of_mem versionsInWindow_eq)

def ServerConfig.renewal (cfg : ServerConfig) : Renewal where
  life := cfg.params.totalValidity
  lead := 2 * cfg.params.fallbackPeriod
  delay := cfg.params.validationPeriod

lemma ServerConfig.renewal_suits {cfg : ServerConfig} {D : ℤ} (hD : 0 ≤ D)
    (hslack : 3 * D ≤ cfg.rotationDuration / 2) : cfg.renewal.Suits D := by
  refine ⟨hD, ?_, ?_, ?_⟩ <;> simp only [renewal, params, RotationParams.totalValidity,
    RotationParams.fallbackPeriod, RotationParams.validationPeriod] <;> omega

def lastVersion : ℤ := 2 ^ 32 - 1

-- private keys as the key generators of the package return them
def Generated (P : Primitives) (k : PrivateKeys) : Prop :=
  k.ed25519.length = 32 ∧ P.x25519Loads k.x25519 = true

instance (P : Primitives) (k : PrivateKeys) : Decidable (Generated P k) :=
  inferInstanceAs (Decidable (_ ∧ _))

namespace ServerState

section Definitions

variable (P : Primitives) (cfg : ServerConfig) (s : ServerState)

def KeysOf (c : CredentialPublic) : Prop :=
  ∃ k, s.identity.keys.keysFor c.version = some k ∧ Generated P k ∧ k.Match P c

structure Standing (a : CredentialPublic) (next : Option CredentialPublic) : Prop where
  rotating : s.Rotating cfg
  active : s.identity.engine.active = some a
  validating : s.identity.engine.validating = next
  keys : ∀ c, c = a ∨ next = some c → s.KeysOf P c ∧ 1 ≤ c.version ∧ c.version ≤ lastVersion
  newest : next = none → ∀ d ∈ s.identity.engine.creds.rows, d.version ≤ a.version
  ends : a.expirationTime ≠ none
  pending : ∀ v ∈ next,
    v.validationDeadline = some (cfg.params.validationDeadlineFrom v.createdAt) ∧
      v.expirationTime = some (cfg.params.expirationFrom v.createdAt)

end Definitions

def leaseOf (a : CredentialPublic) (next : Option CredentialPublic) : Lease :=
  ⟨a.expirationTime.getD 0, next.map (·.createdAt)⟩

section Steps

variable {P : Primitives} {cfg : ServerConfig} {s : ServerState} {a v : CredentialPublic}
  {k : PrivateKeys} {now : ℤ}

lemma expired_eq_false {c : CredentialPublic} (h : now < c.expirationTime.getD 0) (hc : c.expirationTime ≠ none) :
    expired c now = false := by
  obtain ⟨x, hx⟩ := Option.ne_none_iff_exists'.mp hc
  rw [hx, Option.getD_some] at h
  rw [expired, hx]
  simpa using h

lemma Standing.submittable (hP : Lawful P) (h : s.Standing P cfg a none)
    (hlive : now < a.expirationTime.getD 0) {signer : PrivateKeys}
    (hsigner : s.identity.keys.keysFor a.version = some signer) {payload : Bytes}
    (hpayload : encodeSuccessorPayload cfg.serverUuid a.version (a.version + 1)
      (P.ed25519Public k.ed25519) (P.x25519Public k.x25519) [] = .ok payload) :
    s.identity.engine.Submittable P (credentialOf P cfg.serverUuid (a.version + 1) k)
      (signEd25519 P signer.ed25519 payload) [] now := by
  have hbelongs := h.rotating.belongs a (mem_of_byStatus h.active).1
  obtain ⟨⟨signer', hsigner', hgenerated, hmatch⟩, _⟩ := h.keys a (Or.inl rfl)
  obtain rfl := Option.some.inj (hsigner.symm.trans hsigner')
  refine submittable_of_newest hP h.rotating.window h.active h.validating (h.newest rfl)
    (expired_eq_false hlive h.ends) hgenerated.1 hmatch rfl hbelongs.symm ?_
  rw [hbelongs]
  exact hpayload

lemma payload_writable (hP : Lawful P) (hlength : ∀ k, k.length = 32 → (P.ed25519Public k).length = 32)
    (hk : Generated P k) (u : Uuid) {version : ℤ} (hfrom : 1 ≤ version) (hroom : version < lastVersion) :
    Encoder.Writes (encodeSuccessorPayload u version (version + 1) (P.ed25519Public k.ed25519)
      (P.x25519Public k.x25519) []) 115 := by
  rw [lastVersion] at hroom
  exact encodeSuccessorPayload_writes u ⟨by omega, by omega⟩ ⟨by omega, by omega⟩ (hlength k.ed25519 hk.1)
    (hP.x25519_length k.x25519 hk.2)

lemma payload_version {version : ℤ} {u : Uuid} {ed x payload : Bytes}
    (h : encodeSuccessorPayload u version (version + 1) ed x [] = .ok payload) : version < lastVersion := by
  have hdomain : SuccessorPayload.format.Domain ⟨u, version, version + 1, ed, x, []⟩ := by
    refine ⟨payload, ?_⟩
    rw [SuccessorPayload.write_format]
    exact h
  have hversion : version + 1 < 2 ^ 32 := ((SuccessorPayload.domain _).mp hdomain).2.1.2
  rw [lastVersion]
  omega

lemma Standing.submit (hP : Lawful P) (hlength : ∀ k, k.length = 32 → (P.ed25519Public k).length = 32)
    (h : s.Standing P cfg a none) (hk : Generated P k) (hroom : a.version < lastVersion)
    (hlive : now < a.expirationTime.getD 0) :
    ∃ v, (s.submitSuccessor P cfg a k now).2.Standing P cfg a (some v) ∧ v.createdAt = now := by
  obtain ⟨⟨signer, hsigner, hgenerated, hmatch⟩, hfrom, _⟩ := h.keys a (Or.inl rfl)
  obtain ⟨payload, hpayload, _⟩ := payload_writable hP hlength hk cfg.serverUuid hfrom hroom
  have hsubmit := h.submittable hP hlive hsigner hpayload
  have hkeeps := (submitSuccessor_engine P k now h.rotating a).1
  obtain ⟨hmem, hs⟩ := mem_of_byStatus h.active
  set n := submitted s.identity.engine.params (credentialOf P cfg.serverUuid (a.version + 1) k) now
  have hversion : n.version = a.version + 1 := rfl
  have hstate : (s.submitSuccessor P cfg a k now).2 = (s.withHolder ⟨s.identity.engine.put n,
      s.identity.keys.add (a.version + 1) k⟩).persist := by
    rw [submitSuccessor, Holder.generateSuccessor_ok hsigner hpayload hsubmit]
  rw [hstate] at hkeeps ⊢
  have hget (v : ℤ) : (s.identity.engine.put n).get v =
      if n.version = v then some n else s.identity.engine.get v := get_put v
  have hactive : (s.identity.engine.put n).get a.version = some a := by
    rw [hget, if_neg (by omega), get_of_mem hmem]
  have hwindow : WindowInv (s.identity.engine.put n) := hkeeps.rotating.window
  have hvalidating : (s.identity.engine.put n).validating = some n :=
    hwindow.byStatus_of_get (c := n) (v := n.version) (by rw [hget, if_pos rfl]) rfl
  refine ⟨n, ⟨hkeeps.rotating, ?_, hvalidating, ?_, fun hnone => (by cases hnone), h.ends, ?_⟩, rfl⟩
  · have hstands := hwindow.byStatus_of_get hactive (by rw [hs]; rfl)
    rw [hs] at hstands
    exact hstands
  · rintro c (rfl | hc)
    · refine ⟨⟨signer, ?_, hgenerated, hmatch⟩, (h.keys c (Or.inl rfl)).2⟩
      exact (KeyMap.keysFor_add _ _ _ _).trans ((if_neg (by omega)).trans hsigner)
    · obtain rfl := Option.some.inj hc
      refine ⟨⟨k, ?_, hk, rfl, rfl⟩, by omega, by omega⟩
      exact (KeyMap.keysFor_add _ _ _ _).trans (if_pos rfl)
  · intro v hv
    obtain rfl := Option.some.inj hv
    rw [← h.rotating.params]
    exact ⟨rfl, rfl⟩

lemma submitSuccessor_last (hlast : a.version = lastVersion) :
    (s.submitSuccessor P cfg a k now).2 = s := by
  rw [submitSuccessor]
  rcases Holder.generateSuccessor_cases P cfg.serverUuid s.identity.toHolder a k now with
    ⟨exc, he⟩ | ⟨signer, payload, _, hpayload, _⟩
  · rw [he]
    rfl
  · have hversion := payload_version hpayload
    omega

lemma promote_none (h : s.identity.engine.validating = none) (now : ℤ) : (s.promote now).2 = s := by
  rw [promote, h]

lemma Standing.takesOver (h : s.Standing P cfg a (some v))
    (hdue : v.createdAt + cfg.params.validationPeriod ≤ now) (hlive : now < a.expirationTime.getD 0)
    (hcovered : now < v.createdAt + cfg.params.totalValidity) :
    (s.promote now).2.Standing P cfg (promoted v now) none := by
  obtain ⟨hdeadline, hexpiration⟩ := h.pending v rfl
  obtain ⟨hmem, hs⟩ := mem_of_byStatus h.validating
  have hcheckpointable : s.identity.engine.Checkpointable now := by
    refine ⟨v, a, h.validating, ?_, ?_, h.active, expired_eq_false hlive h.ends⟩
    · rw [hdeadline]
      exact hdue
    · refine expired_eq_false ?_ (by rw [hexpiration]; exact Option.some_ne_none _)
      rw [hexpiration]
      exact hcovered
  have hkeeps := promote_keepsOthers h.rotating now
  rcases promote_cases s now with ⟨hno, _⟩ | ⟨hno, _⟩ | ⟨_, v2, v3, hv2, hv3, he⟩
  · exact (hno hcheckpointable).elim
  · exact (hno hcheckpointable).elim
  · obtain rfl := Option.some.inj (h.active.symm.trans hv2)
    obtain rfl := Option.some.inj (h.validating.symm.trans hv3)
    rw [he] at hkeeps ⊢
    set e := (s.identity.engine.terminateFallback.put (demoted s.identity.engine.params a now)).put
      (promoted v now)
    have hget (w : ℤ) := h.rotating.window.get_promote a v now w
    have hwindow : WindowInv e := hkeeps.rotating.window
    refine ⟨hkeeps.rotating, ?_, h.rotating.window.validating_promote h.validating now, ?_, ?_, ?_, nofun⟩
    · exact hwindow.byStatus_of_get (c := promoted v now) (v := v.version)
        ((hget v.version).trans (if_pos rfl)) rfl
    · rintro c (rfl | hc)
      · exact h.keys v (Or.inr rfl)
      · cases hc
    · intro _ d hd
      have hlast := h.rotating.window.validating_last v hmem hs
      have hd := get_of_mem (e := e) hd
      rw [hget] at hd
      split_ifs at hd with h3 h2
      · exact h3.symm.le
      · rw [← h2]
        exact hlast a (mem_of_byStatus h.active).1
      · obtain ⟨b, hb, rfl⟩ := Option.map_eq_some_iff.mp hd
        obtain ⟨hbmem, hbv⟩ := get_eq_some.mp hb
        rw [← hbv]
        exact hlast b hbmem
    · change v.expirationTime ≠ none
      rw [hexpiration]
      exact Option.some_ne_none _

variable {next : Option CredentialPublic} {D last : ℤ}

lemma Standing.promote (h : s.Standing P cfg a next) (hlive : now < a.expirationTime.getD 0)
    (hcovered : ∀ t ∈ (leaseOf a next).ordered, now < t + cfg.renewal.life) :
    ∃ a' next', (s.promote now).2.Standing P cfg a' next' ∧
      leaseOf a' next' = cfg.renewal.takeOver now (leaseOf a next) := by
  cases next with
  | none =>
    rw [promote_none h.validating]
    exact ⟨a, none, h, rfl⟩
  | some v =>
    obtain ⟨hdeadline, hexpiration⟩ := h.pending v rfl
    by_cases hwait : now < v.createdAt + cfg.params.validationPeriod
    · have hsame : (s.promote now).2 = s := by
        rw [ServerState.promote, h.validating]
        dsimp only
        rw [if_pos]
        rw [hdeadline]
        exact hwait
      rw [hsame]
      exact ⟨a, some v, h, (if_pos hwait).symm⟩
    · refine ⟨promoted v now, none, h.takesOver (by omega) hlive (hcovered v.createdAt rfl), ?_⟩
      have hends : (promoted v now).expirationTime.getD 0 = v.createdAt + cfg.params.totalValidity := by
        change v.expirationTime.getD 0 = _
        rw [hexpiration]
        rfl
      rw [leaseOf, hends]
      exact (if_neg hwait).symm

lemma Standing.due (hP : Lawful P) (hlength : ∀ k, k.length = 32 → (P.ed25519Public k).length = 32)
    (h : s.Standing P cfg a next) (hk : Generated P k) (hroom : next = none → a.version < lastVersion)
    (hpos : a.expirationTime.getD 0 ≠ 0) (hlive : now < a.expirationTime.getD 0) :
    ∃ next', (s.due P cfg k now).Standing P cfg a next' ∧
      leaseOf a next' = cfg.renewal.order now (leaseOf a next) := by
  obtain ⟨x, hx⟩ := Option.ne_none_iff_exists'.mp h.ends
  have hends : intOr a.expirationTime now = a.expirationTime.getD 0 := by
    rw [hx, Option.getD_some] at hpos ⊢
    exact if_neg hpos
  rw [ServerState.due, h.active]
  dsimp only
  rw [hends, h.validating, Renewal.order]
  cases next with
  | some v =>
    rw [if_neg (not_and_of_not_left _ (Option.some_ne_none v))]
    refine ⟨some v, h, (if_neg ?_).symm⟩
    rintro ⟨hordered, _⟩
    cases hordered
  | none =>
    by_cases hdue : a.expirationTime.getD 0 - 2 * cfg.params.fallbackPeriod ≤ now
    · rw [if_pos ⟨rfl, hdue⟩, if_pos ⟨rfl, hdue⟩]
      obtain ⟨v, hv, hnow⟩ := h.submit hP hlength hk (hroom rfl) hlive
      refine ⟨some v, hv, ?_⟩
      rw [leaseOf, Option.map_some, hnow]
      rfl
    · rw [if_neg fun hd => hdue hd.2, if_neg fun hd => hdue hd.2]
      exact ⟨none, h, rfl⟩

lemma Standing.rotate (hP : Lawful P) (hlength : ∀ k, k.length = 32 → (P.ed25519Public k).length = 32)
    (h : s.Standing P cfg a next) (hk : Generated P k) (hroom : next = none → a.version < lastVersion)
    (hr : cfg.renewal.Suits D) (hon : cfg.renewal.OnTime D last (leaseOf a next)) (hpos : 0 < last)
    (hnow : now ≤ last + D) :
    ∃ a' next', (s.rotate P cfg k now).2.Standing P cfg a' next' ∧
      leaseOf a' next' = cfg.renewal.tick now (leaseOf a next) := by
  have hlive : now < a.expirationTime.getD 0 := hon.runs hr hnow
  have hlast : last < a.expirationTime.getD 0 := hon.runs hr (by have := hr.nonneg; omega)
  obtain ⟨next', hdue, horder⟩ := h.due hP hlength hk hroom (by omega) hlive
  rw [rotate_due h.active, Renewal.tick, ← horder]
  refine hdue.promote hlive ?_
  intro t ht
  rw [horder] at ht
  exact hon.covered hr hnow ht

def Kept (P : Primitives) (cfg : ServerConfig) (D last : ℤ) (s : ServerState) : Prop :=
  0 < last ∧ ∃ a next, s.Standing P cfg a next ∧
    (cfg.renewal.OnTime D last (leaseOf a next) ∨ next = none ∧ a.version = lastVersion)

lemma Kept.rotate (hP : Lawful P) (hlength : ∀ k, k.length = 32 → (P.ed25519Public k).length = 32)
    (h : s.Kept P cfg D last) (hk : Generated P k) (hr : cfg.renewal.Suits D) (hle : last ≤ now)
    (hnow : now ≤ last + D) : (s.rotate P cfg k now).2.Kept P cfg D now := by
  obtain ⟨hpos, a, next, hstanding, hon⟩ := h
  refine ⟨by omega, ?_⟩
  by_cases hstuck : next = none ∧ a.version = lastVersion
  · obtain ⟨rfl, hlast⟩ := hstuck
    have hdue : s.due P cfg k now = s := by
      rw [due, hstanding.active]
      dsimp only
      split_ifs
      · exact submitSuccessor_last hlast
      · rfl
    rw [rotate_due hstanding.active, hdue, promote_none hstanding.validating]
    exact ⟨a, none, hstanding, Or.inr ⟨rfl, hlast⟩⟩
  · have hon := hon.resolve_right hstuck
    have hroom : next = none → a.version < lastVersion := by
      intro hnone
      have hversion := (hstanding.keys a (Or.inl rfl)).2.2
      have hne : a.version ≠ lastVersion := fun he => hstuck ⟨hnone, he⟩
      omega
    obtain ⟨a', next', hstanding', htick⟩ := hstanding.rotate hP hlength hk hroom hr hon hpos hnow
    refine ⟨a', next', hstanding', Or.inl ?_⟩
    rw [htick]
    exact hon.tick hr hnow

lemma Kept.step (hP : Lawful P) (hlength : ∀ k, k.length = 32 → (P.ed25519Public k).length = 32)
    (hr : cfg.renewal.Suits D) (h : s.Kept P cfg D last) {op : IdentityOp}
    (hdrawn : ∀ j ∈ op.drawn, Generated P j) (hnow : ∀ u ∈ op.time, last ≤ u ∧ u ≤ last + D) :
    (identityStep P cfg s op).Kept P cfg D (op.time.getD last) := by
  cases op with
  | commit db =>
    obtain ⟨hpos, a, next, hstanding, hon⟩ := h
    refine ⟨hpos, a, next, ⟨⟨hstanding.rotating.loaded, hstanding.rotating.params,
      hstanding.rotating.window, hstanding.rotating.belongs⟩, hstanding.active, hstanding.validating,
      hstanding.keys, hstanding.newest, hstanding.ends, hstanding.pending⟩, hon⟩
  | maybeRotate fresh successor now =>
    obtain ⟨hle, hnow⟩ := hnow now rfl
    have hloaded : s.identity.loaded = true := by
      obtain ⟨_, a, next, hstanding, _⟩ := h
      exact hstanding.rotating.loaded
    rw [identityStep, maybeRotate_loaded hloaded]
    exact h.rotate hP hlength (hdrawn successor (by simp [IdentityOp.drawn])) hr hle hnow

variable (cfg D) in
lemma kept_provisioned (db : Database) (keyFile : Option KeyMap) (t₀ : ℤ) (hk : Generated P k)
    (hT : 1 ≤ cfg.rotationDuration) (ht₀ : 0 < t₀) (hD : 0 ≤ D)
    (hdb : db.loadEngine cfg.params cfg.serverUuid = none) :
    ((start cfg db keyFile).ensureLoaded P cfg k t₀).2.Kept P cfg D t₀ := by
  have hrotating := rotating_first (P := P) db keyFile k t₀ hdb
  rw [ensureLoaded_first P cfg db keyFile k t₀ hdb] at hrotating ⊢
  set a := RotationEngine.provisioned cfg.params (credentialOf P cfg.serverUuid 1 k) t₀ with ha
  have hrows (d : CredentialPublic) (hd : d ∈ ((RotationEngine.new cfg.params).put a).creds.rows) : d = a :=
    List.mem_singleton.mp hd
  refine ⟨ht₀, a, none, ⟨hrotating, ?_, ?_, ?_, ?_, ?_, nofun⟩, Or.inl ?_⟩
  · exact hrotating.window.byStatus_of_get (c := a) (v := 1) ((get_put 1).trans (if_pos rfl)) rfl
  · apply RotationEngine.byStatus_eq_none.mpr
    intro d hd
    rw [hrows d hd, ha]
    exact nofun
  · rintro c (rfl | hc)
    · have hlast : (1 : ℤ) ≤ lastVersion := by rw [lastVersion]; omega
      refine ⟨⟨k, ?_, hk, rfl, rfl⟩, le_refl 1, hlast⟩
      exact (KeyMap.keysFor_add _ _ _ _).trans (if_pos rfl)
    · cases hc
  · intro _ d hd
    rw [hrows d hd]
  · rw [ha]
    exact nofun
  · change t₀ < cfg.params.expirationFrom t₀ - 2 * cfg.params.fallbackPeriod + D
    simp only [RotationParams.expirationFrom, RotationParams.totalValidity, RotationParams.fallbackPeriod,
      ServerConfig.params]
    omega

end Steps

def HasIdentity (P : Primitives) (s : ServerState) (c : CredentialPublic) : Prop :=
  (∀ d, d ∈ s.identity.engine.creds.rows ∧ d.status = .active ↔ d = c) ∧
    ∃ k, s.activeKeys = .ok k ∧ k.Match P c

def lastCall (t₀ : ℤ) (ops : List IdentityOp) : ℤ := (ops.filterMap IdentityOp.time).getLastD t₀

section Runs

variable {P : Primitives} {cfg : ServerConfig} {s : ServerState} {a : CredentialPublic}
  {next : Option CredentialPublic} {D last : ℤ}

lemma Standing.hasIdentity (h : s.Standing P cfg a next) : s.HasIdentity P a := by
  obtain ⟨hmem, hs⟩ := mem_of_byStatus h.active
  obtain ⟨⟨k, hkeys, _, hmatch⟩, _⟩ := h.keys a (Or.inl rfl)
  refine ⟨?_, k, activeKeys_eq_ok.mpr ⟨a, h.active, hkeys⟩, hmatch⟩
  intro d
  constructor
  · rintro ⟨hd, hds⟩
    exact h.rotating.window.unique d hd a hmem (by rw [hds]; rfl) (hds.trans hs.symm)
  · rintro rfl
    exact ⟨hmem, hs⟩

lemma kept_run (hP : Lawful P) (hlength : ∀ k, k.length = 32 → (P.ed25519Public k).length = 32)
    (hr : cfg.renewal.Suits D) (h : s.Kept P cfg D last) (ops : List IdentityOp)
    (hdrawn : ∀ j ∈ ops.flatMap IdentityOp.drawn, Generated P j)
    (hpaced : Paced D last (ops.filterMap IdentityOp.time)) :
    (run (identityStep P cfg) s ops).Kept P cfg D (lastCall last ops) := by
  refine hpaced.invariant (I := Kept P cfg D) ?_ h
  intro t s op hop hkept hnow
  exact hkept.step hP hlength hr (fun j hj => hdrawn j (List.mem_flatMap.mpr ⟨op, hop, hj⟩)) hnow

end Runs

theorem identity_persists (P : Primitives) (hP : Lawful P)
    (hlength : ∀ k, k.length = 32 → (P.ed25519Public k).length = 32) (cfg : ServerConfig)
    (db : Database) (keyFile : Option KeyMap) (k : PrivateKeys) (t₀ D : ℤ) (ops : List IdentityOp)
    (hT : 1 ≤ cfg.rotationDuration) (hD : 0 ≤ D) (hslack : 3 * D ≤ cfg.rotationDuration / 2)
    (ht₀ : 0 < t₀) (hdb : db.loadEngine cfg.params cfg.serverUuid = none)
    (hdrawn : ∀ j ∈ k :: ops.flatMap IdentityOp.drawn, Generated P j)
    (hpaced : Paced D t₀ (ops.filterMap IdentityOp.time)) :
    ∀ pre, pre <+: ops → ∀ now, lastCall t₀ pre ≤ now → now ≤ lastCall t₀ pre + D →
      ∃ c, (rotated P cfg db keyFile k t₀ pre).HasIdentity P c ∧
        (c.version ≠ lastVersion → expired c now = false) := by
  rintro pre ⟨post, rfl⟩ now _ hnow
  have hr := ServerConfig.renewal_suits hD hslack
  rw [List.filterMap_append] at hpaced
  have hstart := kept_provisioned cfg D db keyFile t₀ (hdrawn k List.mem_cons_self) hT ht₀ hD hdb
  obtain ⟨_, a, next, hstanding, hon⟩ := kept_run hP hlength hr hstart pre
    (fun j hj => hdrawn j (by rw [List.flatMap_append]; exact List.mem_cons_of_mem k (List.mem_append_left _ hj)))
    hpaced.left
  refine ⟨a, hstanding.hasIdentity, ?_⟩
  intro hversion
  have hon := hon.resolve_right fun h => hversion h.2
  exact expired_eq_false (hon.runs hr hnow) hstanding.ends

section Bounded

def Bounded (t₀ : ℤ) (e : RotationEngine) : Prop :=
  ∀ c ∈ e.creds.rows, c.status = .active ∨ c.status = .validating →
    c.version ≤ lastVersion ∧
      ∃ x, c.expirationTime = some x ∧ x ≤ t₀ + c.version * e.params.totalValidity

variable {P : Primitives} {cfg : ServerConfig} {s : ServerState} {k : PrivateKeys} {t₀ now : ℤ}

lemma Bounded.submitSuccessor (h : Bounded t₀ s.identity.engine) {active : CredentialPublic}
    (hactive : s.identity.engine.active = some active) :
    Bounded t₀ (s.submitSuccessor P cfg active k now).2.identity.engine := by
  rw [ServerState.submitSuccessor]
  rcases Holder.generateSuccessor_cases P cfg.serverUuid s.identity.toHolder active k now with
    ⟨exc, he⟩ | ⟨signer, payload, _, hpayload, hs, he⟩
  · rw [he]
    exact h
  · rw [he]
    intro c hc hstatus
    rcases RotationEngine.mem_put.mp hc with rfl | ⟨hc, _⟩
    · have hversion := payload_version hpayload
      obtain ⟨signer', _, hsigner', hlive, _⟩ := hs
      obtain rfl := Option.some.inj (hactive.symm.trans hsigner')
      obtain ⟨hmem, hsactive⟩ := mem_of_byStatus hactive
      obtain ⟨_, x, hx, hbound⟩ := h active hmem (Or.inl hsactive)
      rw [expired, hx] at hlive
      have hnow : now < x := by simpa using hlive
      refine ⟨hversion, _, rfl, ?_⟩
      change now + s.identity.engine.params.totalValidity ≤
        t₀ + (active.version + 1) * s.identity.engine.params.totalValidity
      rw [add_mul, one_mul]
      omega
    · exact h c hc hstatus

lemma Bounded.promote (hw : WindowInv s.identity.engine) (h : Bounded t₀ s.identity.engine) (now : ℤ) :
    Bounded t₀ (s.promote now).2.identity.engine := by
  rcases promote_cases s now with ⟨_, he⟩ | ⟨_, v3, hv3, he⟩ | ⟨_, v2, v3, hv2, hv3, he⟩
  · rw [he]
    exact h
  · rw [he]
    intro c hc hstatus
    rcases RotationEngine.mem_put.mp hc with rfl | ⟨hc, _⟩
    · exact hstatus.elim nofun nofun
    · exact h c hc hstatus
  · rw [he]
    obtain ⟨hmem, hs⟩ := mem_of_byStatus hv3
    have hparams := (s.identity.engine.evolves_promote now hv2 hv3).params
    intro c hc hstatus
    rcases RotationEngine.mem_put.mp hc with rfl | ⟨hc, _⟩
    · have hbound := h v3 hmem (Or.inr hs)
      rw [← hparams] at hbound
      exact hbound
    · rcases RotationEngine.mem_put.mp hc with rfl | ⟨hc, _⟩
      · exact hstatus.elim nofun nofun
      · rcases hw.mem_terminateFallback.mp hc with ⟨hc, _⟩ | ⟨v1, _, _, rfl⟩
        · have hbound := h c hc hstatus
          rw [← hparams] at hbound
          exact hbound
        · exact hstatus.elim nofun nofun

lemma Bounded.rotate (hs : s.Rotating cfg) (h : Bounded t₀ s.identity.engine) :
    Bounded t₀ (s.rotate P cfg k now).2.identity.engine := by
  cases hactive : s.identity.engine.active with
  | none =>
    rw [ServerState.rotate, hactive]
    exact h
  | some active =>
    rw [rotate_due hactive]
    have hdue : Bounded t₀ (s.due P cfg k now).identity.engine := by
      rw [ServerState.due, hactive]
      dsimp only
      split_ifs
      · exact h.submitSuccessor hactive
      · exact h
    exact hdue.promote (due_engine (P := P) hs k now).1.rotating.window now

lemma bounded_run (hs : s.Rotating cfg) (h : Bounded t₀ s.identity.engine) (ops : List IdentityOp) :
    (run (identityStep P cfg) s ops).Rotating cfg ∧
      Bounded t₀ (run (identityStep P cfg) s ops).identity.engine := by
  refine run_invariant (I := fun s : ServerState => s.Rotating cfg ∧ Bounded t₀ s.identity.engine) ?_ ⟨hs, h⟩ ops
  rintro s op ⟨hs, h⟩
  cases op with
  | commit db => exact ⟨⟨hs.loaded, hs.params, hs.window, hs.belongs⟩, h⟩
  | maybeRotate fresh successor now =>
    rw [identityStep, maybeRotate_loaded hs.loaded]
    exact ⟨(rotate_keepsOthers hs successor now).rotating, h.rotate hs⟩

variable (k t₀) in
lemma bounded_provisioned (db : Database) (keyFile : Option KeyMap)
    (hdb : db.loadEngine cfg.params cfg.serverUuid = none) :
    Bounded t₀ ((start cfg db keyFile).ensureLoaded P cfg k t₀).2.identity.engine := by
  rw [ensureLoaded_first P cfg db keyFile k t₀ hdb]
  intro c hc _
  rcases RotationEngine.mem_put.mp hc with rfl | ⟨hc, _⟩
  · have hlast : (1 : ℤ) ≤ lastVersion := by rw [lastVersion]; omega
    refine ⟨hlast, _, rfl, ?_⟩
    change t₀ + cfg.params.totalValidity ≤ t₀ + 1 * cfg.params.totalValidity
    omega
  · cases hc

end Bounded

structure Able (P : Primitives) (s : ServerState) : Prop where
  active : s.identity.engine.active ≠ none
  keys : ∀ c ∈ s.identity.engine.creds.rows, s.KeysOf P c ∧ 1 ≤ c.version ∧ c.version ≤ lastVersion

section Able

variable {P : Primitives} {cfg : ServerConfig} {s : ServerState} {k : PrivateKeys} {now : ℤ}

lemma Able.of_identity {s' : ServerState} (h : s.Able P) (hs : s'.identity = s.identity) : s'.Able P := by
  obtain ⟨identity, db, keyFile⟩ := s
  obtain ⟨_, db', keyFile'⟩ := s'
  obtain rfl := hs
  exact ⟨h.active, h.keys⟩

lemma able_first (db : Database) (keyFile : Option KeyMap) (now : ℤ) (hk : Generated P k)
    (hdb : db.loadEngine cfg.params cfg.serverUuid = none) :
    ((start cfg db keyFile).ensureLoaded P cfg k now).2.Able P := by
  rw [ensureLoaded_first P cfg db keyFile k now hdb]
  refine ⟨RotationEngine.active_put rfl, fun c hc => ?_⟩
  rw [List.mem_singleton.mp hc]
  have hlast : (1 : ℤ) ≤ lastVersion := by rw [lastVersion]; omega
  exact ⟨⟨k, (KeyMap.keysFor_add _ _ _ _).trans (if_pos rfl), hk, rfl, rfl⟩, le_rfl, hlast⟩

lemma Able.submitSuccessor (h : s.Able P) (hk : Generated P k) {active : CredentialPublic}
    (hactive : active ∈ s.identity.engine.creds.rows) : (s.submitSuccessor P cfg active k now).2.Able P := by
  rw [ServerState.submitSuccessor]
  rcases Holder.generateSuccessor_cases P cfg.serverUuid s.identity.toHolder active k now with
    ⟨exc, he⟩ | ⟨signer, payload, _, hpayload, hs, he⟩
  · rw [he]
    exact h
  · rw [he]
    constructor
    · obtain ⟨a, ha⟩ := Option.ne_none_iff_exists'.mp h.active
      exact RotationEngine.active_put_ne ha (hs.newest a (mem_of_byStatus ha).1).ne
    · intro c hc
      rcases RotationEngine.mem_put.mp hc with rfl | ⟨hc, hne⟩
      · obtain ⟨_, hfrom, _⟩ := h.keys active hactive
        have hversion := payload_version hpayload
        refine ⟨⟨k, (KeyMap.keysFor_add _ _ _ _).trans (if_pos rfl), hk, rfl, rfl⟩, ?_, hversion⟩
        change 1 ≤ active.version + 1
        omega
      · obtain ⟨⟨j, hj, hgenerated, hmatch⟩, hrange⟩ := h.keys c hc
        exact ⟨⟨j, (KeyMap.keysFor_add _ _ _ _).trans ((if_neg (Ne.symm hne)).trans hj), hgenerated, hmatch⟩,
          hrange⟩

lemma Able.promote (h : s.Able P) (now : ℤ) : (s.promote now).2.Able P := by
  refine ⟨promote_active s now h.active, fun d hd => ?_⟩
  obtain ⟨c, hc, hcd⟩ := promote_rows s now hd
  obtain ⟨⟨j, hj, hgenerated, hmatch⟩, hrange⟩ := h.keys c hc
  rw [KeysOf, promote_keys, hcd.version]
  exact ⟨⟨j, hj, hgenerated, hcd.ed25519.trans hmatch.1, hcd.x25519.trans hmatch.2⟩, hrange⟩

lemma Able.rotate (h : s.Able P) (hk : Generated P k) (now : ℤ) : (s.rotate P cfg k now).2.Able P := by
  obtain ⟨active, hactive⟩ := Option.ne_none_iff_exists'.mp h.active
  rw [rotate_due hactive]
  refine Able.promote ?_ now
  rw [due, hactive]
  dsimp only
  split_ifs
  · exact h.submitSuccessor hk (mem_of_byStatus hactive).1
  · exact h

end Able

section Demo

def secondly (t₀ : ℤ) (n : ℕ) : List IdentityOp :=
  (List.range n).map fun i : ℕ => .maybeRotate (demoKeys 0) (demoKeys 2) (t₀ + 1 + (i : ℤ))

def quickServer : ServerConfig := { serverUuid := Uuid.nil, rotationDuration := 6 }

lemma secondly_times (t₀ : ℤ) (n : ℕ) : (secondly t₀ n).filterMap IdentityOp.time =
    (List.range n).map fun i : ℕ => t₀ + 1 + (i : ℤ) := by
  rw [secondly, List.filterMap_map, ← List.filterMap_eq_map]
  rfl

lemma secondly_last (t₀ : ℤ) (n : ℕ) : lastCall t₀ (secondly t₀ n) = t₀ + n := by
  rw [lastCall, secondly_times, getLastD_range]

lemma secondly_paced (t₀ : ℤ) (n : ℕ) : Paced 1 t₀ ((secondly t₀ n).filterMap IdentityOp.time) := by
  rw [secondly_times]
  exact paced_range n

lemma generated_demo (n : UInt8) : Generated tagged (demoKeys n) := by
  simp [Generated, tagged, demoKeys, demoKey]

lemma secondly_drawn (t₀ : ℤ) (n : ℕ) (k : UInt8) :
    ∀ j ∈ demoKeys k :: (secondly t₀ n).flatMap IdentityOp.drawn, Generated tagged j := by
  intro j hj
  simp only [secondly, List.flatMap_map, IdentityOp.drawn, List.mem_cons, List.mem_flatMap,
    List.not_mem_nil, or_false] at hj
  rcases hj with rfl | ⟨_, _, rfl⟩
  · exact generated_demo k
  · exact generated_demo 2

theorem identity_of_seconds :
    ∃ c, (rotated tagged quickServer Database.empty none (demoKeys 1) 1
        (secondly 1 20)).HasIdentity tagged c ∧ (c.version ≠ lastVersion → expired c 21 = false) :=
  identity_persists tagged lawful_tagged (fun _ h => h) quickServer Database.empty none (demoKeys 1) 1 1
    (secondly 1 20) (by decide) (by decide) (by decide) (by decide) rfl (secondly_drawn 1 20 1)
    (secondly_paced 1 20) _ (List.prefix_refl _) 21 (secondly_last 1 20).le
    (by rw [secondly_last]; decide)

-- ticks over the lifetimes of as many credentials as there are versions
theorem versions_run_out :
    ¬ ∀ (P : Primitives) (cfg : ServerConfig) (db : Database) (keyFile : Option KeyMap)
      (k : PrivateKeys) (t₀ D : ℤ) (ops : List IdentityOp), Lawful P →
      (∀ k, k.length = 32 → (P.ed25519Public k).length = 32) → 1 ≤ cfg.rotationDuration → 0 ≤ D →
      3 * D ≤ cfg.rotationDuration / 2 → 0 < t₀ → db.loadEngine cfg.params cfg.serverUuid = none →
      (∀ j ∈ k :: ops.flatMap IdentityOp.drawn, Generated P j) →
      Paced D t₀ (ops.filterMap IdentityOp.time) →
      ∀ pre, pre <+: ops → ∀ now, lastCall t₀ pre ≤ now → now ≤ lastCall t₀ pre + D →
        ∃ c, (rotated P cfg db keyFile k t₀ pre).HasIdentity P c ∧ expired c now = false := by
  intro h
  obtain ⟨n, hn⟩ : ∃ n : ℕ, n = 2 ^ 32 * 9 := ⟨_, rfl⟩
  obtain ⟨c, hidentity, hlive⟩ := h tagged quickServer Database.empty none (demoKeys 1) 1 1 (secondly 1 n)
    lawful_tagged (fun _ h => h) (by decide) (by decide) (by decide) (by decide) rfl
    (secondly_drawn 1 n 1) (secondly_paced 1 n) _ (List.prefix_refl _) (1 + n)
    (secondly_last 1 n).le (by rw [secondly_last]; omega)
  obtain ⟨_, a, next, hstanding, _⟩ := kept_provisioned quickServer 1 Database.empty none 1
    (generated_demo 1) (by decide) (by decide) (by decide) rfl
  obtain ⟨hrotating, hbounded⟩ := bounded_run hstanding.rotating
    (bounded_provisioned (P := tagged) (demoKeys 1) 1 Database.empty none rfl) (secondly 1 n)
  obtain ⟨hmem, hactive⟩ := (hidentity.1 c).mpr rfl
  obtain ⟨hversion, x, hx, hbound⟩ := hbounded c hmem (Or.inl hactive)
  have hlife : quickServer.params.totalValidity = 9 := rfl
  rw [hrotating.params, hlife] at hbound
  rw [expired, hx] at hlive
  have hnow : (1 : ℤ) + n < x := by simpa using hlive
  rw [lastVersion] at hversion
  omega

end Demo

end ServerState

end Secupload.Server
