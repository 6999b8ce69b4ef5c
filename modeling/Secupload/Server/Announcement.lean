import Secupload.Server.OwnRotation
import Secupload.Shared.StatusTable

namespace Secupload.Server

open Library Shared
open Shared.RotationEngine (WindowInv submitted mem_of_byStatus get_put get_eq_some get_of_mem
  byStatus_eq_none)

namespace ServerState

section Definitions

variable (P : Primitives) (cfg : ServerConfig) (s : ServerState)

-- on a loaded identity
def announcement : Except Exn (Option ServerKeyInfo) :=
  match s.identity.engine.validating with
  | none => .ok none
  | some validating =>
    match s.identity.engine.active with
    | none => .ok none
    | some prev => do
      let payload ← encodeSuccessorPayload cfg.serverUuid prev.version validating.version
        validating.ed25519Public validating.x25519Public []
      match s.identity.keys.keysFor prev.version with
      | none => throw .keyError
      | some k =>
        return some
          { version := validating.version, ed25519Public := validating.ed25519Public
            x25519Public := validating.x25519Public, prevVersion := prev.version
            successorSignature := signEd25519 P k.ed25519 payload }

def successorAnnouncement (k : PrivateKeys) (now : ℤ) : Outcome ServerState (Option ServerKeyInfo) :=
  (s.ensureLoaded P cfg k now).bind fun _ s => (s.announcement P cfg, s)

structure Linked (a v : CredentialPublic) : Prop where
  next : v.version = a.version + 1
  signed : ∃ k payload, s.identity.keys.keysFor a.version = some k ∧
    encodeSuccessorPayload cfg.serverUuid a.version v.version v.ed25519Public v.x25519Public [] = .ok payload ∧
    verifyEd25519 P a.ed25519Public payload (signEd25519 P k.ed25519 payload) = .ok ()

structure Announcing : Prop where
  rotating : s.Rotating cfg
  linked : ∀ v, s.identity.engine.validating = some v →
    ∃ a, s.identity.engine.active = some a ∧ s.Linked P cfg a v

end Definitions

section Steps

variable {P : Primitives} {cfg : ServerConfig} {s : ServerState} {k : PrivateKeys} {now : ℤ}

lemma announcing_first (db : Database) (keyFile : Option KeyMap) (k : PrivateKeys) (now : ℤ)
    (hdb : db.loadEngine cfg.params cfg.serverUuid = none) :
    ((start cfg db keyFile).ensureLoaded P cfg k now).2.Announcing P cfg := by
  refine ⟨rotating_first db keyFile k now hdb, fun v hv => ?_⟩
  rw [ensureLoaded_first P cfg db keyFile k now hdb] at hv
  obtain ⟨hmem, hs⟩ := mem_of_byStatus hv
  rw [List.mem_singleton.mp hmem] at hs
  cases hs

lemma Announcing.due (h : s.Announcing P cfg) (k : PrivateKeys) (now : ℤ) :
    (s.due P cfg k now).Announcing P cfg := by
  have hkeeps := (due_engine (P := P) h.rotating k now).1.rotating
  cases hactive : s.identity.engine.active with
  | none =>
    have hsame : s.due P cfg k now = s := by rw [ServerState.due, hactive]
    rw [hsame]
    exact h
  | some a =>
    have hdue : s.due P cfg k now = if s.identity.engine.validating = none ∧
        intOr a.expirationTime now - 2 * cfg.params.fallbackPeriod ≤ now then
          (s.submitSuccessor P cfg a k now).2 else s := by
      rw [ServerState.due, hactive]
    split_ifs at hdue
    · rw [submitSuccessor] at hdue
      rcases Holder.generateSuccessor_cases P cfg.serverUuid s.identity.toHolder a k now with
        ⟨exc, he⟩ | ⟨signer, payload, hsigner, hpayload, hs, he⟩
      · rw [he] at hdue
        rw [hdue]
        exact h
      · rw [he] at hdue
        rw [hdue] at hkeeps ⊢
        set n := submitted s.identity.engine.params (credentialOf P cfg.serverUuid (a.version + 1) k) now
        have hversion : n.version = a.version + 1 := rfl
        obtain ⟨hmem, hstatus⟩ := mem_of_byStatus hactive
        have hwindow : WindowInv (s.identity.engine.put n) := hkeeps.window
        have hget : (s.identity.engine.put n).get a.version = some a := by
          rw [get_put, if_neg (by omega), get_of_mem hmem]
        have hstands := hwindow.byStatus_of_get hget (by rw [hstatus]; rfl)
        rw [hstatus] at hstands
        have hvalidating : (s.identity.engine.put n).validating = some n :=
          hwindow.byStatus_of_get (c := n) (v := n.version) (by rw [get_put, if_pos rfl]) rfl
        refine ⟨hkeeps, fun v hv => ⟨a, hstands, ?_⟩⟩
        obtain rfl := Option.some.inj (hvalidating.symm.trans hv)
        obtain ⟨signer', payload', hsigner', _, _, _, _, _, hpayload', hverify⟩ := hs
        obtain rfl := Option.some.inj (hactive.symm.trans hsigner')
        rw [h.rotating.belongs a hmem] at hpayload'
        obtain rfl := Except.ok.inj (hpayload.symm.trans hpayload')
        refine ⟨hversion, signer, payload, ?_, hpayload, hverify⟩
        exact (KeyMap.keysFor_add _ _ _ _).trans ((if_neg (by omega)).trans hsigner)
    · rw [hdue]
      exact h

lemma Announcing.promote (h : s.Announcing P cfg) (now : ℤ) : (s.promote now).2.Announcing P cfg := by
  refine ⟨(promote_keepsOthers h.rotating now).rotating, fun v hv => ?_⟩
  rcases promote_cases s now with ⟨_, he⟩ | ⟨_, v3, hv3, he⟩ | ⟨_, v2, v3, _, hv3, he⟩
  · rw [he] at hv ⊢
    exact h.linked v hv
  · rw [he] at hv
    obtain ⟨hmem3, hs3⟩ := mem_of_byStatus hv3
    obtain ⟨hmem, hs⟩ := mem_of_byStatus hv
    rcases RotationEngine.mem_put.mp hmem with rfl | ⟨hold, hne⟩
    · cases hs
    · have hsame := h.rotating.window.unique v hold v3 hmem3 (by rw [hs]; rfl) (hs.trans hs3.symm)
      exact (hne (congrArg CredentialPublic.version hsame :)).elim
  · rw [he] at hv
    cases hv.symm.trans (h.rotating.window.validating_promote hv3 now)

lemma Announcing.step (h : s.Announcing P cfg) (op : IdentityOp) :
    (identityStep P cfg s op).Announcing P cfg := by
  cases op with
  | commit db =>
    refine ⟨h.rotating.of_identity rfl, fun v hv => ?_⟩
    obtain ⟨a, ha, hlinked⟩ := h.linked v hv
    exact ⟨a, ha, hlinked.next, hlinked.signed⟩
  | maybeRotate fresh successor now =>
    rw [identityStep, maybeRotate_loaded h.rotating.loaded]
    cases hactive : s.identity.engine.active with
    | none =>
      rw [rotate, hactive]
      exact h
    | some active =>
      rw [rotate_due hactive]
      exact (h.due successor now).promote now

lemma Announcing.announcement (h : s.Announcing P cfg) :
    s.identity.engine.validating = none ∧ s.announcement P cfg = .ok none ∨
    ∃ a v info, s.identity.engine.active = some a ∧ s.identity.engine.validating = some v ∧
      s.announcement P cfg = .ok (some info) ∧ v.version = a.version + 1 ∧
      (info.version = v.version ∧ info.ed25519Public = v.ed25519Public ∧ info.x25519Public = v.x25519Public ∧
        info.prevVersion = a.version) ∧
      ∃ payload, encodeSuccessorPayload cfg.serverUuid a.version v.version v.ed25519Public v.x25519Public [] =
          .ok payload ∧ verifyEd25519 P a.ed25519Public payload info.successorSignature = .ok () := by
  cases hv : s.identity.engine.validating with
  | none => exact Or.inl ⟨rfl, by rw [ServerState.announcement, hv]⟩
  | some v =>
    obtain ⟨a, ha, hnext, k, payload, hkeys, hpayload, hverify⟩ := h.linked v hv
    refine Or.inr ⟨a, v, ⟨v.version, v.ed25519Public, v.x25519Public, a.version, signEd25519 P k.ed25519 payload⟩,
      ha, rfl, ?_, hnext, ⟨rfl, rfl, rfl, rfl⟩, payload, hpayload, hverify⟩
    simp only [ServerState.announcement, hv, ha, hpayload, except_ok_bind, hkeys]
    rfl

end Steps

section Runs

variable {P : Primitives} {cfg : ServerConfig} {s : ServerState}

lemma successorAnnouncement_loaded (h : s.identity.loaded = true) (k : PrivateKeys) (now : ℤ) :
    s.successorAnnouncement P cfg k now = (s.announcement P cfg, s) := by
  rw [successorAnnouncement, ensureLoaded_loaded h]
  rfl

lemma later_run (h : s.Announcing P cfg) (ops : List IdentityOp) :
    (run (identityStep P cfg) s ops).Announcing P cfg ∧
      s.identity.engine.Evolves (run (identityStep P cfg) s ops).identity.engine ∧
      ∀ a, s.identity.engine.active = some a →
        ∃ c, (run (identityStep P cfg) s ops).identity.engine.active = some c ∧ a.version ≤ c.version := by
  induction ops generalizing s with
  | nil => exact ⟨h, .refl _, fun a ha => ⟨a, ha, le_rfl⟩⟩
  | cons op ops ih =>
    obtain ⟨hlast, hevolves, hactive⟩ := ih (h.step op)
    refine ⟨hlast, ?_, fun a ha => ?_⟩
    · refine RotationEngine.Evolves.trans ?_ hevolves
      cases op with
      | commit db => exact .refl _
      | maybeRotate fresh successor now =>
        rw [identityStep, maybeRotate_loaded h.rotating.loaded]
        exact rotate_evolves h.rotating successor now
    · cases op with
      | commit db => exact hactive a ha
      | maybeRotate fresh successor now =>
        obtain ⟨a', ha', hsame, hraised⟩ := rotate_active (P := P) h.rotating successor now ha
        have hle : a.version ≤ a'.version := by
          by_cases hyes : s.Promotes P cfg successor now
          · exact (hraised hyes).le
          · exact (hsame hyes).ge
        rw [← maybeRotate_loaded h.rotating.loaded fresh] at ha'
        obtain ⟨c, hc, hle'⟩ := hactive a' ha'
        exact ⟨c, hc, hle.trans hle'⟩

end Runs

theorem announced_successor (P : Primitives) (cfg : ServerConfig) (db : Database) (keyFile : Option KeyMap)
    (k : PrivateKeys) (now : ℤ) (pre post : List IdentityOp)
    (hdb : db.loadEngine cfg.params cfg.serverUuid = none) :
    let s := rotated P cfg db keyFile k now pre
    let s' := rotated P cfg db keyFile k now (pre ++ post)
    ∃ announced, (∀ fresh t, s.successorAnnouncement P cfg fresh t = (.ok announced, s)) ∧
      ∀ info, announced = some info →
        (∃ a payload, s.identity.engine.active = some a ∧ info.prevVersion = a.version ∧
          info.version = a.version + 1 ∧ encodeSuccessorPayload cfg.serverUuid info.prevVersion info.version
            info.ed25519Public info.x25519Public [] = .ok payload ∧
          verifyEd25519 P a.ed25519Public payload info.successorSignature = .ok ()) ∧
        (∃ c, s'.identity.engine.get info.version = some c ∧ c.ed25519Public = info.ed25519Public ∧
          c.x25519Public = info.x25519Public) ∧
        (∃ c, s'.identity.engine.active = some c ∧ (c.version = info.prevVersion ∨ info.version ≤ c.version)) ∧
        ∀ fresh t later, (s'.successorAnnouncement P cfg fresh t).1 = .ok (some later) →
          info.version < later.version ∨ later.version = info.version ∧
            later.ed25519Public = info.ed25519Public ∧ later.x25519Public = info.x25519Public ∧
            later.prevVersion = info.prevVersion := by
  intro s s'
  have hs : s.Announcing P cfg := (later_run (announcing_first db keyFile k now hdb) pre).1
  obtain ⟨hs', hevolves, hactive⟩ : s'.Announcing P cfg ∧ s.identity.engine.Evolves s'.identity.engine ∧
      ∀ a, s.identity.engine.active = some a → ∃ c, s'.identity.engine.active = some c ∧ a.version ≤ c.version := by
    have hrun : s' = run (identityStep P cfg) s post := run_append _ pre post
    rw [hrun]
    exact later_run hs post
  rcases hs.announcement with ⟨_, hnone⟩ |
    ⟨a, v, info, ha, hv, hannounced, hnext, ⟨hversion, hed25519, hx25519, hprev⟩, payload, hpayload, hverify⟩
  · refine ⟨none, fun fresh t => ?_, fun info hinfo => by cases hinfo⟩
    rw [successorAnnouncement_loaded hs.rotating.loaded, hnone]
  · refine ⟨some info, fun fresh t => ?_, fun info' hinfo => ?_⟩
    · rw [successorAnnouncement_loaded hs.rotating.loaded, hannounced]
    obtain rfl := Option.some.inj hinfo
    obtain ⟨hmem, _⟩ := mem_of_byStatus hv
    obtain ⟨c, hc, hcv⟩ := hevolves.cred v.version v (get_of_mem hmem)
    obtain ⟨b, hb, hle⟩ := hactive a ha
    refine ⟨⟨a, payload, ha, hprev, hversion.trans hnext, ?_, hverify⟩, ⟨c, ?_, ?_, ?_⟩, ⟨b, hb, by omega⟩,
      fun fresh t later hlater => ?_⟩
    · rw [hprev, hversion, hed25519, hx25519, hpayload]
    · rw [hversion, hc]
    · rw [hcv.ed25519, hed25519]
    · rw [hcv.x25519, hx25519]
    · rw [successorAnnouncement_loaded hs'.rotating.loaded] at hlater
      rcases hs'.announcement with ⟨_, hnone'⟩ |
        ⟨a', v', info', _, hv', hannounced', hnext', ⟨hversion', hed25519', hx25519', hprev'⟩, _⟩
      · rw [hnone'] at hlater
        cases hlater
      · rw [hannounced'] at hlater
        obtain rfl := Option.some.inj (Except.ok.inj hlater)
        obtain ⟨hmem', hs3'⟩ := mem_of_byStatus hv'
        have hlast := hs'.rotating.window.validating_last v' hmem' hs3' c (get_eq_some.mp hc).1
        have hcversion : c.version = v.version := (get_eq_some.mp hc).2
        rcases hlast.lt_or_eq with hlt | heq
        · left
          omega
        · right
          obtain rfl := s'.identity.engine.creds.row_unique (get_eq_some.mp hc).1 hmem' heq
          exact ⟨by omega, by rw [hed25519', hcv.ed25519, hed25519], by rw [hx25519', hcv.x25519, hx25519], by omega⟩

section Demo

-- announced between the tick that submits the successor and the one that promotes it
theorem successor_announced :
    ∃ info, ((rotated transparent demoServer Database.empty none (demoKeys 1) 1000
        (demoRotation.take 1)).successorAnnouncement transparent demoServer (demoKeys 0) 50000).1 =
          .ok (some info) ∧
      ∃ c, (rotated transparent demoServer Database.empty none (demoKeys 1) 1000
          demoRotation).identity.engine.get info.version = some c ∧ c.x25519Public = info.x25519Public := by
  obtain ⟨announced, hannounced, h⟩ := announced_successor transparent demoServer Database.empty none
    (demoKeys 1) 1000 (demoRotation.take 1) (demoRotation.drop 1) rfl
  have hsome : ((((rotated transparent demoServer Database.empty none (demoKeys 1) 1000
      (demoRotation.take 1)).successorAnnouncement transparent demoServer (demoKeys 0) 50000).1.toOption).getD
        none).isSome = true := by decide +kernel
  rw [hannounced] at hsome
  obtain ⟨info, rfl⟩ := Option.isSome_iff_exists.mp hsome
  obtain ⟨_, ⟨c, hc, _, hx25519⟩, _⟩ := h info rfl
  rw [List.take_append_drop] at hc
  exact ⟨info, congrArg Prod.fst (hannounced _ _), c, hc, hx25519⟩

end Demo

end ServerState

end Secupload.Server
