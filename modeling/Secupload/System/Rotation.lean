import Secupload.Client.Rotation
import Secupload.System.Control

namespace Secupload.System

open Library Shared Client Server
open Shared.RotationEngine (WindowInv submitted promoted demoted retired ended expired mem_of_byStatus
  get_of_mem get_eq_some statusAt_put statusAt_of_get statusAt_of_byStatus statusAt_eq_some byStatus_none_iff)

inductive RotationCall
  | rotate
  | checkpointRotation
  | rollbackRotation
  deriving DecidableEq

def RotationCall.exchange (P : Primitives) (ccfg : ClientConfig) (d : Client.Draw) :
    RotationCall → Exchange
  | .rotate => ClientSession.rotate P ccfg d
  | .checkpointRotation => ClientSession.checkpointRotation P ccfg d
  | .rollbackRotation => ClientSession.rollbackRotation P ccfg d

structure Generated (P : Primitives) (r : Round) : Prop extends Drawn P r where
  successor : P.x25519Loads r.client.successor.x25519 = true

inductive Move (P : Primitives)
  | call (c : RotationCall) (fate : Fate) (r : Round) (generated : Generated P r)
  | reconnect (fresh : PrivateKeys) (now : ℤ) (fate : Fate) (d : Server.Draw)

def move (P : Primitives) (ccfg : ClientConfig) (scfg : ServerConfig) (w : World) : Move P → World
  | .call c fate r _ => (w.exchange P scfg (c.exchange P ccfg r.client) fate r.server).2
  | .reconnect fresh now fate d => (w.connect P ccfg scfg fresh now fate d).2

def Seals (P : Primitives) (S : RotationEngine) (keys : KeyMap) (v : ℤ) (s : CredentialStatus) : Prop :=
  ∃ d k, S.get v = some d ∧ d.status = s ∧ keys.keysFor v = some k ∧
    d.x25519Public = P.x25519Public k.x25519

structure Linked (P : Primitives) (ccfg : ClientConfig) (scfg : ServerConfig) (S : RotationEngine)
    (w : World) : Prop where
  token : ccfg.enrollmentToken ≠ ""
  kept : w.session.identity.Kept P ccfg
  load : w.server.state.db.loadEngine scfg.params (w.session.identity.identityUuid P ccfg) = some S
  window : WindowInv S
  tracks : Tracks P w.session w.server.state

section Linked

variable {P : Primitives} {ccfg : ClientConfig} {scfg : ServerConfig} {S S' : RotationEngine}
  {w w' : World} {a v : ℤ} {s s' : CredentialStatus} {keys keys' : KeyMap} {r : Round} {fate : Fate}

lemma Seals.statusAt (h : Seals P S keys v s) : S.statusAt v = some s := by
  obtain ⟨d, k, hd, rfl, _⟩ := h
  exact statusAt_of_get hd

lemma Seals.evolves (h : Seals P S keys v s) (he : S.Evolves S') (hs : S'.statusAt v = some s') :
    Seals P S' keys v s' := by
  obtain ⟨d, k, hd, _, hk, hpublic⟩ := h
  obtain ⟨d', hd', hdd'⟩ := he.cred v d hd
  rw [statusAt_of_get hd'] at hs
  exact ⟨d', k, hd', Option.some.inj hs, hk, hdd'.x25519.trans hpublic⟩

lemma Seals.of_keys (h : Seals P S keys v s) (hkeys : keys'.keysFor v = keys.keysFor v) :
    Seals P S keys' v s := by
  obtain ⟨d, k, hd, hs, hk, hpublic⟩ := h
  exact ⟨d, k, hd, hs, hkeys.trans hk, hpublic⟩

lemma identityUuid_congr (h : ccfg.enrollmentToken ≠ "") (c c' : ClientIdentity) :
    c.identityUuid P ccfg = c'.identityUuid P ccfg := by
  rw [ClientIdentity.identityUuid, ClientIdentity.identityUuid, if_pos h, if_pos h]

lemma Linked.paired (h : Linked P ccfg scfg S w)
    (hactive : (w.session.identity.stored ccfg).statusAt a = some .active)
    (hrow : Seals P S w.session.identity.keys a s) :
    ∃ cred keys, cred.version = a ∧
      Paired P ccfg cred keys w.session w.server.state.db := by
  obtain ⟨active, hcurrent, rfl⟩ := h.kept.current hactive
  obtain ⟨d, k, hd, _, hk, hpublic⟩ := hrow
  have hcurrent' : w.session.identity.current = .ok active := by
    rw [ClientIdentity.current, hcurrent]
  refine ⟨active, k, rfl, hcurrent', ?_, h.kept.loads _ k hk, d, ?_, hpublic⟩
  · rw [ClientIdentity.currentKeys, hcurrent', except_ok_bind, ClientIdentity.keysFor, hk]
  · rw [← Database.loadEngine_get h.load]
    exact hd

lemma Linked.next (h : Linked P ccfg scfg S w) {c : ClientIdentity}
    (hsession : w'.session = w.session.withIdentity c) (hkept : c.Kept P ccfg)
    (hload : w'.server.state.db.loadEngine scfg.params (w.session.identity.identityUuid P ccfg) = some S')
    (hwindow : WindowInv S') (hidentity : w'.server.state.identity = w.server.state.identity) :
    Linked P ccfg scfg S' w' where
  token := h.token
  kept := by
    rw [hsession]
    exact hkept
  load := by
    rw [identityUuid_congr h.token _ w.session.identity]
    exact hload
  window := hwindow
  tracks := by
    have htracks := h.tracks.of_identity hidentity
    rw [hsession]
    exact ⟨htracks.credential, htracks.keys⟩

lemma Linked.same (h : Linked P ccfg scfg S w) {c : ClientIdentity}
    (hsession : w'.session = w.session.withIdentity c) (hkept : c.Kept P ccfg)
    (hstate : w'.server.state = w.server.state) : Linked P ccfg scfg S w' :=
  h.next hsession hkept (by rw [hstate]; exact h.load) h.window (by rw [hstate])

lemma Linked.served (h : Linked P ccfg scfg S w) {c : ClientIdentity} {action : Action} {inner : Bytes}
    (hsession : w'.session = w.session.withIdentity c) (hkept : c.Kept P ccfg)
    (hserved : Served P scfg (w.session.identity.identityUuid P ccfg) v action inner r S S'
      w.server w'.server) : Linked P ccfg scfg S' w' := by
  obtain ⟨t, ht⟩ := hserved.transition
  exact h.next hsession hkept hserved.load (ht ▸ RotationEngine.windowInv_transition P h.window t)
    hserved.identity

end Linked

section Calls

variable {P : Primitives} {ccfg : ClientConfig} {scfg : ServerConfig} {S : RotationEngine}
  {w : World} {a : ℤ} {s : CredentialStatus} {r : Round}

lemma checkpoint_moves (hP : Lawful P) (h : Linked P ccfg scfg S w)
    (hactive : (w.session.identity.stored ccfg).statusAt a = some .active)
    (hrow : Seals P S w.session.identity.keys a s) (hr : Drawn P r) (fate : Fate) :
    let out := w.exchange P scfg (ClientSession.checkpointRotation P ccfg r.client) fate r.server
    (out.2.server.state = w.server.state ∧ out.2.session = w.session ∧
      out.1 ≠ .ok (.promoted true)) ∨
    ∃ S', Served P scfg (w.session.identity.identityUuid P ccfg) a .rotateCheckpoint [] r S S'
        w.server out.2.server ∧
      ((out.2.session = w.session ∧ out.1 ≠ .ok (.promoted true) ∧ fate ≠ .requestLost ∧
          ¬ (fate = .delivered ∧ InInt64 r.server.sentAt)) ∨
        fate = .delivered ∧ out.2.session =
          w.session.withIdentity (w.session.identity.checkpoint r.client.laterNow).2) := by
  obtain ⟨cred, keys, rfl, hpair⟩ := h.paired hactive hrow
  have hcases := control_exchange [] .rotateCheckpoint
    (ClientSession.checkpointRotation P ccfg r.client) hP trivial hpair hr h.tracks h.load rfl rfl fate
  dsimp only
  generalize w.exchange P scfg (ClientSession.checkpointRotation P ccfg r.client) fate r.server = out at hcases ⊢
  obtain ⟨result, w'⟩ := out
  dsimp only at hcases ⊢
  rcases hcases with ⟨hstate, ⟨⟨exc, rfl⟩, hsession⟩ | ⟨read, message, hstatus, huse⟩⟩ |
    ⟨S', hserved, ⟨⟨exc, rfl⟩, hsession, hlost⟩ | ⟨hfate, read, message, hstatus, huse⟩⟩
  · exact Or.inl ⟨hstate, hsession, by simp⟩
  · simp only [ClientSession.checkpointRotation, hstatus] at huse
    obtain ⟨rfl, hsession⟩ := Prod.mk.inj huse
    exact Or.inl ⟨hstate, hsession, by simp⟩
  · exact Or.inr ⟨S', hserved, Or.inl ⟨hsession, by simp, hlost⟩⟩
  · simp only [ClientSession.checkpointRotation, hstatus] at huse
    exact Or.inr ⟨S', hserved, Or.inr ⟨hfate, congrArg Prod.snd huse⟩⟩

lemma rollback_moves (hP : Lawful P) (h : Linked P ccfg scfg S w)
    (hactive : (w.session.identity.stored ccfg).statusAt a = some .active)
    (hrow : Seals P S w.session.identity.keys a s) (hr : Drawn P r) (fate : Fate) :
    let w' := (w.exchange P scfg (ClientSession.rollbackRotation P ccfg r.client) fate r.server).2
    (w'.server.state = w.server.state ∧ w'.session = w.session) ∨
    ∃ S', Served P scfg (w.session.identity.identityUuid P ccfg) a .rotateRollback [] r S S'
        w.server w'.server ∧
      (w'.session = w.session ∨
        w'.session = w.session.withIdentity (w.session.identity.rollback r.client.laterNow).2) := by
  obtain ⟨cred, keys, rfl, hpair⟩ := h.paired hactive hrow
  have hcases := control_exchange [] .rotateRollback
    (ClientSession.rollbackRotation P ccfg r.client) hP trivial hpair hr h.tracks h.load rfl rfl fate
  dsimp only
  generalize w.exchange P scfg (ClientSession.rollbackRotation P ccfg r.client) fate r.server = out at hcases ⊢
  obtain ⟨result, w'⟩ := out
  dsimp only at hcases ⊢
  rcases hcases with ⟨hstate, ⟨_, hsession⟩ | ⟨read, message, hstatus, huse⟩⟩ |
    ⟨S', hserved, ⟨_, hsession, _⟩ | ⟨_, read, message, hstatus, huse⟩⟩
  · exact Or.inl ⟨hstate, hsession⟩
  · simp only [ClientSession.rollbackRotation, hstatus] at huse
    exact Or.inl ⟨hstate, congrArg Prod.snd huse⟩
  · exact Or.inr ⟨S', hserved, Or.inl hsession⟩
  · simp only [ClientSession.rollbackRotation, hstatus] at huse
    exact Or.inr ⟨S', hserved, Or.inr (congrArg Prod.snd huse)⟩

def submitting (P : Primitives) (w : World) (active : CredentialPublic) (d : Client.Draw) : ClientIdentity :=
  w.session.identity.submittedBy P active d.successor d.identityNow

lemma Linked.submitting {active : CredentialPublic} {signature : Bytes} (h : Linked P ccfg scfg S w)
    (hactive : w.session.identity.engine.active = some active)
    (hloads : P.x25519Loads r.client.successor.x25519 = true)
    (hsubmit : w.session.identity.engine.Submittable P
      (credentialOf P active.identityUuid (active.version + 1) r.client.successor) signature []
      r.client.identityNow) :
    (submitting P w active r.client).Kept P ccfg ∧
      ((submitting P w active r.client).stored ccfg).statusAt active.version = some .active := by
  refine ⟨ClientIdentity.kept_submittedBy h.kept hactive hloads hsubmit, ?_⟩
  rw [System.submitting, ClientIdentity.statusAt_submittedBy h.kept hactive, if_neg (by omega)]
  exact statusAt_of_byStatus hactive

lemma keysFor_submitting (active : CredentialPublic) (v : ℤ) :
    (submitting P w active r.client).keys.keysFor v =
      if active.version + 1 = v then some r.client.successor
      else w.session.identity.keys.keysFor v :=
  KeyMap.keysFor_add _ _ _ _

lemma rotate_moves (hP : Lawful P) (h : Linked P ccfg scfg S w)
    (hactive : (w.session.identity.stored ccfg).statusAt a = some .active)
    (hrow : Seals P S w.session.identity.keys a s) (hr : Generated P r) (fate : Fate) :
    let w' := (w.exchange P scfg (ClientSession.rotate P ccfg r.client) fate r.server).2
    w' = w ∨
    ∃ active signature payload, w.session.identity.engine.active = some active ∧ active.version = a ∧
      encodeSuccessorPayload active.identityUuid a (a + 1) (P.ed25519Public r.client.successor.ed25519)
        (P.x25519Public r.client.successor.x25519) [] = .ok payload ∧
      signature.length = ed25519SignatureSize ∧
      w.session.identity.engine.Submittable P
        (credentialOf P active.identityUuid (active.version + 1) r.client.successor) signature []
        r.client.identityNow ∧
      ((w'.server.state = w.server.state ∧
          (w'.session = w.session.withIdentity (submitting P w active r.client) ∨
            w'.session = w.session.withIdentity
              ((submitting P w active r.client).rollback r.client.laterNow).2)) ∨
        ∃ S', Served P scfg (w.session.identity.identityUuid P ccfg) a .rotateSubmit
            (payload ++ signature) r S S' w.server w'.server ∧
          (w'.session = w.session.withIdentity (submitting P w active r.client) ∨
            fate = .delivered ∧ w'.session = w.session.withIdentity
              ((submitting P w active r.client).checkpoint r.client.laterNow).2)) := by
  dsimp only
  rcases ClientIdentity.generateSuccessor_cases P w.session.identity r.client.successor
    r.client.identityNow with ⟨exc, hrefused⟩ |
    ⟨active, signer, payload, hcurrent, hsigner, hpayload, hsubmit, hdone⟩
  · have hsend : (ClientSession.rotate P ccfg r.client).send w.session = (.error exc, w.session) := by
      simp only [ClientSession.rotate, hrefused]
      rfl
    rw [exchange_unsent scfg fate r.server hsend]
    exact Or.inl rfl
  · obtain ⟨active', hcurrent', rfl⟩ := h.kept.current hactive
    obtain rfl := Option.some.inj (hcurrent.symm.trans hcurrent')
    obtain ⟨hkept, hactive'⟩ := h.submitting hcurrent hr.successor hsubmit
    have hwaiting : Linked P ccfg scfg S
        { w with session := w.session.withIdentity (submitting P w active r.client) } :=
      h.same rfl hkept rfl
    have hrow' : Seals P S (submitting P w active r.client).keys active.version s :=
      hrow.of_keys (by rw [keysFor_submitting, if_neg (by omega)])
    obtain ⟨cred, keys, hversion, hpair⟩ := hwaiting.paired hactive' hrow'
    have hsend : (ClientSession.rotate P ccfg r.client).send w.session =
        ((w.session.withIdentity (submitting P w active r.client)).sendSealed P ccfg r.client
          Action.rotateSubmit.ctype (payload ++ signEd25519 P signer.ed25519 payload),
          w.session.withIdentity (submitting P w active r.client)) := by
      simp only [ClientSession.rotate, hdone]
      rfl
    have hcases := control_exchange (w := w) _ .rotateSubmit
      (ClientSession.rotate P ccfg r.client) hP trivial hpair hr.toDrawn hwaiting.tracks hwaiting.load hsend rfl fate
    refine Or.inr ⟨active, signEd25519 P signer.ed25519 payload, payload, hcurrent, rfl, hpayload,
      hP.signature_length _ _, hsubmit, ?_⟩
    rw [hversion, identityUuid_congr h.token _ w.session.identity] at hcases
    generalize w.exchange P scfg (ClientSession.rotate P ccfg r.client) fate r.server = out at hcases ⊢
    obtain ⟨result, w'⟩ := out
    dsimp only at hcases ⊢
    rcases hcases with ⟨hstate, ⟨_, hsession⟩ | ⟨read, message, hstatus, huse⟩⟩ |
      ⟨S', hserved, ⟨_, hsession, _⟩ | ⟨hfate, read, message, hstatus, huse⟩⟩
    · exact Or.inl ⟨hstate, Or.inl hsession⟩
    · refine Or.inl ⟨hstate, Or.inr ?_⟩
      simp only [ClientSession.rotate, hstatus] at huse
      rw [if_pos (by decide)] at huse
      have hsubmitting : (w.session.withIdentity (submitting P w active r.client)).identity =
        submitting P w active r.client := rfl
      rw [hsubmitting] at huse
      generalize (submitting P w active r.client).rollback r.client.laterNow = rolled at huse ⊢
      obtain ⟨_ | _, identity⟩ := rolled
      · exact congrArg Prod.snd huse
      · exact congrArg Prod.snd huse
    · exact Or.inr ⟨S', hserved, Or.inl hsession⟩
    · simp only [ClientSession.rotate, hstatus] at huse
      exact Or.inr ⟨S', hserved, Or.inr ⟨hfate, congrArg Prod.snd huse⟩⟩

end Calls

end Secupload.System
