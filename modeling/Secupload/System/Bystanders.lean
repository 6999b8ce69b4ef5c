import Secupload.Server.OwnRotation
import Secupload.Server.Permanence
import Secupload.Server.Succession
import Secupload.System.Replies

namespace Secupload.Server.Database

open Library Shared

structure Spares (I : Uuid) (db db' : Database) : Prop where
  rows : ∀ v, db'.credential I v = db.credential I v
  known : db.identityKind I ≠ none → db'.identityKind I ≠ none
  persists : ∀ J v, db.credential J v ≠ none → db'.credential J v ≠ none

section Spares

variable {P : Primitives} {params : RotationParams} {db db' db'' : Database} {I J : Uuid}

lemma Spares.refl (I : Uuid) (db : Database) : Spares I db db := ⟨fun _ => rfl, id, fun _ _ => id⟩

lemma Persists.ne_none (h : Persists db db') (J : Uuid) (v : ℤ) (hv : db.credential J v ≠ none) :
    db'.credential J v ≠ none := by
  obtain ⟨c, hc⟩ := Option.ne_none_iff_exists'.mp hv
  obtain ⟨c', hc', _⟩ := h J v c hc
  rw [hc']
  exact Option.some_ne_none c'

lemma Touches.spares (h : Touches J db db') (hJ : J ≠ I) : Spares I db db' where
  rows := h.others I (Ne.symm hJ)
  known := by
    rw [identityKind_ne_none, identityKind_ne_none, h.clients, h.proxies]
    exact id
  persists := h.persists.ne_none

lemma known_redeemed {kind : IdentityKind} {t : ℤ} {row : EnrollmentToken}
    (h : db.Redeemed J kind t row db') (hknown : db.identityKind I ≠ none) : db'.identityKind I ≠ none := by
  rw [identityKind_ne_none] at hknown ⊢
  exact hknown.imp (h.clients I) (h.proxies I)

lemma enroll_spares (hJ : J ≠ I) (kind : IdentityKind) (token : String) (version : ℤ)
    (ed25519Public x25519Public : Bytes) (now : Option ℤ) (time : ℤ) :
    Spares I db (db.enroll P params J kind token version ed25519Public x25519Public now time).2 := by
  have hpersists := (persists_enroll P params db J kind token version ed25519Public x25519Public now
    time).ne_none
  rcases enroll_cases P params db J kind token version ed25519Public x25519Public now time with
    ⟨_, code, message, he⟩ |
    ⟨row, db', _, _, hr, ⟨_, code, message, he⟩ | ⟨_, final, he, hfinal⟩⟩
  · rw [he]
    exact .refl I db
  · rw [he] at hpersists ⊢
    refine ⟨fun v => ?_, known_redeemed hr, hpersists⟩
    exact (hr.credential I v).trans (if_neg fun h => hJ h.1.symm)
  · rw [he] at hpersists ⊢
    refine ⟨fun v => ?_, fun hknown => ?_, hpersists⟩
    · rw [hfinal.credential, if_neg fun h => hJ h.1.symm, hr.credential, if_neg fun h => hJ h.1.symm]
    · have hkept := known_redeemed hr hknown
      rw [identityKind_ne_none] at hkept ⊢
      rw [hfinal.clients, hfinal.proxies]
      exact hkept

lemma answered_touches {α : Type} {r : Outcome Database α} (h : Touches I db r.2) :
    Touches I db (r.bind fun _ db => (encodeControl 0 (utf8 "ok"), db)).2 := by
  obtain ⟨_ | _, db'⟩ := r
  · exact h
  · exact h

variable (P params db) in
lemma handleAction_touches (action : Action) (sender : Uuid) (inner : Bytes) (now : ℤ) :
    Touches sender db (db.handleAction P params action sender inner now).2 := by
  cases action with
  | registrySync => exact .refl sender db
  | rotateSubmit =>
    rw [handleAction]
    rcases handleRotateSubmit_db P params db sender inner now with hsame | ⟨p, hcall⟩
    · rw [hsame]
      exact .refl sender db
    · rw [hcall]
      exact call_touches P params db sender _
  | rotateCheckpoint =>
    rw [handleAction, handleRotateCheckpoint, checkpoint]
    exact answered_touches (call_touches P params db sender _)
  | rotateRollback =>
    rw [handleAction, handleRotateRollback, rollback]
    exact answered_touches (call_touches P params db sender _)
  | rotateRevoke =>
    rw [handleAction, handleRotateRevoke]
    split
    · exact .refl sender db
    · rw [revoke]
      exact answered_touches (call_touches P params db sender _)

lemma Spares.trans (h : Spares I db db') (k : Spares I db' db'') : Spares I db db'' :=
  ⟨fun v => (k.rows v).trans (h.rows v), k.known ∘ h.known, fun J v => k.persists J v ∘ h.persists J v⟩

lemma saveAll_spares {e : RotationEngine} (he : e.BelongsTo J) (hJ : J ≠ I) : Spares I db (db.saveAll e) where
  rows := fun v => (credential_saveAll he I v).trans (if_neg (Ne.symm hJ))
  known := by
    rw [identityKind_ne_none, identityKind_ne_none, saveAll_clients, saveAll_proxies]
    exact id
  persists := by
    intro K v hv
    rw [credential_saveAll he]
    split_ifs with hK
    · subst hK
      cases e.get v with
      | none => exact hv
      | some c => exact Option.some_ne_none c
    · exact hv

end Spares

end Secupload.Server.Database

namespace Secupload.Server.ServerState

open Library Shared
open Database (Spares)

section Ticks

variable {P : Primitives} {cfg : ServerConfig} {s : ServerState} {I : Uuid}

lemma submitSuccessor_spares (h : s.Rotating cfg) (hI : cfg.serverUuid ≠ I) (active : CredentialPublic)
    (k : PrivateKeys) (now : ℤ) : Spares I s.db (s.submitSuccessor P cfg active k now).2.db := by
  have hbelongs := (submitSuccessor_engine P k now h active).1.rotating.belongs
  rw [submitSuccessor] at hbelongs ⊢
  rcases Holder.generateSuccessor_cases P cfg.serverUuid s.identity.toHolder active k now with
    ⟨exc, he⟩ | ⟨signer, payload, _, _, _, he⟩
  · rw [he]
    exact .refl I s.db
  · rw [he] at hbelongs ⊢
    exact Database.saveAll_spares hbelongs hI

lemma promote_spares (h : s.Rotating cfg) (hI : cfg.serverUuid ≠ I) (now : ℤ) :
    Spares I s.db (s.promote now).2.db := by
  have hbelongs := (promote_keepsOthers h now).rotating.belongs
  rcases promote_cases s now with ⟨_, he⟩ | ⟨_, v3, _, he⟩ | ⟨_, v2, v3, _, _, he⟩
  · rw [he]
    exact .refl I s.db
  · rw [he]
    exact .refl I s.db
  · rw [he] at hbelongs ⊢
    exact Database.saveAll_spares hbelongs hI

lemma rotate_spares (h : s.Rotating cfg) (hI : cfg.serverUuid ≠ I) (k : PrivateKeys) (now : ℤ) :
    Spares I s.db (s.rotate P cfg k now).2.db := by
  cases hactive : s.identity.engine.active with
  | none =>
    rw [rotate, hactive]
    exact .refl I s.db
  | some active =>
    rw [rotate_due hactive]
    have hdue : Spares I s.db (s.due P cfg k now).db := by
      rw [due, hactive]
      dsimp only
      split_ifs
      · exact submitSuccessor_spares h hI active k now
      · exact .refl I s.db
    exact hdue.trans (promote_spares (due_engine h k now).1.rotating hI now)

lemma maybeRotate_spares (h : s.Rotating cfg) (fresh successor : PrivateKeys) (now : ℤ) :
    (s.maybeRotate P cfg fresh successor now).2.Rotating cfg ∧ (∀ I, cfg.serverUuid ≠ I →
      Spares I s.db (s.maybeRotate P cfg fresh successor now).2.db) ∧
      ∀ J v, s.db.credential J v ≠ none →
        (s.maybeRotate P cfg fresh successor now).2.db.credential J v ≠ none := by
  have hother : ∃ I, cfg.serverUuid ≠ I := by
    by_cases hnil : cfg.serverUuid = Uuid.nil
    · exact ⟨Uuid.repeated 1, by rw [hnil]; decide⟩
    · exact ⟨Uuid.nil, hnil⟩
  obtain ⟨I, hI⟩ := hother
  rw [maybeRotate_loaded h.loaded]
  exact ⟨(rotate_keepsOthers h successor now).rotating, fun I hI => rotate_spares h hI successor now,
    (rotate_spares h hI successor now).persists⟩

end Ticks

end Secupload.Server.ServerState

namespace Secupload.System

open Library Shared Client Server
open Server.Database (Spares)

def Foreign (P : Primitives) (I : Uuid) (frame : Frame) : Prop :=
  frame.channel = channelControl → ∀ msg, parseControl frame.payload = .ok msg →
    if msg.ctype = ControlType.enroll.code then
      ∀ b kind, parseEnrollmentBody msg.body = .ok b → kindFromCode b.identityKind = .ok kind →
        Tunnel2Server.tokenIdentity P b.token kind ≠ I
    else ∀ env, parseEnvelope msg.body = .ok env → env.senderUuid ≠ I

section Bystanders

variable {P : Primitives} {scfg : ServerConfig} {I : Uuid} {conn : Connection} {d : Server.Draw}
  {frame : Frame}

lemma handleFrame_spares (h : Foreign P I frame) :
    Spares I conn.state.db (conn.handleFrame P scfg d frame).2.state.db := by
  rcases handleFrame_state P scfg conn d frame with
    hsame | ⟨hchannel, msg, hmsg, ⟨hctype, b, kind, hb, hkind, henroll⟩ | ⟨hctype, action, env, inner, henv, hacts⟩⟩
  · rw [hsame]
    exact .refl I _
  · have hforeign := h hchannel msg hmsg
    rw [if_pos hctype] at hforeign
    rw [henroll]
    exact Database.enroll_spares (hforeign b kind hb hkind) _ _ _ _ _ _ _
  · have hforeign := h hchannel msg hmsg
    rw [if_neg hctype] at hforeign
    rw [hacts]
    exact (Database.handleAction_touches P scfg.params _ action env.senderUuid inner d.now).spares
      (hforeign env henv)

lemma handleFrame_persists (frame : Frame) :
    Database.Persists conn.state.db (conn.handleFrame P scfg d frame).2.state.db := by
  rcases handleFrame_state P scfg conn d frame with
    hsame | ⟨_, msg, _, ⟨_, b, kind, _, _, henroll⟩ | ⟨_, action, env, inner, _, hacts⟩⟩
  · rw [hsame]
    exact .refl _
  · rw [henroll]
    exact Database.persists_enroll P scfg.params conn.state.db (Tunnel2Server.tokenIdentity P b.token kind)
      kind b.token b.version b.ed25519Public b.x25519Public (some d.now) d.time
  · rw [hacts]
    exact (Database.handleAction_touches P scfg.params _ action env.senderUuid inner d.now).persists

end Bystanders

end Secupload.System
