import Secupload.Server.TokenAuthority
import Secupload.System.Bystanders

namespace Secupload.Server.Database

open Library Shared

structure EnrollsOnly (I : Uuid) (tokenHash : Bytes) (db db' : Database) : Prop where
  clients : ∀ J, J ≠ I → db'.clients.get? J = db.clients.get? J
  proxies : ∀ J, J ≠ I → db'.proxies.get? J = db.proxies.get? J
  credentials : ∀ J, J ≠ I → ∀ v, db'.credential J v = db.credential J v
  tokens : ∀ k, k ≠ tokenHash → db'.tokens.get? k = db.tokens.get? k

section Enroll

variable {P : Primitives} {params : RotationParams} {db : Database} {I J : Uuid} {kind : IdentityKind}

lemma EnrollsOnly.refl (I : Uuid) (tokenHash : Bytes) (db : Database) :
    EnrollsOnly I tokenHash db db :=
  ⟨fun _ _ => rfl, fun _ _ => rfl, fun _ _ _ => rfl, fun _ _ => rfl⟩

lemma withIdentity_others (hJ : J ≠ I) :
    (db.withIdentity I kind).clients.get? J = db.clients.get? J ∧
      (db.withIdentity I kind).proxies.get? J = db.proxies.get? J := by
  have hne : (⟨I, "ACTIVE"⟩ : IdentityRow).uuid ≠ J := Ne.symm hJ
  rw [withIdentity, addIdentity]
  split_ifs
  · exact ⟨Table.get?_set_ne _ hne, rfl⟩
  · exact ⟨rfl, Table.get?_set_ne _ hne⟩
  · exact ⟨rfl, rfl⟩

variable (P params db I kind) in
lemma enroll_only (token : String) (version : ℤ) (ed25519Public x25519Public : Bytes) (now : Option ℤ)
    (time : ℤ) : EnrollsOnly I (hashToken P token) db
      (db.enroll P params I kind token version ed25519Public x25519Public now time).2 := by
  rcases enroll_identities P params db I kind token version ed25519Public x25519Public now time with
    hsame | ⟨hcl, hpr⟩
  · rw [hsame]
    exact .refl I _ db
  · refine ⟨fun J hJ => ?_, fun J hJ => ?_, fun J hJ v => ?_, fun k hk => ?_⟩
    · rw [hcl]
      exact (withIdentity_others hJ).1
    · rw [hpr]
      exact (withIdentity_others hJ).2
    · exact (enroll_spares (Ne.symm hJ) kind token version ed25519Public x25519Public now time).rows v
    · rcases enroll_tokens P params db I kind token version ed25519Public x25519Public now time with
        htokens | ⟨row, hrow, _, htokens⟩
      · rw [htokens]
      · have hkey : row.tokenHash = hashToken P token := (Table.get?_eq_some.mp hrow).2
        rw [htokens]
        apply Table.get?_set_ne
        rw [hkey]
        exact Ne.symm hk

end Enroll

end Secupload.Server.Database

namespace Secupload.System

open Library Shared Client Server
open Server.Database (EnrollsOnly Touches hashToken)

def ControlEffect (P : Primitives) (msg : ControlMessage) (db db' : Server.Database) : Prop :=
  if msg.ctype = ControlType.enroll.code then
    match enrollRequest msg.body with
    | .error _ => db' = db
    | .ok (b, kind) =>
      EnrollsOnly (Tunnel2Server.tokenIdentity P b.token kind) (hashToken P b.token) db db'
  else
    match parseEnvelope msg.body with
    | .error _ => db' = db
    | .ok env => db'.clients = db.clients ∧ db'.proxies = db.proxies ∧ db'.tokens = db.tokens ∧
        ∀ J, J ≠ env.senderUuid → ∀ v, db'.credential J v = db.credential J v

section Effects

variable {P : Primitives} {scfg : ServerConfig} {conn : Connection} {d : Server.Draw} {frame : Frame}

lemma controlEffect_refl (msg : ControlMessage) (db : Server.Database) : ControlEffect P msg db db := by
  rw [ControlEffect]
  split
  · split
    · rfl
    · exact .refl _ _ db
  · split
    · rfl
    · exact ⟨rfl, rfl, rfl, fun _ _ _ => rfl⟩

variable (P scfg conn d) in
lemma handleFrame_control {msg : ControlMessage}
    (hmsg : parseControl frame.payload = .ok msg) :
    ControlEffect P msg conn.state.db (conn.handleFrame P scfg d frame).2.state.db := by
  rcases handleFrame_state P scfg conn d frame with
    hsame | ⟨_, msg', hmsg', ⟨hctype, b, kind, hb, hkind, henroll⟩ | ⟨hctype, action, env, inner, henv, hacts⟩⟩
  · rw [hsame]
    exact controlEffect_refl msg _
  · obtain rfl := Except.ok.inj (hmsg.symm.trans hmsg')
    have hrequest : enrollRequest msg.body = .ok (b, kind) := by
      rw [enrollRequest, hb, except_ok_bind, hkind]
      rfl
    rw [henroll, ControlEffect, if_pos hctype, hrequest]
    exact Database.enroll_only P scfg.params conn.state.db _ kind b.token b.version b.ed25519Public
      b.x25519Public (some d.now) d.time
  · obtain rfl := Except.ok.inj (hmsg.symm.trans hmsg')
    have htouches := Database.handleAction_touches P scfg.params conn.state.db action env.senderUuid inner d.now
    rw [hacts, ControlEffect, if_neg hctype, henv]
    exact ⟨htouches.clients, htouches.proxies, htouches.tokens, htouches.others⟩

lemma handleFrame_unparsed {exc : Exn} (hchannel : frame.channel = channelControl)
    (hmsg : parseControl frame.payload = .error exc) : (conn.handleFrame P scfg d frame).2 = conn := by
  rw [Connection.handleFrame, if_pos hchannel, Tunnel2Server.handleControl, Tunnel2Server.perform, hmsg]
  rfl

end Effects

theorem frame_effects (P : Primitives) (scfg : ServerConfig) (conn : Connection) (d : Server.Draw)
    (frame : Frame) :
    (frame.channel = channelControl →
      (conn.handleFrame P scfg d frame).2.permissions = conn.permissions ∧
      (conn.handleFrame P scfg d frame).2.objects = conn.objects ∧
      match parseControl frame.payload with
      | .error _ => (conn.handleFrame P scfg d frame).2.state.db = conn.state.db
      | .ok msg => ControlEffect P msg conn.state.db (conn.handleFrame P scfg d frame).2.state.db) ∧
    (frame.channel = channelRelay →
      (conn.handleFrame P scfg d frame).2.permissions = conn.permissions ∧
      (conn.handleFrame P scfg d frame).2.state.db = conn.state.db) := by
  constructor
  · intro hchannel
    refine ⟨?_, ?_, ?_⟩
    · rw [Connection.handleFrame, if_pos hchannel]
    · rw [Connection.handleFrame, if_pos hchannel]
    · cases hmsg : parseControl frame.payload with
      | error exc =>
        dsimp only
        rw [handleFrame_unparsed hchannel hmsg]
      | ok msg => exact handleFrame_control P scfg conn d hmsg
  · intro hchannel
    have hcontrol : frame.channel ≠ channelControl := by
      rw [hchannel]
      decide
    obtain ⟨auth, objects, hrelay⟩ := handleRelay_withAuth P scfg conn d frame.payload
    rw [Connection.handleFrame, if_neg hcontrol, if_pos hchannel, hrelay]
    exact ⟨rfl, rfl⟩

end Secupload.System
