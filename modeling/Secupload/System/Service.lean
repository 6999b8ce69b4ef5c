import Secupload.System.Effects

namespace Secupload.Server.ServerState

open Library Shared

variable (P : Primitives) (cfg : ServerConfig) (s : ServerState)

def SameIdentities (db db' : Database) : Prop :=
  ∃ credentials, db' = { db with credentials }

lemma SameIdentities.refl (db : Database) : SameIdentities db db := ⟨db.credentials, rfl⟩

lemma SameIdentities.trans {db db' db'' : Database} (h : SameIdentities db db')
    (k : SameIdentities db' db'') : SameIdentities db db'' := by
  obtain ⟨_, rfl⟩ := h
  obtain ⟨credentials, rfl⟩ := k
  exact ⟨credentials, rfl⟩

lemma persist_sameIdentities (h : Holder) : SameIdentities s.db (s.withHolder h).persist.db :=
  ⟨_, Database.saveAll_eq s.db h.engine⟩

lemma promote_sameIdentities (now : ℤ) : SameIdentities s.db (s.promote now).2.db := by
  rw [promote]
  split
  · exact .refl _
  · split_ifs
    · exact .refl _
    · split
      · exact .refl _
      · exact .refl _
      · exact persist_sameIdentities s _

lemma submitSuccessor_sameIdentities (active : CredentialPublic) (k : PrivateKeys) (now : ℤ) :
    SameIdentities s.db (s.submitSuccessor P cfg active k now).2.db := by
  rw [submitSuccessor]
  split
  · exact .refl _
  · exact persist_sameIdentities s _

lemma rotate_sameIdentities (k : PrivateKeys) (now : ℤ) :
    SameIdentities s.db (s.rotate P cfg k now).2.db := by
  rw [rotate]
  split
  · exact .refl _
  · rename_i active hactive
    have hsubmit := submitSuccessor_sameIdentities P cfg s active k now
    dsimp only
    split_ifs
    · generalize s.submitSuccessor P cfg active k now = submitted at hsubmit
      split
      · exact hsubmit
      · exact hsubmit
      · exact hsubmit.trans (promote_sameIdentities _ now)
    · exact promote_sameIdentities s now

lemma ensureLoaded_sameIdentities (k : PrivateKeys) (now : ℤ) :
    SameIdentities s.db (s.ensureLoaded P cfg k now).2.db := by
  rw [ensureLoaded]
  split_ifs
  · exact .refl _
  · split
    · rw [provision]
      generalize s.identity.toHolder.provision P cfg.serverUuid k now = provisioned
      obtain ⟨_ | _, h⟩ := provisioned
      · exact .refl _
      · exact persist_sameIdentities s h
    · split
      · exact .refl _
      · exact .refl _

lemma maybeRotate_sameIdentities (fresh successor : PrivateKeys) (now : ℤ) :
    SameIdentities s.db (s.maybeRotate P cfg fresh successor now).2.db := by
  have hload := ensureLoaded_sameIdentities P cfg s fresh now
  rw [maybeRotate]
  generalize s.ensureLoaded P cfg fresh now = loaded at hload
  obtain ⟨_ | _, loaded⟩ := loaded
  · exact hload
  · exact hload.trans (rotate_sameIdentities P cfg loaded successor now)

end Secupload.Server.ServerState

namespace Secupload.System

open Library Shared Client Server

inductive ServerEvent
  | issue (token : String) (purpose : Purpose) (kind : IdentityKind) (ttl : ℤ)
      (identityUuid : Option Uuid) (now : Option ℤ) (time : ℤ)
  | frame (frame : Frame) (d : Server.Draw)
  | rotate (fresh successor : PrivateKeys) (now : ℤ)

def serve (P : Primitives) (scfg : ServerConfig) (conn : Connection) : ServerEvent → Connection
  | .issue token purpose kind ttl identityUuid now time =>
    let db := (conn.state.db.issueToken P token purpose kind ttl identityUuid now time).2
    { conn with toTunnel2Server := conn.toTunnel2Server.withDb db }
  | .frame frame d => (conn.handleFrame P scfg d frame).2
  | .rotate fresh successor now =>
    { conn with state := (conn.state.maybeRotate P scfg fresh successor now).2 }

end Secupload.System
