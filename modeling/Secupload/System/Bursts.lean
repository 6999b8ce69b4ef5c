import Secupload.System.ControlBurst
import Secupload.System.Convergence

namespace Secupload.System

open Library Shared Client Server Proxy
open Shared.RotationEngine (provisioned mem_of_byStatus)
open Server.Database (Spares)

section Conditions

variable (P : Primitives) (ccfg : ClientConfig) (scfg : ServerConfig) (w : ProxyWorld)

-- what the environment grants: the keys that are drawn are proper, a burst meets its premises, and no
-- frame of another party speaks for the proxy
def Fair : ProxyEvent → Prop
  | .connection h => Server.Generated P h.fresh ∧ ((w.openServerConnection P ccfg scfg h).1 = .ok () →
      Conducive P ccfg scfg (w.openServerConnection P ccfg scfg h).2.toWorld h)
  | .serve frame _ => Foreign P (proxyUuid P ccfg) frame
  | .tick _ successor _ => Server.Generated P successor
  | .restart => True

def Managed : ProxyEvent → Prop
  | .connection h => (w.openServerConnection P ccfg scfg h).1 = .ok () →
      Manageable P ccfg scfg (w.openServerConnection P ccfg scfg h).2.toWorld h
  | _ => True

def Unblocked : ProxyEvent → Prop
  | .connection h => (w.openServerConnection P ccfg scfg h).1 = .ok () →
      Idle ccfg (w.openServerConnection P ccfg scfg h).2.toWorld h
  | _ => True

def Completes : ProxyEvent → Prop
  | .connection h =>
    let opened := w.openServerConnection P ccfg scfg h
    opened.1 = .ok () →
      let burst := opened.2.controlBurst P ccfg scfg h
      burst.1 = .ok () ∧ loaded burst.2.server.state.db opened.2.cache = .ok burst.2.cache
  | _ => True

end Conditions

def draft (P : Primitives) (ccfg : ClientConfig) (k : PrivateKeys) (now : ℤ) : IdentityFile where
  identityUuid := (ClientIdentity.start ccfg).identityUuid P ccfg
  credentials := [provisioned ccfg.params
    (credentialOf P ((ClientIdentity.start ccfg).identityUuid P ccfg) 1 k) now]
  keys := KeyMap.add Table.empty 1 k
  enrolled := false

structure Tended (P : Primitives) (scfg : ServerConfig) (state : ServerState) : Prop where
  rotating : state.Rotating scfg
  able : state.Able P
  registered : ∃ v, 1 ≤ v ∧ state.db.credential scfg.serverUuid v ≠ none

inductive Filed (P : Primitives) (ccfg : ClientConfig) (scfg : ServerConfig) (identity : ClientIdentity)
    (db : Database) : Prop
  | blank (h : identity = ClientIdentity.start ccfg)
  | drafted (k : PrivateKeys) (now : ℤ) (generated : Server.Generated P k)
      (file : identity.file = some (draft P ccfg k now))
  | joined (k : PrivateKeys) (file : IdentityFile) (hfile : identity.file = some file)
      (h : Joined P ccfg scfg k (reloaded ccfg file) db)

structure Rested (P : Primitives) (ccfg : ClientConfig) (scfg : ServerConfig) (w : World) : Prop where
  tended : Tended P scfg w.server.state
  trackedVersion : InUInt32 w.session.serverKeys.version
  filed : Filed P ccfg scfg w.session.identity w.server.state.db

section Server

variable {P : Primitives} {ccfg : ClientConfig} {scfg : ServerConfig} {k : PrivateKeys} {c : ClientIdentity}
  {db db' : Database} {state state' : ServerState}

lemma Joined.spared (hj : Joined P ccfg scfg k c db) (h : Spares (proxyUuid P ccfg) db db') :
    Joined P ccfg scfg k c db' := by
  obtain ⟨S, hload, hS⟩ := hj.registered
  exact ⟨hj.token, hj.other, hj.bears, h.known hj.known, S, (Database.loadEngine_congr h.rows).trans hload, hS⟩

lemma Joined.saved (hj : Joined P ccfg scfg k c db) (hsave : c.save = c) :
    ∃ file, c.file = some file ∧ Joined P ccfg scfg k (reloaded ccfg file) db := by
  obtain ⟨S, hload, hS, hlink⟩ := hj.registered
  obtain ⟨file, hfile, hbears, hidle⟩ := hj.bears.saved
  rw [hsave] at hfile
  exact ⟨file, hfile, hj.token, hj.other, hbears, hj.known, S, hload, hS, hlink ∘ hidle⟩

lemma Filed.spared (hf : Filed P ccfg scfg c db) (h : scfg.serverUuid ≠ proxyUuid P ccfg →
    Spares (proxyUuid P ccfg) db db') : Filed P ccfg scfg c db' := by
  cases hf with
  | blank h => exact .blank h
  | drafted k now generated file => exact .drafted k now generated file
  | joined k file hfile hj => exact .joined k file hfile (hj.spared (h hj.other))

lemma Tended.next (ht : Tended P scfg state) (hrotating : state'.Rotating scfg) (hable : state'.Able P)
    (hpersists : ∀ v, state.db.credential scfg.serverUuid v ≠ none →
      state'.db.credential scfg.serverUuid v ≠ none) : Tended P scfg state' := by
  obtain ⟨v, hv, hrow⟩ := ht.registered
  exact ⟨hrotating, hable, v, hv, hpersists v hrow⟩

lemma Tended.of_identity (ht : Tended P scfg state) (hsame : state'.identity = state.identity)
    (hpersists : ∀ v, state.db.credential scfg.serverUuid v ≠ none →
      state'.db.credential scfg.serverUuid v ≠ none) : Tended P scfg state' := by
  obtain ⟨hloaded, hparams, hwindow, hbelongs⟩ := ht.rotating
  obtain ⟨hactive, hkeys⟩ := ht.able
  simp only [ServerState.KeysOf] at hkeys
  rw [← hsame] at hloaded hparams hwindow hbelongs hactive hkeys
  exact ht.next ⟨hloaded, hparams, hwindow, hbelongs⟩ ⟨hactive, hkeys⟩ hpersists

lemma Tended.tracks (ht : Tended P scfg state) {session : ClientSession}
    (htracked : ∀ c ∈ state.identity.engine.active, session.serverKeys.x25519Public = c.x25519Public) :
    Tracks P session state := by
  obtain ⟨c, hc⟩ := Option.ne_none_iff_exists'.mp ht.able.active
  obtain ⟨⟨k, hk, hgenerated, hmatch⟩, hfrom, hlast⟩ := ht.able.keys c (mem_of_byStatus hc).1
  refine ⟨⟨c, ?_, ?_⟩, k, ServerState.activeKeys_eq_ok.mpr ⟨c, hc, hk⟩, hgenerated.2, ?_⟩
  · rw [ServerState.credential, hc]
  · rw [lastVersion] at hlast
    exact ⟨by omega, by omega⟩
  · rw [htracked c hc, hmatch.2]

lemma Tended.handleFrame {conn : Connection} (ht : Tended P scfg conn.state) (frame : Frame)
    (d : Server.Draw) : Tended P scfg (conn.handleFrame P scfg d frame).2.state :=
  ht.of_identity (handleFrame_identity P scfg conn d frame) ((handleFrame_persists frame).ne_none scfg.serverUuid)

end Server

section Connecting

variable {P : Primitives} {ccfg : ClientConfig} {scfg : ServerConfig} {k : PrivateKeys} {now : ℤ} {w : World}
  {h : Handling}

variable (ccfg now) in
lemma provisional_draft (hk : Server.Generated P k) : Provisional P
    (provisioned ccfg.params
      (credentialOf P ((ClientIdentity.start ccfg).identityUuid P ccfg) 1 k) now) k
    (reloaded ccfg (draft P ccfg k now)) where
  enrolled := rfl
  rows := rfl
  keys := rfl
  file := rfl
  version := rfl
  status := rfl
  x25519 := rfl
  loads := hk.2

lemma Filed.dial (hf : Filed P ccfg scfg w.session.identity w.server.state.db)
    (hfresh : Server.Generated P h.fresh) : ∃ file,
    (reopened w.session).dial P ccfg h.fresh h.loadedAt =
      (.ok (), { w.session with identity := reloaded ccfg file, connected := true }) ∧
    ((∃ k now, Server.Generated P k ∧ file = draft P ccfg k now) ∨
      ∃ k, Joined P ccfg scfg k (reloaded ccfg file) w.server.state.db) := by
  have hdial : ∀ file, w.session.identity.ensureLoaded P ccfg h.fresh h.loadedAt =
      (.ok (), reloaded ccfg file) → (reopened w.session).dial P ccfg h.fresh h.loadedAt =
        (.ok (), { w.session with identity := reloaded ccfg file, connected := true }) := by
    intro file hloaded
    rw [ClientSession.dial, show (reopened w.session).identity.ensureLoaded P ccfg h.fresh h.loadedAt = _ from
      hloaded]
    rfl
  cases hf with
  | blank hblank =>
    refine ⟨draft P ccfg h.fresh h.loadedAt, hdial _ ?_, Or.inl ⟨h.fresh, h.loadedAt, hfresh, rfl⟩⟩
    rw [hblank]
    exact ClientIdentity.ensureLoaded_first P ccfg h.fresh h.loadedAt
  | drafted k now hk hfile =>
    refine ⟨_, hdial _ (ensureLoaded_reloaded hfile ?_ h.fresh h.loadedAt), Or.inl ⟨k, now, hk, rfl⟩⟩
    exact List.ne_nil_of_mem (Table.mem_set.mpr (Or.inl rfl))
  | joined k file hfile hj =>
    exact ⟨file, hdial _ (ensureLoaded_reloaded hfile hj.bears.keys_ne h.fresh h.loadedAt), Or.inr ⟨k, hj⟩⟩

variable (P ccfg) in
lemma enroll_tended (ht : Tended P scfg w.server.state) (d : Server.Draw) :
    Tended P scfg (w.enroll P ccfg scfg .delivered d).2.server.state := by
  rw [World.enroll]
  split
  · exact ht
  · rename_i frame _
    have hserved := ht.handleFrame (P := P) frame d
    rw [World.transmit]
    dsimp only
    cases (w.server.handleFrame P scfg d frame).1 with
    | error exc => exact hserved
    | ok reply => exact hserved

lemma enrolled_unpromoted (params : RotationParams) {db : Database} {I : Uuid} {now : ℤ}
    (hget : db.credential I 1 = some (Database.enrolled params I 1 (P.ed25519Public k.ed25519)
      (P.x25519Public k.x25519) now))
    (hlone : ∀ v d, db.credential I v = some d → d.status.inWindow = true → v = 1)
    (hlast : ∀ v, db.credential I v ≠ none → v ≤ 1) :
    ∃ S, db.loadEngine params I = some S ∧ Unpromoted P I k S ∧ S.validating = none := by
  obtain ⟨S, hload, hwindow, hfirst, hidle⟩ := loadEngine_enrolled params hget rfl hlone
  refine ⟨S, hload, ⟨hwindow, Database.loadEngine_belongs hload, ⟨_, hfirst, rfl, rfl, rfl⟩, fun d hd => ?_⟩,
    hidle⟩
  refine Or.inl (hlast d.version ?_)
  rw [← Database.loadEngine_get hload, RotationEngine.get_of_mem hd]
  exact Option.some_ne_none d

lemma bears_enrolled (htoken : ccfg.enrollmentToken ≠ "") (hk : Server.Generated P k) :
    Bears P ccfg k (reloaded ccfg (draft P ccfg k now)).markEnrolled := by
  have hidentity : (ClientIdentity.start ccfg).identityUuid P ccfg = proxyUuid P ccfg := by
    rw [ClientIdentity.identityUuid, if_pos htoken]
    rfl
  let cred := provisioned ccfg.params
    (credentialOf P ((ClientIdentity.start ccfg).identityUuid P ccfg) 1 k) now
  have hrows : ∀ d ∈ (reloaded ccfg (draft P ccfg k now)).markEnrolled.engine.creds.rows, d = cred :=
    fun d hd => List.mem_singleton.mp hd
  refine ⟨rfl, rfl, ?_, hk, ?_, ?_, ⟨cred, rfl, rfl, rfl, rfl⟩, fun d hd => ?_⟩
  · exact (KeyMap.keysFor_add Table.empty 1 1 k).trans (if_pos rfl)
  · refine RotationEngine.windowInv_single (v := 1) fun d hd _ => ?_
    rw [hrows d hd]
    exact ⟨rfl, rfl⟩
  · intro d hd
    rw [hrows d hd]
    exact hidentity
  · rw [hrows d hd]
    exact Or.inl le_rfl

lemma enroll_drafted (ht : Tended P scfg w.server.state) (hk : Server.Generated P k)
    (hidentity : w.session.identity = reloaded ccfg (draft P ccfg k now)) (d : Server.Draw) :
    ((w.enroll P ccfg scfg .delivered d).1 ≠ .ok () ∧
      (w.enroll P ccfg scfg .delivered d).2.session = w.session) ∨
    ∃ info, (w.enroll P ccfg scfg .delivered d).1 = .ok () ∧ InUInt32 info.version ∧
      (w.enroll P ccfg scfg .delivered d).2.session = enrolledWith w.session info ∧
      Joined P ccfg scfg k w.session.identity.markEnrolled
        (w.enroll P ccfg scfg .delivered d).2.server.state.db := by
  rcases enroll_cases P ccfg scfg w .delivered d with
    hfailed | ⟨frame, reply, info, hframe, hreply, hkey, hdone⟩
  · exact Or.inl hfailed
  have hprovisional := provisional_draft ccfg now hk
  rw [← hidentity] at hprovisional
  obtain ⟨htoken, hchannel, body, hbody, hpayload⟩ := enrollFrame_done hprovisional hframe
  have hcontrol : w.server.handleFrame P scfg d frame =
      ((w.server.toTunnel2Server.handleControl P scfg d frame.payload).1,
        { w.server with toTunnel2Server :=
          (w.server.toTunnel2Server.handleControl P scfg d frame.payload).2 }) := by
    rw [Connection.handleFrame, if_pos hchannel]
  rw [hcontrol] at hreply
  obtain ⟨result, db, sc, henroll, hserved, _, hscVersion, hversion, _⟩ :=
    handleEnroll_done hpayload hbody rfl hreply hkey
  obtain ⟨hget, hlone⟩ := Database.enroll_usable henroll
  obtain ⟨hfirst, hlast, hknown⟩ := Database.enroll_last henroll
  obtain ⟨S, hload, hS, hidle⟩ := enrolled_unpromoted scfg.params hget hlone hlast
  refine Or.inr ⟨info, congrArg Prod.fst hdone, hversion ▸ hscVersion, ?_, htoken, ?_, ?_, ?_, ?_⟩
  · rw [hdone]
  · obtain ⟨v, hv, hrow⟩ := ht.registered
    intro hsame
    rw [hsame] at hrow
    have hbefore : v < 1 := hfirst v hrow
    omega
  · rw [hidentity]
    exact bears_enrolled htoken hk
  · rw [hdone, hcontrol, hserved]
    exact hknown
  · rw [hdone, hcontrol, hserved]
    exact ⟨S, hload, hS, fun _ => hidle⟩

structure Opened (P : Primitives) (ccfg : ClientConfig) (scfg : ServerConfig) (k : PrivateKeys)
    (w : World) : Prop where
  connected : w.session.connected = true
  rested : Rested P ccfg scfg w
  joined : Joined P ccfg scfg k w.session.identity w.server.state.db

lemma Rested.opens (hs : Rested P ccfg scfg w) (hfresh : Server.Generated P h.fresh) :
    ((w.openServerConnection P ccfg scfg h).1 ≠ .ok () ∧
      Rested P ccfg scfg (w.openServerConnection P ccfg scfg h).2) ∨
    ((w.openServerConnection P ccfg scfg h).1 = .ok () ∧
      ∃ k, Opened P ccfg scfg k (w.openServerConnection P ccfg scfg h).2) := by
  obtain ⟨file, hdial, ⟨k, now, hk, rfl⟩ | ⟨k, hj⟩⟩ := hs.filed.dial hfresh
  · have hopen : w.openServerConnection P ccfg scfg h =
        ({ w with session := { w.session with
          identity := reloaded ccfg (draft P ccfg k now), connected := true } } : World).enroll P ccfg scfg
            .delivered h.enrolling := by
      rw [World.openServerConnection, World.connect]
      dsimp only
      rw [hdial]
      rfl
    have htended := enroll_tended P ccfg (w := { w with session := { w.session with
      identity := reloaded ccfg (draft P ccfg k now), connected := true } }) hs.tended h.enrolling
    rw [hopen]
    rcases enroll_drafted (w := { w with session := { w.session with
      identity := reloaded ccfg (draft P ccfg k now), connected := true } }) hs.tended hk rfl h.enrolling with
      ⟨hfailed, hsession⟩ | ⟨info, hok, hversion, hsession, hj⟩
    · refine Or.inl ⟨hfailed, htended, ?_, ?_⟩
      · rw [hsession]
        exact hs.trackedVersion
      · rw [hsession]
        exact .drafted k now hk rfl
    · obtain ⟨file, hfile, hj'⟩ := hj.saved rfl
      refine Or.inr ⟨hok, k, ?_, ⟨htended, ?_, ?_⟩, ?_⟩
      · rw [hsession]
        rfl
      · rw [hsession]
        exact hversion
      · rw [hsession]
        exact .joined k file hfile hj'
      · rw [hsession]
        exact hj
  · have hopen : w.openServerConnection P ccfg scfg h = (.ok (), { w with session := { w.session with
        identity := reloaded ccfg file, connected := true } }) := by
      rw [World.openServerConnection, World.connect]
      dsimp only
      rw [hdial]
      exact if_pos hj.bears.enrolled
    rw [hopen]
    exact Or.inr ⟨rfl, k, rfl, ⟨hs.tended, hs.trackedVersion, .joined k file rfl hj⟩, hj⟩

end Connecting

section Runs

variable {P : Primitives} {ccfg : ClientConfig} {scfg : ServerConfig} {k : PrivateKeys} {w : World}

lemma Opened.leaves {w' : World} (ho : Opened P ccfg scfg k w) (hl : Leaves P ccfg scfg k w w') :
    Rested P ccfg scfg w' where
  tended := ho.rested.tended.of_identity hl.serverIdentity fun v hv => by
    rw [hl.touches.others _ ho.joined.other]
    exact hv
  trackedVersion := by
    rw [hl.serverKeys]
    exact ho.rested.trackedVersion
  filed := by
    rcases hl.identity with ⟨hidentity, hdb⟩ | ⟨hsave, hj⟩
    · rw [hidentity, hdb]
      exact ho.rested.filed
    · obtain ⟨file, hfile, hj'⟩ := hj.saved hsave
      exact .joined k file hfile hj'

lemma Opened.tunnelled {h : Handling} (ho : Opened P ccfg scfg k w) (hm : Manageable P ccfg scfg w h) :
    Tunnelled P ccfg scfg k w :=
  ⟨ho.connected, ho.rested.trackedVersion, ho.rested.tended.tracks hm.tracked, ho.joined⟩

lemma openServerConnection_eq (w : ProxyWorld) (h : Handling) : w.openServerConnection P ccfg scfg h =
    ((w.toWorld.openServerConnection P ccfg scfg h).1,
      { w with toWorld := (w.toWorld.openServerConnection P ccfg scfg h).2 }) := rfl

lemma Rested.connection (hP : Lawful P) (hlength : ∀ k, k.length = 32 → (P.ed25519Public k).length = 32)
    {w : ProxyWorld} {h : Handling} (hs : Rested P ccfg scfg w.toWorld)
    (hfair : Fair P ccfg scfg w (.connection h)) (hmanaged : Managed P ccfg scfg w (.connection h)) :
    (Completes P ccfg scfg w (.connection h) ↔ Unblocked P ccfg scfg w (.connection h)) ∧
      Rested P ccfg scfg (w.handle P ccfg scfg h).toWorld := by
  obtain ⟨hfresh, hconducive⟩ := hfair
  have hcases := hs.opens (h := h) hfresh
  simp only [Completes, Unblocked, Managed, ProxyWorld.handle, openServerConnection_eq] at hmanaged hconducive ⊢
  generalize w.toWorld.openServerConnection P ccfg scfg h = opened at hcases hmanaged hconducive ⊢
  obtain ⟨result, world⟩ := opened
  dsimp only at hcases hmanaged hconducive ⊢
  rcases hcases with ⟨hfailed, hrested⟩ | ⟨rfl, k, ho⟩
  · cases result with
    | error exc => exact ⟨iff_of_true (fun hok => (hfailed hok).elim) fun hok => (hfailed hok).elim, hrested⟩
    | ok u => exact (hfailed rfl).elim
  · have hm := hmanaged rfl
    have hburst := (ho.tunnelled hm).burst hP hlength (hconducive rfl) hm
    simp only [ProxyWorld.controlBurst]
    generalize world.controlBurst P ccfg scfg h = burst at hburst ⊢
    obtain ⟨result, world'⟩ := burst
    dsimp only at hburst ⊢
    obtain ⟨hleaves, ⟨hidle, entries, rfl, hloaded⟩ | ⟨hbusy, exc, rfl⟩⟩ := hburst
    · exact ⟨iff_of_true (fun _ => ⟨rfl, hloaded _⟩) fun _ => hidle, ho.leaves hleaves⟩
    · refine ⟨iff_of_false (fun hdone => ?_) fun hidle => hbusy (hidle trivial), ho.leaves hleaves⟩
      cases (hdone trivial).1

lemma Rested.step (hP : Lawful P) (hlength : ∀ k, k.length = 32 → (P.ed25519Public k).length = 32)
    {w : ProxyWorld} {e : ProxyEvent} (hs : Rested P ccfg scfg w.toWorld)
    (hfair : Fair P ccfg scfg w e) (hmanaged : Managed P ccfg scfg w e) :
    (Completes P ccfg scfg w e ↔ Unblocked P ccfg scfg w e) ∧
      Rested P ccfg scfg (proxyStep P ccfg scfg w e).toWorld := by
  cases e with
  | connection h => exact hs.connection hP hlength hfair hmanaged
  | restart =>
    refine ⟨iff_of_true trivial trivial, hs.tended, (show InUInt32 0 from ⟨by decide, by decide⟩), ?_⟩
    cases hs.filed with
    | blank h =>
      refine .blank ?_
      change ({ ClientIdentity.start ccfg with file := w.session.identity.file } : ClientIdentity) = _
      rw [h]
    | drafted k now hk hfile => exact .drafted k now hk hfile
    | joined k file hfile hj => exact .joined k file hfile hj
  | tick fresh successor now =>
    obtain ⟨hrotating, hspares, hpersists⟩ :=
      ServerState.maybeRotate_spares (P := P) hs.tended.rotating fresh successor now
    have hable : (w.server.state.maybeRotate P scfg fresh successor now).2.Able P := by
      rw [ServerState.maybeRotate_loaded hs.tended.rotating.loaded]
      exact hs.tended.able.rotate hfair now
    exact ⟨iff_of_true trivial trivial, hs.tended.next hrotating hable (hpersists scfg.serverUuid),
      hs.trackedVersion, hs.filed.spared fun hother => hspares (proxyUuid P ccfg) hother⟩
  | serve frame d =>
    exact ⟨iff_of_true trivial trivial, hs.tended.handleFrame frame d, hs.trackedVersion,
      hs.filed.spared fun _ => handleFrame_spares hfair⟩

lemma rested_start {db : Database} {keyFile : Option KeyMap} {k₀ : PrivateKeys} {t₀ : ℤ}
    (hk₀ : Server.Generated P k₀)
    (hdb : db.loadEngine scfg.params scfg.serverUuid = none)
    (hserver : w.server.state = ((ServerState.start scfg db keyFile).ensureLoaded P scfg k₀ t₀).2)
    (hsession : w.session = ClientSession.start ccfg) : Rested P ccfg scfg w where
  tended := by
    have hrotating := ServerState.rotating_first (P := P) db keyFile k₀ t₀ hdb
    have hable := ServerState.able_first db keyFile t₀ hk₀ hdb
    rw [← hserver] at hrotating hable
    refine ⟨hrotating, hable, 1, le_rfl, ?_⟩
    have hbelongs := hrotating.belongs
    rw [hserver, ServerState.ensureLoaded_first P scfg db keyFile k₀ t₀ hdb] at hbelongs ⊢
    rw [Database.credential_saveAll hbelongs, if_pos rfl]
    exact Option.some_ne_none _
  trackedVersion := by
    rw [hsession]
    exact (show InUInt32 0 from ⟨by decide, by decide⟩)
  filed := .blank (by rw [hsession]; rfl)

theorem bursts_complete_iff (P : Primitives) (hP : Lawful P)
    (hlength : ∀ k, k.length = 32 → (P.ed25519Public k).length = 32) (ccfg : ClientConfig)
    (scfg : ServerConfig) (db : Database) (keyFile : Option KeyMap) (k₀ : PrivateKeys) (t₀ : ℤ)
    (hk₀ : Server.Generated P k₀) (hdb : db.loadEngine scfg.params scfg.serverUuid = none) (w : ProxyWorld)
    (hserver : w.server.state = ((ServerState.start scfg db keyFile).ensureLoaded P scfg k₀ t₀).2)
    (hsession : w.session = ClientSession.start ccfg) (es : List ProxyEvent)
    (h : Along (proxyStep P ccfg scfg)
      (fun w e => Fair P ccfg scfg w e ∧ Managed P ccfg scfg w e) w es) :
    Along (proxyStep P ccfg scfg)
      (fun w e => Completes P ccfg scfg w e ↔ Unblocked P ccfg scfg w e) w es :=
  h.along (I := fun w => Rested P ccfg scfg w.toWorld)
    (fun _ _ hstep hs => hs.step hP hlength hstep.1 hstep.2) (rested_start hk₀ hdb hserver hsession)

end Runs

def Round.readings (r : Round) : List ℤ :=
  [r.client.identityNow, r.client.now, r.server.authNow, r.server.now, r.server.sentAt, r.client.laterNow]

def ProxyEvent.readings : ProxyEvent → List ℤ
  | .connection h => [h.loadedAt, h.enrolling.authNow, h.enrolling.now, h.enrolling.sentAt, h.askedAt] ++
      h.rotation.readings ++ h.settledAt :: (h.clients.readings ++ h.proxies.readings)
  | .tick _ _ now => [now]
  | .serve _ d => [d.authNow, d.now, d.sentAt]
  | .restart => []

section Demo

def demoProxy : ClientConfig := { demoClient with kind := .proxy }

def proxyConnection : Connection :=
  { demoConnection with
    state := ((ServerState.start demoServer (Database.empty.issueToken tagged "t" .enroll .proxy 3600 none
      (some 1000) 1000).2 none).ensureLoaded tagged demoServer (demoKeys 9) 1000).2 }

def proxyStart : ProxyWorld := ⟨⟨ClientSession.start demoProxy, proxyConnection⟩, ⟨[]⟩⟩

def handled (n : UInt8) (now : ℤ) : Handling where
  fresh := demoKeys 1
  loadedAt := now
  enrolling := (pacedRound n now now now).server
  askedAt := now
  rotation := pacedRound n now now now
  settledAt := now
  clients := pacedRound (n + 1) now now now
  proxies := pacedRound (n + 2) now now now

-- the second connection submits a successor
def earlierBursts : List ProxyEvent := [.connection (handled 1 1000), .connection (handled 4 44200)]

lemma earlier_premises : Along (proxyStep tagged demoProxy demoServer)
    (fun w e => Fair tagged demoProxy demoServer w e ∧ Managed tagged demoProxy demoServer w e)
    proxyStart earlierBursts := by
  have hpremises : let opened := proxyStart.openServerConnection tagged demoProxy demoServer (handled 1 1000)
      let reopened := (proxyStep tagged demoProxy demoServer proxyStart
        (.connection (handled 1 1000))).openServerConnection tagged demoProxy demoServer (handled 4 44200)
      (Conducive tagged demoProxy demoServer opened.2.toWorld (handled 1 1000) ∧
        Manageable tagged demoProxy demoServer opened.2.toWorld (handled 1 1000)) ∧
      Conducive tagged demoProxy demoServer reopened.2.toWorld (handled 4 44200) ∧
        Manageable tagged demoProxy demoServer reopened.2.toWorld (handled 4 44200) := by
    decide +kernel
  obtain ⟨⟨hfirst, hfirst'⟩, hsecond, hsecond'⟩ := hpremises
  exact ⟨⟨⟨by decide, fun _ => hfirst⟩, fun _ => hfirst'⟩, ⟨⟨by decide, fun _ => hsecond⟩, fun _ => hsecond'⟩,
    trivial⟩

theorem earlier_bursts_complete :
    Along (proxyStep tagged demoProxy demoServer)
      (fun w e => Completes tagged demoProxy demoServer w e ↔ Unblocked tagged demoProxy demoServer w e)
      proxyStart earlierBursts :=
  bursts_complete_iff tagged lawful_tagged (fun _ hk => hk) demoProxy demoServer _ none (demoKeys 9) 1000
    (by decide) rfl proxyStart rfl rfl earlierBursts earlier_premises

def thirdConnection : ProxyEvent := .connection (handled 7 44260)

def waiting : ProxyWorld := run (proxyStep tagged demoProxy demoServer) proxyStart earlierBursts

lemma waiting_blocked : Fair tagged demoProxy demoServer waiting thirdConnection ∧
    ¬ Completes tagged demoProxy demoServer waiting thirdConnection := by
  have hblocked : let opened := waiting.openServerConnection tagged demoProxy demoServer (handled 7 44260)
      Conducive tagged demoProxy demoServer opened.2.toWorld (handled 7 44260) ∧ opened.1 = .ok () ∧
        (opened.2.controlBurst tagged demoProxy demoServer (handled 7 44260)).1 ≠ .ok () := by
    decide +kernel
  obtain ⟨hconducive, hopened, hfails⟩ := hblocked
  exact ⟨⟨by decide, fun _ => hconducive⟩, fun hthird => hfails (hthird hopened).1⟩

-- one process and one clock: the third burst is refused, since nothing has promoted the successor
theorem third_burst_blocked :
    ¬ ∀ (P : Primitives), Lawful P → (∀ k, k.length = 32 → (P.ed25519Public k).length = 32) →
      ∀ (ccfg : ClientConfig) (scfg : ServerConfig) (db : Database) (keyFile : Option KeyMap)
        (k₀ : PrivateKeys) (t₀ : ℤ), Server.Generated P k₀ →
        db.loadEngine scfg.params scfg.serverUuid = none → ∀ w : ProxyWorld,
        w.server.state = ((ServerState.start scfg db keyFile).ensureLoaded P scfg k₀ t₀).2 →
        w.session = ClientSession.start ccfg → ∀ es : List ProxyEvent, (∀ e ∈ es, e ≠ .restart) →
        (es.flatMap ProxyEvent.readings).Pairwise (· ≤ ·) →
        Along (proxyStep P ccfg scfg) (fun w e => Fair P ccfg scfg w e) w es →
        Along (proxyStep P ccfg scfg) (fun w e => Completes P ccfg scfg w e) w es := by
  intro h
  have hearlier : Along (proxyStep tagged demoProxy demoServer)
      (fun w e => Fair tagged demoProxy demoServer w e) proxyStart earlierBursts := by
    obtain ⟨hfirst, hsecond, _⟩ := earlier_premises
    exact ⟨hfirst.1, hsecond.1, trivial⟩
  have hfair : Along (proxyStep tagged demoProxy demoServer)
      (fun w e => Fair tagged demoProxy demoServer w e) proxyStart (earlierBursts ++ [thirdConnection]) := by
    rw [along_append]
    exact ⟨hearlier, waiting_blocked.1, trivial⟩
  have hcompletes := h tagged lawful_tagged (fun _ hk => hk) demoProxy demoServer _ none (demoKeys 9) 1000
    (by decide) rfl proxyStart rfl rfl (earlierBursts ++ [thirdConnection])
    (by simp [earlierBursts, thirdConnection]) (by decide) hfair
  rw [along_append] at hcompletes
  exact waiting_blocked.2 hcompletes.2.1

end Demo

end Secupload.System
