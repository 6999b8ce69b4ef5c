import Secupload.Server.Continuity
import Secupload.System.Bystanders
import Secupload.System.Delivery
import Secupload.System.Restarts

namespace Secupload.System

open Library Shared Client Server Proxy
open Shared.RotationEngine (WindowInv submitted expired mem_of_byStatus get_of_mem get_eq_some mem_put)

structure Handling where
  fresh : PrivateKeys
  loadedAt : ℤ
  enrolling : Server.Draw
  askedAt : ℤ
  rotation : Round
  settledAt : ℤ
  clients : Round
  proxies : Round

def Handling.rounds (h : Handling) : List Round := [h.rotation, h.clients, h.proxies]

namespace World

variable (P : Primitives) (ccfg : ClientConfig) (scfg : ServerConfig) (w : World) (h : Handling)

-- a new ClientSession with the identity and the ServerKeyState of the tunnel, connected
def openServerConnection : Outcome World Unit :=
  { w with session := reopened w.session }.connect P ccfg scfg h.fresh h.loadedAt .delivered h.enrolling

-- `session.rotate()`, and `checkpoint()` of the identity
def rotateIdentity : Outcome World Unit :=
  (w.exchange P scfg (ClientSession.rotate P ccfg h.rotation.client) .delivered h.rotation.server).bind
    fun _ w =>
      let (result, identity) := w.session.identity.checkpoint h.settledAt
      (result, { w with session := w.session.withIdentity identity })

def syncRegistry (kind : IdentityKind) (r : Round) : Outcome World (List RegistryEntry) :=
  (w.exchange P scfg (ClientSession.syncRegistry P ccfg r.client kind) .delivered r.server).bind
    fun answer w =>
      match answer with
      | .entries entries => (.ok entries, w)
      | _ => (.ok [], w)

def syncRegistries : Outcome World (List RegistryEntry) :=
  (w.syncRegistry P ccfg scfg .client h.clients).bind fun clientEntries w =>
    (w.syncRegistry P ccfg scfg .proxy h.proxies).bind fun proxyEntries w =>
      (.ok (clientEntries ++ proxyEntries), w)

-- the entries that `_control_burst` puts into the cache
def controlBurst : Outcome World (List RegistryEntry) :=
  match w.session.identity.shouldRotate ccfg h.askedAt with
  | .error exc => (.error exc, w)
  | .ok false => w.syncRegistries P ccfg scfg h
  | .ok true => (w.rotateIdentity P ccfg scfg h).bind fun _ w => w.syncRegistries P ccfg scfg h

end World

structure ProxyWorld extends World where
  cache : RegistryCache

namespace ProxyWorld

variable (P : Primitives) (ccfg : ClientConfig) (scfg : ServerConfig) (w : ProxyWorld) (h : Handling)

def openServerConnection : Outcome ProxyWorld Unit :=
  let (result, world) := w.toWorld.openServerConnection P ccfg scfg h
  (result, { w with toWorld := world })

def controlBurst : Outcome ProxyWorld Unit :=
  match w.toWorld.controlBurst P ccfg scfg h with
  | (.error exc, world) => (.error exc, { w with toWorld := world })
  | (.ok entries, world) => (.ok (), ⟨world, w.cache.update entries⟩)

-- `handle`, which logs what the two raise; the frames that it then splices come from the client
def handle : ProxyWorld :=
  match w.openServerConnection P ccfg scfg h with
  | (.error _, w) => w
  | (.ok (), w) => (w.controlBurst P ccfg scfg h).2

end ProxyWorld

inductive ProxyEvent
  | connection (h : Handling)
  | restart
  | tick (fresh successor : PrivateKeys) (now : ℤ)
  | serve (frame : Frame) (d : Server.Draw)

def proxyStep (P : Primitives) (ccfg : ClientConfig) (scfg : ServerConfig) (w : ProxyWorld) :
    ProxyEvent → ProxyWorld
  | .connection h => w.handle P ccfg scfg h
  | .restart => ⟨⟨restarted ccfg w.session, w.server⟩, ⟨[]⟩⟩
  | .tick fresh successor now =>
    { w with server := { w.server with
        state := (w.server.state.maybeRotate P scfg fresh successor now).2 } }
  | .serve frame d => { w with server := (w.server.handleFrame P scfg d frame).2 }

structure Unpromoted (P : Primitives) (I : Uuid) (k : PrivateKeys) (e : RotationEngine) : Prop where
  window : WindowInv e
  belongs : e.BelongsTo I
  first : ∃ a, e.get 1 = some a ∧ a.status = .active ∧ k.Match P a
  rest : ∀ d ∈ e.creds.rows, d.version ≤ 1 ∨ d.status = .validating

section Unpromoted

variable {P : Primitives} {I : Uuid} {k : PrivateKeys} {e e' : RotationEngine} {n : CredentialPublic}
  {signature metadata : Bytes} {now : ℤ}

lemma Unpromoted.congr (h : Unpromoted P I k e) (hrows : ∀ d, d ∈ e'.creds.rows ↔ d ∈ e.creds.rows) :
    Unpromoted P I k e' where
  window := h.window.congr hrows
  belongs := fun d hd => h.belongs d ((hrows d).mp hd)
  first := by
    rw [RotationEngine.get_congr hrows]
    exact h.first
  rest := fun d hd => h.rest d ((hrows d).mp hd)

lemma Unpromoted.current (h : Unpromoted P I k e) : ∃ a, e.active = some a ∧ e.get 1 = some a ∧
    a.version = 1 ∧ a.identityUuid = I ∧ a.status = .active ∧ k.Match P a := by
  obtain ⟨a, ha, hs, hmatch⟩ := h.first
  obtain ⟨hmem, hv⟩ := get_eq_some.mp ha
  have hactive := h.window.byStatus_of_get ha (by rw [hs]; rfl)
  rw [hs] at hactive
  exact ⟨a, hactive, ha, hv, h.belongs a hmem, hs, hmatch⟩

lemma Unpromoted.newest (h : Unpromoted P I k e) (hidle : e.validating = none) :
    ∀ d ∈ e.creds.rows, d.version ≤ 1 := fun d hd =>
  (h.rest d hd).resolve_right (RotationEngine.byStatus_eq_none.mp hidle d hd)

lemma Unpromoted.submittable (hP : Lawful P) (h : Unpromoted P I k e) (hk : k.ed25519.length = 32)
    (hidle : e.validating = none) (hlive : ∀ a ∈ e.active, expired a now = false)
    (hversion : n.version = 2) (hidentity : n.identityUuid = I) {payload : Bytes}
    (hpayload : encodeSuccessorPayload I 1 n.version n.ed25519Public n.x25519Public metadata = .ok payload) :
    e.Submittable P n (signEd25519 P k.ed25519 payload) metadata now := by
  obtain ⟨a, hactive, _, hv, hI, _, hmatch⟩ := h.current
  refine submittable_of_newest hP h.window hactive hidle ?_ (hlive a hactive) hk hmatch ?_
    (hidentity.trans hI.symm) ?_
  · rw [hv]
    exact h.newest hidle
  · rw [hversion, hv]
    rfl
  · rw [hI, hv]
    exact hpayload

lemma Unpromoted.submitted (h : Unpromoted P I k e) (hsubmit : e.Submittable P n signature metadata now)
    (hversion : n.version = 2) (hidentity : n.identityUuid = I) :
    Unpromoted P I k (e.put (submitted e.params n now)) where
  window := hsubmit.window h.window
  belongs := h.belongs.put hidentity
  first := by
    rw [RotationEngine.get_put, if_neg (by rw [RotationEngine.submitted, hversion]; decide)]
    exact h.first
  rest := by
    intro d hd
    rcases mem_put.mp hd with rfl | ⟨hd, _⟩
    · exact Or.inr rfl
    · exact h.rest d hd

end Unpromoted

def proxyUuid (P : Primitives) (ccfg : ClientConfig) : Uuid :=
  Tunnel2Server.tokenIdentity P ccfg.enrollmentToken ccfg.kind

structure Bears (P : Primitives) (ccfg : ClientConfig) (k : PrivateKeys) (c : ClientIdentity) : Prop where
  enrolled : c.enrolled = true
  params : c.engine.params = ccfg.params
  keys : c.keys.keysFor 1 = some k
  generated : Server.Generated P k
  engine : Unpromoted P (proxyUuid P ccfg) k c.engine

-- what `ensure_loaded` makes of an identity file
def reloaded (ccfg : ClientConfig) (file : IdentityFile) : ClientIdentity where
  engine := RotationEngine.load ccfg.params (ClientIdentity.loadedCredentials file)
  keys := file.keys
  enrolled := file.enrolled
  file := some file

section Bears

variable {P : Primitives} {ccfg : ClientConfig} {k k' : PrivateKeys} {c : ClientIdentity} {now : ℤ}
  {a v : CredentialPublic}

lemma ensureLoaded_reloaded {file : IdentityFile} (hfile : c.file = some file) (hkeys : file.keys.rows ≠ [])
    (k : PrivateKeys) (now : ℤ) : c.ensureLoaded P ccfg k now = (.ok (), reloaded ccfg file) := by
  rw [ClientIdentity.ensureLoaded_file hfile hkeys, hfile]
  rfl

lemma Bears.keys_ne (h : Bears P ccfg k c) : c.keys.rows ≠ [] := by
  intro hnil
  have hkeys := h.keys
  rw [KeyMap.keysFor, Table.get?, hnil] at hkeys
  cases hkeys

lemma Bears.saved (h : Bears P ccfg k c) : ∃ file, c.save.file = some file ∧
    Bears P ccfg k (reloaded ccfg file) ∧
    ((reloaded ccfg file).engine.validating = none → c.engine.validating = none) := by
  have hrows : ∀ d, d ∈ (c.save.stored ccfg).creds.rows ↔ d ∈ c.engine.creds.rows :=
    ClientIdentity.mem_stored_save h.engine.belongs
  refine ⟨_, rfl, ⟨h.enrolled, rfl, h.keys, h.generated, h.engine.congr hrows⟩, fun hidle => ?_⟩
  refine RotationEngine.byStatus_eq_none.mpr fun d hd => ?_
  exact RotationEngine.byStatus_eq_none.mp hidle d ((hrows d).mpr hd)

lemma checkpoint_early (hv : c.engine.validating = some v) (hearly : now < v.validationDeadline.getD 0) :
    c.checkpoint now = (.ok (), c) := by
  simp only [ClientIdentity.checkpoint, hv, Holder.checkpoint, RotationEngine.checkpoint, if_pos hearly]
  rfl

lemma generateSuccessor_blocked (hbusy : c.engine.validating ≠ none) (k' : PrivateKeys) (now : ℤ) :
    ∃ exc, c.generateSuccessor P k' now = (.error exc, c) := by
  rcases ClientIdentity.generateSuccessor_cases P c k' now with
    hrefused | ⟨_, _, _, _, _, _, ⟨_, _, _, _, hidle, _⟩, _⟩
  · exact hrefused
  · exact (hbusy hidle).elim

lemma Bears.generates (hP : Lawful P) (hlength : ∀ k, k.length = 32 → (P.ed25519Public k).length = 32)
    (h : Bears P ccfg k c) (hidle : c.engine.validating = none)
    (hlive : ∀ a ∈ c.engine.active, expired a now = false) (hk' : Server.Generated P k') :
    ∃ a payload, c.engine.active = some a ∧ a.version = 1 ∧
      encodeSuccessorPayload (proxyUuid P ccfg) 1 2 (P.ed25519Public k'.ed25519)
        (P.x25519Public k'.x25519) [] = .ok payload ∧ payload.length = 115 ∧
      c.generateSuccessor P k' now = (.ok (credentialOf P (proxyUuid P ccfg) 2 k',
        signEd25519 P k.ed25519 payload, payload), c.submittedBy P a k' now) ∧
      Bears P ccfg k (c.submittedBy P a k' now) ∧
      (c.submittedBy P a k' now).engine.validating =
        some (submitted ccfg.params (credentialOf P (proxyUuid P ccfg) 2 k') now) := by
  obtain ⟨a, hactive, _, hv, hI, _, _⟩ := h.engine.current
  obtain ⟨payload, hpayload, hpayloadLength⟩ := encodeSuccessorPayload_writes (proxyUuid P ccfg)
    (show (0 : ℤ) ≤ 1 ∧ (1 : ℤ) < 2 ^ 32 by decide) (show (0 : ℤ) ≤ 2 ∧ (2 : ℤ) < 2 ^ 32 by decide)
    (hlength k'.ed25519 hk'.1) (hP.x25519_length k'.x25519 hk'.2)
  have hsubmit : c.engine.Submittable P (credentialOf P (proxyUuid P ccfg) 2 k')
      (signEd25519 P k.ed25519 payload) [] now :=
    h.engine.submittable hP h.generated.1 hidle hlive rfl rfl hpayload
  have hgenerate : c.generateSuccessor P k' now = (.ok (credentialOf P (proxyUuid P ccfg) 2 k',
      signEd25519 P k.ed25519 payload, payload), c.submittedBy P a k' now) := by
    have hholder : c.toHolder.generateSuccessor P a.identityUuid a k' now = _ :=
      Holder.generateSuccessor_ok (k := k') (by rw [hv]; exact h.keys) (by rw [hv, hI]; exact hpayload)
        (by rw [hv, hI]; exact hsubmit)
    rw [ClientIdentity.generateSuccessor, ClientIdentity.current, hactive]
    dsimp only
    rw [hholder, hI, hv]
    dsimp only
    rw [ClientIdentity.submittedBy, hI, hv]
    rfl
  have hengine : (c.submittedBy P a k' now).engine =
      c.engine.put (submitted c.engine.params (credentialOf P (proxyUuid P ccfg) 2 k') now) := by
    rw [ClientIdentity.submittedBy, hI, hv]
    rfl
  have hunpromoted := h.engine.submitted hsubmit rfl rfl
  refine ⟨a, payload, hactive, hv, hpayload, hpayloadLength, hgenerate,
    ⟨h.enrolled, ?_, ?_, h.generated, ?_⟩, ?_⟩
  · rw [hengine]
    exact h.params
  · have hkeys : (c.submittedBy P a k' now).keys = c.keys.add (a.version + 1) k' := rfl
    rw [hkeys, KeyMap.keysFor_add, if_neg (by rw [hv]; decide)]
    exact h.keys
  · rw [hengine]
    exact hunpromoted
  · rw [hengine, ← h.params]
    exact hunpromoted.window.byStatus_of_get ((RotationEngine.get_put _).trans (if_pos rfl)) rfl

end Bears

structure Joined (P : Primitives) (ccfg : ClientConfig) (scfg : ServerConfig) (k : PrivateKeys)
    (c : ClientIdentity) (db : Database) : Prop where
  token : ccfg.enrollmentToken ≠ ""
  other : scfg.serverUuid ≠ proxyUuid P ccfg
  bears : Bears P ccfg k c
  known : db.identityKind (proxyUuid P ccfg) ≠ none
  registered : ∃ S, db.loadEngine scfg.params (proxyUuid P ccfg) = some S ∧
    Unpromoted P (proxyUuid P ccfg) k S ∧ (c.engine.validating = none → S.validating = none)

structure Tunnelled (P : Primitives) (ccfg : ClientConfig) (scfg : ServerConfig) (k : PrivateKeys)
    (w : World) : Prop where
  connected : w.session.connected = true
  trackedVersion : InUInt32 w.session.serverKeys.version
  tracks : Tracks P w.session w.server.state
  joined : Joined P ccfg scfg k w.session.identity w.server.state.db

structure Usual (P : Primitives) (r : Round) : Prop extends Drawn P r where
  now : InInt64 r.client.now ∧ timestampOk r.client.now r.server.authNow = true
  time : InInt64 r.client.time ∧ timestampOk r.client.time r.server.authNow = true
  sentAt : InInt64 r.server.sentAt

instance (P : Primitives) (r : Round) : Decidable (Usual P r) :=
  decidable_of_iff ((r.client.nonce.length = nonceSize ∧ P.x25519Loads r.client.ephemeral = true ∧
      r.server.nonce.length = nonceSize ∧ P.x25519Loads r.server.ephemeral = true) ∧
    (InInt64 r.client.now ∧ timestampOk r.client.now r.server.authNow = true) ∧
    (InInt64 r.client.time ∧ timestampOk r.client.time r.server.authNow = true) ∧ InInt64 r.server.sentAt)
    ⟨fun ⟨⟨hnonce, hephemeral, hserverNonce, hserverEphemeral⟩, hnow, htime, hsentAt⟩ =>
      ⟨⟨hnonce, hephemeral, hserverNonce, hserverEphemeral⟩, hnow, htime, hsentAt⟩,
      fun h => ⟨⟨h.nonce, h.ephemeral, h.serverNonce, h.serverEphemeral⟩, h.now, h.time, h.sentAt⟩⟩

structure Welcome (P : Primitives) (ccfg : ClientConfig) (scfg : ServerConfig) (conn : Connection)
    (r : Round) : Prop where
  usual : Usual P r
  fresh : (proxyUuid P ccfg).bytes ++ r.client.nonce ∉ conn.auth.replay.entries
  live : ∀ S ∈ conn.state.db.loadEngine scfg.params (proxyUuid P ccfg), ∀ row ∈ S.active,
    expired row r.server.authNow = false

instance (P : Primitives) (ccfg : ClientConfig) (scfg : ServerConfig) (conn : Connection) (r : Round) :
    Decidable (Welcome P ccfg scfg conn r) :=
  decidable_of_iff (Usual P r ∧
    conn.auth.replay.entries.contains ((proxyUuid P ccfg).bytes ++ r.client.nonce) = false ∧
    ∀ S ∈ conn.state.db.loadEngine scfg.params (proxyUuid P ccfg), ∀ row ∈ S.active,
      expired row r.server.authNow = false)
    ⟨fun ⟨husual, hfresh, hlive⟩ => ⟨husual, by simpa using hfresh, hlive⟩,
      fun h => ⟨h.usual, by simpa using h.fresh, h.live⟩⟩

section Syncing

variable {P : Primitives} {ccfg : ClientConfig} {scfg : ServerConfig} {k : PrivateKeys} {w : World}
  {r : Round} {h : Handling} {kind : IdentityKind}

lemma Joined.identityUuid {c : ClientIdentity} {db : Database} (hj : Joined P ccfg scfg k c db)
    (c' : ClientIdentity) : c'.identityUuid P ccfg = proxyUuid P ccfg := by
  rw [ClientIdentity.identityUuid, if_pos hj.token]
  rfl

lemma Tunnelled.enrolled (ht : Tunnelled P ccfg scfg k w) : ∃ p, Enrolled P ccfg p w.session w.server.state ∧
    p.cred.version = 1 ∧ p.keys = k ∧ ∃ S,
      w.server.state.db.loadEngine scfg.params (proxyUuid P ccfg) = some S ∧ S.active = some p.row := by
  obtain ⟨S, hload, hS, _⟩ := ht.joined.registered
  obtain ⟨a, hactive, _, hv, _⟩ := ht.joined.bears.engine.current
  obtain ⟨row, hrow, hget, _, _, hstatus, hmatch⟩ := hS.current
  obtain ⟨⟨sc, hsc, hscVersion⟩, sk, hsk, hskLoads, htracked⟩ := ht.tracks
  have hidentity := ht.joined.identityUuid w.session.identity
  have hcurrent : w.session.identity.current = .ok a := by rw [ClientIdentity.current, hactive]
  refine ⟨⟨a, k, row, sc, sk⟩, ?_, hv, rfl, S, hload, hrow⟩
  refine
    { connected := ht.connected
      current := hcurrent
      currentKeys := ?_
      version := ?_
      ed25519 := ht.joined.bears.generated.1
      x25519 := ht.joined.bears.generated.2
      row := ?_
      owns := hmatch
      status := Or.inl hstatus
      kind := ?_
      serverCred := hsc
      serverKeys := hsk
      serverVersion := hscVersion
      serverX25519 := hskLoads
      tracked := htracked
      trackedVersion := ht.trackedVersion }
  · rw [ClientIdentity.currentKeys, hcurrent, except_ok_bind, ClientIdentity.keysFor, hv,
      ht.joined.bears.keys]
  · rw [hv]
    exact ⟨by decide, by decide⟩
  · rw [hidentity, hv, ← Database.loadEngine_get hload]
    exact hget
  · rw [hidentity]
    exact Option.isSome_iff_ne_none.mpr ht.joined.known

lemma Welcome.timely {p : Parties} (hr : Welcome P ccfg scfg w.server r) {S : RotationEngine}
    (hload : w.server.state.db.loadEngine scfg.params (proxyUuid P ccfg) = some S)
    (hrow : S.active = some p.row) : Timely P p r where
  nonce := hr.usual.nonce
  ephemeral := hr.usual.ephemeral
  serverNonce := hr.usual.serverNonce
  serverEphemeral := hr.usual.serverEphemeral
  now := hr.usual.now
  time := hr.usual.time
  sentAt := hr.usual.sentAt
  unexpired := hr.live S hload p.row hrow

lemma Tunnelled.replayKey (ht : Tunnelled P ccfg scfg k w) (d : Client.Draw) (version : ℤ) :
    (w.session.header P ccfg d .control version d.now).replayKey =
      (proxyUuid P ccfg).bytes ++ d.nonce := by
  rw [Envelope.replayKey, envelopeReplayKey, ClientSession.header, ht.joined.identityUuid]

lemma Tunnelled.sync (hP : Lawful P) (ht : Tunnelled P ccfg scfg k w) (hr : Welcome P ccfg scfg w.server r)
    (hannounces : Announces w.server.state.db kind) :
    ∃ env : Envelope, env.replayKey = (proxyUuid P ccfg).bytes ++ r.client.nonce ∧
      w.syncRegistry P ccfg scfg kind r =
        (.ok ((w.server.state.db.publicEntries kind).map registryEntryFromPublic),
          ⟨w.session, served w.server env w.server.state.db⟩) := by
  obtain ⟨p, he, _, _, S, hload, hrow⟩ := ht.enrolled
  obtain ⟨env, hkey, hexchange⟩ := syncRegistry_delivered hP he (hr.timely hload hrow)
    (by rw [ht.replayKey]; exact hr.fresh) hannounces
  refine ⟨env, hkey.trans (ht.replayKey _ _), ?_⟩
  rw [World.syncRegistry, hexchange]
  rfl

lemma Welcome.later {env : Envelope} {r' : Round} {db : Database} (hr : Welcome P ccfg scfg w.server r)
    (hkey : env.replayKey = (proxyUuid P ccfg).bytes ++ r'.client.nonce)
    (hnonce : r'.client.nonce ≠ r.client.nonce)
    (hlive : ∀ S ∈ db.loadEngine scfg.params (proxyUuid P ccfg), ∀ row ∈ S.active,
      expired row r.server.authNow = false) : Welcome P ccfg scfg (served w.server env db) r where
  usual := hr.usual
  fresh := by
    intro hseen
    rcases Lru.mem_of_mem_touch hseen with hsame | hold
    · rw [hkey] at hsame
      exact hnonce (List.append_cancel_left hsame).symm
    · exact hr.fresh hold
  live := hlive

-- the kinds whose snapshots a burst asks for
def syncedKinds : List IdentityKind := [.client, .proxy]

lemma loaded_announced {db : Database} (hannounces : ∀ kind ∈ syncedKinds, Announces db kind) (cache : RegistryCache) :
    loaded db cache = .ok (cache.update ((db.publicEntries .client).map registryEntryFromPublic ++
      (db.publicEntries .proxy).map registryEntryFromPublic)) := by
  rw [loaded, (hannounces .client (by decide)).snapshotOf, except_ok_bind,
    (hannounces .proxy (by decide)).snapshotOf, except_ok_bind]
  rfl

lemma Tunnelled.syncs (hP : Lawful P) (ht : Tunnelled P ccfg scfg k w)
    (hclients : Welcome P ccfg scfg w.server h.clients) (hproxies : Welcome P ccfg scfg w.server h.proxies)
    (hnonce : h.clients.client.nonce ≠ h.proxies.client.nonce)
    (hannounces : ∀ kind ∈ syncedKinds, Announces w.server.state.db kind) :
    ∃ entries server, w.syncRegistries P ccfg scfg h = (.ok entries, ⟨w.session, server⟩) ∧
      server.state = w.server.state ∧
      ∀ cache, loaded server.state.db cache = .ok (cache.update entries) := by
  obtain ⟨env, hkey, hclient⟩ := ht.sync hP hclients (hannounces .client (by decide))
  have ht' : Tunnelled P ccfg scfg k ⟨w.session, served w.server env w.server.state.db⟩ :=
    ⟨ht.connected, ht.trackedVersion, ht.tracks, ht.joined⟩
  obtain ⟨env', _, hproxy⟩ := ht'.sync hP (hproxies.later hkey hnonce hproxies.live)
    (hannounces .proxy (by decide))
  let entries := fun kind => (w.server.state.db.publicEntries kind).map registryEntryFromPublic
  refine ⟨entries .client ++ entries .proxy,
    served (served w.server env w.server.state.db) env' w.server.state.db, ?_, rfl, fun cache => ?_⟩
  · rw [World.syncRegistries, hclient]
    simp only [Outcome.bind]
    rw [hproxy]
    rfl
  · exact loaded_announced hannounces cache

end Syncing

section Rotating

variable {P : Primitives} {ccfg : ClientConfig} {scfg : ServerConfig} {k : PrivateKeys} {w : World}
  {h : Handling} {params : RotationParams} {db : Database} {I : Uuid} {S : RotationEngine} {now : ℤ}

lemma submission_taken {ed25519Public x25519Public payload : Bytes} (hP : Lawful P)
    (hload : db.loadEngine params I = some S) (hS : Unpromoted P I k S) (hk : k.ed25519.length = 32)
    (hidle : S.validating = none) (hlive : ∀ row ∈ S.active, expired row now = false)
    (hpayload : encodeSuccessorPayload I 1 2 ed25519Public x25519Public [] = .ok payload) :
    let row := submitted params (newCredential I 2 ed25519Public x25519Public) now
    ∃ db', db.handleAction P params .rotateSubmit I (payload ++ signEd25519 P k.ed25519 payload) now =
        (.ok okResponse, db') ∧ Database.Touches I db db' ∧ db'.loadEngine params I = some (S.put row) ∧
      Unpromoted P I k (S.put row) ∧ ∀ J v, db'.credential J v = (db.savePublic row).credential J v := by
  intro row
  have hsignature : (signEd25519 P k.ed25519 payload).length = ed25519SignatureSize :=
    hP.signature_length k.ed25519 payload
  have hsubmit : S.Submittable P (newCredential I 2 ed25519Public x25519Public)
      (signEd25519 P k.ed25519 payload) [] now := hS.submittable hP hk hidle hlive rfl rfl hpayload
  have hparams : S.params = params := (Database.loadEngine_rows hload).1
  obtain ⟨db', he, hload'⟩ := submission_stored hload hsignature hpayload hsubmit
  have htouches := Database.handleAction_touches P params db .rotateSubmit I
    (payload ++ signEd25519 P k.ed25519 payload) now
  rw [Database.handleAction, he] at htouches
  have hunpromoted := hS.submitted hsubmit rfl rfl
  rw [hparams] at hunpromoted
  refine ⟨db', he, htouches, hload', hunpromoted, fun J v => ?_⟩
  rw [Database.credential_savePublic]
  by_cases hJ : I = J
  · subst hJ
    rw [← Database.loadEngine_get hload', RotationEngine.get_put, Database.loadEngine_get hload]
    by_cases hv : row.version = v
    · rw [if_pos hv, if_pos ⟨rfl, hv⟩]
    · rw [if_neg hv, if_neg fun h => hv h.2]
  · rw [if_neg fun h => hJ h.1]
    exact htouches.others J (Ne.symm hJ) v

lemma active_submitted {row : CredentialPublic} (hS : Unpromoted P I k S)
    (hS' : Unpromoted P I k (S.put row)) (hrow : row.version = 2) : (S.put row).active = S.active := by
  obtain ⟨a, hactive, hget, _⟩ := hS.current
  obtain ⟨a', hactive', hget', _⟩ := hS'.current
  rw [RotationEngine.get_put, if_neg (by rw [hrow]; decide), hget] at hget'
  rw [hactive', hactive, hget']

def World.registryAfter (P : Primitives) (ccfg : ClientConfig) (scfg : ServerConfig) (w : World)
    (h : Handling) : Database :=
  match w.session.identity.shouldRotate ccfg h.askedAt, w.session.identity.current with
  | .ok true, .ok active => w.server.state.db.savePublic (submitted scfg.params
      (newCredential active.identityUuid (active.version + 1)
        (P.ed25519Public h.rotation.client.successor.ed25519)
        (P.x25519Public h.rotation.client.successor.x25519)) h.rotation.server.now)
  | _, _ => w.server.state.db

structure Conducive (P : Primitives) (ccfg : ClientConfig) (scfg : ServerConfig) (w : World)
    (h : Handling) : Prop where
  welcome : ∀ r ∈ h.rounds, Welcome P ccfg scfg w.server r
  nonces : (h.rounds.map (·.client.nonce)).Nodup
  successor : Server.Generated P h.rotation.client.successor
  own : ∀ a ∈ w.session.identity.engine.active, expired a h.rotation.client.identityNow = false
  row : ∀ S ∈ w.server.state.db.loadEngine scfg.params (proxyUuid P ccfg), ∀ row ∈ S.active,
    expired row h.rotation.server.now = false

instance (P : Primitives) (ccfg : ClientConfig) (scfg : ServerConfig) (w : World) (h : Handling) :
    Decidable (Conducive P ccfg scfg w h) :=
  decidable_of_iff ((∀ r ∈ h.rounds, Welcome P ccfg scfg w.server r) ∧
    (h.rounds.map (·.client.nonce)).Nodup ∧ Server.Generated P h.rotation.client.successor ∧
    (∀ a ∈ w.session.identity.engine.active, expired a h.rotation.client.identityNow = false) ∧
    ∀ S ∈ w.server.state.db.loadEngine scfg.params (proxyUuid P ccfg), ∀ row ∈ S.active,
      expired row h.rotation.server.now = false)
    ⟨fun ⟨hwelcome, hnonces, hsuccessor, hown, hrow⟩ => ⟨hwelcome, hnonces, hsuccessor, hown, hrow⟩,
      fun h => ⟨h.welcome, h.nonces, h.successor, h.own, h.row⟩⟩

-- the tracked key is the ACTIVE one of the server, the proxy does not promote its successor before
-- the burst ends, and the snapshots fit into frames
structure Manageable (P : Primitives) (ccfg : ClientConfig) (scfg : ServerConfig) (w : World)
    (h : Handling) : Prop where
  tracked : ∀ c ∈ w.server.state.identity.engine.active,
    w.session.serverKeys.x25519Public = c.x25519Public
  early : w.session.identity.shouldRotate ccfg h.askedAt = .ok true →
    h.rotation.client.laterNow < ccfg.params.validationDeadlineFrom h.rotation.client.identityNow ∧
      h.settledAt < ccfg.params.validationDeadlineFrom h.rotation.client.identityNow
  announces : ∀ kind ∈ syncedKinds, Announces (w.registryAfter P ccfg scfg h) kind

instance (P : Primitives) (ccfg : ClientConfig) (scfg : ServerConfig) (w : World) (h : Handling) :
    Decidable (Manageable P ccfg scfg w h) :=
  decidable_of_iff ((∀ c ∈ w.server.state.identity.engine.active,
      w.session.serverKeys.x25519Public = c.x25519Public) ∧
    (w.session.identity.shouldRotate ccfg h.askedAt = .ok true →
      h.rotation.client.laterNow < ccfg.params.validationDeadlineFrom h.rotation.client.identityNow ∧
        h.settledAt < ccfg.params.validationDeadlineFrom h.rotation.client.identityNow) ∧
    ∀ kind ∈ syncedKinds, Announces (w.registryAfter P ccfg scfg h) kind)
    ⟨fun ⟨htracked, hearly, hannounces⟩ => ⟨htracked, hearly, hannounces⟩,
      fun h => ⟨h.tracked, h.early, h.announces⟩⟩

-- no successor of an earlier burst waits for its promotion when the next one is due
def Idle (ccfg : ClientConfig) (w : World) (h : Handling) : Prop :=
  w.session.identity.shouldRotate ccfg h.askedAt = .ok true → w.session.identity.engine.validating = none

lemma Tunnelled.rotates (hP : Lawful P) (hlength : ∀ k, k.length = 32 → (P.ed25519Public k).length = 32)
    (ht : Tunnelled P ccfg scfg k w) (hc : Conducive P ccfg scfg w h) (hm : Manageable P ccfg scfg w h)
    (hdue : w.session.identity.shouldRotate ccfg h.askedAt = .ok true)
    (hidle : w.session.identity.engine.validating = none) :
    ∃ (c : ClientIdentity) (env : Envelope) (db' : Database),
      w.rotateIdentity P ccfg scfg h = (.ok (), ⟨w.session.withIdentity c, served w.server env db'⟩) ∧
      c.save = c ∧ Joined P ccfg scfg k c db' ∧ Database.Touches (proxyUuid P ccfg) w.server.state.db db' ∧
      env.replayKey = (proxyUuid P ccfg).bytes ++ h.rotation.client.nonce ∧
      (∀ S' ∈ db'.loadEngine scfg.params (proxyUuid P ccfg),
        ∃ S ∈ w.server.state.db.loadEngine scfg.params (proxyUuid P ccfg), S'.active = S.active) ∧
      ∀ kind ∈ syncedKinds, Announces db' kind := by
  obtain ⟨hlater, hsettled⟩ := hm.early hdue
  obtain ⟨S, hload, hS, hlink⟩ := ht.joined.registered
  obtain ⟨a, payload, hactive, hv, hpayload, hpayloadLength, hgenerate, hbears, hvalidating⟩ :=
    ht.joined.bears.generates hP hlength hidle hc.own hc.successor
  generalize hsubmitted : w.session.identity.submittedBy P a h.rotation.client.successor
    h.rotation.client.identityNow = c at hgenerate hbears hvalidating
  have hsave : c.save = c := by
    rw [← hsubmitted]
    rfl
  obtain ⟨db', haction, htouches, hload', hS', hcredential⟩ := submission_taken hP hload hS
    ht.joined.bears.generated.1 (hlink hidle) (hc.row S hload) hpayload
  have hearly : ∀ {now}, now < ccfg.params.validationDeadlineFrom h.rotation.client.identityNow →
      c.checkpoint now = (.ok (), c) := fun hnow => checkpoint_early hvalidating hnow
  have hjoined : Joined P ccfg scfg k c w.server.state.db := by
    refine ⟨ht.joined.token, ht.joined.other, hbears, ht.joined.known, S, hload, hS, fun hnone => ?_⟩
    rw [hvalidating] at hnone
    cases hnone
  have ht' : Tunnelled P ccfg scfg k ⟨w.session.withIdentity c, w.server⟩ :=
    ⟨ht.connected, ht.trackedVersion, ⟨ht.tracks.credential, ht.tracks.keys⟩, hjoined⟩
  obtain ⟨p, he, hpv, hpk, S₀, hload₀, hrow⟩ := ht'.enrolled
  obtain rfl := Option.some.inj (hload.symm.trans hload₀)
  have hwelcome := hc.welcome h.rotation List.mem_cons_self
  have hidentity := ht.joined.identityUuid (P := P) c
  obtain ⟨row, hget', hstatus', hmatch'⟩ := hS'.first
  have hrow' : db'.credential (c.identityUuid P ccfg) p.cred.version = some row := by
    rw [hidentity, hpv, ← Database.loadEngine_get hload']
    exact hget'
  obtain ⟨env, hkey, hexchange⟩ := rotate_delivered scfg hP hgenerate he
    (hwelcome.timely (w := w) hload hrow) (by rw [ht'.replayKey]; exact hwelcome.fresh)
    (by rw [hidentity]; exact haction)
    hrow' (by rw [hpk]; exact hmatch'.2)
    (by rw [List.length_append, hpayloadLength, show (signEd25519 P k.ed25519 payload).length = 64 from
      hP.signature_length k.ed25519 payload]; decide)
  refine ⟨c, env, db', ?_, hsave, ⟨ht.joined.token, ht.joined.other, hbears, ?_, _, hload', hS', ?_⟩,
    htouches, hkey.trans (ht'.replayKey _ _), ?_, fun kind hkind => ?_⟩
  · rw [World.rotateIdentity, hexchange, hearly hlater]
    have hsession : (w.session.withIdentity c).identity = c := rfl
    change (Outcome.bind (.ok Answer.done, (⟨w.session.withIdentity c, served w.server env db'⟩ : World)) _) = _
    rw [Outcome.bind]
    dsimp only
    rw [hsession, hearly hsettled]
    rfl
  · have hknown := ht.joined.known
    rw [Database.identityKind_ne_none] at hknown ⊢
    rw [htouches.clients, htouches.proxies]
    exact hknown
  · intro hnone
    rw [hvalidating] at hnone
    cases hnone
  · intro S₁ hS₁
    obtain rfl := Option.some.inj (hload'.symm.trans hS₁)
    exact ⟨S, hload, active_submitted hS hS' rfl⟩
  · have hafter := hm.announces kind hkind
    have hcurrent : w.session.identity.current = .ok a := by rw [ClientIdentity.current, hactive]
    have hI : a.identityUuid = proxyUuid P ccfg :=
      ht.joined.bears.engine.belongs a (mem_of_byStatus hactive).1
    rw [World.registryAfter, hdue, hcurrent] at hafter
    dsimp only at hafter
    rw [hI, hv] at hafter
    exact hafter.congr hcredential htouches.clients htouches.proxies

end Rotating

section Bursts

variable {P : Primitives} {ccfg : ClientConfig} {scfg : ServerConfig} {k : PrivateKeys} {w : World}
  {h : Handling}

structure Leaves (P : Primitives) (ccfg : ClientConfig) (scfg : ServerConfig) (k : PrivateKeys)
    (w w' : World) : Prop where
  serverKeys : w'.session.serverKeys = w.session.serverKeys
  serverIdentity : w'.server.state.identity = w.server.state.identity
  touches : Database.Touches (proxyUuid P ccfg) w.server.state.db w'.server.state.db
  identity : w'.session.identity = w.session.identity ∧ w'.server.state.db = w.server.state.db ∨
    w'.session.identity.save = w'.session.identity ∧
      Joined P ccfg scfg k w'.session.identity w'.server.state.db

lemma Leaves.same {w' : World} (hsession : w'.session = w.session)
    (hstate : w'.server.state = w.server.state) : Leaves P ccfg scfg k w w' where
  serverKeys := by rw [hsession]
  serverIdentity := by rw [hstate]
  touches := by
    rw [hstate]
    exact .refl _ _
  identity := Or.inl ⟨by rw [hsession], by rw [hstate]⟩

variable (P ccfg scfg h) in
lemma exchange_blocked (hbusy : w.session.identity.engine.validating ≠ none) :
    ∃ exc, w.rotateIdentity P ccfg scfg h = (.error exc, w) := by
  obtain ⟨exc, hrefused⟩ := generateSuccessor_blocked (P := P) hbusy h.rotation.client.successor
    h.rotation.client.identityNow
  have hsend : (ClientSession.rotate P ccfg h.rotation.client).send w.session = (.error exc, w.session) := by
    simp only [ClientSession.rotate, hrefused]
    rfl
  refine ⟨exc, ?_⟩
  rw [World.rotateIdentity, exchange_unsent scfg .delivered h.rotation.server hsend]
  rfl

lemma Tunnelled.burst (hP : Lawful P) (hlength : ∀ k, k.length = 32 → (P.ed25519Public k).length = 32)
    (ht : Tunnelled P ccfg scfg k w) (hc : Conducive P ccfg scfg w h) (hm : Manageable P ccfg scfg w h) :
    Leaves P ccfg scfg k w (w.controlBurst P ccfg scfg h).2 ∧
      ((Idle ccfg w h ∧ ∃ entries, (w.controlBurst P ccfg scfg h).1 = .ok entries ∧ ∀ cache : RegistryCache,
          loaded (w.controlBurst P ccfg scfg h).2.server.state.db cache = .ok (cache.update entries)) ∨
        ¬ Idle ccfg w h ∧ ∃ exc, (w.controlBurst P ccfg scfg h).1 = .error exc) := by
  obtain ⟨a, hactive, _⟩ := ht.joined.bears.engine.current
  have hasked : ∃ due, w.session.identity.shouldRotate ccfg h.askedAt = .ok due := by
    rw [ClientIdentity.shouldRotate, ClientIdentity.current, hactive]
    exact ⟨_, rfl⟩
  have hclients := hc.welcome h.clients (List.mem_cons_of_mem _ List.mem_cons_self)
  have hproxies := hc.welcome h.proxies
    (List.mem_cons_of_mem _ (List.mem_cons_of_mem _ List.mem_cons_self))
  have hnonces := hc.nonces
  simp only [Handling.rounds, List.map_cons, List.map_nil, List.nodup_cons, List.mem_cons,
    List.not_mem_nil, or_false, not_or] at hnonces
  obtain ⟨⟨hfirst, hsecond⟩, hnonce, _⟩ := hnonces
  obtain ⟨due, hdue⟩ := hasked
  cases due with
  | false =>
    have hafter : w.registryAfter P ccfg scfg h = w.server.state.db := by
      rw [World.registryAfter, hdue]
    obtain ⟨entries, server, hsyncs, hstate, hloaded⟩ := ht.syncs hP hclients hproxies hnonce
      (fun kind hkind => hafter ▸ hm.announces kind hkind)
    have hburst : w.controlBurst P ccfg scfg h = (.ok entries, ⟨w.session, server⟩) := by
      rw [World.controlBurst, hdue]
      exact hsyncs
    rw [hburst]
    refine ⟨.same rfl hstate, Or.inl ⟨fun hyes => ?_, entries, rfl, hloaded⟩⟩
    rw [hdue] at hyes
    cases hyes
  | true =>
    by_cases hidle : w.session.identity.engine.validating = none
    · obtain ⟨c, env, db', hrotates, hsave, hjoined, htouches, hkey, hlive, hannounces⟩ :=
        ht.rotates hP hlength hc hm hdue hidle
      have ht' : Tunnelled P ccfg scfg k ⟨w.session.withIdentity c, served w.server env db'⟩ :=
        ⟨ht.connected, ht.trackedVersion, ⟨ht.tracks.credential, ht.tracks.keys⟩, hjoined⟩
      have hlater : ∀ r, Welcome P ccfg scfg w.server r → ∀ S' ∈ db'.loadEngine scfg.params (proxyUuid P ccfg),
          ∀ row ∈ S'.active, expired row r.server.authNow = false := by
        intro r hr S' hS' row hrow
        obtain ⟨S, hS, hsame⟩ := hlive S' hS'
        exact hr.live S hS row (hsame ▸ hrow)
      obtain ⟨entries, server, hsyncs, hstate, hloaded⟩ := ht'.syncs (h := h) hP
        (hclients.later hkey hfirst (hlater _ hclients)) (hproxies.later hkey hsecond (hlater _ hproxies))
        hnonce hannounces
      have hburst : w.controlBurst P ccfg scfg h =
          (.ok entries, ⟨w.session.withIdentity c, server⟩) := by
        rw [World.controlBurst, hdue]
        dsimp only
        rw [hrotates]
        exact hsyncs
      rw [hburst]
      refine ⟨⟨rfl, ?_, ?_, Or.inr ⟨hsave, ?_⟩⟩, Or.inl ⟨fun _ => hidle, entries, rfl, hloaded⟩⟩
      · rw [hstate]
        rfl
      · rw [hstate]
        exact htouches
      · rw [hstate]
        exact hjoined
    · obtain ⟨exc, hblocked⟩ := exchange_blocked P ccfg scfg h hidle
      have hburst : w.controlBurst P ccfg scfg h = (.error exc, w) := by
        rw [World.controlBurst, hdue]
        dsimp only
        rw [hblocked]
        rfl
      rw [hburst]
      exact ⟨.same rfl rfl, Or.inr ⟨fun hyes => hidle (hyes hdue), exc, rfl⟩⟩

end Bursts

end Secupload.System
