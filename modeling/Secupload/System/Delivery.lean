import Secupload.System.ProxyCheck

namespace Secupload.System

open Library Shared Client Server Proxy

section Delivered

variable {P : Primitives} {ccfg : ClientConfig} {scfg : ServerConfig} {p : Parties} {w : World}
  {session : ClientSession} {state : ServerState} {conn : Connection} {r : Round} {env : Envelope}
  {inner response body payload : Bytes} {action : Action} {db' : Database}

lemma Timely.drawn (h : Timely P p r) : Drawn P r :=
  ⟨h.nonce, h.ephemeral, h.serverNonce, h.serverEphemeral⟩

lemma Enrolled.tracks (h : Enrolled P ccfg p session state) : Tracks P session state :=
  ⟨⟨p.serverCred, h.serverCred, h.serverVersion⟩, p.serverKeys, h.serverKeys, h.serverX25519, h.tracked⟩

lemma sendSealed_ok (hP : Lawful P) (he : Enrolled P ccfg p session state) (ht : Timely P p r)
    (ctype : ControlType) (hcode : 0 ≤ ctype.code ∧ ctype.code < 2 ^ 8)
    (hsize : 223 + inner.length ≤ maxFrameSize) :
    ∃ env body payload,
      session.sendSealed P ccfg r.client ctype inner =
        .ok ⟨⟨channelControl, payload⟩, r.client.requestId⟩ ∧
      encodeControl ctype.code body = .ok payload ∧
      Arrives P (session.header P ccfg r.client .control p.cred.version r.client.now) env
        p.keys.ed25519 body ∧
      openPayload P env p.serverKeys.x25519 = .ok inner := by
  rw [maxFrameSize] at hsize
  obtain ⟨env, body, hseal, harrives, hbody, hopen⟩ := sealEnvelope_ok hP
    (header_wellFormed he ht .control ht.now.1) ht.ephemeral he.serverX25519 he.trackedVersion
    (show inner.length < 2 ^ 31 by omega) p.keys.ed25519
  obtain ⟨payload, hpayload, hlength⟩ := encodeControl_writes hcode (show body.length < 2 ^ 32 by omega)
  refine ⟨env, body, payload, ?_, hpayload, harrives, hopen⟩
  have hsigned : session.signedEnvelope P ccfg r.client .control session.serverKeys.version inner = _ :=
    ClientSession.signedEnvelope_eq he.current he.currentKeys _ _ _
  rw [he.tracked, hseal] at hsigned
  have hid : env.requestId = r.client.requestId := by
    rw [harrives.same]
    rfl
  rw [ClientSession.sendSealed, hsigned, except_ok_bind, ClientSession.sendControl, harrives.encode,
    except_ok_bind, ClientSession.sockRequired, if_pos he.connected, except_ok_bind, hpayload,
    except_ok_bind, sendFrame, if_neg (by rw [maxFrameSize]; omega), except_ok_bind, hid]
  rfl

def served (conn : Connection) (env : Envelope) (db' : Database) : Connection :=
  { conn with toTunnel2Server := acted conn.toTunnel2Server ⟨conn.auth.replay.touch env.replayKey⟩ db' }

lemma handleFrame_served (hP : Lawful P) (he : Enrolled P ccfg p session conn.state) (ht : Timely P p r)
    (hframe : encodeControl action.ctype.code body = .ok payload)
    (harrives : Arrives P (session.header P ccfg r.client .control p.cred.version r.client.now) env
      p.keys.ed25519 body)
    (hopen : openPayload P env p.serverKeys.x25519 = .ok inner)
    (hfresh : env.replayKey ∉ conn.auth.replay.entries)
    (haction : conn.state.db.handleAction P scfg.params action
      (session.identity.identityUuid P ccfg) inner r.server.now = (.ok response, db'))
    {row : CredentialPublic}
    (hrow : db'.credential (session.identity.identityUuid P ccfg) p.cred.version = some row)
    (hpublic : row.x25519Public = P.x25519Public p.keys.x25519)
    (hsize : 223 + response.length ≤ maxFrameSize) :
    ∃ reply read, conn.handleFrame P scfg r.server ⟨channelControl, payload⟩ =
        (.ok reply, served conn env db') ∧
      controlEnvelope action.respType reply = .ok read ∧
      openPayload P read p.keys.x25519 = .ok response := by
  obtain ⟨hsender, hversion⟩ := header_same harrives.same
  have hkey : (session.header P ccfg r.client .control p.cred.version r.client.now).replayKey =
      env.replayKey := by
    rw [harrives.same]
    rfl
  obtain ⟨kind, hauth⟩ := authenticate_ok scfg r.server.authNow he harrives rfl rfl ht.now.2
    ht.unexpired (by rw [hkey]; exact hfresh)
  have hrow' : (acted conn.toTunnel2Server ⟨conn.auth.replay.touch env.replayKey⟩ db').state.db.getCredential
      env.senderUuid env.senderCredentialVersion = some row := by
    rw [hsender, hversion]
    exact hrow
  obtain ⟨sent, hsent, hlength⟩ : ∃ sent, (acted conn.toTunnel2Server
      ⟨conn.auth.replay.touch env.replayKey⟩ db').sendControlResponse P scfg r.server action env response =
        .ok sent ∧ sent.length ≤ maxFrameSize :=
    sendControlResponse_ok hP ht.drawn ht.sentAt (he.tracks.of_identity rfl) hrow' hpublic he.x25519
      (hversion ▸ he.version) hsize
  obtain ⟨read, hread, hresponse⟩ := sendControlResponse_read hP ht.drawn hrow' hpublic he.x25519 hsent
  refine ⟨⟨channelControl, sent⟩, read, ?_, hread, hresponse⟩
  have hcontrol : conn.state.openControl P env = .ok inner := by
    rw [ServerState.openControl, he.serverKeys, except_ok_bind, decryptTo, hopen]
    rfl
  rw [Connection.handleFrame, if_pos rfl, Tunnel2Server.handleControl, Tunnel2Server.perform_encoded hframe,
    Tunnel2Server.handleAuthenticated, Tunnel2Server.receive, harrives.parse]
  dsimp only
  rw [hauth]
  dsimp only
  rw [hcontrol]
  simp only [Except.map, Outcome.bind, hsender, haction, Tunnel2Server.handled]
  have hreply : (acted conn.toTunnel2Server ⟨conn.auth.replay.touch env.replayKey⟩ db').reply P scfg r.server
      (.action action env (.done response)) = .ok sent := hsent
  have hsend : ((acted conn.toTunnel2Server ⟨conn.auth.replay.touch env.replayKey⟩ db').reply P scfg
      r.server (.action action env (.done response)) >>= sendFrame channelControl) =
        .ok ⟨channelControl, sent⟩ := by
    rw [hreply, except_ok_bind, sendFrame, if_neg (by omega)]
  exact Prod.ext hsend rfl

lemma control_delivered {x : Exchange} (hP : Lawful P) (he : Enrolled P ccfg p session w.server.state)
    (ht : Timely P p r)
    (hfresh : (session.header P ccfg r.client .control p.cred.version r.client.now).replayKey ∉
      w.server.auth.replay.entries)
    (haction : w.server.state.db.handleAction P scfg.params action
      (session.identity.identityUuid P ccfg) inner r.server.now = (.ok response, db'))
    {row : CredentialPublic}
    (hrow : db'.credential (session.identity.identityUuid P ccfg) p.cred.version = some row)
    (hpublic : row.x25519Public = P.x25519Public p.keys.x25519)
    (hinner : 223 + inner.length ≤ maxFrameSize) (hresponse : 223 + response.length ≤ maxFrameSize)
    (hsend : x.send w.session = (session.sendSealed P ccfg r.client action.ctype inner, session))
    (henvelope : x.envelope = controlEnvelope action.respType) :
    ∃ env read, env.replayKey =
        (session.header P ccfg r.client .control p.cred.version r.client.now).replayKey ∧
      session.decryptControlResponse P read = .ok response ∧
      w.exchange P scfg x .delivered r.server =
        ((x.use session read).1, ⟨(x.use session read).2, served w.server env db'⟩) := by
  obtain ⟨env, body, payload, hsealed, hframe, harrives, hopen⟩ := sendSealed_ok hP he ht action.ctype
    (by cases action <;> decide) hinner
  have hkey : env.replayKey =
      (session.header P ccfg r.client .control p.cred.version r.client.now).replayKey := by
    rw [harrives.same]
    rfl
  obtain ⟨reply, read, hreply, hread, hread'⟩ := handleFrame_served hP he ht hframe harrives hopen
    (by rw [hkey]; exact hfresh) haction hrow hpublic hresponse
  refine ⟨env, read, hkey, ?_, ?_⟩
  · obtain ⟨sealed, hsealed, haad⟩ := except_bind_eq_ok.mp hread'
    obtain ⟨aad, haad, hmessage⟩ := except_bind_eq_ok.mp haad
    rw [ClientSession.decryptControlResponse, ClientSession.decryptResponse, hsealed, except_ok_bind, haad,
      except_ok_bind, he.currentKeys, except_ok_bind]
    exact hmessage
  · rw [hsealed] at hsend
    rw [exchange_delivered hsend hreply]
    have hreceive : x.receive session reply = x.use session read := by
      rw [Exchange.receive, henvelope, hread]
    rw [hreceive]

end Delivered

def Announces (db : Database) (kind : IdentityKind) : Prop :=
  (∀ c ∈ db.publicEntries kind, (registryEntryFromPublic c).InRange) ∧
    223 + snapshotLength ((db.publicEntries kind).map registryEntryFromPublic) ≤ maxFrameSize

instance (db : Database) (kind : IdentityKind) : Decidable (Announces db kind) := by
  unfold Announces RegistryEntry.InRange U32 U8 Short I64
  infer_instance

section Calls

variable {P : Primitives} {ccfg : ClientConfig} {scfg : ServerConfig} {p : Parties} {w : World}
  {r : Round} {db db' : Database} {kind : IdentityKind} {identity : ClientIdentity}

lemma Announces.snapshot (h : Announces db kind) :
    ∃ data, db.handleRegistrySync [UInt8.ofNat (kindToCode kind).toNat] = .ok data ∧
      223 + data.length ≤ maxFrameSize ∧
      parseRegistrySnapshot data = .ok ((db.publicEntries kind).map registryEntryFromPublic) := by
  obtain ⟨hrange, hlength⟩ := h
  have hkind : Database.syncKind [UInt8.ofNat (kindToCode kind).toNat] = .ok kind := by
    cases kind <;> rfl
  have hentries : ∀ entry ∈ (db.publicEntries kind).map registryEntryFromPublic, entry.InRange := by
    intro entry hentry
    obtain ⟨c, hc, rfl⟩ := List.mem_map.mp hentry
    exact hrange c hc
  obtain ⟨data, hdata, hdataLength, hparse⟩ := encodeRegistrySnapshot_ok hentries
    (by rw [maxFrameSize] at hlength; omega)
  refine ⟨data, ?_, by rw [hdataLength]; exact hlength, hparse⟩
  rw [Database.handleRegistrySync, hkind, except_ok_bind, hdata]

lemma Announces.snapshotOf (h : Announces db kind) :
    snapshotOf db kind = .ok ((db.publicEntries kind).map registryEntryFromPublic) := by
  obtain ⟨data, hdata, _, hparse⟩ := h.snapshot
  rw [Proxy.snapshotOf, hdata, except_ok_bind, hparse]

lemma Announces.congr (h : Announces db kind) (hcredential : ∀ I v, db'.credential I v = db.credential I v)
    (hclients : db'.clients = db.clients) (hproxies : db'.proxies = db.proxies) : Announces db' kind := by
  have hrows : db'.credentials.rows.Perm db.credentials.rows := by
    refine (List.perm_ext_iff_of_nodup (List.Nodup.of_map _ db'.credentials.nodup)
      (List.Nodup.of_map _ db.credentials.nodup)).mpr fun c => ?_
    have hmem : ∀ db : Database, c ∈ db.credentials.rows ↔
        db.credential c.identityUuid c.version = some c := by
      intro db
      rw [Database.credential_eq_some]
      exact ⟨fun hc => ⟨hc, rfl, rfl⟩, fun hc => hc.1⟩
    rw [hmem, hmem, hcredential]
  have hperm : (db'.publicEntries kind).Perm (db.publicEntries kind) := by
    rw [Database.publicEntries, Database.publicEntries, hclients, hproxies]
    exact (List.perm_insertionSort _ _).trans ((hrows.filter _).trans (List.perm_insertionSort _ _).symm)
  obtain ⟨hrange, hlength⟩ := h
  refine ⟨fun c hc => hrange c (hperm.mem_iff.mp hc), ?_⟩
  rw [snapshotLength_perm (hperm.map _)]
  exact hlength

lemma syncRegistry_delivered (hP : Lawful P) (he : Enrolled P ccfg p w.session w.server.state)
    (ht : Timely P p r)
    (hfresh : (w.session.header P ccfg r.client .control p.cred.version r.client.now).replayKey ∉
      w.server.auth.replay.entries) (hannounces : Announces w.server.state.db kind) :
    ∃ env : Envelope, env.replayKey =
        (w.session.header P ccfg r.client .control p.cred.version r.client.now).replayKey ∧
      w.exchange P scfg (ClientSession.syncRegistry P ccfg r.client kind) .delivered r.server =
        (.ok (.entries ((w.server.state.db.publicEntries kind).map registryEntryFromPublic)),
          ⟨w.session, served w.server env w.server.state.db⟩) := by
  obtain ⟨data, hdata, hlength, hparse⟩ := hannounces.snapshot
  have haction : w.server.state.db.handleAction P scfg.params .registrySync
      (w.session.identity.identityUuid P ccfg) [UInt8.ofNat (kindToCode kind).toNat] r.server.now =
        (.ok data, w.server.state.db) := by
    rw [Database.handleAction, hdata]
  obtain ⟨env, read, hkey, hread, hexchange⟩ := control_delivered (w := w)
    (x := ClientSession.syncRegistry P ccfg r.client kind) hP he ht hfresh haction he.row he.owns.2
    (by rw [maxFrameSize, List.length_singleton]; omega) hlength rfl rfl
  refine ⟨env, hkey, ?_⟩
  rw [hexchange]
  simp only [ClientSession.syncRegistry, hread, except_ok_bind, hparse]
  rfl

variable (scfg) in
lemma rotate_delivered (hP : Lawful P) {cred : CredentialPublic} {signature payload : Bytes}
    (hsubmit : w.session.identity.generateSuccessor P r.client.successor r.client.identityNow =
      (.ok (cred, signature, payload), identity))
    (he : Enrolled P ccfg p (w.session.withIdentity identity) w.server.state) (ht : Timely P p r)
    (hfresh : ((w.session.withIdentity identity).header P ccfg r.client .control p.cred.version
      r.client.now).replayKey ∉ w.server.auth.replay.entries)
    (haction : w.server.state.db.handleAction P scfg.params .rotateSubmit
      (identity.identityUuid P ccfg) (payload ++ signature) r.server.now = (.ok okResponse, db'))
    {row : CredentialPublic}
    (hrow : db'.credential (identity.identityUuid P ccfg) p.cred.version = some row)
    (hpublic : row.x25519Public = P.x25519Public p.keys.x25519)
    (hinner : 223 + (payload ++ signature).length ≤ maxFrameSize) :
    ∃ env : Envelope, env.replayKey = ((w.session.withIdentity identity).header P ccfg r.client .control
        p.cred.version r.client.now).replayKey ∧
      w.exchange P scfg (ClientSession.rotate P ccfg r.client) .delivered r.server =
        ((fun _ => Answer.done) <$> (identity.checkpoint r.client.laterNow).1,
          ⟨w.session.withIdentity (identity.checkpoint r.client.laterNow).2, served w.server env db'⟩) := by
  have hsend : (ClientSession.rotate P ccfg r.client).send w.session =
      ((w.session.withIdentity identity).sendSealed P ccfg r.client Action.rotateSubmit.ctype
        (payload ++ signature), w.session.withIdentity identity) := by
    simp only [ClientSession.rotate, hsubmit]
    rfl
  obtain ⟨env, read, hkey, hread, hexchange⟩ := control_delivered (w := w)
    (x := ClientSession.rotate P ccfg r.client) hP he ht hfresh haction hrow hpublic hinner
    (by decide) hsend rfl
  refine ⟨env, hkey, ?_⟩
  have hstatus : (w.session.withIdentity identity).controlStatus P read = .ok (0, utf8 "ok") := by
    rw [ClientSession.controlStatus, hread, except_ok_bind, parse_okResponse]
  rw [hexchange]
  simp only [ClientSession.rotate, hstatus]
  rfl

end Calls

end Secupload.System
