import Secupload.Client.Connect
import Secupload.Server.Relay

namespace Secupload.System

open Library Shared Client Server

structure World where
  session : ClientSession
  server : Connection

inductive Fate
  | delivered
  | requestLost
  | replyLost
  deriving DecidableEq

structure Round where
  client : Client.Draw
  server : Server.Draw

namespace World

variable (P : Primitives) (ccfg : ClientConfig) (scfg : ServerConfig) (w : World)

def transmit (frame : Frame) (fate : Fate) (d : Server.Draw) : Option Frame × Connection :=
  match fate with
  | .requestLost => (none, w.server)
  | .replyLost => (none, (w.server.handleFrame P scfg d frame).2)
  | .delivered =>
    let (reply, server) := w.server.handleFrame P scfg d frame
    (reply.toOption, server)

def answer (x : Exchange) (fate : Fate) (d : Server.Draw) : Option Frame × Connection :=
  match (x.send w.session).1 with
  | .error _ => (none, w.server)
  | .ok sent => w.transmit P scfg sent.frame fate d

def exchange (x : Exchange) (fate : Fate) (d : Server.Draw) : Outcome World Answer :=
  let (reply, server) := w.answer P scfg x fate d
  let (result, session) := x.perform w.session reply
  (result, ⟨session, server⟩)

def enroll (fate : Fate) (d : Server.Draw) : Outcome World Unit :=
  match w.session.enrollFrame ccfg with
  | .error exc => (.error exc, w)
  | .ok frame =>
    match w.transmit P scfg frame fate d with
    | (none, server) => (.error (.frameError "connection closed by peer"), { w with server })
    | (some reply, server) =>
      let (result, session) := w.session.useEnrolled reply
      (result, ⟨session, server⟩)

def connect (k : PrivateKeys) (now : ℤ) (fate : Fate) (d : Server.Draw) : Outcome World Unit :=
  match w.session.dial P ccfg k now with
  | (.error exc, session) => (.error exc, { w with session })
  | (.ok (), session) =>
    if session.identity.enrolled then (.ok (), { w with session })
    else { w with session }.enroll P ccfg scfg fate d

end World

-- the credentials of the two sides: the client's own, the row that the server keeps of it, and
-- the server's own
structure Parties where
  cred : CredentialPublic
  keys : PrivateKeys
  row : CredentialPublic
  serverCred : CredentialPublic
  serverKeys : PrivateKeys

def InUInt32 (v : ℤ) : Prop := 0 ≤ v ∧ v < 2 ^ 32

def InInt64 (v : ℤ) : Prop := -2 ^ 63 ≤ v ∧ v < 2 ^ 63

section Parties

variable (P : Primitives) (ccfg : ClientConfig) (scfg : ServerConfig)

structure Enrolled (p : Parties) (session : ClientSession) (state : ServerState) : Prop where
  connected : session.connected = true
  current : session.identity.current = .ok p.cred
  currentKeys : session.identity.currentKeys = .ok p.keys
  version : InUInt32 p.cred.version
  ed25519 : p.keys.ed25519.length = 32
  x25519 : P.x25519Loads p.keys.x25519 = true
  row : state.db.credential (session.identity.identityUuid P ccfg) p.cred.version = some p.row
  owns : p.keys.Match P p.row
  status : p.row.status = .active ∨ p.row.status = .fallback
  kind : (state.db.identityKind (session.identity.identityUuid P ccfg)).isSome
  serverCred : state.credential = .ok p.serverCred
  serverKeys : state.activeKeys = .ok p.serverKeys
  serverVersion : InUInt32 p.serverCred.version
  serverX25519 : P.x25519Loads p.serverKeys.x25519 = true
  tracked : session.serverKeys.x25519Public = P.x25519Public p.serverKeys.x25519
  trackedVersion : InUInt32 session.serverKeys.version

structure Timely (p : Parties) (r : Round) : Prop where
  nonce : r.client.nonce.length = nonceSize
  ephemeral : P.x25519Loads r.client.ephemeral = true
  serverNonce : r.server.nonce.length = nonceSize
  serverEphemeral : P.x25519Loads r.server.ephemeral = true
  now : InInt64 r.client.now ∧ timestampOk r.client.now r.server.authNow = true
  time : InInt64 r.client.time ∧ timestampOk r.client.time r.server.authNow = true
  sentAt : InInt64 r.server.sentAt
  unexpired : RotationEngine.expired p.row r.server.authNow = false

end Parties

section Delivery

variable {P : Primitives} {ccfg : ClientConfig} {scfg : ServerConfig} {p : Parties} {w : World}
  {session : ClientSession} {state : ServerState} {conn : Connection} {r : Round} {x : Exchange}

lemma exchange_delivered {sent : Sent} {waiting : ClientSession} {reply : Frame}
    {server : Connection}
    (hsend : x.send w.session = (.ok sent, waiting))
    (hreply : w.server.handleFrame P scfg r.server sent.frame = (.ok reply, server)) :
    w.exchange P scfg x .delivered r.server =
      ((x.receive waiting reply).1, ⟨(x.receive waiting reply).2, server⟩) := by
  simp only [World.exchange, World.answer, World.transmit, hsend, hreply, Except.toOption,
    Exchange.perform, Outcome.bind]

lemma exchange_unsent (scfg : ServerConfig) {exc : Exn} {waiting : ClientSession} (fate : Fate) (d : Server.Draw)
    (hsend : x.send w.session = (.error exc, waiting)) :
    w.exchange P scfg x fate d = (.error exc, { w with session := waiting }) := by
  simp only [World.exchange, World.answer, hsend, Exchange.perform, Outcome.bind]

lemma header_wellFormed (he : Enrolled P ccfg p session state) (ht : Timely P p r)
    (msgType : MsgType) {timestamp : ℤ} (hts : InInt64 timestamp) :
    (session.header P ccfg r.client msgType p.cred.version timestamp).WellFormed where
  version := rfl
  msgType := msgType.code_range
  credentialVersion := he.version
  timestamp := hts
  nonce := ht.nonce

lemma sendRelay_ok {base env : Envelope} {data : Bytes} (he : Enrolled P ccfg p session state)
    (henv : Arrives P base env p.keys.ed25519 data) (hsize : data.length ≤ maxFrameSize) :
    session.sendRelay env = .ok ⟨⟨channelRelay, data⟩, base.requestId⟩ := by
  have hsame : env.requestId = base.requestId := by rw [henv.same]
  rw [ClientSession.sendRelay, ClientSession.sockRequired, if_pos he.connected, except_ok_bind,
    henv.encode, except_ok_bind, sendFrame, if_neg (by omega), hsame]
  rfl

lemma request_signed (hP : Lawful P) (he : Enrolled P ccfg p session state) (ht : Timely P p r)
    {msg : RequestMessage} {inner : Bytes} (hinner : encodeRequestMessage msg = .ok inner)
    (hlen : inner.length < 2 ^ 31) :
    ∃ env data,
      (ClientSession.request P ccfg r.client msg).send session = (session.sendRelay env, session) ∧
      Arrives P (session.header P ccfg r.client .request p.cred.version r.client.now) env
        p.keys.ed25519 data ∧
      data.length = 218 + inner.length ∧ openPayload P env p.serverKeys.x25519 = .ok inner := by
  obtain ⟨env, data, hseal, harrives, hdata, hopen⟩ := sealEnvelope_ok hP
    (header_wellFormed he ht .request ht.now.1) ht.ephemeral he.serverX25519 he.trackedVersion hlen
    p.keys.ed25519
  refine ⟨env, data, ?_, harrives, hdata, hopen⟩
  have hsigned : session.signedEnvelope P ccfg r.client .request session.serverKeys.version inner = _ :=
    ClientSession.signedEnvelope_eq he.current he.currentKeys _ _ _
  rw [he.tracked, hseal] at hsigned
  simp only [ClientSession.request, hinner, hsigned, except_ok_bind]

lemma request_sent (hP : Lawful P) (he : Enrolled P ccfg p session state) (ht : Timely P p r)
    {msg : RequestMessage} {inner : Bytes} (hinner : encodeRequestMessage msg = .ok inner)
    (hsize : 218 + inner.length ≤ maxFrameSize) :
    ∃ env data,
      (ClientSession.request P ccfg r.client msg).send session =
        (.ok ⟨⟨channelRelay, data⟩, r.client.requestId⟩, session) ∧
      Arrives P (session.header P ccfg r.client .request p.cred.version r.client.now) env
        p.keys.ed25519 data ∧
      openPayload P env p.serverKeys.x25519 = .ok inner := by
  obtain ⟨env, data, hsend, harrives, hdata, hopen⟩ := request_signed hP he ht hinner
    (by rw [maxFrameSize] at hsize; omega)
  refine ⟨env, data, ?_, harrives, hopen⟩
  rw [hsend, sendRelay_ok he harrives (by omega)]
  rfl

lemma request_too_large (hP : Lawful P) (he : Enrolled P ccfg p session state) (ht : Timely P p r)
    {msg : RequestMessage} {inner : Bytes} (hinner : encodeRequestMessage msg = .ok inner)
    (hlen : inner.length < 2 ^ 31) (hsize : maxFrameSize < 218 + inner.length) :
    (ClientSession.request P ccfg r.client msg).send session =
      (.error (.frameError "frame too large"), session) := by
  obtain ⟨env, data, hsend, harrives, hdata, _⟩ := request_signed hP he ht hinner hlen
  rw [hsend, ClientSession.sendRelay, ClientSession.sockRequired, if_pos he.connected,
    except_ok_bind, harrives.encode, except_ok_bind, sendFrame, if_pos (by omega)]
  rfl

lemma sendChunk_sent (hP : Lawful P) (he : Enrolled P ccfg p session state)
    (ht : Timely P p r) (objectUuid : Uuid) {chunkIndex : ℤ}
    (hindex : 0 ≤ chunkIndex ∧ chunkIndex < 2 ^ 64) {chunk : Bytes}
    (hsize : 227 + chunk.length ≤ maxFrameSize) :
    ∃ env data,
      (ClientSession.sendChunk P ccfg r.client objectUuid chunkIndex chunk).send session =
        (.ok ⟨⟨channelRelay, data⟩, r.client.requestId⟩, session) ∧
      Arrives P (session.header P ccfg r.client .objChunk p.cred.version r.client.time) env
        p.keys.ed25519 data ∧
      decryptChunkTo P env p.serverKeys.x25519 env.payload = .ok (objectUuid, chunkIndex, chunk) := by
  have hlen : chunk.length < 2 ^ 31 := by
    rw [maxFrameSize] at hsize
    omega
  have hformed := header_wellFormed he ht .objChunk ht.time.1
  obtain ⟨env, data, aad, q, hseal, harrives, hdata, hunwrap, hobject, hchunk, haad, hopen⟩ :=
    sealChunkEnvelope_ok hP hformed ht.ephemeral he.serverX25519 he.trackedVersion objectUuid hindex
      hlen p.keys.ed25519
  refine ⟨env, data, ?_, harrives, ?_⟩
  · obtain ⟨signed, _, hunsealed⟩ := Envelope.sign_ok hP hformed
      (show (0 : ℕ) < 2 ^ 32 by decide) p.keys.ed25519
    have hsigned := ClientSession.chunkEnvelope_eq he.current he.currentKeys hunsealed.sign objectUuid
      chunkIndex chunk
    rw [he.tracked, hseal] at hsigned
    simp only [ClientSession.sendChunk, hsigned, except_ok_bind]
    rw [sendRelay_ok he harrives (by omega)]
    rfl
  · rw [decryptChunkTo, hunwrap, except_ok_bind, hobject, hchunk, haad, except_ok_bind, hopen]
    rfl

def heard (conn : Connection) (env : Envelope) : Connection :=
  conn.withAuth ⟨conn.auth.replay.touch env.replayKey⟩

lemma authenticate_ok (scfg : ServerConfig) {base env : Envelope} {data : Bytes} (now : ℤ)
    (he : Enrolled P ccfg p session conn.state) (henv : Arrives P base env p.keys.ed25519 data)
    (hsender : base.senderUuid = session.identity.identityUuid P ccfg)
    (hversion : base.senderCredentialVersion = p.cred.version)
    (hwindow : timestampOk base.timestamp now = true)
    (hunexpired : RotationEngine.expired p.row now = false)
    (hfresh : base.replayKey ∉ conn.auth.replay.entries) :
    ∃ kind, conn.auth.authenticate P scfg.params conn.state.db env now =
      (.ok (kind, p.row), (heard conn env).auth) := by
  have hs : env.senderUuid = base.senderUuid := by rw [henv.same]
  have hv : env.senderCredentialVersion = base.senderCredentialVersion := by rw [henv.same]
  have hts : env.timestamp = base.timestamp := by rw [henv.same]
  have hkey : env.replayKey = base.replayKey := by rw [henv.same]; rfl
  have hauth : conn.state.db.credentialForAuth scfg.params env.senderUuid
      env.senderCredentialVersion now = .ok (some p.row) := by
    rw [hs, hv, hsender, hversion]
    exact Database.credentialForAuth_eq_some.mpr ⟨he.row, he.status, hunexpired⟩
  have hstatus : p.row.status.authenticating = true := by
    rcases he.status with h | h <;> rw [h] <;> rfl
  have hverify : env.verify P p.row.ed25519Public = .ok () := by
    rw [he.owns.1]
    exact henv.verify he.ed25519
  obtain ⟨kind, hkind⟩ := Option.isSome_iff_exists.mp he.kind
  rw [← hsender, ← hs] at hkind
  refine ⟨kind, ?_⟩
  rw [Authenticator.authenticate, hts, hwindow, if_neg (by decide), ReplayCache.checkAndAdd, hkey,
    decide_eq_true hfresh]
  simp only [Authenticator.checkCredential, hauth, hstatus, hverify, hkind, heard,
    Connection.withAuth, hkey]
  rfl

structure FromSession (P : Primitives) (ccfg : ClientConfig) (p : Parties) (session : ClientSession)
    (env : Envelope) : Prop where
  sender : env.senderUuid = session.identity.identityUuid P ccfg
  version : env.senderCredentialVersion = p.cred.version

lemma fromSession_of_arrives {env : Envelope} {data : Bytes} {msgType : MsgType} {timestamp : ℤ}
    (h : Arrives P (session.header P ccfg r.client msgType p.cred.version timestamp) env
      p.keys.ed25519 data) : FromSession P ccfg p session env where
  sender := by rw [h.same]; rfl
  version := by rw [h.same]; rfl

lemma canReply (he : Enrolled P ccfg p session conn.state) (ht : Timely P p r) {env : Envelope}
    (henv : FromSession P ccfg p session env) :
    Connection.CanReply P conn.state r.server env p.serverCred p.serverKeys p.keys.x25519 where
  nonce := ht.serverNonce
  ephemeral := ht.serverEphemeral
  sentAt := ht.sentAt
  credential := he.serverCred
  keys := he.serverKeys
  version := he.serverVersion
  row := ⟨p.row, by rw [henv.sender, henv.version]; exact he.row, he.owns.2⟩
  loads := he.x25519
  sender := henv.version ▸ he.version

lemma replies_message (scfg : ServerConfig) (hP : Lawful P) (he : Enrolled P ccfg p session conn.state)
    (ht : Timely P p r) {env : Envelope} (henv : FromSession P ccfg p session env) {inner : Bytes}
    (hsize : 218 + inner.length ≤ maxFrameSize) :
    ∃ reply data, conn.relayReply P scfg r.server env (.message inner) = .ok reply ∧
      reply.encode = .ok data ∧ data.length ≤ maxFrameSize ∧ parseEnvelope data = .ok reply ∧
      openPayload P reply p.keys.x25519 = .ok inner ∧ reply.msgType = MsgType.request.code := by
  obtain ⟨reply, data, hreply, _, harrives, hfits, hopen⟩ := (canReply he ht henv).message hP scfg hsize
  refine ⟨reply, data, hreply, harrives.encode, hfits, harrives.parse, hopen, ?_⟩
  rw [harrives.same]
  rfl

lemma replies_chunk (scfg : ServerConfig) (hP : Lawful P) (he : Enrolled P ccfg p session conn.state)
    (ht : Timely P p r) {env : Envelope} (henv : FromSession P ccfg p session env)
    (objectUuid : Uuid) {chunkIndex : ℤ} (hindex : 0 ≤ chunkIndex ∧ chunkIndex < 2 ^ 64)
    {chunk : Bytes} (hsize : 227 + chunk.length ≤ maxFrameSize) :
    ∃ reply data, conn.relayReply P scfg r.server env (.chunk objectUuid chunkIndex chunk) = .ok reply ∧
      reply.encode = .ok data ∧ data.length ≤ maxFrameSize ∧ parseEnvelope data = .ok reply ∧
      session.openChunkResponse P objectUuid chunkIndex reply = .ok chunk := by
  obtain ⟨reply, data, aad, q, hreply, _, harrives, hfits, hunwrap, hobject, hchunk, haad, hopen⟩ :=
    (canReply he ht henv).chunk hP scfg objectUuid hindex hsize
  have htype : reply.msgType = MsgType.objChunk.code := by
    rw [harrives.same]
    rfl
  refine ⟨reply, data, hreply, harrives.encode, hfits, harrives.parse, ?_⟩
  rw [ClientSession.openChunkResponse, if_neg (not_not.mpr htype),
    ClientSession.requestedChunk, hunwrap, except_ok_bind, if_neg (by simp [hobject, hchunk]),
    except_ok_bind, haad, except_ok_bind, he.currentKeys, except_ok_bind]
  exact hopen

lemma handleRelay_ok {env reply : Envelope} {payload data : Bytes} {result : Except Exn Response}
    {response : Response} {server : Connection} (hparse : parseEnvelope payload = .ok env)
    (hattempt : w.server.attempt P scfg r.server env = (result, server))
    (hcaught : Connection.caught result = .ok response)
    (hreply : server.relayReply P scfg r.server env response = .ok reply)
    (hencode : reply.encode = .ok data) (hsize : data.length ≤ maxFrameSize) :
    w.server.handleFrame P scfg r.server ⟨channelRelay, payload⟩ =
      (.ok ⟨channelRelay, data⟩, server) := by
  rw [Connection.handleFrame, if_neg (by decide : channelRelay ≠ channelControl), if_pos rfl,
    Connection.handleRelay, hparse]
  dsimp only
  rw [hattempt]
  simp only [hcaught, except_ok_bind, hreply, hencode, sendFrame]
  rw [if_neg (by omega)]

lemma decryptResponse_keys {keys : PrivateKeys} (hkeys : session.identity.currentKeys = .ok keys)
    (env : Envelope) : session.decryptResponse P env = openPayload P env keys.x25519 := by
  rw [ClientSession.decryptResponse, openPayload, hkeys]
  rfl

lemma recvRelayResponse_ok {keys : PrivateKeys} {env : Envelope} {inner : Bytes}
    {msg : ResponseMessage} (hkeys : session.identity.currentKeys = .ok keys)
    (hopen : openPayload P env keys.x25519 = .ok inner)
    (hmsg : encodeResponseMessage msg = .ok inner) (hversion : msg.serverKeyVersion = 0) :
    session.recvRelayResponse P env = (.ok (.response msg), session) := by
  simp only [ClientSession.recvRelayResponse, ClientSession.decryptRelayResponse,
    decryptResponse_keys hkeys, hopen, except_ok_bind, parse_encodeResponseMessage hmsg,
    ClientSession.adoptPiggyback, hversion]
  rfl

lemma exchange_response (hP : Lawful P) {env : Envelope} {payload inner : Bytes}
    {requestId : Uuid} {msg : ResponseMessage} {result : Except Exn Response} {server : Connection}
    (ht : Timely P p r)
    (hsend : x.send w.session = (.ok ⟨⟨channelRelay, payload⟩, requestId⟩, w.session))
    (hparse : parseEnvelope payload = .ok env) (henv : FromSession P ccfg p w.session env)
    (hattempt : w.server.attempt P scfg r.server env = (result, server))
    (hcaught : Connection.caught result = .ok (.message inner))
    (he : Enrolled P ccfg p w.session server.state)
    (hmsg : encodeResponseMessage msg = .ok inner) (hversion : msg.serverKeyVersion = 0)
    (hsize : 218 + inner.length ≤ maxFrameSize) (henvelope : x.envelope = relayEnvelope)
    (huse : ∀ env, x.use w.session env = w.session.recvRelayResponse P env) :
    w.exchange P scfg x .delivered r.server = (.ok (.response msg), { w with server }) := by
  obtain ⟨reply, data, hreply, hencode, hfits, hread, hopen, _⟩ :=
    replies_message scfg hP he ht henv hsize
  rw [exchange_delivered hsend (handleRelay_ok hparse hattempt hcaught hreply hencode hfits)]
  have hreceive : x.receive w.session ⟨channelRelay, data⟩ = (.ok (.response msg), w.session) := by
    rw [Exchange.receive, henvelope, relayEnvelope, if_neg (not_not.mpr rfl), hread]
    dsimp only
    rw [huse, recvRelayResponse_ok he.currentKeys hopen hmsg hversion]
  rw [hreceive]

end Delivery

section Demo

def demoClient : ClientConfig := { serverUuid := Uuid.repeated 7, enrollmentToken := "t" }

def demoServer : ServerConfig := { serverUuid := Uuid.repeated 7 }

def demoIdentity : Uuid := tokenUuid tagged "client" "t"

def demoPermissions : Permissions :=
  .ofRows [⟨demoIdentity, Uuid.nil, "WRITE", "ALLOW"⟩, ⟨demoIdentity, Uuid.nil, "READ", "ALLOW"⟩]

-- a server that has issued the client's token
def demoConnection : Connection where
  state := ((ServerState.start demoServer
    (Database.empty.issueToken tagged "t" .enroll .client 3600 none (some 1000) 1000).2 none).ensureLoaded
      tagged demoServer (demoKeys 9) 1000).2
  auth := .new 100
  objects := .empty
  permissions := demoPermissions

def demoRound (n : UInt8) : Round where
  client :=
    { now := 1000, identityNow := 1000, laterNow := 1000, time := 1000, requestId := Uuid.nil
      nonce := List.replicate 12 n, ephemeral := demoKey 7, successor := demoKeys 2 }
  server :=
    { authNow := 1000, now := 1000, time := 1000, sentAt := 1000, nonce := List.replicate 12 n
      ephemeral := demoKey 8 }

def demoWorld : World :=
  (World.connect tagged demoClient demoServer ⟨ClientSession.start demoClient, demoConnection⟩
    (demoKeys 1) 1000 .delivered (demoRound 0).server).2

def demoParties : Parties where
  cred := ⟨demoIdentity, 1, demoKey 1, demoKey 101, .active, 1000, none, some 1000, some 130600⟩
  keys := demoKeys 1
  row := ⟨demoIdentity, 1, demoKey 1, demoKey 101, .active, 1000, none, some 1000, some 130600⟩
  serverCred :=
    ⟨Uuid.repeated 7, 1, demoKey 9, demoKey 109, .active, 1000, none, some 1000, some 130600⟩
  serverKeys := demoKeys 9

lemma enrolled_demo :
    Enrolled tagged demoClient demoParties demoWorld.session demoWorld.server.state := by
  have hclient : demoWorld.session.connected = true ∧
      demoWorld.session.identity.current = .ok demoParties.cred ∧
      demoWorld.session.identity.currentKeys = .ok demoParties.keys ∧
      demoWorld.session.serverKeys.x25519Public = tagged.x25519Public demoParties.serverKeys.x25519 ∧
      0 ≤ demoWorld.session.serverKeys.version ∧ demoWorld.session.serverKeys.version < 2 ^ 32 := by
    decide +kernel
  have hserver : demoWorld.server.state.db.credential
        (demoWorld.session.identity.identityUuid tagged demoClient) demoParties.cred.version =
          some demoParties.row ∧
      (demoWorld.server.state.db.identityKind
        (demoWorld.session.identity.identityUuid tagged demoClient)).isSome = true ∧
      demoWorld.server.state.credential = .ok demoParties.serverCred ∧
      demoWorld.server.state.activeKeys = .ok demoParties.serverKeys := by
    decide +kernel
  obtain ⟨hconnected, hcurrent, hkeys, htracked, htrackedVersion⟩ := hclient
  obtain ⟨hrow, hkind, hserverCred, hserverKeys⟩ := hserver
  exact
    { connected := hconnected
      current := hcurrent
      currentKeys := hkeys
      version := ⟨by decide, by decide⟩
      ed25519 := by decide
      x25519 := by decide
      row := hrow
      owns := ⟨rfl, rfl⟩
      status := by decide
      kind := hkind
      serverCred := hserverCred
      serverKeys := hserverKeys
      serverVersion := ⟨by decide, by decide⟩
      serverX25519 := by decide
      tracked := htracked
      trackedVersion := htrackedVersion }

lemma timely_demo (n : UInt8) : Timely tagged demoParties (demoRound n) where
  nonce := List.length_replicate
  ephemeral := show tagged.x25519Loads (demoKey 7) = true by decide
  serverNonce := List.length_replicate
  serverEphemeral := show tagged.x25519Loads (demoKey 8) = true by decide
  now := ⟨show -2 ^ 63 ≤ (1000 : ℤ) ∧ 1000 < 2 ^ 63 by decide, rfl⟩
  time := ⟨show -2 ^ 63 ≤ (1000 : ℤ) ∧ 1000 < 2 ^ 63 by decide, rfl⟩
  sentAt := show -2 ^ 63 ≤ (1000 : ℤ) ∧ 1000 < 2 ^ 63 by decide
  unexpired := rfl

end Demo

end Secupload.System
