import Secupload.Server.Answers
import Secupload.System.Refusals
import Secupload.System.Replies

namespace Secupload.System

open Library Shared Client Server

section Definitions

variable (P : Primitives) (cfg : ServerConfig) (conn : Connection) (m : Connection.Message) (env : Envelope)
  (sender : CredentialPublic)

structure Requests (request : RequestMessage) : Prop where
  channel : m.frame.channel = channelRelay
  parse : parseEnvelope m.frame.payload = .ok env
  auth : ∃ kind auth, conn.auth.authenticate P cfg.params conn.state.db env m.draw.authNow =
    (.ok (kind, sender), auth)
  msgType : env.msgType ≠ MsgType.objChunk.code
  content : (conn.state.openRequest P env >>= parseRequestMessage) = .ok request

def Answered : Prop :=
  ∃ reply conn' read, conn.handleFrame P cfg m.draw m.frame = (.ok reply, conn') ∧
    reply.channel = channelRelay ∧ parseEnvelope reply.payload = .ok read ∧ read.requestId = env.requestId ∧
    ((∃ inner, SealedTo P sender inner read) ∨ ∃ o i data, SealedChunkTo P sender o i data read)

structure Drawable (d : Server.Draw) : Prop where
  nonce : d.nonce.length = nonceSize
  ephemeral : P.x25519Loads d.ephemeral = true
  sentAt : I64 d.sentAt

end Definitions

section Frames

variable {P : Primitives} {cfg : ServerConfig} {conn : Connection} {m : Connection.Message} {d : Server.Draw}
  {env : Envelope} {sender : CredentialPublic} {request : RequestMessage} {response : Response}

lemma handleRelay_lost (hP : Lawful P) (hnonce : d.nonce.length = nonceSize)
    (hephemeral : P.x25519Loads d.ephemeral = true) {payload : Bytes}
    (hparse : parseEnvelope payload = .ok env) (hlost : Connection.Lost (conn.attempt P cfg d env).1) :
    ∃ exc, (conn.handleRelay P cfg d payload).1 = .error exc := by
  rw [Connection.handleRelay, hparse]
  dsimp only
  generalize conn.attempt P cfg d env = attempted at hlost
  obtain ⟨result, server⟩ := attempted
  dsimp only at hlost ⊢
  cases hcaught : Connection.caught result with
  | error exc => exact ⟨exc, rfl⟩
  | ok response =>
    obtain ⟨inner, rfl, hlarge⟩ := hlost response hcaught
    rw [except_ok_bind]
    generalize hframe : (do
      let reply ← server.relayReply P cfg d env (.message inner)
      sendFrame channelRelay (← reply.encode) : Except Exn Frame) = frame
    cases frame with
    | error exc => exact ⟨exc, rfl⟩
    | ok frame => exact absurd (reply_fits hP hnonce hephemeral hframe) (by omega)

lemma handleRelay_version (hP : Lawful P) (hnonce : d.nonce.length = nonceSize) {payload : Bytes} {frame : Frame}
    {conn' : Connection} (hparse : parseEnvelope payload = .ok env)
    (hrelay : conn.handleRelay P cfg d payload = (.ok frame, conn')) {cred : CredentialPublic}
    (hcred : conn.state.credential = .ok cred) : U32 cred.version := by
  obtain ⟨auth, objects, hserver⟩ := attempt_withAuth P cfg conn d env
  rw [Connection.handleRelay, hparse] at hrelay
  dsimp only at hrelay
  generalize conn.attempt P cfg d env = attempted at hserver hrelay
  obtain ⟨result, server⟩ := attempted
  obtain rfl := hserver
  cases hcaught : Connection.caught result with
  | error exc =>
    rw [hcaught] at hrelay
    cases hrelay
  | ok response =>
    rw [hcaught, except_ok_bind] at hrelay
    obtain ⟨active, hactive, hbounds⟩ := reply_version hP hnonce (Prod.mk.inj hrelay).1
    obtain rfl := Except.ok.inj (hactive.symm.trans hcred)
    exact hbounds

lemma Requests.attempt (h : Requests P cfg conn m env sender request) :
    ∃ auth, conn.attempt P cfg m.draw env = (conn.withAuth auth).answer cfg env request := by
  obtain ⟨kind, auth, hauth⟩ := h.auth
  refine ⟨auth, ?_⟩
  rw [Connection.attempt, hauth]
  dsimp only
  rw [if_neg h.msgType, Connection.dispatch]
  have hparsed : (do parseRequestMessage (← (conn.withAuth auth).state.openRequest P env)) = .ok request := h.content
  rw [hparsed]

lemma Requests.inRange (h : Requests P cfg conn m env sender request) : request.InRange := by
  obtain ⟨inner, _, hrequest⟩ := except_bind_eq_ok.mp h.content
  exact RequestMessage.inRange hrequest

lemma Requests.row (h : Requests P cfg conn m env sender request) :
    conn.state.db.getCredential env.senderUuid env.senderCredentialVersion = some sender ∧
      sender.version = env.senderCredentialVersion := by
  obtain ⟨kind, auth, hauth⟩ := h.auth
  obtain ⟨_, _, husable⟩ := Authenticator.authenticate_checks hauth
  obtain ⟨hrow, _⟩ := Database.credentialForAuth_eq_some.mp husable
  exact ⟨hrow, (Database.credential_eq_some.mp hrow).2.2⟩

lemma Requests.canReply (h : Requests P cfg conn m env sender request) (hd : Drawable P m.draw) {priv : Bytes}
    (hloads : P.x25519Loads priv = true) (hpublic : sender.x25519Public = P.x25519Public priv)
    (hversion : ∀ cred, conn.state.credential = .ok cred → U32 cred.version) :
    ∃ cred keys, Connection.CanReply P conn.state m.draw env cred keys priv := by
  obtain ⟨inner, hopen, _⟩ := except_bind_eq_ok.mp h.content
  obtain ⟨keys, hkeys, _⟩ := except_bind_eq_ok.mp hopen
  obtain ⟨cred, hcred, _⟩ := except_bind_eq_ok.mp hkeys
  exact ⟨cred, keys,
    { nonce := hd.nonce
      ephemeral := hd.ephemeral
      sentAt := hd.sentAt
      credential := hcred
      keys := hkeys
      version := hversion cred hcred
      row := ⟨sender, h.row.1, hpublic⟩
      loads := hloads
      sender := (parseEnvelope_wellFormed h.parse).credentialVersion }⟩

lemma sealedTo_of_seal {base reply : Envelope} {ephemeral signer inner data : Bytes}
    (harrives : Arrives P base reply signer data) (hephemeral : P.x25519Loads ephemeral = true)
    (hseal : sealEnvelope P base ephemeral sender.x25519Public sender.version inner signer = .ok reply) :
    SealedTo P sender inner reply := by
  obtain ⟨aad, haad, hseal⟩ := except_bind_eq_ok.mp hseal
  obtain ⟨sealed, hsealed, hseal⟩ := except_bind_eq_ok.mp hseal
  obtain ⟨payload, hwrap, hsign⟩ := except_bind_eq_ok.mp hseal
  obtain ⟨_, _, hsigned⟩ := except_bind_eq_ok.mp hsign
  obtain rfl := Except.ok.inj hsigned
  exact ⟨ephemeral, base.nonce, aad, sealed, hephemeral, (Envelope.aad_same harrives.same 0).trans haad, hsealed,
    hwrap⟩

lemma sealedChunkTo_of_seal {base reply : Envelope} {ephemeral signer chunk data : Bytes} {o : Uuid} {i : ℤ}
    (harrives : Arrives P base reply signer data) (hephemeral : P.x25519Loads ephemeral = true)
    (hseal : sealChunkEnvelope P base ephemeral sender.x25519Public sender.version o i chunk signer = .ok reply) :
    SealedChunkTo P sender o i chunk reply := by
  obtain ⟨aad, haad, hseal⟩ := except_bind_eq_ok.mp hseal
  obtain ⟨sealed, hsealed, hseal⟩ := except_bind_eq_ok.mp hseal
  obtain ⟨payload, hwrap, hsign⟩ := except_bind_eq_ok.mp hseal
  obtain ⟨_, _, hsigned⟩ := except_bind_eq_ok.mp hsign
  obtain rfl := Except.ok.inj hsigned
  exact ⟨ephemeral, aad, sealed, hephemeral, (Envelope.aad_same harrives.same i).trans haad, hsealed, hwrap⟩

lemma Requests.answered (hP : Lawful P) (h : Requests P cfg conn m env sender request) (hd : Drawable P m.draw)
    {priv : Bytes} (hloads : P.x25519Loads priv = true) (hpublic : sender.x25519Public = P.x25519Public priv)
    (hversion : ∀ cred, conn.state.credential = .ok cred → U32 cred.version)
    (hcaught : Connection.caught (conn.attempt P cfg m.draw env).1 = .ok response)
    (hfits : Connection.Fits response) : Answered P cfg conn m env sender := by
  obtain ⟨cred, keys, hcan⟩ := h.canReply hd hloads hpublic hversion
  obtain ⟨auth, objects, hserver⟩ := attempt_withAuth P cfg conn m.draw env
  have hrow := h.row.2
  -- the reply is written, whichever of the two it is
  have hsent : ∃ reply data, (conn.attempt P cfg m.draw env).2.relayReply P cfg m.draw env response = .ok reply ∧
      reply.encode = .ok data ∧ data.length ≤ maxFrameSize ∧ parseEnvelope data = .ok reply ∧
      reply.requestId = env.requestId ∧
      ((∃ inner, SealedTo P sender inner reply) ∨ ∃ o i data, SealedChunkTo P sender o i data reply) := by
    rw [hserver]
    cases response with
    | message inner =>
      obtain ⟨reply, data, hreply, hseal, harrives, hsize, _⟩ := hcan.message hP cfg hfits
      rw [← hpublic, ← hrow] at hseal
      exact ⟨reply, data, hreply, harrives.encode, hsize, harrives.parse, by rw [harrives.same]; rfl,
        Or.inl ⟨inner, sealedTo_of_seal harrives hd.ephemeral hseal⟩⟩
    | chunk o i chunk =>
      obtain ⟨reply, data, _, _, hreply, hseal, harrives, hsize, _⟩ := hcan.chunk hP cfg o hfits.1 hfits.2
      rw [← hpublic, ← hrow] at hseal
      exact ⟨reply, data, hreply, harrives.encode, hsize, harrives.parse, by rw [harrives.same]; rfl,
        Or.inr ⟨o, i, chunk, sealedChunkTo_of_seal harrives hd.ephemeral hseal⟩⟩
  obtain ⟨reply, data, hreply, hencode, hsize, hparse, hid, hsealed⟩ := hsent
  refine ⟨⟨channelRelay, data⟩, (conn.attempt P cfg m.draw env).2, reply, ?_, rfl, hparse, hid, hsealed⟩
  rw [Connection.handleFrame, if_neg (by rw [h.channel]; decide), if_pos h.channel, Connection.handleRelay, h.parse]
  dsimp only
  rw [hcaught, except_ok_bind, hreply, except_ok_bind, hencode, except_ok_bind, sendFrame, if_neg (by omega)]

lemma Requests.answered_iff (hP : Lawful P) (hsha : ∀ content, (P.sha256 content).length = 32)
    (horderly : ∀ o, (conn.objects.kept o).Orderly P) (h : Requests P cfg conn m env sender request)
    (hpermitted : Connection.Permitted conn env request) {priv : Bytes} (hloads : P.x25519Loads priv = true)
    (hpublic : sender.x25519Public = P.x25519Public priv) (hd : Drawable P m.draw) :
    Answered P cfg conn m env sender ↔
      (∀ cred, conn.state.credential = .ok cred → U32 cred.version) ∧
      ¬ Connection.Unanswerable cfg.maxOffset conn.objects request := by
  obtain ⟨auth, hattempt⟩ := h.attempt
  have hdecided : Connection.Decided cfg.maxOffset (conn.withAuth auth) request (conn.attempt P cfg m.draw env).1 := by
    rw [hattempt]
    exact Connection.answer_decided horderly hsha h.inRange hpermitted
  constructor
  · rintro ⟨reply, conn', read, hframe, _⟩
    rw [Connection.handleFrame, if_neg (by rw [h.channel]; decide), if_pos h.channel] at hframe
    refine ⟨fun cred hcred => handleRelay_version hP hd.nonce h.parse hframe hcred, fun hun => ?_⟩
    rcases hdecided with ⟨hans, _⟩ | ⟨_, hlost⟩
    · exact hans hun
    · obtain ⟨exc, hlost⟩ := handleRelay_lost hP hd.nonce hd.ephemeral h.parse hlost
      rw [hframe] at hlost
      cases hlost
  · rintro ⟨hversion, hans⟩
    rcases hdecided with ⟨_, response, hcaught, hfits⟩ | ⟨hun, _⟩
    · exact h.answered hP hd hloads hpublic hversion hcaught hfits
    · exact (hans hun).elim

end Frames

theorem request_answered_iff (P : Primitives) (hP : Lawful P) (hsha : ∀ content, (P.sha256 content).length = 32)
    (cfg : ServerConfig) (start : Connection) (hempty : start.objects = .empty) (evs : List StoreEvent)
    (m : Connection.Message) (env : Envelope) (sender : CredentialPublic) (priv : Bytes) (request : RequestMessage)
    (hrequest : Requests P cfg (run (Connection.undergo P cfg) start evs) m env sender request)
    (hpermitted : Connection.Permitted (run (Connection.undergo P cfg) start evs) env request)
    (hloads : P.x25519Loads priv = true) (hpublic : sender.x25519Public = P.x25519Public priv)
    (hdraw : Drawable P m.draw) :
    Answered P cfg (run (Connection.undergo P cfg) start evs) m env sender ↔
      (∀ cred, (run (Connection.undergo P cfg) start evs).state.credential = .ok cred → U32 cred.version) ∧
      ¬ Connection.Unanswerable cfg.maxOffset (run (Connection.undergo P cfg) start evs).objects request :=
  hrequest.answered_iff hP hsha (Connection.orderly_run hempty evs) hpermitted hloads hpublic hdraw

section Demo

def requested (request : RequestMessage) (n : UInt8) : Connection.Message :=
  sentBy (ClientSession.request tagged demoClient (demoRound n).client request) (demoRound n)

def readFirst : RequestMessage := { op := Op.readChunk.code, objectUuid := some Uuid.nil }

lemma drawable_demo (n : UInt8) : Drawable tagged (demoRound n).server :=
  ⟨List.length_replicate, show tagged.x25519Loads (demoKey 8) = true by decide,
    show -2 ^ 63 ≤ (1000 : ℤ) ∧ 1000 < 2 ^ 63 by decide⟩

lemma requests_demo (conn : Connection) (n : UInt8) (hpermissions : conn.permissions = demoPermissions)
    (hchannel : (requested readFirst n).frame.channel = channelRelay)
    (h : ∃ env ∈ (parseEnvelope (requested readFirst n).frame.payload).toOption,
      (conn.auth.authenticate tagged demoServer.params conn.state.db env 1000).1 =
        .ok (.client, demoParties.row) ∧
      env.senderUuid = demoIdentity ∧ env.msgType ≠ MsgType.objChunk.code ∧
      (conn.state.openRequest tagged env >>= parseRequestMessage) = .ok readFirst) :
    ∃ env, Requests tagged demoServer conn (requested readFirst n) env demoParties.row readFirst ∧
      Connection.Permitted conn env readFirst := by
  obtain ⟨env, hparse, hauth, hsender, htype, hcontent⟩ := h
  cases hparsed : parseEnvelope (requested readFirst n).frame.payload with
  | error exc =>
    rw [hparsed] at hparse
    cases hparse
  | ok parsed =>
    rw [hparsed] at hparse
    obtain rfl := Option.some.inj hparse
    refine ⟨parsed, ⟨hchannel, hparsed, ⟨_, _, Prod.ext hauth rfl⟩, htype, hcontent⟩, fun o ho => ⟨nofun, fun _ => ?_⟩⟩
    obtain rfl := Option.some.inj ho
    rw [hpermissions, hsender]
    exact ⟨⟨demoIdentity, Uuid.nil, "READ", "ALLOW"⟩, by decide +kernel, rfl⟩

theorem stored_chunk_answered : ∃ env, Answered tagged demoServer
    (run (Connection.undergo tagged demoServer) demoWorld.server (declareThenSend [1, 2]))
    (requested readFirst 3) env demoParties.row := by
  obtain ⟨env, hrequest, hpermitted⟩ := requests_demo
    (run (Connection.undergo tagged demoServer) demoWorld.server (declareThenSend [1, 2])) 3
    (by decide +kernel) (by decide +kernel) (by decide +kernel)
  refine ⟨env, (request_answered_iff tagged lawful_tagged sha256_tagged demoServer demoWorld.server
    (by decide +kernel) (declareThenSend [1, 2]) (requested readFirst 3) env demoParties.row (demoKey 101) readFirst
    hrequest hpermitted (by decide) rfl (drawable_demo 3)).mpr ⟨fun cred hcred => ?_, by decide +kernel⟩⟩
  have hactive : (run (Connection.undergo tagged demoServer) demoWorld.server
      (declareThenSend [1, 2])).state.credential = .ok demoParties.serverCred := by decide +kernel
  obtain rfl := Except.ok.inj (hactive.symm.trans hcred)
  exact ⟨by decide, by decide⟩

-- the object has been declared, and no chunk of it stored
theorem unstored_chunk_unanswered :
    ¬ ∀ (P : Primitives), Lawful P → (∀ content, (P.sha256 content).length = 32) →
      ∀ (cfg : ServerConfig) (start : Connection), start.objects = .empty → ∀ (evs : List StoreEvent)
      (m : Connection.Message) (env : Envelope) (sender : CredentialPublic) (priv : Bytes) (request : RequestMessage),
      Requests P cfg (run (Connection.undergo P cfg) start evs) m env sender request →
      Connection.Permitted (run (Connection.undergo P cfg) start evs) env request →
      P.x25519Loads priv = true → sender.x25519Public = P.x25519Public priv → Drawable P m.draw →
      Answered P cfg (run (Connection.undergo P cfg) start evs) m env sender := by
  intro h
  obtain ⟨env, hrequest, hpermitted⟩ := requests_demo
    (run (Connection.undergo tagged demoServer) demoWorld.server ((declareThenSend []).take 1)) 2
    (by decide +kernel) (by decide +kernel) (by decide +kernel)
  have hanswered := h tagged lawful_tagged sha256_tagged demoServer demoWorld.server (by decide +kernel)
    ((declareThenSend []).take 1) (requested readFirst 2) env demoParties.row (demoKey 101) readFirst
    hrequest hpermitted (by decide) rfl (drawable_demo 2)
  obtain ⟨_, hans⟩ := (hrequest.answered_iff lawful_tagged sha256_tagged
    (Connection.orderly_run (by decide +kernel) _) hpermitted (by decide) rfl (drawable_demo 2)).mp hanswered
  exact hans (by decide +kernel)

end Demo

end Secupload.System
