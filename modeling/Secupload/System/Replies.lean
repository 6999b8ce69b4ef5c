import Secupload.Client.KeyAdoption
import Secupload.Server.ControlActions
import Secupload.System.Link

namespace Secupload.System

open Library Shared Client Server

def Quiet : Response → Prop
  | .message inner => ∃ msg, encodeResponseMessage msg = .ok inner ∧ msg.serverKeyVersion = 0
  | .chunk _ _ data => data.length ≤ Server.chunkSize

section Relay

variable {P : Primitives} {ccfg : ClientConfig} {scfg : ServerConfig} {conn : Connection}
  {d : Server.Draw} {env : Envelope} {response : Response}

lemma quiet_encoded {msg : ResponseMessage} (hversion : msg.serverKeyVersion = 0)
    (h : (.message <$> encodeResponseMessage msg : Except Exn Response) = .ok response) :
    Quiet response := by
  obtain ⟨inner, hinner, rfl⟩ := except_map_eq_ok.mp h
  exact ⟨msg, hinner, hversion⟩

lemma quiet_info {stored : Except Exn ObjectInfo}
    (h : (do return .message (← encodeResponseMessage (infoResponse (← stored))) :
      Except Exn Response) = .ok response) : Quiet response := by
  obtain ⟨info, _, h⟩ := except_bind_eq_ok.mp h
  obtain ⟨inner, hinner, h⟩ := except_bind_eq_ok.mp h
  obtain rfl := Except.ok.inj h
  exact ⟨_, hinner, rfl⟩

lemma answer_quiet {request : RequestMessage} (h : (conn.answer scfg env request).1 = .ok response) :
    Quiet response := by
  rw [Connection.answer] at h
  split_ifs at h
  · rw [Connection.handleWrite] at h
    split at h
    · cases h
    · exact quiet_info h
  · obtain ⟨_, _, h⟩ := except_bind_eq_ok.mp h
    exact quiet_info h
  · obtain ⟨_, _, h⟩ := except_bind_eq_ok.mp h
    obtain ⟨data, hdata, h⟩ := except_bind_eq_ok.mp h
    split_ifs at h
    obtain rfl := Except.ok.inj h
    obtain ⟨_, _, hdata⟩ := except_bind_eq_ok.mp hdata
    obtain ⟨_, _, hdata⟩ := except_bind_eq_ok.mp hdata
    split_ifs at hdata
    obtain rfl := Except.ok.inj hdata
    exact List.length_take_le _ _
  · exact quiet_encoded rfl h

lemma attempt_quiet (h : (conn.attempt P scfg d env).1 = .ok response) : Quiet response := by
  rw [Connection.attempt] at h
  split at h
  · cases h
  · split at h
    · rw [Connection.handleObjChunk] at h
      split at h
      · cases h
      · exact quiet_info h
    · rw [Connection.dispatch] at h
      split at h
      · cases h
      · exact answer_quiet h

lemma caught_quiet {result : Except Exn Response} (hresult : ∀ r, result = .ok r → Quiet r)
    (h : Connection.caught result = .ok response) : Quiet response := by
  simp only [Connection.caught] at h
  split at h
  · exact quiet_encoded rfl h
  · exact quiet_encoded rfl h
  · exact quiet_encoded rfl h
  · exact quiet_encoded rfl h
  · exact hresult response h

variable (P scfg conn d env) in
lemma attempt_withObjects : ∃ objects, (conn.attempt P scfg d env).2 =
    (conn.withAuth (conn.auth.authenticate P scfg.params conn.state.db env d.authNow).2).withObjects objects := by
  rw [Connection.attempt]
  split
  · rename_i auth hauth
    rw [hauth]
    exact ⟨conn.objects, rfl⟩
  · rename_i auth hauth
    rw [hauth]
    split
    · rw [Connection.handleObjChunk]
      split
      · exact ⟨conn.objects, rfl⟩
      · exact ⟨_, rfl⟩
    · rw [Connection.dispatch]
      split
      · exact ⟨conn.objects, rfl⟩
      · rw [Connection.answer, Connection.handleWrite]
        split_ifs
        · split
          · exact ⟨conn.objects, rfl⟩
          · exact ⟨_, rfl⟩
        · exact ⟨conn.objects, rfl⟩
        · exact ⟨conn.objects, rfl⟩
        · exact ⟨conn.objects, rfl⟩

variable (P scfg conn d env) in
lemma attempt_withAuth : ∃ auth objects,
    (conn.attempt P scfg d env).2 = (conn.withAuth auth).withObjects objects :=
  ⟨_, attempt_withObjects P scfg conn d env⟩

variable (P scfg conn d) in
lemma handleRelay_withAuth (payload : Bytes) : ∃ auth objects,
    (conn.handleRelay P scfg d payload).2 = (conn.withAuth auth).withObjects objects := by
  rw [Connection.handleRelay]
  split
  · exact ⟨conn.auth, conn.objects, rfl⟩
  · exact attempt_withAuth P scfg conn d _

lemma handleRelay_state (payload : Bytes) : (conn.handleRelay P scfg d payload).2.state = conn.state := by
  obtain ⟨auth, objects, h⟩ := handleRelay_withAuth P scfg conn d payload
  rw [h]
  rfl

lemma handleEnroll_state (srv : Tunnel2Server) (body : Bytes) :
    (srv.handleEnroll P scfg d body).2.state = srv.state ∨
    ∃ b kind, parseEnrollmentBody body = .ok b ∧ kindFromCode b.identityKind = .ok kind ∧
      (srv.handleEnroll P scfg d body).2.state = { srv.state with db := (srv.state.db.enroll P scfg.params
        (Tunnel2Server.tokenIdentity P b.token kind) kind b.token b.version b.ed25519Public b.x25519Public
        (some d.now) d.time).2 } := by
  rw [Tunnel2Server.handleEnroll]
  split
  · exact Or.inl rfl
  · rename_i b kind hparsed
    obtain ⟨b', hb, hparsed⟩ := except_bind_eq_ok.mp hparsed
    obtain ⟨kind', hkind, hparsed⟩ := except_bind_eq_ok.mp hparsed
    obtain ⟨rfl, rfl⟩ := Prod.mk.inj (Except.ok.inj hparsed)
    refine Or.inr ⟨b', kind', hb, hkind, ?_⟩
    split
    · rename_i he
      rw [he]
      rfl
    · rename_i he
      rw [he]
      rfl
    · rename_i he
      rw [he]
      rfl

lemma handleAuthenticated_state (srv : Tunnel2Server) (action : Action) (body : Bytes) :
    (srv.handleAuthenticated P scfg d action body).2.state = srv.state ∨
    ∃ env inner, parseEnvelope body = .ok env ∧ (srv.handleAuthenticated P scfg d action body).2.state =
      { srv.state with db :=
        (srv.state.db.handleAction P scfg.params action env.senderUuid inner d.now).2 } := by
  have hstate : (srv.receive P scfg d body).2.state = srv.state := Tunnel2Server.receive_state
  have henvelope : ∀ env inner, (srv.receive P scfg d body).1 = .ok (env, inner) →
      parseEnvelope body = .ok env := fun _ _ => Tunnel2Server.received_envelope
  rw [Tunnel2Server.handleAuthenticated]
  generalize srv.receive P scfg d body = received at hstate henvelope
  obtain ⟨_ | ⟨env, inner⟩, srv'⟩ := received
  · exact Or.inl hstate
  · rw [← show srv'.state = srv.state from hstate]
    exact Or.inr ⟨env, inner, henvelope env inner rfl, rfl⟩

variable (P scfg conn d) in
lemma handleFrame_state (frame : Frame) :
    (conn.handleFrame P scfg d frame).2.state = conn.state ∨
    frame.channel = channelControl ∧ ∃ msg, parseControl frame.payload = .ok msg ∧
      ((msg.ctype = ControlType.enroll.code ∧ ∃ b kind, parseEnrollmentBody msg.body = .ok b ∧
          kindFromCode b.identityKind = .ok kind ∧
          (conn.handleFrame P scfg d frame).2.state = { conn.state with db := (conn.state.db.enroll P
            scfg.params (Tunnel2Server.tokenIdentity P b.token kind) kind b.token b.version
            b.ed25519Public b.x25519Public (some d.now) d.time).2 }) ∨
        (msg.ctype ≠ ControlType.enroll.code ∧ ∃ action env inner, parseEnvelope msg.body = .ok env ∧
          (conn.handleFrame P scfg d frame).2.state = { conn.state with db :=
            (conn.state.db.handleAction P scfg.params action env.senderUuid inner d.now).2 })) := by
  have hcontrol : ∀ payload, (conn.toTunnel2Server.handleControl P scfg d payload).2 =
      (conn.toTunnel2Server.perform P scfg d payload).2 := by
    intro payload
    rw [Tunnel2Server.handleControl]
    generalize conn.toTunnel2Server.perform P scfg d payload = performed
    obtain ⟨_ | _, srv⟩ := performed <;> rfl
  rw [Connection.handleFrame]
  split_ifs with hchannel
  · dsimp only
    rw [hcontrol, Tunnel2Server.perform]
    split
    · exact Or.inl rfl
    · rename_i msg hmsg
      split_ifs with hctype
      · exact (handleEnroll_state conn.toTunnel2Server msg.body).imp_right fun henroll =>
          ⟨hchannel, msg, hmsg, Or.inl ⟨hctype, henroll⟩⟩
      · split
        · exact Or.inl rfl
        · rename_i action _
          exact (handleAuthenticated_state conn.toTunnel2Server action msg.body).imp_right fun hacts =>
            ⟨hchannel, msg, hmsg, Or.inr ⟨hctype, action, hacts⟩⟩
  · exact Or.inl (handleRelay_state frame.payload)
  · exact Or.inl rfl

variable (P scfg conn d) in
lemma handleFrame_identity (frame : Frame) :
    (conn.handleFrame P scfg d frame).2.state.identity = conn.state.identity := by
  rcases handleFrame_state P scfg conn d frame with
    hsame | ⟨_, msg, _, ⟨_, b, kind, _, _, henroll⟩ | ⟨_, action, env, inner, _, hacts⟩⟩
  · rw [hsame]
  · rw [henroll]
  · rw [hacts]

lemma buildOutgoing_eq_ok {srv : Tunnel2Server} {serverVersion : ℤ} {inner clientX25519Public : Bytes}
    {reply : Envelope}
    (h : srv.buildOutgoing P scfg d env serverVersion inner clientX25519Public = .ok reply) :
    ∃ signer, sealEnvelope P (Tunnel2Server.replyHeader scfg d env .request serverVersion) d.ephemeral
      clientX25519Public env.senderCredentialVersion inner signer = .ok reply := by
  cases hkeys : srv.state.activeKeys with
  | ok keys => exact ⟨keys.ed25519, (Tunnel2Server.buildOutgoing_eq hkeys _ _ _ _).symm.trans h⟩
  | error exc =>
    rw [Tunnel2Server.buildOutgoing] at h
    simp only [hkeys, except_bind_eq_ok, reduceCtorEq, false_and, and_false, exists_false] at h

lemma buildChunk_eq_ok {serverVersion chunkIndex : ℤ} {objectUuid : Uuid}
    {data clientX25519Public : Bytes} {reply : Envelope}
    (h : conn.buildChunk P scfg d env serverVersion objectUuid chunkIndex data clientX25519Public =
      .ok reply) :
    ∃ signer, sealChunkEnvelope P (Tunnel2Server.replyHeader scfg d env .objChunk serverVersion)
      d.ephemeral clientX25519Public env.senderCredentialVersion objectUuid chunkIndex data signer =
        .ok reply := by
  cases hkeys : conn.state.activeKeys with
  | ok keys =>
    exact ⟨keys.ed25519, (Connection.buildChunk_eq hkeys _ _ _ _ _ _).symm.trans h⟩
  | error exc =>
    rw [Connection.buildChunk] at h
    simp only [hkeys, except_bind_eq_ok, reduceCtorEq, false_and, and_false, exists_false] at h

lemma reply_fits (hP : Lawful P) (hnonce : d.nonce.length = nonceSize)
    (hephemeral : P.x25519Loads d.ephemeral = true) {inner : Bytes} {frame : Frame}
    (h : (do
      let reply ← conn.relayReply P scfg d env (.message inner)
      sendFrame channelRelay (← reply.encode)) = .ok frame) : 218 + inner.length ≤ maxFrameSize := by
  obtain ⟨reply, hreply, h⟩ := except_bind_eq_ok.mp h
  obtain ⟨data, hencode, hsend⟩ := except_bind_eq_ok.mp h
  obtain ⟨serverCred, _, hreply⟩ := except_bind_eq_ok.mp hreply
  cases hrow : conn.state.db.getCredential env.senderUuid env.senderCredentialVersion with
  | none =>
    rw [hrow] at hreply
    cases hreply
  | some row =>
    rw [hrow] at hreply
    obtain ⟨signer, hseal⟩ := buildOutgoing_eq_ok hreply
    rw [← sealEnvelope_length hP hnonce hephemeral hseal hencode]
    rw [sendFrame] at hsend
    split_ifs at hsend with hlarge
    exact not_lt.mp hlarge

lemma reply_version (hP : Lawful P) (hnonce : d.nonce.length = nonceSize) {frame : Frame}
    (h : (do
      let reply ← conn.relayReply P scfg d env response
      sendFrame channelRelay (← reply.encode)) = .ok frame) :
    ∃ cred, conn.state.credential = .ok cred ∧ 0 ≤ cred.version ∧ cred.version < 2 ^ 32 := by
  obtain ⟨reply, hreply, h⟩ := except_bind_eq_ok.mp h
  obtain ⟨data, hencode, _⟩ := except_bind_eq_ok.mp h
  obtain ⟨cred, hcred, hreply⟩ := except_bind_eq_ok.mp hreply
  have hformed : ∀ msgType, reply = { Tunnel2Server.replyHeader scfg d env msgType cred.version with
      payload := reply.payload, signature := reply.signature } → 0 ≤ cred.version ∧ cred.version < 2 ^ 32 := by
    intro msgType hsame
    have hwell := Envelope.wellFormed_of_encode (by rw [hsame]; rfl) (by rw [hsame]; exact hnonce) hencode
    have hversion : reply.senderCredentialVersion = cred.version := by
      rw [hsame]
      rfl
    exact hversion ▸ hwell.credentialVersion
  refine ⟨cred, hcred, ?_⟩
  cases hrow : conn.state.db.getCredential env.senderUuid env.senderCredentialVersion with
  | none =>
    rw [hrow] at hreply
    cases hreply
  | some row =>
    rw [hrow] at hreply
    cases response with
    | message inner =>
      obtain ⟨signer, hseal⟩ := buildOutgoing_eq_ok hreply
      exact hformed _ (sealEnvelope_parse hP rfl hnonce hseal hencode).1
    | chunk objectUuid chunkIndex chunk =>
      obtain ⟨signer, hseal⟩ := buildChunk_eq_ok hreply
      exact hformed _ (sealChunkEnvelope_parse hP rfl hnonce hseal hencode).1

end Relay

structure Drawn (P : Primitives) (r : Round) : Prop where
  nonce : r.client.nonce.length = nonceSize
  ephemeral : P.x25519Loads r.client.ephemeral = true
  serverNonce : r.server.nonce.length = nonceSize
  serverEphemeral : P.x25519Loads r.server.ephemeral = true

structure Paired (P : Primitives) (ccfg : ClientConfig) (cred : CredentialPublic) (keys : PrivateKeys)
    (session : ClientSession) (db : Database) : Prop where
  current : session.identity.current = .ok cred
  currentKeys : session.identity.currentKeys = .ok keys
  x25519 : P.x25519Loads keys.x25519 = true
  row : ∃ row, db.credential (session.identity.identityUuid P ccfg) cred.version = some row ∧
    row.x25519Public = P.x25519Public keys.x25519

structure Names (P : Primitives) (ccfg : ClientConfig) (cred : CredentialPublic)
    (session : ClientSession) (env : Envelope) : Prop where
  sender : env.senderUuid = session.identity.identityUuid P ccfg
  version : env.senderCredentialVersion = cred.version

section Reading

variable {P : Primitives} {ccfg : ClientConfig} {scfg : ServerConfig} {cred : CredentialPublic}
  {keys : PrivateKeys} {session : ClientSession} {conn : Connection} {r : Round} {env : Envelope}

lemma decryptResponse_eq (hpair : Paired P ccfg cred keys session conn.state.db) (env : Envelope) :
    session.decryptResponse P env = openPayload P env keys.x25519 :=
  decryptResponse_keys hpair.currentKeys env

lemma replyHeader_nonce (hr : Drawn P r) (env : Envelope) (msgType : MsgType) (version : ℤ) :
    (Tunnel2Server.replyHeader scfg r.server env msgType version).nonce.length = nonceSize :=
  hr.serverNonce

lemma header_same {d : Client.Draw} {msgType : MsgType} {version timestamp : ℤ}
    (h : env = { session.header P ccfg d msgType version timestamp with
      payload := env.payload, signature := env.signature }) :
    env.senderUuid = session.identity.identityUuid P ccfg ∧ env.senderCredentialVersion = version := by
  rw [h]
  exact ⟨rfl, rfl⟩

lemma handleRelay_reply (hP : Lawful P) (hr : Drawn P r) {payload : Bytes} {reply : Frame}
    {conn' : Connection} (hreply : conn.handleRelay P scfg r.server payload = (.ok reply, conn'))
    {read : Envelope} (hread : relayEnvelope reply = .ok read) :
    ∃ env row, parseEnvelope payload = .ok env ∧
      conn.state.db.getCredential env.senderUuid env.senderCredentialVersion = some row ∧
      ((∃ inner msg version signer data, encodeResponseMessage msg = .ok inner ∧
          msg.serverKeyVersion = 0 ∧
          sealEnvelope P (Tunnel2Server.replyHeader scfg r.server env .request version)
            r.server.ephemeral row.x25519Public env.senderCredentialVersion inner signer = .ok read ∧
          read.encode = .ok data) ∨
        ∃ exc, unwrapEncrypted read.payload = .error exc) := by
  rw [Connection.handleRelay] at hreply
  cases hparse : parseEnvelope payload with
  | error exc =>
    rw [hparse] at hreply
    cases (Prod.mk.inj hreply).1
  | ok env =>
    rw [hparse] at hreply
    dsimp only at hreply
    have hstate : (conn.attempt P scfg r.server env).2.state = conn.state := by
      obtain ⟨auth, objects, hattempt⟩ := attempt_withAuth P scfg conn r.server env
      rw [hattempt]
      rfl
    have hquiet : ∀ response, (conn.attempt P scfg r.server env).1 = .ok response → Quiet response :=
      fun response => attempt_quiet
    generalize conn.attempt P scfg r.server env = attempted at hreply hstate hquiet
    obtain ⟨result, heard⟩ := attempted
    obtain ⟨hframe, _⟩ := Prod.mk.inj hreply
    obtain ⟨response, hresponse, hframe⟩ := except_bind_eq_ok.mp hframe
    obtain ⟨sent, hsent, hframe⟩ := except_bind_eq_ok.mp hframe
    obtain ⟨data, hencode, hframe⟩ := except_bind_eq_ok.mp hframe
    have hsays := caught_quiet hquiet hresponse
    rw [sendFrame] at hframe
    split_ifs at hframe
    obtain rfl := Except.ok.inj hframe
    obtain ⟨serverCred, _, hsent⟩ := except_bind_eq_ok.mp hsent
    rw [show heard.state = conn.state from hstate] at hsent
    cases hrow : conn.state.db.getCredential env.senderUuid env.senderCredentialVersion with
    | none =>
      rw [hrow] at hsent
      cases hsent
    | some row =>
      rw [hrow] at hsent
      dsimp only at hsent
      rw [relayEnvelope, if_neg (not_not.mpr rfl)] at hread
      dsimp only at hread
      refine ⟨env, row, rfl, hrow, ?_⟩
      cases response with
      | message inner =>
        obtain ⟨msg, hmsg, hversion⟩ := hsays
        obtain ⟨signer, hseal⟩ := buildOutgoing_eq_ok hsent
        obtain ⟨_, hsame⟩ := sealEnvelope_parse hP rfl (replyHeader_nonce hr _ _ _) hseal hencode
        obtain rfl := Except.ok.inj (hsame.symm.trans hread)
        exact Or.inl ⟨inner, msg, _, signer, data, hmsg, hversion, hseal, hencode⟩
      | chunk objectUuid chunkIndex chunk =>
        obtain ⟨signer, hseal⟩ := buildChunk_eq_ok hsent
        obtain ⟨_, hsame, p, hwrap, hephemeral, key, nonce, aad, hciphertext⟩ :=
          sealChunkEnvelope_parse hP rfl (replyHeader_nonce hr _ _ _) hseal hencode
        obtain rfl := Except.ok.inj (hsame.symm.trans hread)
        have hsmall : p.ephemeralPublic.length + p.ciphertext.length < 2 ^ 23 := by
          have hlen : chunk.length ≤ 64 * 1024 := hsays
          rw [hephemeral, hP.x25519_length _ hr.serverEphemeral, hciphertext, hP.ciphertext_length]
          omega
        cases hopen : unwrapEncrypted sent.payload with
        | ok q => exact (unwrapEncrypted_chunk hwrap hsmall q hopen).elim
        | error exc => exact Or.inr ⟨exc, rfl⟩

lemma recvRelayResponse_undecrypted {read : Envelope} {exc : Exn}
    (h : session.decryptRelayResponse P read = .error exc) :
    (session.recvRelayResponse P read).2.serverKeys = session.serverKeys := by
  rw [ClientSession.recvRelayResponse_serverKeys, h]
  rfl

lemma recvRelayResponse_silent {read : Envelope} {inner : Bytes} {msg : ResponseMessage}
    (h : session.decryptRelayResponse P read = .ok inner) (hmsg : encodeResponseMessage msg = .ok inner)
    (hversion : msg.serverKeyVersion = 0) :
    (session.recvRelayResponse P read).2.serverKeys = session.serverKeys := by
  rw [ClientSession.recvRelayResponse_serverKeys, h, except_ok_bind, parse_encodeResponseMessage hmsg]
  exact if_neg (not_not.mpr hversion)

lemma relay_keeps_serverKeys (hP : Lawful P) (hpair : Paired P ccfg cred keys session conn.state.db)
    (hr : Drawn P r) (henv : Names P ccfg cred session env) {payload : Bytes} {reply : Frame}
    {conn' : Connection} (hparse : parseEnvelope payload = .ok env)
    (hreply : conn.handleRelay P scfg r.server payload = (.ok reply, conn')) {read : Envelope}
    (hread : relayEnvelope reply = .ok read) :
    (session.recvRelayResponse P read).2.serverKeys = session.serverKeys := by
  obtain ⟨env', row', hparse', hrow', hcases⟩ := handleRelay_reply hP hr hreply hread
  obtain rfl := Except.ok.inj (hparse.symm.trans hparse')
  obtain ⟨row, hrow, hpublic⟩ := hpair.row
  rw [henv.sender, henv.version] at hrow'
  obtain rfl := Option.some.inj (hrow.symm.trans hrow')
  rcases hcases with ⟨inner, msg, version, signer, data, hmsg, hversion, hseal, hencode⟩ | ⟨exc, hopen⟩
  · rw [hpublic] at hseal
    refine recvRelayResponse_silent ?_ hmsg hversion
    rw [ClientSession.decryptRelayResponse, decryptResponse_eq hpair]
    exact sealEnvelope_open hP rfl (replyHeader_nonce hr _ _ _) hr.serverEphemeral hpair.x25519 hseal
      hencode
  · have hdecrypt : session.decryptRelayResponse P read = .error exc := by
      rw [ClientSession.decryptRelayResponse, decryptResponse_eq hpair, openPayload, hopen]
      rfl
    exact recvRelayResponse_undecrypted hdecrypt

lemma relay_announces_nothing (hP : Lawful P) (hcipher : Conclusive P) (hr : Drawn P r) {payload : Bytes}
    {reply : Frame} {conn' : Connection}
    (hreply : conn.handleRelay P scfg r.server payload = (.ok reply, conn')) {read : Envelope}
    (hread : relayEnvelope reply = .ok read) :
    (session.recvRelayResponse P read).2.serverKeys = session.serverKeys := by
  obtain ⟨env, row, _, _, hcases⟩ := handleRelay_reply hP hr hreply hread
  cases hdecrypt : session.decryptRelayResponse P read with
  | error exc => exact recvRelayResponse_undecrypted hdecrypt
  | ok m =>
    obtain ⟨k, hopen⟩ : ∃ k, openPayload P read k = .ok m := by
      obtain ⟨p, hp, h⟩ := except_bind_eq_ok.mp hdecrypt
      obtain ⟨aad, haad, h⟩ := except_bind_eq_ok.mp h
      obtain ⟨k, _, h⟩ := except_bind_eq_ok.mp h
      refine ⟨k.x25519, ?_⟩
      rw [openPayload, hp, except_ok_bind, haad]
      exact h
    rcases hcases with ⟨inner, msg, version, signer, data, hmsg, hversion, hseal, hencode⟩ | ⟨exc, hunwrap⟩
    · obtain rfl := sealEnvelope_open_only hP hcipher rfl (replyHeader_nonce hr _ _ _) hseal hencode hopen
      exact recvRelayResponse_silent hdecrypt hmsg hversion
    · rw [openPayload, hunwrap] at hopen
      cases hopen

lemma recvRelayResponse_same {read : Envelope}
    (h : (session.recvRelayResponse P read).2.serverKeys = session.serverKeys) :
    (session.recvRelayResponse P read).2 = session := by
  rw [ClientSession.recvRelayResponse] at h ⊢
  split
  · rfl
  · rename_i response hresponse
    rw [hresponse] at h
    change (session.adoptPiggyback response).serverKeys = _ at h
    change session.adoptPiggyback response = session
    rw [ClientSession.adoptPiggyback] at h ⊢
    split
    · rename_i hne
      rw [if_pos hne] at h
      dsimp only at h
      rw [h]
    · rfl

def Relays (P : Primitives) (ccfg : ClientConfig) (cred : CredentialPublic) (session : ClientSession)
    (sent : Except Exn Sent) : Prop :=
  ∀ s, sent = .ok s → s.frame.channel = channelRelay ∧
    ∃ env, parseEnvelope s.frame.payload = .ok env ∧ Names P ccfg cred session env

lemma sendRelay_relays {sent : Sent} (h : session.sendRelay env = .ok sent) :
    sent.frame.channel = channelRelay ∧ env.encode = .ok sent.frame.payload := by
  obtain ⟨_, _, h⟩ := except_bind_eq_ok.mp h
  obtain ⟨data, hdata, h⟩ := except_bind_eq_ok.mp h
  obtain ⟨frame, hframe, h⟩ := except_bind_eq_ok.mp h
  obtain rfl := Except.ok.inj h
  rw [sendFrame] at hframe
  split_ifs at hframe
  obtain rfl := Except.ok.inj hframe
  exact ⟨rfl, hdata⟩

lemma request_relays (hP : Lawful P) (hpair : Paired P ccfg cred keys session conn.state.db)
    (hr : Drawn P r) (msg : RequestMessage) :
    Relays P ccfg cred session ((ClientSession.request P ccfg r.client msg).send session).1 := by
  intro sent hsent
  obtain ⟨inner, _, hsent⟩ := except_bind_eq_ok.mp hsent
  obtain ⟨env, henv, hsent⟩ := except_bind_eq_ok.mp hsent
  obtain ⟨hchannel, hencode⟩ := sendRelay_relays hsent
  rw [ClientSession.signedEnvelope_eq hpair.current hpair.currentKeys] at henv
  obtain ⟨hsame, hparse⟩ := sealEnvelope_parse hP rfl hr.nonce henv hencode
  obtain ⟨hsender, hversion⟩ := header_same hsame
  exact ⟨hchannel, env, hparse, hsender, hversion⟩

lemma sendChunk_relays (hP : Lawful P) (hpair : Paired P ccfg cred keys session conn.state.db)
    (hr : Drawn P r) (objectUuid : Uuid) (chunkIndex : ℤ) (data : Bytes) :
    Relays P ccfg cred session
      ((ClientSession.sendChunk P ccfg r.client objectUuid chunkIndex data).send session).1 := by
  intro sent hsent
  obtain ⟨env, henv, hsent⟩ := except_bind_eq_ok.mp hsent
  obtain ⟨hchannel, hencode⟩ := sendRelay_relays hsent
  have hchunk := henv
  obtain ⟨_, hunsigned, hchunk⟩ := except_bind_eq_ok.mp hchunk
  obtain rfl := Except.ok.inj ((ClientSession.unsigned_eq hpair.current _ _).symm.trans hunsigned)
  obtain ⟨_, hkeys, hchunk⟩ := except_bind_eq_ok.mp hchunk
  obtain rfl := Except.ok.inj (hpair.currentKeys.symm.trans hkeys)
  obtain ⟨_, hsigned, _⟩ := except_bind_eq_ok.mp hchunk
  rw [ClientSession.chunkEnvelope_eq hpair.current hpair.currentKeys hsigned] at henv
  obtain ⟨hsame, hparse, _⟩ := sealChunkEnvelope_parse hP rfl hr.nonce henv hencode
  obtain ⟨hsender, hversion⟩ := header_same hsame
  exact ⟨hchannel, env, hparse, hsender, hversion⟩

lemma handleFrame_relay {frame : Frame} (h : frame.channel = channelRelay) :
    conn.handleFrame P scfg r.server frame = conn.handleRelay P scfg r.server frame.payload := by
  rw [Connection.handleFrame, if_neg (by rw [h]; decide), if_pos h]

lemma relay_receive {x : Exchange} (hP : Lawful P)
    (hpair : Paired P ccfg cred keys session conn.state.db) (hr : Drawn P r) {frame reply : Frame}
    (hchannel : frame.channel = channelRelay)
    (hnames : ∃ env, parseEnvelope frame.payload = .ok env ∧ Names P ccfg cred session env)
    (henvelope : x.envelope = relayEnvelope)
    (huse : (∀ env, x.use session env = session.recvRelayResponse P env) ∨
      ∀ env, (x.use session env).2 = session)
    (hreply : (conn.handleFrame P scfg r.server frame).1 = .ok reply) :
    (x.receive session reply).2 = session := by
  rw [handleFrame_relay hchannel] at hreply
  obtain ⟨env, hparse, henv⟩ := hnames
  rw [Exchange.receive, henvelope]
  cases hread : relayEnvelope reply with
  | error exc => rfl
  | ok read =>
    dsimp only
    rcases huse with huse | huse
    · rw [huse]
      exact recvRelayResponse_same (relay_keeps_serverKeys hP hpair hr henv hparse
        (Prod.ext hreply rfl) hread)
    · exact huse read

lemma relay_exchange {w : World} {x : Exchange} (hP : Lawful P)
    (hpair : Paired P ccfg cred keys w.session w.server.state.db) (hr : Drawn P r)
    (hrelays : Relays P ccfg cred w.session (x.send w.session).1)
    (hsend : (x.send w.session).2 = w.session) (henvelope : x.envelope = relayEnvelope)
    (huse : (∀ env, x.use w.session env = w.session.recvRelayResponse P env) ∨
      ∀ env, (x.use w.session env).2 = w.session) (fate : Fate) :
    (w.exchange P scfg x fate r.server).2.session = w.session ∧
      (w.exchange P scfg x fate r.server).2.server.state = w.server.state := by
  generalize hsent : x.send w.session = sending at hrelays hsend
  obtain ⟨result, waiting⟩ := sending
  obtain rfl : waiting = w.session := hsend
  cases result with
  | error exc => exact exchange_unsent scfg fate r.server hsent ▸ ⟨rfl, rfl⟩
  | ok sent =>
    obtain ⟨hchannel, hnames⟩ := hrelays sent rfl
    have hstate : (w.server.handleFrame P scfg r.server sent.frame).2.state = w.server.state := by
      rw [handleFrame_relay hchannel]
      exact handleRelay_state _
    simp only [World.exchange, World.answer, Exchange.perform, Outcome.bind, hsent, World.transmit]
    cases fate with
    | requestLost => exact ⟨rfl, rfl⟩
    | replyLost => exact ⟨rfl, hstate⟩
    | delivered =>
      refine ⟨?_, hstate⟩
      cases hreply : (w.server.handleFrame P scfg r.server sent.frame).1 with
      | error exc => rfl
      | ok reply => exact relay_receive hP hpair hr hchannel hnames henvelope huse hreply

end Reading

end Secupload.System
