import Secupload.Client.Api
import Secupload.Server.Answers
import Secupload.System.Link

namespace Secupload.System

open Library Shared Client Server

-- a connected session, and the draws of its exchanges to come
abbrev Line := World × List Round

def link (P : Primitives) (scfg : ServerConfig) : Link Line
  | _, (w, []) => (.error (.frameError "connection closed by peer"), (w, []))
  | x, (w, r :: rs) =>
    let (answer, w) := w.exchange P scfg (x r.client) .delivered r.server
    (answer, (w, rs))

section Exchanges

variable (P : Primitives) (ccfg : ClientConfig) (scfg : ServerConfig)

def replayKeyOf (session : ClientSession) (r : Round) : Bytes :=
  (session.identity.identityUuid P ccfg).bytes ++ r.client.nonce

def hearing (w : World) (r : Round) : Connection :=
  w.server.withAuth ⟨w.server.auth.replay.touch (replayKeyOf P ccfg w.session r)⟩

structure Ready (p : Parties) (w : World) (rs : List Round) : Prop where
  enrolled : Enrolled P ccfg p w.session w.server.state
  timely : ∀ r ∈ rs, Timely P p r
  fresh : (rs.map (·.client.nonce)).Nodup
  unseen : ∀ r ∈ rs, replayKeyOf P ccfg w.session r ∉ w.server.auth.replay.entries

variable {P ccfg scfg} {p : Parties} {w : World} {r : Round} {rs : List Round}

lemma Ready.next (h : Ready P ccfg p w (r :: rs)) (objects : ObjectStore) :
    Ready P ccfg p { w with server := (hearing P ccfg w r).withObjects objects } rs where
  enrolled := h.enrolled
  timely := fun q hq => h.timely q (List.mem_cons_of_mem _ hq)
  fresh := (List.nodup_cons.mp h.fresh).2
  unseen := by
    intro q hq hseen
    rcases Lru.mem_of_mem_touch hseen with hkey | hold
    · have hnonce : q.client.nonce = r.client.nonce := List.append_cancel_left hkey
      exact (List.nodup_cons.mp h.fresh).1 (List.mem_map.mpr ⟨q, hq, hnonce⟩)
    · exact h.unseen q (List.mem_cons_of_mem _ hq) hold

lemma Ready.withObjects (h : Ready P ccfg p w rs) (objects : ObjectStore) :
    Ready P ccfg p { w with server := w.server.withObjects objects } rs :=
  ⟨h.enrolled, h.timely, h.fresh, h.unseen⟩

lemma attempt_request (scfg : ServerConfig) (h : Ready P ccfg p w (r :: rs)) {env : Envelope} {data inner : Bytes}
    {msg : RequestMessage} (hinner : encodeRequestMessage msg = .ok inner)
    (harrives : Arrives P (w.session.header P ccfg r.client .request p.cred.version r.client.now) env
      p.keys.ed25519 data)
    (hopen : openPayload P env p.serverKeys.x25519 = .ok inner) :
    w.server.attempt P scfg r.server env = (hearing P ccfg w r).answer scfg env msg := by
  have ht := h.timely r List.mem_cons_self
  obtain ⟨kind, hauth⟩ := authenticate_ok scfg r.server.authNow h.enrolled harrives rfl
    rfl ht.now.2 ht.unexpired (h.unseen r List.mem_cons_self)
  have hheard : heard w.server env = hearing P ccfg w r := by
    rw [heard, harrives.same]
    rfl
  have htype : env.msgType = MsgType.request.code := by
    rw [harrives.same]
    rfl
  rw [Connection.attempt, hauth]
  dsimp only
  rw [if_neg (by rw [htype]; decide)]
  change (heard w.server env).dispatch P scfg env = _
  rw [hheard, Connection.dispatch, ServerState.openRequest]
  have hkeys : (hearing P ccfg w r).state.activeKeys = .ok p.serverKeys := h.enrolled.serverKeys
  rw [hkeys, except_ok_bind, decryptTo, hopen, except_ok_bind, parse_encodeRequestMessage hinner]

lemma link_request (hP : Lawful P) (h : Ready P ccfg p w (r :: rs)) {msg : RequestMessage}
    {reply : ResponseMessage} {inner body : Bytes} {result : Except Exn Response} {objects : ObjectStore}
    (hinner : encodeRequestMessage msg = .ok inner) (hsize : 218 + inner.length ≤ maxFrameSize)
    (hanswer : ∀ env, FromSession P ccfg p w.session env →
      (hearing P ccfg w r).answer scfg env msg = (result, (hearing P ccfg w r).withObjects objects))
    (hcaught : Connection.caught result = .ok (.message body))
    (hbody : encodeResponseMessage reply = .ok body) (hversion : reply.serverKeyVersion = 0)
    (hfits : 218 + body.length ≤ maxFrameSize) :
    request P ccfg (link P scfg) msg (w, r :: rs) =
      (.ok reply, ({ w with server := (hearing P ccfg w r).withObjects objects }, rs)) := by
  obtain ⟨env, data, hsend, harrives, hopen⟩ :=
    request_sent hP h.enrolled (h.timely r List.mem_cons_self) hinner hsize
  have hsession := fromSession_of_arrives harrives
  have hattempt : w.server.attempt P scfg r.server env = _ :=
    (attempt_request scfg h hinner harrives hopen).trans (hanswer env hsession)
  have hexchange := exchange_response hP (h.timely r List.mem_cons_self) hsend harrives.parse hsession
    hattempt hcaught h.enrolled hbody hversion hfits rfl fun _ => rfl
  simp only [request, link, hexchange, Outcome.bind, responseOf]

lemma link_unsent (scfg : ServerConfig) (rs : List Round) {msg : RequestMessage} {exc : Exn} {waiting : ClientSession}
    (hsend : (ClientSession.request P ccfg r.client msg).send w.session = (.error exc, waiting)) :
    request P ccfg (link P scfg) msg (w, r :: rs) =
      (.error exc, ({ w with session := waiting }, rs)) := by
  have hexchange := exchange_unsent (P := P) scfg .delivered r.server hsend
  simp only [request, link, hexchange, Outcome.bind]

lemma chunk_arrives (h : Ready P ccfg p w (r :: rs)) {env : Envelope} {data chunk : Bytes} {o : Uuid}
    {chunkIndex : ℤ}
    (harrives : Arrives P (w.session.header P ccfg r.client .objChunk p.cred.version r.client.time) env
      p.keys.ed25519 data)
    (hopen : decryptChunkTo P env p.serverKeys.x25519 env.payload = .ok (o, chunkIndex, chunk))
    (hallowed : Allowed w.server.permissions (w.session.identity.identityUuid P ccfg) o "WRITE") :
    (∃ kind, w.server.auth.authenticate P scfg.params w.server.state.db env r.server.authNow =
        (.ok (kind, p.row), (hearing P ccfg w r).auth)) ∧
      env.msgType = MsgType.objChunk.code ∧
      (hearing P ccfg w r).acceptedChunk P env = .ok (o, chunkIndex, chunk) := by
  have ht := h.timely r List.mem_cons_self
  have hheard : heard w.server env = hearing P ccfg w r := by
    rw [heard, harrives.same]
    rfl
  have hsender : env.senderUuid = w.session.identity.identityUuid P ccfg := by
    rw [harrives.same]
    rfl
  have hkeys : (hearing P ccfg w r).state.activeKeys = .ok p.serverKeys := h.enrolled.serverKeys
  have hcheck : checkPermission (hearing P ccfg w r).permissions env.senderUuid o "WRITE" = .ok () := by
    rw [hsender]
    exact checkPermission_eq_ok.mpr hallowed
  refine ⟨?_, by rw [harrives.same]; rfl, ?_⟩
  · rw [← hheard]
    exact authenticate_ok scfg r.server.authNow h.enrolled harrives rfl rfl ht.time.2
      ht.unexpired (h.unseen r List.mem_cons_self)
  · rw [Connection.acceptedChunk, ServerState.openObjChunk, hkeys, except_ok_bind, hopen,
      except_ok_bind]
    dsimp only
    rw [hcheck]
    rfl

lemma attempt_chunk (h : Ready P ccfg p w (r :: rs)) {env : Envelope} {data chunk : Bytes} {o : Uuid}
    {chunkIndex : ℤ}
    (harrives : Arrives P (w.session.header P ccfg r.client .objChunk p.cred.version r.client.time) env
      p.keys.ed25519 data)
    (hopen : decryptChunkTo P env p.serverKeys.x25519 env.payload = .ok (o, chunkIndex, chunk))
    (hallowed : Allowed w.server.permissions (w.session.identity.identityUuid P ccfg) o "WRITE") :
    w.server.attempt P scfg r.server env =
      let (stored, objects) := (hearing P ccfg w r).storeChunk P o chunkIndex chunk
      (do return .message (← encodeResponseMessage (infoResponse (← stored))),
        (hearing P ccfg w r).withObjects objects) := by
  obtain ⟨⟨kind, hauth⟩, htype, haccepted⟩ :=
    chunk_arrives h harrives hopen hallowed
  rw [Connection.attempt, hauth]
  dsimp only
  rw [if_pos htype]
  change (hearing P ccfg w r).handleObjChunk P env = _
  rw [Connection.handleObjChunk, haccepted]

lemma link_sendChunk (hP : Lawful P) (h : Ready P ccfg p w (r :: rs)) {o : Uuid} {chunkIndex : ℤ}
    {chunk body : Bytes} {info : ObjectInfo} {objects : ObjectStore}
    (hindex : 0 ≤ chunkIndex ∧ chunkIndex < 2 ^ 64) (hsize : 227 + chunk.length ≤ maxFrameSize)
    (hallowed : Allowed w.server.permissions (w.session.identity.identityUuid P ccfg) o "WRITE")
    (hstored : (hearing P ccfg w r).storeChunk P o chunkIndex chunk = (.ok info, objects))
    (hbody : encodeResponseMessage (infoResponse info) = .ok body)
    (hfits : 218 + body.length ≤ maxFrameSize) :
    sendChunk P ccfg (link P scfg) o chunkIndex chunk (w, r :: rs) =
      (.ok (infoResponse info), ({ w with server := (hearing P ccfg w r).withObjects objects }, rs)) := by
  obtain ⟨env, data, hsend, harrives, hopen⟩ :=
    sendChunk_sent hP h.enrolled (h.timely r List.mem_cons_self) o hindex hsize
  have hsession := fromSession_of_arrives harrives
  have hattempt : w.server.attempt P scfg r.server env =
      (.ok (.message body), (hearing P ccfg w r).withObjects objects) := by
    rw [attempt_chunk h harrives hopen hallowed, hstored]
    dsimp only
    rw [except_ok_bind, hbody]
    rfl
  have hexchange := exchange_response hP (h.timely r List.mem_cons_self) hsend harrives.parse hsession
    hattempt rfl h.enrolled hbody rfl hfits rfl fun _ => rfl
  simp only [sendChunk, link, hexchange, Outcome.bind, responseOf]

lemma link_requestChunk (hP : Lawful P) (h : Ready P ccfg p w (r :: rs)) {o : Uuid} {chunkIndex : ℤ}
    {inner chunk : Bytes} (hindex : 0 ≤ chunkIndex ∧ chunkIndex < 2 ^ 64)
    (hinner : encodeRequestMessage
      { op := Op.readChunk.code, objectUuid := some o, fileSize := chunkIndex } = .ok inner)
    (hsize : 218 + inner.length ≤ maxFrameSize)
    (hanswer : ∀ env, FromSession P ccfg p w.session env →
      (hearing P ccfg w r).answer scfg env
        { op := Op.readChunk.code, objectUuid := some o, fileSize := chunkIndex } =
          (.ok (.chunk o chunkIndex chunk), hearing P ccfg w r))
    (hfits : 227 + chunk.length ≤ maxFrameSize) :
    requestChunk P ccfg (link P scfg) o chunkIndex (w, r :: rs) =
      (.ok chunk, ({ w with server := hearing P ccfg w r }, rs)) := by
  have ht := h.timely r List.mem_cons_self
  obtain ⟨env, data, hsend, harrives, hopen⟩ := request_sent hP h.enrolled ht hinner hsize
  have hsession := fromSession_of_arrives harrives
  have hattempt : w.server.attempt P scfg r.server env = _ :=
    (attempt_request scfg h hinner harrives hopen).trans (hanswer env hsession)
  have he : Enrolled P ccfg p w.session (hearing P ccfg w r).state := h.enrolled
  obtain ⟨reply, answer, hreply, hencode, hlen, hread, hchunk⟩ :=
    replies_chunk scfg hP he ht hsession o hindex hfits
  have hframe := handleRelay_ok harrives.parse hattempt rfl hreply hencode hlen
  have hreceive : (ClientSession.requestChunk P ccfg r.client o chunkIndex).receive w.session
      ⟨channelRelay, answer⟩ = (.ok (.chunk chunk), w.session) := by
    simp only [Exchange.receive, ClientSession.requestChunk, relayEnvelope, if_neg (not_not.mpr rfl),
      hread, hchunk]
    rfl
  have hexchange := exchange_delivered
    (x := ClientSession.requestChunk P ccfg r.client o chunkIndex) hsend hframe
  rw [hreceive] at hexchange
  simp only [requestChunk, link, hexchange, Outcome.bind, chunkOf]

end Exchanges

-- what `write_object` is called with
structure Upload where
  objectUuid : Uuid
  fileType : String
  metadata : String
  data : Bytes

namespace Upload

variable (P : Primitives) (u : Upload)

def count : ℕ := blockCount Server.chunkSize u.data

-- an empty object is never finalized
def integrity : String := if u.data = [] then "" else ObjectStore.hexdigest P u.data

def row (contentIntegrity : String) : ObjectInfo :=
  ⟨u.objectUuid, u.fileType, u.data.length, u.metadata, contentIntegrity⟩

-- Python holds the data, and the frames of the WRITE request and of the replies hold the rest
structure Fits : Prop where
  data : u.data.length < 2 ^ 63
  request : 252 + (utf8 u.fileType).length + (utf8 u.metadata).length ≤ maxFrameSize
  reply : 276 + (utf8 u.fileType).length + (utf8 (u.integrity P)).length ≤ maxFrameSize

structure Stored (k : ℕ) (st : ObjectStore) : Prop where
  row : st.objects.get? u.objectUuid =
    some (u.row (if k < u.count then "" else u.integrity P))
  content : st.content? u.objectUuid =
    if k = 0 then none else some (u.data.take (k * Server.chunkSize))

variable {P u} {k : ℕ} {st : ObjectStore}

lemma lt_count : k < u.count ↔ k * Server.chunkSize < u.data.length :=
  lt_blockCount (by decide)

lemma stored_create (hfits : u.Fits P) (hrow : st.objects.get? u.objectUuid = none)
    (hfile : st.content? u.objectUuid = none) : ∃ st',
      st.create u.objectUuid u.fileType u.data.length u.metadata = (.ok (u.row ""), st') ∧
      u.Stored P 0 st' := by
  have hsize : ¬ ((u.data.length : ℤ) < -maxInt64 ∨ maxInt64 ≤ (u.data.length : ℤ)) := by
    have := hfits.data
    rw [maxInt64]
    omega
  have hget : (st.objects.set (u.row "")).get? u.objectUuid = some (u.row "") :=
    (Table.get?_set _ _ _).trans (if_pos rfl)
  refine ⟨⟨st.objects.set (u.row ""), st.files⟩, ?_, ?_, hfile⟩
  · rw [ObjectStore.create, if_neg (by rw [hrow]; decide), if_neg hsize]
    have hinfo : (⟨st.objects.set (u.row ""), st.files⟩ : ObjectStore).info u.objectUuid =
        .ok (u.row "") := ObjectStore.info_of_get? hget
    exact congrArg (·, _) hinfo
  · rw [hget]
    split
    · rfl
    · rename_i hcount
      have hempty : u.data = [] := by
        by_contra hdata
        exact hcount (Nat.pos_of_ne_zero (blockCount_ne_zero (by decide) hdata))
      rw [integrity, if_pos hempty]

lemma stored_chunk (conn : Connection) (hst : u.Stored P k conn.objects) (hk : k < u.count) :
    ∃ st', conn.storeChunk P u.objectUuid k (block Server.chunkSize u.data k) =
        (.ok (u.row ""), st') ∧ u.Stored P (k + 1) st' := by
  have hlt := lt_count.mp hk
  have hdata : u.data ≠ [] := by
    rintro hnil
    rw [hnil, List.length_nil] at hlt
    omega
  have hrow := hst.row
  rw [if_pos hk] at hrow
  have hstored : (conn.objects.content? u.objectUuid).getD [] ++ block Server.chunkSize u.data k =
      u.data.take ((k + 1) * Server.chunkSize) := by
    have hbefore : (conn.objects.content? u.objectUuid).getD [] =
        u.data.take (k * Server.chunkSize) := by
      rw [hst.content]
      split
      · rename_i hzero
        rw [hzero, Nat.zero_mul, List.take_zero, Option.getD_none]
      · rw [Option.getD_some]
    rw [hbefore, take_append_block]
  have hcontent : (conn.objects.appendFile u.objectUuid (block Server.chunkSize u.data k)).content?
      u.objectUuid = some (u.data.take ((k + 1) * Server.chunkSize)) := by
    rw [ObjectStore.content?_appendFile, hstored]
  have hstore := Connection.storeChunk_open (P := P) hrow rfl k (block Server.chunkSize u.data k)
  rw [hstored] at hstore
  dsimp only at hstore
  rw [show (u.row "").fileSize = u.data.length from rfl] at hstore
  by_cases hlast : k + 1 < u.count
  · have hmore := lt_count.mp hlast
    rw [if_neg (by rw [List.length_take]; omega)] at hstore
    refine ⟨_, hstore, ?_, ?_⟩
    · rw [if_pos hlast]
      exact hrow
    · rw [if_neg (Nat.succ_ne_zero k)]
      exact hcontent
  · have hfull : u.data.take ((k + 1) * Server.chunkSize) = u.data :=
      take_of_blockCount_le (by decide) (not_lt.mp hlast)
    rw [hfull] at hstore hcontent
    rw [if_pos (le_refl _), if_neg (not_not.mpr rfl)] at hstore
    refine ⟨_, hstore, ?_, ?_⟩
    · rw [if_neg hlast, integrity, if_neg hdata]
      exact (Table.get?_set _ _ _).trans (if_pos rfl)
    · rw [if_neg (Nat.succ_ne_zero k), hfull]
      exact hcontent

section Transfer

variable (P : Primitives) (ccfg : ClientConfig)

structure Uploading (p : Parties) (u : Upload) (k : ℕ) (w : World) (rs : List Round) : Prop where
  ready : Ready P ccfg p w rs
  writes : Allowed w.server.permissions (w.session.identity.identityUuid P ccfg) u.objectUuid "WRITE"
  reads : Allowed w.server.permissions (w.session.identity.identityUuid P ccfg) u.objectUuid "READ"
  stored : u.Stored P k w.server.objects

variable {P ccfg} {p : Parties} {w : World} {r : Round} {rs : List Round}

lemma reply_ok (hfits : u.Fits P) (contentIntegrity : String)
    (hintegrity : contentIntegrity = "" ∨ contentIntegrity = u.integrity P) :
    ∃ body, encodeResponseMessage (infoResponse (u.row contentIntegrity)) = .ok body ∧
      218 + body.length ≤ maxFrameSize := by
  have hreply := hfits.reply
  have hdata := hfits.data
  have hle : (utf8 contentIntegrity).length ≤ (utf8 (u.integrity P)).length := by
    rcases hintegrity with rfl | rfl
    · exact Nat.zero_le _
    · exact le_refl _
  rw [maxFrameSize] at hreply ⊢
  obtain ⟨body, hbody, hlen⟩ := infoResponse_writes (u.row contentIntegrity)
    ⟨Int.natCast_nonneg _, show (u.data.length : ℤ) < 2 ^ 64 by omega⟩
    (show (utf8 u.fileType).length < 2 ^ 32 by omega)
    (show (utf8 contentIntegrity).length < 2 ^ 32 by omega)
  have hlen' : body.length = 58 + (utf8 u.fileType).length + (utf8 contentIntegrity).length := hlen
  exact ⟨body, hbody, by omega⟩

lemma write_request (hdata : u.data.length < 2 ^ 63)
    (htexts : (utf8 u.fileType).length + (utf8 u.metadata).length < 2 ^ 32) :
    ∃ inner, encodeRequestMessage
        { op := Op.write.code, objectUuid := some u.objectUuid, fileType := u.fileType
          fileSize := u.data.length, metadata := u.metadata } = .ok inner ∧
      inner.length = 34 + (utf8 u.fileType).length + (utf8 u.metadata).length :=
  encodeRequestMessage_writes _ (show 0 ≤ Op.write.code ∧ Op.write.code < 2 ^ 8 by decide)
    (show 0 ≤ (u.data.length : ℤ) ∧ (u.data.length : ℤ) < 2 ^ 64 by omega)
    (show (utf8 u.fileType).length < 2 ^ 32 by omega)
    (show (utf8 u.metadata).length < 2 ^ 32 by omega)

lemma write_accepted (scfg : ServerConfig) (hP : Lawful P) (h : Ready P ccfg p w (r :: rs)) (hfits : u.Fits P)
    (hwrites : Allowed w.server.permissions (w.session.identity.identityUuid P ccfg) u.objectUuid
      "WRITE")
    (hreads : Allowed w.server.permissions (w.session.identity.identityUuid P ccfg) u.objectUuid
      "READ")
    (hrow : w.server.objects.objects.get? u.objectUuid = none)
    (hfile : w.server.objects.content? u.objectUuid = none) :
    ∃ w', request P ccfg (link P scfg)
        { op := Op.write.code, objectUuid := some u.objectUuid, fileType := u.fileType
          fileSize := u.data.length, metadata := u.metadata } (w, r :: rs) =
        (.ok (infoResponse (u.row "")), (w', rs)) ∧ Uploading P ccfg p u 0 w' rs := by
  obtain ⟨st, hcreate, hstored⟩ := stored_create hfits hrow hfile
  obtain ⟨body, hbody, hreply⟩ := reply_ok hfits "" (Or.inl rfl)
  have hrequest := hfits.request
  have hdata := hfits.data
  rw [maxFrameSize] at hrequest
  obtain ⟨inner, hinner, hlen⟩ := write_request hdata (by omega)
  refine ⟨_, link_request hP h hinner (by rw [maxFrameSize]; omega) ?_ (Connection.caught_ok _) hbody rfl hreply,
    h.next st, hwrites, hreads, hstored⟩
  intro env henv
  have hallowed : Allowed (hearing P ccfg w r).permissions env.senderUuid u.objectUuid "WRITE" := by
    rw [henv.sender]
    exact hwrites
  rw [Connection.answer, if_pos rfl, Connection.handleWrite]
  dsimp only
  rw [Connection.requestedObject_ok hallowed]
  dsimp only
  rw [show (hearing P ccfg w r).objects = w.server.objects from rfl, hcreate]
  dsimp only
  rw [except_ok_bind, hbody]
  rfl

lemma chunk_accepted (scfg : ServerConfig) (hP : Lawful P) (hfits : u.Fits P) (h : Uploading P ccfg p u k w (r :: rs))
    (hk : k < u.count) :
    ∃ w', sendChunk P ccfg (link P scfg) u.objectUuid k (block Server.chunkSize u.data k)
        (w, r :: rs) = (.ok (infoResponse (u.row "")), (w', rs)) ∧
      Uploading P ccfg p u (k + 1) w' rs := by
  obtain ⟨st, hstore, hstored⟩ := stored_chunk (hearing P ccfg w r) h.stored hk
  obtain ⟨body, hbody, hreply⟩ := reply_ok hfits "" (Or.inl rfl)
  have hlt := lt_count.mp hk
  have hdata := hfits.data
  have hblock : (block Server.chunkSize u.data k).length ≤ Server.chunkSize := length_block_le k
  rw [Server.chunkSize] at hlt hblock
  refine ⟨_, link_sendChunk hP h.ready (by omega) ?_ h.writes hstore hbody hreply,
    h.ready.next st, h.writes, h.reads, hstored⟩
  rw [maxFrameSize, Server.chunkSize]
  omega

lemma upload_chunks (scfg : ServerConfig) (hP : Lawful P) (hfits : u.Fits P) (j : ℕ) (hj : k + j = u.count)
    (hrs : j ≤ rs.length) (h : Uploading P ccfg p u k w rs) :
    ∃ w', writeChunks P ccfg (link P scfg) u.objectUuid u.data (k * Server.chunkSize) (w, rs) =
        (.ok (), (w', rs.drop j)) ∧ Uploading P ccfg p u u.count w' (rs.drop j) := by
  induction j generalizing k w rs with
  | zero =>
    obtain rfl : k = u.count := by omega
    have hdone : ¬ u.count * Server.chunkSize < u.data.length := fun hlt =>
      absurd (lt_count.mpr hlt) (lt_irrefl _)
    refine ⟨w, ?_, h⟩
    rw [writeChunks, if_neg hdone, List.drop_zero]
  | succ j ih =>
    have hk : k < u.count := by omega
    obtain ⟨r, rs, rfl⟩ := List.exists_cons_of_length_pos (show 0 < rs.length by omega)
    obtain ⟨w₁, hsend, hnext⟩ := chunk_accepted scfg hP hfits h hk
    obtain ⟨w', hrest, hfinal⟩ := ih (by omega) (by simpa using hrs) hnext
    refine ⟨w', ?_, hfinal⟩
    have hsame : Client.chunkSize = Server.chunkSize := rfl
    have hindex : k * Server.chunkSize / Server.chunkSize = k := Nat.mul_div_cancel k (by decide)
    have hstep : k * Server.chunkSize + Server.chunkSize = (k + 1) * Server.chunkSize :=
      (Nat.add_one_mul k _).symm
    rw [writeChunks, if_pos (lt_count.mp hk)]
    dsimp only
    rw [hsame, hindex, hstep]
    rw [show (u.data.drop (k * Server.chunkSize)).take Server.chunkSize =
      block Server.chunkSize u.data k from rfl, hsend]
    rw [Outcome.ok_bind]
    rw [infoResponse_status, if_neg (not_not.mpr rfl), hrest]
    rfl

lemma request_small (op : Op) (o : Uuid) {n : ℤ} (hn : 0 ≤ n ∧ n < 2 ^ 64) :
    ∃ inner, encodeRequestMessage { op := op.code, objectUuid := some o, fileSize := n } = .ok inner ∧
      218 + inner.length ≤ maxFrameSize := by
  have hop : 0 ≤ op.code ∧ op.code < 2 ^ 8 := by cases op <;> decide
  have hempty : (utf8 "").length < 2 ^ 32 := by decide
  obtain ⟨inner, hinner, hlen⟩ := encodeRequestMessage_writes
    { op := op.code, objectUuid := some o, fileSize := n } hop hn hempty hempty
  have hsmall : inner.length = 34 := hlen
  exact ⟨inner, hinner, by rw [hsmall]; decide⟩

lemma read_accepted (scfg : ServerConfig) (hP : Lawful P) (hfits : u.Fits P)
    (h : Uploading P ccfg p u u.count w (r :: rs)) :
    ∃ w', request P ccfg (link P scfg)
        { op := Op.read.code, objectUuid := some u.objectUuid } (w, r :: rs) =
        (.ok (infoResponse (u.row (u.integrity P))), (w', rs)) ∧
      Uploading P ccfg p u u.count w' rs := by
  obtain ⟨body, hbody, hreply⟩ := reply_ok hfits _ (Or.inr rfl)
  obtain ⟨inner, hinner, hsmall⟩ := request_small .read u.objectUuid (n := 0) (by decide)
  refine ⟨_, link_request hP h.ready hinner hsmall ?_ (Connection.caught_ok _) hbody rfl hreply,
    h.ready.next w.server.objects, h.writes, h.reads, h.stored⟩
  intro env henv
  have hallowed : Allowed (hearing P ccfg w r).permissions env.senderUuid u.objectUuid "READ" := by
    rw [henv.sender]
    exact h.reads
  have hrow := h.stored.row
  rw [if_neg (lt_irrefl _)] at hrow
  rw [Connection.answer_read, Connection.handleRead_row rfl hallowed hrow, hbody]
  rfl

lemma chunk_read (scfg : ServerConfig) (hP : Lawful P) (hfits : u.Fits P) (h : Uploading P ccfg p u u.count w (r :: rs))
    (hk : k < u.count) :
    ∃ w', requestChunk P ccfg (link P scfg) u.objectUuid k (w, r :: rs) =
        (.ok (block Server.chunkSize u.data k), (w', rs)) ∧
      Uploading P ccfg p u u.count w' rs := by
  have hlt := lt_count.mp hk
  have hdata := hfits.data
  have hne : block Server.chunkSize u.data k ≠ [] := block_ne_nil (by decide) hlt
  have hblock : (block Server.chunkSize u.data k).length ≤ Server.chunkSize := length_block_le k
  rw [Server.chunkSize] at hlt hblock
  obtain ⟨inner, hinner, hsmall⟩ := request_small .readChunk u.objectUuid (n := k) (by omega)
  refine ⟨_, link_requestChunk hP h.ready (by omega) hinner hsmall ?_
    (by rw [maxFrameSize, Server.chunkSize]; omega),
    h.ready.next w.server.objects, h.writes, h.reads, h.stored⟩
  intro env henv
  have hallowed : Allowed (hearing P ccfg w r).permissions env.senderUuid u.objectUuid "READ" := by
    rw [henv.sender]
    exact h.reads
  have hcontent := h.stored.content
  rw [if_neg (by omega : u.count ≠ 0), take_of_blockCount_le (by decide) (le_refl u.count)] at hcontent
  rw [Connection.answer_readChunk, Connection.handleReadChunk_filed rfl hallowed h.stored.row hcontent rfl,
    if_neg (by rw [maxInt64, Server.chunkSize]; omega),
    if_neg (by rw [ObjectStore.maxSeek, Server.chunkSize]; omega), if_neg hne]

-- one turn of the loop of `read_object`
lemma readChunks_block {scfg : ServerConfig} {content : Bytes} {size : ℤ} {o : Uuid} {line line' : Line}
    (hmore : ((content.take (k * Server.chunkSize)).length : ℤ) < size)
    (hk : k * Server.chunkSize < content.length)
    (hchunk : requestChunk P ccfg (link P scfg) o k line = (.ok (block Server.chunkSize content k), line')) :
    readChunks P ccfg (link P scfg) o size (content.take (k * Server.chunkSize)) k line =
      readChunks P ccfg (link P scfg) o size (content.take ((k + 1) * Server.chunkSize)) (k + 1) line' := by
  rw [readChunks, if_pos hmore, hchunk]
  rw [Outcome.ok_bind]
  rw [if_neg (block_ne_nil (by decide) hk), take_append_block]

lemma download_chunks (scfg : ServerConfig) (hP : Lawful P) (hfits : u.Fits P) (j : ℕ) (hj : k + j = u.count)
    (hrs : j ≤ rs.length) (h : Uploading P ccfg p u u.count w rs) :
    ∃ line, readChunks P ccfg (link P scfg) u.objectUuid u.data.length
      (u.data.take (k * Server.chunkSize)) k (w, rs) = (.ok u.data, line) := by
  induction j generalizing k w rs with
  | zero =>
    have hall : u.data.take (k * Server.chunkSize) = u.data := take_of_blockCount_le (by decide) hj.ge
    refine ⟨(w, rs), ?_⟩
    rw [hall, readChunks, if_neg (lt_irrefl _)]
  | succ j ih =>
    have hk : k < u.count := by omega
    have hlt := lt_count.mp hk
    obtain ⟨r, rs, rfl⟩ := List.exists_cons_of_length_pos (show 0 < rs.length by omega)
    obtain ⟨w₁, hread, hnext⟩ := chunk_read scfg hP hfits h hk
    obtain ⟨line, hrest⟩ := ih (k := k + 1) (by omega) (by simpa using hrs) hnext
    refine ⟨line, ?_⟩
    rw [readChunks_block (by rw [List.length_take]; omega) hlt hread, hrest]

lemma write_too_large (scfg : ServerConfig) (hP : Lawful P) (h : Ready P ccfg p w (r :: rs))
    (hdata : u.data.length < 2 ^ 63)
    (hlong : (utf8 u.fileType).length + (utf8 u.metadata).length < 2 ^ 30)
    (hsize : maxFrameSize < 252 + (utf8 u.fileType).length + (utf8 u.metadata).length) :
    (writeObject P ccfg (link P scfg) u.objectUuid u.fileType u.data u.metadata (w, r :: rs)).1 =
      .error (.frameError "frame too large") := by
  obtain ⟨inner, hinner, hlen⟩ := write_request hdata (by omega)
  have hsend := request_too_large hP h.enrolled (h.timely r List.mem_cons_self) hinner (by omega)
    (by omega)
  have hrejected := congrArg Prod.fst
    (link_unsent (P := P) scfg (w := w) (r := r) rs hsend)
  rw [writeObject]
  exact Outcome.fst_bind_error hrejected _

lemma write_object (scfg : ServerConfig) (hP : Lawful P) (h : Ready P ccfg p w rs) (hfits : u.Fits P)
    (hrounds : u.count + 1 ≤ rs.length)
    (hwrites : Allowed w.server.permissions (w.session.identity.identityUuid P ccfg) u.objectUuid "WRITE")
    (hreads : Allowed w.server.permissions (w.session.identity.identityUuid P ccfg) u.objectUuid "READ")
    (hrow : w.server.objects.objects.get? u.objectUuid = none)
    (hfile : w.server.objects.content? u.objectUuid = none) :
    ∃ w', writeObject P ccfg (link P scfg) u.objectUuid u.fileType u.data u.metadata (w, rs) =
        (.ok (), (w', rs.drop (u.count + 1))) ∧
      Uploading P ccfg p u u.count w' (rs.drop (u.count + 1)) := by
  obtain ⟨r, rs, rfl⟩ := List.exists_cons_of_length_pos (show 0 < rs.length by omega)
  rw [List.length_cons] at hrounds
  obtain ⟨w₀, hwrite, hstart⟩ := write_accepted scfg hP h hfits hwrites hreads hrow hfile
  obtain ⟨w₁, hchunks, hstored⟩ := upload_chunks scfg hP hfits u.count (Nat.zero_add _) (by omega) hstart
  refine ⟨w₁, ?_, hstored⟩
  rw [writeObject, hwrite]
  rw [Outcome.ok_bind]
  rw [infoResponse_status, if_neg (not_not.mpr rfl)]
  rw [Nat.zero_mul] at hchunks
  exact hchunks

lemma verified_integrity : verified P (u.integrity P) u.data = .ok u.data := by
  rw [verified, integrity]
  split
  · rfl
  · exact if_neg fun h => h.2 rfl

end Transfer

end Upload

theorem upload_then_download (P : Primitives) (hP : Lawful P) (ccfg : ClientConfig)
    (scfg : ServerConfig) (p : Parties) (w : World) (rs : List Round) (u : Upload)
    (hready : Ready P ccfg p w rs) (hrounds : 2 * u.count + 2 ≤ rs.length)
    (hwrites : Allowed w.server.permissions (w.session.identity.identityUuid P ccfg) u.objectUuid
      "WRITE")
    (hreads : Allowed w.server.permissions (w.session.identity.identityUuid P ccfg) u.objectUuid
      "READ")
    (hrow : w.server.objects.objects.get? u.objectUuid = none)
    (hfile : w.server.objects.content? u.objectUuid = none) (hfits : u.Fits P) :
    ∃ line, writeObject P ccfg (link P scfg) u.objectUuid u.fileType u.data u.metadata (w, rs) =
        (.ok (), line) ∧
      (readObject P ccfg (link P scfg) u.objectUuid line).1 = .ok u.data ∧
      (u.data ≠ [] → ∃ info, line.1.server.objects.info u.objectUuid = .ok info ∧
        info.contentIntegrity = ObjectStore.hexdigest P u.data) := by
  obtain ⟨w₁, hwrite, hstored⟩ := Upload.write_object scfg hP hready hfits (by omega) hwrites hreads hrow hfile
  refine ⟨(w₁, rs.drop (u.count + 1)), hwrite, ?_, ?_⟩
  · have hleft : u.count + 1 ≤ (rs.drop (u.count + 1)).length := by
      rw [List.length_drop]
      omega
    obtain ⟨r', rs', hrs'⟩ :=
      List.exists_cons_of_length_pos (show 0 < (rs.drop (u.count + 1)).length by omega)
    rw [hrs', List.length_cons] at hleft
    rw [hrs'] at hstored ⊢
    obtain ⟨w₂, hread, hopened⟩ := Upload.read_accepted scfg hP hfits hstored
    obtain ⟨line, hcontent⟩ := Upload.download_chunks scfg (k := 0) hP hfits u.count
      (Nat.zero_add _) (by omega) hopened
    rw [Nat.zero_mul, List.take_zero] at hcontent
    rw [readObject, hread]
    rw [Outcome.ok_bind]
    rw [infoResponse_status, if_neg (not_not.mpr rfl)]
    have hsize : (infoResponse (u.row (u.integrity P))).fileSize = u.data.length := rfl
    rw [hsize, hcontent]
    exact Upload.verified_integrity
  · intro hdata
    have hrow := hstored.stored.row
    rw [if_neg (lt_irrefl _)] at hrow
    refine ⟨_, ObjectStore.info_of_get? hrow, ?_⟩
    exact if_neg hdata

def demoRounds : List Round :=
  [demoRound 1, demoRound 2, demoRound 3, demoRound 4, demoRound 5, demoRound 6, demoRound 7]

lemma ready_demo : Ready tagged demoClient demoParties demoWorld demoRounds where
  enrolled := enrolled_demo
  timely := by
    intro r hr
    simp only [demoRounds, List.mem_cons, List.not_mem_nil, or_false] at hr
    rcases hr with rfl | rfl | rfl | rfl | rfl | rfl | rfl <;> exact timely_demo _
  fresh := by decide
  unseen := by
    have hnone : demoWorld.server.auth.replay.entries = [] := by decide +kernel
    intro r _
    rw [hnone]
    exact List.not_mem_nil

lemma allowed_demo (operation : String) (h : operation = "WRITE" ∨ operation = "READ") :
    Allowed demoWorld.server.permissions
      (demoWorld.session.identity.identityUuid tagged demoClient) Uuid.nil operation := by
  refine ⟨⟨demoIdentity, Uuid.nil, operation, "ALLOW"⟩, ?_, rfl⟩
  rcases h with rfl | rfl <;> decide +kernel

lemma absent_demo : demoWorld.server.objects.objects.get? Uuid.nil = none ∧
    demoWorld.server.objects.content? Uuid.nil = none := by
  decide +kernel

def twoChunks : Bytes := List.replicate Server.chunkSize 0 ++ [1]

lemma length_twoChunks : twoChunks.length = 65537 := by
  rw [twoChunks, List.length_append, List.length_replicate]
  rfl

lemma blockCount_twoChunks : blockCount Server.chunkSize twoChunks = 2 := by
  rw [blockCount, length_twoChunks]
  rfl

lemma block_twoChunks : block Server.chunkSize twoChunks 0 = List.replicate Server.chunkSize 0 ∧
    block Server.chunkSize twoChunks 1 = [1] := by
  have hlen : (List.replicate Server.chunkSize (0 : UInt8)).length = Server.chunkSize := List.length_replicate
  constructor
  · rw [block, Nat.zero_mul, List.drop_zero, twoChunks, List.take_left' hlen]
  · rw [block, Nat.one_mul, twoChunks, List.drop_left' hlen]
    exact List.take_of_length_le (by decide)

lemma blocks_twoChunks : blocks Server.chunkSize twoChunks = [List.replicate Server.chunkSize 0, [1]] := by
  rw [blocks, blockCount_twoChunks, List.range_succ, List.range_one, List.map_append, List.map_singleton,
    List.map_singleton, block_twoChunks.1, block_twoChunks.2, List.singleton_append]

def demoUpload : Upload := ⟨Uuid.nil, "text/plain", "\x7b\x7d", twoChunks⟩

lemma count_demo : demoUpload.count = 2 := blockCount_twoChunks

lemma demo_nonempty : demoUpload.data ≠ [] :=
  List.append_ne_nil_of_right_ne_nil _ (List.cons_ne_nil _ _)

lemma fits_demo : demoUpload.Fits tagged where
  data := by
    rw [show demoUpload.data.length = 65537 from length_twoChunks]
    decide
  request := by decide +kernel
  reply := by
    rw [Upload.integrity, if_neg demo_nonempty, ObjectStore.hexdigest_length sha256_tagged]
    decide +kernel

theorem two_chunks_then_download :
    ∃ line, writeObject tagged demoClient (link tagged demoServer) Uuid.nil "text/plain" twoChunks
        "\x7b\x7d" (demoWorld, demoRounds) = (.ok (), line) ∧
      (readObject tagged demoClient (link tagged demoServer) Uuid.nil line).1 = .ok twoChunks := by
  obtain ⟨line, hwrite, hread, _⟩ := upload_then_download tagged lawful_tagged demoClient demoServer
    demoParties demoWorld demoRounds demoUpload ready_demo (by rw [count_demo]; decide)
    (allowed_demo _ (Or.inl rfl)) (allowed_demo _ (Or.inr rfl)) absent_demo.1 absent_demo.2 fits_demo
  exact ⟨line, hwrite, hread⟩

def longText : ℕ → String
  | 0 => ""
  | n + 1 => (longText n).push 'a'

lemma length_longText (n : ℕ) : (utf8 (longText n)).length = n := by
  induction n with
  | zero => rfl
  | succ n ih =>
    rw [utf8_length] at ih ⊢
    rw [longText, String.utf8ByteSize_push, ih]
    rfl

-- the metadata of an empty object fill a frame by themselves
theorem long_metadata_rejected :
    ¬ ∀ (P : Primitives), Lawful P → ∀ (ccfg : ClientConfig) (scfg : ServerConfig) (p : Parties)
      (w : World) (rs : List Round) (u : Upload), Ready P ccfg p w rs → 2 * u.count + 2 ≤ rs.length →
      Allowed w.server.permissions (w.session.identity.identityUuid P ccfg) u.objectUuid "WRITE" →
      Allowed w.server.permissions (w.session.identity.identityUuid P ccfg) u.objectUuid "READ" →
      w.server.objects.objects.get? u.objectUuid = none →
      w.server.objects.content? u.objectUuid = none → u.data.length < 2 ^ 63 →
      ∃ line, writeObject P ccfg (link P scfg) u.objectUuid u.fileType u.data u.metadata (w, rs) =
          (.ok (), line) ∧
        (readObject P ccfg (link P scfg) u.objectUuid line).1 = .ok u.data := by
  intro h
  obtain ⟨metadata, hlen⟩ : ∃ metadata, (utf8 metadata).length = 2 ^ 26 := ⟨_, length_longText _⟩
  obtain ⟨line, hwrite, _⟩ := h tagged lawful_tagged demoClient demoServer demoParties demoWorld
    demoRounds ⟨Uuid.nil, "", metadata, []⟩ ready_demo (by show 2 * blockCount _ [] + 2 ≤ 7; decide)
    (allowed_demo _ (Or.inl rfl)) (allowed_demo _ (Or.inr rfl)) absent_demo.1 absent_demo.2
    (by show (0 : ℕ) < 2 ^ 63; decide)
  have hfails := Upload.write_too_large (u := ⟨Uuid.nil, "", metadata, []⟩) demoServer
    lawful_tagged ready_demo (by show (0 : ℕ) < 2 ^ 63; decide)
    (by dsimp only; rw [hlen]; decide) (by dsimp only; rw [hlen]; decide)
  rw [demoRounds] at hwrite
  rw [hwrite] at hfails
  exact absurd hfails nofun

end Secupload.System
