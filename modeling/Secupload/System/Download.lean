import Secupload.System.Answered
import Secupload.System.ChunkOrder

namespace Secupload.System

open Library Shared Client Server

section Definitions

variable (P : Primitives) (maxOffset : ℕ) (st : ObjectStore) (o : Uuid)

def Verified (content : Bytes) : Prop :=
  ∃ row, st.objects.get? o = some row ∧ (content.length : ℤ) = row.fileSize ∧
    (row.contentIntegrity ≠ "" ∧ row.contentIntegrity = ObjectStore.hexdigest P content ∨
      row.contentIntegrity = "" ∧ row.fileSize = 0)

inductive ReadsVerified : Except Exn Bytes → Prop
  | content {content : Bytes} (hverified : Verified P st o content) : ReadsVerified (.ok content)
  | refused (code message : String) : ReadsVerified (.error (.clientError code message))

def pastEnd (content : Bytes) : ℕ := blockCount Server.chunkSize content * Server.chunkSize

-- the reply to the READ request fits in a frame, and the object is finalized, or empty, or has a
-- file that is too short and past the end of which the server can seek
def Readable : Prop :=
  ∀ row ∈ st.objects.get? o,
    276 + (utf8 row.fileType).length + (utf8 row.contentIntegrity).length ≤ maxFrameSize ∧
    (row.contentIntegrity ≠ "" ∨ row.fileSize = 0 ∨ ∃ content ∈ st.content? o,
      (content.length : ℤ) < row.fileSize ∧ Connection.Seekable maxOffset content (pastEnd content))

instance : Decidable (Readable maxOffset st o) :=
  inferInstanceAs (Decidable (∀ row ∈ st.objects.get? o, _ ∧ (_ ∨ _ ∨ ∃ content ∈ st.content? o, _ ∧ _)))

end Definitions

section Exchanges

variable {P : Primitives} {ccfg : ClientConfig} {scfg : ServerConfig} {p : Parties} {w : World}
  {r : Round} {rs : List Round} {result : Except Exn Response} {objects : ObjectStore}

lemma exchange_dropped {x : Exchange} {sent : Sent} {waiting : ClientSession} {exc : Exn}
    (hsend : x.send w.session = (.ok sent, waiting))
    (hreply : (w.server.handleFrame P scfg r.server sent.frame).1 = .error exc) :
    (w.exchange P scfg x .delivered r.server).1 = .error (.frameError "connection closed by peer") := by
  simp only [World.exchange, World.answer, World.transmit, hsend, Exchange.perform, Outcome.bind, hreply]
  rfl

lemma link_lost (scfg : ServerConfig) (hP : Lawful P) (h : Ready P ccfg p w (r :: rs))
    {msg : RequestMessage} {inner : Bytes} (x : Client.Draw → Exchange) (hinner : encodeRequestMessage msg = .ok inner)
    (hsize : 218 + inner.length ≤ maxFrameSize)
    (hx : (x r.client).send = (ClientSession.request P ccfg r.client msg).send)
    (hlost : ∀ env, FromSession P ccfg p w.session env → Connection.Lost ((hearing P ccfg w r).answer scfg env msg).1) :
    (link P scfg x (w, r :: rs)).1 = .error (.frameError "connection closed by peer") := by
  have ht := h.timely r List.mem_cons_self
  obtain ⟨env, data, hsend, harrives, hopen⟩ := request_sent hP h.enrolled ht hinner hsize
  rw [← hx] at hsend
  have hattempt := hlost env (fromSession_of_arrives harrives)
  have hrequest : w.server.attempt P scfg r.server env = _ := attempt_request scfg h hinner harrives hopen
  rw [← hrequest] at hattempt
  obtain ⟨exc, hreply⟩ := handleRelay_lost hP ht.serverNonce ht.serverEphemeral harrives.parse hattempt
  refine exchange_dropped hsend (Eq.trans ?_ hreply)
  rw [handleFrame_relay rfl]

lemma link_refusedChunk (hP : Lawful P) (h : Ready P ccfg p w (r :: rs)) {o : Uuid} {chunkIndex : ℤ}
    {inner : Bytes} {result : Except Exn Response} (hinner : encodeRequestMessage
      { op := Op.readChunk.code, objectUuid := some o, fileSize := chunkIndex } = .ok inner)
    (hsize : 218 + inner.length ≤ maxFrameSize)
    (hanswer : ∀ env, FromSession P ccfg p w.session env →
      (hearing P ccfg w r).answer scfg env
        { op := Op.readChunk.code, objectUuid := some o, fileSize := chunkIndex } =
          (result, hearing P ccfg w r))
    (hrefuses : Connection.Refuses result) :
    ∃ message, (requestChunk P ccfg (link P scfg) o chunkIndex (w, r :: rs)).1 =
      .error (.clientError "CHUNK_READ_REJECTED" message) := by
  have ht := h.timely r List.mem_cons_self
  obtain ⟨message, body, hcaught, hbody, hfits⟩ := hrefuses
  obtain ⟨env, data, hsend, harrives, hopen⟩ := request_sent hP h.enrolled ht hinner hsize
  have hsession := fromSession_of_arrives harrives
  have hattempt : w.server.attempt P scfg r.server env = _ :=
    (attempt_request scfg h hinner harrives hopen).trans (hanswer env hsession)
  have he : Enrolled P ccfg p w.session (hearing P ccfg w r).state := h.enrolled
  obtain ⟨reply, answer, hreply, hencode, hlen, hread, hpayload, htype⟩ :=
    replies_message scfg hP he ht hsession hfits
  have hframe := handleRelay_ok harrives.parse hattempt hcaught hreply hencode hlen
  have hrejected : w.session.openChunkResponse P o chunkIndex reply =
      .error (.clientError "CHUNK_READ_REJECTED" message) := by
    rw [ClientSession.openChunkResponse, if_pos (by rw [htype]; decide), ClientSession.decryptRelayResponse,
      decryptResponse_keys he.currentKeys, hpayload, except_ok_bind, parse_encodeResponseMessage hbody]
    rfl
  have hreceive : (ClientSession.requestChunk P ccfg r.client o chunkIndex).receive w.session
      ⟨channelRelay, answer⟩ = (.error (.clientError "CHUNK_READ_REJECTED" message), w.session) := by
    simp only [Exchange.receive, ClientSession.requestChunk, relayEnvelope, if_neg (not_not.mpr rfl),
      hread, hrejected]
    rfl
  have hexchange := exchange_delivered
    (x := ClientSession.requestChunk P ccfg r.client o chunkIndex) hsend hframe
  rw [hreceive] at hexchange
  refine ⟨message, ?_⟩
  simp only [requestChunk, link, hexchange, Outcome.bind]

end Exchanges

structure Reading (P : Primitives) (ccfg : ClientConfig) (p : Parties) (o : Uuid) (st : ObjectStore)
    (w : World) (rs : List Round) : Prop where
  ready : Ready P ccfg p w rs
  reads : Allowed w.server.permissions (w.session.identity.identityUuid P ccfg) o "READ"
  store : w.server.objects = st

section Reading

variable {P : Primitives} {ccfg : ClientConfig} (scfg : ServerConfig) {p : Parties} {o : Uuid}
  {st : ObjectStore} {w : World} {r : Round} {rs : List Round} {row : ObjectInfo} {content : Bytes}
  {size : ℤ} {k : ℕ}

lemma Reading.next (h : Reading P ccfg p o st w (r :: rs)) :
    Reading P ccfg p o st { w with server := hearing P ccfg w r } rs :=
  ⟨h.ready.next w.server.objects, h.reads, h.store⟩

lemma Reading.allowed (h : Reading P ccfg p o st w (r :: rs)) {env : Envelope}
    (henv : FromSession P ccfg p w.session env) :
    Allowed (hearing P ccfg w r).permissions env.senderUuid o "READ" := by
  rw [henv.sender]
  exact h.reads

lemma Reading.filed (h : Reading P ccfg p o st w (r :: rs)) (hrow : st.objects.get? o = some row)
    (hfile : st.content? o = some content) (i : ℕ) {env : Envelope}
    (henv : FromSession P ccfg p w.session env) :
    (hearing P ccfg w r).answer scfg env { op := Op.readChunk.code, objectUuid := some o, fileSize := i } =
      (if maxInt64 ≤ i * Server.chunkSize then .error .valueError
      else if ObjectStore.maxSeek scfg.maxOffset content < i * Server.chunkSize then .error .osError
      else if block Server.chunkSize content i = [] then
        .error (.objectStoreError "NOT_FOUND" "chunk index out of range")
      else .ok (.chunk o i (block Server.chunkSize content i)), hearing P ccfg w r) := by
  have hst : (hearing P ccfg w r).objects = st := h.store
  rw [Connection.answer_readChunk, Connection.handleReadChunk_filed rfl (h.allowed henv) (by rw [hst]; exact hrow)
    (by rw [hst]; exact hfile) rfl]

lemma Reading.chunk (hP : Lawful P) (h : Reading P ccfg p o st w (r :: rs))
    (hrow : st.objects.get? o = some row) (hfile : st.content? o = some content)
    (hk : k * Server.chunkSize < content.length) (hbound : ((k * Server.chunkSize : ℕ) : ℤ) < maxInt64) :
    requestChunk P ccfg (link P scfg) o k (w, r :: rs) =
      (.ok (block Server.chunkSize content k), ({ w with server := hearing P ccfg w r }, rs)) := by
  have hblock : (block Server.chunkSize content k).length ≤ Server.chunkSize := length_block_le k
  rw [Server.chunkSize] at hblock
  rw [maxInt64, Server.chunkSize] at hbound
  obtain ⟨inner, hinner, hsmall⟩ := Upload.request_small .readChunk o (n := k) (by omega)
  refine link_requestChunk hP h.ready (by omega) hinner hsmall (fun env henv => ?_)
    (by rw [maxFrameSize, Server.chunkSize]; omega)
  rw [h.filed scfg hrow hfile k henv, if_neg (by rw [maxInt64, Server.chunkSize]; omega),
    if_neg (by rw [ObjectStore.maxSeek]; omega), if_neg (block_ne_nil (by decide) hk)]

lemma blockCount_small (hsize : (content.length : ℤ) < maxInt64) :
    (blockCount Server.chunkSize content : ℤ) < 2 ^ 64 := by
  rw [maxInt64] at hsize
  rw [blockCount, Server.chunkSize]
  omega

lemma Reading.past (hP : Lawful P) (h : Reading P ccfg p o st w (r :: rs))
    (hrow : st.objects.get? o = some row) (hfile : st.content? o = some content)
    (hk : content.length ≤ k * Server.chunkSize) (hsmall : (k : ℤ) < 2 ^ 64) :
    (Connection.Seekable scfg.maxOffset content (k * Server.chunkSize : ℕ) → ∃ message,
      (requestChunk P ccfg (link P scfg) o k (w, r :: rs)).1 =
        .error (.clientError "CHUNK_READ_REJECTED" message)) ∧
    (¬ Connection.Seekable scfg.maxOffset content (k * Server.chunkSize : ℕ) →
      (requestChunk P ccfg (link P scfg) o k (w, r :: rs)).1 =
        .error (.frameError "connection closed by peer")) := by
  obtain ⟨inner, hinner, hfits⟩ := Upload.request_small .readChunk o (n := k) ⟨by omega, hsmall⟩
  have hempty : block Server.chunkSize content k = [] := by
    rw [block, List.drop_of_length_le hk, List.take_nil]
  rw [Nat.cast_mul, Connection.Seekable]
  refine ⟨fun hreach => ?_, fun hbeyond => ?_⟩
  · have hrefuses := Connection.refuses_object "NOT_FOUND"
      (show (utf8 "chunk index out of range").length ≤ 1024 by decide)
    refine link_refusedChunk hP h.ready hinner hfits (fun env henv => ?_) hrefuses
    rw [h.filed scfg hrow hfile k henv, if_neg (by omega), if_neg (by omega), if_pos hempty]
  · have hlost := link_lost scfg hP h.ready (fun d => ClientSession.requestChunk P ccfg d o k)
      hinner hfits rfl fun env henv => by
        rw [h.filed scfg hrow hfile k henv]
        split_ifs with hint hlimit
        · exact Connection.lost_of_uncaught rfl
        · exact Connection.lost_of_uncaught rfl
        all_goals omega
    exact Outcome.fst_bind_error hlost _

lemma Reading.unfiled (hP : Lawful P) (h : Reading P ccfg p o st w (r :: rs))
    (hrow : st.objects.get? o = some row) (hfile : st.content? o = none) :
    (requestChunk P ccfg (link P scfg) o 0 (w, r :: rs)).1 =
      .error (.frameError "connection closed by peer") := by
  obtain ⟨inner, hinner, hfits⟩ := Upload.request_small .readChunk o (n := 0) (by decide)
  have hst : (hearing P ccfg w r).objects = st := h.store
  have hlost := link_lost scfg hP h.ready (fun d => ClientSession.requestChunk P ccfg d o 0)
    hinner hfits rfl fun env henv => by
      rw [Connection.answer_readChunk, Connection.handleReadChunk_unfiled rfl (h.allowed henv)
        (by rw [hst]; exact hrow) (by rw [hst]; exact hfile)]
      exact Connection.lost_of_uncaught rfl
  exact Outcome.fst_bind_error hlost _

lemma readChunks_error {data : Bytes} {line : Line} {exc : Exn} (hmore : (data.length : ℤ) < size)
    (h : (requestChunk P ccfg (link P scfg) o k line).1 = .error exc) :
    (readChunks P ccfg (link P scfg) o size data k line).1 = .error exc := by
  rw [readChunks, if_pos hmore]
  exact Outcome.fst_bind_error h _

lemma Reading.reach (hP : Lawful P) (hrow : st.objects.get? o = some row)
    (hfile : st.content? o = some content) (hsize : size ≤ content.length) (hbound : size < maxInt64)
    (j : ℕ) (hj : size ≤ ((k + j) * Server.chunkSize : ℕ)) (hrs : j ≤ rs.length)
    (h : Reading P ccfg p o st w rs) :
    ∃ m line, readChunks P ccfg (link P scfg) o size (content.take (k * Server.chunkSize)) k (w, rs) =
        (.ok (content.take (m * Server.chunkSize)), line) ∧
      size ≤ ((content.take (m * Server.chunkSize)).length : ℤ) := by
  induction j generalizing k w rs with
  | zero =>
    rw [Nat.add_zero] at hj
    have hdone : size ≤ ((content.take (k * Server.chunkSize)).length : ℤ) := by
      rw [List.length_take]
      omega
    refine ⟨k, (w, rs), ?_, hdone⟩
    rw [readChunks, if_neg (not_lt.mpr hdone)]
  | succ j ih =>
    by_cases hmore : ((content.take (k * Server.chunkSize)).length : ℤ) < size
    · have hk : k * Server.chunkSize < content.length := by
        rw [List.length_take] at hmore
        omega
      obtain ⟨r, rs, rfl⟩ := List.exists_cons_of_length_pos (show 0 < rs.length by omega)
      have hchunk := h.chunk scfg hP hrow hfile hk (by rw [List.length_take] at hmore; omega)
      obtain ⟨m, line, hrest, hdone⟩ := ih (k := k + 1) (by rw [show k + 1 + j = k + (j + 1) by omega]; exact hj)
        (by simpa using hrs) h.next
      refine ⟨m, line, ?_, hdone⟩
      rw [Upload.readChunks_block hmore hk hchunk, hrest]
    · refine ⟨k, (w, rs), ?_, not_lt.mp hmore⟩
      rw [readChunks, if_neg hmore]

lemma Reading.short (hP : Lawful P) (hrow : st.objects.get? o = some row)
    (hfile : st.content? o = some content) (hsize : (content.length : ℤ) < size) (hbound : size < maxInt64)
    (j : ℕ) (hj : k + j = blockCount Server.chunkSize content) (hrs : j < rs.length)
    (h : Reading P ccfg p o st w rs) :
    (Connection.Seekable scfg.maxOffset content (pastEnd content) → ∃ message,
      (readChunks P ccfg (link P scfg) o size (content.take (k * Server.chunkSize)) k (w, rs)).1 =
        .error (.clientError "CHUNK_READ_REJECTED" message)) ∧
    (¬ Connection.Seekable scfg.maxOffset content (pastEnd content) →
      (readChunks P ccfg (link P scfg) o size (content.take (k * Server.chunkSize)) k (w, rs)).1 =
        .error (.frameError "connection closed by peer")) := by
  have hmore (i : ℕ) : ((content.take (i * Server.chunkSize)).length : ℤ) < size := by
    rw [List.length_take]
    omega
  induction j generalizing k w rs with
  | zero =>
    rw [Nat.add_zero] at hj
    subst hj
    have hend : content.length ≤ blockCount Server.chunkSize content * Server.chunkSize :=
      length_le_of_blockCount_le (by decide) le_rfl
    obtain ⟨r, rs, rfl⟩ := List.exists_cons_of_length_pos hrs
    obtain ⟨hreach, hbeyond⟩ := h.past scfg hP hrow hfile hend
      (blockCount_small (hsize.trans hbound))
    refine ⟨fun hlt => ?_, fun hge => readChunks_error scfg (hmore _) (hbeyond hge)⟩
    obtain ⟨message, hrefused⟩ := hreach hlt
    exact ⟨message, readChunks_error scfg (hmore _) hrefused⟩
  | succ j ih =>
    have hk : k * Server.chunkSize < content.length := (lt_blockCount (by decide)).mp (by omega)
    obtain ⟨r, rs, rfl⟩ := List.exists_cons_of_length_pos (show 0 < rs.length by omega)
    have hchunk := h.chunk scfg hP hrow hfile hk (by omega)
    rw [Upload.readChunks_block (hmore k) hk hchunk]
    exact ih (k := k + 1) (by omega) (by simpa using hrs) h.next

lemma read_refused (hP : Lawful P) (h : Ready P ccfg p w (r :: rs)) {result : Except Exn Response}
    (hanswer : ∀ env, FromSession P ccfg p w.session env →
      (hearing P ccfg w r).handleRead env { op := Op.read.code, objectUuid := some o } = result)
    (hrefuses : Connection.Refuses result) :
    ∃ message, (readObject P ccfg (link P scfg) o (w, r :: rs)).1 =
      .error (.clientError "READ_REJECTED" message) := by
  obtain ⟨inner, hinner, hsmall⟩ := Upload.request_small .read o (n := 0) (by decide)
  obtain ⟨message, body, hcaught, hbody, hfits⟩ := hrefuses
  have hread : request P ccfg (link P scfg) _ (w, r :: rs) =
      (_, ({ w with server := (hearing P ccfg w r).withObjects w.server.objects }, rs)) :=
    link_request hP h hinner hsmall
    (fun env henv => by
      rw [Connection.answer_read, hanswer env henv]
      rfl) hcaught hbody rfl hfits
  refine ⟨message, ?_⟩
  rw [readObject, hread]
  rw [Outcome.ok_bind]
  rw [errorResponse_status, if_pos (by decide)]
  rfl

lemma Reading.read (hP : Lawful P) (h : Reading P ccfg p o st w (r :: rs))
    (hrow : st.objects.get? o = some row) {body : Bytes}
    (hbody : encodeResponseMessage (infoResponse row) = .ok body) (hfits : 218 + body.length ≤ maxFrameSize) :
    readObject P ccfg (link P scfg) o (w, r :: rs) =
      (readChunks P ccfg (link P scfg) o row.fileSize [] 0
        ({ w with server := hearing P ccfg w r }, rs)).bind fun content line =>
          (verified P row.contentIntegrity content, line) := by
  obtain ⟨inner, hinner, hsmall⟩ := Upload.request_small .read o (n := 0) (by decide)
  have hst : (hearing P ccfg w r).objects = st := h.store
  have hread : request P ccfg (link P scfg) _ (w, r :: rs) =
      (_, ({ w with server := (hearing P ccfg w r).withObjects w.server.objects }, rs)) :=
    link_request hP h.ready hinner hsmall
    (fun env henv => by
      rw [Connection.answer_read, Connection.handleRead_row rfl (h.allowed henv) (by rw [hst]; exact hrow), hbody]
      rfl) (Connection.caught_ok _) hbody rfl hfits
  rw [readObject, hread]
  rw [Outcome.ok_bind]
  rw [infoResponse_status, if_neg (not_not.mpr rfl)]
  rfl

lemma Reading.read_too_large (hP : Lawful P) (h : Reading P ccfg p o st w (r :: rs))
    (hrow : st.objects.get? o = some row) {body : Bytes}
    (hbody : encodeResponseMessage (infoResponse row) = .ok body) (hlarge : maxFrameSize < 218 + body.length) :
    (readObject P ccfg (link P scfg) o (w, r :: rs)).1 = .error (.frameError "connection closed by peer") := by
  obtain ⟨inner, hinner, hsmall⟩ := Upload.request_small .read o (n := 0) (by decide)
  have hst : (hearing P ccfg w r).objects = st := h.store
  have hlost := link_lost scfg hP h.ready
    (fun d => ClientSession.request P ccfg d { op := Op.read.code, objectUuid := some o })
    hinner hsmall rfl fun env henv => by
      rw [Connection.answer_read, Connection.handleRead_row rfl (h.allowed henv) (by rw [hst]; exact hrow), hbody]
      intro response hresponse
      obtain rfl := Except.ok.inj hresponse
      exact ⟨body, rfl, hlarge⟩
  exact Outcome.fst_bind_error (Outcome.fst_bind_error hlost _) _

lemma verified_digest (content : Bytes) : verified P (ObjectStore.hexdigest P content) content = .ok content :=
  if_neg fun h => h.2 rfl

variable (P ccfg) (o row) in
def fetched (line : Line) : Except Exn Bytes :=
  ((readChunks P ccfg (link P scfg) o row.fileSize [] 0 line).bind fun content line =>
    (verified P row.contentIntegrity content, line)).1

lemma Reading.fetched_sealed (hP : Lawful P) (hrow : st.objects.get? o = some row)
    (hsealed : (st.kept o).Sealed P) (hdigest : row.contentIntegrity ≠ "") (hbound : row.fileSize < maxInt64)
    (hrs : row.fileSize.toNat / Server.chunkSize + 2 ≤ rs.length) (h : Reading P ccfg p o st w rs) :
    ∃ content, fetched P ccfg scfg o row (w, rs) = .ok content ∧ Verified P st o content := by
  obtain ⟨content, hfile, hhash, hsize⟩ := hsealed row hrow hdigest
  obtain ⟨m, line, hread, hdone⟩ := h.reach scfg (k := 0) hP hrow hfile hsize.ge hbound
    (row.fileSize.toNat / Server.chunkSize + 1) (by rw [Server.chunkSize]; omega) (by omega)
  have hall : content.take (m * Server.chunkSize) = content := by
    apply List.take_of_length_le
    rw [List.length_take] at hdone
    omega
  rw [Nat.zero_mul, List.take_zero, hall] at hread
  refine ⟨content, ?_, row, hrow, hsize, Or.inl ⟨hdigest, hhash⟩⟩
  rw [fetched, hread, hhash]
  rw [Outcome.ok_bind]
  exact verified_digest content

lemma Reading.fetched_open (hP : Lawful P) (hrow : st.objects.get? o = some row)
    (hunfinished : (st.kept o).Unfinished) (hopen : row.contentIntegrity = "") (hpos : 0 < row.fileSize)
    (hbound : row.fileSize < maxInt64) (hrs : row.fileSize.toNat / Server.chunkSize + 2 ≤ rs.length)
    (h : Reading P ccfg p o st w rs) :
    ReadsVerified P st o (fetched P ccfg scfg o row (w, rs)) ↔ ∃ content ∈ st.content? o,
      (content.length : ℤ) < row.fileSize ∧
        Connection.Seekable scfg.maxOffset content (pastEnd content) := by
  have hsome : 0 < rs.length := lt_of_lt_of_le (Nat.succ_pos _) hrs
  cases hfile : st.content? o with
  | none =>
    obtain ⟨r, rs, rfl⟩ := List.exists_cons_of_length_pos hsome
    have hmore : (([] : Bytes).length : ℤ) < row.fileSize := hpos
    have hlost := readChunks_error scfg hmore (h.unfiled scfg hP hrow hfile)
    rw [fetched, Outcome.fst_bind_error hlost]
    exact iff_of_false nofun nofun
  | some content =>
    rcases lt_or_gt_of_ne (hunfinished row content hrow hopen hfile) with hshort | hlong
    · have hcount : blockCount Server.chunkSize content < rs.length := by
        refine lt_of_le_of_lt ?_ (Nat.lt_of_succ_le hrs)
        rw [blockCount, Server.chunkSize]
        omega
      obtain ⟨hreach, hbeyond⟩ := h.short scfg (k := 0) hP hrow hfile hshort hbound _
        (Nat.zero_add _) hcount
      rw [Nat.zero_mul, List.take_zero] at hreach hbeyond
      by_cases hend : Connection.Seekable scfg.maxOffset content (pastEnd content)
      · obtain ⟨message, hrefused⟩ := hreach hend
        rw [fetched, Outcome.fst_bind_error hrefused]
        exact iff_of_true (.refused _ message) ⟨content, rfl, hshort, hend⟩
      · rw [fetched, Outcome.fst_bind_error (hbeyond hend)]
        refine iff_of_false nofun ?_
        rintro ⟨content', hmem, _, hlt⟩
        obtain rfl := Option.some.inj hmem
        exact hend hlt
    · obtain ⟨m, line, hread, _⟩ := h.reach scfg (k := 0) hP hrow hfile hlong.le hbound
        (row.fileSize.toNat / Server.chunkSize + 1) (by rw [Server.chunkSize]; omega) (by omega)
      rw [Nat.zero_mul, List.take_zero] at hread
      rw [fetched, hread]
      rw [Outcome.ok_bind]
      rw [verified, if_neg fun hne => hne.1 hopen]
      refine iff_of_false ?_ ?_
      · rintro ⟨row', hrow', _, hcases⟩
        rcases hcases with ⟨hne, _⟩ | ⟨_, hzero⟩
        · obtain rfl := Option.some.inj (hrow.symm.trans hrow')
          exact hne hopen
        · obtain rfl := Option.some.inj (hrow.symm.trans hrow')
          omega
      · rintro ⟨content', hmem, hlt, _⟩
        obtain rfl := Option.some.inj hmem
        omega

lemma Reading.fetched_iff (hP : Lawful P) (hrow : st.objects.get? o = some row)
    (horderly : (st.kept o).Orderly P) (hunfinished : (st.kept o).Unfinished)
    (hrs : row.fileSize.toNat / Server.chunkSize + 2 ≤ rs.length) (h : Reading P ccfg p o st w rs) :
    ReadsVerified P st o (fetched P ccfg scfg o row (w, rs)) ↔
      (row.contentIntegrity ≠ "" ∨ row.fileSize = 0 ∨ ∃ content ∈ st.content? o,
        (content.length : ℤ) < row.fileSize ∧
          Connection.Seekable scfg.maxOffset content (pastEnd content)) := by
  obtain ⟨hfrom, hbound, _⟩ := horderly.declared row hrow
  by_cases hopen : row.contentIntegrity = ""
  · by_cases hzero : row.fileSize = 0
    · rw [fetched, readChunks, if_neg (by rw [hzero]; decide)]
      rw [Outcome.ok_bind]
      rw [verified, if_neg fun hne => hne.1 hopen]
      exact iff_of_true (.content ⟨row, hrow, hzero.symm, Or.inr ⟨hopen, hzero⟩⟩) (Or.inr (Or.inl hzero))
    · rw [h.fetched_open scfg hP hrow hunfinished hopen (by omega) hbound hrs, or_iff_right (not_not.mpr hopen),
        or_iff_right hzero]
  · obtain ⟨content, hfetched, hverified⟩ := h.fetched_sealed scfg hP hrow horderly.sealed hopen
      hbound hrs
    rw [hfetched]
    exact iff_of_true (.content hverified) (Or.inl hopen)

lemma Reading.readObject_iff (hP : Lawful P) (hsha : ∀ content, (P.sha256 content).length = 32)
    (horderly : (st.kept o).Orderly P) (hunfinished : (st.kept o).Unfinished)
    (hround : 0 < rs.length)
    (hrounds : ∀ row ∈ st.objects.get? o, row.fileSize.toNat / Server.chunkSize + 3 ≤ rs.length)
    (h : Reading P ccfg p o st w rs) :
    ReadsVerified P st o (readObject P ccfg (link P scfg) o (w, rs)).1 ↔ Readable scfg.maxOffset st o := by
  obtain ⟨r, rs, rfl⟩ := List.exists_cons_of_length_pos hround
  cases hrow : st.objects.get? o with
  | none =>
    have hst : (hearing P ccfg w r).objects = st := h.store
    obtain ⟨message, hrefused⟩ := read_refused scfg hP h.ready
      (fun env henv => Connection.handleRead_absent rfl (h.allowed henv) (by rw [hst]; exact hrow))
      (Connection.refuses_object "NOT_FOUND" (by decide))
    rw [hrefused]
    refine iff_of_true (.refused _ message) fun row hmem => ?_
    rw [hrow] at hmem
    cases hmem
  | some row =>
    have hdeclared := horderly.declared row hrow
    obtain ⟨body, hbody, hlen⟩ := infoResponse_writes row
      ⟨hdeclared.1, by have := hdeclared.2.1; rw [maxInt64] at this; omega⟩ hdeclared.2.2
      (horderly.integrity hsha hrow)
    have hreadable : Readable scfg.maxOffset st o ↔
        276 + (utf8 row.fileType).length + (utf8 row.contentIntegrity).length ≤ maxFrameSize ∧
        (row.contentIntegrity ≠ "" ∨ row.fileSize = 0 ∨ ∃ content ∈ st.content? o,
          (content.length : ℤ) < row.fileSize ∧
            Connection.Seekable scfg.maxOffset content (pastEnd content)) := by
      rw [Readable, hrow]
      exact ⟨fun hall => hall row rfl, fun hrow' row' hmem => Option.some.inj hmem ▸ hrow'⟩
    rw [hreadable]
    by_cases hfits : 218 + body.length ≤ maxFrameSize
    · rw [and_iff_right (by omega), h.read scfg hP hrow hbody hfits]
      exact h.next.fetched_iff scfg hP hrow horderly hunfinished (by simpa using hrounds row hrow)
    · rw [h.read_too_large scfg hP hrow hbody (not_le.mp hfits)]
      exact iff_of_false (fun hread => by cases hread) fun hboth => hfits (by omega)

end Reading

theorem read_verified_iff (P : Primitives) (hP : Lawful P) (hsha : ∀ content, (P.sha256 content).length = 32)
    (ccfg : ClientConfig) (scfg : ServerConfig) (p : Parties) (w : World) (rs : List Round) (o : Uuid)
    (conn : Connection) (hempty : conn.objects = .empty) (evs : List StoreEvent)
    (hstore : w.server.objects = (run (Connection.undergo P scfg) conn evs).objects)
    (hready : Ready P ccfg p w rs) (hround : 0 < rs.length)
    (hrounds : ∀ row ∈ w.server.objects.objects.get? o, row.fileSize.toNat / Server.chunkSize + 3 ≤ rs.length) :
    ReadsVerified P w.server.objects o (readObject P ccfg (link P scfg) o (w, rs)).1 ↔
      (Allowed w.server.permissions (w.session.identity.identityUuid P ccfg) o "READ" →
        Readable scfg.maxOffset w.server.objects o) := by
  by_cases hreads : Allowed w.server.permissions (w.session.identity.identityUuid P ccfg) o "READ"
  · have h : Reading P ccfg p o w.server.objects w rs := ⟨hready, hreads, rfl⟩
    rw [imp_iff_right hreads]
    refine h.readObject_iff scfg hP hsha ?_ ?_ hround hrounds
    · rw [hstore]
      exact Connection.orderly_run hempty evs o
    · rw [hstore]
      exact Connection.unfinished_run (ObjectStore.hexdigest_ne_empty hsha) hempty evs o
  · obtain ⟨r, rs, rfl⟩ := List.exists_cons_of_length_pos hround
    obtain ⟨message, hrefused⟩ := read_refused scfg (o := o) hP hready
      (fun env henv => by
        rw [Connection.handleRead, Connection.requestedObject_forbidden (by rw [henv.sender]; exact hreads)]
        rfl) (Connection.refuses_forbidden o (by decide))
    rw [hrefused]
    exact iff_of_true (.refused _ message) fun hallowed => (hreads hallowed).elim

section Served

variable (P : Primitives) (ccfg : ClientConfig) (scfg : ServerConfig)

def Serves (conn conn' : Connection) : Prop := ∃ ms, run (Connection.serve P scfg) conn ms = conn'

variable {P ccfg scfg} {conn : Connection}

lemma link_serves (x : Client.Draw → Exchange) (line : Line) :
    Serves P scfg line.1.server (link P scfg x line).2.1.server := by
  obtain ⟨w, rs⟩ := line
  cases rs with
  | nil => exact ⟨[], rfl⟩
  | cons r rs =>
    simp only [link, World.exchange, World.answer]
    cases ((x r.client).send w.session).1 with
    | error exc => exact ⟨[], rfl⟩
    | ok sent => exact ⟨[⟨r.server, sent.frame⟩], rfl⟩

lemma Serves.bind {α β : Type} {r : Outcome Line α} {f : α → Line → Outcome Line β}
    (hr : Serves P scfg conn r.2.1.server)
    (hf : ∀ a line, Serves P scfg line.1.server (f a line).2.1.server) :
    Serves P scfg conn (r.bind f).2.1.server := by
  obtain ⟨_ | a, line⟩ := r
  · exact hr
  · obtain ⟨ms, hms⟩ := hr
    obtain ⟨ms', hms'⟩ := hf a line
    refine ⟨ms ++ ms', ?_⟩
    rw [run_append, hms]
    exact hms'

lemma responseOf_serves (a : Answer) (line : Line) :
    Serves P scfg line.1.server (responseOf a line).2.1.server := by
  cases a <;> exact ⟨[], rfl⟩

lemma writeChunks_serves (o : Uuid) (data : Bytes) (index : ℕ) (line : Line) :
    Serves P scfg line.1.server (writeChunks P ccfg (link P scfg) o data index line).2.1.server := by
  induction index, line using writeChunks.induct data with
  | case1 index line hmore ih =>
    rw [writeChunks, if_pos hmore]
    refine ((link_serves _ line).bind responseOf_serves).bind fun reply line' => ?_
    split_ifs
    · exact ⟨[], rfl⟩
    · exact ih line'
  | case2 index line hdone =>
    rw [writeChunks, if_neg hdone]
    exact ⟨[], rfl⟩

variable (P ccfg scfg) in
lemma writeObject_serves (o : Uuid) (fileType : String) (data : Bytes) (metadata : String) (line : Line) :
    Serves P scfg line.1.server
      (writeObject P ccfg (link P scfg) o fileType data metadata line).2.1.server := by
  rw [writeObject]
  refine ((link_serves _ line).bind responseOf_serves).bind fun reply line' => ?_
  split_ifs
  · exact ⟨[], rfl⟩
  · exact writeChunks_serves o data 0 line'

end Served

section Demo

-- an object of two bytes, for which `data` has been sent
def uploaded (data : Bytes) : World := { demoWorld with
  server := demoWorld.server.withObjects
    (run (Connection.undergo tagged demoServer) demoWorld.server (declareThenSend data)).objects }

lemma uploaded_objects (data : Bytes) : (uploaded data).server.objects =
    (run (Connection.undergo tagged demoServer) demoWorld.server (declareThenSend data)).objects :=
  Connection.withObjects_objects _ _

lemma ready_uploaded (data : Bytes) : Ready tagged demoClient demoParties (uploaded data) demoRounds :=
  ready_demo.withObjects _

lemma demo_empty : demoWorld.server.objects = .empty := by decide +kernel

theorem two_chunks_read : ∃ line,
    writeObject tagged demoClient (link tagged demoServer) Uuid.nil "text/plain" twoChunks "\x7b\x7d"
        (demoWorld, demoRounds) = (.ok (), line) ∧
      ReadsVerified tagged line.1.server.objects Uuid.nil
        (readObject tagged demoClient (link tagged demoServer) Uuid.nil line).1 := by
  obtain ⟨w, hwrite, hstored⟩ := Upload.write_object demoServer lawful_tagged ready_demo fits_demo
    (by rw [count_demo]; decide) (allowed_demo _ (Or.inl rfl)) (allowed_demo _ (Or.inr rfl))
    absent_demo.1 absent_demo.2
  have hserves := writeObject_serves tagged demoClient demoServer demoUpload.objectUuid demoUpload.fileType
    demoUpload.data demoUpload.metadata (demoWorld, demoRounds)
  rw [hwrite] at hserves
  obtain ⟨ms, hms⟩ := hserves
  have hstore : w.server.objects =
      (run (Connection.undergo tagged demoServer) demoWorld.server (ms.map .frame)).objects := by
    rw [run, List.foldl_map, ← hms]
    rfl
  obtain ⟨row, hrow, hsize, htype, hdigest⟩ : ∃ row, w.server.objects.objects.get? Uuid.nil = some row ∧
      row.fileSize = 65537 ∧ row.fileType = "text/plain" ∧
      row.contentIntegrity = ObjectStore.hexdigest tagged twoChunks := by
    have hrow := hstored.stored.row
    rw [if_neg (lt_irrefl _), Upload.integrity, if_neg demo_nonempty] at hrow
    exact ⟨_, hrow, congrArg Nat.cast length_twoChunks, rfl, rfl⟩
  have hrounds : ∀ row ∈ w.server.objects.objects.get? Uuid.nil,
      row.fileSize.toNat / Server.chunkSize + 3 ≤ (demoRounds.drop (demoUpload.count + 1)).length := by
    rw [hrow, count_demo]
    rintro _ ⟨⟩
    rw [hsize]
    decide
  have hreadable : Readable demoServer.maxOffset w.server.objects Uuid.nil := by
    rw [Readable, hrow]
    rintro _ ⟨⟩
    rw [htype, hdigest, ObjectStore.hexdigest_length sha256_tagged]
    exact ⟨by decide +kernel, Or.inl (ObjectStore.hexdigest_ne_empty sha256_tagged _)⟩
  refine ⟨_, hwrite, ?_⟩
  rw [read_verified_iff tagged lawful_tagged sha256_tagged demoClient demoServer demoParties w _ Uuid.nil
    demoWorld.server demo_empty (ms.map .frame) hstore hstored.ready (by rw [count_demo]; decide) hrounds]
  exact fun _ => hreadable

-- three bytes have been sent, and are returned without a digest
theorem oversized_upload_read :
    ¬ ∀ (P : Primitives), Lawful P → (∀ content, (P.sha256 content).length = 32) →
      ∀ (ccfg : ClientConfig) (scfg : ServerConfig) (p : Parties) (w : World) (rs : List Round) (o : Uuid)
      (conn : Connection), conn.objects = .empty → ∀ evs : List StoreEvent,
      w.server.objects = (run (Connection.undergo P scfg) conn evs).objects → Ready P ccfg p w rs →
      0 < rs.length →
      (∀ row ∈ w.server.objects.objects.get? o, row.fileSize.toNat / Server.chunkSize + 3 ≤ rs.length) →
      ReadsVerified P w.server.objects o (readObject P ccfg (link P scfg) o (w, rs)).1 := by
  intro h
  have hrounds : ∀ row ∈ (uploaded [1, 2, 3]).server.objects.objects.get? Uuid.nil,
      row.fileSize.toNat / Server.chunkSize + 3 ≤ demoRounds.length := by decide +kernel
  have hreadable : ¬ Readable demoServer.maxOffset (uploaded [1, 2, 3]).server.objects Uuid.nil := by decide +kernel
  have hread := h tagged lawful_tagged sha256_tagged demoClient demoServer demoParties (uploaded [1, 2, 3])
    demoRounds Uuid.nil demoWorld.server demo_empty (declareThenSend [1, 2, 3]) (uploaded_objects [1, 2, 3])
    (ready_uploaded [1, 2, 3]) (by decide) hrounds
  have hreading : Reading tagged demoClient demoParties Uuid.nil (uploaded [1, 2, 3]).server.objects
      (uploaded [1, 2, 3]) demoRounds := ⟨ready_uploaded _, allowed_demo _ (Or.inr rfl), rfl⟩
  refine hreadable ((hreading.readObject_iff demoServer lawful_tagged sha256_tagged ?_ ?_ (by decide) hrounds).mp hread)
  · rw [uploaded_objects]
    exact Connection.orderly_run demo_empty _ _
  · rw [uploaded_objects]
    exact Connection.unfinished_run (ObjectStore.hexdigest_ne_empty sha256_tagged) demo_empty _ _

end Demo

end Secupload.System
