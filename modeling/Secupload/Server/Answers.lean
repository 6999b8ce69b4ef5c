import Secupload.Server.StoreEvents

namespace Secupload.Server.Connection

open Library Shared

def Refuses (result : Except Exn Response) : Prop :=
  ∃ message body, caught result = .ok (.message body) ∧
    encodeResponseMessage (errorResponse message) = .ok body ∧ 218 + body.length ≤ maxFrameSize

def Fits : Response → Prop
  | .message inner => 218 + inner.length ≤ maxFrameSize
  | .chunk _ chunkIndex data => U64 chunkIndex ∧ 227 + data.length ≤ maxFrameSize

def Lost (result : Except Exn Response) : Prop :=
  ∀ response, caught result = .ok response →
    ∃ inner, response = .message inner ∧ maxFrameSize < 218 + inner.length

def Permitted (conn : Connection) (env : Envelope) (request : RequestMessage) : Prop :=
  ∀ o ∈ request.objectUuid,
    (request.op = Op.write.code → Allowed conn.permissions env.senderUuid o "WRITE") ∧
    (request.op = Op.read.code ∨ request.op = Op.readChunk.code →
      Allowed conn.permissions env.senderUuid o "READ")

-- `seek` takes the offset, and the file system goes as far
def Seekable (maxOffset : ℕ) (content : Bytes) (offset : ℤ) : Prop :=
  offset < maxInt64 ∧ offset ≤ ObjectStore.maxSeek maxOffset content

instance (maxOffset : ℕ) (content : Bytes) (offset : ℤ) : Decidable (Seekable maxOffset content offset) :=
  inferInstanceAs (Decidable (_ ∧ _))

example : ¬ Seekable (2 ^ 44 - 4096) [97] (2 ^ 28 * chunkSize) := by decide

-- a WRITE of a size beyond the database, a chunk without a file or beyond what can be sought in it,
-- or a file type that leaves no room in the reply
def Obstructed (maxOffset : ℕ) (st : ObjectStore) (request : RequestMessage) (o : Uuid) : Prop :=
  if request.op = Op.write.code then st.objects.get? o = none ∧
    (maxInt64 ≤ request.fileSize ∨ maxFrameSize < 276 + (utf8 request.fileType).length)
  else if request.op = Op.read.code then ∃ row ∈ st.objects.get? o,
    maxFrameSize < 276 + (utf8 row.fileType).length + (utf8 row.contentIntegrity).length
  else request.op = Op.readChunk.code ∧ (st.objects.get? o).isSome ∧
    ¬ ∃ content ∈ st.content? o, Seekable maxOffset content (request.fileSize * chunkSize)

instance (maxOffset : ℕ) (st : ObjectStore) (request : RequestMessage) (o : Uuid) :
    Decidable (Obstructed maxOffset st request o) :=
  inferInstanceAs (Decidable (if request.op = Op.write.code then _ ∧ _
    else if request.op = Op.read.code then ∃ row ∈ st.objects.get? o, _ else _ ∧ _))

def Unanswerable (maxOffset : ℕ) (st : ObjectStore) (request : RequestMessage) : Prop :=
  ∃ o ∈ request.objectUuid, Obstructed maxOffset st request o

instance (maxOffset : ℕ) (st : ObjectStore) (request : RequestMessage) :
    Decidable (Unanswerable maxOffset st request) :=
  inferInstanceAs (Decidable (∃ o ∈ request.objectUuid, _))

def forbidden (o : Uuid) (permission : String) : Exn :=
  .authorizationError "FORBIDDEN" s!"{permission} on {o.str} not permitted"

section Refusals

lemma errorResponse_writes {message : String} (h : (utf8 message).length < 2 ^ 32) :
    Encoder.Writes (encodeResponseMessage (errorResponse message)) (58 + (utf8 message).length) := by
  have hempty : (utf8 "").length = 0 := by decide
  refine (encodeResponseMessage_writes none (by decide) h (by decide) (by decide) (by decide)).of_eq ?_
  rw [hempty]
  omega

lemma refuses_of_caught {exc : Exn} {message : String} (hmessage : (utf8 message).length ≤ 1024)
    (h : caught (.error exc) = .message <$> encodeResponseMessage (errorResponse message)) :
    Refuses (.error exc) := by
  have hshort : (utf8 message).length < 2 ^ 32 := by omega
  obtain ⟨body, hbody, hlen⟩ := errorResponse_writes hshort
  refine ⟨message, body, ?_, hbody, ?_⟩
  · rw [h, hbody]
    rfl
  · rw [hlen, maxFrameSize]
    omega

lemma refuses_object (code : String) {message : String} (h : (utf8 message).length ≤ 1024) :
    Refuses (.error (.objectStoreError code message)) :=
  refuses_of_caught h rfl

lemma refuses_forbidden (o : Uuid) {permission : String} (h : (utf8 permission).length ≤ 16) :
    Refuses (.error (forbidden o permission)) := by
  refine refuses_of_caught ?_ rfl
  have hon : (utf8 (toString " on ")).length = 4 := by decide
  have hnot : (utf8 (toString " not permitted")).length = 14 := by decide
  have hobject : (utf8 (toString o.str)).length = 36 := utf8_str_length o
  have hstart : (utf8 (toString permission)).length ≤ 16 := h
  simp only [utf8_append, List.length_append, hon, hnot, hobject]
  omega

lemma Refuses.fits {result : Except Exn Response} (h : Refuses result) :
    ∃ response, caught result = .ok response ∧ Fits response := by
  obtain ⟨message, body, hcaught, _, hsize⟩ := h
  exact ⟨_, hcaught, hsize⟩

lemma lost_of_uncaught {exc : Exn} (h : caught (.error exc) = .error exc) : Lost (.error exc) := by
  intro response hresponse
  rw [h] at hresponse
  cases hresponse

lemma info_cases (row : ObjectInfo) (hsize : 0 ≤ row.fileSize ∧ row.fileSize < 2 ^ 64)
    (htype : (utf8 row.fileType).length < 2 ^ 32) (hintegrity : (utf8 row.contentIntegrity).length < 2 ^ 32) :
    276 + (utf8 row.fileType).length + (utf8 row.contentIntegrity).length ≤ maxFrameSize ∧
      (∃ response, caught (.message <$> encodeResponseMessage (infoResponse row)) = .ok response ∧ Fits response) ∨
    maxFrameSize < 276 + (utf8 row.fileType).length + (utf8 row.contentIntegrity).length ∧
      Lost (.message <$> encodeResponseMessage (infoResponse row)) := by
  obtain ⟨body, hbody, hlen⟩ := infoResponse_writes row hsize htype hintegrity
  rw [hbody]
  rcases le_or_gt (276 + (utf8 row.fileType).length + (utf8 row.contentIntegrity).length) maxFrameSize with
    hfits | hlarge
  · exact Or.inl ⟨hfits, .message body, rfl, show 218 + body.length ≤ maxFrameSize by omega⟩
  · refine Or.inr ⟨hlarge, fun response hresponse => ?_⟩
    obtain rfl := Except.ok.inj hresponse
    exact ⟨body, rfl, by omega⟩

end Refusals

section Requests

variable {P : Primitives} {cfg : ServerConfig} {conn : Connection} {env : Envelope} {request : RequestMessage}
  {o : Uuid} {row : ObjectInfo}

lemma requestedObject_forbidden {permission : String}
    (h : ¬ Allowed conn.permissions env.senderUuid o permission) (operation : String) :
    conn.requestedObject operation (some o) env permission = .error (forbidden o permission) := by
  have hcheck : checkPermission conn.permissions env.senderUuid o permission = .error (forbidden o permission) := by
    rw [checkPermission]
    cases hrow : conn.permissions.get? (env.senderUuid, o, permission) with
    | none => rfl
    | some row => exact if_pos fun hpolicy => h ⟨row, hrow, hpolicy⟩
  rw [requestedObject, hcheck]
  rfl

lemma answer_read (o : Uuid) : conn.answer cfg env { op := Op.read.code, objectUuid := some o } =
    (conn.handleRead env { op := Op.read.code, objectUuid := some o }, conn) := by
  rw [answer, if_neg (show ¬ Op.read.code = Op.write.code by decide), if_pos rfl]

lemma answer_readChunk (o : Uuid) (i : ℤ) :
    conn.answer cfg env { op := Op.readChunk.code, objectUuid := some o, fileSize := i } =
      (conn.handleReadChunk cfg env { op := Op.readChunk.code, objectUuid := some o, fileSize := i }, conn) := by
  rw [answer, if_neg (show ¬ Op.readChunk.code = Op.write.code by decide),
    if_neg (show ¬ Op.readChunk.code = Op.read.code by decide), if_pos rfl]

lemma handleRead_absent (hobject : request.objectUuid = some o)
    (hallowed : Allowed conn.permissions env.senderUuid o "READ") (hrow : conn.objects.objects.get? o = none) :
    conn.handleRead env request = .error (.objectStoreError "NOT_FOUND" "object does not exist") := by
  rw [handleRead, hobject, requestedObject_ok hallowed, except_ok_bind, ObjectStore.info, hrow,
    except_error_bind]

lemma handleRead_row (hobject : request.objectUuid = some o)
    (hallowed : Allowed conn.permissions env.senderUuid o "READ") (hrow : conn.objects.objects.get? o = some row) :
    conn.handleRead env request = .message <$> encodeResponseMessage (infoResponse row) := by
  rw [handleRead, hobject, requestedObject_ok hallowed, except_ok_bind, ObjectStore.info, hrow, except_ok_bind]
  generalize encodeResponseMessage (infoResponse row) = encoded
  cases encoded <;> rfl

lemma handleReadChunk_absent (hobject : request.objectUuid = some o)
    (hallowed : Allowed conn.permissions env.senderUuid o "READ") (hrow : conn.objects.objects.get? o = none) :
    conn.handleReadChunk cfg env request = .error (.objectStoreError "NOT_FOUND" "object does not exist") := by
  rw [handleReadChunk, hobject, requestedObject_ok hallowed, except_ok_bind, ObjectStore.readChunk,
    ObjectStore.info, hrow, except_error_bind, except_error_bind]

lemma handleReadChunk_unfiled (hobject : request.objectUuid = some o)
    (hallowed : Allowed conn.permissions env.senderUuid o "READ") (hrow : conn.objects.objects.get? o = some row)
    (hfile : conn.objects.content? o = none) : conn.handleReadChunk cfg env request = .error .osError := by
  rw [handleReadChunk, hobject, requestedObject_ok hallowed, except_ok_bind, ObjectStore.readChunk,
    ObjectStore.info, hrow, except_ok_bind, ObjectStore.readFile, hfile]
  rfl

lemma handleReadChunk_filed {content : Bytes} (hobject : request.objectUuid = some o)
    (hallowed : Allowed conn.permissions env.senderUuid o "READ") (hrow : conn.objects.objects.get? o = some row)
    (hfile : conn.objects.content? o = some content) {i : ℕ} (hindex : request.fileSize = i) :
    conn.handleReadChunk cfg env request =
      if maxInt64 ≤ i * chunkSize then .error .valueError
      else if ObjectStore.maxSeek cfg.maxOffset content < i * chunkSize then .error .osError
      else if block chunkSize content i = [] then
        .error (.objectStoreError "NOT_FOUND" "chunk index out of range")
      else .ok (.chunk o i (block chunkSize content i)) := by
  have hstart : (i : ℤ) * (chunkSize : ℤ) = ((i * chunkSize : ℕ) : ℤ) := (Nat.cast_mul _ _).symm
  rw [handleReadChunk, hobject, requestedObject_ok hallowed, except_ok_bind, ObjectStore.readChunk,
    ObjectStore.info, hrow, except_ok_bind, ObjectStore.readFile, hfile, except_ok_bind, hindex, hstart,
    if_neg (by omega), Int.toNat_natCast]
  norm_cast
  split_ifs
  · rfl
  · rfl
  · rw [← block, pure_bind, if_pos ‹_›]
    rfl
  · rw [← block, pure_bind, if_neg ‹_›]
    rfl

lemma handleWrite_cases (hobject : request.objectUuid = some o)
    (hallowed : Allowed conn.permissions env.senderUuid o "WRITE") (hsize : 0 ≤ request.fileSize) :
    ((conn.objects.objects.get? o).isSome ∧ (conn.handleWrite env request).1 =
      .error (.objectStoreError "ALREADY_EXISTS" "object already exists")) ∨
    (conn.objects.objects.get? o = none ∧ maxInt64 ≤ request.fileSize ∧
      (conn.handleWrite env request).1 = .error .overflowError) ∨
    (conn.objects.objects.get? o = none ∧ request.fileSize < maxInt64 ∧
      (conn.handleWrite env request).1 = .message <$> encodeResponseMessage
        (infoResponse ⟨o, request.fileType, request.fileSize, request.metadata, ""⟩)) := by
  have hwrite : (conn.handleWrite env request).1 = (do return .message (← encodeResponseMessage
      (infoResponse (← (conn.objects.create o request.fileType request.fileSize request.metadata).1)))) := by
    rw [handleWrite, hobject, requestedObject_ok hallowed]
  rw [hwrite, ObjectStore.create]
  split_ifs with hexists hlarge
  · exact Or.inl ⟨hexists, rfl⟩
  · exact Or.inr (Or.inl ⟨by simpa using hexists, by rw [maxInt64] at hlarge ⊢; omega, rfl⟩)
  · have hrow : (conn.objects.objects.set
        ⟨o, request.fileType, request.fileSize, request.metadata, ""⟩).get? o =
        some ⟨o, request.fileType, request.fileSize, request.metadata, ""⟩ := (Table.get?_set _ _ _).trans (if_pos rfl)
    refine Or.inr (Or.inr ⟨by simpa using hexists, by omega, ?_⟩)
    dsimp only
    rw [ObjectStore.info, hrow, except_ok_bind]
    generalize encodeResponseMessage _ = encoded
    cases encoded <;> rfl

def Decided (maxOffset : ℕ) (conn : Connection) (request : RequestMessage) (result : Except Exn Response) : Prop :=
  ¬ Unanswerable maxOffset conn.objects request ∧ (∃ response, caught result = .ok response ∧ Fits response) ∨
    Unanswerable maxOffset conn.objects request ∧ Lost result

lemma decided_of_object {maxOffset : ℕ} {result : Except Exn Response} (hobject : request.objectUuid = some o)
    (h : ¬ Obstructed maxOffset conn.objects request o ∧
        (∃ response, caught result = .ok response ∧ Fits response) ∨
      Obstructed maxOffset conn.objects request o ∧ Lost result) : Decided maxOffset conn request result := by
  have hiff : Unanswerable maxOffset conn.objects request ↔ Obstructed maxOffset conn.objects request o := by
    rw [Unanswerable, hobject]
    constructor
    · rintro ⟨o', ho', hobstructed⟩
      exact Option.some.inj ho' ▸ hobstructed
    · exact fun hobstructed => ⟨o, rfl, hobstructed⟩
  rw [Decided, hiff]
  exact h

lemma decided_write (hrange : request.InRange) (hop : request.op = Op.write.code)
    (hobject : request.objectUuid = some o) (hallowed : Allowed conn.permissions env.senderUuid o "WRITE") :
    Decided cfg.maxOffset conn request (conn.handleWrite env request).1 := by
  obtain ⟨_, htype, hsize, _⟩ := hrange
  refine decided_of_object hobject ?_
  rw [Obstructed, if_pos hop]
  rcases handleWrite_cases hobject hallowed hsize.1 with
    ⟨hexists, hwrite⟩ | ⟨hnew, hlarge, hwrite⟩ | ⟨hnew, hbound, hwrite⟩
  · rw [hwrite]
    refine Or.inl ⟨fun h => ?_, (refuses_object "ALREADY_EXISTS" (by decide)).fits⟩
    rw [h.1] at hexists
    cases hexists
  · rw [hwrite]
    exact Or.inr ⟨⟨hnew, Or.inl hlarge⟩, lost_of_uncaught rfl⟩
  · rw [hwrite]
    have hempty : (utf8 "").length = 0 := by decide
    rcases info_cases ⟨o, request.fileType, request.fileSize, request.metadata, ""⟩ hsize htype
      (show (utf8 "").length < 2 ^ 32 by decide) with ⟨hfits, hreply⟩ | ⟨hlarge, hlost⟩
    · dsimp only at hfits
      exact Or.inl ⟨fun h => by omega, hreply⟩
    · dsimp only at hlarge
      exact Or.inr ⟨⟨hnew, Or.inr (by omega)⟩, hlost⟩

lemma decided_read (horderly : (conn.objects.kept o).Orderly P)
    (hsha : ∀ content, (P.sha256 content).length = 32) (hop : request.op = Op.read.code)
    (hobject : request.objectUuid = some o) (hallowed : Allowed conn.permissions env.senderUuid o "READ") :
    Decided cfg.maxOffset conn request (conn.handleRead env request) := by
  refine decided_of_object hobject ?_
  rw [Obstructed, if_neg (by rw [hop]; decide), if_pos hop]
  cases hrow : conn.objects.objects.get? o with
  | none =>
    rw [handleRead_absent hobject hallowed hrow]
    exact Or.inl ⟨nofun, (refuses_object "NOT_FOUND" (by decide)).fits⟩
  | some row =>
    obtain ⟨hfrom, hbound, htype⟩ := horderly.declared row hrow
    rw [handleRead_row hobject hallowed hrow]
    rcases info_cases row ⟨hfrom, by rw [maxInt64] at hbound; omega⟩ htype
      (horderly.integrity hsha hrow) with ⟨hfits, hreply⟩ | ⟨hlarge, hlost⟩
    · refine Or.inl ⟨?_, hreply⟩
      rintro ⟨row', hrow', hlarge⟩
      obtain rfl := Option.some.inj hrow'
      omega
    · exact Or.inr ⟨⟨row, rfl, hlarge⟩, hlost⟩

lemma decided_readChunk (hrange : request.InRange) (hop : request.op = Op.readChunk.code)
    (hobject : request.objectUuid = some o) (hallowed : Allowed conn.permissions env.senderUuid o "READ") :
    Decided cfg.maxOffset conn request (conn.handleReadChunk cfg env request) := by
  obtain ⟨_, _, hsize, _⟩ := hrange
  obtain ⟨i, hindex⟩ := Int.eq_ofNat_of_zero_le hsize.1
  refine decided_of_object hobject ?_
  rw [Obstructed, if_neg (by rw [hop]; decide), if_neg (by rw [hop]; decide), and_iff_right hop]
  cases hrow : conn.objects.objects.get? o with
  | none =>
    rw [handleReadChunk_absent hobject hallowed hrow]
    exact Or.inl ⟨nofun, (refuses_object "NOT_FOUND" (by decide)).fits⟩
  | some row =>
    rw [and_iff_right (show (some row).isSome = true from rfl)]
    cases hfile : conn.objects.content? o with
    | none =>
      rw [handleReadChunk_unfiled hobject hallowed hrow hfile]
      exact Or.inr ⟨nofun, lost_of_uncaught rfl⟩
    | some content =>
      have hseek : (∃ content' ∈ some content, Seekable cfg.maxOffset content' (request.fileSize * chunkSize)) ↔
          Seekable cfg.maxOffset content (i * chunkSize) := by
        rw [hindex]
        constructor
        · rintro ⟨content', hmem, hseekable⟩
          exact Option.some.inj hmem ▸ hseekable
        · exact fun hseekable => ⟨content, rfl, hseekable⟩
      rw [handleReadChunk_filed hobject hallowed hrow hfile hindex, hseek]
      have hblock : (block chunkSize content i).length ≤ chunkSize := length_block_le i
      rw [Seekable]
      split_ifs with hbeyond hlimit hempty
      · exact Or.inr ⟨by omega, lost_of_uncaught rfl⟩
      · exact Or.inr ⟨by omega, lost_of_uncaught rfl⟩
      · exact Or.inl ⟨by omega, (refuses_object "NOT_FOUND" (by decide)).fits⟩
      · have hfits : 227 + chunkSize ≤ maxFrameSize := by decide
        exact Or.inl ⟨by omega, _, rfl, hindex ▸ hsize, (Nat.add_le_add_left hblock 227).trans hfits⟩

lemma decided_objectless {maxOffset : ℕ} {result : Except Exn Response} (hobject : request.objectUuid = none)
    (h : ∃ response, caught result = .ok response ∧ Fits response) : Decided maxOffset conn request result := by
  refine Or.inl ⟨?_, h⟩
  rintro ⟨o, ho, _⟩
  rw [hobject] at ho
  cases ho

lemma answer_decided (horderly : ∀ o, (conn.objects.kept o).Orderly P)
    (hsha : ∀ content, (P.sha256 content).length = 32) (hrange : request.InRange)
    (hpermitted : Permitted conn env request) :
    Decided cfg.maxOffset conn request (conn.answer cfg env request).1 := by
  rw [answer]
  split_ifs with hwrite hread hchunk
  · cases hobject : request.objectUuid with
    | none =>
      refine decided_objectless hobject ?_
      rw [handleWrite, hobject]
      exact (refuses_object "BAD_REQUEST" (by decide)).fits
    | some o => exact decided_write hrange hwrite hobject ((hpermitted o hobject).1 hwrite)
  · cases hobject : request.objectUuid with
    | none =>
      refine decided_objectless hobject ?_
      rw [handleRead, hobject]
      exact (refuses_object "BAD_REQUEST" (by decide)).fits
    | some o => exact decided_read (horderly o) hsha hread hobject ((hpermitted o hobject).2 (Or.inl hread))
  · cases hobject : request.objectUuid with
    | none =>
      refine decided_objectless hobject ?_
      rw [handleReadChunk, hobject]
      exact (refuses_object "BAD_REQUEST" (by decide)).fits
    | some o => exact decided_readChunk hrange hchunk hobject ((hpermitted o hobject).2 (Or.inr hchunk))
  · refine Or.inl ⟨?_, ?_⟩
    · rintro ⟨o, _, hobstructed⟩
      rw [Obstructed, if_neg hwrite, if_neg hread] at hobstructed
      exact hchunk hobstructed.1
    · obtain ⟨body, hbody, hlen⟩ := errorResponse_writes (show (utf8 "unknown operation").length < 2 ^ 32 by decide)
      have hshort : (utf8 "unknown operation").length ≤ 1024 := by decide
      refine ⟨.message body, ?_, show 218 + body.length ≤ maxFrameSize by rw [maxFrameSize]; omega⟩
      dsimp only
      rw [hbody]
      rfl

end Requests

end Secupload.Server.Connection
