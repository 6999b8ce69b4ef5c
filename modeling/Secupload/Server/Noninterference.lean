import Secupload.Server.ControlActions
import Secupload.Server.Uploads

/-! Two connections that differ in objects which the sender of an envelope has no ALLOW row
for: they answer the envelope alike and leave these objects as they are. -/

namespace Secupload.Server

open Library Shared

namespace ObjectStore

variable {o o' : Uuid} {st st' : ObjectStore} {α β : Type}

lemma SameFor.symm (h : SameFor o st st') : SameFor o st' st := ⟨h.row.symm, h.content.symm⟩

lemma SameFor.info (h : SameFor o st st') : st'.info o = st.info o := by
  rw [ObjectStore.info, ObjectStore.info, h.row]

lemma SameFor.readFile (h : SameFor o st st') : st'.readFile o = st.readFile o := by
  rw [ObjectStore.readFile, ObjectStore.readFile, h.content]

structure Local (o : Uuid) (f : ObjectStore → Outcome ObjectStore α) : Prop where
  same : ∀ st st', SameFor o st st' → (f st').1 = (f st).1 ∧ SameFor o (f st).2 (f st').2
  other : ∀ st o', o' ≠ o → SameFor o' st (f st).2

lemma Local.pure (x : Except Exn α) : Local o fun st => (x, st) where
  same _ _ h := ⟨rfl, h⟩
  other st _ _ := .refl st

lemma Local.bind {f : ObjectStore → Outcome ObjectStore α} {g : α → ObjectStore → Outcome ObjectStore β}
    (hf : Local o f) (hg : ∀ a, Local o (g a)) : Local o fun st => (f st).bind g where
  same := by
    intro st st' h
    obtain ⟨hresult, hsame⟩ := hf.same st st' h
    simp only [Outcome.bind, hresult]
    cases (f st).1 with
    | error exc => exact ⟨rfl, hsame⟩
    | ok a => exact (hg a).same _ _ hsame
  other := by
    intro st o' hne
    have hfirst := hf.other st o' hne
    simp only [Outcome.bind]
    cases (f st).1 with
    | error exc => exact hfirst
    | ok a => exact hfirst.trans ((hg a).other _ o' hne)

lemma Local.decided {f : ObjectStore → Outcome ObjectStore α}
    (h : ∀ st, ∃ g, Local o g ∧ ∀ st', SameFor o st st' → f st' = g st') : Local o f where
  same := by
    intro st st' hsame
    obtain ⟨g, hg, hfg⟩ := h st
    rw [hfg st (.refl st), hfg st' hsame]
    exact hg.same st st' hsame
  other := by
    intro st o' hne
    obtain ⟨g, hg, hfg⟩ := h st
    rw [hfg st (.refl st)]
    exact hg.other st o' hne

lemma local_appendFile (o : Uuid) (data : Bytes) : Local o fun st => (.ok (), st.appendFile o data) where
  same := by
    intro st st' h
    refine ⟨rfl, h.row, ?_⟩
    rw [content?_appendFile, content?_appendFile, h.content]
  other st o' hne := appendFile_other (Ne.symm hne) data

lemma local_set (row : ObjectInfo) (hrow : row.objectUuid = o) (x : Except Exn α) :
    Local o fun st => (x, { st with objects := st.objects.set row }) where
  same := by
    intro st st' h
    refine ⟨rfl, ?_, h.content⟩
    rw [Table.get?_set, Table.get?_set, if_pos hrow, if_pos hrow]
  other st o' hne := by
    have hne' : row.objectUuid ≠ o' := by
      rw [hrow]
      exact Ne.symm hne
    exact ⟨Table.get?_set_ne _ hne', rfl⟩

lemma info_objectUuid {info : ObjectInfo} (h : st.info o = .ok info) : info.objectUuid = o := by
  rw [ObjectStore.info] at h
  cases hget : st.objects.get? o with
  | none =>
    rw [hget] at h
    cases h
  | some row =>
    rw [hget] at h
    obtain rfl := Except.ok.inj h
    exact (Table.get?_eq_some.mp hget).2

lemma info_set {row : ObjectInfo} (hrow : row.objectUuid = o) :
    ObjectStore.info { st with objects := st.objects.set row } o = .ok row :=
  info_of_get? ((Table.get?_set _ _ _).trans (if_pos hrow))

lemma local_create (o : Uuid) (fileType : String) (fileSize : ℤ) (metadata : String) :
    Local o fun st => st.create o fileType fileSize metadata := by
  have hrow : ({ objectUuid := o, fileType, fileSize, metadata } : ObjectInfo).objectUuid = o := rfl
  apply Local.decided
  intro st
  by_cases hexists : (st.objects.get? o).isSome
  · refine ⟨_, .pure (.error (.objectStoreError "ALREADY_EXISTS" "object already exists")), ?_⟩
    intro st' h
    rw [create, h.row, if_pos hexists]
  · by_cases hsize : fileSize < -maxInt64 ∨ maxInt64 ≤ fileSize
    · refine ⟨_, .pure (.error .overflowError), ?_⟩
      intro st' h
      rw [create, h.row, if_neg hexists, if_pos hsize]
    · refine ⟨_, local_set _ hrow (.ok { objectUuid := o, fileType, fileSize, metadata }), ?_⟩
      intro st' h
      rw [create, h.row, if_neg hexists, if_neg hsize]
      exact Prod.ext (info_set hrow) rfl

lemma local_writeChunk (o : Uuid) (chunkIndex : ℤ) (data : Bytes) :
    Local o fun st => st.writeChunk o chunkIndex data := by
  apply Local.decided
  intro st
  cases hinfo : st.info o with
  | error exc =>
    refine ⟨_, .pure (.error exc), ?_⟩
    intro st' h
    rw [writeChunk, h.info, hinfo]
  | ok info =>
    by_cases hfinalized : info.contentIntegrity ≠ ""
    · refine ⟨_, .pure (.error (.objectStoreError "FINALIZED" "object is already finalized")), ?_⟩
      intro st' h
      rw [writeChunk, h.info, hinfo]
      exact if_pos hfinalized
    · refine ⟨_, local_appendFile o data, ?_⟩
      intro st' h
      rw [writeChunk, h.info, hinfo]
      exact if_neg hfinalized

lemma local_finalize (P : Primitives) (o : Uuid) : Local o fun st => st.finalize P o := by
  apply Local.decided
  intro st
  cases hinfo : st.info o with
  | error exc =>
    refine ⟨_, .pure (.error exc), ?_⟩
    intro st' h
    rw [finalize, h.info, hinfo]
  | ok info =>
    by_cases hfinalized : info.contentIntegrity ≠ ""
    · refine ⟨_, .pure (.ok info), ?_⟩
      intro st' h
      rw [finalize, h.info, hinfo]
      exact if_pos hfinalized
    · cases hread : st.readFile o with
      | error exc =>
        refine ⟨_, .pure (.error exc), ?_⟩
        intro st' h
        rw [finalize, h.info, hinfo]
        dsimp only
        rw [if_neg hfinalized, h.readFile, hread]
      | ok content =>
        by_cases hsize : (content.length : ℤ) ≠ info.fileSize
        · refine ⟨_, .pure (.error (.objectStoreError "INTEGRITY_FAILURE"
            s!"size mismatch: expected {info.fileSize}, got {content.length}")), ?_⟩
          intro st' h
          rw [finalize, h.info, hinfo]
          dsimp only
          rw [if_neg hfinalized, h.readFile, hread]
          exact if_pos hsize
        · have hkey := info_objectUuid hinfo
          have hrow : ({ info with contentIntegrity := hexdigest P content } : ObjectInfo).objectUuid = o :=
            hkey
          refine ⟨_, local_set _ hrow (.ok { info with contentIntegrity := hexdigest P content }), ?_⟩
          intro st' h
          rw [finalize, h.info, hinfo]
          dsimp only
          rw [if_neg hfinalized, h.readFile, hread]
          dsimp only
          rw [if_neg hsize]
          exact Prod.ext (info_set hrow) rfl

end ObjectStore

namespace Connection

open ObjectStore (SameFor Local)

variable {P : Primitives} {cfg : ServerConfig} {conn conn' : Connection} {A o : Uuid} {d : Draw}
  {env : Envelope}

lemma local_storeChunk (P : Primitives) (conn : Connection) (o : Uuid) (chunkIndex : ℤ) (data : Bytes) :
    Local o fun st => (conn.withObjects st).storeChunk P o chunkIndex data := by
  apply (ObjectStore.local_writeChunk o chunkIndex data).bind
  intro _
  apply Local.decided
  intro st
  let sized : Except Exn (ObjectInfo × ℤ) := do
    let info ← st.info o
    let content ← st.readFile o
    return (info, content.length)
  have hsized (st' : ObjectStore) (h : SameFor o st st') : (do
      let info ← st'.info o
      let content ← st'.readFile o
      return (info, (content.length : ℤ)) : Except Exn (ObjectInfo × ℤ)) = sized := by
    rw [h.info, h.readFile]
  cases hsize : sized with
  | error exc =>
    refine ⟨_, .pure (.error exc), ?_⟩
    intro st' h
    dsimp only
    rw [hsized st' h, hsize]
  | ok sized =>
    by_cases hcomplete : sized.1.fileSize ≤ sized.2
    · refine ⟨_, (ObjectStore.local_finalize P o).bind fun _ => .pure (.ok sized.1), ?_⟩
      intro st' h
      dsimp only
      rw [hsized st' h, hsize]
      exact if_pos hcomplete
    · refine ⟨_, .pure (.ok sized.1), ?_⟩
      intro st' h
      dsimp only
      rw [hsized st' h, hsize]
      exact if_neg hcomplete

def Hidden (permissions : Permissions) (A o : Uuid) : Prop :=
  ∀ row ∈ permissions.rows, row.clientUuid = A → row.objectUuid = o → row.policy ≠ "ALLOW"

structure AgreeFor (A : Uuid) (conn conn' : Connection) : Prop where
  server : conn'.toTunnel2Server = conn.toTunnel2Server
  permissions : conn'.permissions = conn.permissions
  objects : ∀ o, ¬ Hidden conn.permissions A o → SameFor o conn.objects conn'.objects

lemma not_hidden_of_allowed {permissions : Permissions} {operation : String}
    (h : Allowed permissions A o operation) : ¬ Hidden permissions A o := by
  obtain ⟨row, hrow, hallow⟩ := h
  obtain ⟨hmem, hkey⟩ := Table.get?_eq_some.mp hrow
  intro hhidden
  exact hhidden row hmem (congrArg Prod.fst hkey) (congrArg (Prod.fst ∘ Prod.snd) hkey) hallow

structure Matches {α : Type} (A : Uuid) (conn conn' : Connection) (r r' : Outcome Connection α) : Prop where
  result : r'.1 = r.1
  permissions : r.2.permissions = conn.permissions
  agree : AgreeFor A r.2 r'.2
  kept : ∀ o, Hidden conn.permissions A o →
    SameFor o conn.objects r.2.objects ∧ SameFor o conn'.objects r'.2.objects

lemma AgreeFor.answer {α : Type} (h : AgreeFor A conn conn') (x : Except Exn α) :
    Matches A conn conn' (x, conn) (x, conn') where
  result := rfl
  permissions := rfl
  agree := h
  kept _ _ := ⟨.refl _, .refl _⟩

def described (info : Except Exn ObjectInfo) : Except Exn Response := do
  return .message (← encodeResponseMessage (infoResponse (← info)))

lemma AgreeFor.respond (h : AgreeFor A conn conn') (hvisible : ¬ Hidden conn.permissions A o)
    {f : ObjectStore → Outcome ObjectStore ObjectInfo} (hf : Local o f) :
    Matches A conn conn'
      (described (f conn.objects).1, conn.withObjects (f conn.objects).2)
      (described (f conn'.objects).1, conn'.withObjects (f conn'.objects).2) := by
  obtain ⟨hresult, hsame⟩ := hf.same _ _ (h.objects o hvisible)
  constructor
  · rw [hresult]
  · rfl
  · refine ⟨h.server, h.permissions, ?_⟩
    intro o' hvisible'
    by_cases ho : o' = o
    · rw [ho]
      exact hsame
    · exact ((hf.other _ o' ho).symm.trans (h.objects o' hvisible')).trans (hf.other _ o' ho)
  · intro o' hhidden
    have ho : o' ≠ o := by
      rintro rfl
      exact hvisible hhidden
    exact ⟨hf.other _ o' ho, hf.other _ o' ho⟩

lemma AgreeFor.withAuth (h : AgreeFor A conn conn') (auth : Authenticator) :
    AgreeFor A (conn.withAuth auth) (conn'.withAuth auth) where
  server := by
    have hserver := h.server
    rw [Connection.withAuth, Connection.withAuth, hserver]
  permissions := h.permissions
  objects := h.objects

lemma Matches.of_withAuth {α : Type} {auth : Authenticator} {r r' : Outcome Connection α}
    (h : Matches A (conn.withAuth auth) (conn'.withAuth auth) r r') : Matches A conn conn' r r' :=
  ⟨h.result, h.permissions, h.agree, h.kept⟩

lemma AgreeFor.state (h : AgreeFor A conn conn') : conn'.state = conn.state :=
  congrArg Tunnel2Server.state h.server

lemma AgreeFor.requestedObject (h : AgreeFor A conn conn') (operation : String) (object : Option Uuid)
    (env : Envelope) (permission : String) :
    conn'.requestedObject operation object env permission =
      conn.requestedObject operation object env permission := by
  cases object with
  | none => rfl
  | some o => simp only [Connection.requestedObject, h.permissions]

lemma requestedObject_visible {operation permission : String} {object : Option Uuid}
    (h : conn.requestedObject operation object env permission = .ok o) :
    ¬ Hidden conn.permissions env.senderUuid o := by
  cases object with
  | none => cases h
  | some objectUuid =>
    obtain ⟨_, hallowed, ho⟩ := except_bind_eq_ok.mp h
    obtain rfl := Except.ok.inj ho
    exact not_hidden_of_allowed (checkPermission_eq_ok.mp hallowed)

lemma handleObjChunk_stored {chunkIndex : ℤ} {data : Bytes}
    (h : conn.acceptedChunk P env = .ok (o, chunkIndex, data)) :
    conn.handleObjChunk P env = (described (conn.storeChunk P o chunkIndex data).1,
      conn.withObjects (conn.storeChunk P o chunkIndex data).2) := by
  rw [handleObjChunk, h]
  rfl

lemma handleWrite_created {request : RequestMessage}
    (h : conn.requestedObject "WRITE" request.objectUuid env "WRITE" = .ok o) :
    conn.handleWrite env request =
      (described (conn.objects.create o request.fileType request.fileSize request.metadata).1,
        conn.withObjects (conn.objects.create o request.fileType request.fileSize request.metadata).2) := by
  rw [handleWrite, h]
  rfl

lemma handleObjChunk_matches (h : AgreeFor env.senderUuid conn conn') :
    Matches env.senderUuid conn conn' (conn.handleObjChunk P env) (conn'.handleObjChunk P env) := by
  have haccepted : conn'.acceptedChunk P env = conn.acceptedChunk P env := by
    rw [acceptedChunk, acceptedChunk, h.state, h.permissions]
  cases hchunk : conn.acceptedChunk P env with
  | error exc =>
    rw [handleObjChunk, handleObjChunk, haccepted, hchunk]
    exact h.answer _
  | ok chunk =>
    obtain ⟨o, chunkIndex, data⟩ := chunk
    have hvisible : ¬ Hidden conn.permissions env.senderUuid o := by
      obtain ⟨⟨_, _, _⟩, _, hchunk⟩ := except_bind_eq_ok.mp hchunk
      obtain ⟨_, hallowed, hsame⟩ := except_bind_eq_ok.mp hchunk
      obtain ⟨rfl, _⟩ := Prod.mk.inj (Except.ok.inj hsame)
      exact not_hidden_of_allowed (checkPermission_eq_ok.mp hallowed)
    rw [handleObjChunk_stored hchunk, handleObjChunk_stored (haccepted.trans hchunk)]
    exact h.respond hvisible (local_storeChunk P conn o chunkIndex data)

lemma handleWrite_matches (h : AgreeFor env.senderUuid conn conn') (request : RequestMessage) :
    Matches env.senderUuid conn conn' (conn.handleWrite env request) (conn'.handleWrite env request) := by
  have hrequested := h.requestedObject "WRITE" request.objectUuid env "WRITE"
  cases hobject : conn.requestedObject "WRITE" request.objectUuid env "WRITE" with
  | error exc =>
    rw [handleWrite, handleWrite, hrequested, hobject]
    exact h.answer _
  | ok o =>
    rw [handleWrite_created hobject, handleWrite_created (hrequested.trans hobject)]
    exact h.respond (requestedObject_visible hobject)
      (ObjectStore.local_create o request.fileType request.fileSize request.metadata)

lemma handleRead_same (h : AgreeFor env.senderUuid conn conn') (request : RequestMessage) :
    conn'.handleRead env request = conn.handleRead env request := by
  rw [handleRead, handleRead, h.requestedObject]
  cases hobject : conn.requestedObject "READ" request.objectUuid env "READ" with
  | error exc => rfl
  | ok o => rw [except_ok_bind, except_ok_bind, (h.objects o (requestedObject_visible hobject)).info]

lemma handleReadChunk_same (h : AgreeFor env.senderUuid conn conn') (request : RequestMessage) :
    conn'.handleReadChunk cfg env request = conn.handleReadChunk cfg env request := by
  rw [handleReadChunk, handleReadChunk, h.requestedObject]
  cases hobject : conn.requestedObject "READ_CHUNK" request.objectUuid env "READ" with
  | error exc => rfl
  | ok o =>
    have hsame := h.objects o (requestedObject_visible hobject)
    rw [except_ok_bind, except_ok_bind, ObjectStore.readChunk, ObjectStore.readChunk, hsame.info,
      hsame.readFile]

lemma answer_matches (h : AgreeFor env.senderUuid conn conn') (request : RequestMessage) :
    Matches env.senderUuid conn conn' (conn.answer cfg env request) (conn'.answer cfg env request) := by
  rw [answer, answer]
  split_ifs
  · exact handleWrite_matches h request
  · rw [handleRead_same h]
    exact h.answer _
  · rw [handleReadChunk_same h]
    exact h.answer _
  · exact h.answer _

lemma dispatch_matches (h : AgreeFor env.senderUuid conn conn') :
    Matches env.senderUuid conn conn' (conn.dispatch P cfg env) (conn'.dispatch P cfg env) := by
  rw [dispatch, dispatch, h.state]
  split
  · exact h.answer _
  · exact answer_matches h _

variable (P cfg d) in
lemma attempt_matches (h : AgreeFor env.senderUuid conn conn') :
    Matches env.senderUuid conn conn' (conn.attempt P cfg d env) (conn'.attempt P cfg d env) := by
  have hauth : conn'.auth = conn.auth := congrArg Tunnel2Server.auth h.server
  rw [attempt, attempt, h.state, hauth]
  rcases conn.auth.authenticate P cfg.params conn.state.db env d.authNow with ⟨exc | _, auth⟩
  · exact ((h.withAuth auth).answer (.error exc)).of_withAuth
  · dsimp only
    split_ifs
    · exact (handleObjChunk_matches (h.withAuth auth)).of_withAuth
    · exact (dispatch_matches (h.withAuth auth)).of_withAuth

lemma AgreeFor.relayReply (h : AgreeFor A conn conn') (reqEnv : Envelope) (response : Response) :
    conn'.relayReply P cfg d reqEnv response = conn.relayReply P cfg d reqEnv response := by
  obtain ⟨server, objects, permissions⟩ := conn
  obtain ⟨server', objects', permissions'⟩ := conn'
  obtain rfl : server' = server := h.server
  rfl

theorem noninterference (P : Primitives) (cfg : ServerConfig) (d : Draw) (A : Uuid)
    (conn conn' : Connection) (payload : Bytes) (env : Envelope) (hagree : AgreeFor A conn conn')
    (hparse : parseEnvelope payload = .ok env) (hsender : env.senderUuid = A) :
    caught (conn'.attempt P cfg d env).1 = caught (conn.attempt P cfg d env).1 ∧
      Matches A conn conn' (conn.handleRelay P cfg d payload) (conn'.handleRelay P cfg d payload) := by
  subst hsender
  have hattempt := attempt_matches P cfg d hagree
  refine ⟨congrArg caught hattempt.result, ?_⟩
  rw [handleRelay, handleRelay, hparse]
  refine ⟨?_, hattempt.permissions, hattempt.agree, hattempt.kept⟩
  dsimp only
  rw [hattempt.result]
  simp only [hattempt.agree.relayReply]

open Tunnel2Server (serving frontServer demoDraw)

-- the enrolled identity may read the first object, and has no row for the second
def partlyPermitted (objects : ObjectStore) : Connection where
  toTunnel2Server := serving transparent frontServer Database.enrolledRun (demoKeys 6) 1000
  objects
  permissions := .ofRows [⟨Uuid.nil, Uuid.repeated 2, "READ", "ALLOW"⟩]

def visibleObject : ObjectStore := (ObjectStore.empty.create (Uuid.repeated 2) "" 1 "").2

def hiddenObject : ObjectStore :=
  ((visibleObject.create (Uuid.repeated 3) "" 2 "").2.writeChunk (Uuid.repeated 3) 0 [7]).2

def readHidden : Envelope :=
  let env : Envelope :=
    { msgType := MsgType.request.code, senderUuid := Uuid.nil, recipientUuid := frontServer.serverUuid
      requestId := Uuid.nil, senderCredentialVersion := 1, timestamp := 50000
      nonce := List.replicate 12 0, payload := [] }
  let sealed : Except Exn Envelope := do
    let inner ← encodeRequestMessage { op := Op.read.code, objectUuid := some (Uuid.repeated 3) }
    sealEnvelope transparent env (demoKey 9) (demoKeys 6).x25519 1 inner (demoKey 1)
  sealed.toOption.getD env

lemma agreeFor_hiddenObject :
    AgreeFor Uuid.nil (partlyPermitted visibleObject) (partlyPermitted hiddenObject) := by
  refine ⟨rfl, rfl, fun o hvisible => ?_⟩
  by_cases ho : o = Uuid.repeated 3
  · have hhidden : Hidden (partlyPermitted visibleObject).permissions Uuid.nil (Uuid.repeated 3) := by
      rw [Hidden]
      decide +kernel
    exact (hvisible (ho ▸ hhidden)).elim
  · exact ((ObjectStore.local_create (Uuid.repeated 3) "" 2 "").other visibleObject o ho).trans
      ((ObjectStore.local_writeChunk (Uuid.repeated 3) 0 [7]).other _ o ho)

theorem hidden_object_unnoticed :
    caught ((partlyPermitted hiddenObject).attempt transparent frontServer demoDraw readHidden).1 =
      caught ((partlyPermitted visibleObject).attempt transparent frontServer demoDraw readHidden).1 ∧
    Matches Uuid.nil (partlyPermitted visibleObject) (partlyPermitted hiddenObject)
      ((partlyPermitted visibleObject).handleRelay transparent frontServer demoDraw
        (readHidden.encode.toOption.getD []))
      ((partlyPermitted hiddenObject).handleRelay transparent frontServer demoDraw
        (readHidden.encode.toOption.getD [])) ∧
    ((partlyPermitted hiddenObject).attempt transparent frontServer demoDraw readHidden).1 =
      .error (.authorizationError "FORBIDDEN" s!"READ on {(Uuid.repeated 3).str} not permitted") := by
  obtain ⟨hcaught, hmatches⟩ := noninterference transparent frontServer demoDraw Uuid.nil
    (partlyPermitted visibleObject) (partlyPermitted hiddenObject) (readHidden.encode.toOption.getD [])
    readHidden agreeFor_hiddenObject (by decide +kernel) (by decide +kernel)
  exact ⟨hcaught, hmatches, by decide +kernel⟩

end Connection

end Secupload.Server
