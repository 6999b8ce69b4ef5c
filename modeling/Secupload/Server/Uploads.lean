import Secupload.Library.AppendLog
import Secupload.Library.Blocks
import Secupload.Server.Relay

namespace Secupload.Server

open Library Shared

namespace ObjectStore

variable (P : Primitives) (o : Uuid) (st : ObjectStore)

def finalized : Bool :=
  match st.objects.get? o with
  | none => false
  | some row => decide (row.contentIntegrity ≠ "")

def log : AppendLog UInt8 := ⟨(st.content? o).getD [], st.finalized o⟩

def Declares (n : ℕ) : Prop :=
  ∃ row, st.objects.get? o = some row ∧ row.fileSize = n ∧
    (row.contentIntegrity ≠ "" → ∃ content, st.content? o = some content ∧
      row.contentIntegrity = hexdigest P content)

structure SameFor (st st' : ObjectStore) : Prop where
  row : st'.objects.get? o = st.objects.get? o
  content : st'.content? o = st.content? o

section Store

variable {P o st} {st' : ObjectStore} {row : ObjectInfo} {n : ℕ}

lemma hexdigest_length (hsha : ∀ content, (P.sha256 content).length = 32) (content : Bytes) :
    (utf8 (hexdigest P content)).length = 64 := by
  rw [hexdigest, utf8_hex_length, hsha]

lemma hexdigest_ne_empty (hsha : ∀ content, (P.sha256 content).length = 32) (content : Bytes) :
    hexdigest P content ≠ "" := by
  intro hempty
  have hlen := hexdigest_length hsha content
  rw [hempty] at hlen
  exact absurd hlen (by decide)

lemma SameFor.refl (st : ObjectStore) : SameFor o st st := ⟨rfl, rfl⟩

lemma SameFor.trans {st'' : ObjectStore} (h : SameFor o st st') (h' : SameFor o st' st'') :
    SameFor o st st'' := ⟨h'.row.trans h.row, h'.content.trans h.content⟩

lemma SameFor.log (h : SameFor o st st') : st'.log o = st.log o := by
  rw [ObjectStore.log, ObjectStore.log, finalized, finalized, h.row, h.content]

lemma SameFor.declares (h : SameFor o st st') (hst : st.Declares P o n) : st'.Declares P o n := by
  rw [Declares, h.row, h.content]
  exact hst

lemma info_of_get? (h : st.objects.get? o = some row) : st.info o = .ok row := by
  rw [info, h]

lemma finalized_of_get? (h : st.objects.get? o = some row) :
    st.finalized o = decide (row.contentIntegrity ≠ "") := by
  rw [finalized, h]

@[simp] lemma content?_appendFile (data : Bytes) :
    (st.appendFile o data).content? o = some ((st.content? o).getD [] ++ data) := by
  rw [content?, appendFile, Table.get?_set, if_pos rfl]
  rfl

lemma appendFile_other {o' : Uuid} (hne : o' ≠ o) (data : Bytes) :
    SameFor o st (st.appendFile o' data) where
  row := rfl
  content := by
    rw [content?, content?, appendFile, Table.get?_set_ne _ hne]

lemma create_other (hst : (st.objects.get? o).isSome) (o' : Uuid) (fileType : String) (fileSize : ℤ)
    (metadata : String) : SameFor o st (st.create o' fileType fileSize metadata).2 := by
  rw [create]
  split_ifs with hexists hsize
  · exact .refl st
  · exact .refl st
  · have hne : o' ≠ o := by
      rintro rfl
      exact hexists hst
    exact ⟨Table.get?_set_ne _ hne, rfl⟩

lemma finalize_other {o' : Uuid} (hne : o' ≠ o) : SameFor o st (st.finalize P o').2 := by
  rw [finalize]
  cases hinfo : st.info o' with
  | error exc => exact .refl st
  | ok info =>
    have hkey : info.objectUuid = o' := by
      rw [ObjectStore.info] at hinfo
      cases hget : st.objects.get? o' with
      | none =>
        rw [hget] at hinfo
        cases hinfo
      | some found =>
        rw [hget] at hinfo
        obtain rfl := Except.ok.inj hinfo
        exact (Table.get?_eq_some.mp hget).2
    dsimp only
    split
    · exact .refl st
    · cases st.readFile o' with
      | error exc => exact .refl st
      | ok content =>
        dsimp only
        split
        · exact .refl st
        · exact ⟨Table.get?_set_ne _ (by rw [hkey]; exact hne), rfl⟩

end Store

end ObjectStore

namespace Connection

section Storing

variable {P : Primitives} {conn : Connection} {o : Uuid} {row : ObjectInfo} {n : ℕ}

lemma storeChunk_finalized (hrow : conn.objects.objects.get? o = some row)
    (hfinalized : row.contentIntegrity ≠ "") (chunkIndex : ℤ) (data : Bytes) :
    conn.storeChunk P o chunkIndex data =
      (.error (.objectStoreError "FINALIZED" "object is already finalized"), conn.objects) := by
  rw [storeChunk, ObjectStore.writeChunk, ObjectStore.info_of_get? hrow]
  dsimp only
  rw [if_pos hfinalized]
  rfl

lemma storeChunk_open (hrow : conn.objects.objects.get? o = some row)
    (hopen : row.contentIntegrity = "") (chunkIndex : ℤ) (data : Bytes) :
    let stored := (conn.objects.content? o).getD [] ++ data
    let st := conn.objects.appendFile o data
    let complete := { row with contentIntegrity := ObjectStore.hexdigest P stored }
    conn.storeChunk P o chunkIndex data =
      if row.fileSize ≤ stored.length then
        if (stored.length : ℤ) ≠ row.fileSize then
          (.error (.objectStoreError "INTEGRITY_FAILURE"
            s!"size mismatch: expected {row.fileSize}, got {stored.length}"), st)
        else
          (.ok row, { st with objects := st.objects.set complete })
      else (.ok row, st) := by
  intro stored st complete
  have hkey : row.objectUuid = o := (Table.get?_eq_some.mp hrow).2
  have hinfo : st.info o = .ok row := ObjectStore.info_of_get? hrow
  have hread : st.readFile o = .ok stored := by
    rw [ObjectStore.readFile, ObjectStore.content?_appendFile]
  rw [storeChunk, ObjectStore.writeChunk, ObjectStore.info_of_get? hrow]
  dsimp only
  rw [if_neg (not_not.mpr hopen)]
  simp only [Outcome.bind]
  rw [show conn.objects.appendFile o data = st from rfl, hinfo, hread]
  dsimp only [except_ok_bind, pure, Except.pure]
  split
  · rw [ObjectStore.finalize, hinfo]
    dsimp only
    rw [if_neg (not_not.mpr hopen), hread]
    dsimp only
    by_cases hsize : (stored.length : ℤ) ≠ row.fileSize
    · rw [if_pos hsize, if_pos hsize]
    · have hcomplete : (⟨st.objects.set complete, st.files⟩ : ObjectStore).info o = .ok complete :=
        ObjectStore.info_of_get? ((Table.get?_set _ _ _).trans (if_pos hkey))
      rw [if_neg hsize, if_neg hsize, hcomplete]
  · rfl

lemma storeChunk_log (hst : conn.objects.Declares P o n)
    (hdigest : ∀ content, ObjectStore.hexdigest P content ≠ "") (chunkIndex : ℤ) (data : Bytes) :
    (conn.storeChunk P o chunkIndex data).2.Declares P o n ∧
      (conn.storeChunk P o chunkIndex data).2.log o = (conn.objects.log o).append n data := by
  obtain ⟨row, hrow, hsize, hsealed⟩ := hst
  have hkey : row.objectUuid = o := (Table.get?_eq_some.mp hrow).2
  by_cases hopen : row.contentIntegrity = ""
  · have hlog : conn.objects.log o = ⟨(conn.objects.content? o).getD [], false⟩ := by
      rw [ObjectStore.log, ObjectStore.finalized_of_get? hrow, hopen]
      rfl
    rw [storeChunk_open hrow hopen, hlog, AppendLog.append, if_neg Bool.false_ne_true]
    dsimp only
    generalize hstored : (conn.objects.content? o).getD [] ++ data = stored
    have hcontent : (conn.objects.appendFile o data).content? o = some stored := by
      rw [ObjectStore.content?_appendFile, hstored]
    have hkept (hne : stored.length ≠ n) : (conn.objects.appendFile o data).Declares P o n ∧
        (conn.objects.appendFile o data).log o = ⟨stored, decide (stored.length = n)⟩ := by
      have hget : (conn.objects.appendFile o data).objects.get? o = some row := hrow
      refine ⟨⟨row, hget, hsize, fun hno => (hno hopen).elim⟩, ?_⟩
      rw [ObjectStore.log, hcontent, ObjectStore.finalized_of_get? hget, hopen, decide_eq_false hne]
      rfl
    split
    · split
      · rename_i _ hne
        exact hkept (by omega)
      · rename_i _ heq
        have hfull : stored.length = n := by omega
        have hget : ((conn.objects.appendFile o data).objects.set
            { row with contentIntegrity := ObjectStore.hexdigest P stored }).get? o =
            some { row with contentIntegrity := ObjectStore.hexdigest P stored } :=
          (Table.get?_set _ _ _).trans (if_pos hkey)
        refine ⟨⟨_, hget, hsize, fun _ => ⟨stored, hcontent, rfl⟩⟩, ?_⟩
        rw [ObjectStore.log, ObjectStore.finalized_of_get? hget, decide_eq_true hfull,
          decide_eq_true (hdigest stored)]
        exact congrArg (AppendLog.mk · true) (congrArg (Option.getD · []) hcontent)
    · exact hkept (by omega)
  · rw [storeChunk_finalized hrow hopen]
    refine ⟨⟨row, hrow, hsize, hsealed⟩, ?_⟩
    have hclosed : (conn.objects.log o).closed = true := by
      rw [ObjectStore.log, ObjectStore.finalized_of_get? hrow]
      exact decide_eq_true hopen
    rw [AppendLog.append, if_pos hclosed]

lemma storeChunk_other {o' : Uuid} (hne : o' ≠ o) (chunkIndex : ℤ) (data : Bytes) :
    ObjectStore.SameFor o conn.objects (conn.storeChunk P o' chunkIndex data).2 := by
  have happend : ObjectStore.SameFor o conn.objects (conn.objects.appendFile o' data) :=
    ObjectStore.appendFile_other hne data
  rw [storeChunk, ObjectStore.writeChunk]
  cases conn.objects.info o' with
  | error exc => exact .refl _
  | ok info =>
    dsimp only
    split
    · exact .refl _
    · simp only [Outcome.bind]
      split
      · exact happend
      · split
        · have hfinal := happend.trans (ObjectStore.finalize_other (P := P) hne)
          split <;> exact hfinal
        · exact happend

end Storing

section Frames

variable (P : Primitives) (cfg : ServerConfig) (o : Uuid)

structure Message where
  draw : Draw
  frame : Frame

def serve (conn : Connection) (m : Message) : Connection := (conn.handleFrame P cfg m.draw m.frame).2

def chunkOf (conn : Connection) (m : Message) : Option (ℤ × Bytes) :=
  if m.frame.channel ≠ channelRelay then none
  else
    match parseEnvelope m.frame.payload with
    | .error _ => none
    | .ok env =>
      match conn.auth.authenticate P cfg.params conn.state.db env m.draw.authNow with
      | (.error _, _) => none
      | (.ok _, auth) =>
        if env.msgType = MsgType.objChunk.code then
          match (conn.withAuth auth).acceptedChunk P env with
          | .ok (objectUuid, chunkIndex, data) =>
            if objectUuid = o then some (chunkIndex, data) else none
          | .error _ => none
        else none

def arrivals : Connection → List Message → List (ℤ × Bytes)
  | _, [] => []
  | conn, m :: ms => (conn.chunkOf P cfg o m).toList ++ arrivals (conn.serve P cfg m) ms

def Takes (n : ℕ) (conn : Connection) (chunk : Option (ℤ × Bytes)) (st : ObjectStore) : Prop :=
  st.Declares P o n ∧ st.log o = run (AppendLog.append n) (conn.objects.log o) (chunk.toList.map (·.2))

variable {P cfg o} {conn : Connection} {n : ℕ}

lemma takes_none {st : ObjectStore} (hst : conn.objects.Declares P o n)
    (h : ObjectStore.SameFor o conn.objects st) : conn.Takes P o n none st :=
  ⟨h.declares hst, h.log⟩

lemma handleObjChunk_takes (conn : Connection) (hst : conn.objects.Declares P o n)
    (hdigest : ∀ content, ObjectStore.hexdigest P content ≠ "") (env : Envelope) :
    conn.Takes P o n
      (match conn.acceptedChunk P env with
        | .ok (objectUuid, chunkIndex, data) =>
          if objectUuid = o then some (chunkIndex, data) else none
        | .error _ => none)
      (conn.handleObjChunk P env).2.objects := by
  rw [handleObjChunk]
  cases conn.acceptedChunk P env with
  | error exc => exact takes_none hst (.refl _)
  | ok accepted =>
    obtain ⟨objectUuid, chunkIndex, data⟩ := accepted
    dsimp only
    split
    · rename_i heq
      subst heq
      exact storeChunk_log hst hdigest chunkIndex data
    · rename_i hne
      exact takes_none hst (storeChunk_other hne chunkIndex data)

lemma dispatch_same (conn : Connection) (hst : conn.objects.Declares P o n) (env : Envelope) :
    ObjectStore.SameFor o conn.objects (conn.dispatch P cfg env).2.objects := by
  obtain ⟨row, hrow, _⟩ := hst
  rw [dispatch]
  split
  · exact .refl _
  · rw [answer]
    split
    · rw [handleWrite]
      split
      · exact .refl _
      · exact ObjectStore.create_other (by rw [hrow]; rfl) _ _ _ _
    · split
      · exact .refl _
      · split <;> exact .refl _

lemma serve_takes (cfg : ServerConfig) (hst : conn.objects.Declares P o n)
    (hdigest : ∀ content, ObjectStore.hexdigest P content ≠ "") (m : Message) :
    conn.Takes P o n (conn.chunkOf P cfg o m) (conn.serve P cfg m).objects := by
  have hsame := takes_none hst (.refl conn.objects)
  rw [serve, handleFrame, chunkOf]
  by_cases hcontrol : m.frame.channel = channelControl
  · rw [if_pos hcontrol, if_pos (by rw [hcontrol]; decide)]
    exact hsame
  · rw [if_neg hcontrol]
    by_cases hrelay : m.frame.channel = channelRelay
    · rw [if_pos hrelay, if_neg (not_not.mpr hrelay), handleRelay]
      cases parseEnvelope m.frame.payload with
      | error exc => exact hsame
      | ok env =>
        dsimp only
        rw [attempt]
        rcases conn.auth.authenticate P cfg.params conn.state.db env m.draw.authNow with
          ⟨_ | _, auth⟩
        · exact hsame
        · dsimp only
          split
          · exact handleObjChunk_takes (conn.withAuth auth) hst hdigest env
          · exact takes_none hst (dispatch_same (conn.withAuth auth) hst env)
    · rw [if_neg hrelay, if_pos hrelay]
      exact hsame

lemma log_run (cfg : ServerConfig) (hst : conn.objects.Declares P o n)
    (hdigest : ∀ content, ObjectStore.hexdigest P content ≠ "") (ms : List Message) :
    (run (serve P cfg) conn ms).objects.Declares P o n ∧
      (run (serve P cfg) conn ms).objects.log o =
        run (AppendLog.append n) (conn.objects.log o) ((conn.arrivals P cfg o ms).map (·.2)) := by
  induction ms generalizing conn with
  | nil => exact ⟨hst, rfl⟩
  | cons m ms ih =>
    obtain ⟨hnext, hlog⟩ := serve_takes cfg hst hdigest m
    obtain ⟨hfinal, hrest⟩ := ih hnext
    refine ⟨hfinal, ?_⟩
    rw [run_cons, hrest, hlog, arrivals, List.map_append, run_append]

end Frames

end Connection

end Secupload.Server
