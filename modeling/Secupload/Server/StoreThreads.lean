import Secupload.Server.Noninterference

/-! OBJ_CHUNK handlers of several connections at the same store: each of their looks at a row or a
file, each append and each commit is a step of its own, in any order. -/

namespace Secupload.Server

open Library Shared

structure ChunkJob where
  objectUuid : Uuid
  chunkIndex : ℤ
  data : Bytes

-- where a handler is, and what it still knows of what it has read
inductive ChunkStage
  | begun
  | unfinalized
  | written
  | described (info : ObjectInfo)
  | complete (info : ObjectInfo)
  | finalizing (info row : ObjectInfo)
  | digested (info row : ObjectInfo) (digest : String)
  | sized (info : ObjectInfo) (digest : String)
  | committed (info : ObjectInfo)
  | finished (result : Except Exn ObjectInfo)

namespace ChunkStage

variable (P : Primitives) (job : ChunkJob) (st : ObjectStore)

-- one step of `_handle_obj_chunk`, from its call of `write_chunk` on
def advance : ChunkStage → ChunkStage × ObjectStore
  | .begun =>
    match st.info job.objectUuid with
    | .error exc => (.finished (.error exc), st)
    | .ok info =>
      if info.contentIntegrity ≠ "" then
        (.finished (.error (.objectStoreError "FINALIZED" "object is already finalized")), st)
      else (.unfinalized, st)
  | .unfinalized => (.written, st.appendFile job.objectUuid job.data)
  | .written =>
    match st.info job.objectUuid with
    | .error exc => (.finished (.error exc), st)
    | .ok info => (.described info, st)
  | .described info =>
    match st.readFile job.objectUuid with
    | .error exc => (.finished (.error exc), st)
    | .ok content =>
      if info.fileSize ≤ content.length then (.complete info, st) else (.finished (.ok info), st)
  -- `finalize`
  | .complete info =>
    match st.info job.objectUuid with
    | .error exc => (.finished (.error exc), st)
    | .ok row => if row.contentIntegrity ≠ "" then (.finished (.ok info), st) else (.finalizing info row, st)
  | .finalizing info row =>
    match st.readFile job.objectUuid with
    | .error exc => (.finished (.error exc), st)
    | .ok content => (.digested info row (ObjectStore.hexdigest P content), st)
  | .digested info row digest =>
    match st.readFile job.objectUuid with
    | .error exc => (.finished (.error exc), st)
    | .ok content =>
      if (content.length : ℤ) ≠ row.fileSize then
        (.finished (.error (.objectStoreError "INTEGRITY_FAILURE"
          s!"size mismatch: expected {row.fileSize}, got {content.length}")), st)
      else (.sized info digest, st)
  | .sized info digest =>
    match st.objects.get? job.objectUuid with
    -- no handler deletes a row that another has read
    | none => (.sized info digest, st)
    | some row => (.committed info, { st with objects := st.objects.set { row with contentIntegrity := digest } })
  | .committed info =>
    match st.info job.objectUuid with
    | .error exc => (.finished (.error exc), st)
    | .ok _ => (.finished (.ok info), st)
  | .finished result => (.finished result, st)

def alone (r : ChunkStage × ObjectStore) : ChunkStage × ObjectStore := r.1.advance P job r.2

variable {P job}

lemma alone_finished (n : ℕ) (result : Except Exn ObjectInfo) :
    (alone P job)^[n] (.finished result, st) = (.finished result, st) :=
  Function.iterate_fixed rfl n

lemma alone_storeChunk (conn : Connection) (job : ChunkJob) :
    (alone P job)^[9] (.begun, conn.objects) =
      (.finished (conn.storeChunk P job.objectUuid job.chunkIndex job.data).1,
        (conn.storeChunk P job.objectUuid job.chunkIndex job.data).2) := by
  cases hrow : conn.objects.objects.get? job.objectUuid with
  | none =>
    have hinfo : conn.objects.info job.objectUuid =
        .error (.objectStoreError "NOT_FOUND" "object does not exist") := by rw [ObjectStore.info, hrow]
    rw [Function.iterate_succ_apply, alone, advance, hinfo, Connection.storeChunk, ObjectStore.writeChunk, hinfo]
    exact alone_finished _ _ _
  | some row =>
    have hinfo : conn.objects.info job.objectUuid = .ok row := ObjectStore.info_of_get? hrow
    by_cases hopen : row.contentIntegrity = ""
    · rw [Connection.storeChunk_open hrow hopen]
      generalize hstored : (conn.objects.content? job.objectUuid).getD [] ++ job.data = stored
      have hread : (conn.objects.appendFile job.objectUuid job.data).readFile job.objectUuid = .ok stored := by
        rw [ObjectStore.readFile, ObjectStore.content?_appendFile, hstored]
      have hinfo' : (conn.objects.appendFile job.objectUuid job.data).info job.objectUuid = .ok row := hinfo
      have hrow' : (conn.objects.appendFile job.objectUuid job.data).objects.get? job.objectUuid = some row := hrow
      iterate 4 rw [Function.iterate_succ_apply]
      simp only [alone, advance, hinfo, hinfo', hread, hopen, ne_eq, not_true_eq_false, if_false]
      split_ifs with hcomplete hsize
      · have hkey : row.objectUuid = job.objectUuid := (Table.get?_eq_some.mp hrow).2
        have hset : (⟨(conn.objects.appendFile job.objectUuid job.data).objects.set
            { row with contentIntegrity := ObjectStore.hexdigest P stored },
            (conn.objects.appendFile job.objectUuid job.data).files⟩ : ObjectStore).info job.objectUuid =
            .ok { row with contentIntegrity := ObjectStore.hexdigest P stored } :=
          ObjectStore.info_of_get? ((Table.get?_set _ _ _).trans (if_pos hkey))
        iterate 5 rw [Function.iterate_succ_apply]
        simp only [alone, advance, hinfo', hread, hopen, ne_eq, not_true_eq_false, if_false, hsize, hrow', hset]
        rfl
      · iterate 3 rw [Function.iterate_succ_apply]
        simp only [alone, advance, hinfo', hread, hopen, ne_eq, not_true_eq_false, if_false, hsize,
          not_false_eq_true, if_true]
        exact alone_finished _ _ _
      · exact alone_finished _ _ _
    · rw [Connection.storeChunk_finalized hrow hopen, Function.iterate_succ_apply, alone, advance, hinfo]
      simp only [ne_eq, hopen, not_false_eq_true, if_true]
      exact alone_finished _ _ _

end ChunkStage

structure StoreThreads (ι : Type) where
  store : ObjectStore
  stage : ι → ChunkStage

inductive StoreThreads.Event (ι : Type)
  | next (i : ι)
  | create (objectUuid : Uuid) (fileType : String) (fileSize : ℤ) (metadata : String)

namespace StoreThreads

variable {ι : Type} [DecidableEq ι] (P : Primitives) (jobs : ι → ChunkJob)

def start : StoreThreads ι := ⟨.empty, fun _ => .begun⟩

def step (w : StoreThreads ι) : Event ι → StoreThreads ι
  | .next i =>
    let result := (w.stage i).advance P (jobs i) w.store
    ⟨result.2, Function.update w.stage i result.1⟩
  | .create objectUuid fileType fileSize metadata =>
    { w with store := (w.store.create objectUuid fileType fileSize metadata).2 }

def reached (events : List (Event ι)) : StoreThreads ι := run (step P jobs) start events

end StoreThreads

namespace ObjectStore

variable (P : Primitives) (o : Uuid) (st st' : ObjectStore)

def Digests (k : ℕ) (digest : String) : Prop :=
  ∃ content, st.content? o = some content ∧ k ≤ content.length ∧ digest = hexdigest P (content.take k)

def Sizes (size : ℤ) : Prop := ∃ row, st.objects.get? o = some row ∧ row.fileSize = size

def Reaches (size : ℤ) : Prop := ∃ content, st.content? o = some content ∧ size ≤ content.length

def Sealed : Prop := ∀ row, st.objects.get? o = some row → row.contentIntegrity ≠ "" →
  ∃ k : ℕ, row.fileSize = k ∧ st.Digests P o k row.contentIntegrity

structure Grows : Prop where
  row : ∀ row, st.objects.get? o = some row → ∃ row', st'.objects.get? o = some row' ∧ row'.fileSize = row.fileSize
  content : ∀ content, st.content? o = some content → ∃ more, st'.content? o = some (content ++ more)

section Grows

variable {P o st st'} {k : ℕ} {digest : String} {size : ℤ}

lemma Grows.refl (st : ObjectStore) : Grows o st st :=
  ⟨fun row h => ⟨row, h, rfl⟩, fun content h => ⟨[], by rw [h, List.append_nil]⟩⟩

lemma Grows.of_sameFor (h : SameFor o st st') : Grows o st st' where
  row row hrow := ⟨row, h.row.trans hrow, rfl⟩
  content content hcontent := ⟨[], by rw [h.content, hcontent, List.append_nil]⟩

lemma Digests.mono (h : st.Digests P o k digest) (hgrows : Grows o st st') : st'.Digests P o k digest := by
  obtain ⟨content, hcontent, hlength, hdigest⟩ := h
  obtain ⟨more, hmore⟩ := hgrows.content content hcontent
  refine ⟨_, hmore, ?_, ?_⟩
  · rw [List.length_append]
    omega
  · rw [List.take_append_of_le_length hlength, hdigest]

lemma Sizes.mono (h : st.Sizes o size) (hgrows : Grows o st st') : st'.Sizes o size := by
  obtain ⟨row, hrow, rfl⟩ := h
  exact hgrows.row row hrow

lemma Reaches.mono (h : st.Reaches o size) (hgrows : Grows o st st') : st'.Reaches o size := by
  obtain ⟨content, hcontent, hlength⟩ := h
  obtain ⟨more, hmore⟩ := hgrows.content content hcontent
  refine ⟨_, hmore, ?_⟩
  rw [List.length_append]
  omega

lemma Sizes.fileSize (h : st.Sizes o size) {row : ObjectInfo} (hrow : st.objects.get? o = some row) :
    row.fileSize = size := by
  obtain ⟨row', hrow', hsize⟩ := h
  obtain rfl := Option.some.inj (hrow.symm.trans hrow')
  exact hsize

lemma get?_of_info {row : ObjectInfo} (h : st.info o = .ok row) : st.objects.get? o = some row := by
  rw [info] at h
  split at h
  · cases h
  · rename_i row' hrow
    rw [hrow, Except.ok.inj h]

lemma content_of_read {content : Bytes} (h : st.readFile o = .ok content) : st.content? o = some content := by
  rw [readFile] at h
  split at h
  · cases h
  · rename_i content' hcontent
    rw [hcontent, Except.ok.inj h]

lemma Sealed.unique (h : st.Sealed P o) {row : ObjectInfo} (hrow : st.objects.get? o = some row)
    (hfinal : row.contentIntegrity ≠ "") (hk : st.Sizes o k) (hdigest : st.Digests P o k digest) :
    row.contentIntegrity = digest := by
  obtain ⟨k', hsize, content, hcontent, _, hsealed⟩ := h row hrow hfinal
  obtain ⟨content', hcontent', _, hother⟩ := hdigest
  obtain rfl := Option.some.inj (hcontent.symm.trans hcontent')
  have hsame : k' = k := by
    have := hk.fileSize hrow
    omega
  rw [hsealed, hother, hsame]

lemma grows_append (o' : Uuid) (data : Bytes) : Grows o st (st.appendFile o' data) := by
  by_cases ho : o' = o
  · subst ho
    refine ⟨fun row h => ⟨row, h, rfl⟩, fun content h => ⟨data, ?_⟩⟩
    rw [content?_appendFile, h]
    rfl
  · exact .of_sameFor (appendFile_other ho data)

lemma grows_create (o' : Uuid) (fileType : String) (fileSize : ℤ) (metadata : String) :
    Grows o st (st.create o' fileType fileSize metadata).2 := by
  by_cases ho : o' = o
  · subst ho
    rw [create]
    split_ifs with hexists
    · exact .refl st
    · exact .refl st
    · refine ⟨fun row h => (hexists ?_).elim, fun content h => ⟨[], h.trans ?_⟩⟩
      · rw [h]
        rfl
      · rw [List.append_nil]
  · exact .of_sameFor ((local_create o' fileType fileSize metadata).other st o (Ne.symm ho))

end Grows

end ObjectStore

namespace ChunkStage

open ObjectStore (Grows Sealed)

def Sound (P : Primitives) (o : Uuid) (st : ObjectStore) : ChunkStage → Prop
  | .described info => st.Sizes o info.fileSize
  | .complete info => st.Sizes o info.fileSize ∧ st.Reaches o info.fileSize
  | .finalizing _ row => st.Sizes o row.fileSize ∧ st.Reaches o row.fileSize
  | .digested _ row digest => st.Sizes o row.fileSize ∧ ∃ k : ℕ, row.fileSize ≤ k ∧ st.Digests P o k digest
  | .sized _ digest => ∃ k : ℕ, st.Sizes o k ∧ st.Digests P o k digest
  | _ => True

section Advance

variable {P : Primitives} {job : ChunkJob} {st st' : ObjectStore} {o : Uuid} {stage : ChunkStage}

lemma Sound.mono (h : stage.Sound P o st) (hgrows : Grows o st st') : stage.Sound P o st' := by
  cases stage with
  | described info => exact ObjectStore.Sizes.mono h hgrows
  | complete info => exact ⟨h.1.mono hgrows, h.2.mono hgrows⟩
  | finalizing info row => exact ⟨h.1.mono hgrows, h.2.mono hgrows⟩
  | digested info row digest =>
    obtain ⟨hsize, k, hk, hdigest⟩ := h
    exact ⟨hsize.mono hgrows, k, hk, hdigest.mono hgrows⟩
  | sized info digest =>
    obtain ⟨k, hsize, hdigest⟩ := h
    exact ⟨k, hsize.mono hgrows, hdigest.mono hgrows⟩
  | begun | unfinalized | written | committed | finished => trivial

variable (P job st) in
lemma advance_store (stage : ChunkStage) :
    (stage.advance P job st).2 = st ∨
    stage = .unfinalized ∧ (stage.advance P job st).2 = st.appendFile job.objectUuid job.data ∨
    ∃ info digest row, stage = .sized info digest ∧ st.objects.get? job.objectUuid = some row ∧
      (stage.advance P job st).2 = { st with objects := st.objects.set { row with contentIntegrity := digest } } := by
  cases stage with
  | unfinalized => exact Or.inr (Or.inl ⟨rfl, rfl⟩)
  | sized info digest =>
    cases hrow : st.objects.get? job.objectUuid with
    | none =>
      refine Or.inl ?_
      rw [advance, hrow]
    | some row =>
      refine Or.inr (Or.inr ⟨info, digest, row, rfl, rfl, ?_⟩)
      rw [advance, hrow]
  | finished => exact Or.inl rfl
  | _ =>
    refine Or.inl ?_
    rw [advance]
    repeat' split
    all_goals rfl

lemma grows_commit {row : ObjectInfo} (hrow : st.objects.get? job.objectUuid = some row) (digest : String) :
    Grows o st { st with objects := st.objects.set { row with contentIntegrity := digest } } := by
  have hkey : row.objectUuid = job.objectUuid := (Table.get?_eq_some.mp hrow).2
  refine ⟨fun row' hrow' => ?_, fun content h => ⟨[], by rw [List.append_nil]; exact h⟩⟩
  by_cases ho : row.objectUuid = o
  · rw [← hkey, ho] at hrow
    obtain rfl := Option.some.inj (hrow.symm.trans hrow')
    exact ⟨_, (Table.get?_set _ _ _).trans (if_pos ho), rfl⟩
  · have hne : ({ row with contentIntegrity := digest } : ObjectInfo).objectUuid ≠ o := ho
    exact ⟨row', (Table.get?_set_ne _ hne).trans hrow', rfl⟩

lemma advance_grows (stage : ChunkStage) : Grows o st (stage.advance P job st).2 := by
  rcases advance_store P job st stage with hsame | ⟨_, happend⟩ | ⟨_, digest, row, _, hrow, hset⟩
  · rw [hsame]
    exact .refl st
  · rw [happend]
    exact ObjectStore.grows_append _ _
  · rw [hset]
    exact grows_commit hrow digest

lemma advance_closed (hsound : stage.Sound P job.objectUuid st) (h : st.Sealed P o) :
    (stage.advance P job st).2.Sealed P o := by
  have hgrows : Grows o st (stage.advance P job st).2 := advance_grows stage
  rcases advance_store P job st stage with
    hsame | ⟨_, happend⟩ | ⟨info, digest, row, rfl, hrow, hset⟩
  · rwa [hsame]
  · rw [happend] at hgrows ⊢
    intro row hrow hfinal
    obtain ⟨k, hsize, hdigest⟩ := h row hrow hfinal
    exact ⟨k, hsize, hdigest.mono hgrows⟩
  · have hkey : row.objectUuid = job.objectUuid := (Table.get?_eq_some.mp hrow).2
    rw [hset]
    intro row' hrow' hfinal
    rw [Table.get?_set] at hrow'
    split_ifs at hrow' with ho
    · obtain rfl := Option.some.inj hrow'
      obtain ⟨k, hsize, hdigest⟩ := hsound
      rw [← hkey, show row.objectUuid = o from ho] at hdigest
      exact ⟨k, (hsize.fileSize hrow : row.fileSize = k), hdigest⟩
    · exact h row' hrow' hfinal

lemma advance_row (hsound : stage.Sound P job.objectUuid st) (h : st.Sealed P o) {row : ObjectInfo}
    (hrow : st.objects.get? o = some row) (hfinal : row.contentIntegrity ≠ "") :
    (stage.advance P job st).2.objects.get? o = some row := by
  rcases advance_store P job st stage with
    hsame | ⟨_, happend⟩ | ⟨info, digest, row', rfl, hrow', hset⟩
  · rwa [hsame]
  · rw [happend]
    exact hrow
  · have hkey : row'.objectUuid = job.objectUuid := (Table.get?_eq_some.mp hrow').2
    rw [hset, Table.get?_set]
    split_ifs with ho
    · rw [← hkey, show row'.objectUuid = o from ho] at hsound hrow'
      obtain rfl := Option.some.inj (hrow.symm.trans hrow')
      obtain ⟨k, hsize, hdigest⟩ := hsound
      rw [← h.unique hrow hfinal hsize hdigest]
    · exact hrow

lemma advance_sound (h : stage.Sound P job.objectUuid st) :
    (stage.advance P job st).1.Sound P job.objectUuid st := by
  cases stage with
  | begun | unfinalized | committed | finished =>
    rw [advance]
    repeat' split
    all_goals trivial
  | written =>
    rw [advance]
    split
    · trivial
    · rename_i info hinfo
      exact ⟨info, ObjectStore.get?_of_info hinfo, rfl⟩
  | described info =>
    rw [advance]
    split
    · trivial
    · rename_i content hread
      split_ifs with hcomplete
      · exact ⟨h, content, ObjectStore.content_of_read hread, hcomplete⟩
      · trivial
  | complete info =>
    rw [advance]
    split
    · trivial
    · rename_i row hinfo
      have hrow := ObjectStore.get?_of_info hinfo
      split_ifs
      · trivial
      · refine ⟨⟨row, hrow, rfl⟩, ?_⟩
        rw [h.1.fileSize hrow]
        exact h.2
  | finalizing info row =>
    rw [advance]
    split
    · trivial
    · rename_i content hread
      have hcontent := ObjectStore.content_of_read hread
      obtain ⟨hsize, content', hcontent', hreach⟩ := h
      obtain rfl := Option.some.inj (hcontent.symm.trans hcontent')
      exact ⟨hsize, content.length, hreach, content, hcontent, Nat.le_refl _, by rw [List.take_length]⟩
  | digested info row digest =>
    rw [advance]
    split
    · trivial
    · rename_i content hread
      have hcontent := ObjectStore.content_of_read hread
      obtain ⟨hsize, k, hk, content', hcontent', hlength, hdigest⟩ := h
      obtain rfl := Option.some.inj (hcontent.symm.trans hcontent')
      split_ifs with hmismatch
      · trivial
      · rw [not_not] at hmismatch
        have hfull : row.fileSize = k := by omega
        exact ⟨k, hfull ▸ hsize, content, hcontent, hlength, hdigest⟩
  | sized info digest =>
    rw [advance]
    split
    · exact h
    · trivial

end Advance

end ChunkStage

namespace StoreThreads

open ObjectStore (Grows Sealed)

variable {ι : Type} [DecidableEq ι] {P : Primitives} {jobs : ι → ChunkJob} {w : StoreThreads ι}

structure Consistent (P : Primitives) (jobs : ι → ChunkJob) (w : StoreThreads ι) : Prop where
  closed : ∀ o, w.store.Sealed P o
  sound : ∀ i, (w.stage i).Sound P (jobs i).objectUuid w.store

omit [DecidableEq ι] in
lemma consistent_start : (start : StoreThreads ι).Consistent P jobs where
  closed o row hrow := by cases hrow
  sound _ := trivial

lemma step_grows (o : Uuid) (e : Event ι) : Grows o w.store (w.step P jobs e).store := by
  cases e with
  | next i => exact ChunkStage.advance_grows (w.stage i)
  | create o' fileType fileSize metadata => exact ObjectStore.grows_create o' fileType fileSize metadata

lemma create_row {st : ObjectStore} {o o' : Uuid} {row : ObjectInfo} (hrow : st.objects.get? o = some row)
    (fileType : String) (fileSize : ℤ) (metadata : String) :
    (st.create o' fileType fileSize metadata).2.objects.get? o = some row := by
  by_cases ho : o' = o
  · rw [ObjectStore.create, if_pos (by rw [ho, hrow]; rfl)]
    exact hrow
  · exact ((ObjectStore.local_create o' fileType fileSize metadata).other st o (Ne.symm ho)).row.trans hrow

lemma create_closed {st : ObjectStore} {o : Uuid} (h : st.Sealed P o) (o' : Uuid) (fileType : String)
    (fileSize : ℤ) (metadata : String) : (st.create o' fileType fileSize metadata).2.Sealed P o := by
  by_cases ho : o' = o
  · rw [ObjectStore.create]
    split_ifs
    · exact h
    · exact h
    · intro row hrow hfinal
      obtain rfl := Option.some.inj (hrow.symm.trans ((Table.get?_set _ _ _).trans (if_pos ho)))
      exact (hfinal rfl).elim
  · have hother := (ObjectStore.local_create o' fileType fileSize metadata).other st o (Ne.symm ho)
    intro row hrow hfinal
    obtain ⟨k, hsize, hdigest⟩ := h row (hother.row ▸ hrow) hfinal
    exact ⟨k, hsize, hdigest.mono (.of_sameFor hother)⟩

lemma Consistent.step (h : w.Consistent P jobs) (e : Event ι) : (w.step P jobs e).Consistent P jobs := by
  cases e with
  | next i =>
    refine ⟨fun o => ChunkStage.advance_closed (h.sound i) (h.closed o), fun j => ?_⟩
    have hgrows : Grows (jobs j).objectUuid w.store (w.step P jobs (.next i)).store := step_grows _ _
    by_cases hj : j = i
    · subst hj
      rw [show (w.step P jobs (.next j)).stage j = ((w.stage j).advance P (jobs j) w.store).1 from
        Function.update_self _ _ _]
      exact (ChunkStage.advance_sound (h.sound j)).mono hgrows
    · rw [show (w.step P jobs (.next i)).stage j = w.stage j from Function.update_of_ne hj _ _]
      exact (h.sound j).mono hgrows
  | create o fileType fileSize metadata =>
    exact ⟨fun o' => create_closed (h.closed o') o fileType fileSize metadata,
      fun j => (h.sound j).mono (ObjectStore.grows_create o fileType fileSize metadata)⟩

lemma step_row (h : w.Consistent P jobs) {o : Uuid} {row : ObjectInfo} (hrow : w.store.objects.get? o = some row)
    (hfinal : row.contentIntegrity ≠ "") (e : Event ι) :
    (w.step P jobs e).store.objects.get? o = some row := by
  cases e with
  | next i => exact ChunkStage.advance_row (h.sound i) (h.closed o) hrow hfinal
  | create o' fileType fileSize metadata => exact create_row hrow fileType fileSize metadata

theorem digest_fixed (P : Primitives) (jobs : ι → ChunkJob) (events later : List (Event ι)) (o : Uuid)
    (row : ObjectInfo) (hrow : (reached P jobs events).store.objects.get? o = some row)
    (hfinal : row.contentIntegrity ≠ "") :
    (reached P jobs (events ++ later)).store.objects.get? o = some row ∧
      ∃ content, (reached P jobs (events ++ later)).store.content? o = some content ∧
        row.fileSize ≤ content.length ∧
        row.contentIntegrity = ObjectStore.hexdigest P (content.take row.fileSize.toNat) := by
  have hstart : (reached P jobs events).Consistent P jobs :=
    run_invariant (fun _ e h => h.step e) consistent_start events
  have hrun : reached P jobs (events ++ later) = run (step P jobs) (reached P jobs events) later := run_append ..
  rw [hrun]
  have hkept : (run (step P jobs) (reached P jobs events) later).Consistent P jobs ∧
      (run (step P jobs) (reached P jobs events) later).store.objects.get? o = some row :=
    run_invariant (I := fun w => Consistent P jobs w ∧ w.store.objects.get? o = some row)
      (fun _ e h => ⟨h.1.step e, step_row h.1 h.2 hfinal e⟩) ⟨hstart, hrow⟩ later
  obtain ⟨k, hsize, content, hcontent, hlength, hdigest⟩ := hkept.1.closed o row hkept.2 hfinal
  refine ⟨hkept.2, content, hcontent, by omega, ?_⟩
  rw [hdigest, hsize, Int.toNat_natCast]

def Whole (P : Primitives) (st : ObjectStore) (o : Uuid) : Prop :=
  ∀ row, st.objects.get? o = some row → row.contentIntegrity ≠ "" →
    ∃ content, st.content? o = some content ∧ (content.length : ℤ) = row.fileSize ∧
      row.contentIntegrity = ObjectStore.hexdigest P content

def Filled (st : ObjectStore) (o : Uuid) : Prop :=
  ∀ row content, st.objects.get? o = some row → row.contentIntegrity ≠ "" → st.content? o = some content →
    (content.length : ℤ) = row.fileSize

lemma whole_iff_filled {st : ObjectStore} {o : Uuid} (h : st.Sealed P o) : Whole P st o ↔ Filled st o := by
  constructor
  · intro hwhole row content hrow hfinal hcontent
    obtain ⟨content', hcontent', hlength, _⟩ := hwhole row hrow hfinal
    obtain rfl := Option.some.inj (hcontent.symm.trans hcontent')
    exact hlength
  · intro hfilled row hrow hfinal
    obtain ⟨k, hsize, content, hcontent, _, hdigest⟩ := h row hrow hfinal
    have hlength := hfilled row content hrow hfinal hcontent
    refine ⟨content, hcontent, hlength, ?_⟩
    rw [hdigest, List.take_of_length_le (by omega)]

-- no bytes come after the digest, and none between the look at the size and the commit
structure Timely (jobs : ι → ChunkJob) (w : StoreThreads ι) (i : ι) : Prop where
  append : w.stage i = .unfinalized → w.store.finalized (jobs i).objectUuid = true → (jobs i).data = []
  commit : ∀ info digest, w.stage i = .sized info digest → ∀ row content,
    w.store.objects.get? (jobs i).objectUuid = some row → w.store.content? (jobs i).objectUuid = some content →
    (content.length : ℤ) = row.fileSize

lemma finalized_eq_true {st : ObjectStore} {o : Uuid} :
    st.finalized o = true ↔ ∃ row, st.objects.get? o = some row ∧ row.contentIntegrity ≠ "" := by
  rw [ObjectStore.finalized]
  split
  · rename_i hnone
    simp [hnone]
  · rename_i row hrow
    simp [hrow]

lemma filled_append {st : ObjectStore} (hsealed : ∀ o, st.Sealed P o) (hfilled : ∀ o, Filled st o) (o : Uuid)
    (data : Bytes) : (∀ o', Filled (st.appendFile o data) o') ↔ (st.finalized o = true → data = []) := by
  constructor
  · intro h hfinalized
    obtain ⟨row, hrow, hfinal⟩ := finalized_eq_true.mp hfinalized
    obtain ⟨k, _, content, hcontent, _⟩ := hsealed o row hrow hfinal
    have hbefore := hfilled o row content hrow hfinal hcontent
    have hafter := h o row (content ++ data) hrow hfinal (by rw [ObjectStore.content?_appendFile, hcontent]; rfl)
    rw [List.length_append] at hafter
    exact List.eq_nil_of_length_eq_zero (by omega)
  · intro h o' row content hrow hfinal hcontent
    by_cases ho : o = o'
    · subst ho
      have hdata := h (finalized_eq_true.mpr ⟨row, hrow, hfinal⟩)
      obtain ⟨k, _, before, hbefore, _⟩ := hsealed o row hrow hfinal
      rw [ObjectStore.content?_appendFile, hbefore, hdata] at hcontent
      obtain rfl := Option.some.inj hcontent
      rw [Option.getD_some, List.append_nil]
      exact hfilled o row before hrow hfinal hbefore
    · rw [(ObjectStore.appendFile_other ho data).content] at hcontent
      exact hfilled o' row content hrow hfinal hcontent

lemma filled_commit {st : ObjectStore} (hfilled : ∀ o, Filled st o) {o : Uuid} {row : ObjectInfo}
    (hrow : st.objects.get? o = some row) {digest : String} (hdigest : digest ≠ "") :
    (∀ o', Filled { st with objects := st.objects.set { row with contentIntegrity := digest } } o') ↔
      ∀ content, st.content? o = some content → (content.length : ℤ) = row.fileSize := by
  have hkey : ({ row with contentIntegrity := digest } : ObjectInfo).objectUuid = o := (Table.get?_eq_some.mp hrow).2
  constructor
  · intro h content hcontent
    exact h o { row with contentIntegrity := digest } content ((Table.get?_set _ _ _).trans (if_pos hkey)) hdigest
      hcontent
  · intro h o' row' content hrow' hfinal hcontent
    rw [Table.get?_set, hkey] at hrow'
    split_ifs at hrow' with ho
    · subst ho
      obtain rfl := Option.some.inj hrow'
      exact h content hcontent
    · exact hfilled o' row' content hrow' hfinal hcontent

lemma filled_create {st : ObjectStore} (hfilled : ∀ o, Filled st o) (o : Uuid) (fileType : String) (fileSize : ℤ)
    (metadata : String) (o' : Uuid) : Filled (st.create o fileType fileSize metadata).2 o' := by
  by_cases ho : o = o'
  · rw [ObjectStore.create]
    split_ifs
    · exact hfilled o'
    · exact hfilled o'
    · intro row content hrow hfinal _
      obtain rfl := Option.some.inj (hrow.symm.trans ((Table.get?_set _ _ _).trans (if_pos ho)))
      exact (hfinal rfl).elim
  · have hother := (ObjectStore.local_create o fileType fileSize metadata).other st o' (Ne.symm ho)
    intro row content hrow hfinal hcontent
    exact hfilled o' row content (hother.row ▸ hrow) hfinal (hother.content ▸ hcontent)

def Event.Timely (jobs : ι → ChunkJob) (w : StoreThreads ι) (e : Event ι) : Prop :=
  ∀ i, e = .next i → StoreThreads.Timely jobs w i

lemma step_filled (hsha : ∀ content, (P.sha256 content).length = 32) (h : w.Consistent P jobs)
    (hfilled : ∀ o, Filled w.store o) (e : Event ι) :
    (∀ o, Filled (w.step P jobs e).store o) ↔ e.Timely jobs w := by
  cases e with
  | create o fileType fileSize metadata =>
    exact iff_of_true (filled_create hfilled o fileType fileSize metadata) fun _ he => by cases he
  | next i =>
    have hevent : (Event.next i).Timely jobs w ↔ StoreThreads.Timely jobs w i :=
      ⟨fun h => h i rfl, fun h j he => Event.next.inj he ▸ h⟩
    rw [hevent]
    have hstep : (w.step P jobs (.next i)).store = ((w.stage i).advance P (jobs i) w.store).2 := rfl
    have hquiet : (w.store.objects.get? (jobs i).objectUuid = none ∨ ∀ info digest, w.stage i ≠ .sized info digest) →
        w.stage i ≠ .unfinalized → ((∀ o, Filled (w.step P jobs (.next i)).store o) ↔ StoreThreads.Timely jobs w i) := by
      intro hnone happend
      rw [hstep]
      rcases ChunkStage.advance_store P (jobs i) w.store (w.stage i) with
        hsame | ⟨hstage, _⟩ | ⟨info, digest, row, hstage, hrow, _⟩
      · rw [hsame]
        refine iff_of_true hfilled ⟨fun hstage => (happend hstage).elim, fun info digest hstage row _ hrow => ?_⟩
        rcases hnone with hnone | hnever
        · cases hnone.symm.trans hrow
        · exact (hnever info digest hstage).elim
      · exact (happend hstage).elim
      · rcases hnone with hnone | hnever
        · cases hnone.symm.trans hrow
        · exact (hnever info digest hstage).elim
    cases hstage : w.stage i with
    | unfinalized =>
      rw [hstep, hstage]
      refine (filled_append h.closed hfilled _ _).trans
        ⟨fun hdata => ⟨fun _ => hdata, fun info digest hother => ?_⟩, fun ht => ht.append hstage⟩
      rw [hstage] at hother
      cases hother
    | sized info digest =>
      cases hrow : w.store.objects.get? (jobs i).objectUuid with
      | none =>
        refine hquiet (Or.inl hrow) ?_
        rw [hstage]
        exact fun h => by cases h
      | some row =>
        have hdigest : digest ≠ "" := by
          have hsound := h.sound i
          rw [hstage] at hsound
          obtain ⟨k, _, content, _, _, rfl⟩ := hsound
          exact ObjectStore.hexdigest_ne_empty hsha _
        rw [hstep, hstage, ChunkStage.advance, hrow]
        refine (filled_commit hfilled hrow hdigest).trans
          ⟨fun hsize => ⟨fun hother => ?_, fun info' digest' _ row' content hrow' hcontent => ?_⟩,
            fun ht content hcontent => ht.commit info digest hstage row content hrow hcontent⟩
        · rw [hstage] at hother
          cases hother
        · obtain rfl := Option.some.inj (hrow.symm.trans hrow')
          exact hsize content hcontent
    | _ =>
      refine hquiet (Or.inr ?_) ?_ <;>
        · rw [hstage]
          intros
          exact fun h => by cases h

theorem whole_iff_timely (P : Primitives) (hsha : ∀ content, (P.sha256 content).length = 32) (jobs : ι → ChunkJob)
    (events : List (Event ι)) :
    (∀ pre, pre <+: events → ∀ o, Whole P (reached P jobs pre).store o) ↔
      Along (step P jobs) (fun w e => e.Timely jobs w) start events := by
  have hinv : ∀ (w : StoreThreads ι) (e : Event ι), (w.Consistent P jobs ∧ ∀ o, Filled w.store o) →
      (((w.step P jobs e).Consistent P jobs ∧ ∀ o, Filled (w.step P jobs e).store o) ↔ e.Timely jobs w) :=
    fun w e h => (and_iff_right (h.1.step e)).trans (step_filled hsha h.1 h.2 e)
  rw [← invariant_iff_along hinv ⟨consistent_start, fun o row _ hrow => by cases hrow⟩ events]
  refine forall₂_congr fun pre _ => ?_
  have hconsistent : (reached P jobs pre).Consistent P jobs :=
    run_invariant (fun _ e h => h.step e) consistent_start pre
  have hfilled : (∀ o, Whole P (reached P jobs pre).store o) ↔ ∀ o, Filled (reached P jobs pre).store o :=
    forall_congr' fun o => whole_iff_filled (hconsistent.closed o)
  exact hfilled.trans (and_iff_right hconsistent).symm

section Demo

-- two handlers have a byte each for an object of one byte
def twoChunks (i : Fin 2) : ChunkJob := ⟨Uuid.nil, i, if i = 0 then [1] else [2]⟩

-- both see no digest, and the first one finishes
def overtaken : List (Event (Fin 2)) :=
  .create Uuid.nil "" 1 "" :: .next 1 :: List.replicate 9 (.next 0)

def overtakenRow : ObjectInfo where
  objectUuid := Uuid.nil
  fileType := ""
  fileSize := 1
  metadata := ""
  contentIntegrity := ObjectStore.hexdigest tagged [1]

theorem overtaken_digest_fixed :
    (reached tagged twoChunks (overtaken ++ [.next 1])).store.objects.get? Uuid.nil = some overtakenRow ∧
      ∃ content, (reached tagged twoChunks (overtaken ++ [.next 1])).store.content? Uuid.nil = some content ∧
        overtakenRow.fileSize ≤ content.length ∧
        overtakenRow.contentIntegrity = ObjectStore.hexdigest tagged (content.take overtakenRow.fileSize.toNat) :=
  digest_fixed tagged twoChunks overtaken [.next 1] Uuid.nil overtakenRow (by decide +kernel) (by decide +kernel)

theorem overtaken_whole_iff :
    (∀ pre, pre <+: overtaken ++ [.next 1] → ∀ o, Whole tagged (reached tagged twoChunks pre).store o) ↔
      Along (step tagged twoChunks) (fun w e => e.Timely twoChunks w) start (overtaken ++ [.next 1]) :=
  whole_iff_timely tagged sha256_tagged twoChunks (overtaken ++ [.next 1])

end Demo

end StoreThreads

end Secupload.Server
