import Secupload.Server.Uploads

namespace Secupload.Server

open Library Shared

inductive StoreOp
  | create (objectUuid : Uuid) (fileType : String) (fileSize : ℤ) (metadata : String)
  | writeChunk (objectUuid : Uuid) (chunkIndex : ℤ) (data : Bytes)
  | readChunk (objectUuid : Uuid) (chunkIndex : ℤ) (chunkSize : ℕ)
  | finalize (objectUuid : Uuid)
  | info (objectUuid : Uuid)
  | delete (objectUuid : Uuid)

structure Kept where
  row : Option ObjectInfo
  content : Option Bytes

namespace Kept

variable (P : Primitives) (k : Kept)

def appended (data : Bytes) : Kept := { k with content := some (k.content.getD [] ++ data) }

inductive Change : Kept → Prop
  | same : Change k
  | created (row : ObjectInfo) (hnew : k.row = none) (hopen : row.contentIntegrity = "") :
    Change { k with row := some row }
  | appended (row : ObjectInfo) (data : Bytes) (hrow : k.row = some row)
    (hopen : row.contentIntegrity = "") : Change (k.appended data)
  | finalized (row : ObjectInfo) (content : Bytes) (hrow : k.row = some row)
    (hcontent : k.content = some content) (hopen : row.contentIntegrity = "")
    (hsize : (content.length : ℤ) = row.fileSize) :
    Change { k with row := some { row with contentIntegrity := ObjectStore.hexdigest P content } }

def Sealed : Prop :=
  ∀ row, k.row = some row → row.contentIntegrity ≠ "" →
    ∃ content, k.content = some content ∧ row.contentIntegrity = ObjectStore.hexdigest P content ∧
      (content.length : ℤ) = row.fileSize

variable {P k} {k' : Kept}

lemma Change.sealed (h : k.Change P k') (hs : k.Sealed P) : k'.Sealed P := by
  cases h with
  | same => exact hs
  | created row hnew hopen =>
    intro row' hrow' hdigest
    obtain rfl := Option.some.inj hrow'
    exact (hdigest hopen).elim
  | appended row data hrow hopen =>
    intro row' hrow' hdigest
    obtain rfl := Option.some.inj (hrow.symm.trans hrow')
    exact (hdigest hopen).elim
  | finalized row content hrow hcontent hopen hsize =>
    intro row' hrow' _
    obtain rfl := Option.some.inj hrow'
    exact ⟨content, hcontent, rfl, hsize⟩

lemma Change.final (h : k.Change P k') {row : ObjectInfo} (hrow : k.row = some row)
    (hdigest : row.contentIntegrity ≠ "") : k' = k := by
  cases h with
  | same => rfl
  | created row' hnew _ =>
    rw [hrow] at hnew
    cases hnew
  | appended row' data hrow' hopen =>
    obtain rfl := Option.some.inj (hrow.symm.trans hrow')
    exact (hdigest hopen).elim
  | finalized row' content hrow' _ hopen _ =>
    obtain rfl := Option.some.inj (hrow.symm.trans hrow')
    exact (hdigest hopen).elim

end Kept

namespace ObjectStore

section Definitions

variable (P : Primitives) (st : ObjectStore) (o : Uuid)

def kept : Kept := ⟨st.objects.get? o, st.content? o⟩

def storeStep (st : ObjectStore) : StoreOp → ObjectStore
  | .create objectUuid fileType fileSize metadata => (st.create objectUuid fileType fileSize metadata).2
  | .writeChunk objectUuid chunkIndex data => (st.writeChunk objectUuid chunkIndex data).2
  | .readChunk .. => st
  | .finalize objectUuid => (st.finalize P objectUuid).2
  | .info _ => st
  | .delete objectUuid => st.delete objectUuid

def stored (ops : List StoreOp) : ObjectStore := run (storeStep P) empty ops

end Definitions

section Steps

variable {P : Primitives} {st st' : ObjectStore} {o : Uuid}

lemma SameFor.kept (h : SameFor o st st') : st'.kept o = st.kept o := by
  rw [ObjectStore.kept, ObjectStore.kept, h.row, h.content]

lemma info_eq_ok {row : ObjectInfo} : st.info o = .ok row ↔ st.objects.get? o = some row := by
  rw [info]
  cases st.objects.get? o <;> simp

lemma readFile_eq_ok {content : Bytes} : st.readFile o = .ok content ↔ st.content? o = some content := by
  rw [readFile]
  cases st.content? o <;> simp

lemma create_cases (st : ObjectStore) (o o' : Uuid) (fileType : String) (fileSize : ℤ) (metadata : String) :
    (st.create o' fileType fileSize metadata).2.kept o = st.kept o ∨
      (st.kept o).row = none ∧ fileSize < maxInt64 ∧ (st.create o' fileType fileSize metadata).2.kept o =
        { st.kept o with row := some ⟨o', fileType, fileSize, metadata, ""⟩ } := by
  rw [create]
  split_ifs with hexists hsize
  · exact Or.inl rfl
  · exact Or.inl rfl
  · by_cases heq : o' = o
    · subst heq
      have hnew : st.objects.get? o' = none := by simpa using hexists
      have hrow : (st.objects.set ⟨o', fileType, fileSize, metadata, ""⟩).get? o' =
          some ⟨o', fileType, fileSize, metadata, ""⟩ := (Table.get?_set _ _ _).trans (if_pos rfl)
      exact Or.inr ⟨hnew, by omega, congrArg (Kept.mk · _) hrow⟩
    · have hsame : SameFor o st { st with objects := st.objects.set ⟨o', fileType, fileSize, metadata, ""⟩ } :=
        ⟨Table.get?_set_ne _ heq, rfl⟩
      exact Or.inl hsame.kept

lemma writeChunk_change (P : Primitives) (st : ObjectStore) (o o' : Uuid) (chunkIndex : ℤ) (data : Bytes) :
    (st.kept o).Change P ((st.writeChunk o' chunkIndex data).2.kept o) := by
  rw [writeChunk]
  cases hinfo : st.info o' with
  | error exc => exact .same
  | ok row =>
    dsimp only
    split
    · exact .same
    · rename_i hopen
      by_cases heq : o' = o
      · subst heq
        rw [show (st.appendFile o' data).kept o' = (st.kept o').appended data by
          rw [kept, content?_appendFile]
          rfl]
        exact .appended row data (info_eq_ok.mp hinfo) (not_not.mp hopen)
      · rw [(appendFile_other heq data).kept]
        exact .same

lemma finalize_change (P : Primitives) (st : ObjectStore) (o o' : Uuid) :
    (st.kept o).Change P ((st.finalize P o').2.kept o) := by
  by_cases heq : o' = o
  · subst heq
    rw [finalize]
    cases hinfo : st.info o' with
    | error exc => exact .same
    | ok row =>
      dsimp only
      split
      · exact .same
      · rename_i hopen
        cases hread : st.readFile o' with
        | error exc => exact .same
        | ok content =>
          dsimp only
          split
          · exact .same
          · rename_i hsize
            have hrow := info_eq_ok.mp hinfo
            have hkey : row.objectUuid = o' := (Table.get?_eq_some.mp hrow).2
            have hset : (st.objects.set { row with contentIntegrity := hexdigest P content }).get? o' =
                some { row with contentIntegrity := hexdigest P content } :=
              (Table.get?_set _ _ _).trans (if_pos hkey)
            dsimp only [kept]
            rw [hset]
            exact .finalized row content hrow (readFile_eq_ok.mp hread) (not_not.mp hopen)
              (not_not.mp hsize)
  · rw [(finalize_other heq).kept]
    exact .same

lemma kept_delete (st : ObjectStore) (o o' : Uuid) :
    (st.delete o').kept o = if o' = o then ⟨none, none⟩ else st.kept o := by
  dsimp only [kept, content?, delete]
  rw [Table.get?_filter_ne, Table.get?_filter_ne]
  split <;> rfl

lemma storeStep_change (P : Primitives) (st : ObjectStore) (o : Uuid) (op : StoreOp) :
    op = .delete o ∧ (st.storeStep P op).kept o = ⟨none, none⟩ ∨
      op ≠ .delete o ∧ (st.kept o).Change P ((st.storeStep P op).kept o) := by
  cases op with
  | create objectUuid fileType fileSize metadata =>
    refine Or.inr ⟨nofun, ?_⟩
    rw [storeStep]
    rcases create_cases st o objectUuid fileType fileSize metadata with hsame | ⟨hnew, _, hcreated⟩
    · rw [hsame]
      exact .same
    · rw [hcreated]
      exact .created _ hnew rfl
  | writeChunk objectUuid chunkIndex data =>
    exact Or.inr ⟨nofun, writeChunk_change P st o objectUuid chunkIndex data⟩
  | readChunk objectUuid chunkIndex chunkSize => exact Or.inr ⟨nofun, .same⟩
  | finalize objectUuid => exact Or.inr ⟨nofun, finalize_change P st o objectUuid⟩
  | info objectUuid => exact Or.inr ⟨nofun, .same⟩
  | delete objectUuid =>
    by_cases heq : objectUuid = o
    · subst heq
      exact Or.inl ⟨rfl, (kept_delete st _ _).trans (if_pos rfl)⟩
    · refine Or.inr ⟨fun h => heq (StoreOp.delete.inj h), ?_⟩
      rw [storeStep, kept_delete, if_neg heq]
      exact .same

end Steps

section Runs

variable {P : Primitives} {st : ObjectStore} {o : Uuid}

lemma sealed_run (P : Primitives) (ops : List StoreOp) (o : Uuid) : ((stored P ops).kept o).Sealed P := by
  refine run_invariant (I := fun st : ObjectStore => (st.kept o).Sealed P) ?_ ?_ ops
  · intro st op h
    rcases storeStep_change P st o op with ⟨_, hgone⟩ | ⟨_, hchange⟩
    · rw [hgone]
      exact fun row hrow => by cases hrow
    · exact hchange.sealed h
  · exact fun row hrow => by cases hrow

lemma final_run {row : ObjectInfo} (hrow : st.objects.get? o = some row)
    (hdigest : row.contentIntegrity ≠ "") (ops : List StoreOp) (hops : StoreOp.delete o ∉ ops) :
    (run (storeStep P) st ops).kept o = st.kept o := by
  induction ops generalizing st with
  | nil => rfl
  | cons op ops ih =>
    rw [List.mem_cons, not_or] at hops
    obtain ⟨hop, hrest⟩ := hops
    rcases storeStep_change P st o op with ⟨hdelete, _⟩ | ⟨_, hchange⟩
    · exact (hop hdelete.symm).elim
    · have hsame := hchange.final hrow hdigest
      rw [run_cons, ih ((congrArg Kept.row hsame).trans hrow) hrest, hsame]

end Runs

theorem finalized_immutable (P : Primitives) (ops : List StoreOp) (o : Uuid) (row : ObjectInfo)
    (hrow : (stored P ops).objects.get? o = some row) (hdigest : row.contentIntegrity ≠ "") :
    (∃ content, (stored P ops).content? o = some content ∧ row.contentIntegrity = hexdigest P content ∧
      (content.length : ℤ) = row.fileSize) ∧
    ∀ later, StoreOp.delete o ∉ later →
      (stored P (ops ++ later)).objects.get? o = some row ∧
        (stored P (ops ++ later)).content? o = (stored P ops).content? o := by
  refine ⟨sealed_run P ops o row hrow hdigest, fun later hlater => ?_⟩
  have hsame := final_run (P := P) hrow hdigest later hlater
  rw [stored, run_append]
  exact ⟨(congrArg Kept.row hsame).trans hrow, congrArg Kept.content hsame⟩

section Demo

-- an object of three bytes is completed, deleted, and created anew with a size of two
def rewritten : List StoreOp :=
  [.create Uuid.nil "text/plain" 3 "", .writeChunk Uuid.nil 0 [97], .finalize Uuid.nil,
    .writeChunk Uuid.nil 1 [98, 99], .finalize Uuid.nil, .delete Uuid.nil,
    .create Uuid.nil "text/plain" 2 "", .writeChunk Uuid.nil 0 [97, 98], .finalize Uuid.nil]

theorem rewritten_immutable :
    (stored transparent (rewritten ++ [.writeChunk Uuid.nil 1 [99], .finalize Uuid.nil])).content? Uuid.nil =
      some [97, 98] :=
  (((finalized_immutable transparent rewritten Uuid.nil
    ⟨Uuid.nil, "text/plain", 2, "", hexdigest transparent [97, 98]⟩ (by decide +kernel)
    (by decide +kernel)).2 [.writeChunk Uuid.nil 1 [99], .finalize Uuid.nil] (by simp)).2).trans
      (by decide +kernel)

end Demo

end ObjectStore

end Secupload.Server
