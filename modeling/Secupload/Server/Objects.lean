import Secupload.Shared.Crypto
import Secupload.Shared.Models

/-! The object store: the rows of `objects`, and one file for each object that has been
written to. -/

namespace Secupload.Server

open Library Shared

structure ObjectInfo where
  objectUuid : Uuid
  fileType : String
  fileSize : ℤ
  metadata : String
  contentIntegrity : String := ""
  deriving DecidableEq

structure StoredFile where
  objectUuid : Uuid
  content : Bytes
  deriving DecidableEq

structure ObjectStore where
  objects : Table ObjectInfo.objectUuid
  files : Table StoredFile.objectUuid
  deriving DecidableEq

-- the bound of the database's INTEGER, either way, and of the offset that `seek` takes
def maxInt64 : ℤ := 2 ^ 63

namespace ObjectStore

def empty : ObjectStore := ⟨Table.empty, Table.empty⟩

section Methods

variable (P : Primitives) (st : ObjectStore) (objectUuid : Uuid)

def info : Except Exn ObjectInfo :=
  match st.objects.get? objectUuid with
  | none => .error (.objectStoreError "NOT_FOUND" "object does not exist")
  | some row => .ok row

def create (fileType : String) (fileSize : ℤ) (metadata : String) : Outcome ObjectStore ObjectInfo :=
  if (st.objects.get? objectUuid).isSome then
    (.error (.objectStoreError "ALREADY_EXISTS" "object already exists"), st)
  else if fileSize < -maxInt64 ∨ maxInt64 ≤ fileSize then (.error .overflowError, st)
  else
    let st := { st with objects := st.objects.set { objectUuid, fileType, fileSize, metadata } }
    (st.info objectUuid, st)

def content? : Option Bytes := (st.files.get? objectUuid).map (·.content)

-- `open(path, "ab")` creates a missing file
def appendFile (data : Bytes) : ObjectStore :=
  { st with files := st.files.set ⟨objectUuid, (st.content? objectUuid).getD [] ++ data⟩ }

def writeChunk (_chunkIndex : ℤ) (data : Bytes) : Outcome ObjectStore Unit :=
  match st.info objectUuid with
  | .error exc => (.error exc, st)
  | .ok info =>
    if info.contentIntegrity ≠ "" then
      (.error (.objectStoreError "FINALIZED" "object is already finalized"), st)
    else (.ok (), st.appendFile objectUuid data)

def readFile : Except Exn Bytes :=
  match st.content? objectUuid with
  | none => .error .osError
  | some content => .ok content

-- a file system that holds `content` reaches its end, whatever its limit
def maxSeek (maxOffset : ℕ) (content : Bytes) : ℕ := max maxOffset content.length

def readChunk (maxOffset : ℕ) (chunkIndex : ℤ) (chunkSize : ℕ) : Except Exn Bytes := do
  let _ ← st.info objectUuid
  let content ← st.readFile objectUuid
  if chunkIndex * chunkSize < 0 then throw .osError
  else if maxInt64 ≤ chunkIndex * chunkSize then throw .valueError
  else if maxSeek maxOffset content < chunkIndex * chunkSize then throw .osError
  else return (content.drop (chunkIndex * chunkSize).toNat).take chunkSize

def hexdigest (content : Bytes) : String := Uuid.hex (P.sha256 content)

def finalize : Outcome ObjectStore ObjectInfo :=
  match st.info objectUuid with
  | .error exc => (.error exc, st)
  | .ok info =>
    if info.contentIntegrity ≠ "" then (.ok info, st)
    else
      match st.readFile objectUuid with
      | .error exc => (.error exc, st)
      | .ok content =>
        if (content.length : ℤ) ≠ info.fileSize then
          (.error (.objectStoreError "INTEGRITY_FAILURE"
            s!"size mismatch: expected {info.fileSize}, got {content.length}"), st)
        else
          let st := { st with
            objects := st.objects.set { info with contentIntegrity := hexdigest P content } }
          (st.info objectUuid, st)

def delete : ObjectStore where
  objects := st.objects.filter fun row => decide (row.objectUuid ≠ objectUuid)
  files := st.files.filter fun file => decide (file.objectUuid ≠ objectUuid)

end Methods

end ObjectStore

end Secupload.Server
