import Secupload.Client.Session

namespace Secupload.Client

open Library Shared

def chunkSize : ℕ := 64 * 1024

-- how the next call of a session is carried out, on the state `σ` of session and network
abbrev Link (σ : Type) := (Draw → Exchange) → σ → Outcome σ Answer

section Api

variable {σ : Type} (P : Primitives) (cfg : ClientConfig) (link : Link σ) (objectUuid : Uuid)

-- `request` and `send_chunk` return a response message, and `request_chunk` bytes
def responseOf : Answer → σ → Outcome σ ResponseMessage
  | .response msg, s => (.ok msg, s)
  | _, s => (.error .valueError, s)

def chunkOf : Answer → σ → Outcome σ Bytes
  | .chunk data, s => (.ok data, s)
  | _, s => (.error .valueError, s)

def request (msg : RequestMessage) (s : σ) : Outcome σ ResponseMessage :=
  (link (fun d => ClientSession.request P cfg d msg) s).bind responseOf

def sendChunk (chunkIndex : ℤ) (data : Bytes) (s : σ) : Outcome σ ResponseMessage :=
  (link (fun d => ClientSession.sendChunk P cfg d objectUuid chunkIndex data) s).bind responseOf

def requestChunk (chunkIndex : ℤ) (s : σ) : Outcome σ Bytes :=
  (link (fun d => ClientSession.requestChunk P cfg d objectUuid chunkIndex) s).bind chunkOf

-- the loop of `write_object` from `index` on
def writeChunks (data : Bytes) (index : ℕ) (s : σ) : Outcome σ Unit :=
  if index < data.length then
    let chunk := (data.drop index).take chunkSize
    (sendChunk P cfg link objectUuid (index / chunkSize : ℕ) chunk s).bind fun resp s =>
      if resp.status ≠ RespStatus.ok.code then
        (.error (.clientError "CHUNK_REJECTED" resp.message), s)
      else writeChunks data (index + chunkSize) s
  else (.ok (), s)
termination_by data.length - index
decreasing_by
  have hpos : 0 < chunkSize := by decide
  omega

def writeObject (fileType : String) (data : Bytes) (metadata : String) (s : σ) : Outcome σ Unit :=
  (request P cfg link
      { op := Op.write.code, objectUuid := some objectUuid, fileType, fileSize := data.length
        metadata } s).bind fun response s =>
    if response.status ≠ RespStatus.ok.code then
      (.error (.clientError "WRITE_REJECTED" response.message), s)
    else writeChunks P cfg link objectUuid data 0 s

-- the loop of `read_object` with what it has read so far
def readChunks (size : ℤ) (data : Bytes) (index : ℕ) (s : σ) : Outcome σ Bytes :=
  if data.length < size then
    (requestChunk P cfg link objectUuid index s).bind fun chunk s =>
      if chunk = [] then (.ok data, s) else readChunks size (data ++ chunk) (index + 1) s
  else (.ok data, s)
termination_by (size - data.length).toNat
decreasing_by
  have hpos : 0 < chunk.length := List.length_pos_iff.mpr ‹_›
  rw [List.length_append]
  omega

def verified (expected : String) (content : Bytes) : Except Exn Bytes :=
  let digest := Uuid.hex (P.sha256 content)
  if expected ≠ "" ∧ digest ≠ expected then
    .error (.clientError "INTEGRITY_FAILURE" s!"content digest mismatch: {digest} != {expected}")
  else .ok content

def readObject (s : σ) : Outcome σ Bytes :=
  (request P cfg link { op := Op.read.code, objectUuid := some objectUuid } s).bind fun response s =>
    if response.status ≠ RespStatus.ok.code then
      (.error (.clientError "READ_REJECTED" response.message), s)
    else
      (readChunks P cfg link objectUuid response.fileSize [] 0 s).bind fun content s =>
        (verified P response.contentIntegrity content, s)

end Api

end Secupload.Client
