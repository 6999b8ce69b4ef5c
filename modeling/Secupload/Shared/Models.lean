import Secupload.Library.Table
import Secupload.Library.BigEndian

/-! Records and exceptions shared by client, proxy and server. Python's integers are `ℤ`. -/

namespace Secupload.Shared

open Library

structure Uuid where
  bytes : Bytes
  size : bytes.length = 16
  deriving DecidableEq

namespace Uuid

def ofBytes? (bs : Bytes) : Option Uuid :=
  if h : bs.length = 16 then some ⟨bs, h⟩ else none

def repeated (b : UInt8) : Uuid := ⟨List.replicate 16 b, List.length_replicate⟩

def nil : Uuid := repeated 0

@[simp] lemma ofBytes?_bytes (u : Uuid) : ofBytes? u.bytes = some u := by
  simp [ofBytes?, u.size]

def hexDigit (n : ℕ) : Char := if n < 10 then Char.ofNat (48 + n) else Char.ofNat (87 + n)

def hex (bs : Bytes) : String :=
  String.ofList (bs.flatMap fun b => [hexDigit (b.toNat / 16), hexDigit (b.toNat % 16)])

def str (u : Uuid) : String :=
  let part (i n : ℕ) := hex ((u.bytes.drop i).take n)
  part 0 4 ++ "-" ++ part 4 2 ++ "-" ++ part 6 2 ++ "-" ++ part 8 2 ++ "-" ++ part 10 6

end Uuid

inductive Exn
  | rotationError (code message : String)
  | registryError (code message : String)
  | authError (code message : String)
  | authorizationError (code message : String)
  | objectStoreError (code message : String)
  | serverIdentityError (code message : String)
  | clientIdentityError (code message : String)
  | clientError (code message : String)
  | tunnel2Error (message : String)
  | proxyError (message : String)
  | protocolError (message : String)
  | decodeError (message : String)
  | signatureError (message : String)
  | cryptoError (message : String)
  | authenticationError (message : String)
  | structError
  | valueError
  | overflowError
  | osError
  | keyError
  | unicodeDecodeError
  | integrityError
  | frameError (message : String)
  -- a ClientError whose text is these bytes, decoded with replacement
  | rotateRejected (message : Bytes)
  deriving DecidableEq

-- `str(exc)`, but for the exceptions that Python or its libraries raise themselves
def Exn.str : Exn → String
  | .rotationError _ message | .registryError _ message | .authError _ message
  | .authorizationError _ message | .objectStoreError _ message
  | .serverIdentityError _ message | .clientIdentityError _ message | .clientError _ message
  | .tunnel2Error message | .proxyError message | .protocolError message | .decodeError message
  | .signatureError message | .cryptoError message | .authenticationError message
  | .frameError message => message
  | .structError | .valueError | .overflowError | .osError | .keyError | .unicodeDecodeError | .integrityError
  | .rotateRejected _ => ""

-- what a call returns or raises, and the state it leaves behind
abbrev Outcome (σ α : Type) := Except Exn α × σ

def Outcome.map {σ α β : Type} (f : α → σ → β) (r : Outcome σ α) : Outcome σ β :=
  (r.1.map fun a => f a r.2, r.2)

def Outcome.bind {σ α β : Type} (r : Outcome σ α) (f : α → σ → Outcome σ β) : Outcome σ β :=
  match r.1 with
  | .error exc => (.error exc, r.2)
  | .ok a => f a r.2

lemma Outcome.ok_bind {σ α β : Type} (a : α) (s : σ) (f : α → σ → Outcome σ β) :
    Outcome.bind (.ok a, s) f = f a s := rfl

@[simp] lemma Outcome.map_snd {σ α β : Type} (f : α → σ → β) (r : Outcome σ α) :
    (r.map f).2 = r.2 := rfl

lemma Outcome.map_id {σ α : Type} (r : Outcome σ α) : (r.map fun a _ => a) = r := by
  obtain ⟨_ | _, _⟩ := r <;> rfl

lemma Outcome.fst_bind_error {σ α β : Type} {r : Outcome σ α} {exc : Exn} (h : r.1 = .error exc)
    (f : α → σ → Outcome σ β) : (r.bind f).1 = .error exc := by
  rw [Outcome.bind, h]

-- `x or y` for an optional integer, of which `None` and `0` are falsy
def intOr (x : Option ℤ) (y : ℤ) : ℤ :=
  match x with
  | none => y
  | some v => if v = 0 then y else v

inductive CredentialStatus
  | generated
  | validating
  | active
  | fallback
  | expired
  | terminated
  | revoked
  deriving DecidableEq

inductive IdentityKind
  | client
  | proxy
  | server
  deriving DecidableEq

namespace CredentialStatus

def authenticating : CredentialStatus → Bool
  | active | fallback => true
  | _ => false

def inWindow : CredentialStatus → Bool
  | validating | active | fallback => true
  | _ => false

def dead : CredentialStatus → Bool
  | expired | terminated | revoked => true
  | _ => false

lemma not_inWindow_of_dead {s : CredentialStatus} (h : s.dead = true) : s.inWindow = false := by
  cases s <;> simp_all [dead, inWindow]

lemma not_dead_of_inWindow {s : CredentialStatus} (h : s.inWindow = true) : s.dead = false := by
  cases s <;> simp_all [dead, inWindow]

end CredentialStatus

structure CredentialPublic where
  identityUuid : Uuid
  version : ℤ
  ed25519Public : Bytes
  x25519Public : Bytes
  status : CredentialStatus := .generated
  createdAt : ℤ := 0
  validationDeadline : Option ℤ := none
  activationTime : Option ℤ := none
  expirationTime : Option ℤ := none
  deriving DecidableEq

structure RotationParams where
  rotationDuration : ℤ := 24 * 3600
  deriving DecidableEq

namespace RotationParams

def validationPeriod (p : RotationParams) : ℤ := p.rotationDuration / 2

def fallbackPeriod (p : RotationParams) : ℤ := p.rotationDuration / 2

def totalValidity (p : RotationParams) : ℤ := (3 * p.rotationDuration) / 2

def validationDeadlineFrom (p : RotationParams) (createdAt : ℤ) : ℤ := createdAt + p.validationPeriod

def expirationFrom (p : RotationParams) (createdAt : ℤ) : ℤ := createdAt + p.totalValidity

end RotationParams

end Secupload.Shared
