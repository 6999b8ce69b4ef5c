import Secupload.Shared.Keys

namespace Secupload.Client

open Library Shared

-- `kind` tells a ClientIdentity from a ProxyIdentity, and `drawnUuid` is what `uuid4` returns
structure ClientConfig where
  serverUuid : Uuid
  enrollmentToken : String := ""
  rotationDuration : ℤ := 24 * 3600
  kind : IdentityKind := .client
  drawnUuid : Uuid := Uuid.nil

def ClientConfig.params (cfg : ClientConfig) : RotationParams := ⟨cfg.rotationDuration⟩

structure IdentityFile where
  identityUuid : Uuid
  credentials : List CredentialPublic
  keys : KeyMap
  enrolled : Bool
  deriving DecidableEq

structure ClientIdentity extends Holder where
  enrolled : Bool
  file : Option IdentityFile
  deriving DecidableEq

namespace ClientIdentity

def start (cfg : ClientConfig) : ClientIdentity where
  toHolder := Holder.new cfg.params
  enrolled := false
  file := none

section Methods

variable (P : Primitives) (cfg : ClientConfig) (c : ClientIdentity)

-- without a token only the first credential of an identity draws one
def identityUuid : Uuid :=
  if cfg.enrollmentToken ≠ "" then
    tokenUuid P (if cfg.kind = .proxy then "proxy" else "client") cfg.enrollmentToken
  else
    match c.engine.all with
    | [] => cfg.drawnUuid
    | cred :: _ => cred.identityUuid

def withHolder (h : Holder) : ClientIdentity := { c with toHolder := h }

def save : ClientIdentity :=
  { c with
    file := some
      { identityUuid := (c.engine.all.head?.map (·.identityUuid)).getD Uuid.nil
        credentials := c.engine.all
        keys := c.keys
        enrolled := c.enrolled } }

def fresh (k : PrivateKeys) (now : ℤ) : Outcome ClientIdentity Unit :=
  match c.toHolder.provision P (c.identityUuid P cfg) k now with
  | (.error exc, h) => (.error exc, c.withHolder h)
  | (.ok (), h) => (.ok (), (c.withHolder h).save)

def markEnrolled : ClientIdentity := { c with enrolled := true }.save

def current : Except Exn CredentialPublic :=
  match c.engine.active with
  | none => .error (.clientIdentityError "NO_ACTIVE" "no active credential")
  | some cred => .ok cred

def keysFor (version : ℤ) : Except Exn PrivateKeys :=
  match c.keys.keysFor version with
  | none => .error (.clientIdentityError "KEYS_MISSING" s!"no private keys for version {version}")
  | some k => .ok k

def currentKeys : Except Exn PrivateKeys := do c.keysFor (← c.current).version

def generateSuccessor (k : PrivateKeys) (now : ℤ) :
    Outcome ClientIdentity (CredentialPublic × Bytes × Bytes) :=
  match c.current with
  | .error exc => (.error exc, c)
  | .ok active =>
    match c.toHolder.generateSuccessor P active.identityUuid active k now with
    | (.error exc, h) => (.error exc, c.withHolder h)
    | (.ok successor, h) => (.ok successor, (c.withHolder h).save)

def checkpoint (now : ℤ) : Outcome ClientIdentity Unit :=
  match c.engine.validating with
  | none => (.ok (), c)
  | some _ =>
    match c.toHolder.checkpoint now with
    | (.error (.rotationError _ _), h) => (.ok (), c.withHolder h)
    | (.error exc, h) => (.error exc, c.withHolder h)
    | (.ok _, h) => (.ok (), (c.withHolder h).save)

def rollback (now : ℤ) : Outcome ClientIdentity Unit :=
  match c.toHolder.rollback now with
  | (.error exc, h) => (.error exc, c.withHolder h)
  | (.ok _, h) => (.ok (), (c.withHolder h).save)

def shouldRotate (now : ℤ) : Except Exn Bool := do
  let active ← c.current
  return decide (intOr active.expirationTime now - 2 * cfg.params.fallbackPeriod ≤ now)

end Methods

end ClientIdentity

end Secupload.Client
