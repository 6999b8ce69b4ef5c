import Secupload.Server.Registry
import Secupload.Shared.Keys

/-! The server's own rotating identity: its engine and private keys in memory, its rows in
the registry's database, and its key file. -/

namespace Secupload.Server

open Library Shared

structure ServerConfig where
  serverUuid : Uuid
  rotationDuration : ℤ := 24 * 3600
  -- the largest offset in a file of `storage_dir`, which its file system decides (here ext4)
  maxOffset : ℕ := 2 ^ 44 - 4096

def ServerConfig.params (cfg : ServerConfig) : RotationParams := ⟨cfg.rotationDuration⟩

structure ServerIdentity extends Holder where
  loaded : Bool

structure ServerState where
  identity : ServerIdentity
  db : Database
  keyFile : Option KeyMap

namespace ServerState

def start (cfg : ServerConfig) (db : Database) (keyFile : Option KeyMap) : ServerState where
  identity := ⟨Holder.new cfg.params, false⟩
  db
  keyFile

section Methods

variable (P : Primitives) (cfg : ServerConfig) (s : ServerState)

def withHolder (h : Holder) : ServerState :=
  { s with identity := { s.identity with toHolder := h } }

def markLoaded : ServerState := { s with identity := { s.identity with loaded := true } }

-- the rows are committed before the key file is replaced
def persist : ServerState :=
  { s with
    db := s.db.saveAll s.identity.engine
    keyFile := some s.identity.keys }

def provision (k : PrivateKeys) (now : ℤ) : Outcome ServerState Unit :=
  match s.identity.toHolder.provision P cfg.serverUuid k now with
  | (.error exc, h) => (.error exc, s.withHolder h)
  | (.ok (), h) => (.ok (), (s.withHolder h).persist)

def loadKeys : Except Exn KeyMap :=
  match s.keyFile with
  | none => .error (.serverIdentityError "KEYS_MISSING"
      "server identity keys file missing; run with an existing database")
  | some keys => .ok keys

def ensureLoaded (k : PrivateKeys) (now : ℤ) : Outcome ServerState Unit :=
  if s.identity.loaded then (.ok (), s)
  else
    match s.db.loadEngine cfg.params cfg.serverUuid with
    | none => (s.provision P cfg k now).bind fun _ s => (.ok (), s.markLoaded)
    | some e =>
      match s.loadKeys with
      | .error exc => (.error exc, s.withHolder (s.identity.toHolder.withEngine e))
      | .ok keys => (.ok (), (s.withHolder ⟨e, keys⟩).markLoaded)

def credential : Except Exn CredentialPublic :=
  match s.identity.engine.active with
  | none => .error (.serverIdentityError "NO_ACTIVE" "server identity has no active credential")
  | some cred => .ok cred

def keys (version : ℤ) : Except Exn PrivateKeys :=
  match s.identity.keys.keysFor version with
  | none => .error (.serverIdentityError "KEYS_MISSING" s!"no private keys for version {version}")
  | some k => .ok k

def activeKeys : Except Exn PrivateKeys := do s.keys (← s.credential).version

def submitSuccessor (active : CredentialPublic) (k : PrivateKeys) (now : ℤ) :
    Outcome ServerState Unit :=
  match s.identity.toHolder.generateSuccessor P cfg.serverUuid active k now with
  | (.error exc, h) => (.error exc, s.withHolder h)
  | (.ok _, h) => (.ok (), (s.withHolder h).persist)

-- the promotion half of `maybe_rotate`
def promote (now : ℤ) : Outcome ServerState Unit :=
  match s.identity.engine.validating with
  | none => (.ok (), s)
  | some validating =>
    if now < validating.validationDeadline.getD 0 then (.ok (), s)
    else
      match s.identity.toHolder.checkpoint now with
      | (.error (.rotationError _ _), h) => (.ok (), s.withHolder h)
      | (.error exc, h) => (.error exc, s.withHolder h)
      | (.ok _, h) => (.ok (), (s.withHolder h).persist)

-- on a loaded identity
def rotate (k : PrivateKeys) (now : ℤ) : Outcome ServerState Unit :=
  match s.identity.engine.active with
  | none => (.ok (), s)
  | some active =>
    let rotateAt := intOr active.expirationTime now - 2 * cfg.params.fallbackPeriod
    if s.identity.engine.validating = none ∧ rotateAt ≤ now then
      match s.submitSuccessor P cfg active k now with
      | (.error (.rotationError _ _), s) => (.ok (), s)
      | (.error exc, s) => (.error exc, s)
      | (.ok (), s) => s.promote now
    else s.promote now

def maybeRotate (fresh successor : PrivateKeys) (now : ℤ) : Outcome ServerState Unit :=
  (s.ensureLoaded P cfg fresh now).bind fun _ s => s.rotate P cfg successor now

end Methods

lemma ensureLoaded_first (P : Primitives) (cfg : ServerConfig) (db : Database) (keyFile : Option KeyMap)
    (k : PrivateKeys) (now : ℤ) (hdb : db.loadEngine cfg.params cfg.serverUuid = none) :
    let e := (RotationEngine.new cfg.params).put
      (RotationEngine.provisioned cfg.params (credentialOf P cfg.serverUuid 1 k) now)
    (start cfg db keyFile).ensureLoaded P cfg k now =
      (.ok (), ⟨⟨⟨e, KeyMap.add Table.empty 1 k⟩, true⟩, db.saveAll e, some (KeyMap.add Table.empty 1 k)⟩) := by
  intro e
  simp only [ensureLoaded, start, hdb, provision, Holder.provision_new]
  rfl

end ServerState

end Secupload.Server
