import Secupload.Client.Session

namespace Secupload.Client

open Library Shared

namespace ClientIdentity

section Methods

variable (P : Primitives) (cfg : ClientConfig) (c : ClientIdentity)

-- the file keeps its credentials under their versions in decimal, and reads them in that order
def loadedCredentials (file : IdentityFile) : List CredentialPublic :=
  (file.credentials.insertionSort fun c d => toString c.version ≤ toString d.version).map
    fun cred => { cred with identityUuid := file.identityUuid }

def load (file : IdentityFile) : Outcome ClientIdentity Unit :=
  let c := { c with
    engine := RotationEngine.load cfg.params (loadedCredentials file)
    keys := file.keys }
  if file.keys.rows = [] then
    (.error (.clientIdentityError "KEYS_MISSING" "client identity has no private keys"), c)
  else (.ok (), { c with enrolled := file.enrolled })

def ensureLoaded (k : PrivateKeys) (now : ℤ) : Outcome ClientIdentity Unit :=
  match c.file with
  | some file => c.load cfg file
  | none => c.fresh P cfg k now

end Methods

lemma ensureLoaded_file {P : Primitives} {cfg : ClientConfig} {c : ClientIdentity} {file : IdentityFile}
    (hfile : c.file = some file) (hkeys : file.keys.rows ≠ []) (k : PrivateKeys) (now : ℤ) :
    c.ensureLoaded P cfg k now = (.ok (), { c with
      engine := RotationEngine.load cfg.params (loadedCredentials file)
      keys := file.keys
      enrolled := file.enrolled }) := by
  simp only [ensureLoaded, hfile, load, if_neg hkeys]

lemma ensureLoaded_first (P : Primitives) (cfg : ClientConfig) (k : PrivateKeys) (now : ℤ) :
    (start cfg).ensureLoaded P cfg k now = (.ok (), { start cfg with
      engine := (RotationEngine.new cfg.params).put (RotationEngine.provisioned cfg.params
        (credentialOf P ((start cfg).identityUuid P cfg) 1 k) now)
      keys := KeyMap.add Table.empty 1 k }.save) := by
  change (start cfg).fresh P cfg k now = _
  rw [fresh, show (start cfg).toHolder.provision P _ k now = _ from Holder.provision_new P _ _ k now]
  rfl

end ClientIdentity

namespace ClientSession

section Methods

variable (P : Primitives) (cfg : ClientConfig) (s : ClientSession)

def start (cfg : ClientConfig) : ClientSession := ⟨ClientIdentity.start cfg, {}, false⟩

def enrollFrame : Except Exn Frame :=
  if cfg.enrollmentToken = "" then
    .error (.clientError "NO_TOKEN" "enrollment token required (SIH_ENROLLMENT_TOKEN)")
  else do
    let cred ← s.identity.current
    let body ← encodeEnrollmentBody
      { identityKind := kindToCode cfg.kind, token := cfg.enrollmentToken, version := cred.version
        ed25519Public := cred.ed25519Public, x25519Public := cred.x25519Public }
    s.sockRequired
    sendFrame channelControl (← encodeControl ControlType.enroll.code body)

def enrolledKey (reply : Frame) : Except Exn ServerKeyInfo :=
  if reply.channel ≠ channelControl then
    .error (.clientError "BAD_CHANNEL" "expected control frame")
  else do
    let msg ← parseControl reply.payload
    if msg.ctype ≠ ControlType.enrollResp.code then
      throw (.clientError "BAD_PROTOCOL" "unexpected control response")
    let resp ← parseEnrollResponse msg.body
    if resp.status ≠ 0 then throw (.clientError "ENROLL_REJECTED" resp.message)
    parseServerKeyInfo resp.serverKeyInfo

def useEnrolled (reply : Frame) : Outcome ClientSession Unit :=
  match enrolledKey reply with
  | .error exc => (.error exc, s)
  | .ok info =>
    (.ok (), { s with
      serverKeys := ⟨info.version, info.ed25519Public, info.x25519Public⟩
      identity := s.identity.markEnrolled })

-- `connect` up to the enrollment; an error leaves the socket as it is
def dial (k : PrivateKeys) (now : ℤ) : Outcome ClientSession Unit :=
  match s.identity.ensureLoaded P cfg k now with
  | (.error exc, identity) => (.error exc, s.withIdentity identity)
  | (.ok (), identity) => (.ok (), { s with identity, connected := true })

end Methods

end ClientSession

end Secupload.Client
