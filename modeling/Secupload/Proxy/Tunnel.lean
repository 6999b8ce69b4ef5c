import Secupload.Library.Pump
import Secupload.Proxy.Cache
import Secupload.Shared.Framing
import Secupload.Shared.Replay

namespace Secupload.Proxy

open Library Shared

-- `_FrameValidator.check`
def check (P : Primitives) (cache : RegistryCache) (now : ℤ) (frame : Frame) : Except Exn Unit :=
  if frame.channel = channelControl then .ok ()
  else do
    let env ← parseEnvelope frame.payload
    match cache.entry env.senderUuid with
    | none => .ok ()
    | some entry =>
      if entry.version ≠ env.senderCredentialVersion then
        .error (.proxyError (s!"credential version mismatch for {env.senderUuid.str} " ++
          s!"(registry v{entry.version}, envelope v{env.senderCredentialVersion})"))
      else if timestampOk env.timestamp now = false then
        .error (.proxyError "client envelope outside timestamp window")
      else
        match env.verify P entry.ed25519Public with
        | .error (.protocolError message) =>
          .error (.proxyError s!"client signature invalid: {message}")
        | result => result

inductive Side
  | client
  | server
  deriving DecidableEq

-- whether the pump that reads a socket has the validator, in `_splice(a, b, validator)`
def splice (a _b : Side) (src : Side) : Bool := decide (src = a)

-- `ProxyTunnel.handle` splices the server's socket with the client's
def handle : Side → Bool := splice .server .client

-- what a socket receives, the clock then, and whether the frame can be sent on;
-- or a new snapshot that some connection puts into the cache
inductive Event
  | received (src : Side) (input : Option Frame) (now : ℤ) (sent : Bool)
  | updated (entries : List RegistryEntry)

structure Tunnel where
  cache : RegistryCache
  pumps : Side → Pump Frame

namespace Tunnel

def start (cache : RegistryCache) : Tunnel := ⟨cache, fun _ => Pump.start⟩

variable (P : Primitives) (validated : Side → Bool)

def turn (t : Tunnel) (src : Side) (input : Option Frame) (now : ℤ) (sent : Bool) : Turn Frame where
  input
  passes := !validated src || input.all fun frame => decide (check P t.cache now frame = .ok ())
  sent

def step (t : Tunnel) : Event → Tunnel
  | .received src input now sent =>
    { t with
      pumps := Function.update t.pumps src ((t.pumps src).turn (t.turn P validated src input now sent)) }
  | .updated entries => { t with cache := t.cache.update entries }

def turnsOf (src : Side) (t : Tunnel) : Event → List (Turn Frame)
  | .received side input now sent =>
    if side = src then [t.turn P validated side input now sent] else []
  | .updated _ => []

def turns (src : Side) : Tunnel → List Event → List (Turn Frame)
  | _, [] => []
  | t, e :: es => turnsOf P validated src t e ++ turns src (step P validated t e) es

section Runs

variable {P validated} {src : Side} {t : Tunnel} {e : Event} {es : List Event}

lemma step_pump : (step P validated t e).pumps src =
    run Pump.turn (t.pumps src) (turnsOf P validated src t e) := by
  cases e with
  | received side input now sent =>
    simp only [step, turnsOf, Function.update_apply]
    by_cases hside : side = src
    · rw [if_pos hside.symm, if_pos hside, hside]
      rfl
    · rw [if_neg (Ne.symm hside), if_neg hside]
      rfl
  | updated entries => rfl

lemma run_pump : (run (step P validated) t es).pumps src =
    run Pump.turn (t.pumps src) (turns P validated src t es) := by
  induction es generalizing t with
  | nil => rfl
  | cons e es ih => rw [run_cons, ih, step_pump, turns, run_append]

lemma step_received {frame : Option Frame} {now : ℤ} {sent : Bool} :
    (step P validated t (.received src frame now sent)).pumps src =
      (t.pumps src).turn (t.turn P validated src frame now sent) := by
  simp [step]

def lastCache : RegistryCache → List Event → RegistryCache :=
  List.foldl fun cache e =>
    match e with
    | .received _ _ _ _ => cache
    | .updated entries => cache.update entries

variable (P validated) in
lemma run_cache : (run (step P validated) t es).cache = lastCache t.cache es := by
  induction es generalizing t with
  | nil => rfl
  | cons e es ih =>
    rw [run_cons, ih]
    cases e <;> rfl

end Runs

end Tunnel

end Secupload.Proxy
