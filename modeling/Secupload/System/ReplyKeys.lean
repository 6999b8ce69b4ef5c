import Secupload.Server.ControlActions
import Secupload.Server.Relay
import Secupload.System.Owners
import Secupload.System.Replies

/-! The handler of a connection between the ticks of the rotation thread: the versions of the
server's credential that the handling of a request meets, and the key that signs its reply. -/

namespace Secupload.System

open Library Shared Server
open Server.Tunnel2Server (replyHeader frontServer demoDraw)

def unsignedReply (P : Primitives) (cfg : ServerConfig) (d : Draw) (reqEnv : Envelope) (serverVersion : ℤ)
    (response : Response) (clientX25519Public : Bytes) : Except Exn Envelope :=
  match response with
  | .message inner => do
    let base := replyHeader cfg d reqEnv .request serverVersion
    let aad ← base.aad 0
    let (ephemeralPublic, ciphertext) ← sealMessage P d.ephemeral clientX25519Public base.nonce aad inner
    let payload ← wrapEncrypted
      { recipientVersion := reqEnv.senderCredentialVersion, ephemeralPublic, nonce := base.nonce, ciphertext }
    return { base with payload }
  | .chunk objectUuid chunkIndex data => do
    let base := replyHeader cfg d reqEnv .objChunk serverVersion
    let aad ← base.aad chunkIndex
    let (ephemeralPublic, ciphertext) ←
      sealChunk P d.ephemeral clientX25519Public objectUuid.bytes chunkIndex aad data
    let payload ← wrapEncryptedChunk
      { recipientVersion := reqEnv.senderCredentialVersion, objectUuid, chunkIndex, ephemeralPublic, ciphertext }
    return { base with payload }

inductive Path
  | control (action : Action)
  | relay

def Path.frame : Path → Envelope → Except Exn Frame
  | .control action, reply => do
    sendFrame channelControl (← encodeControl action.respType.code (← reply.encode))
  | .relay, reply => do sendFrame channelRelay (← reply.encode)

def Path.unknownSender : Path → Exn
  | .control _ => .tunnel2Error "unknown sender credential for control response"
  | .relay => .tunnel2Error "unknown sender credential for relay response"

structure Pending where
  path : Path
  draw : Draw
  env : Envelope
  response : Response

inductive Stage
  | idle
  | naming (p : Pending)
  | signing (p : Pending) (unsigned : Envelope)
  | closed

-- one look at the server's identity: the ACTIVE version then, and the promotions before it
structure Access where
  version : ℤ
  promotions : ℕ

structure FinishedRequest where
  accesses : List Access
  reply : Option Envelope

structure Handler where
  conn : Connection
  promotions : ℕ
  stage : Stage
  accesses : List Access
  handled : List FinishedRequest
  frames : List Frame

-- a tick of the rotation thread, what other connections do to the state that they share with this
-- one, or a step of the handler
inductive HandlerEvent
  | tick (fresh successor : PrivateKeys) (now : ℤ)
  | others (conn : Connection)
  | receive (d : Draw) (frame : Frame)
  | name
  | sign

def HandlerEvent.drawn : HandlerEvent → List PrivateKeys
  | .tick _ successor _ => [successor]
  | _ => []

namespace Handler

def start (conn : Connection) : Handler := ⟨conn, 0, .idle, [], [], []⟩

section Steps

variable (P : Primitives) (cfg : ServerConfig) (h : Handler)

def withState (state : ServerState) : Handler := { h with conn := { h.conn with state } }

def look : List Access := (h.conn.state.identity.engine.active.map fun a => ⟨a.version, h.promotions⟩).toList

def close : Handler := { h with stage := .closed, handled := h.handled ++ [⟨h.accesses, none⟩] }

def await (p : Pending) (accesses : List Access) : Handler := { h with stage := .naming p, accesses }

-- an ENROLL looks at the identity once at most, and its reply is no envelope
def enrolled (reply : Except Exn Frame) : Handler :=
  match reply with
  | .error _ => { h with stage := .closed }
  | .ok frame => { h with frames := h.frames ++ [frame] }

def receiveControl (d : Draw) (payload : Bytes) : Handler :=
  let (performed, srv) := h.conn.toTunnel2Server.perform P cfg d payload
  let h' := { h with conn := { h.conn with toTunnel2Server := srv } }
  match performed with
  | .error _ => { h' with stage := .closed }
  | .ok (.enrolled response) =>
    h'.enrolled (encodeControl ControlType.enrollResp.code response >>= sendFrame channelControl)
  | .ok (.action action env (.done inner)) | .ok (.action action env (.refused inner)) =>
    h'.await ⟨.control action, d, env, .message inner⟩ h.look

-- the private key is used only for an envelope that authenticates
def receiveRelay (d : Draw) (payload : Bytes) : Handler :=
  match parseEnvelope payload with
  | .error _ => { h with stage := .closed }
  | .ok env =>
    let (result, conn) := h.conn.attempt P cfg d env
    let h' := { h with conn }
    match Connection.caught result with
    | .error _ => { h' with stage := .closed }
    | .ok response =>
      h'.await ⟨.relay, d, env, response⟩
        (if (h.conn.auth.authenticate P cfg.params h.conn.state.db env d.authNow).1.isOk then h.look else [])

def receive (d : Draw) (frame : Frame) : Handler :=
  if frame.channel = channelControl then h.receiveControl P cfg d frame.payload
  else if frame.channel = channelRelay then h.receiveRelay P cfg d frame.payload
  else { h with stage := .closed }

-- `credential()`, and the reply that names its version
def name (p : Pending) : Handler :=
  match h.conn.state.credential with
  | .error _ => h.close
  | .ok serverCred =>
    let h := { h with accesses := h.accesses ++ h.look }
    match h.conn.state.db.getCredential p.env.senderUuid p.env.senderCredentialVersion with
    | none => h.close
    | some clientCred =>
      match unsignedReply P cfg p.draw p.env serverCred.version p.response clientCred.x25519Public with
      | .error _ => h.close
      | .ok unsigned => { h with stage := .signing p unsigned }

-- `active_keys()`, and the frame of the signed reply
def sign (p : Pending) (unsigned : Envelope) : Handler :=
  match h.conn.state.activeKeys with
  | .error _ => h.close
  | .ok keys =>
    let h := { h with accesses := h.accesses ++ h.look }
    let sent : Except Exn (Envelope × Frame) := do
      let reply ← unsigned.sign P keys.ed25519
      return (reply, ← p.path.frame reply)
    match sent with
    | .error _ => h.close
    | .ok (reply, frame) =>
      { h with stage := .idle, handled := h.handled ++ [⟨h.accesses, some reply⟩], frames := h.frames ++ [frame] }

def step (h : Handler) : HandlerEvent → Handler
  | .tick fresh successor now =>
    { h.withState (h.conn.state.maybeRotate P cfg fresh successor now).2 with
      promotions := h.promotions + if h.conn.state.Promotes P cfg successor now then 1 else 0 }
  | .others conn =>
    { h with
      conn :=
        { conn with
          state := { conn.state with identity := h.conn.state.identity, keyFile := h.conn.state.keyFile } } }
  | .receive d frame =>
    match h.stage with
    | .idle => h.receive P cfg d frame
    | _ => h
  | .name =>
    match h.stage with
    | .naming p => h.name P cfg p
    | _ => h
  | .sign =>
    match h.stage with
    | .signing p unsigned => h.sign P p unsigned
    | _ => h

end Steps

structure Continues (h h' : Handler) : Prop where
  identity : h'.conn.state.identity = h.conn.state.identity
  promotions : h'.promotions = h.promotions
  accesses : ∀ a ∈ h'.accesses, a ∈ h.accesses ++ h.look

structure Received (h h' : Handler) : Prop where
  promotions : h'.promotions = h.promotions
  accesses : ∀ a ∈ h'.accesses, a ∈ h.accesses ++ h.look
  handled : h'.handled = h.handled
  unsigned : ∀ p u, h'.stage ≠ .signing p u

section Receiving

variable {P : Primitives} {cfg : ServerConfig} {h : Handler} {d : Draw} {frame : Frame}

lemma enrolled_conn (h : Handler) (reply : Except Exn Frame) : (h.enrolled reply).conn = h.conn := by
  cases reply <;> rfl

lemma received_enrolled (hidle : h.stage = .idle) (conn : Connection) (reply : Except Exn Frame) :
    h.Received (enrolled { h with conn } reply) := by
  have hold : ∀ a ∈ h.accesses, a ∈ h.accesses ++ h.look := fun a ha => List.mem_append_left _ ha
  cases reply with
  | error exc => exact ⟨rfl, hold, rfl, fun _ _ hp => by cases hp⟩
  | ok frame =>
    refine ⟨rfl, hold, rfl, fun p u hp => ?_⟩
    cases hidle.symm.trans hp

variable (h) in
lemma received_closed (conn : Connection) : h.Received { h with conn, stage := .closed } :=
  ⟨rfl, fun _ ha => List.mem_append_left _ ha, rfl, fun _ _ hp => by cases hp⟩

lemma received_await (conn : Connection) (p : Pending) {accesses : List Access}
    (hlook : ∀ a ∈ accesses, a ∈ h.look) : h.Received (await { h with conn } p accesses) :=
  ⟨rfl, fun a ha => List.mem_append_right _ (hlook a ha), rfl, fun _ _ hp => by cases hp⟩

variable (P cfg h d frame) in
lemma receive_conn : (h.receive P cfg d frame).conn = (h.conn.handleFrame P cfg d frame).2 := by
  rw [receive, Connection.handleFrame]
  split_ifs
  · rw [receiveControl, Tunnel2Server.handleControl]
    generalize h.conn.toTunnel2Server.perform P cfg d frame.payload = performed
    obtain ⟨_ | _ | ⟨action, env, _ | _⟩, srv⟩ := performed
    · rfl
    · exact enrolled_conn _ _
    · rfl
    · rfl
  · rw [receiveRelay, Connection.handleRelay]
    cases parseEnvelope frame.payload with
    | error exc => rfl
    | ok env =>
      dsimp only
      generalize h.conn.attempt P cfg d env = attempted
      obtain ⟨result, conn⟩ := attempted
      dsimp only
      cases Connection.caught result <;> rfl
  · rfl

variable (P cfg d frame) in
lemma receive_received (hidle : h.stage = .idle) : h.Received (h.receive P cfg d frame) := by
  rw [receive]
  split_ifs
  · rw [receiveControl]
    generalize h.conn.toTunnel2Server.perform P cfg d frame.payload = performed
    obtain ⟨_ | response | ⟨action, env, _ | _⟩, srv⟩ := performed
    · exact received_closed h _
    · exact received_enrolled hidle _ _
    · exact received_await _ _ fun _ ha => ha
    · exact received_await _ _ fun _ ha => ha
  · rw [receiveRelay]
    cases parseEnvelope frame.payload with
    | error exc => exact received_closed h h.conn
    | ok env =>
      dsimp only
      generalize h.conn.attempt P cfg d env = attempted
      obtain ⟨result, conn⟩ := attempted
      dsimp only
      cases Connection.caught result with
      | error exc => exact received_closed h conn
      | ok response =>
        refine received_await conn _ fun a ha => ?_
        split_ifs at ha
        · exact ha
        · cases ha
  · exact received_closed h h.conn

lemma buildOutgoing_unsigned (srv : Tunnel2Server) (reqEnv : Envelope) (version : ℤ) (inner key : Bytes) :
    srv.buildOutgoing P cfg d reqEnv version inner key = (do
      let unsigned ← unsignedReply P cfg d reqEnv version (.message inner) key
      let keys ← srv.state.activeKeys
      unsigned.sign P keys.ed25519) := by
  rw [Tunnel2Server.buildOutgoing, unsignedReply]
  simp only [bind_assoc, pure_bind]
  rfl

lemma buildChunk_unsigned (conn : Connection) (reqEnv : Envelope) (version : ℤ) (objectUuid : Uuid)
    (chunkIndex : ℤ) (data key : Bytes) :
    conn.buildChunk P cfg d reqEnv version objectUuid chunkIndex data key = (do
      let unsigned ← unsignedReply P cfg d reqEnv version (.chunk objectUuid chunkIndex data) key
      let keys ← conn.state.activeKeys
      unsigned.sign P keys.ed25519) := by
  rw [Connection.buildChunk, unsignedReply]
  simp only [bind_assoc, pure_bind]
  rfl

variable (P cfg) in
def replyFrame (state : ServerState) (p : Pending) : Except Exn Frame := do
  let serverCred ← state.credential
  match state.db.getCredential p.env.senderUuid p.env.senderCredentialVersion with
  | none => throw p.path.unknownSender
  | some clientCred =>
    let unsigned ← unsignedReply P cfg p.draw p.env serverCred.version p.response clientCred.x25519Public
    let keys ← state.activeKeys
    let reply ← unsigned.sign P keys.ed25519
    p.path.frame reply

lemma replyFrame_control (srv : Tunnel2Server) (action : Action) (env : Envelope) (inner : Bytes) :
    (srv.sendControlResponse P cfg d action env inner >>= sendFrame channelControl) =
      replyFrame P cfg srv.state ⟨.control action, d, env, .message inner⟩ := by
  rw [Tunnel2Server.sendControlResponse, replyFrame, bind_assoc]
  refine bind_congr fun serverCred => ?_
  dsimp only
  cases srv.state.db.getCredential env.senderUuid env.senderCredentialVersion with
  | none => rfl
  | some clientCred =>
    simp only [buildOutgoing_unsigned, Path.frame, bind_assoc]

lemma replyFrame_relay (conn : Connection) (env : Envelope) (response : Response) :
    (do
      let reply ← conn.relayReply P cfg d env response
      sendFrame channelRelay (← reply.encode)) =
      replyFrame P cfg conn.state ⟨.relay, d, env, response⟩ := by
  rw [Connection.relayReply, replyFrame, bind_assoc]
  refine bind_congr fun serverCred => ?_
  dsimp only
  cases conn.state.db.getCredential env.senderUuid env.senderCredentialVersion with
  | none => rfl
  | some clientCred =>
    cases response with
    | message inner => simp only [buildOutgoing_unsigned, Path.frame, bind_assoc]
    | chunk objectUuid chunkIndex data => simp only [buildChunk_unsigned, Path.frame, bind_assoc]

def Finishes (h h' : Handler) (result : Except Exn Frame) : Prop :=
  h'.conn = h.conn ∧ h'.frames = h.frames ++ result.toOption.toList ∧
    (h'.stage = .idle ↔ ∃ frame, result = .ok frame)

lemma finishes_close (h : Handler) (exc : Exn) : h.Finishes h.close (.error exc) :=
  ⟨rfl, (List.append_nil _).symm, iff_of_false (fun hp => by cases hp) (by rintro ⟨_, hp⟩; cases hp)⟩

lemma name_sign (p : Pending) (hstage : h.stage = .naming p) :
    h.Finishes (run (Handler.step P cfg) h [.name, .sign]) (replyFrame P cfg h.conn.state p) := by
  have hname : h.step P cfg .name = h.name P cfg p := by simp only [step, hstage]
  have hclosed (h' : Handler) (hs : h'.stage = .closed) : h'.step P cfg .sign = h' := by simp only [step, hs]
  rw [run_cons, run_cons, run_nil, hname, name, replyFrame]
  cases hcredential : h.conn.state.credential with
  | error exc =>
    dsimp only
    rw [hclosed _ rfl]
    exact finishes_close h exc
  | ok serverCred =>
    rw [except_ok_bind]
    dsimp only
    cases h.conn.state.db.getCredential p.env.senderUuid p.env.senderCredentialVersion with
    | none =>
      dsimp only
      rw [hclosed _ rfl]
      exact finishes_close { h with accesses := h.accesses ++ h.look } _
    | some clientCred =>
      dsimp only
      cases unsignedReply P cfg p.draw p.env serverCred.version p.response clientCred.x25519Public with
      | error exc =>
        dsimp only
        rw [hclosed _ rfl]
        exact finishes_close { h with accesses := h.accesses ++ h.look } _
      | ok unsigned =>
        rw [except_ok_bind]
        dsimp only [step, sign]
        cases h.conn.state.activeKeys with
        | error exc => exact finishes_close { h with accesses := h.accesses ++ h.look } exc
        | ok keys =>
          rw [except_ok_bind]
          dsimp only
          cases unsigned.sign P keys.ed25519 with
          | error exc => exact finishes_close _ exc
          | ok reply =>
            simp only [except_ok_bind]
            cases p.path.frame reply with
            | error exc => exact finishes_close _ exc
            | ok frame => exact ⟨rfl, rfl, iff_of_true rfl ⟨frame, rfl⟩⟩

lemma run_unchanged (hnaming : ∀ p, h.stage ≠ .naming p) (hsigning : ∀ p u, h.stage ≠ .signing p u) :
    run (Handler.step P cfg) h [.name, .sign] = h := by
  have hname : h.step P cfg .name = h := by
    rw [step]
    split
    · rename_i p hp
      exact (hnaming p hp).elim
    · rfl
  have hsign : h.step P cfg .sign = h := by
    rw [step]
    split
    · rename_i p u hp
      exact (hsigning p u hp).elim
    · rfl
  rw [run_cons, hname, run_cons, hsign, run_nil]

variable (P cfg) in
lemma finishes_closed (h : Handler) (exc : Exn) :
    h.Finishes (run (Handler.step P cfg) { h with stage := .closed } [.name, .sign]) (.error exc) := by
  rw [run_unchanged (fun _ hp => by cases hp) (fun _ _ hp => by cases hp)]
  exact ⟨rfl, (List.append_nil _).symm, iff_of_false (fun hp => by cases hp) (by rintro ⟨_, hp⟩; cases hp)⟩

variable (P cfg d frame) in
lemma steps_handleFrame (hidle : h.stage = .idle) :
    Finishes { h with conn := (h.conn.handleFrame P cfg d frame).2 }
      (run (Handler.step P cfg) h [.receive d frame, .name, .sign]) (h.conn.handleFrame P cfg d frame).1 := by
  have hreceive : h.step P cfg (.receive d frame) = h.receive P cfg d frame := by simp only [step, hidle]
  rw [run_cons, hreceive, receive, Connection.handleFrame]
  split_ifs
  · rw [receiveControl, Tunnel2Server.handleControl]
    generalize h.conn.toTunnel2Server.perform P cfg d frame.payload = performed
    obtain ⟨exc | response | ⟨action, env, inner | inner⟩, srv⟩ := performed
    · exact finishes_closed P cfg { h with conn := { h.conn with toTunnel2Server := srv } } exc
    · dsimp only [Outcome.bind, Tunnel2Server.reply]
      cases encodeControl ControlType.enrollResp.code response >>= sendFrame channelControl with
      | error exc => exact finishes_closed P cfg { h with conn := { h.conn with toTunnel2Server := srv } } exc
      | ok reply =>
        dsimp only [enrolled]
        rw [run_unchanged (fun _ hp => by cases hidle.symm.trans hp) (fun _ _ hp => by cases hidle.symm.trans hp)]
        exact ⟨rfl, rfl, iff_of_true hidle ⟨reply, rfl⟩⟩
    · dsimp only [Outcome.bind, Tunnel2Server.reply]
      rw [replyFrame_control]
      exact name_sign ⟨.control action, d, env, .message inner⟩ rfl
    · dsimp only [Outcome.bind, Tunnel2Server.reply]
      rw [replyFrame_control]
      exact name_sign ⟨.control action, d, env, .message inner⟩ rfl
  · rw [receiveRelay, Connection.handleRelay]
    cases parseEnvelope frame.payload with
    | error exc => exact finishes_closed P cfg h _
    | ok env =>
      dsimp only
      generalize h.conn.attempt P cfg d env = attempted
      obtain ⟨result, conn⟩ := attempted
      dsimp only
      cases Connection.caught result with
      | error exc => exact finishes_closed P cfg { h with conn } exc
      | ok response =>
        rw [except_ok_bind, replyFrame_relay]
        exact name_sign ⟨.relay, d, env, response⟩ rfl
  · exact finishes_closed P cfg h _

end Receiving

end Handler

namespace FinishedRequest

variable (x : FinishedRequest)

def OneVersion : Prop := ∀ a ∈ x.accesses, ∀ b ∈ x.accesses, a.version = b.version

def Undisturbed : Prop := ∀ a ∈ x.accesses, ∀ b ∈ x.accesses, a.promotions = b.promotions

instance : Decidable x.Undisturbed :=
  inferInstanceAs (Decidable (∀ a ∈ x.accesses, ∀ b ∈ x.accesses, a.promotions = b.promotions))

def Registered (P : Primitives) (state : ServerState) : Prop :=
  ∀ reply ∈ x.reply, ∃ row, state.identity.engine.get reply.senderCredentialVersion = some row ∧
    reply.verify P row.ed25519Public = .ok ()

end FinishedRequest

def Matched (accesses : List Access) : Prop :=
  ∀ a ∈ accesses, ∀ b ∈ accesses, a.version = b.version ↔ a.promotions = b.promotions

lemma Matched.mono {as bs : List Access} (h : Matched as) (hsub : ∀ b ∈ bs, b ∈ as) : Matched bs :=
  fun a ha b hb => h a (hsub a ha) b (hsub b hb)

namespace Handler

def Met (h : Handler) (a : Access) : Prop :=
  ∃ c, h.conn.state.identity.engine.active = some c ∧ a.version ≤ c.version ∧ a.promotions ≤ h.promotions ∧
    (a.version = c.version ↔ a.promotions = h.promotions)

structure Kept (P : Primitives) (cfg : ServerConfig) (h : Handler) : Prop where
  rotating : h.conn.state.Rotating cfg
  able : h.conn.state.Able P
  met : ∀ a ∈ h.accesses, h.Met a
  matched : Matched h.accesses
  named : ∀ p unsigned, h.stage = .signing p unsigned →
    ∃ a ∈ h.accesses, a.version = unsigned.senderCredentialVersion
  handled : ∀ x ∈ h.handled, Matched x.accesses ∧ (x.OneVersion → x.Registered P h.conn.state)

section Steps

variable {P : Primitives} {cfg : ServerConfig} {h h' : Handler}

lemma Kept.look (hk : h.Kept P cfg) : ∃ c, h.conn.state.identity.engine.active = some c ∧
    h.look = [⟨c.version, h.promotions⟩] := by
  obtain ⟨c, hc⟩ := Option.ne_none_iff_exists'.mp hk.able.active
  exact ⟨c, hc, by rw [Handler.look, hc]; rfl⟩

lemma Kept.met_look (hk : h.Kept P cfg) : ∀ a ∈ h.accesses ++ h.look, h.Met a := by
  intro a ha
  rcases List.mem_append.mp ha with ha | ha
  · exact hk.met a ha
  · obtain ⟨c, hc, hlook⟩ := hk.look
    rw [hlook] at ha
    obtain rfl := List.mem_singleton.mp ha
    exact ⟨c, hc, le_rfl, le_rfl, iff_of_true rfl rfl⟩

lemma Kept.matched_look (hk : h.Kept P cfg) : Matched (h.accesses ++ h.look) := by
  obtain ⟨c, hc, hlook⟩ := hk.look
  have hnow : ∀ a ∈ h.accesses, a.version = c.version ↔ a.promotions = h.promotions := by
    intro a ha
    obtain ⟨c', hc', _, _, hiff⟩ := hk.met a ha
    obtain rfl := Option.some.inj (hc.symm.trans hc')
    exact hiff
  rw [hlook]
  intro a ha b hb
  rcases List.mem_append.mp ha with ha | ha <;> rcases List.mem_append.mp hb with hb | hb
  · exact hk.matched a ha b hb
  · obtain rfl := List.mem_singleton.mp hb
    exact hnow a ha
  · obtain rfl := List.mem_singleton.mp ha
    rw [eq_comm, hnow b hb, eq_comm]
  · obtain rfl := List.mem_singleton.mp ha
    obtain rfl := List.mem_singleton.mp hb
    exact iff_of_true rfl rfl

lemma Kept.continues (hk : h.Kept P cfg) (hc : h.Continues h')
    (hnamed : ∀ p unsigned, h'.stage = .signing p unsigned →
      ∃ a ∈ h'.accesses, a.version = unsigned.senderCredentialVersion)
    (hhandled : ∀ x ∈ h'.handled, x ∈ h.handled ∨
      Matched x.accesses ∧ (x.OneVersion → x.Registered P h.conn.state)) : h'.Kept P cfg := by
  have hmet (a : Access) (ha : h.Met a) : h'.Met a := by
    rw [Met, hc.identity, hc.promotions]
    exact ha
  have hregistered (x : FinishedRequest) (hx : x.Registered P h.conn.state) : x.Registered P h'.conn.state := by
    rw [FinishedRequest.Registered, hc.identity]
    exact hx
  refine ⟨hk.rotating.of_identity hc.identity, hk.able.of_identity hc.identity, ?_,
    Matched.mono hk.matched_look hc.accesses, hnamed, ?_⟩
  · exact fun a ha => hmet a (hk.met_look a (hc.accesses a ha))
  · intro x hx
    obtain ⟨hmatched, hregisters⟩ := (hhandled x hx).elim (hk.handled x) id
    exact ⟨hmatched, fun hone => hregistered x (hregisters hone)⟩

lemma Kept.close (hk : h.Kept P cfg) : h.close.Kept P cfg := by
  refine hk.continues ⟨rfl, rfl, fun a ha => List.mem_append_left _ ha⟩ (fun _ _ hp => by cases hp) fun x hx => ?_
  rcases List.mem_append.mp hx with hx | hx
  · exact Or.inl hx
  · obtain rfl := List.mem_singleton.mp hx
    exact Or.inr ⟨hk.matched, fun _ reply hreply => by cases hreply⟩

lemma Kept.looked (hk : h.Kept P cfg) : Kept P cfg { h with accesses := h.accesses ++ h.look } := by
  refine hk.continues ⟨rfl, rfl, fun _ ha => ha⟩ (fun p unsigned hp => ?_) fun x hx => Or.inl hx
  obtain ⟨a, ha, hversion⟩ := hk.named p unsigned hp
  exact ⟨a, List.mem_append_left _ ha, hversion⟩

lemma unsignedReply_version {d : Draw} {reqEnv unsigned : Envelope} {version : ℤ} {response : Response}
    {key : Bytes} (hu : unsignedReply P cfg d reqEnv version response key = .ok unsigned) :
    unsigned.senderCredentialVersion = version := by
  cases response with
  | message inner =>
    obtain ⟨aad, _, hu⟩ := except_bind_eq_ok.mp hu
    obtain ⟨r, _, hu⟩ := except_bind_eq_ok.mp hu
    obtain ⟨payload, _, hu⟩ := except_bind_eq_ok.mp hu
    obtain rfl := Except.ok.inj hu
    rfl
  | chunk objectUuid chunkIndex data =>
    obtain ⟨aad, _, hu⟩ := except_bind_eq_ok.mp hu
    obtain ⟨r, _, hu⟩ := except_bind_eq_ok.mp hu
    obtain ⟨payload, _, hu⟩ := except_bind_eq_ok.mp hu
    obtain rfl := Except.ok.inj hu
    rfl

lemma Kept.name (hk : h.Kept P cfg) (p : Pending) : (h.name P cfg p).Kept P cfg := by
  obtain ⟨c, hc, hlook⟩ := hk.look
  have hcredential : h.conn.state.credential = .ok c := by rw [ServerState.credential, hc]
  rw [Handler.name, hcredential]
  dsimp only
  cases h.conn.state.db.getCredential p.env.senderUuid p.env.senderCredentialVersion with
  | none => exact hk.looked.close
  | some clientCred =>
    dsimp only
    cases hu : unsignedReply P cfg p.draw p.env c.version p.response clientCred.x25519Public with
    | error exc => exact hk.looked.close
    | ok unsigned =>
      refine hk.continues ⟨rfl, rfl, fun _ ha => ha⟩ (fun p' unsigned' hp => ?_) fun x hx => Or.inl hx
      obtain ⟨rfl, rfl⟩ := Stage.signing.inj hp
      refine ⟨⟨c.version, h.promotions⟩, List.mem_append_right _ ?_, (unsignedReply_version hu).symm⟩
      rw [hlook]
      exact List.mem_singleton_self _

lemma sign_verifies (hP : Lawful P) {unsigned reply : Envelope} {key : Bytes} (hkey : key.length = 32)
    (hs : unsigned.sign P key = .ok reply) : reply.verify P (P.ed25519Public key) = .ok () := by
  obtain ⟨body, hbody, hs⟩ := except_bind_eq_ok.mp hs
  obtain rfl := Except.ok.inj hs
  have hsigned : Envelope.signedBytes { unsigned with signature := signEd25519 P key body } = .ok body := hbody
  rw [Envelope.verify, hsigned, except_ok_bind, hP.verify hkey]

lemma Kept.sign (hP : Lawful P) (hk : h.Kept P cfg) {p : Pending} {unsigned : Envelope}
    (hstage : h.stage = .signing p unsigned) : (h.sign P p unsigned).Kept P cfg := by
  obtain ⟨c, hc, hlook⟩ := hk.look
  obtain ⟨hmem, _⟩ := RotationEngine.mem_of_byStatus hc
  obtain ⟨⟨keys, hkeys, hgenerated, hmatch⟩, _⟩ := hk.able.keys c hmem
  rw [Handler.sign, ServerState.activeKeys_eq_ok.mpr ⟨c, hc, hkeys⟩]
  dsimp only
  cases hsent : (do
      let reply ← unsigned.sign P keys.ed25519
      return (reply, ← p.path.frame reply) : Except Exn (Envelope × Frame)) with
  | error exc => exact hk.looked.close
  | ok sent =>
    obtain ⟨reply, hreply, hsent⟩ := except_bind_eq_ok.mp hsent
    obtain ⟨frame, _, hsent⟩ := except_bind_eq_ok.mp hsent
    obtain rfl := Except.ok.inj hsent
    refine hk.continues ⟨rfl, rfl, fun _ ha => ha⟩ (fun _ _ hp => by cases hp) fun x hx => ?_
    rcases List.mem_append.mp hx with hx | hx
    · exact Or.inl hx
    · obtain rfl := List.mem_singleton.mp hx
      refine Or.inr ⟨hk.matched_look, fun hone reply' hreply' => ?_⟩
      obtain rfl := Option.some.inj hreply'
      obtain ⟨a, ha, hversion⟩ := hk.named p unsigned hstage
      have hnow : a.version = c.version := by
        refine hone a (List.mem_append_left _ ha) ⟨c.version, h.promotions⟩ (List.mem_append_right _ ?_)
        rw [hlook]
        exact List.mem_singleton_self _
      have hnamed : reply.senderCredentialVersion = unsigned.senderCredentialVersion := by
        obtain ⟨body, _, hs⟩ := except_bind_eq_ok.mp hreply
        obtain rfl := Except.ok.inj hs
        rfl
      refine ⟨c, ?_, ?_⟩
      · rw [hnamed, ← hversion, hnow]
        exact RotationEngine.get_of_mem hmem
      · rw [hmatch.1]
        exact sign_verifies hP hgenerated.1 hreply

lemma Kept.receive (hk : h.Kept P cfg) (hidle : h.stage = .idle) (d : Draw) (frame : Frame) :
    (h.receive P cfg d frame).Kept P cfg := by
  have hr := receive_received P cfg d frame hidle
  refine hk.continues ⟨?_, hr.promotions, hr.accesses⟩ (fun p u hp => (hr.unsigned p u hp).elim) fun x hx => Or.inl ?_
  · rw [receive_conn, handleFrame_identity]
  · rw [← hr.handled]
    exact hx

lemma Kept.tick (hk : h.Kept P cfg) {successor : PrivateKeys} (hs : Server.Generated P successor) (fresh : PrivateKeys)
    (now : ℤ) : (h.step P cfg (.tick fresh successor now)).Kept P cfg := by
  have hevolves := ServerState.rotate_evolves (P := P) hk.rotating successor now
  have hrotating := (ServerState.rotate_keepsOthers (P := P) hk.rotating successor now).rotating
  rw [Handler.step, ServerState.maybeRotate_loaded hk.rotating.loaded]
  refine ⟨hrotating, hk.able.rotate hs now, fun a ha => ?_, hk.matched, hk.named, fun x hx => ?_⟩
  · obtain ⟨c, hc, hversion, hpromotions, hiff⟩ := hk.met a ha
    obtain ⟨c', hc', hstays, hrises⟩ := ServerState.rotate_active (P := P) hk.rotating successor now hc
    by_cases hyes : h.conn.state.Promotes P cfg successor now
    · have hlt := hrises hyes
      refine ⟨c', hc', by omega, ?_, ?_⟩
      · dsimp only
        omega
      · simp only [hyes, if_true]
        constructor <;> intro _ <;> omega
    · have hsame := hstays hyes
      refine ⟨c', hc', by omega, ?_, ?_⟩
      · dsimp only
        omega
      · simp only [hyes, if_false, add_zero, hsame]
        exact hiff
  · obtain ⟨hmatched, hregisters⟩ := hk.handled x hx
    refine ⟨hmatched, fun hone reply hreply => ?_⟩
    obtain ⟨row, hrow, hverify⟩ := hregisters hone reply hreply
    obtain ⟨row', hrow', he⟩ := hevolves.cred _ row hrow
    refine ⟨row', hrow', ?_⟩
    rw [he.ed25519]
    exact hverify

lemma Kept.step (hP : Lawful P) (hk : h.Kept P cfg) (e : HandlerEvent) (hdrawn : ∀ j ∈ e.drawn, Server.Generated P j) :
    (h.step P cfg e).Kept P cfg := by
  cases e with
  | tick fresh successor now => exact hk.tick (hdrawn successor List.mem_cons_self) fresh now
  | others conn =>
    refine hk.continues ⟨rfl, rfl, fun a ha => List.mem_append_left _ ha⟩ hk.named fun x hx => Or.inl hx
  | receive d frame =>
    rw [Handler.step]
    split
    · rename_i hidle
      exact hk.receive hidle d frame
    · exact hk
  | name =>
    rw [Handler.step]
    split
    · exact hk.name _
    · exact hk
  | sign =>
    rw [Handler.step]
    split
    · rename_i hstage
      exact hk.sign hP hstage
    · exact hk

lemma kept_start {conn : Connection} (hr : conn.state.Rotating cfg) (ha : conn.state.Able P) :
    (start conn).Kept P cfg :=
  ⟨hr, ha, nofun, nofun, fun _ _ hp => (by cases hp), nofun⟩

lemma kept_run (hP : Lawful P) (hk : h.Kept P cfg) (events : List HandlerEvent)
    (hdrawn : ∀ j ∈ events.flatMap HandlerEvent.drawn, Server.Generated P j) :
    (run (Handler.step P cfg) h events).Kept P cfg := by
  have halong : Along (Handler.step P cfg) (fun _ e => ∀ j ∈ e.drawn, Server.Generated P j) h events :=
    along_of_forall (fun e he _ j hj => hdrawn j (List.mem_flatMap.mpr ⟨e, he, hj⟩)) h
  exact halong.invariant (fun _ e he hk => hk.step hP e he) hk

lemma Kept.handled_iff (hk : h.Kept P cfg) {x : FinishedRequest} (hx : x ∈ h.handled) :
    x.OneVersion ∧ x.Registered P h.conn.state ↔ x.Undisturbed := by
  obtain ⟨hmatched, hregisters⟩ := hk.handled x hx
  have hiff : x.OneVersion ↔ x.Undisturbed :=
    forall₂_congr fun a ha => forall₂_congr fun b hb => hmatched a ha b hb
  rw [← hiff]
  exact and_iff_left_of_imp hregisters

end Steps

end Handler

theorem replies_signed_iff (P : Primitives) (hP : Lawful P) (cfg : ServerConfig) (db : Database)
    (keyFile : Option KeyMap) (before : List OwnerOp) (k : PrivateKeys) (now : ℤ) (conn : Connection)
    (events : List HandlerEvent) (hdb : db.loadEngine cfg.params cfg.serverUuid = none)
    (hconn : conn.state = ServerState.owned P cfg db keyFile (before ++ [.ensureLoaded k now]))
    (hdrawn : ∀ j ∈ before.flatMap OwnerOp.drawn ++ k :: events.flatMap HandlerEvent.drawn, Server.Generated P j) :
    let h := run (Handler.step P cfg) (.start conn) events
    ∀ x ∈ h.handled, (x.OneVersion ∧ x.Registered P h.conn.state) ↔ x.Undisturbed := by
  intro h x hx
  have hheld := ServerState.held_run P cfg db keyFile hdb before fun j hj => hdrawn j (List.mem_append_left _ hj)
  have hk : Server.Generated P k := hdrawn k (List.mem_append_right _ List.mem_cons_self)
  obtain ⟨s, hload, hrunning⟩ := hheld.ensureLoaded hk now
  have hstate : conn.state = s := by
    rw [hconn, ServerState.owned, run_append]
    exact congrArg Prod.snd hload
  rw [← hstate] at hrunning
  have hkept := Handler.kept_run hP (Handler.kept_start hrunning.alive.rotating hrunning.able) events
    fun j hj => hdrawn j (List.mem_append_right _ (List.mem_cons_of_mem k hj))
  exact hkept.handled_iff hx

section Demo

def rotatingConnection : Connection where
  state := ServerState.owned tagged frontServer (Database.reached tagged {} Database.enrolledRun) none
    ([] ++ [.ensureLoaded (demoKeys 1) 1000])
  auth := .new defaultReplayCacheSize
  objects := .empty
  permissions := Table.empty

def demoRequest : HandlerEvent :=
  .receive demoDraw ⟨channelRelay, ((Authenticator.demoEnvelope 0).encode).toOption.getD []⟩

def calmEvents : List HandlerEvent :=
  [.tick (demoKeys 0) (demoKeys 2) 44200, demoRequest, .name, .sign]

-- the successor takes over after the reply has got its version
def promotedEvents : List HandlerEvent :=
  [.tick (demoKeys 0) (demoKeys 2) 44200, demoRequest, .name, .tick (demoKeys 0) (demoKeys 3) 87400, .sign]

lemma generated_promotedEvents :
    ∀ j ∈ ([] : List OwnerOp).flatMap OwnerOp.drawn ++ demoKeys 1 :: promotedEvents.flatMap HandlerEvent.drawn,
      Server.Generated tagged j := by
  decide +kernel

theorem calm_reply_signed :
    ∃ x ∈ (run (Handler.step tagged frontServer) (.start rotatingConnection) calmEvents).handled,
      x.OneVersion ∧ x.Registered tagged
        (run (Handler.step tagged frontServer) (.start rotatingConnection) calmEvents).conn.state := by
  have hcalm : ((run (Handler.step tagged frontServer) (.start rotatingConnection) calmEvents).handled.any
      fun x => x.Undisturbed) = true := by decide +kernel
  obtain ⟨x, hx, hundisturbed⟩ := List.any_eq_true.mp hcalm
  refine ⟨x, hx, (replies_signed_iff tagged lawful_tagged frontServer (Database.reached tagged {}
    Database.enrolledRun) none [] (demoKeys 1) 1000 rotatingConnection calmEvents rfl rfl ?_ x hx).mpr
    (of_decide_eq_true hundisturbed)⟩
  decide +kernel

lemma unregistered {P : Primitives} {state : ServerState} {x : FinishedRequest}
    (h : (x.reply.any fun reply => (state.identity.engine.get reply.senderCredentialVersion).any fun row =>
      decide (reply.verify P row.ed25519Public ≠ .ok ())) = true) : ¬ x.Registered P state := by
  obtain ⟨reply, hreply, hany⟩ := (Option.any_eq_true _ _).mp h
  obtain ⟨row, hrow, hfails⟩ := (Option.any_eq_true _ _).mp hany
  intro hregistered
  obtain ⟨row', hrow', hverify⟩ := hregistered reply hreply
  obtain rfl := Option.some.inj (hrow.symm.trans hrow')
  exact of_decide_eq_true hfails hverify

lemma promotedEvents_split :
    let h := run (Handler.step tagged frontServer) (.start rotatingConnection) promotedEvents
    (h.handled.any fun x => x.reply.any fun reply =>
      (h.conn.state.identity.engine.get reply.senderCredentialVersion).any fun row =>
        decide (reply.verify tagged row.ed25519Public ≠ .ok ())) = true := by
  decide +kernel

theorem promotion_splits_reply :
    ¬ ∀ (P : Primitives) (cfg : ServerConfig) (db : Database) (keyFile : Option KeyMap)
      (before : List OwnerOp) (k : PrivateKeys) (now : ℤ) (conn : Connection) (events : List HandlerEvent),
      Lawful P → db.loadEngine cfg.params cfg.serverUuid = none →
      conn.state = ServerState.owned P cfg db keyFile (before ++ [.ensureLoaded k now]) →
      (∀ j ∈ before.flatMap OwnerOp.drawn ++ k :: events.flatMap HandlerEvent.drawn, Server.Generated P j) →
      let h := run (Handler.step P cfg) (.start conn) events
      ∀ x ∈ h.handled, x.OneVersion ∧ x.Registered P h.conn.state := by
  intro h
  obtain ⟨x, hx, hsplit⟩ := List.any_eq_true.mp promotedEvents_split
  exact unregistered hsplit (h tagged frontServer (Database.reached tagged {} Database.enrolledRun) none []
    (demoKeys 1) 1000 rotatingConnection promotedEvents lawful_tagged rfl rfl generated_promotedEvents x hx).2

end Demo

end Secupload.System
