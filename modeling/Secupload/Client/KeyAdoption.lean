import Secupload.Client.ResponseAuthenticity
import Secupload.Shared.CredentialState

namespace Secupload.Client

open Library Shared

def announced (response : ResponseMessage) : ServerKeyState :=
  ⟨response.serverKeyVersion, response.serverEd25519Public, response.serverX25519Public⟩

structure Authorized (P : Primitives) (serverUuid : Uuid) (tracked : ServerKeyState)
    (response : ResponseMessage) : Prop where
  newer : tracked.version < response.serverKeyVersion
  names : response.serverPrevVersion = tracked.version
  signature : ∃ payload, encodeSuccessorPayload serverUuid tracked.version response.serverKeyVersion
      response.serverEd25519Public response.serverX25519Public [] = .ok payload ∧
    verifyEd25519 P tracked.ed25519Public payload response.serverSuccessorSignature = .ok ()

section Adoption

variable (P : Primitives) (cfg : ClientConfig)

def Call.response? (call : Call) (s : ClientSession) : Option ResponseMessage :=
  match call.operation with
  | .request _ | .sendChunk _ _ _ =>
    match ((call.exchange P cfg).send s).1, call.reply with
    | .ok _, some frame =>
      (do parseResponseMessage (← s.decryptRelayResponse P (← relayEnvelope frame))).toOption
    | _, _ => none
  | _ => none

namespace ClientSession

def Chained (s : ClientSession) (call : Call) : Prop :=
  (s.step P cfg call).serverKeys ≠ s.serverKeys → ∃ response, call.response? P cfg s = some response ∧
    (s.step P cfg call).serverKeys = announced response ∧
    Authorized P cfg.serverUuid s.serverKeys response

def Announces (s : ClientSession) (call : Call) : Prop :=
  ∀ response, call.response? P cfg s = some response → response.serverKeyVersion ≠ 0 →
    announced response ≠ s.serverKeys → Authorized P cfg.serverUuid s.serverKeys response

variable {P cfg} {s : ClientSession}

lemma recvRelayResponse_serverKeys (env : Envelope) :
    (s.recvRelayResponse P env).2.serverKeys =
      match (do parseResponseMessage (← s.decryptRelayResponse P env) : Except Exn _).toOption with
      | none => s.serverKeys
      | some response =>
        if response.serverKeyVersion ≠ 0 then announced response else s.serverKeys := by
  rw [recvRelayResponse]
  cases (do parseResponseMessage (← s.decryptRelayResponse P env) : Except Exn _) with
  | error exc => rfl
  | ok response =>
    change (s.adoptPiggyback response).serverKeys = _
    rw [adoptPiggyback]
    split
    · rename_i hnew
      exact (if_pos hnew).symm
    · rename_i hsame
      exact (if_neg hsame).symm

lemma perform_serverKeys {x : Exchange} {reply : Option Frame}
    (hsend : ∀ s, (x.send s).2.serverKeys = s.serverKeys)
    (huse : ∀ s env, (x.use s env).2.serverKeys = s.serverKeys) :
    (x.perform s reply).2.serverKeys = s.serverKeys := by
  rw [Exchange.perform, Outcome.bind]
  split
  · exact hsend s
  · split
    · exact hsend s
    · rw [Exchange.receive]
      split
      · exact hsend s
      · rw [huse, hsend]

lemma relay_serverKeys {x : Exchange} {reply : Option Frame} (hsend : ∀ s, (x.send s).2 = s)
    (henvelope : x.envelope = relayEnvelope)
    (huse : ∀ s env, x.use s env = s.recvRelayResponse P env) :
    (x.perform s reply).2.serverKeys =
      match (match (x.send s).1, reply with
        | .ok _, some frame =>
          (do parseResponseMessage (← s.decryptRelayResponse P (← relayEnvelope frame)) :
            Except Exn _).toOption
        | _, _ => none) with
      | none => s.serverKeys
      | some response =>
        if response.serverKeyVersion ≠ 0 then announced response else s.serverKeys := by
  have hs := hsend s
  rw [Exchange.perform, Outcome.bind]
  generalize x.send s = sending at hs ⊢
  rcases sending with ⟨_ | sent, waiting⟩
  · exact congrArg ClientSession.serverKeys hs
  · obtain rfl : waiting = s := hs
    cases reply with
    | none => rfl
    | some frame =>
      dsimp only
      rw [Exchange.receive, henvelope]
      cases relayEnvelope frame with
      | error exc => rfl
      | ok env =>
        dsimp only [except_ok_bind]
        rw [huse, recvRelayResponse_serverKeys]

lemma requestChunk_serverKeys (d : Draw) (objectUuid : Uuid) (chunkIndex : ℤ)
    (reply : Option Frame) :
    ((requestChunk P cfg d objectUuid chunkIndex).perform s reply).2.serverKeys = s.serverKeys :=
  perform_serverKeys (fun _ => rfl) fun _ _ => rfl

lemma syncRegistry_serverKeys (d : Draw) (kind : IdentityKind) (reply : Option Frame) :
    ((syncRegistry P cfg d kind).perform s reply).2.serverKeys = s.serverKeys :=
  perform_serverKeys (fun _ => rfl) fun _ _ => rfl

lemma rotate_serverKeys (d : Draw) (reply : Option Frame) :
    ((rotate P cfg d).perform s reply).2.serverKeys = s.serverKeys := by
  apply perform_serverKeys
  · intro s
    simp only [rotate]
    split <;> rfl
  · intro s env
    simp only [rotate]
    split
    · rfl
    · split
      · split <;> rfl
      · rfl

lemma checkpointRotation_serverKeys (d : Draw) (reply : Option Frame) :
    ((checkpointRotation P cfg d).perform s reply).2.serverKeys = s.serverKeys := by
  apply perform_serverKeys
  · exact fun _ => rfl
  · intro s env
    simp only [checkpointRotation]
    split
    · rfl
    · split <;> rfl

lemma rollbackRotation_serverKeys (d : Draw) (reply : Option Frame) :
    ((rollbackRotation P cfg d).perform s reply).2.serverKeys = s.serverKeys := by
  apply perform_serverKeys
  · exact fun _ => rfl
  · intro s env
    simp only [rollbackRotation]
    split
    · rfl
    · split <;> rfl

lemma response?_none {call : Call} (hrequest : ∀ msg, call.operation ≠ .request msg)
    (hchunk : ∀ objectUuid chunkIndex data, call.operation ≠ .sendChunk objectUuid chunkIndex data) :
    call.response? P cfg s = none := by
  rw [Call.response?]
  split
  · rename_i msg hop
    exact (hrequest msg hop).elim
  · rename_i objectUuid chunkIndex data hop
    exact (hchunk objectUuid chunkIndex data hop).elim
  · rfl

lemma step_serverKeys (call : Call) : (s.step P cfg call).serverKeys =
    match call.response? P cfg s with
    | none => s.serverKeys
    | some response =>
      if response.serverKeyVersion ≠ 0 then announced response else s.serverKeys := by
  obtain ⟨operation, d, reply⟩ := call
  cases operation with
  | request msg =>
    exact relay_serverKeys (x := request P cfg d msg) (fun _ => rfl) rfl fun _ _ => rfl
  | sendChunk objectUuid chunkIndex data =>
    exact relay_serverKeys (x := sendChunk P cfg d objectUuid chunkIndex data) (fun _ => rfl) rfl
      fun _ _ => rfl
  | requestChunk objectUuid chunkIndex =>
    rw [response?_none (by simp) (by simp), step, Call.exchange]
    dsimp only
    exact requestChunk_serverKeys d objectUuid chunkIndex reply
  | syncRegistry kind =>
    rw [response?_none (by simp) (by simp)]
    exact syncRegistry_serverKeys d kind reply
  | rotate =>
    rw [response?_none (by simp) (by simp)]
    exact rotate_serverKeys d reply
  | checkpointRotation =>
    rw [response?_none (by simp) (by simp)]
    exact checkpointRotation_serverKeys d reply
  | rollbackRotation =>
    rw [response?_none (by simp) (by simp)]
    exact rollbackRotation_serverKeys d reply

lemma chained_iff (call : Call) : s.Chained P cfg call ↔ s.Announces P cfg call := by
  rw [Chained, Announces, step_serverKeys]
  cases call.response? P cfg s with
  | none => exact iff_of_true (fun h => (h rfl).elim) (fun _ h => by cases h)
  | some response =>
    dsimp only
    constructor
    · intro h response' hresponse hnew hother
      obtain rfl := Option.some.inj hresponse
      rw [if_pos hnew] at h
      obtain ⟨_, hsame, _, hauthorized⟩ := h hother
      exact Option.some.inj hsame ▸ hauthorized
    · intro h
      split
      · rename_i hnew
        intro hother
        exact ⟨response, rfl, rfl, h response rfl hnew hother⟩
      · exact fun hother => (hother rfl).elim

end ClientSession

end Adoption

namespace ClientSession

theorem adoption_chained_iff (P : Primitives) (cfg : ClientConfig) (s : ClientSession)
    (calls : List Call) :
    Along (step P cfg) (Chained P cfg) s calls ↔ Along (step P cfg) (Announces P cfg) s calls :=
  along_congr (fun _ call => chained_iff call) s calls

-- the forged response names no previous version and carries no signature
theorem unsigned_keys_adopted :
    ¬ ∀ (P : Primitives) (cfg : ClientConfig) (s : ClientSession) (calls : List Call),
      s.serverKeys.version ≠ 0 → Along (step P cfg) (Chained P cfg) s calls := by
  intro h
  have hchained := (h transparent demoClient demoSession [forgedCall] (by decide)).1
  have hread : forgedCall.response? transparent demoClient demoSession =
      some { serverKeyVersion := 7 } := by
    decide +kernel
  obtain ⟨response, hresponse, _, hauthorized⟩ := hchained (by decide +kernel)
  obtain rfl := Option.some.inj (hread.symm.trans hresponse)
  exact absurd hauthorized.names (by decide)

end ClientSession

end Secupload.Client
