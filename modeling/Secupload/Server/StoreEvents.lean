import Secupload.Server.ObjectLife
import Secupload.Shared.Canonical

namespace Secupload.Server

open Library Shared

inductive StoreEvent
  | frame (m : Connection.Message)
  | others (srv : Tunnel2Server) (permissions : Permissions)

namespace Connection

section Definitions

variable (P : Primitives) (cfg : ServerConfig) (conn : Connection) (m : Message)

def arriving : Option (Uuid × ℤ × Bytes) :=
  if m.frame.channel ≠ channelRelay then none
  else
    match parseEnvelope m.frame.payload with
    | .error _ => none
    | .ok env =>
      match conn.auth.authenticate P cfg.params conn.state.db env m.draw.authNow with
      | (.error _, _) => none
      | (.ok _, auth) =>
        if env.msgType = MsgType.objChunk.code then ((conn.withAuth auth).acceptedChunk P env).toOption
        else none

def undergo (conn : Connection) : StoreEvent → Connection
  | .frame m => conn.serve P cfg m
  | .others srv permissions => { conn with toTunnel2Server := srv, permissions }

end Definitions

end Connection

namespace Kept

variable (P : Primitives) (k : Kept)

def taking (row : ObjectInfo) (data : Bytes) : Kept :=
  let content := k.content.getD [] ++ data
  ⟨some (if (content.length : ℤ) = row.fileSize then
      { row with contentIntegrity := ObjectStore.hexdigest P content } else row), some content⟩

def Declared (row : ObjectInfo) : Prop :=
  0 ≤ row.fileSize ∧ row.fileSize < maxInt64 ∧ Short (utf8 row.fileType)

structure Orderly : Prop where
  filed : k.row = none → k.content = none
  declared : ∀ row, k.row = some row → Declared row
  sealed : k.Sealed P

inductive Served (o : Uuid) (chunk : Option (Uuid × ℤ × Bytes)) : Kept → Prop
  | same : Served o chunk k
  | created (row : ObjectInfo) (hnew : k.row = none) (hopen : row.contentIntegrity = "")
    (hdeclared : Declared row) : Served o chunk { k with row := some row }
  | taken (row : ObjectInfo) (chunkIndex : ℤ) (data : Bytes) (hchunk : chunk = some (o, chunkIndex, data))
    (hrow : k.row = some row) (hopen : row.contentIntegrity = "") : Served o chunk (k.taking P row data)

variable {P k} {k' : Kept} {o : Uuid} {chunk : Option (Uuid × ℤ × Bytes)}

lemma Served.orderly (h : k.Served P o chunk k') (ho : k.Orderly P) : k'.Orderly P := by
  cases h with
  | same => exact ho
  | created row hnew hopen hdeclared =>
    refine ⟨nofun, fun row' hrow' => ?_, fun row' hrow' hsealed => ?_⟩
    · obtain rfl := Option.some.inj hrow'
      exact hdeclared
    · obtain rfl := Option.some.inj hrow'
      exact (hsealed hopen).elim
  | taken row chunkIndex data _ hrow hopen =>
    have hdeclared := ho.declared row hrow
    dsimp only [taking]
    split
    · rename_i hfull
      refine ⟨nofun, fun row' hrow' => ?_, fun row' hrow' _ => ?_⟩
      · obtain rfl := Option.some.inj hrow'
        exact hdeclared
      · obtain rfl := Option.some.inj hrow'
        exact ⟨_, rfl, rfl, hfull⟩
    · refine ⟨nofun, fun row' hrow' => ?_, fun row' hrow' hsealed => ?_⟩
      · obtain rfl := Option.some.inj hrow'
        exact hdeclared
      · obtain rfl := Option.some.inj hrow'
        exact (hsealed hopen).elim

lemma Orderly.integrity (h : k.Orderly P) (hsha : ∀ content, (P.sha256 content).length = 32)
    {row : ObjectInfo} (hrow : k.row = some row) : (utf8 row.contentIntegrity).length < 2 ^ 32 := by
  by_cases hopen : row.contentIntegrity = ""
  · rw [hopen]
    decide
  · obtain ⟨content, _, hdigest, _⟩ := h.sealed row hrow hopen
    rw [hdigest, ObjectStore.hexdigest_length hsha]
    decide

def Unfinished : Prop :=
  ∀ row content, k.row = some row → row.contentIntegrity = "" → k.content = some content →
    (content.length : ℤ) ≠ row.fileSize

lemma Served.unfinished (h : k.Served P o chunk k') (ho : k.Orderly P) (hu : k.Unfinished)
    (hdigest : ∀ content, ObjectStore.hexdigest P content ≠ "") : k'.Unfinished := by
  cases h with
  | same => exact hu
  | created row hnew _ _ =>
    intro row' content _ _ hcontent
    have hnone : k.content = none := ho.filed hnew
    rw [show k.content = some content from hcontent] at hnone
    cases hnone
  | taken row chunkIndex data _ _ _ =>
    intro row' content hrow' hopen' hcontent
    obtain rfl := Option.some.inj hrow'
    obtain rfl := Option.some.inj hcontent
    intro hsize
    split at hopen'
    · exact hdigest _ hopen'
    · rename_i hfull
      rw [if_neg hfull] at hsize
      exact hfull hsize

end Kept

namespace Connection

section Frames

variable {P : Primitives} {cfg : ServerConfig} {conn : Connection} {m : Message} {o : Uuid} {chunkIndex : ℤ}
  {data : Bytes} {row : ObjectInfo} {exc : Exn}

lemma arriving_eq_some : conn.arriving P cfg m = some (o, chunkIndex, data) ↔
    ∃ env sender auth, m.frame.channel = channelRelay ∧ parseEnvelope m.frame.payload = .ok env ∧
      conn.auth.authenticate P cfg.params conn.state.db env m.draw.authNow = (.ok sender, auth) ∧
      env.msgType = MsgType.objChunk.code ∧
      (conn.withAuth auth).acceptedChunk P env = .ok (o, chunkIndex, data) := by
  rw [arriving]
  constructor
  · intro h
    split_ifs at h with hchannel
    rw [not_not] at hchannel
    cases hparse : parseEnvelope m.frame.payload with
    | error exc =>
      rw [hparse] at h
      cases h
    | ok env =>
      rw [hparse] at h
      dsimp only at h
      cases hauth : conn.auth.authenticate P cfg.params conn.state.db env m.draw.authNow with
      | mk result auth =>
        rw [hauth] at h
        cases result with
        | error exc => cases h
        | ok sender =>
          dsimp only at h
          split_ifs at h with htype
          cases haccepted : (conn.withAuth auth).acceptedChunk P env with
          | error exc =>
            rw [haccepted] at h
            cases h
          | ok accepted =>
            rw [haccepted] at h
            obtain rfl := Option.some.inj h
            exact ⟨env, sender, auth, hchannel, rfl, hauth, htype, haccepted⟩
  · rintro ⟨env, sender, auth, hchannel, hparse, hauth, htype, haccepted⟩
    rw [if_neg (not_not.mpr hchannel), hparse]
    dsimp only
    rw [hauth]
    dsimp only
    rw [if_pos htype, haccepted]
    rfl

lemma serve_relay {env : Envelope} (hchannel : m.frame.channel = channelRelay)
    (hparse : parseEnvelope m.frame.payload = .ok env) :
    (conn.serve P cfg m).objects = (conn.attempt P cfg m.draw env).2.objects := by
  rw [serve, handleFrame, if_neg (by rw [hchannel]; decide), if_pos hchannel, handleRelay, hparse]

lemma attempt_stores (h : conn.arriving P cfg m = some (o, chunkIndex, data)) :
    ∃ env, m.frame.channel = channelRelay ∧ parseEnvelope m.frame.payload = .ok env ∧
      env.msgType = MsgType.objChunk.code ∧
      (conn.attempt P cfg m.draw env).1 = (do
        return .message (← encodeResponseMessage (infoResponse (← (conn.storeChunk P o chunkIndex data).1)))) ∧
      (conn.serve P cfg m).objects = (conn.storeChunk P o chunkIndex data).2 := by
  obtain ⟨env, sender, auth, hchannel, hparse, hauth, htype, haccepted⟩ := arriving_eq_some.mp h
  have hattempt : conn.attempt P cfg m.draw env =
      ((do return .message (← encodeResponseMessage (infoResponse (← (conn.storeChunk P o chunkIndex data).1)))),
        (conn.withAuth auth).withObjects (conn.storeChunk P o chunkIndex data).2) := by
    rw [attempt, hauth]
    dsimp only
    rw [if_pos htype, handleObjChunk, haccepted]
    rfl
  refine ⟨env, hchannel, hparse, htype, by rw [hattempt], ?_⟩
  rw [serve_relay hchannel hparse, hattempt]
  rfl

lemma dispatch_creates (conn : Connection) (env : Envelope) :
    (conn.dispatch P cfg env).2.objects = conn.objects ∨
      ∃ o fileType fileSize metadata, U64 fileSize ∧ Short (utf8 fileType) ∧
        (conn.dispatch P cfg env).2.objects = (conn.objects.create o fileType fileSize metadata).2 := by
  rw [dispatch]
  split
  · exact Or.inl rfl
  · rename_i request hparsed
    obtain ⟨inner, _, hrequest⟩ := except_bind_eq_ok.mp hparsed
    obtain ⟨_, htype, hsize, _⟩ := RequestMessage.inRange hrequest
    rw [answer]
    split
    · rw [handleWrite]
      split
      · exact Or.inl rfl
      · exact Or.inr ⟨_, request.fileType, request.fileSize, request.metadata, hsize, htype, rfl⟩
    · split
      · exact Or.inl rfl
      · split <;> exact Or.inl rfl

lemma attempt_unstored {env : Envelope} (hchannel : m.frame.channel = channelRelay)
    (hparse : parseEnvelope m.frame.payload = .ok env) (h : conn.arriving P cfg m = none) :
    (conn.attempt P cfg m.draw env).2.objects = conn.objects ∨ env.msgType ≠ MsgType.objChunk.code ∧
      ∃ o fileType fileSize metadata, U64 fileSize ∧ Short (utf8 fileType) ∧
        (conn.attempt P cfg m.draw env).2.objects =
          (conn.objects.create o fileType fileSize metadata).2 := by
  rw [attempt]
  cases hauth : conn.auth.authenticate P cfg.params conn.state.db env m.draw.authNow with
  | mk result auth =>
    cases result with
    | error exc => exact Or.inl rfl
    | ok sender =>
      dsimp only
      split
      · rename_i htype
        rw [handleObjChunk]
        cases haccepted : (conn.withAuth auth).acceptedChunk P env with
        | error exc => exact Or.inl rfl
        | ok accepted =>
          obtain ⟨o, chunkIndex, data⟩ := accepted
          have harriving : conn.arriving P cfg m = some (o, chunkIndex, data) :=
            arriving_eq_some.mpr ⟨env, sender, auth, hchannel, hparse, hauth, htype, haccepted⟩
          rw [h] at harriving
          cases harriving
      · rename_i htype
        exact (dispatch_creates (conn.withAuth auth) env).imp_right fun hcreate => ⟨htype, hcreate⟩

lemma serve_unstored (h : conn.arriving P cfg m = none) :
    (conn.serve P cfg m).objects = conn.objects ∨
      ∃ o fileType fileSize metadata, U64 fileSize ∧ Short (utf8 fileType) ∧
        (conn.serve P cfg m).objects = (conn.objects.create o fileType fileSize metadata).2 := by
  by_cases hchannel : m.frame.channel = channelRelay
  · cases hparse : parseEnvelope m.frame.payload with
    | error exc =>
      rw [serve, handleFrame, if_neg (by rw [hchannel]; decide), if_pos hchannel, handleRelay, hparse]
      exact Or.inl rfl
    | ok env =>
      rw [serve_relay hchannel hparse]
      exact (attempt_unstored hchannel hparse h).imp_right And.right
  · refine Or.inl ?_
    rw [serve, handleFrame]
    split
    · rfl
    · rfl

lemma storeChunk_kept (hrow : conn.objects.objects.get? o = some row) (hopen : row.contentIntegrity = "")
    (chunkIndex : ℤ) (data : Bytes) :
    (conn.storeChunk P o chunkIndex data).2.kept o = (conn.objects.kept o).taking P row data := by
  have hkey : row.objectUuid = o := (Table.get?_eq_some.mp hrow).2
  rw [storeChunk_open hrow hopen]
  dsimp only [Kept.taking, ObjectStore.kept]
  generalize hstored : (conn.objects.content? o).getD [] ++ data = stored
  have hcontent : (conn.objects.appendFile o data).content? o = some stored := by
    rw [ObjectStore.content?_appendFile, hstored]
  have happended : (conn.objects.appendFile o data).objects.get? o = some row := hrow
  by_cases hfull : (stored.length : ℤ) = row.fileSize
  · rw [if_pos hfull, if_pos hfull.ge, if_neg (not_not.mpr hfull)]
    have hset : ((conn.objects.appendFile o data).objects.set
        { row with contentIntegrity := ObjectStore.hexdigest P stored }).get? o =
        some { row with contentIntegrity := ObjectStore.hexdigest P stored } :=
      (Table.get?_set _ _ _).trans (if_pos hkey)
    exact congrArg₂ Kept.mk hset hcontent
  · rw [if_neg hfull]
    split <;> exact congrArg₂ Kept.mk happended hcontent

lemma serve_served (conn : Connection) (m : Message) (o : Uuid) :
    (conn.objects.kept o).Served P o (conn.arriving P cfg m) ((conn.serve P cfg m).objects.kept o) := by
  cases harriving : conn.arriving P cfg m with
  | none =>
    rcases serve_unstored harriving with hsame | ⟨o', fileType, fileSize, metadata, hsize, htype, hcreate⟩
    · rw [hsame]
      exact .same
    · rw [hcreate]
      rcases ObjectStore.create_cases conn.objects o o' fileType fileSize metadata with
        hsame | ⟨hnew, hbound, hcreated⟩
      · rw [hsame]
        exact .same
      · rw [hcreated]
        exact .created _ hnew rfl ⟨hsize.1, hbound, htype⟩
  | some chunk =>
    obtain ⟨o', chunkIndex, data⟩ := chunk
    obtain ⟨_, _, _, _, _, hserve⟩ := attempt_stores harriving
    rw [hserve]
    by_cases heq : o' = o
    · subst heq
      cases hrow : conn.objects.objects.get? o' with
      | none =>
        rw [storeChunk, ObjectStore.writeChunk, ObjectStore.info, hrow]
        exact .same
      | some row =>
        by_cases hopen : row.contentIntegrity = ""
        · rw [storeChunk_kept hrow hopen]
          exact .taken row chunkIndex data rfl hrow hopen
        · rw [storeChunk_finalized hrow hopen]
          exact .same
    · rw [(storeChunk_other heq chunkIndex data).kept]
      exact .same

end Frames

section Runs

variable {P : Primitives} {cfg : ServerConfig} {conn : Connection}

lemma orderly_undergo (ev : StoreEvent)
    (h : ∀ o, (conn.objects.kept o).Orderly P) : ∀ o, ((conn.undergo P cfg ev).objects.kept o).Orderly P := by
  cases ev with
  | frame m => exact fun o => (serve_served conn m o).orderly (h o)
  | others srv permissions => exact h

lemma orderly_empty (o : Uuid) : (ObjectStore.empty.kept o).Orderly P :=
  ⟨fun _ => rfl, nofun, nofun⟩

lemma orderly_run (hempty : conn.objects = .empty) (evs : List StoreEvent) (o : Uuid) :
    ((run (undergo P cfg) conn evs).objects.kept o).Orderly P := by
  refine run_invariant (I := fun conn : Connection => ∀ o, (conn.objects.kept o).Orderly P)
    (fun _ ev => orderly_undergo ev) ?_ evs o
  rw [hempty]
  exact orderly_empty

lemma unfinished_run (hdigest : ∀ content, ObjectStore.hexdigest P content ≠ "")
    (hempty : conn.objects = .empty) (evs : List StoreEvent) (o : Uuid) :
    ((run (undergo P cfg) conn evs).objects.kept o).Unfinished := by
  let I (conn : Connection) : Prop := ∀ o, (conn.objects.kept o).Orderly P ∧ (conn.objects.kept o).Unfinished
  have hrun : I (run (undergo P cfg) conn evs) := by
    refine run_invariant ?_ ?_ evs
    · intro conn ev h o
      refine ⟨orderly_undergo ev (fun o => (h o).1) o, ?_⟩
      cases ev with
      | frame m => exact (serve_served conn m o).unfinished (h o).1 (h o).2 hdigest
      | others srv permissions => exact (h o).2
    · rw [show I conn ↔ ∀ o, (conn.objects.kept o).Orderly P ∧ (conn.objects.kept o).Unfinished from Iff.rfl,
        hempty]
      exact fun o => ⟨orderly_empty o, nofun⟩
  exact (hrun o).2

end Runs

end Connection

end Secupload.Server
