import Secupload.Server.StoreEvents
import Secupload.System.Link

namespace Secupload.Server

open Library Shared

def ObjectStore.Within (st : ObjectStore) : Prop :=
  ∀ o row content, st.objects.get? o = some row → st.content? o = some content →
    (content.length : ℤ) ≤ row.fileSize

namespace Connection

section Definitions

variable (P : Primitives) (cfg : ServerConfig) (conn : Connection) (m : Message)

def RefusedKeeps : Prop :=
  ∀ env exc, m.frame.channel = channelRelay → parseEnvelope m.frame.payload = .ok env →
    env.msgType = MsgType.objChunk.code → (conn.attempt P cfg m.draw env).1 = .error exc →
      ∀ o, (conn.serve P cfg m).objects.kept o = conn.objects.kept o

def Oversized : Prop :=
  ∃ c ∈ conn.arriving P cfg m, ∃ row ∈ conn.objects.objects.get? c.1, row.contentIntegrity = "" ∧
    row.fileSize < (((conn.objects.content? c.1).getD [] ++ c.2.2).length : ℤ)

instance : Decidable (conn.Oversized P cfg m) :=
  inferInstanceAs (Decidable (∃ c ∈ conn.arriving P cfg m, ∃ row ∈ conn.objects.objects.get? c.1, _ ∧ _))

end Definitions

section Steps

variable {P : Primitives} {cfg : ServerConfig} {conn : Connection} {m : Message} {exc : Exn}

lemma refused_oversized {env : Envelope} (horderly : ∀ o, (conn.objects.kept o).Orderly P)
    (hchannel : m.frame.channel = channelRelay) (hparse : parseEnvelope m.frame.payload = .ok env)
    (htype : env.msgType = MsgType.objChunk.code) (hrefused : (conn.attempt P cfg m.draw env).1 = .error exc) :
    (∀ o, (conn.serve P cfg m).objects.kept o = conn.objects.kept o) ∨ conn.Oversized P cfg m := by
  cases harriving : conn.arriving P cfg m with
  | none =>
    rcases attempt_unstored hchannel hparse harriving with hsame | ⟨hother, _⟩
    · refine Or.inl fun o => ?_
      rw [serve_relay hchannel hparse, hsame]
    · exact (hother htype).elim
  | some chunk =>
    obtain ⟨o, chunkIndex, data⟩ := chunk
    obtain ⟨env', _, hparse', _, hattempt, hserve⟩ := attempt_stores harriving
    obtain rfl := Except.ok.inj (hparse.symm.trans hparse')
    rw [hattempt] at hrefused
    rw [hserve]
    cases hrow : conn.objects.objects.get? o with
    | none =>
      rw [storeChunk, ObjectStore.writeChunk, ObjectStore.info, hrow]
      exact Or.inl fun _ => rfl
    | some row =>
      by_cases hopen : row.contentIntegrity = ""
      · refine Or.inr ⟨_, harriving, row, hrow, hopen, ?_⟩
        by_contra hroom
        dsimp only at hroom
        -- the chunk is stored, and the reply is written
        obtain ⟨hfrom, hbound, hshort⟩ := (horderly o).declared row hrow
        obtain ⟨body, hbody, _⟩ := infoResponse_writes row ⟨hfrom, by rw [maxInt64] at hbound; omega⟩ hshort
          (by rw [hopen]; decide)
        have hstored : (conn.storeChunk P o chunkIndex data).1 = .ok row := by
          rw [storeChunk_open hrow hopen]
          split
          · rw [if_neg (by omega)]
          · rfl
        rw [hstored, except_ok_bind, hbody] at hrefused
        cases hrefused
      · rw [storeChunk_finalized hrow hopen]
        exact Or.inl fun _ => rfl

lemma oversized_changes (hwithin : conn.objects.Within) (h : conn.Oversized P cfg m) :
    ¬ conn.RefusedKeeps P cfg m := by
  obtain ⟨⟨o, chunkIndex, data⟩, harriving, row, hrow, hopen, hover⟩ := h
  rw [Option.mem_def] at harriving hrow
  dsimp only at hrow hover
  obtain ⟨env, hchannel, hparse, htype, hattempt, hserve⟩ := attempt_stores harriving
  have hrefused : ∃ exc, (conn.attempt P cfg m.draw env).1 = .error exc := by
    rw [hattempt, storeChunk_open hrow hopen]
    rw [if_pos hover.le, if_pos hover.ne']
    exact ⟨_, rfl⟩
  obtain ⟨exc, hexc⟩ := hrefused
  intro hkeeps
  have hsame := hkeeps env exc hchannel hparse htype hexc o
  rw [hserve, storeChunk_kept hrow hopen] at hsame
  have hcontent : conn.objects.content? o = some ((conn.objects.content? o).getD [] ++ data) :=
    (congrArg Kept.content hsame).symm
  have hle := hwithin o row _ hrow hcontent
  omega

lemma roomy_within (horderly : ∀ o, (conn.objects.kept o).Orderly P) (hwithin : conn.objects.Within)
    (h : ¬ conn.Oversized P cfg m) : (conn.serve P cfg m).objects.Within := by
  intro o row content hrow hcontent
  have hserved : (conn.objects.kept o).Served P o (conn.arriving P cfg m) _ := serve_served conn m o
  generalize hafter : (conn.serve P cfg m).objects.kept o = after at hserved
  have hrow' : after.row = some row := by
    rw [← hafter]
    exact hrow
  have hcontent' : after.content = some content := by
    rw [← hafter]
    exact hcontent
  cases hserved with
  | same => exact hwithin o row content hrow' hcontent'
  | created row' hnew _ _ =>
    have hnone := (horderly o).filed hnew
    rw [hnone] at hcontent'
    cases hcontent'
  | taken row' chunkIndex data hchunk hrow'' hopen =>
    obtain rfl := Option.some.inj hcontent'
    have hroom : ¬ row'.fileSize < (((conn.objects.content? o).getD [] ++ data).length : ℤ) :=
      fun hover => h ⟨_, hchunk, row', hrow'', hopen, hover⟩
    have hsize : row.fileSize = row'.fileSize := by
      obtain rfl := Option.some.inj hrow'
      split <;> rfl
    rw [hsize]
    exact not_lt.mp hroom

end Steps

theorem refusals_keep_iff (P : Primitives) (cfg : ServerConfig) (conn : Connection)
    (hempty : conn.objects = .empty) (evs : List StoreEvent) :
    Along (undergo P cfg) (fun conn ev => ∀ m, ev = .frame m →
        conn.RefusedKeeps P cfg m ∧ (conn.serve P cfg m).objects.Within) conn evs ↔
      Along (undergo P cfg) (fun conn ev => ∀ m, ev = .frame m → ¬ conn.Oversized P cfg m) conn evs := by
  let I (conn : Connection) : Prop := (∀ o, (conn.objects.kept o).Orderly P) ∧ conn.objects.Within
  refine along_iff_of_invariant (I := I) ?_ ?_ ?_ evs
  · rintro conn ev ⟨horderly, hwithin⟩
    refine forall_congr' fun m => imp_congr_right fun _ => ⟨?_, fun hroom => ⟨?_, ?_⟩⟩
    · rintro ⟨hkeeps, _⟩ hover
      exact oversized_changes hwithin hover hkeeps
    · intro env exc hchannel hparse htype hrefused
      exact (refused_oversized horderly hchannel hparse htype hrefused).resolve_right hroom
    · exact roomy_within horderly hwithin hroom
  · rintro conn ev ⟨horderly, hwithin⟩ h
    refine ⟨orderly_undergo ev horderly, ?_⟩
    cases ev with
    | frame m => exact (h m rfl).2
    | others srv permissions => exact hwithin
  · rw [show I conn ↔ (∀ o, (conn.objects.kept o).Orderly P) ∧ conn.objects.Within from Iff.rfl, hempty]
    exact ⟨orderly_empty, nofun⟩

end Connection

end Secupload.Server

namespace Secupload.System

open Library Shared Client Server

section Demo

def sentBy (x : Exchange) (r : Round) : Connection.Message :=
  ⟨r.server, match (x.send demoWorld.session).1 with
    | .ok sent => sent.frame
    | .error _ => ⟨channelRelay, []⟩⟩

-- an object of two bytes is declared, and a chunk of `data` sent for it
def declareThenSend (data : Bytes) : List StoreEvent :=
  [.frame (sentBy (ClientSession.request tagged demoClient (demoRound 1).client
      { op := Op.write.code, objectUuid := some Uuid.nil, fileSize := 2 }) (demoRound 1)),
    .frame (sentBy (ClientSession.sendChunk tagged demoClient (demoRound 2).client Uuid.nil 0 data)
      (demoRound 2))]

-- a chunk for the object that is now finalized, and one for an object without a permission row
def finalizedChunk : Connection.Message :=
  sentBy (ClientSession.sendChunk tagged demoClient (demoRound 3).client Uuid.nil 1 [3]) (demoRound 3)

def forbiddenChunk : Connection.Message :=
  sentBy (ClientSession.sendChunk tagged demoClient (demoRound 4).client (Uuid.repeated 2) 0 [4]) (demoRound 4)

theorem refused_chunks_kept :
    Along (Connection.undergo tagged demoServer) (fun conn ev => ∀ m, ev = .frame m →
      conn.RefusedKeeps tagged demoServer m ∧ (conn.serve tagged demoServer m).objects.Within)
      demoWorld.server (declareThenSend [1, 2] ++ [.frame finalizedChunk, .frame forbiddenChunk]) ∧
    (∃ env ∈ (parseEnvelope finalizedChunk.frame.payload).toOption,
      ((run (Connection.undergo tagged demoServer) demoWorld.server (declareThenSend [1, 2])).attempt tagged
        demoServer finalizedChunk.draw env).1 =
          .error (.objectStoreError "FINALIZED" "object is already finalized")) ∧
    ∃ env ∈ (parseEnvelope forbiddenChunk.frame.payload).toOption,
      ((run (Connection.undergo tagged demoServer) demoWorld.server (declareThenSend [1, 2])).attempt tagged
        demoServer forbiddenChunk.draw env).1 =
          .error (.authorizationError "FORBIDDEN" s!"WRITE on {(Uuid.repeated 2).str} not permitted") := by
  have hroom : Along (Connection.undergo tagged demoServer)
      (fun conn ev => ∀ m, ev = .frame m → ¬ conn.Oversized tagged demoServer m) demoWorld.server
      (declareThenSend [1, 2] ++ [.frame finalizedChunk, .frame forbiddenChunk]) := by
    refine (along_append _ _ _).mpr ⟨⟨?_, ?_, along_nil _⟩, ?_, ?_, along_nil _⟩
    all_goals
      rintro m ⟨⟩
      decide +kernel
  exact ⟨(Connection.refusals_keep_iff tagged demoServer demoWorld.server (by decide +kernel) _).mpr hroom,
    by decide +kernel, by decide +kernel⟩

-- three bytes for an object of two are refused, and stay
theorem refused_chunk_stays :
    ¬ ∀ (P : Primitives) (cfg : ServerConfig) (conn : Connection), conn.objects = .empty →
      ∀ evs : List StoreEvent, Along (Connection.undergo P cfg) (fun conn ev => ∀ m, ev = .frame m →
        conn.RefusedKeeps P cfg m ∧ (conn.serve P cfg m).objects.Within) conn evs := by
  intro h
  obtain ⟨hdeclared, hsent, _⟩ := h tagged demoServer demoWorld.server (by decide +kernel)
    (declareThenSend [1, 2, 3])
  obtain ⟨_, hwithin⟩ := hdeclared _ rfl
  obtain ⟨hkeeps, _⟩ := hsent _ rfl
  exact Connection.oversized_changes hwithin (by decide +kernel) hkeeps

end Demo

end Secupload.System
