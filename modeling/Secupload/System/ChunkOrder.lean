import Secupload.System.RoundTrip

namespace Secupload.System

open Library Shared Client Server

section Stored

variable (P : Primitives) (o : Uuid)

structure Created (n : ℕ) (st : ObjectStore) : Prop where
  row : ∃ row, st.objects.get? o = some row ∧ row.fileSize = n ∧ row.contentIntegrity = ""
  small : (n : ℤ) < maxInt64
  file : st.content? o = none

structure Holds (content : Bytes) (st : ObjectStore) : Prop where
  info : ∃ row, st.info o = .ok row ∧ row.contentIntegrity = ObjectStore.hexdigest P content
  file : st.readFile o = .ok content
  chunk : ∀ maxOffset, ∀ i < blockCount Server.chunkSize content,
    st.readChunk o maxOffset i Server.chunkSize = .ok (block Server.chunkSize content i)

variable {P o} {n : ℕ} {st st' : ObjectStore} {content : Bytes}

lemma Created.log (h : Created o n st) : st.log o = AppendLog.new := by
  obtain ⟨row, hrow, _, hopen⟩ := h.row
  rw [ObjectStore.log, ObjectStore.finalized_of_get? hrow, hopen, h.file]
  rfl

lemma Created.declares (h : Created o n st) : st.Declares P o n := by
  obtain ⟨row, hrow, hsize, hopen⟩ := h.row
  exact ⟨row, hrow, hsize, fun hne => (hne hopen).elim⟩

lemma readChunk_block (maxOffset : ℕ) (hrow : ∃ row, st.info o = .ok row) (hfile : st.readFile o = .ok content)
    (hsmall : (content.length : ℤ) < maxInt64) {i : ℕ} (hi : i < blockCount Server.chunkSize content) :
    st.readChunk o maxOffset i Server.chunkSize = .ok (block Server.chunkSize content i) := by
  have hlt : i * Server.chunkSize < content.length := (lt_blockCount (by decide)).mp hi
  have hstart : (i : ℤ) * (Server.chunkSize : ℤ) = ((i * Server.chunkSize : ℕ) : ℤ) := (Nat.cast_mul _ _).symm
  obtain ⟨row, hrow⟩ := hrow
  rw [ObjectStore.readChunk, hrow, hfile, except_ok_bind, except_ok_bind, hstart, if_neg (by omega),
    if_neg (by omega), if_neg (by rw [ObjectStore.maxSeek]; omega), Int.toNat_natCast]
  rfl

lemma holds_iff_log (hsha : ∀ content, (P.sha256 content).length = 32)
    (hst : st.Declares P o content.length) (hsmall : (content.length : ℤ) < maxInt64) :
    Holds P o content st ↔ st.log o = ⟨content, true⟩ := by
  obtain ⟨row, hrow, _, hsealed⟩ := hst
  have hinfo := ObjectStore.info_of_get? hrow
  rw [ObjectStore.log, ObjectStore.finalized_of_get? hrow, AppendLog.mk.injEq, decide_eq_true_eq]
  constructor
  · rintro ⟨⟨row', hinfo', hdigest⟩, hfile, _⟩
    obtain rfl : row = row' := Except.ok.inj (hinfo.symm.trans hinfo')
    refine ⟨?_, by rw [hdigest]; exact ObjectStore.hexdigest_ne_empty hsha content⟩
    rw [ObjectStore.readFile] at hfile
    cases hcontent : st.content? o with
    | none =>
      rw [hcontent] at hfile
      cases hfile
    | some stored =>
      rw [hcontent] at hfile
      exact Except.ok.inj hfile
  · rintro ⟨hstored, hclosed⟩
    obtain ⟨stored, hcontent, hdigest⟩ := hsealed hclosed
    rw [hcontent, Option.getD_some] at hstored
    subst hstored
    have hfile : st.readFile o = .ok stored := by rw [ObjectStore.readFile, hcontent]
    exact ⟨⟨row, hinfo, hdigest⟩, hfile, fun maxOffset i hi => readChunk_block maxOffset ⟨row, hinfo⟩ hfile hsmall hi⟩

lemma holds_run_iff (hsha : ∀ content, (P.sha256 content).length = 32) (cfg : ServerConfig)
    {conn : Connection} (hcreated : Created o content.length conn.objects)
    (ms : List Connection.Message) :
    Holds P o content (run (Connection.serve P cfg) conn ms).objects ↔
      ∃ pre post, (conn.arrivals P cfg o ms).map (·.2) = pre ++ post ∧ pre ≠ [] ∧
        pre.flatten = content := by
  obtain ⟨hst, hlog⟩ := Connection.log_run cfg hcreated.declares (ObjectStore.hexdigest_ne_empty hsha) ms
  rw [holds_iff_log hsha hst hcreated.small, hlog, hcreated.log, AppendLog.run_new_eq_iff]

end Stored

section Sent

variable {P : Primitives} {ccfg : ClientConfig} {p : Parties} {w : World} {r : Round}
  {rs : List Round} {o : Uuid}

lemma chunk_sent (scfg : ServerConfig) (hP : Lawful P) (h : Ready P ccfg p w (r :: rs)) (o : Uuid)
    {o' : Uuid} {chunkIndex : ℤ} {chunk : Bytes}
    (hindex : 0 ≤ chunkIndex ∧ chunkIndex < 2 ^ 64) (hsize : 227 + chunk.length ≤ maxFrameSize)
    (hallowed : Allowed w.server.permissions (w.session.identity.identityUuid P ccfg) o' "WRITE") :
    ∃ m objects, w.server.chunkOf P scfg o m = (if o' = o then some (chunkIndex, chunk) else none) ∧
      w.server.serve P scfg m = (hearing P ccfg w r).withObjects objects := by
  obtain ⟨env, data, _, harrives, hopen⟩ :=
    sendChunk_sent hP h.enrolled (h.timely r List.mem_cons_self) o' hindex hsize
  obtain ⟨⟨kind, hauth⟩, htype, haccepted⟩ := chunk_arrives h harrives hopen hallowed
  refine ⟨⟨r.server, ⟨channelRelay, data⟩⟩, ((hearing P ccfg w r).storeChunk P o' chunkIndex chunk).2,
    ?_, ?_⟩
  · rw [Connection.chunkOf, if_neg (not_not.mpr rfl), harrives.parse]
    dsimp only
    rw [hauth]
    dsimp only
    rw [if_pos htype]
    have hheard : w.server.withAuth (hearing P ccfg w r).auth = hearing P ccfg w r := rfl
    rw [hheard, haccepted]
  · rw [Connection.serve, Connection.handleFrame,
      if_neg (by decide : channelRelay ≠ channelControl), if_pos rfl, Connection.handleRelay,
      harrives.parse]
    dsimp only
    rw [attempt_chunk h harrives hopen hallowed]

lemma chunks_sent (scfg : ServerConfig) (hP : Lawful P) (h : Ready P ccfg p w rs) (o : Uuid)
    {cs : List (Uuid × ℤ × Bytes)} (hindex : ∀ c ∈ cs, 0 ≤ c.2.1 ∧ c.2.1 < 2 ^ 64)
    (hsize : ∀ c ∈ cs, 227 + c.2.2.length ≤ maxFrameSize) (hrounds : cs.length ≤ rs.length)
    (hallowed : ∀ c ∈ cs, Allowed w.server.permissions (w.session.identity.identityUuid P ccfg) c.1 "WRITE") :
    ∃ ms, w.server.arrivals P scfg o ms = (cs.filter fun c => decide (c.1 = o)).map (·.2) := by
  induction cs generalizing w rs with
  | nil => exact ⟨[], rfl⟩
  | cons c cs ih =>
    obtain ⟨r, rs, rfl⟩ := List.exists_cons_of_length_pos (Nat.lt_of_lt_of_le Nat.succ_pos' hrounds)
    obtain ⟨m, objects, hchunk, hserve⟩ := chunk_sent scfg hP h o
      (hindex c List.mem_cons_self) (hsize c List.mem_cons_self) (hallowed c List.mem_cons_self)
    obtain ⟨ms, hms⟩ := ih (h.next objects) (fun d hd => hindex d (List.mem_cons_of_mem _ hd))
      (fun d hd => hsize d (List.mem_cons_of_mem _ hd)) (by simpa using hrounds)
      (fun d hd => hallowed d (List.mem_cons_of_mem _ hd))
    refine ⟨m :: ms, ?_⟩
    rw [Connection.arrivals, hchunk, hserve, hms]
    by_cases ho : c.1 = o
    · simp [ho]
    · simp [ho]

end Sent

theorem stored_as_arrived (P : Primitives) (hsha : ∀ content, (P.sha256 content).length = 32)
    (cfg : ServerConfig) (conn : Connection) (o : Uuid) (content : Bytes)
    (hcreated : Created o content.length conn.objects) (ms : List Connection.Message) :
    (Holds P o content (run (Connection.serve P cfg) conn ms).objects ↔
      ∃ pre post, (conn.arrivals P cfg o ms).map (·.2) = pre ++ post ∧ pre ≠ [] ∧
        pre.flatten = content) ∧
    (content ≠ [] → ∀ resent,
      (conn.arrivals P cfg o ms).map (·.2) = blocks Server.chunkSize content ++ resent →
      Holds P o content (run (Connection.serve P cfg) conn ms).objects) := by
  have hiff := holds_run_iff hsha cfg hcreated ms
  refine ⟨hiff, fun hcontent resent harrivals => hiff.mpr ⟨_, resent, harrivals, ?_, ?_⟩⟩
  · intro hnil
    have hcount := congrArg List.length hnil
    rw [blocks, List.length_map, List.length_range] at hcount
    exact blockCount_ne_zero (by decide) hcontent hcount
  · exact flatten_blocks (by decide)

section Demo

def declared (n : ℕ) : ObjectStore :=
  ((ObjectStore.empty.create (Uuid.repeated 2) "" 1 "").2.create Uuid.nil "" n "").2

lemma created_declared {n : ℕ} (h : (n : ℤ) < maxInt64) : Created Uuid.nil n (declared n) := by
  rw [declared]
  have hnone : ((ObjectStore.empty.create (Uuid.repeated 2) "" 1 "").2.objects.get? Uuid.nil).isSome = false ∧
      (ObjectStore.empty.create (Uuid.repeated 2) "" 1 "").2.content? Uuid.nil = none := by decide +kernel
  rw [ObjectStore.create, if_neg (by rw [hnone.1]; decide), if_neg (by omega)]
  exact ⟨⟨_, (Table.get?_set _ _ _).trans (if_pos rfl), rfl, rfl⟩, h, hnone.2⟩

def bothWritable : Permissions :=
  .ofRows [⟨demoIdentity, Uuid.nil, "WRITE", "ALLOW"⟩, ⟨demoIdentity, Uuid.repeated 2, "WRITE", "ALLOW"⟩]

lemma allowed_both {o : Uuid} (h : o = Uuid.nil ∨ o = Uuid.repeated 2) :
    Allowed bothWritable (demoWorld.session.identity.identityUuid tagged demoClient) o "WRITE" := by
  refine ⟨⟨demoIdentity, o, "WRITE", "ALLOW"⟩, ?_, rfl⟩
  rcases h with rfl | rfl
  · decide +kernel
  · decide +kernel

def declaring (n : ℕ) : World :=
  { demoWorld with
    server := { demoWorld.server.withObjects (declared n) with permissions := bothWritable } }

lemma sent_to_demo (n : ℕ) (cs : List (Uuid × ℤ × Bytes)) (hindex : ∀ c ∈ cs, 0 ≤ c.2.1 ∧ c.2.1 < 2 ^ 64)
    (hsize : ∀ c ∈ cs, 227 + c.2.2.length ≤ maxFrameSize) (hrounds : cs.length ≤ 7)
    (hobject : ∀ c ∈ cs, c.1 = Uuid.nil ∨ c.1 = Uuid.repeated 2) :
    ∃ ms, (declaring n).server.arrivals tagged demoServer Uuid.nil ms =
      (cs.filter fun c => decide (c.1 = Uuid.nil)).map (·.2) := by
  have hready : Ready tagged demoClient demoParties (declaring n) demoRounds :=
    ⟨ready_demo.enrolled, ready_demo.timely, ready_demo.fresh, ready_demo.unseen⟩
  exact chunks_sent demoServer lawful_tagged hready Uuid.nil hindex hsize hrounds
    fun c hc => allowed_both (hobject c hc)

-- a chunk of another object comes between the two, and the second is sent once more
theorem resent_chunks_stored : ∃ ms,
    (declaring 65537).server.arrivals tagged demoServer Uuid.nil ms =
      [(0, List.replicate Server.chunkSize 0), (1, [1]), (1, [1])] ∧
    Holds tagged Uuid.nil twoChunks
      (run (Connection.serve tagged demoServer) (declaring 65537).server ms).objects := by
  obtain ⟨ms, hms⟩ := sent_to_demo 65537
    [(Uuid.nil, 0, List.replicate Server.chunkSize 0), (Uuid.repeated 2, 0, [9]), (Uuid.nil, 1, [1]),
      (Uuid.nil, 1, [1])]
    (by simp) (by simp only [List.forall_mem_cons, List.length_replicate]; decide) (by simp) (by simp)
  have hcreated : Created Uuid.nil twoChunks.length (declaring 65537).server.objects := by
    rw [length_twoChunks]
    exact created_declared (by decide)
  refine ⟨ms, hms, (stored_as_arrived tagged sha256_tagged demoServer (declaring 65537).server Uuid.nil
    twoChunks hcreated ms).2 (List.append_ne_nil_of_right_ne_nil _ (List.cons_ne_nil _ _)) [[1]] ?_⟩
  rw [hms, blocks_twoChunks]
  rfl

-- the last chunk of two arrives first
theorem swapped_chunks_spoiled :
    ¬ ∀ (P : Primitives), (∀ content, (P.sha256 content).length = 32) → ∀ (cfg : ServerConfig)
      (conn : Connection) (o : Uuid) (content : Bytes), Created o content.length conn.objects →
      ∀ ms : List Connection.Message,
      (∀ c ∈ conn.arrivals P cfg o ms, ∃ i < blockCount Server.chunkSize content,
        c = (↑i, block Server.chunkSize content i)) →
      (∀ i < blockCount Server.chunkSize content, ∃ c ∈ conn.arrivals P cfg o ms, c.1 = i) →
      Holds P o content (run (Connection.serve P cfg) conn ms).objects := by
  intro h
  obtain ⟨ms, hms⟩ := sent_to_demo 65537
    [(Uuid.nil, 1, [1]), (Uuid.nil, 0, List.replicate Server.chunkSize 0)]
    (by simp) (by simp only [List.forall_mem_cons, List.length_replicate]; decide) (by simp) (by simp)
  have harrivals : (declaring 65537).server.arrivals tagged demoServer Uuid.nil ms =
      [(1, [1]), (0, List.replicate Server.chunkSize 0)] := hms
  have hcreated : Created Uuid.nil twoChunks.length (declaring 65537).server.objects := by
    rw [length_twoChunks]
    exact created_declared (by decide)
  have hholds := h tagged sha256_tagged demoServer (declaring 65537).server Uuid.nil twoChunks hcreated ms ?_ ?_
  · rw [holds_run_iff sha256_tagged demoServer hcreated, harrivals] at hholds
    obtain ⟨_ | ⟨c, pre⟩, post, happend, hpre, hflatten⟩ := hholds
    · exact hpre rfl
    · obtain rfl : [1] = c := (List.cons.inj happend).1
      have hfirst : twoChunks = 0 :: (List.replicate 65535 0 ++ [1]) := rfl
      rw [hfirst] at hflatten
      exact absurd (List.cons.inj hflatten).1 (by decide)
  · rw [harrivals, blockCount_twoChunks]
    intro c hc
    rcases List.mem_cons.mp hc with rfl | hc
    · exact ⟨1, by decide, by rw [block_twoChunks.2]; rfl⟩
    · obtain rfl := List.mem_singleton.mp hc
      exact ⟨0, by decide, by rw [block_twoChunks.1]; rfl⟩
  · rw [harrivals, blockCount_twoChunks]
    intro i hi
    rcases (show i = 0 ∨ i = 1 by omega) with rfl | rfl
    · exact ⟨(0, List.replicate Server.chunkSize 0), by simp, rfl⟩
    · exact ⟨(1, [1]), by simp, rfl⟩

end Demo

end Secupload.System
