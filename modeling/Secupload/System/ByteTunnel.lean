import Secupload.Library.ServeLoop
import Secupload.Proxy.FrameRelay
import Secupload.System.RelayedProgress
import Secupload.System.Service

/-! The way of a client's bytes through the proxy to the server's loop, and of the replies back:
whatever the segments, and wherever the connections break, it is the way of whole frames. -/

namespace Secupload.System

open Library Shared Client Server Proxy

-- the loop of `run`: the frames it has handled, and the bytes it has written
structure ServerLoop where
  conn : Connection
  handled : ℕ
  written : Bytes

section Serving

-- what the server draws for each frame, and whether its socket takes the reply
variable (P : Primitives) (scfg : ServerConfig) (draws : ℕ → Server.Draw) (sent : ℕ → Bool)

def serveFrame (t : ServerLoop) (frame : Frame) : ServerLoop × Bool :=
  match t.conn.handleFrame P scfg (draws t.handled) frame with
  | (.error _, conn) => (⟨conn, t.handled + 1, t.written⟩, false)
  | (.ok reply, conn) =>
    match frameBytes reply with
    | .error _ => (⟨conn, t.handled + 1, t.written⟩, false)
    | .ok data =>
      if sent t.handled then (⟨conn, t.handled + 1, t.written ++ data⟩, true)
      else (⟨conn, t.handled + 1, t.written⟩, false)

def serveBytes (T : Wire) (conn : Connection) (s : T.Socket) : ServerLoop :=
  (frameReader T).serve (serveFrame P scfg draws sent) ⟨conn, 0, []⟩ s

def serveFrames : ℕ → Connection → List Frame → Connection × List Frame
  | _, conn, [] => (conn, [])
  | i, conn, frame :: frames =>
    match conn.handleFrame P scfg (draws i) frame with
    | (.error _, conn) => (conn, [])
    | (.ok reply, conn) =>
      if sent i then
        let (conn, replies) := serveFrames (i + 1) conn frames
        (conn, reply :: replies)
      else (conn, [])

end Serving

section Frames

variable {P : Primitives} {scfg : ServerConfig} {draws : ℕ → Server.Draw} {sent : ℕ → Bool}

lemma frameBytes_of_send {channel : ℤ} {payload : Bytes} {frame : Frame}
    (hchannel : 0 ≤ channel ∧ channel < 256) (h : sendFrame channel payload = .ok frame) :
    ∃ data, frameBytes frame = .ok data := by
  have hsize : payload.length ≤ maxFrameSize := by
    rw [sendFrame] at h
    split_ifs at h with hlarge
    exact not_lt.mp hlarge
  obtain rfl := sendFrame_eq_ok h
  obtain ⟨data, hdata⟩ : ∃ data, sendFrames [⟨channel, payload⟩] = .ok data :=
    sendFrames_ok.mpr (by simpa using ⟨hchannel.1, hchannel.2, hsize⟩)
  obtain ⟨w, _, hw, _, _⟩ := sendFrames_cons.mp hdata
  exact ⟨w, hw⟩

lemma handleFrame_bytes {conn : Connection} {d : Server.Draw} {frame reply : Frame}
    (h : (conn.handleFrame P scfg d frame).1 = .ok reply) : ∃ data, frameBytes reply = .ok data := by
  rw [Connection.handleFrame] at h
  split_ifs at h with hcontrol hrelay
  · dsimp only at h
    rw [Tunnel2Server.handleControl, Outcome.bind] at h
    split at h
    · cases h
    · obtain ⟨data, _, hsend⟩ := except_bind_eq_ok.mp h
      exact frameBytes_of_send (by decide) hsend
  · rw [Connection.handleRelay] at h
    split at h
    · cases h
    · obtain ⟨response, _, h⟩ : ∃ response, _ := except_bind_eq_ok.mp h
      obtain ⟨reply, _, h⟩ := except_bind_eq_ok.mp h
      obtain ⟨data, _, hsend⟩ := except_bind_eq_ok.mp h
      exact frameBytes_of_send (by decide) hsend

lemma served_frames (frames : List Frame) (conn : Connection) (i : ℕ) (written : Bytes) :
    ∃ data n, sendFrames (serveFrames P scfg draws sent i conn frames).2 = .ok data ∧
      serveAll (serveFrame P scfg draws sent) ⟨conn, i, written⟩ frames =
        ⟨(serveFrames P scfg draws sent i conn frames).1, n, written ++ data⟩ := by
  induction frames generalizing conn i written with
  | nil => exact ⟨[], i, rfl, by rw [serveAll, serveFrames, List.append_nil]⟩
  | cons frame frames ih =>
    rw [serveAll, serveFrames, serveFrame]
    cases hhandle : conn.handleFrame P scfg (draws i) frame with
    | mk result conn' =>
      cases result with
      | error exc => exact ⟨[], i + 1, rfl, by simp⟩
      | ok reply =>
        obtain ⟨w, hw⟩ := handleFrame_bytes (congrArg Prod.fst hhandle)
        simp only [hw]
        by_cases hsent : sent i = true
        · obtain ⟨data, n, hdata, hserved⟩ := ih conn' (i + 1) (written ++ w)
          simp only [hsent, if_true]
          refine ⟨w ++ data, n, sendFrames_cons.mpr ⟨w, data, hw, hdata, rfl⟩, ?_⟩
          rw [hserved, List.append_assoc]
        · simp only [hsent, Bool.false_eq_true, if_false]
          exact ⟨[], i + 1, rfl, by simp⟩

lemma serveFrames_run (i : ℕ) (conn : Connection) (frames : List Frame) :
    ∃ n ≤ frames.length, (serveFrames P scfg draws sent i conn frames).1 =
      run (serve P scfg) conn ((frames.take n).mapIdx fun j frame => .frame frame (draws (i + j))) := by
  induction frames generalizing i conn with
  | nil => exact ⟨0, le_rfl, rfl⟩
  | cons frame frames ih =>
    have hone : ∀ conn', conn' = (conn.handleFrame P scfg (draws i) frame).2 →
        conn' = run (serve P scfg) conn
          (((frame :: frames).take 1).mapIdx fun j frame => .frame frame (draws (i + j))) :=
      fun conn' h => h
    rw [serveFrames]
    cases hhandle : conn.handleFrame P scfg (draws i) frame with
    | mk result conn' =>
      rw [hhandle] at hone
      cases result with
      | error exc => exact ⟨1, Nat.le_add_left _ _, hone conn' rfl⟩
      | ok reply =>
        dsimp only
        split_ifs with hsent
        · obtain ⟨n, hn, hrun⟩ := ih (i + 1) conn'
          refine ⟨n + 1, Nat.succ_le_succ hn, ?_⟩
          have hstep : serve P scfg conn (.frame frame (draws i)) = conn' := congrArg Prod.snd hhandle
          rw [hrun, List.take_succ_cons, List.mapIdx_cons, run_cons, add_zero, hstep]
          simp only [add_assoc, add_comm 1]
        · exact ⟨1, Nat.le_add_left _ _, hone conn' rfl⟩

end Frames

def Taken (stream : Bytes) (frames : List Frame) : Prop :=
  ∀ (T : Wire) (s : T.Socket), T.pending s = stream →
    ∃ message, recvFrames T s = (frames, some (.frameError message))

def Whole (stream : Bytes) (frames : List Frame) : Prop :=
  ∃ words rest exc, stream = words.flatten ++ rest ∧ sendFrames frames = .ok words.flatten ∧
    List.Forall₂ (Reads parseFrame) words frames ∧ parseFrame.run rest = .error exc

section Streams

variable {stream : Bytes} {frames : List Frame}

lemma exists_whole (stream : Bytes) : ∃ frames, Whole stream frames := by
  have hconsumes : ∀ s frame rest, parseFrame.run s = .ok (frame, rest) →
      ∃ word, s = word ++ rest ∧ word ≠ [] ∧ Reads parseFrame word frame := by
    intro s frame rest h
    obtain ⟨word, hword, hs⟩ := parseFrame_eq_ok.mp h
    have hlength := frameBytes_length hword
    rw [frameHeaderSize] at hlength
    exact ⟨word, hs, List.length_pos_iff.mp (by omega), reads_frame hword⟩
  obtain ⟨words, frames, rest, exc, hstream, hreads, hexc⟩ := exists_words hconsumes stream
  refine ⟨frames, words, rest, exc, hstream, ?_, hreads, hexc⟩
  clear hstream
  induction hreads with
  | nil => rfl
  | @cons word frame words frames hword _ ih =>
    have hread := hword []
    rw [List.append_nil, parseFrame_eq_ok] at hread
    obtain ⟨w, hw, hsame⟩ := hread
    rw [List.append_nil] at hsame
    exact sendFrames_cons.mpr ⟨word, words.flatten, hsame ▸ hw, ih, List.flatten_cons⟩

lemma Whole.taken (h : Whole stream frames) : Taken stream frames := by
  obtain ⟨words, rest, exc, hstream, _, hreads, hexc⟩ := h
  intro T s hs
  have hloop : (recvFrames T s).1 = (through (fun frames frame => some (frames ++ [frame])) [] frames).1 ∧
      (recvFrames T s).2.isSome = (through (fun frames frame => some (frames ++ [frame])) [] frames).2 :=
    Reader.loop_eq (follows_recvFrame T) hreads hexc [] (hs.trans hstream)
  rw [through_append, List.nil_append] at hloop
  exact recvFrames_through hloop

lemma Whole.cut (h : sendFrames frames = .ok stream) (k : ℕ) :
    ∃ arrived, Contained frames (stream.take k) arrived ∧ Whole (stream.take k) arrived := by
  obtain ⟨whole, words, rest, exc, hcontained, hstream, hsent, hreads, hexc⟩ := exists_contained h k
  exact ⟨whole, hcontained, words, rest, exc, hstream, hsent, hreads, hexc⟩

lemma Whole.pumped (h : Whole stream frames) (P : Primitives)
    (validator : Option (ℕ → RegistryCache × ℤ)) :
    ∃ passed data, UpToRejected (validate P validator) frames passed ∧ sendFrames passed = .ok data ∧
      ∀ (T : Wire) (s : T.Socket), T.pending s = stream → pump P validator T s [] = data := by
  obtain ⟨words, rest, exc, hstream, hsent, hreads, hexc⟩ := h
  obtain ⟨passed, data, hpassed, hdata, hthrough⟩ := pump_copies P validator hsent []
  refine ⟨passed, data, hpassed, hdata, fun T s hs => ?_⟩
  have hloop : ((frameReader T).loop (pumpFrame P validator) (0, []) s).1 =
      (through (pumpFrame P validator) (0, []) frames).1 :=
    (Reader.loop_eq (follows_recvFrame T) hreads hexc (0, []) (hs.trans hstream)).1
  rw [pump, hloop, hthrough, List.nil_append]

lemma Whole.served (h : Whole stream frames) (P : Primitives) (scfg : ServerConfig)
    (draws : ℕ → Server.Draw) (sent : ℕ → Bool) (conn : Connection) :
    ∃ data, sendFrames (serveFrames P scfg draws sent 0 conn frames).2 = .ok data ∧
      ∀ (T : Wire) (s : T.Socket), T.pending s = stream →
        (serveBytes P scfg draws sent T conn s).conn = (serveFrames P scfg draws sent 0 conn frames).1 ∧
        (serveBytes P scfg draws sent T conn s).written = data := by
  obtain ⟨words, rest, exc, hstream, _, hreads, hexc⟩ := h
  obtain ⟨data, n, hdata, hserved⟩ := served_frames (P := P) frames conn 0 []
  refine ⟨data, hdata, fun T s hs => ?_⟩
  rw [serveBytes, Reader.serve_eq (follows_recvFrame T) hreads hexc _ (hs.trans hstream), hserved]
  exact ⟨rfl, rfl⟩

lemma passed_all {P : Primitives} {passed : List Frame}
    (h : UpToRejected (validate P none) frames passed) : passed = frames := by
  obtain ⟨hbegins, _, hrejected⟩ := h
  refine hbegins.eq_of_length_le (not_lt.mp fun hlt => ?_)
  exact hrejected _ (List.getElem?_eq_getElem hlt) rfl

end Streams

theorem bytes_relayed (P : Primitives) (scfg : ServerConfig) (looks : ℕ → RegistryCache × ℤ)
    (draws : ℕ → Server.Draw) (sent : ℕ → Bool) (conn : Connection) (stream : Bytes) (k₁ k₂ k₃ : ℕ) :
    ∃ frames arrived back passed received, Taken stream frames ∧
      (∃ n ≤ arrived.length, (serveFrames P scfg draws sent 0 conn arrived).1 =
        run (serve P scfg) conn ((arrived.take n).mapIdx fun j frame => .frame frame (draws j))) ∧
      ∀ (T₁ T₂ T₃ : Wire) (s₁ : T₁.Socket) (s₂ : T₂.Socket) (s₃ : T₃.Socket),
        T₁.pending s₁ = stream →
        T₂.pending s₂ = (pump P none T₁ s₁ []).take k₁ →
        T₃.pending s₃ = (serveBytes P scfg draws sent T₂ conn s₂).written.take k₂ →
        Contained frames (T₂.pending s₂) arrived ∧
        (serveBytes P scfg draws sent T₂ conn s₂).conn =
          (serveFrames P scfg draws sent 0 conn arrived).1 ∧
        Contained (serveFrames P scfg draws sent 0 conn arrived).2 (T₃.pending s₃) back ∧
        UpToRejected (validate P (some looks)) back passed ∧
        Contained passed ((pump P (some looks) T₃ s₃ []).take k₃) received ∧
        Taken ((pump P (some looks) T₃ s₃ []).take k₃) received := by
  obtain ⟨frames, hframes⟩ := exists_whole stream
  obtain ⟨all, toServer, hall, hsent, hpumped⟩ := hframes.pumped P none
  obtain rfl := passed_all hall
  obtain ⟨arrived, harrived, hwhole⟩ := Whole.cut hsent k₁
  obtain ⟨written, hwritten, hserved⟩ := hwhole.served P scfg draws sent conn
  obtain ⟨back, hback, hreplies⟩ := Whole.cut hwritten k₂
  obtain ⟨passed, toClient, hpassed, hreturned, hvalidated⟩ := hreplies.pumped P (some looks)
  obtain ⟨received, hreceived, hlast⟩ := Whole.cut hreturned k₃
  obtain ⟨n, hn, hrun⟩ := serveFrames_run (P := P) 0 conn arrived
  simp only [zero_add] at hrun
  refine ⟨_, arrived, back, passed, received, hframes.taken, ⟨n, hn, hrun⟩, ?_⟩
  intro T₁ T₂ T₃ s₁ s₂ s₃ h₁ h₂ h₃
  rw [hpumped T₁ s₁ h₁] at h₂
  obtain ⟨hconn, hout⟩ := hserved T₂ s₂ h₂
  rw [hout] at h₃
  rw [hvalidated T₃ s₃ h₃, h₂, h₃]
  exact ⟨harrived, hconn, hback, hpassed, hreceived, hlast.taken⟩

end Secupload.System
