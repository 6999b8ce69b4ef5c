import Secupload.Library.Segments
import Secupload.Shared.Codec
import Secupload.Shared.Framing

/-! Frames over a socket: the bytes that `send_frame` writes, and `recv_frame`, which takes them
from a stream in whatever segments they arrive. -/

namespace Secupload.Shared

open Library

-- TimeoutError, or another OSError with its text
inductive RecvFault
  | timedOut
  | failed (message : String)
  deriving DecidableEq

abbrev Wire := Transport RecvFault UInt8

def frameHeaderSize : ℕ := 1 + 4

def recvRaised : Option RecvFault → Exn
  | none => .frameError "connection closed by peer"
  | some .timedOut => .frameError "recv timed out"
  | some (.failed message) => .frameError ("recv failed: " ++ message)

-- the bytes that `send_frame` gives to `sendall`
def frameBytes (frame : Frame) : Except Exn Bytes := do
  let frame ← sendFrame frame.channel frame.payload
  let channel ← packUInt 1 frame.channel
  let length ← packUInt 4 frame.payload.length
  return channel ++ length ++ frame.payload

def sendFrames : List Frame → Except Exn Bytes
  | [] => .ok []
  | frame :: frames => do
    let sent ← frameBytes frame
    let later ← sendFrames frames
    return sent ++ later

section Receiving

variable (T : Wire)

def recvExact (n : ℕ) (s : T.Socket) : Outcome T.Socket Bytes := T.recvLoop recvRaised n [] s

def recvFrame (s : T.Socket) : Outcome T.Socket Frame :=
  (recvExact T frameHeaderSize s).bind fun header s =>
    let channel := unpackUInt (header.take 1)
    let length := unpackUInt (header.drop 1)
    if maxFrameSize < length then (.error (.frameError "frame too large"), s)
    else (recvExact T length.toNat s).bind fun payload s => (.ok ⟨channel, payload⟩, s)

end Receiving

def closedByPeer (_ : Bytes) : Exn := recvRaised none

def framePayload (header : Bytes) : Decoder Frame :=
  if maxFrameSize < unpackUInt (header.drop 1) then throw (.frameError "frame too large")
  else do
    let payload ← takeN closedByPeer (unpackUInt (header.drop 1)).toNat
    return ⟨unpackUInt (header.take 1), payload⟩

def parseFrame : Decoder Frame := do
  let header ← takeN closedByPeer frameHeaderSize
  framePayload header

section Frames

variable {frame : Frame} {data rest w : Bytes}

lemma frameBytes_eq_ok : frameBytes frame = .ok w ↔ frame.payload.length ≤ maxFrameSize ∧
    ∃ channel length, packUInt 1 frame.channel = .ok channel ∧
      packUInt 4 frame.payload.length = .ok length ∧ w = channel ++ length ++ frame.payload := by
  rw [frameBytes, sendFrame]
  by_cases hlarge : maxFrameSize < frame.payload.length
  · rw [if_pos hlarge]
    refine iff_of_false (fun h => ?_) fun h => absurd h.1 (not_le.mpr hlarge)
    cases h
  · rw [if_neg hlarge, except_ok_bind]
    simp only [except_bind_eq_ok, not_lt.mp hlarge, true_and]
    constructor
    · rintro ⟨channel, hchannel, length, hlength, h⟩
      exact ⟨channel, length, hchannel, hlength, (Except.ok.inj h).symm⟩
    · rintro ⟨channel, length, hchannel, hlength, rfl⟩
      exact ⟨channel, hchannel, length, hlength, rfl⟩

lemma frameBytes_length (h : frameBytes frame = .ok w) : w.length = frameHeaderSize + frame.payload.length := by
  obtain ⟨_, channel, length, hchannel, hlength, rfl⟩ := frameBytes_eq_ok.mp h
  rw [List.length_append, List.length_append, packUInt_length hchannel, packUInt_length hlength, frameHeaderSize]

lemma packUInt_unpackUInt (bs : Bytes) : packUInt bs.length (unpackUInt bs) = .ok bs := by
  have hlt := beValue_lt bs
  rw [packUInt, unpackUInt, if_pos ⟨Int.natCast_nonneg _, by exact_mod_cast hlt⟩, Int.toNat_natCast,
    beBytes_beValue]

lemma unpackUInt_nonneg (bs : Bytes) : 0 ≤ unpackUInt bs := Int.natCast_nonneg _

lemma framePayload_eq_ok {header : Bytes} (hheader : header.length = frameHeaderSize) :
    (framePayload header).run data = .ok (frame, rest) ↔
      frameBytes frame = .ok (header ++ frame.payload) ∧ data = frame.payload ++ rest := by
  rw [frameHeaderSize] at hheader
  rw [framePayload, frameBytes_eq_ok]
  constructor
  · intro h
    by_cases hlarge : (maxFrameSize : ℤ) < unpackUInt (header.drop 1)
    · rw [if_pos hlarge] at h
      cases h
    · rw [if_neg hlarge, parser_bind_eq_ok] at h
      obtain ⟨payload, mid, htake, hpure⟩ := h
      obtain ⟨hlen, rfl, rfl⟩ := takeN_eq_ok.mp htake
      obtain ⟨rfl, rfl⟩ := parser_pure_eq_ok.mp hpure
      have hsize : ((data.take (unpackUInt (header.drop 1)).toNat).length : ℤ) = unpackUInt (header.drop 1) := by
        rw [List.length_take, min_eq_left hlen, Int.toNat_of_nonneg (unpackUInt_nonneg _)]
      have hchannel := packUInt_unpackUInt (header.take 1)
      have hlength := packUInt_unpackUInt (header.drop 1)
      have htake1 : (header.take 1).length = 1 := by
        rw [List.length_take]
        omega
      have hdrop1 : (header.drop 1).length = 4 := by
        rw [List.length_drop]
        omega
      rw [htake1] at hchannel
      rw [hdrop1] at hlength
      refine ⟨⟨?_, header.take 1, header.drop 1, hchannel, ?_, ?_⟩, (List.take_append_drop _ _).symm⟩
      · dsimp only
        omega
      · dsimp only
        rw [hsize]
        exact hlength
      · rw [List.take_append_drop]
  · rintro ⟨⟨hmax, channel, length, hchannel, hlength, hbytes⟩, rfl⟩
    obtain rfl : header = channel ++ length := List.append_cancel_right hbytes
    have htake : (channel ++ length).take 1 = channel := by
      rw [← packUInt_length hchannel, List.take_left]
    have hdrop : (channel ++ length).drop 1 = length := by
      rw [← packUInt_length hchannel, List.drop_left]
    rw [htake, hdrop, unpack_packUInt hchannel, unpack_packUInt hlength, if_neg (by omega), parser_bind_eq_ok]
    refine ⟨frame.payload, rest, takeN_eq_ok.mpr ?_, parser_pure_eq_ok.mpr ⟨rfl, rfl⟩⟩
    rw [Int.toNat_natCast, List.take_left, List.drop_left, List.length_append]
    exact ⟨Nat.le_add_right _ _, rfl, rfl⟩

lemma parseFrame_eq_ok : parseFrame.run data = .ok (frame, rest) ↔
    ∃ w, frameBytes frame = .ok w ∧ data = w ++ rest := by
  rw [parseFrame, parser_bind_eq_ok]
  constructor
  · rintro ⟨header, mid, hheader, hframe⟩
    obtain ⟨hlen, rfl, rfl⟩ := takeN_eq_ok.mp hheader
    obtain ⟨hsent, hmid⟩ := (framePayload_eq_ok (by rw [List.length_take, min_eq_left hlen])).mp hframe
    refine ⟨_, hsent, ?_⟩
    rw [List.append_assoc, ← hmid, List.take_append_drop]
  · rintro ⟨w, hw, rfl⟩
    have hsize := frameBytes_length hw
    obtain ⟨_, channel, length, hchannel, hlength, rfl⟩ := frameBytes_eq_ok.mp hw
    have hheader : (channel ++ length).length = frameHeaderSize := by
      rw [List.length_append, packUInt_length hchannel, packUInt_length hlength, frameHeaderSize]
    refine ⟨channel ++ length, frame.payload ++ rest, takeN_eq_ok.mpr ?_, (framePayload_eq_ok hheader).mpr ⟨hw, rfl⟩⟩
    rw [← hheader, List.append_assoc, List.take_left, List.drop_left]
    refine ⟨?_, rfl, rfl⟩
    simp only [List.length_append]
    omega

lemma reads_frame (h : frameBytes frame = .ok w) : Reads parseFrame w frame := by
  intro rest
  exact parseFrame_eq_ok.mpr ⟨w, h, rfl⟩

lemma parseFrame_cut (h : frameBytes frame = .ok w) {cut more : Bytes} (hcut : w = cut ++ more)
    (hmore : more ≠ []) : ∃ exc, parseFrame.run cut = .error exc := by
  cases hparse : parseFrame.run cut with
  | error exc => exact ⟨exc, rfl⟩
  | ok r =>
    obtain ⟨v, hv, rfl⟩ := parseFrame_eq_ok.mp hparse
    have hread := reads_frame hv (r.2 ++ more)
    rw [← List.append_assoc, ← hcut, (reads_frame h).run] at hread
    have hrest := congrArg Prod.snd (Except.ok.inj hread)
    exact (hmore (List.append_eq_nil_iff.mp hrest.symm).2).elim

lemma parseFrame_nil : ∃ exc, parseFrame.run [] = .error exc := ⟨_, rfl⟩

lemma sendFrames_cons {frames : List Frame} : sendFrames (frame :: frames) = .ok data ↔
    ∃ w later, frameBytes frame = .ok w ∧ sendFrames frames = .ok later ∧ data = w ++ later := by
  rw [sendFrames]
  simp only [except_bind_eq_ok]
  constructor
  · rintro ⟨w, hw, later, hlater, h⟩
    exact ⟨w, later, hw, hlater, (Except.ok.inj h).symm⟩
  · rintro ⟨w, later, hw, hlater, rfl⟩
    exact ⟨w, hw, later, hlater, rfl⟩

lemma sendFrames_ok {frames : List Frame} : (∃ data, sendFrames frames = .ok data) ↔
    ∀ frame ∈ frames, 0 ≤ frame.channel ∧ frame.channel < 256 ∧ frame.payload.length ≤ maxFrameSize := by
  induction frames with
  | nil => exact iff_of_true ⟨[], rfl⟩ (fun _ h => by cases h)
  | cons frame frames ih =>
    rw [List.forall_mem_cons, ← ih]
    have hframe : (∃ w, frameBytes frame = .ok w) ↔
        0 ≤ frame.channel ∧ frame.channel < 256 ∧ frame.payload.length ≤ maxFrameSize := by
      constructor
      · rintro ⟨w, hw⟩
        obtain ⟨hmax, channel, length, hchannel, _⟩ := frameBytes_eq_ok.mp hw
        obtain ⟨hlo, hhi⟩ := packUInt_isOk.mp ⟨channel, hchannel⟩
        exact ⟨hlo, hhi, hmax⟩
      · rintro ⟨hlo, hhi, hmax⟩
        obtain ⟨channel, hchannel⟩ := (packUInt_isOk (n := 1)).mpr ⟨hlo, by omega⟩
        have hfits : (frame.payload.length : ℤ) < 256 ^ 4 := by
          rw [maxFrameSize] at hmax
          omega
        obtain ⟨length, hlength⟩ := packUInt_isOk.mpr ⟨Int.natCast_nonneg _, hfits⟩
        exact ⟨_, frameBytes_eq_ok.mpr ⟨hmax, channel, length, hchannel, hlength, rfl⟩⟩
    rw [← hframe]
    constructor
    · rintro ⟨data, h⟩
      obtain ⟨w, later, hw, hlater, _⟩ := sendFrames_cons.mp h
      exact ⟨⟨w, hw⟩, later, hlater⟩
    · rintro ⟨⟨w, hw⟩, later, hlater⟩
      exact ⟨w ++ later, sendFrames_cons.mpr ⟨w, later, hw, hlater, rfl⟩⟩

end Frames

def Contained (frames : List Frame) (stream : Bytes) (whole : List Frame) : Prop :=
  ∀ pre, pre <+: whole ↔ pre <+: frames ∧ ∃ w, sendFrames pre = .ok w ∧ w <+: stream

section Streams

variable {frames : List Frame} {data : Bytes}

lemma exists_contained (h : sendFrames frames = .ok data) (k : ℕ) :
    ∃ whole words rest exc, Contained frames (data.take k) whole ∧
      data.take k = words.flatten ++ rest ∧ sendFrames whole = .ok words.flatten ∧
      List.Forall₂ (Reads parseFrame) words whole ∧ parseFrame.run rest = .error exc := by
  induction frames generalizing data k with
  | nil =>
    obtain rfl := Except.ok.inj h
    obtain ⟨exc, hexc⟩ := parseFrame_nil
    refine ⟨[], [], [], exc, fun pre => ?_, by simp, rfl, .nil, hexc⟩
    constructor
    · intro hpre
      obtain rfl := List.prefix_nil.mp hpre
      exact ⟨hpre, [], rfl, List.nil_prefix⟩
    · exact And.left
  | cons frame frames ih =>
    obtain ⟨w, later, hw, hlater, rfl⟩ := sendFrames_cons.mp h
    by_cases hk : k < w.length
    · have hcut : (w ++ later).take k = w.take k := List.take_append_of_le_length hk.le
      have hmore : w.drop k ≠ [] := by
        rw [← List.length_pos_iff, List.length_drop]
        omega
      obtain ⟨exc, hexc⟩ := parseFrame_cut hw (List.take_append_drop k w).symm hmore
      refine ⟨[], [], w.take k, exc, fun pre => ?_, hcut, rfl, .nil, hexc⟩
      rw [hcut]
      constructor
      · intro hpre
        obtain rfl := List.prefix_nil.mp hpre
        exact ⟨List.nil_prefix, [], rfl, List.nil_prefix⟩
      · rintro ⟨hpre, v, hv, hbegins⟩
        cases pre with
        | nil => exact List.nil_prefix
        | cons g pre =>
          obtain ⟨rfl, _⟩ := List.cons_prefix_cons.mp hpre
          obtain ⟨w', later', hw', _, rfl⟩ := sendFrames_cons.mp hv
          obtain rfl := Except.ok.inj (hw.symm.trans hw')
          have hlength := hbegins.length_le
          rw [List.length_append, List.length_take] at hlength
          omega
    · obtain ⟨whole, words, rest, exc, hcontained, hstream, hsent, hreads, hexc⟩ := ih hlater (k - w.length)
      have hcut : (w ++ later).take k = w ++ later.take (k - w.length) := by
        rw [List.take_append, List.take_of_length_le (not_lt.mp hk)]
      refine ⟨frame :: whole, w :: words, rest, exc, fun pre => ?_, ?_, ?_, .cons (reads_frame hw) hreads, hexc⟩
      · rw [hcut]
        cases pre with
        | nil => exact iff_of_true List.nil_prefix ⟨List.nil_prefix, [], rfl, List.nil_prefix⟩
        | cons g pre =>
          rw [List.cons_prefix_cons, List.cons_prefix_cons, hcontained pre]
          constructor
          · rintro ⟨rfl, hpre, v, hv, hbegins⟩
            exact ⟨⟨rfl, hpre⟩, w ++ v, sendFrames_cons.mpr ⟨w, v, hw, hv, rfl⟩,
              (List.prefix_append_right_inj w).mpr hbegins⟩
          · rintro ⟨⟨rfl, hpre⟩, v, hv, hbegins⟩
            obtain ⟨w', later', hw', hlater', rfl⟩ := sendFrames_cons.mp hv
            obtain rfl := Except.ok.inj (hw.symm.trans hw')
            exact ⟨rfl, hpre, later', hlater', (List.prefix_append_right_inj w).mp hbegins⟩
      · rw [hcut, hstream, List.flatten_cons, List.append_assoc]
      · exact sendFrames_cons.mpr ⟨w, words.flatten, hw, hsent, List.flatten_cons⟩

end Streams

section Readers

variable (T : Wire)

lemma follows_recvFrame : T.Follows (recvFrame T) parseFrame := by
  refine (follows_recvLoop T recvRaised frameHeaderSize closedByPeer).bind
    (fun header s => if maxFrameSize < unpackUInt (header.drop 1) then
        (.error (.frameError "frame too large"), s)
      else (recvExact T (unpackUInt (header.drop 1)).toNat s).bind
        fun payload s => (.ok ⟨unpackUInt (header.take 1), payload⟩, s)) (fun header => ?_)
    (fun s header s' h => ?_) (fun s exc s' h => ?_)
  · rw [framePayload]
    by_cases hlarge : (maxFrameSize : ℤ) < unpackUInt (header.drop 1)
    · simp only [hlarge, if_true]
      exact follows_throw _ _
    · simp only [hlarge, if_false]
      refine (follows_recvLoop T recvRaised _ closedByPeer).bind _ (fun payload => follows_pure _)
        (fun s payload s' h => ?_) (fun s exc s' h => ?_)
      · rw [recvExact, h]
        rfl
      · rw [recvExact, h]
        rfl
  · rw [recvFrame, recvExact, h]
    rfl
  · rw [recvFrame, recvExact, h]
    rfl

variable {T} {s s' : T.Socket}

lemma recvExact_raises {n : ℕ} {exc : Exn} (h : recvExact T n s = (.error exc, s')) :
    ∃ message, exc = .frameError message := by
  obtain ⟨fault, rfl⟩ := recvLoop_raised h
  rcases fault with _ | _ | message
  · exact ⟨_, rfl⟩
  · exact ⟨_, rfl⟩
  · exact ⟨_, rfl⟩

lemma Outcome.bind_eq_error {σ α β : Type} {r : Outcome σ α} {f : α → σ → Outcome σ β} {exc : Exn} {s : σ}
    (h : r.bind f = (.error exc, s)) : r = (.error exc, s) ∨ ∃ a t, r = (.ok a, t) ∧ f a t = (.error exc, s) := by
  obtain ⟨exc' | a, t⟩ := r
  · obtain ⟨hexc, rfl⟩ := Prod.mk.inj h
    obtain rfl := Except.error.inj hexc
    exact Or.inl rfl
  · exact Or.inr ⟨a, t, rfl, h⟩

lemma recvFrame_raises {exc : Exn} (h : recvFrame T s = (.error exc, s')) :
    ∃ message, exc = .frameError message := by
  rcases Outcome.bind_eq_error h with h | ⟨header, mid, _, h⟩
  · exact recvExact_raises h
  · dsimp only at h
    split_ifs at h
    · exact ⟨_, (Except.error.inj (congrArg Prod.fst h)).symm⟩
    · rcases Outcome.bind_eq_error h with h | ⟨payload, last, _, h⟩
      · exact recvExact_raises h
      · cases congrArg Prod.fst h

lemma recvFrame_large {header rest : Bytes} (hs : T.pending s = header ++ rest)
    (hheader : header.length = frameHeaderSize) (hlarge : (maxFrameSize : ℤ) < unpackUInt (header.drop 1)) :
    ∃ s', recvFrame T s = (.error (.frameError "frame too large"), s') ∧ T.pending s' = rest := by
  obtain ⟨s', hread, hrest⟩ := (follows_recvLoop T recvRaised frameHeaderSize closedByPeer s).1 header rest
    (takeN_eq_ok.mpr (by
      rw [hs, ← hheader, List.take_left, List.drop_left, List.length_append]
      exact ⟨Nat.le_add_right _ _, rfl, rfl⟩))
  refine ⟨s', ?_, hrest⟩
  rw [recvFrame, recvExact, hread, Outcome.ok_bind]
  exact if_pos hlarge

end Readers

def frameReader (T : Wire) : Reader T Exn Frame where
  read := recvFrame T
  consumes := by
    intro s frame s' h
    obtain ⟨w, hw, hs⟩ := parseFrame_eq_ok.mp ((follows_recvFrame T).parsed h)
    have hlength := frameBytes_length hw
    rw [frameHeaderSize] at hlength
    rw [hs, List.length_append]
    omega

def recvFrames (T : Wire) (s : T.Socket) : List Frame × Option Exn :=
  (frameReader T).loop (fun frames frame => some (frames ++ [frame])) [] s

section Runs

variable {frames : List Frame} {data : Bytes} {k : ℕ}

lemma loop_contained (h : sendFrames frames = .ok data) (k : ℕ) :
    ∃ whole sent, Contained frames (data.take k) whole ∧ sendFrames whole = .ok sent ∧
      ∀ (T : Wire) (s : T.Socket), T.pending s = data.take k → ∀ {τ : Type} (body : τ → Frame → Option τ) (t : τ),
        ((frameReader T).loop body t s).1 = (through body t whole).1 ∧
          ((frameReader T).loop body t s).2.isSome = (through body t whole).2 := by
  obtain ⟨whole, words, rest, exc, hcontained, hstream, hsent, hreads, hexc⟩ := exists_contained h k
  refine ⟨whole, words.flatten, hcontained, hsent, fun T s hs τ body t => ?_⟩
  exact Reader.loop_eq (r := frameReader T) (follows_recvFrame T) hreads hexc t (hs.trans hstream)

lemma recvFrames_through {T : Wire} {s : T.Socket} {whole : List Frame}
    (h : (recvFrames T s).1 = whole ∧ (recvFrames T s).2.isSome = true) :
    ∃ message, recvFrames T s = (whole, some (.frameError message)) := by
  obtain ⟨exc, hexc⟩ := Option.isSome_iff_exists.mp h.2
  obtain ⟨s₁, s₂, hraises⟩ := Reader.loop_raised hexc
  obtain ⟨message, rfl⟩ := recvFrame_raises hraises
  exact ⟨message, Prod.ext h.1 hexc⟩

end Runs

end Secupload.Shared
