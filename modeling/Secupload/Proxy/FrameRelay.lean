import Secupload.Proxy.Tunnel
import Secupload.Shared.FrameStream

namespace Secupload.Proxy

open Library Shared

section Pump

variable (P : Primitives) (validator : Option (ℕ → RegistryCache × ℤ))

def validate (i : ℕ) (frame : Frame) : Except Exn Unit :=
  match validator with
  | none => .ok ()
  | some looks => check P (looks i).1 (looks i).2 frame

-- the loop of `_pump` after `recv_frame`, with the number of frames and the bytes that `dst` has taken
def pumpFrame (state : ℕ × Bytes) (frame : Frame) : Option (ℕ × Bytes) :=
  match validate P validator state.1 frame with
  | .error _ => none
  | .ok () =>
    match frameBytes frame with
    | .error _ => none
    | .ok data => some (state.1 + 1, state.2 ++ data)

def pump (T : Wire) (src : T.Socket) (dst : Bytes) : Bytes :=
  ((frameReader T).loop (pumpFrame P validator) (0, dst) src).1.2

def frameTurns : ℕ → List Frame → List (Turn Frame)
  | _, [] => [⟨none, true, true⟩]
  | i, frame :: frames =>
    ⟨some frame, decide (validate P validator i frame = .ok ()), true⟩ :: frameTurns (i + 1) frames

end Pump

def UpToRejected (check : ℕ → Frame → Except Exn Unit) (frames passed : List Frame) : Prop :=
  passed <+: frames ∧ (∀ i frame, passed[i]? = some frame → check i frame = .ok ()) ∧
    ∀ frame, frames[passed.length]? = some frame → check passed.length frame ≠ .ok ()

section Pumping

variable {P : Primitives} {validator : Option (ℕ → RegistryCache × ℤ)}

lemma UpToRejected.cons {check : ℕ → Frame → Except Exn Unit} {frame : Frame} {frames passed : List Frame}
    (hfirst : check 0 frame = .ok ()) (h : UpToRejected (fun i => check (i + 1)) frames passed) :
    UpToRejected check (frame :: frames) (frame :: passed) := by
  obtain ⟨hbegins, hpasses, hrejected⟩ := h
  refine ⟨List.cons_prefix_cons.mpr ⟨rfl, hbegins⟩, fun i g hg => ?_, fun g hg => hrejected g hg⟩
  cases i with
  | zero =>
    obtain rfl := Option.some.inj hg
    exact hfirst
  | succ i => exact hpasses i g hg

variable (P validator) in
lemma through_pumpFrame {frames : List Frame} {sent : Bytes} (hsent : sendFrames frames = .ok sent) (i : ℕ)
    (dst : Bytes) : ∃ passed data, UpToRejected (fun j => validate P validator (i + j)) frames passed ∧
      sendFrames passed = .ok data ∧
      (through (pumpFrame P validator) (i, dst) frames).1.2 = dst ++ data ∧
      ∀ out, (run Pump.turn ⟨true, out⟩ (frameTurns P validator i frames)).out = out ++ passed := by
  induction frames generalizing i dst sent with
  | nil =>
    refine ⟨[], [], ⟨List.prefix_refl [], nofun, nofun⟩, rfl, (List.append_nil dst).symm, fun out => ?_⟩
    exact (List.append_nil out).symm
  | cons frame frames ih =>
    obtain ⟨w, later, hw, hlater, rfl⟩ := sendFrames_cons.mp hsent
    rw [through, pumpFrame, frameTurns]
    cases hcheck : validate P validator i frame with
    | error exc =>
      refine ⟨[], [], ⟨List.nil_prefix, nofun, fun g hg => ?_⟩, rfl, (List.append_nil dst).symm, fun out => ?_⟩
      · obtain rfl := Option.some.inj hg
        exact fun hok => by cases hcheck.symm.trans hok
      · rw [run_cons, Pump.turn_stops (Or.inr fun g hg => by cases hg.2.1), Pump.run_out_of_stopped rfl,
          List.append_nil]
    | ok _ =>
      obtain ⟨passed, data, hpassed, hdata, hthrough, hrun⟩ := ih hlater (i + 1) (dst ++ w)
      simp only [hw]
      refine ⟨frame :: passed, w ++ data, .cons hcheck ?_, sendFrames_cons.mpr ⟨w, data, hw, hdata, rfl⟩, ?_,
        fun out => ?_⟩
      · simp only [← add_assoc, Nat.add_right_comm i _ 1]
        exact hpassed
      · rw [hthrough, List.append_assoc]
      · rw [run_cons, Pump.turn_copies rfl ⟨rfl, decide_eq_true trivial, rfl⟩, hrun, List.append_assoc,
          List.singleton_append]

variable (P validator) in
lemma pump_copies {whole : List Frame} {sent : Bytes} (hsent : sendFrames whole = .ok sent) (dst : Bytes) :
    ∃ passed data, UpToRejected (validate P validator) whole passed ∧ sendFrames passed = .ok data ∧
      (through (pumpFrame P validator) (0, dst) whole).1.2 = dst ++ data := by
  obtain ⟨passed, data, hpassed, hdata, hthrough, _⟩ := through_pumpFrame P validator hsent 0 dst
  simp only [zero_add] at hpassed
  exact ⟨passed, data, hpassed, hdata, hthrough⟩

lemma pump_frames {frames : List Frame} {data : Bytes} (h : sendFrames frames = .ok data) (k : ℕ) (T : Wire)
    {src : T.Socket} (hs : T.pending src = data.take k) (dst : Bytes) :
    ∃ whole written, Contained frames (data.take k) whole ∧
      sendFrames (run Pump.turn Pump.start (frameTurns P validator 0 whole)).out = .ok written ∧
        pump P validator T src dst = dst ++ written := by
  obtain ⟨whole, sent, hcontained, hsent, hloop⟩ := loop_contained h k
  obtain ⟨passed, written, _, hwritten, hthrough, hrun⟩ :=
    through_pumpFrame P validator hsent 0 dst
  have hout : (run Pump.turn Pump.start (frameTurns P validator 0 whole)).out = passed := hrun []
  refine ⟨whole, written, hcontained, hout ▸ hwritten, ?_⟩
  rw [pump, (hloop T src hs (pumpFrame P validator) (0, dst)).1, hthrough]

end Pumping

theorem segments_immaterial (P : Primitives) :
    (∀ frames : List Frame, (∀ frame ∈ frames, 0 ≤ frame.channel ∧ frame.channel < 256 ∧
        frame.payload.length ≤ maxFrameSize) →
      ∃ data, sendFrames frames = .ok data ∧ ∀ k, ∃ whole, Contained frames (data.take k) whole ∧
        ∀ (T : Wire) (s : T.Socket), T.pending s = data.take k →
          (∃ message, recvFrames T s = (whole, some (.frameError message))) ∧
          ∀ (validator : Option (ℕ → RegistryCache × ℤ)) (dst : Bytes), ∃ passed written,
            UpToRejected (validate P validator) whole passed ∧ sendFrames passed = .ok written ∧
              pump P validator T s dst = dst ++ written) ∧
    ∀ (T : Wire) (s : T.Socket) (header rest : Bytes), T.pending s = header ++ rest →
      header.length = frameHeaderSize → maxFrameSize < unpackUInt (header.drop 1) →
        ∃ s', recvFrame T s = (.error (.frameError "frame too large"), s') ∧ T.pending s' = rest := by
  refine ⟨fun frames hframes => ?_, fun T s header rest hs hheader hlarge => recvFrame_large hs hheader hlarge⟩
  obtain ⟨data, hdata⟩ := sendFrames_ok.mpr hframes
  refine ⟨data, hdata, fun k => ?_⟩
  obtain ⟨whole, sent, hcontained, hsent, hloop⟩ := loop_contained hdata k
  refine ⟨whole, hcontained, fun T s hs => ⟨?_, fun validator dst => ?_⟩⟩
  · have hall := hloop T s hs (fun frames frame => some (frames ++ [frame])) []
    rw [through_append, List.nil_append] at hall
    exact recvFrames_through hall
  · obtain ⟨passed, written, hpassed, hwritten, hthrough⟩ := pump_copies P validator hsent dst
    refine ⟨passed, written, hpassed, hwritten, ?_⟩
    rw [pump, (hloop T s hs (pumpFrame P validator) (0, dst)).1, hthrough]

section Demo

def demoFrames : List Frame := [⟨0, []⟩, ⟨1, [7, 8]⟩, ⟨1, [9]⟩]

-- the first two frames and one byte of the third, with splits inside both headers
def demoSegments : List Bytes := [[0, 0], [0, 0, 0, 1, 0], [0], [0, 2, 7], [8, 1]]

theorem split_headers_received :
    ∃ whole message, recvFrames (segmented none) demoSegments = (whole, some (.frameError message)) ∧
      [⟨0, []⟩, ⟨1, [7, 8]⟩] <+: whole := by
  obtain ⟨data, hdata, h⟩ := (segments_immaterial tagged).1 demoFrames (by decide)
  obtain rfl := Except.ok.inj ((show sendFrames demoFrames =
    .ok [0, 0, 0, 0, 0, 1, 0, 0, 0, 2, 7, 8, 1, 0, 0, 0, 1, 9] by decide).symm.trans hdata)
  obtain ⟨whole, hcontained, hreceived⟩ := h 13
  obtain ⟨message, hmessage⟩ := (hreceived (segmented none) demoSegments rfl).1
  exact ⟨whole, message, hmessage, (hcontained _).mpr ⟨by decide, _, rfl, by decide⟩⟩

end Demo

end Secupload.Proxy
