import Secupload.Proxy.Tunnel

namespace Secupload.Proxy

open Library Shared

def Event.Ends (src : Side) : Event → Prop
  | .received side input _ sent => side = src ∧ (input = none ∨ sent = false)
  | .updated _ => False

namespace Tunnel

variable (P : Primitives) (validated : Side → Bool)

def Validates (src : Side) (t : Tunnel) (es : List Event) : Prop :=
  ∀ pre frame now sent post, es = pre ++ .received src (some frame) now sent :: post →
    frame.channel = channelRelay →
    let before := run (step P validated) t pre
    let after := step P validated before (.received src (some frame) now sent)
    (∀ env, parseEnvelope frame.payload = .ok env → before.cache.entry env.senderUuid ≠ none →
      (after.pumps src).out = (before.pumps src).out ++ [frame] →
        check P before.cache now frame = .ok ()) ∧
    (check P before.cache now frame ≠ .ok () →
      ((run (step P validated) after post).pumps src).out = (before.pumps src).out)

section Directions

variable {P validated} {src : Side} {t : Tunnel} {es : List Event}

lemma stopped_out (h : (t.pumps src).live = false) :
    ((run (step P validated) t es).pumps src).out = (t.pumps src).out := by
  rw [run_pump]
  exact Pump.run_out_of_stopped h

variable (P validated src t es) in
lemma out_prefix : (t.pumps src).out <+: ((run (step P validated) t es).pumps src).out := by
  rw [run_pump]
  exact Pump.run_out_prefix

lemma turn_copies_iff {frame frame' : Frame} {now : ℤ} {sent : Bool} :
    (t.turn P validated src (some frame) now sent).Copies frame' ↔ frame = frame' ∧
      (validated src = true → check P t.cache now frame = .ok ()) ∧ sent = true := by
  simp only [Turn.Copies, turn, Option.some.injEq, Option.all_some, Bool.or_eq_true,
    Bool.not_eq_true', decide_eq_true_eq]
  cases validated src <;> simp

lemma validates_of_validated (hv : validated src = true) (t : Tunnel) (es : List Event) :
    Validates P validated src t es := by
  intro pre frame now sent post _ _ before after
  constructor
  · intro env _ _ hout
    rw [show after.pumps src = _ from step_received] at hout
    exact (turn_copies_iff.mp (Pump.turn_out hout).2).2.1 hv
  · intro hfails
    have hstops : after.pumps src = ⟨false, (before.pumps src).out⟩ := by
      rw [show after.pumps src = _ from step_received]
      apply Pump.turn_stops
      exact Or.inr fun frame' hcopies => hfails ((turn_copies_iff.mp hcopies).2.1 hv)
    rw [stopped_out (by rw [hstops]), hstops]

lemma turnsOf_copies (hv : validated src = false) {e : Event} :
    (∀ turn ∈ turnsOf P validated src t e, ∃ a, turn.Copies a) ↔ ¬ e.Ends src := by
  cases e with
  | updated entries => simp [turnsOf, Event.Ends]
  | received side input now sent =>
    by_cases hside : side = src
    · subst hside
      cases input with
      | none => simp [turnsOf, Event.Ends, Turn.Copies, turn]
      | some frame => simp [turnsOf, Event.Ends, turn_copies_iff, hv]
    · simp [turnsOf, Event.Ends, hside]

lemma live_iff (hv : validated src = false) :
    ((run (step P validated) t es).pumps src).live = true ↔
      (t.pumps src).live = true ∧ ∀ e ∈ es, ¬ e.Ends src := by
  induction es generalizing t with
  | nil => simp
  | cons e es ih =>
    rw [run_cons, ih, step_pump, Pump.run_live, turnsOf_copies hv, List.forall_mem_cons, and_assoc]

lemma validates_iff_of_unvalidated (hv : validated src = false) (hlive : (t.pumps src).live = true) :
    Validates P validated src t es ↔
      ∀ pre frame now post, es = pre ++ .received src (some frame) now true :: post →
        frame.channel = channelRelay → check P (lastCache t.cache pre) now frame ≠ .ok () →
          ∃ e ∈ pre, e.Ends src := by
  constructor
  · intro h pre frame now post he hrelay hfails
    by_contra hgo
    push Not at hgo
    rw [← run_cache P validated] at hfails
    have hstays := (h pre frame now true post he hrelay).2 hfails
    have hrun := (live_iff (P := P) hv).mpr ⟨hlive, hgo⟩
    have hcopies : ((run (step P validated) t pre).turn P validated src (some frame) now true).Copies
        frame := turn_copies_iff.mpr ⟨rfl, fun hv' => by simp [hv] at hv', rfl⟩
    have hprefix := out_prefix P validated src
      (step P validated (run (step P validated) t pre) (.received src (some frame) now true)) post
    rw [hstays, step_received, Pump.turn_copies hrun hcopies] at hprefix
    have hlength := hprefix.length_le
    simp at hlength
  · intro h pre frame now sent post he hrelay before after
    have hdead : check P before.cache now frame ≠ .ok () →
        ∀ frame', (before.pumps src).live = true →
          ¬ (before.turn P validated src (some frame) now sent).Copies frame' := by
      intro hfails frame' hrun hcopies
      obtain ⟨_, _, rfl⟩ := turn_copies_iff.mp hcopies
      have hcache : before.cache = lastCache t.cache pre := run_cache P validated
      obtain ⟨e, hmem, hends⟩ := h pre frame now post he hrelay (hcache ▸ hfails)
      exact ((live_iff hv).mp hrun).2 e hmem hends
    constructor
    · intro env _ _ hout
      rw [show after.pumps src = _ from step_received] at hout
      obtain ⟨hrun, hcopies⟩ := Pump.turn_out hout
      by_contra hfails
      exact hdead hfails frame hrun hcopies
    · intro hfails
      have hstops : after.pumps src = ⟨false, (before.pumps src).out⟩ := by
        rw [show after.pumps src = _ from step_received]
        apply Pump.turn_stops
        cases hrun : (before.pumps src).live with
        | false => exact Or.inl rfl
        | true => exact Or.inr fun frame' => hdead hfails frame' hrun
      rw [stopped_out (by rw [hstops]), hstops]

end Directions

theorem client_validated_iff (P : Primitives) (cache : RegistryCache) (es : List Event) :
    Validates P handle .client (start cache) es ↔
      ∀ pre frame now post, es = pre ++ .received .client (some frame) now true :: post →
        frame.channel = channelRelay → check P (lastCache cache pre) now frame ≠ .ok () →
          ∃ e ∈ pre, e.Ends .client :=
  validates_iff_of_unvalidated rfl rfl

section Demo

def demoCache : RegistryCache where
  entries :=
    [{ identityUuid := Uuid.nil, version := 1, status := statusToCode .active
       ed25519Public := demoKey 1, x25519Public := demoKey 2, createdAt := 1000
       validationDeadline := 0, activationTime := 1000, expirationTime := 130600 }]

-- a REQUEST of the cached identity that nobody signed
def forgedFrame : Frame where
  channel := channelRelay
  payload := (Envelope.encode
    { msgType := MsgType.request.code, senderUuid := Uuid.nil, recipientUuid := Uuid.nil
      requestId := Uuid.nil, senderCredentialVersion := 1, timestamp := 1000
      nonce := List.replicate 12 0, payload := []
      signature := List.replicate 64 0 }).toOption.getD []

theorem forged_frame_forwarded :
    ¬ ∀ (P : Primitives) (cache : RegistryCache) (es : List Event),
      Validates P handle .client (start cache) es := by
  intro h
  have hvalidates := h transparent demoCache [.received .client (some forgedFrame) 1000 true]
  obtain ⟨e, he, _⟩ := (validates_iff_of_unvalidated rfl rfl).mp hvalidates [] forgedFrame 1000 [] rfl
    rfl (by decide +kernel)
  cases he

end Demo

theorem server_validated (P : Primitives) (cache : RegistryCache) (es : List Event) :
    Validates P handle .server (start cache) es :=
  validates_of_validated rfl (start cache) es

end Tunnel

end Secupload.Proxy
