import Secupload.Library.Clock
import Secupload.Server.OwnRotation
import Secupload.System.Replies

namespace Secupload.System

open Library Shared Client Server
open Shared.RotationEngine (expired demoted get_eq_some mem_of_byStatus get_of_mem)

inductive RelayCall
  | request (msg : RequestMessage)
  | sendChunk (objectUuid : Uuid) (chunkIndex : ℤ) (data : Bytes)
  | requestChunk (objectUuid : Uuid) (chunkIndex : ℤ)

def RelayCall.exchange (P : Primitives) (ccfg : ClientConfig) (d : Client.Draw) : RelayCall → Exchange
  | .request msg => ClientSession.request P ccfg d msg
  | .sendChunk objectUuid chunkIndex data =>
    ClientSession.sendChunk P ccfg d objectUuid chunkIndex data
  | .requestChunk objectUuid chunkIndex => ClientSession.requestChunk P ccfg d objectUuid chunkIndex

inductive Happening (P : Primitives)
  | tick (fresh successor : PrivateKeys)
  | call (c : RelayCall) (fate : Fate) (r : Round) (drawn : Drawn P r)
  | pass

structure Event (P : Primitives) where
  now : ℤ
  happening : Happening P

section Events

variable (P : Primitives) (ccfg : ClientConfig) (scfg : ServerConfig) (w : World)

def happen (w : World) (e : Event P) : World :=
  match e.happening with
  | .tick fresh successor =>
    { w with server := { w.server with
        state := (w.server.state.maybeRotate P scfg fresh successor e.now).2 } }
  | .call c fate r _ => (w.exchange P scfg (c.exchange P ccfg r.client) fate r.server).2
  | .pass => w

def Follows (now : ℤ) : Prop :=
  ∃ c ∈ w.server.state.identity.engine.get w.session.serverKeys.version,
    c.status = .active ∨ c.status = .fallback ∧ expired c now = false

def Promotes (e : Event P) : Prop :=
  match e.happening with
  | .tick _ successor => w.server.state.Promotes P scfg successor e.now
  | _ => False

instance (now : ℤ) : Decidable (Follows w now) :=
  inferInstanceAs (Decidable (∃ c ∈ _, _))

instance : ∀ e : Event P, Decidable (Promotes P scfg w e)
  | ⟨now, .tick _ successor⟩ =>
    inferInstanceAs (Decidable (w.server.state.Promotes P scfg successor now))
  | ⟨_, .call _ _ _ _⟩ => inferInstanceAs (Decidable False)
  | ⟨_, .pass⟩ => inferInstanceAs (Decidable False)

def fallbackUntil (now : ℤ) : ℤ :=
  max ((w.server.state.identity.engine.active.bind (·.expirationTime)).getD 0)
    (now + scfg.params.fallbackPeriod)

def PromotesOnce : World → List (Event P) → Prop
  | _, [] => True
  | w, e :: es =>
    (¬ Promotes P scfg w e → PromotesOnce (happen P ccfg scfg w e) es) ∧
    (Promotes P scfg w e → e.now < fallbackUntil scfg w e.now ∧
      Along (happen P ccfg scfg)
        (fun w' e' => ¬ Promotes P scfg w' e' ∧ e'.now < fallbackUntil scfg w e.now)
        (happen P ccfg scfg w e) es)

instance : ∀ w es, Decidable (PromotesOnce P ccfg scfg w es)
  | _, [] => inferInstanceAs (Decidable True)
  | w, e :: es =>
    have := instDecidablePromotesOnce (happen P ccfg scfg w e) es
    inferInstanceAs (Decidable ((¬ Promotes P scfg w e → _) ∧ (Promotes P scfg w e → _ ∧ Along _ _ _ es)))

def succeeded : Except Exn Answer → Bool
  | .ok (.response msg) => decide (msg.status = RespStatus.ok.code)
  | .ok _ => true
  | .error _ => false

def Succeeds (e : Event P) : Prop :=
  match e.happening with
  | .call c fate r _ => succeeded (w.exchange P scfg (c.exchange P ccfg r.client) fate r.server).1 = true
  | _ => False

instance : ∀ e : Event P, Decidable (Succeeds P ccfg scfg w e)
  | ⟨_, .call c fate r _⟩ => inferInstanceAs
      (Decidable (succeeded (w.exchange P scfg (c.exchange P ccfg r.client) fate r.server).1 = true))
  | ⟨_, .tick _ _⟩ => inferInstanceAs (Decidable False)
  | ⟨_, .pass⟩ => inferInstanceAs (Decidable False)

-- between an event that begins the validation of a successor and one that promotes it, a call of the
-- session succeeds
def ServedWindows (w : World) (es : List (Event P)) : Prop :=
  ∀ pre e mid e' post, es = pre ++ e :: (mid ++ e' :: post) →
    (run (happen P ccfg scfg) w pre).server.state.identity.engine.validating = none →
    (run (happen P ccfg scfg) w (pre ++ [e])).server.state.identity.engine.validating ≠ none →
    Promotes P scfg (run (happen P ccfg scfg) w (pre ++ e :: mid)) e' →
    ∃ mid₁ c mid₂, mid = mid₁ ++ c :: mid₂ ∧
      Succeeds P ccfg scfg (run (happen P ccfg scfg) w (pre ++ e :: mid₁)) c

structure Tracking (cred : CredentialPublic) (keys : PrivateKeys) : Prop where
  paired : Paired P ccfg cred keys w.session w.server.state.db
  apart : w.session.identity.identityUuid P ccfg ≠ scfg.serverUuid
  rotating : w.server.state.Rotating scfg

variable {P ccfg scfg w} {cred : CredentialPublic} {keys : PrivateKeys} {e : Event P}

variable (scfg) in
lemma call_exchange (hP : Lawful P) (h : Tracking P ccfg scfg w cred keys) (c : RelayCall) (fate : Fate)
    {r : Round} (hr : Drawn P r) :
    (w.exchange P scfg (c.exchange P ccfg r.client) fate r.server).2.session = w.session ∧
      (w.exchange P scfg (c.exchange P ccfg r.client) fate r.server).2.server.state =
        w.server.state := by
  cases c with
  | request msg =>
    exact relay_exchange hP h.paired hr (request_relays hP h.paired hr msg) rfl rfl
      (Or.inl fun _ => rfl) fate
  | sendChunk objectUuid chunkIndex data =>
    exact relay_exchange hP h.paired hr (sendChunk_relays hP h.paired hr objectUuid chunkIndex data)
      rfl rfl (Or.inl fun _ => rfl) fate
  | requestChunk objectUuid chunkIndex =>
    have hrelays : Relays P ccfg cred w.session
        ((ClientSession.requestChunk P ccfg r.client objectUuid chunkIndex).send w.session).1 :=
      request_relays hP h.paired hr _
    rw [RelayCall.exchange]
    exact relay_exchange hP h.paired hr hrelays rfl rfl (Or.inr fun _ => rfl) fate

lemma happen_cases (hP : Lawful P) (h : Tracking P ccfg scfg w cred keys) (e : Event P) :
    Tracking P ccfg scfg (happen P ccfg scfg w e) cred keys ∧
      (happen P ccfg scfg w e).session = w.session ∧
      ((¬ Promotes P scfg w e ∧ (happen P ccfg scfg w e).server.state = w.server.state) ∨
        ∃ k, (Promotes P scfg w e ↔ w.server.state.Promotes P scfg k e.now) ∧
          (happen P ccfg scfg w e).server.state = (w.server.state.rotate P scfg k e.now).2) := by
  obtain ⟨now, _ | _ | _⟩ := e
  · rename_i fresh k
    have hstate : (w.server.state.maybeRotate P scfg fresh k now).2 =
        (w.server.state.rotate P scfg k now).2 := by
      rw [ServerState.maybeRotate_loaded h.rotating.loaded]
    have hkeeps := ServerState.rotate_keepsOthers (P := P) h.rotating k now
    refine ⟨⟨⟨h.paired.current, h.paired.currentKeys, h.paired.x25519, ?_⟩, h.apart, ?_⟩, rfl,
      Or.inr ⟨k, Iff.rfl, hstate⟩⟩
    · obtain ⟨row, hrow, hpublic⟩ := h.paired.row
      refine ⟨row, ?_, hpublic⟩
      rw [happen]
      dsimp only
      rw [hstate, hkeeps.rows _ _ h.apart]
      exact hrow
    · rw [happen]
      dsimp only
      rw [hstate]
      exact hkeeps.rotating
  · rename_i c fate r hr
    obtain ⟨hsession, hstate⟩ := call_exchange scfg hP h c fate hr
    refine ⟨⟨?_, ?_, ?_⟩, hsession, Or.inl ⟨not_false, hstate⟩⟩
    · rw [happen]
      dsimp only
      rw [hsession, hstate]
      exact h.paired
    · rw [happen]
      dsimp only
      rw [hsession]
      exact h.apart
    · rw [happen]
      dsimp only
      rw [hstate]
      exact h.rotating
  · exact ⟨h, rfl, Or.inl ⟨not_false, rfl⟩⟩

def Held (w : World) (c : CredentialPublic) : Prop :=
  w.server.state.identity.engine.get w.session.serverKeys.version = some c

lemma Held.unpromoted (hP : Lawful P) (h : Tracking P ccfg scfg w cred keys) {c : CredentialPublic}
    (hc : Held w c) (hs : c.status ≠ .validating) (hno : ¬ Promotes P scfg w e) :
    Held (happen P ccfg scfg w e) c := by
  obtain ⟨_, hsession, ⟨_, hstate⟩ | ⟨k, hpromotes, hstate⟩⟩ := happen_cases hP h e
  · rw [Held, hsession, hstate]
    exact hc
  · rw [Held, hsession, hstate]
    exact ServerState.rotate_unpromoted h.rotating (fun hyes => hno (hpromotes.mpr hyes)) hc hs

lemma Held.promoted (hP : Lawful P) (h : Tracking P ccfg scfg w cred keys) {c : CredentialPublic}
    (hc : Held w c) (hyes : Promotes P scfg w e) :
    (c.status = .active → Held (happen P ccfg scfg w e) (demoted scfg.params c e.now)) ∧
      (c.status = .fallback →
        Held (happen P ccfg scfg w e) (RotationEngine.retired c .terminated)) := by
  obtain ⟨_, hsession, ⟨hno, _⟩ | ⟨k, hpromotes, hstate⟩⟩ := happen_cases hP h e
  · exact (hno hyes).elim
  · rw [Held, Held, hsession, hstate]
    exact ServerState.rotate_promoted h.rotating (hpromotes.mp hyes) hc

lemma follows_iff {c : CredentialPublic} (hc : Held w c) {now : ℤ} :
    Follows w now ↔ c.status = .active ∨ c.status = .fallback ∧ expired c now = false := by
  constructor
  · rintro ⟨d, hd, hs⟩
    obtain rfl := Option.some.inj (hc.symm.trans hd)
    exact hs
  · exact fun hs => ⟨c, hc, hs⟩

structure FallbackUntil (P : Primitives) (ccfg : ClientConfig) (scfg : ServerConfig)
    (cred : CredentialPublic) (keys : PrivateKeys) (t : ℤ) (w : World) : Prop where
  tracking : Tracking P ccfg scfg w cred keys
  held : ∃ c, Held w c ∧ c.status = .fallback ∧ c.expirationTime = some t

lemma FallbackUntil.step (hP : Lawful P) {t : ℤ} (h : FallbackUntil P ccfg scfg cred keys t w)
    (e : Event P) (hno : ¬ Promotes P scfg w e) :
    FallbackUntil P ccfg scfg cred keys t (happen P ccfg scfg w e) := by
  obtain ⟨c, hc, hs, ht⟩ := h.held
  exact ⟨(happen_cases hP h.tracking e).1, c,
    hc.unpromoted hP h.tracking (by rw [hs]; decide) hno, hs, ht⟩

lemma FallbackUntil.follows {t now : ℤ} (h : FallbackUntil P ccfg scfg cred keys t w) :
    Follows w now ↔ now < t := by
  obtain ⟨c, hc, hs, ht⟩ := h.held
  rw [follows_iff hc, hs, expired, ht]
  simp

lemma FallbackUntil.follows_iff (hP : Lawful P) {t : ℤ}
    (h : FallbackUntil P ccfg scfg cred keys t w) (e : Event P) :
    Follows (happen P ccfg scfg w e) e.now ↔ ¬ Promotes P scfg w e ∧ e.now < t := by
  by_cases hyes : Promotes P scfg w e
  · obtain ⟨c, hc, hs, ht⟩ := h.held
    have hended := (hc.promoted hP h.tracking hyes).2 hs
    rw [System.follows_iff hended]
    refine iff_of_false ?_ fun hno => hno.1 hyes
    rintro (hstatus | ⟨hstatus, _⟩) <;> cases hstatus
  · rw [(h.step hP e hyes).follows]
    exact (and_iff_right hyes).symm

theorem server_followed_iff (P : Primitives) (hP : Lawful P) (ccfg : ClientConfig)
    (scfg : ServerConfig) (w : World) (cred : CredentialPublic) (keys : PrivateKeys)
    (htracking : Tracking P ccfg scfg w cred keys)
    (htracked : ∃ c, w.server.state.identity.engine.active = some c ∧
      c.version = w.session.serverKeys.version) (es : List (Event P)) :
    Along (happen P ccfg scfg) (fun w e => Follows (happen P ccfg scfg w e) e.now) w es ↔
      PromotesOnce P ccfg scfg w es := by
  obtain ⟨c, hactive, hversion⟩ := htracked
  induction es generalizing w with
  | nil => exact Iff.rfl
  | cons e es ih =>
    obtain ⟨hmem, hs⟩ := mem_of_byStatus hactive
    have hheld : Held w c := get_eq_some.mpr ⟨hmem, hversion⟩
    have hnext := (happen_cases hP htracking e).1
    rw [along_cons, PromotesOnce]
    by_cases hpromotes : Promotes P scfg w e
    · have hdemoted := (hheld.promoted hP htracking hpromotes).1 hs
      have hfallback : FallbackUntil P ccfg scfg cred keys (fallbackUntil scfg w e.now)
          (happen P ccfg scfg w e) := by
        refine ⟨hnext, _, hdemoted, rfl, ?_⟩
        rw [fallbackUntil, hactive]
        rfl
      rw [hfallback.follows, and_iff_right (fun hno => (hno hpromotes).elim), forall_prop_of_true hpromotes]
      refine and_congr_right fun _ => along_iff_of_invariant (fun w' e' h => h.follows_iff hP e')
        (fun w' e' h hfollows => h.step hP e' ((h.follows_iff hP e').mp hfollows).1) hfallback es
    · have hsame := hheld.unpromoted hP htracking (by rw [hs]; decide) hpromotes
      have hwindow := hnext.rotating.window.byStatus_of_get hsame (by rw [hs]; rfl)
      have hsession := (happen_cases hP htracking e).2.1
      rw [hs] at hwindow
      have hrest := ih _ hnext hwindow (by rw [hsession]; exact hversion)
      rw [follows_iff hsame, hrest, and_iff_right (Or.inl hs)]
      simp only [hpromotes, not_false_eq_true, forall_const, false_imp_iff, and_true]

end Events

section Demo

def demoRoundAt (now : ℤ) : Round where
  client := { (demoRound 1).client with now, identityNow := now, laterNow := now, time := now }
  server := { (demoRound 1).server with authNow := now, now, time := now, sentAt := now }

lemma drawn_demo (now : ℤ) : Drawn tagged (demoRoundAt now) where
  nonce := List.length_replicate
  ephemeral := show tagged.x25519Loads (demoKey 7) = true by decide
  serverNonce := List.length_replicate
  serverEphemeral := show tagged.x25519Loads (demoKey 8) = true by decide

lemma tracking_demo :
    Tracking tagged demoClient demoServer demoWorld demoParties.cred demoParties.keys where
  paired := ⟨enrolled_demo.current, enrolled_demo.currentKeys, enrolled_demo.x25519,
    _, enrolled_demo.row, enrolled_demo.owns.2⟩
  apart := by decide +kernel
  rotating := by
    have hrows : demoWorld.server.state.identity.engine.creds.rows = [demoParties.serverCred] := by
      decide +kernel
    refine ⟨by decide +kernel, by decide +kernel, ⟨?_, ?_, ?_⟩, ?_⟩
    · rw [hrows]
      intro c hc d hd _ _
      rw [List.mem_singleton.mp hc, List.mem_singleton.mp hd]
    · rw [hrows]
      intro c hc hs
      rw [List.mem_singleton.mp hc] at hs
      cases hs
    · rw [hrows]
      intro c hc hs
      rw [List.mem_singleton.mp hc] at hs
      cases hs
    · rw [RotationEngine.BelongsTo, hrows]
      intro c hc
      rw [List.mem_singleton.mp hc]
      rfl

def tick (now : ℤ) : Event tagged := ⟨now, .tick (demoKeys 3) (demoKeys 5)⟩

def write (now : ℤ) : Event tagged :=
  ⟨now, .call (.request { op := Op.write.code, objectUuid := some Uuid.nil }) .delivered
    (demoRoundAt now) (drawn_demo now)⟩

lemma tracked_demo : ∃ c, demoWorld.server.state.identity.engine.active = some c ∧
    c.version = demoWorld.session.serverKeys.version :=
  ⟨demoParties.serverCred, by decide +kernel, by decide +kernel⟩

theorem rotating_server_followed :
    Along (happen tagged demoClient demoServer)
      (fun w e => Follows (happen tagged demoClient demoServer w e) e.now) demoWorld
      [tick 44200, write 44300, tick 87400, ⟨130599, .pass⟩] :=
  (server_followed_iff tagged lawful_tagged demoClient demoServer demoWorld demoParties.cred
    demoParties.keys tracking_demo tracked_demo _).mpr (by decide +kernel)

def silentRun : List (Event tagged) := [tick 44200, write 44300, tick 87400, ⟨130600, .pass⟩]

lemma window_demo :
    (run (happen tagged demoClient demoServer) demoWorld
      [tick 44200]).server.state.identity.engine.validating ≠ none ∧
    Succeeds tagged demoClient demoServer
      (run (happen tagged demoClient demoServer) demoWorld [tick 44200]) (write 44300) ∧
    (run (happen tagged demoClient demoServer) demoWorld
      [tick 44200, write 44300]).server.state.identity.engine.validating ≠ none := by
  decide +kernel

lemma served_demo : ServedWindows tagged demoClient demoServer demoWorld silentRun := by
  intro pre e mid e' post hes hnone _ hpromotes
  rcases pre with _ | ⟨e₁, _ | ⟨e₂, _ | ⟨e₃, pre⟩⟩⟩ <;>
    simp only [silentRun, List.nil_append, List.cons_append, List.cons.injEq] at hes
  · obtain ⟨rfl, hes⟩ := hes
    rcases mid with _ | ⟨m, mid⟩
    · obtain ⟨rfl, _⟩ := List.cons.inj hes
      exact hpromotes.elim
    · obtain ⟨rfl, _⟩ := List.cons.inj hes
      exact ⟨[], _, mid, rfl, window_demo.2.1⟩
  · obtain ⟨rfl, _⟩ := hes
    exact (window_demo.1 hnone).elim
  · obtain ⟨rfl, rfl, _⟩ := hes
    exact (window_demo.2.2 hnone).elim
  · obtain ⟨_, _, _, hes⟩ := hes
    have hlength := congrArg List.length hes
    simp only [List.length_append, List.length_cons, List.length_nil] at hlength
    omega

-- the request in the validation window brings no announcement of the successor
theorem silent_rotation_unfollowed :
    ¬ ∀ (P : Primitives), Lawful P → ∀ (ccfg : ClientConfig) (scfg : ServerConfig) (w : World)
      (cred : CredentialPublic) (keys : PrivateKeys), Tracking P ccfg scfg w cred keys →
      (∃ c, w.server.state.identity.engine.active = some c ∧
        c.version = w.session.serverKeys.version) →
      ∀ (es : List (Event P)) (q : ℤ), Chronological (·.now) es q → ServedWindows P ccfg scfg w es →
      Along (happen P ccfg scfg) (fun w e => Follows (happen P ccfg scfg w e) e.now) w es := by
  intro h
  have hfollows := h tagged lawful_tagged demoClient demoServer demoWorld demoParties.cred
    demoParties.keys tracking_demo tracked_demo silentRun 130600 (by decide) served_demo
  have hlost : ¬ Along (happen tagged demoClient demoServer)
      (fun w e => Follows (happen tagged demoClient demoServer w e) e.now) demoWorld silentRun := by
    decide +kernel
  exact hlost hfollows

end Demo

end Secupload.System
