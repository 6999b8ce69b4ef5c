import Secupload.Server.Recovery
import Secupload.Shared.Replay

namespace Secupload.Server

open Library Shared

structure Authenticator where
  replay : ReplayCache

namespace Authenticator

def new (capacity : ℕ+) : Authenticator := ⟨Lru.new capacity⟩

variable (P : Primitives) (params : RotationParams) (db : Database)

def checkCredential (env : Envelope) (now : ℤ) : Except Exn (IdentityKind × CredentialPublic) :=
  let refused : Except Exn (IdentityKind × CredentialPublic) :=
    .error (.authError "BAD_CREDENTIAL" "credential not usable for authentication")
  match db.credentialForAuth params env.senderUuid env.senderCredentialVersion now with
  | .error (.registryError _ _) => refused
  | .error exc => .error exc
  | .ok none => refused
  | .ok (some cred) =>
    if cred.status.authenticating = false then refused
    else
      match env.verify P cred.ed25519Public with
      | .error (.protocolError _) =>
        .error (.authError "BAD_SIGNATURE" "envelope signature verification failed")
      | .error exc => .error exc
      | .ok () =>
        match db.identityKind env.senderUuid with
        | none =>
          .error (.authError "UNKNOWN_IDENTITY" "identity is not registered with the server")
        | some kind => .ok (kind, cred)

def authenticate (auth : Authenticator) (env : Envelope) (now : ℤ) :
    Outcome Authenticator (IdentityKind × CredentialPublic) :=
  if timestampOk env.timestamp now = false then
    (.error (.authError "STALE_TIMESTAMP" "envelope timestamp outside window"), auth)
  else
    match auth.replay.checkAndAdd env.replayKey with
    | (false, replay) => (.error (.authError "REPLAY" "duplicate envelope detected"), ⟨replay⟩)
    | (true, replay) => (checkCredential P params db env now, ⟨replay⟩)

inductive Verdict
  | accept
  | refuse (code : String)
  | raised (exc : Exn)
  deriving DecidableEq

def verdictOf : Except Exn (IdentityKind × CredentialPublic) → Verdict
  | .ok _ => .accept
  | .error (.authError code _) => .refuse code
  | .error exc => .raised exc

def verdict (auth : Authenticator) (env : Envelope) (now : ℤ) : Verdict :=
  verdictOf (auth.authenticate P params db env now).1

section Verdict

variable {P params db}

lemma checkCredential_error {env : Envelope} {now : ℤ} {exc : Exn}
    (h : checkCredential P params db env now = .error exc) :
    (∃ code message, exc = .authError code message ∧
      (code = "BAD_CREDENTIAL" ∨ code = "BAD_SIGNATURE" ∨ code = "UNKNOWN_IDENTITY")) ∨
    exc = .structError ∨ ∃ message, exc = .cryptoError message := by
  unfold checkCredential at h
  dsimp only at h
  split at h
  · exact Or.inl ⟨_, _, (Except.error.inj h).symm, Or.inl rfl⟩
  · rename_i exc' hno hauth
    exact (hno _ _ (Database.credentialForAuth_error hauth)).elim
  · exact Or.inl ⟨_, _, (Except.error.inj h).symm, Or.inl rfl⟩
  · split_ifs at h
    · exact Or.inl ⟨_, _, (Except.error.inj h).symm, Or.inl rfl⟩
    · split at h
      · exact Or.inl ⟨_, _, (Except.error.inj h).symm, Or.inr (Or.inl rfl)⟩
      · rename_i exc' hno hverify
        obtain rfl := Except.error.inj h
        rcases Envelope.verify_error hverify with hs | hc | ⟨message, hp⟩
        · exact Or.inr (Or.inl hs)
        · exact Or.inr (Or.inr hc)
        · exact (hno message hp).elim
      · split at h
        · exact Or.inl ⟨_, _, (Except.error.inj h).symm, Or.inr (Or.inr rfl)⟩
        · cases h

lemma checkCredential_ne_replay (env : Envelope) (now : ℤ) :
    verdictOf (checkCredential P params db env now) ≠ .refuse "REPLAY" := by
  cases h : checkCredential P params db env now with
  | ok r => simp [verdictOf]
  | error exc =>
    rcases checkCredential_error h with ⟨code, message, rfl, hcode⟩ | rfl | ⟨message, rfl⟩
    · rcases hcode with rfl | rfl | rfl <;> simp [verdictOf]
    · simp [verdictOf]
    · simp [verdictOf]

lemma checkCredential_usable {env : Envelope} {now : ℤ} {kind : IdentityKind} {row : CredentialPublic}
    (h : checkCredential P params db env now = .ok (kind, row)) :
    db.credentialForAuth params env.senderUuid env.senderCredentialVersion now = .ok (some row) := by
  simp only [checkCredential] at h
  split at h
  · cases h
  · cases h
  · cases h
  · rename_i cred hcred
    split_ifs at h
    split at h
    · cases h
    · cases h
    · split at h
      · cases h
      · obtain ⟨_, rfl⟩ := Prod.mk.inj (Except.ok.inj h)
        exact hcred

lemma authenticate_checks {auth auth' : Authenticator} {env : Envelope} {now : ℤ} {kind : IdentityKind}
    {row : CredentialPublic}
    (h : auth.authenticate P params db env now = (.ok (kind, row), auth')) :
    timestampOk env.timestamp now = true ∧ env.replayKey ∉ auth.replay.entries ∧
      db.credentialForAuth params env.senderUuid env.senderCredentialVersion now = .ok (some row) := by
  rw [authenticate] at h
  split_ifs at h with hwindow
  · cases congrArg Prod.fst h
  · refine ⟨by simpa using hwindow, ?_⟩
    rw [ReplayCache.checkAndAdd] at h
    split at h
    · cases congrArg Prod.fst h
    · rename_i hfresh
      exact ⟨of_decide_eq_true (congrArg Prod.fst hfresh), checkCredential_usable (congrArg Prod.fst h)⟩

end Verdict

structure Presentation where
  db : Database
  envelope : Envelope
  now : ℤ

namespace Presentation

def inWindow (p : Presentation) : Bool := timestampOk p.envelope.timestamp p.now

def key (p : Presentation) : Bytes := p.envelope.replayKey

def genuine (P : Primitives) (p : Presentation) : Bool :=
  match p.db.getCredential p.envelope.senderUuid p.envelope.senderCredentialVersion with
  | none => false
  | some cred => decide (p.envelope.verify P cred.ed25519Public = .ok ())

end Presentation

def present (auth : Authenticator) (p : Presentation) : Authenticator :=
  (auth.authenticate P params p.db p.envelope p.now).2

def after (capacity : ℕ+) (ps : List Presentation) : Authenticator :=
  run (present P params) (new capacity) ps

def verdictAfter (capacity : ℕ+) (ps : List Presentation) (p : Presentation) : Verdict :=
  (after P params capacity ps).verdict P params p.db p.envelope p.now

def windowKeys (ps : List Presentation) : List Bytes := (ps.filter (·.inWindow)).map (·.key)

section Runs

variable {P params} {capacity : ℕ+} {ps : List Presentation} {p q : Presentation}

lemma windowKeys_append (ps qs : List Presentation) :
    windowKeys (ps ++ qs) = windowKeys ps ++ windowKeys qs := by
  simp [windowKeys]

lemma windowKeys_cons (p : Presentation) (ps : List Presentation) :
    windowKeys (p :: ps) = (if p.inWindow then [p.key] else []) ++ windowKeys ps := by
  cases h : p.inWindow <;> simp [windowKeys, h]

lemma present_replay (auth : Authenticator) (p : Presentation) :
    (auth.present P params p).replay = if p.inWindow then auth.replay.touch p.key else auth.replay := by
  rw [present, authenticate]
  by_cases hw : timestampOk p.envelope.timestamp p.now = false
  · rw [if_pos hw, if_neg (by simp [Presentation.inWindow, hw])]
  · rw [if_neg hw, if_pos (by simpa [Presentation.inWindow] using hw)]
    rw [ReplayCache.checkAndAdd]
    cases decide (p.envelope.replayKey ∉ auth.replay.entries) <;> rfl

variable (P params) in
lemma after_replay (capacity : ℕ+) (ps : List Presentation) :
    (after P params capacity ps).replay = run Lru.touch (Lru.new capacity) (windowKeys ps) := by
  induction ps using List.reverseRecOn with
  | nil => rfl
  | append_singleton ps p ih =>
    have hstep : after P params capacity (ps ++ [p]) =
        (after P params capacity ps).present P params p := run_append _ _ _
    rw [hstep, present_replay, ih, windowKeys_append, run_append, windowKeys_cons]
    cases p.inWindow <;> rfl

lemma verdictAfter_eq : verdictAfter P params capacity ps p =
    if p.inWindow = false then .refuse "STALE_TIMESTAMP"
    else if p.envelope.replayKey ∈ (run Lru.touch (Lru.new capacity) (windowKeys ps)).entries then .refuse "REPLAY"
    else verdictOf (checkCredential P params p.db p.envelope p.now) := by
  rw [← after_replay P params]
  rw [verdictAfter, verdict, authenticate]
  by_cases hw : timestampOk p.envelope.timestamp p.now = false
  · rw [if_pos hw, if_pos (show p.inWindow = false from hw)]
    rfl
  · rw [if_neg hw, if_neg (show ¬ p.inWindow = false from hw)]
    rw [ReplayCache.checkAndAdd]
    by_cases hk : p.envelope.replayKey ∈ (after P params capacity ps).replay.entries
    · rw [if_pos hk, decide_eq_false (not_not.mpr hk)]
      rfl
    · rw [if_neg hk, decide_eq_true hk]

lemma verdictAfter_recent (hw : p.inWindow = true)
    (hr : Recent capacity p.key (windowKeys ps)) :
    verdictAfter P params capacity ps p = .refuse "REPLAY" := by
  rw [verdictAfter_eq, if_neg (by simp [hw])]
  exact if_pos ((Lru.mem_run_touch _ _ _).mpr hr)

lemma verdictAfter_fresh (hw : p.inWindow = true)
    (hr : ¬ Recent capacity p.key (windowKeys ps)) :
    verdictAfter P params capacity ps p =
      verdictOf (checkCredential P params p.db p.envelope p.now) := by
  rw [verdictAfter_eq, if_neg (by simp [hw])]
  exact if_neg fun hk => hr ((Lru.mem_run_touch _ _ _).mp hk)

lemma verdictAfter_stale (hw : p.inWindow = false) :
    verdictAfter P params capacity ps p = .refuse "STALE_TIMESTAMP" := by
  rw [verdictAfter_eq, if_pos hw]

end Runs

def Uninfluenced (P : Primitives) (params : RotationParams) (capacity : ℕ+)
    (ps : List Presentation) : Prop :=
  ∀ pre p post, ps = pre ++ p :: post → p.genuine P = true →
    verdictAfter P params capacity pre p =
      verdictAfter P params capacity (pre.filter (·.genuine P)) p

theorem uninfluenced_iff (P : Primitives) (params : RotationParams) (capacity : ℕ+)
    (ps : List Presentation) :
    Uninfluenced P params capacity ps ↔
      ∀ pre p post, ps = pre ++ p :: post → p.genuine P = true → p.inWindow = true →
        (Recent capacity p.key (windowKeys pre) ↔
          Recent capacity p.key (windowKeys (pre.filter (·.genuine P)))) := by
  constructor
  · intro h pre p post he hg hw
    have hsame := h pre p post he hg
    have hne : verdictOf (checkCredential P params p.db p.envelope p.now) ≠ .refuse "REPLAY" :=
      checkCredential_ne_replay p.envelope p.now
    constructor
    · intro hr
      by_contra hno
      rw [verdictAfter_recent hw hr, verdictAfter_fresh hw hno] at hsame
      exact hne hsame.symm
    · intro hr
      by_contra hno
      rw [verdictAfter_fresh hw hno, verdictAfter_recent hw hr] at hsame
      exact hne hsame
  · intro h pre p post he hg
    cases hw : p.inWindow with
    | false => rw [verdictAfter_stale hw, verdictAfter_stale hw]
    | true =>
      have hiff := h pre p post he hg hw
      by_cases hr : Recent capacity p.key (windowKeys pre)
      · rw [verdictAfter_recent hw hr, verdictAfter_recent hw (hiff.mp hr)]
      · rw [verdictAfter_fresh hw hr, verdictAfter_fresh hw (fun hr' => hr (hiff.mpr hr'))]

def session (db : Database) (es : List (Envelope × ℤ)) : List Presentation :=
  es.map fun e => ⟨db, e.1, e.2⟩

def demoEnvelope (nonce : UInt8) : Envelope :=
  let env : Envelope :=
    { msgType := 1, senderUuid := Uuid.nil, recipientUuid := Uuid.nil, requestId := Uuid.nil
      senderCredentialVersion := 1, timestamp := 1000, nonce := List.replicate 12 nonce
      payload := [] }
  (env.sign transparent (demoKey 1)).toOption.getD env

-- a copy with a zeroed signature takes the place of the genuine envelope in the cache
theorem forged_copy_blocks_genuine :
    ¬ ∀ (P : Primitives) (params : RotationParams) (ops : List Database.RegistryOp)
      (es : List (Envelope × ℤ)),
      Uninfluenced P params defaultReplayCacheSize (session (Database.reached P params ops) es) := by
  intro h
  have hsame := h transparent {} Database.enrolledRun
    [({ demoEnvelope 0 with signature := List.replicate 64 0 }, 1000), (demoEnvelope 0, 1000)]
    [⟨Database.reached transparent {} Database.enrolledRun,
      { demoEnvelope 0 with signature := List.replicate 64 0 }, 1000⟩]
    ⟨Database.reached transparent {} Database.enrolledRun, demoEnvelope 0, 1000⟩ [] rfl
    (by decide +kernel)
  exact absurd hsame (by decide +kernel)

theorem accepted_once_while_remembered (P : Primitives) (params : RotationParams) (capacity : ℕ+)
    (pre mid : List Presentation) (p q : Presentation)
    (haccept : verdictAfter P params capacity pre p = .accept)
    (hsender : q.envelope.senderUuid = p.envelope.senderUuid)
    (hnonce : q.envelope.nonce = p.envelope.nonce)
    (hfew : (since q.key (windowKeys (p :: mid))).dedup.length < capacity) :
    verdictAfter P params capacity (pre ++ p :: mid) q = .refuse "STALE_TIMESTAMP" ∨
      verdictAfter P params capacity (pre ++ p :: mid) q = .refuse "REPLAY" := by
  have hkey : q.key = p.key := Envelope.replayKey_eq_iff.mpr ⟨hsender, hnonce⟩
  cases hq : q.inWindow with
  | false => exact Or.inl (verdictAfter_stale hq)
  | true =>
    right
    apply verdictAfter_recent hq
    have hp : p.inWindow = true := by
      by_contra hno
      rw [verdictAfter_stale (by simpa using hno)] at haccept
      cases haccept
    have hmem : q.key ∈ windowKeys (p :: mid) := by
      rw [windowKeys_cons, if_pos hp, hkey]
      exact List.mem_append_left _ List.mem_cons_self
    rw [windowKeys_append]
    refine ⟨List.mem_append_right _ hmem, ?_⟩
    rwa [since_append_of_mem hmem]

theorem accepted_once_remembered_demo :
    verdictAfter transparent {} 4 (session (Database.reached transparent {} Database.enrolledRun)
      [(demoEnvelope 1, 999), (demoEnvelope 0, 1000), (demoEnvelope 2, 1000), (demoEnvelope 3, 1001)])
      ⟨Database.reached transparent {} Database.enrolledRun, demoEnvelope 0, 1002⟩ ≠ .accept := by
  have h := accepted_once_while_remembered transparent {} 4
    (session (Database.reached transparent {} Database.enrolledRun) [(demoEnvelope 1, 999)])
    (session (Database.reached transparent {} Database.enrolledRun)
      [(demoEnvelope 2, 1000), (demoEnvelope 3, 1001)])
    ⟨Database.reached transparent {} Database.enrolledRun, demoEnvelope 0, 1000⟩
    ⟨Database.reached transparent {} Database.enrolledRun, demoEnvelope 0, 1002⟩
    (by decide +kernel) rfl rfl (by decide +kernel)
  rcases h with h | h
  · exact fun ha => by cases h.symm.trans ha
  · exact fun ha => by cases h.symm.trans ha

-- with room for one key, a second envelope evicts the first, which is then accepted again
theorem accepted_again_after_eviction :
    ¬ ∀ (P : Primitives) (params : RotationParams) (capacity : ℕ+) (ops : List Database.RegistryOp)
      (pre mid : List (Envelope × ℤ)) (p q : Envelope × ℤ),
      ((pre ++ p :: mid ++ [q]).map (·.2)).Pairwise (· ≤ ·) →
      q.1.senderUuid = p.1.senderUuid → q.1.nonce = p.1.nonce →
      verdictAfter P params capacity (session (Database.reached P params ops) pre)
        ⟨Database.reached P params ops, p.1, p.2⟩ = .accept →
      verdictAfter P params capacity (session (Database.reached P params ops) (pre ++ p :: mid))
        ⟨Database.reached P params ops, q.1, q.2⟩ ≠ .accept := by
  intro h
  exact h transparent {} 1 Database.enrolledRun [] [(demoEnvelope 1, 1000)] (demoEnvelope 0, 1000)
    (demoEnvelope 0, 1000) (by decide) rfl rfl (by decide +kernel) (by decide +kernel)

end Authenticator

end Secupload.Server
