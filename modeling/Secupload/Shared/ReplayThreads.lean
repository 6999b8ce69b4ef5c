import Secupload.Library.SharedLru
import Secupload.Shared.Replay

/-! The replay cache of a server that handles each connection in its own thread. The interpreter may
switch threads between the membership test, `move_to_end`, the assignment, the length test and
`popitem` of `check_and_add`. -/

namespace Secupload.Shared

open Library

variable {ι : Type*} [DecidableEq ι]

abbrev ReplayThreads (ι : Type*) := SharedLru Bytes ι

inductive CheckStep (ι : Type*)
  | check (i : ι) (env : Envelope)
  | resume (i : ι)

def CheckStep.event : CheckStep ι → SharedLru.Event Bytes ι
  | .check i env => .look i env.replayKey
  | .resume i => .next i

namespace ReplayThreads

def start : ReplayThreads ι := SharedLru.new

def step (maxSize : ℕ+) (w : ReplayThreads ι) (s : CheckStep ι) : ReplayThreads ι :=
  SharedLru.step maxSize w s.event

def reached (maxSize : ℕ+) (steps : List (CheckStep ι)) : ReplayThreads ι :=
  run (step maxSize) start steps

lemma reached_eq (maxSize : ℕ+) (steps : List (CheckStep ι)) :
    reached maxSize steps =
      run (SharedLru.step (maxSize : ℕ)) SharedLru.new (steps.map CheckStep.event) := by
  rw [reached, start, run, run, List.foldl_map]
  rfl

lemma alone_checkAndAdd {w : ReplayThreads ι} {i : ι} (cache : ReplayCache)
    (hi : w.phase i = .idle) (hentries : w.entries = cache.entries) (env : Envelope) :
    let w' := run (step cache.capacity) w [.check i env, .resume i, .resume i, .resume i]
    w'.entries = (cache.checkAndAdd env.replayKey).2.entries ∧
    w'.admitted = (if (cache.checkAndAdd env.replayKey).1 then w.admitted ++ [env.replayKey]
      else w.admitted) := by
  obtain ⟨he, ha⟩ := SharedLru.presented_touch cache env.replayKey hi hentries
  refine ⟨he, ha.trans ?_⟩
  by_cases hkey : env.replayKey ∈ cache.entries <;> simp [ReplayCache.checkAndAdd, hkey]

variable [Fintype ι]

theorem remembers_recent (maxSize : ℕ+) (steps : List (CheckStep ι)) :
    (reached maxSize steps).entries.Nodup ∧
    (reached maxSize steps).entries.length ≤ maxSize + (reached maxSize steps).settling ∧
    (∀ env : Envelope,
      Recent (maxSize + 1 - Fintype.card ι) env.replayKey (reached maxSize steps).uses →
        env.replayKey ∈ (reached maxSize steps).entries) ∧
    (∀ env : Envelope, env.replayKey ∈ (reached maxSize steps).entries →
      Recent (maxSize + (reached maxSize steps).settling) env.replayKey
        (reached maxSize steps).uses) ∧
    (Fintype.card ι ≤ maxSize + 1 → ∀ i key, (reached maxSize steps).phase i = .full key →
      (reached maxSize steps).entries ≠ []) := by
  have h : SharedLru.Bounds maxSize (reached maxSize steps) := by
    rw [reached_eq]
    exact SharedLru.bounds_run _ _
  exact ⟨h.suffix.sublist.nodup (List.nodup_dedup _), h.upper, fun _ => h.mem_of_recent,
    fun _ => h.recent_of_mem, fun hcard _ _ => h.ne_nil hcard⟩

-- no thread checks an envelope of this sender and nonce while another has missed its key and not
-- stored it yet, and none checks one after as many other keys as the cache is sure to hold
def Unraced (maxSize : ℕ+) (env : Envelope) (w : ReplayThreads ι) : CheckStep ι → Prop
  | .check _ env' => env'.senderUuid = env.senderUuid → env'.nonce = env.nonce →
      (∀ j, w.phase j ≠ .fresh env.replayKey) ∧
      (env.replayKey ∈ w.uses →
        Recent (maxSize + 1 - Fintype.card ι) env.replayKey w.uses)
  | .resume _ => True

instance (maxSize : ℕ+) (env : Envelope) (w : ReplayThreads ι) :
    DecidablePred (Unraced maxSize env w)
  | .check _ env' => inferInstanceAs (Decidable (env'.senderUuid = env.senderUuid →
      env'.nonce = env.nonce → (∀ j, w.phase j ≠ .fresh env.replayKey) ∧
      (env.replayKey ∈ w.uses → env.replayKey ∈ w.uses ∧
        (since env.replayKey w.uses).dedup.length < maxSize + 1 - Fintype.card ι)))
  | .resume _ => inferInstanceAs (Decidable True)

omit [DecidableEq ι] in
lemma Unraced.event {maxSize : ℕ+} {env : Envelope} {w : ReplayThreads ι} {s : CheckStep ι}
    (h : Unraced maxSize env w s) : SharedLru.Unraced maxSize env.replayKey w s.event := by
  cases s with
  | check i env' =>
    intro hkey
    obtain ⟨hsender, hnonce⟩ := Envelope.replayKey_eq_iff.mp hkey
    exact h hsender hnonce
  | resume i => trivial

lemma unraced_events {maxSize : ℕ+} {env : Envelope} {w : ReplayThreads ι}
    {steps : List (CheckStep ι)} (h : Along (step maxSize) (Unraced maxSize env) w steps) :
    Along (SharedLru.step maxSize) (SharedLru.Unraced maxSize env.replayKey) w
      (steps.map CheckStep.event) := by
  induction steps generalizing w with
  | nil => trivial
  | cons s steps ih => exact ⟨h.1.event, ih h.2⟩

theorem accepted_once {maxSize : ℕ+} {env : Envelope} {steps : List (CheckStep ι)}
    (h : Along (step maxSize) (Unraced maxSize env) start steps) :
    ¬ List.Duplicate env.replayKey (reached maxSize steps).admitted := by
  rw [reached_eq]
  exact SharedLru.admitted_once (unraced_events h)

def checkedEnvelope (nonce : UInt8) : Envelope :=
  { msgType := 1, senderUuid := Uuid.nil, recipientUuid := Uuid.nil, requestId := Uuid.nil
    senderCredentialVersion := 1, timestamp := 1000, nonce := [nonce], payload := [] }

theorem replayed_accepted_once :
    ¬ List.Duplicate (checkedEnvelope 1).replayKey (reached 2 [.check true (checkedEnvelope 1),
      .check false (checkedEnvelope 2), .resume true, .resume true, .check true (checkedEnvelope 1),
      .resume false, .resume true, .resume false]).admitted :=
  accepted_once (by decide)

-- two threads that both look before either stores
example : (reached 2 [.check true (checkedEnvelope 1), .check false (checkedEnvelope 1),
    .resume true, .resume true, .resume false, .resume false]).admitted =
    [(checkedEnvelope 1).replayKey, (checkedEnvelope 1).replayKey] := by decide

end ReplayThreads

end Secupload.Shared
