import Secupload.Library.Lru
import Secupload.Shared.Envelope

namespace Secupload.Shared

open Library

def timestampWindow : ℤ := 300
def defaultReplayCacheSize : ℕ+ := 100000

abbrev ReplayCache := Lru Bytes

-- `True` for a new key, `False` for a replay
def ReplayCache.checkAndAdd (cache : ReplayCache) (key : Bytes) : Bool × ReplayCache :=
  (decide (key ∉ cache.entries), cache.touch key)

def ReplayCache.present (maxSize : ℕ+) (history : List Bytes) : ReplayCache :=
  run (fun cache key => (cache.checkAndAdd key).2) (Lru.new maxSize) history

lemma ReplayCache.present_entries (maxSize : ℕ+) (history : List Bytes) :
    (present maxSize history).entries = history.dedup.rtake maxSize :=
  (Lru.run_touch maxSize history).2

lemma ReplayCache.present_mem (maxSize : ℕ+) (history : List Bytes) (key : Bytes) :
    key ∈ (present maxSize history).entries ↔ Recent maxSize key history :=
  Lru.mem_run_touch maxSize history key

theorem ReplayCache.present_exact (maxSize : ℕ+) (history : List Bytes) :
    (∀ key, ((present maxSize history).checkAndAdd key).1 = false ↔
      key ∈ history ∧ (since key history).dedup.length < maxSize) ∧
    (∀ key, key ∈ (present maxSize history).entries ↔
      key ∈ history ∧ (since key history).dedup.length < maxSize) ∧
    (present maxSize history).entries = history.dedup.rtake maxSize ∧
    (present maxSize history).entries.Nodup ∧
    (present maxSize history).entries.length = min (maxSize : ℕ) history.dedup.length := by
  have hmem := present_mem maxSize history
  have hentries := present_entries maxSize history
  refine ⟨fun key => ?_, hmem, hentries, (present maxSize history).nodup, ?_⟩
  · rw [checkAndAdd, decide_eq_false_iff_not, not_not]
    exact hmem key
  · rw [hentries, List.rtake, List.length_drop]
    omega

example : (((ReplayCache.present 1 [[1], [2]]).checkAndAdd [2]).1,
    ((ReplayCache.present 1 [[1], [2]]).checkAndAdd [1]).1) = (false, true) := by decide

def timestampOk (timestamp now : ℤ) : Bool := decide (|now - timestamp| ≤ timestampWindow)

def envelopeReplayKey (senderUuid _requestId nonce : Bytes) : Bytes := senderUuid ++ nonce

def Envelope.replayKey (env : Envelope) : Bytes :=
  envelopeReplayKey env.senderUuid.bytes env.requestId.bytes env.nonce

lemma Envelope.replayKey_eq_iff {env env' : Envelope} :
    env.replayKey = env'.replayKey ↔ env.senderUuid = env'.senderUuid ∧ env.nonce = env'.nonce := by
  unfold replayKey envelopeReplayKey
  constructor
  · intro h
    have hlen : env.senderUuid.bytes.length = env'.senderUuid.bytes.length := by
      rw [env.senderUuid.size, env'.senderUuid.size]
    obtain ⟨hs, hn⟩ := List.append_inj h hlen
    exact ⟨by cases h : env.senderUuid; cases h' : env'.senderUuid; simp_all, hn⟩
  · rintro ⟨hs, hn⟩
    rw [hs, hn]

end Secupload.Shared
