import Mathlib.Algebra.Order.BigOperators.Group.Finset
import Mathlib.Data.Fintype.BigOperators
import Mathlib.Data.List.Duplicate
import Secupload.Library.Lru

/-! A bounded set of recent keys that workers share. Each worker presents keys one after the other,
and between two steps of one presentation the other workers may take any number of theirs. -/

namespace Secupload.Library

inductive Presenting (α : Type*)
  | idle
  | known (key : α)
  | fresh (key : α)
  | stored (key : α)
  | full (key : α)
  deriving DecidableEq

namespace Presenting

variable {α : Type*}

def removing : Presenting α → ℕ
  | .full _ => 1
  | _ => 0

-- a key has been stored, and the entry it may be too many for is still there
def settling : Presenting α → ℕ
  | .stored _ | .full _ => 1
  | _ => 0

lemma removing_le (p : Presenting α) : p.removing ≤ 1 := by
  cases p <;> simp [removing]

def granted : Presenting α → Option α
  | .fresh key | .stored key | .full key => some key
  | _ => none

end Presenting

-- `uses` are the keys in the order in which they came to the end, `admitted` those that were new
structure SharedLru (α ι : Type*) where
  entries : List α
  uses : List α
  phase : ι → Presenting α
  admitted : List α

namespace SharedLru

variable {α ι : Type*} [DecidableEq α] [DecidableEq ι]

inductive Event (α ι : Type*)
  | look (i : ι) (key : α)
  | next (i : ι)

def new : SharedLru α ι := ⟨[], [], fun _ => .idle, []⟩

def moveTo (w : SharedLru α ι) (i : ι) (p : Presenting α) : SharedLru α ι :=
  { w with phase := Function.update w.phase i p }

def use (w : SharedLru α ι) (entries : List α) (key : α) : SharedLru α ι :=
  { w with entries := entries, uses := w.uses ++ [key] }

def accept (w : SharedLru α ι) (key : α) : SharedLru α ι :=
  { w with admitted := w.admitted ++ [key] }

section Fields

omit [DecidableEq α]

variable (w : SharedLru α ι) (i : ι) (p : Presenting α) (entries : List α) (key : α)

@[simp] lemma moveTo_entries : (w.moveTo i p).entries = w.entries := rfl
@[simp] lemma moveTo_uses : (w.moveTo i p).uses = w.uses := rfl
@[simp] lemma moveTo_admitted : (w.moveTo i p).admitted = w.admitted := rfl
@[simp] lemma moveTo_phase : (w.moveTo i p).phase = Function.update w.phase i p := rfl

omit [DecidableEq ι]

@[simp] lemma use_entries : (w.use entries key).entries = entries := rfl
@[simp] lemma use_uses : (w.use entries key).uses = w.uses ++ [key] := rfl
@[simp] lemma use_admitted : (w.use entries key).admitted = w.admitted := rfl
@[simp] lemma use_phase : (w.use entries key).phase = w.phase := rfl
@[simp] lemma accept_entries : (w.accept key).entries = w.entries := rfl
@[simp] lemma accept_uses : (w.accept key).uses = w.uses := rfl
@[simp] lemma accept_admitted : (w.accept key).admitted = w.admitted ++ [key] := rfl
@[simp] lemma accept_phase : (w.accept key).phase = w.phase := rfl

end Fields

def step (n : ℕ) (w : SharedLru α ι) : Event α ι → SharedLru α ι
  | .look i key =>
    match w.phase i with
    | .idle => w.moveTo i (if key ∈ w.entries then .known key else .fresh key)
    | _ => w
  | .next i =>
    match w.phase i with
    | .idle => w
    | .known key =>
      -- a key that is gone by now is a `KeyError`
      if key ∈ w.entries then (w.use (w.entries.erase key ++ [key]) key).moveTo i .idle
      else w.moveTo i .idle
    | .fresh key =>
      -- assigning to a key that another worker has stored leaves it in its place
      if key ∈ w.entries then w.moveTo i (.stored key)
      else (w.use (w.entries ++ [key]) key).moveTo i (.stored key)
    | .stored key =>
      if n < w.entries.length then w.moveTo i (.full key)
      else (w.accept key).moveTo i .idle
    | .full key =>
      match w.entries with
      | [] => w.moveTo i .idle
      | _ :: rest => ({ w with entries := rest }.accept key).moveTo i .idle

inductive Step (n : ℕ) (w : SharedLru α ι) : Event α ι → SharedLru α ι → Prop
  | stay (ev : Event α ι) : Step n w ev w
  | found (i : ι) (key : α) (hi : w.phase i = .idle) (hkey : key ∈ w.entries) :
      Step n w (.look i key) (w.moveTo i (.known key))
  | missed (i : ι) (key : α) (hi : w.phase i = .idle) (hkey : key ∉ w.entries) :
      Step n w (.look i key) (w.moveTo i (.fresh key))
  | touch (i : ι) (key : α) (hi : w.phase i = .known key) (hkey : key ∈ w.entries) :
      Step n w (.next i) ((w.use (w.entries.erase key ++ [key]) key).moveTo i .idle)
  | gone (i : ι) (key : α) (hi : w.phase i = .known key) (hkey : key ∉ w.entries) :
      Step n w (.next i) (w.moveTo i .idle)
  | again (i : ι) (key : α) (hi : w.phase i = .fresh key) (hkey : key ∈ w.entries) :
      Step n w (.next i) (w.moveTo i (.stored key))
  | store (i : ι) (key : α) (hi : w.phase i = .fresh key) (hkey : key ∉ w.entries) :
      Step n w (.next i) ((w.use (w.entries ++ [key]) key).moveTo i (.stored key))
  | overfull (i : ι) (key : α) (hi : w.phase i = .stored key) (hlen : n < w.entries.length) :
      Step n w (.next i) (w.moveTo i (.full key))
  | fits (i : ι) (key : α) (hi : w.phase i = .stored key) (hlen : w.entries.length ≤ n) :
      Step n w (.next i) ((w.accept key).moveTo i .idle)
  | emptied (i : ι) (key : α) (hi : w.phase i = .full key) (hnil : w.entries = []) :
      Step n w (.next i) (w.moveTo i .idle)
  | evict (i : ι) (key oldest : α) (rest : List α) (hi : w.phase i = .full key)
      (hcons : w.entries = oldest :: rest) :
      Step n w (.next i) (({ w with entries := rest }.accept key).moveTo i .idle)

lemma step_cases (n : ℕ) (w : SharedLru α ι) (ev : Event α ι) : Step n w ev (step n w ev) := by
  cases ev with
  | look i key =>
    cases hi : w.phase i with
    | idle =>
      simp only [step, hi]
      split
      · exact .found i key hi ‹_›
      · exact .missed i key hi ‹_›
    | known key' => simpa only [step, hi] using Step.stay _
    | fresh key' => simpa only [step, hi] using Step.stay _
    | stored key' => simpa only [step, hi] using Step.stay _
    | full key' => simpa only [step, hi] using Step.stay _
  | next i =>
    cases hi : w.phase i with
    | idle => simpa only [step, hi] using Step.stay _
    | known key =>
      simp only [step, hi]
      split
      · exact .touch i key hi ‹_›
      · exact .gone i key hi ‹_›
    | fresh key =>
      simp only [step, hi]
      split
      · exact .again i key hi ‹_›
      · exact .store i key hi ‹_›
    | stored key =>
      simp only [step, hi]
      split
      · exact .overfull i key hi ‹_›
      · exact .fits i key hi (by omega)
    | full key =>
      cases hentries : w.entries with
      | nil => simpa only [step, hi, hentries] using Step.emptied i key hi hentries
      | cons oldest rest =>
        simpa only [step, hi, hentries] using Step.evict i key oldest rest hi hentries

section Alone

variable {n : ℕ} {w : SharedLru α ι} {i : ι} {key : α}

def presented (n : ℕ) (w : SharedLru α ι) (i : ι) (key : α) : SharedLru α ι :=
  run (step n) w [.look i key, .next i, .next i, .next i]

lemma presented_known (hi : w.phase i = .idle) (hkey : key ∈ w.entries) :
    presented n w i key = w.use (w.entries.erase key ++ [key]) key := by
  have hphase : Function.update w.phase i .idle = w.phase := by rw [← hi, Function.update_eq_self]
  have hlook : step n w (.look i key) = w.moveTo i (.known key) := by
    simp only [step, hi, if_pos hkey]
  have htouch : step n (w.moveTo i (.known key)) (.next i) =
      w.use (w.entries.erase key ++ [key]) key := by
    simp [step, hkey, moveTo, use, hphase]
  have hrest : step n (w.use (w.entries.erase key ++ [key]) key) (.next i) =
      w.use (w.entries.erase key ++ [key]) key := by
    simp only [step, use_phase, hi]
  rw [presented, run_cons, hlook, run_cons, htouch, run_cons, hrest, run_cons, hrest, run_nil]

lemma presented_fresh (hi : w.phase i = .idle) (hkey : key ∉ w.entries) :
    presented n w i key = (w.use (if n < w.entries.length + 1 then (w.entries ++ [key]).tail
      else w.entries ++ [key]) key).accept key := by
  have hphase : Function.update w.phase i .idle = w.phase := by rw [← hi, Function.update_eq_self]
  have hlook : step n w (.look i key) = w.moveTo i (.fresh key) := by
    simp only [step, hi, if_neg hkey]
  have hstore : step n (w.moveTo i (.fresh key)) (.next i) =
      (w.use (w.entries ++ [key]) key).moveTo i (.stored key) := by
    simp [step, hkey, moveTo, use]
  rw [presented, run_cons, hlook, run_cons, hstore, run_cons]
  by_cases hlen : n < w.entries.length + 1
  · have hover : step n ((w.use (w.entries ++ [key]) key).moveTo i (.stored key)) (.next i) =
        (w.use (w.entries ++ [key]) key).moveTo i (.full key) := by
      simp [step, hlen, moveTo, use]
    obtain ⟨oldest, rest, hcons⟩ : ∃ oldest rest, w.entries ++ [key] = oldest :: rest :=
      List.exists_cons_of_ne_nil (by simp)
    have hevict : step n ((w.use (w.entries ++ [key]) key).moveTo i (.full key)) (.next i) =
        (w.use rest key).accept key := by
      simp [step, hcons, moveTo, use, accept, hphase]
    rw [hover, run_cons, hevict, run_nil, if_pos hlen, hcons, List.tail_cons]
  · have hfits : step n ((w.use (w.entries ++ [key]) key).moveTo i (.stored key)) (.next i) =
        (w.use (w.entries ++ [key]) key).accept key := by
      simp [step, hlen, moveTo, use, accept, hphase]
    have hrest : step n ((w.use (w.entries ++ [key]) key).accept key) (.next i) =
        (w.use (w.entries ++ [key]) key).accept key := by
      simp only [step, accept_phase, use_phase, hi]
    rw [hfits, run_cons, hrest, run_nil, if_neg hlen]

lemma presented_touch (c : Lru α) (key : α) (hi : w.phase i = .idle) (hentries : w.entries = c.entries) :
    (presented c.capacity w i key).entries = (c.touch key).entries ∧
    (presented c.capacity w i key).admitted =
      (if key ∈ c.entries then w.admitted else w.admitted ++ [key]) := by
  have htouch : (c.touch key).entries = Lru.touchEntries c.capacity c.entries key := rfl
  rw [htouch, Lru.touchEntries, ← hentries]
  by_cases hkey : key ∈ w.entries
  · rw [presented_known hi hkey, if_pos hkey, if_pos hkey]
    exact ⟨rfl, rfl⟩
  · rw [presented_fresh hi hkey, if_neg hkey, if_neg hkey, List.length_append,
      List.length_singleton]
    exact ⟨rfl, rfl⟩

end Alone

lemma suffix_touch {entries uses : List α} {key : α} (h : entries <:+ uses.dedup)
    (hkey : key ∈ entries) : entries.erase key ++ [key] <:+ (uses ++ [key]).dedup := by
  obtain ⟨older, hsplit⟩ := h
  have hnodup := uses.nodup_dedup
  rw [← hsplit] at hnodup
  have hold : key ∉ older := fun hk => (List.nodup_append.mp hnodup).2.2 key hk key hkey rfl
  refine ⟨older, ?_⟩
  rw [dedup_concat, ← hsplit, List.erase_append_right _ hold, List.append_assoc]

lemma suffix_store {entries uses : List α} {key : α} (h : entries <:+ uses.dedup)
    (hkey : key ∉ entries) : entries ++ [key] <:+ (uses ++ [key]).dedup := by
  obtain ⟨older, hsplit⟩ := h
  refine ⟨older.erase key, ?_⟩
  have herase : (older ++ entries).erase key = older.erase key ++ entries := by
    by_cases hold : key ∈ older
    · rw [List.erase_append_left _ hold]
    · rw [List.erase_append_right _ hold, List.erase_of_not_mem hkey, List.erase_of_not_mem hold]
  rw [dedup_concat, ← hsplit, herase, List.append_assoc]

lemma dedup_length_of_mem {uses : List α} {key : α} (hkey : key ∈ uses) :
    (uses ++ [key]).dedup.length = uses.dedup.length := by
  have hmem := List.mem_dedup.mpr hkey
  have hpos := List.length_pos_of_mem hmem
  rw [dedup_concat, List.length_append, List.length_singleton, List.length_erase_of_mem hmem]
  omega

section Bounds

variable [Fintype ι]

omit [DecidableEq α] [DecidableEq ι]

def removing (w : SharedLru α ι) : ℕ := ∑ i, (w.phase i).removing

def settling (w : SharedLru α ι) : ℕ := ∑ i, (w.phase i).settling

lemma removing_le (w : SharedLru α ι) : w.removing ≤ Fintype.card ι := by
  rw [Fintype.card_eq_sum_ones]
  exact Finset.sum_le_sum fun i _ => (w.phase i).removing_le

lemma sum_moveTo [DecidableEq ι] (f : Presenting α → ℕ) (w : SharedLru α ι) (i : ι)
    (p : Presenting α) :
    ∑ j, f ((w.moveTo i p).phase j) + f (w.phase i) = ∑ j, f (w.phase j) + f p := by
  have hupdate : (fun j => f ((w.moveTo i p).phase j)) =
      Function.update (fun j => f (w.phase j)) i (f p) :=
    Function.comp_update f w.phase i p
  rw [hupdate, Finset.sum_update_of_mem (Finset.mem_univ i),
    Finset.sum_eq_add_sum_sdiff_singleton_of_mem (Finset.mem_univ i) fun j => f (w.phase j)]
  omega

lemma removing_moveTo [DecidableEq ι] {w : SharedLru α ι} {i : ι} {p q : Presenting α}
    (hi : w.phase i = p) : (w.moveTo i q).removing + p.removing = w.removing + q.removing := by
  rw [← hi]
  exact sum_moveTo Presenting.removing w i q

lemma settling_moveTo [DecidableEq ι] {w : SharedLru α ι} {i : ι} {p q : Presenting α}
    (hi : w.phase i = p) : (w.moveTo i q).settling + p.settling = w.settling + q.settling := by
  rw [← hi]
  exact sum_moveTo Presenting.settling w i q

-- once a key has been pushed out, or is about to be, the set is short of at most one entry for each
-- worker that is not removing one
structure Bounds [DecidableEq α] (n : ℕ) (w : SharedLru α ι) : Prop where
  suffix : w.entries <:+ w.uses.dedup
  upper : w.entries.length ≤ n + w.settling
  lower : w.entries.length < w.uses.dedup.length ∨ 0 < w.removing →
    n + 1 + w.removing ≤ w.entries.length + Fintype.card ι

lemma bounds_new [DecidableEq α] (n : ℕ) : Bounds n (new : SharedLru α ι) where
  suffix := List.nil_suffix
  upper := Nat.zero_le _
  lower := by simp [new, removing, Presenting.removing]

lemma Bounds.moveTo [DecidableEq α] [DecidableEq ι] {n : ℕ} {w : SharedLru α ι} (h : Bounds n w)
    {i : ι} {p q : Presenting α} (hi : w.phase i = p) (hr : q.removing = p.removing)
    (hs : p.settling ≤ q.settling) : Bounds n (w.moveTo i q) := by
  have hremoving := removing_moveTo (q := q) hi
  have hsettling := settling_moveTo (q := q) hi
  refine ⟨h.suffix, ?_, ?_⟩
  · have hupper := h.upper
    simp only [moveTo_entries]
    omega
  · have hlower := h.lower
    simp only [moveTo_entries, moveTo_uses]
    omega

lemma Bounds.touch [DecidableEq α] {n : ℕ} {w : SharedLru α ι} (h : Bounds n w) {key : α}
    (hkey : key ∈ w.entries) : Bounds n (w.use (w.entries.erase key ++ [key]) key) := by
  have hpos := List.length_pos_of_mem hkey
  have hlen : (w.entries.erase key ++ [key]).length = w.entries.length := by
    rw [List.length_append, List.length_erase_of_mem hkey, List.length_singleton]
    omega
  have huses := dedup_length_of_mem (List.mem_dedup.mp (h.suffix.subset hkey))
  refine ⟨suffix_touch h.suffix hkey, ?_, ?_⟩
  · rw [use_entries, hlen]
    exact h.upper
  · rw [use_entries, use_uses, hlen, huses]
    exact h.lower

lemma Bounds.store [DecidableEq α] [DecidableEq ι] {n : ℕ} {w : SharedLru α ι} (h : Bounds n w)
    {i : ι} {key : α} (hi : w.phase i = .fresh key) (hkey : key ∉ w.entries) :
    Bounds n ((w.use (w.entries ++ [key]) key).moveTo i (.stored key)) := by
  have hphase : (w.use (w.entries ++ [key]) key).phase i = .fresh key := hi
  have hremoving := removing_moveTo (q := .stored key) hphase
  have hsettling := settling_moveTo (q := .stored key) hphase
  have hsame : (w.use (w.entries ++ [key]) key).removing = w.removing ∧
      (w.use (w.entries ++ [key]) key).settling = w.settling := ⟨rfl, rfl⟩
  have huses : (w.uses ++ [key]).dedup.length ≤ w.uses.dedup.length + 1 := by
    have herase := List.length_erase_le (a := key) (l := w.uses.dedup)
    rw [dedup_concat, List.length_append, List.length_singleton]
    omega
  have hupper := h.upper
  have hlower := h.lower
  simp only [Presenting.removing, Presenting.settling] at hremoving hsettling
  refine ⟨suffix_store h.suffix hkey, ?_, ?_⟩
  · simp only [moveTo_entries, use_entries, List.length_append, List.length_singleton]
    omega
  · simp only [moveTo_entries, moveTo_uses, use_entries, use_uses, List.length_append,
      List.length_singleton]
    omega

lemma Bounds.overfull [DecidableEq α] [DecidableEq ι] {n : ℕ} {w : SharedLru α ι} (h : Bounds n w)
    {i : ι} {key : α} (hi : w.phase i = .stored key) (hlen : n < w.entries.length) :
    Bounds n (w.moveTo i (.full key)) := by
  have hremoving := removing_moveTo (q := .full key) hi
  have hsettling := settling_moveTo (q := .full key) hi
  have hcard := (w.moveTo i (.full key)).removing_le
  have hupper := h.upper
  simp only [Presenting.removing, Presenting.settling] at hremoving hsettling
  refine ⟨h.suffix, ?_, ?_⟩
  · simp only [moveTo_entries]
    omega
  · simp only [moveTo_entries, moveTo_uses]
    omega

lemma Bounds.leave [DecidableEq α] [DecidableEq ι] {n : ℕ} {w : SharedLru α ι} (h : Bounds n w)
    {i : ι} {p : Presenting α} (hi : w.phase i = p) (hlen : w.entries.length ≤ n) :
    Bounds n (w.moveTo i .idle) := by
  have hremoving := removing_moveTo (q := .idle) hi
  have hlower := h.lower
  simp only [Presenting.removing] at hremoving
  refine ⟨h.suffix, ?_, ?_⟩
  · simp only [moveTo_entries]
    omega
  · simp only [moveTo_entries, moveTo_uses]
    omega

lemma Bounds.evict [DecidableEq α] [DecidableEq ι] {n : ℕ} {w : SharedLru α ι} (h : Bounds n w)
    {i : ι} {key oldest : α} {rest : List α} (hi : w.phase i = .full key)
    (hcons : w.entries = oldest :: rest) :
    Bounds n (({ w with entries := rest }.accept key).moveTo i .idle) := by
  have hphase : ({ w with entries := rest }.accept key).phase i = .full key := hi
  have hremoving := removing_moveTo (q := .idle) hphase
  have hsettling := settling_moveTo (q := .idle) hphase
  have hsame : ({ w with entries := rest }.accept key).removing = w.removing ∧
      ({ w with entries := rest }.accept key).settling = w.settling := ⟨rfl, rfl⟩
  have hlen : w.entries.length = rest.length + 1 := by rw [hcons, List.length_cons]
  have hupper := h.upper
  have hlower := h.lower
  simp only [Presenting.removing, Presenting.settling] at hremoving hsettling
  refine ⟨?_, ?_, ?_⟩
  · exact (List.suffix_cons oldest rest).trans (hcons ▸ h.suffix)
  · simp only [moveTo_entries, accept_entries]
    omega
  · simp only [moveTo_entries, accept_entries, moveTo_uses, accept_uses]
    omega

lemma Bounds.step [DecidableEq α] [DecidableEq ι] {n : ℕ} {w w' : SharedLru α ι} {ev : Event α ι}
    (h : Bounds n w) (hstep : Step n w ev w') : Bounds n w' := by
  cases hstep with
  | stay => exact h
  | found i key hi hkey => exact h.moveTo hi rfl le_rfl
  | missed i key hi hkey => exact h.moveTo hi rfl le_rfl
  | touch i key hi hkey => exact (h.touch hkey).moveTo hi rfl le_rfl
  | gone i key hi hkey => exact h.moveTo hi rfl le_rfl
  | again i key hi hkey => exact h.moveTo hi rfl (Nat.zero_le _)
  | store i key hi hkey => exact h.store hi hkey
  | overfull i key hi hlen => exact h.overfull hi hlen
  | fits i key hi hlen =>
    have haccept : Bounds n (w.accept key) := ⟨h.suffix, h.upper, h.lower⟩
    exact haccept.leave hi hlen
  | emptied i key hi hnil => exact h.leave hi (by simp [hnil])
  | evict i key oldest rest hi hcons => exact h.evict hi hcons

variable [DecidableEq α] [DecidableEq ι]

lemma bounds_run (n : ℕ) (events : List (Event α ι)) :
    Bounds n (run (SharedLru.step n) (new : SharedLru α ι) events) :=
  run_invariant (fun _ ev h => h.step (step_cases n _ ev)) (bounds_new n) events

variable {n : ℕ} {w : SharedLru α ι}

omit [DecidableEq ι] in
lemma Bounds.entries_eq (h : Bounds n w) : w.entries = w.uses.dedup.rtake w.entries.length := by
  obtain ⟨older, hsplit⟩ := h.suffix
  rw [List.rtake, ← hsplit, List.length_append, Nat.add_sub_cancel, List.drop_left]

omit [DecidableEq ι] in
lemma Bounds.mem_iff (h : Bounds n w) (key : α) :
    key ∈ w.entries ↔ Recent w.entries.length key w.uses := by
  rw [← mem_rtake_dedup, ← h.entries_eq]

omit [DecidableEq ι] in
lemma Bounds.min_le (h : Bounds n w) :
    min w.uses.dedup.length (n + 1 - Fintype.card ι) ≤ w.entries.length := by
  have hlower := h.lower
  omega

omit [DecidableEq ι] in
lemma Bounds.mem_of_recent (h : Bounds n w) {key : α}
    (hkey : Recent (n + 1 - Fintype.card ι) key w.uses) : key ∈ w.entries := by
  have hmin := h.min_le
  have hsuffix := h.suffix.length_le
  rcases Nat.lt_or_ge w.entries.length w.uses.dedup.length with hlt | hge
  · exact (h.mem_iff key).mpr ⟨hkey.1, hkey.2.trans_le (by omega)⟩
  · rw [h.suffix.eq_of_length_le hge]
    exact List.mem_dedup.mpr hkey.1

omit [DecidableEq ι] in
lemma Bounds.recent_of_mem (h : Bounds n w) {key : α} (hkey : key ∈ w.entries) :
    Recent (n + w.settling) key w.uses :=
  have hrecent := (h.mem_iff key).mp hkey
  ⟨hrecent.1, hrecent.2.trans_le h.upper⟩

omit [DecidableEq ι] in
lemma Bounds.ne_nil (h : Bounds n w) (hn : Fintype.card ι ≤ n + 1) {i : ι} {key : α}
    (hi : w.phase i = .full key) : w.entries ≠ [] := by
  have hpos : 0 < w.removing := by
    have hle := Finset.single_le_sum (f := fun j => (w.phase j).removing)
      (fun j _ => Nat.zero_le _) (Finset.mem_univ i)
    simp only [hi, Presenting.removing] at hle
    exact hle
  have hlower := h.lower (Or.inr hpos)
  intro hnil
  rw [hnil, List.length_nil] at hlower
  omega

end Bounds

section Once

variable {key : α} {w w' : SharedLru α ι}

-- nobody looks for `key` while another worker has missed it and not stored it yet, and nobody does
-- when it has become an old one
def Unraced [Fintype ι] (n : ℕ) (key : α) (w : SharedLru α ι) : Event α ι → Prop
  | .look _ k => k = key → (∀ j, w.phase j ≠ .fresh key) ∧
      (key ∈ w.uses → Recent (n + 1 - Fintype.card ι) key w.uses)
  | .next _ => True

structure Once (key : α) (w : SharedLru α ι) : Prop where
  count : w.admitted.count key ≤ 1
  fresh : ∀ i, (w.phase i).granted = some key → key ∉ w.admitted
  single : ∀ i j, (w.phase i).granted = some key → (w.phase j).granted = some key → i = j
  admitted : key ∈ w.admitted → key ∈ w.uses
  used : ∀ i, w.phase i = .stored key ∨ w.phase i = .full key → key ∈ w.uses

omit [DecidableEq ι] in
lemma once_new : Once key (new : SharedLru α ι) where
  count := Nat.zero_le _
  fresh := by simp [new]
  single := by simp [new, Presenting.granted]
  admitted := by simp [new]
  used := by simp [new]

omit [DecidableEq ι] in
lemma Once.use (h : Once key w) (entries : List α) (k : α) : Once key (w.use entries k) where
  count := h.count
  fresh := h.fresh
  single := h.single
  admitted hmem := List.mem_append_left _ (h.admitted hmem)
  used i hi := List.mem_append_left _ (h.used i hi)

lemma Once.moveTo (h : Once key w) {i : ι} {p q : Presenting α} (hi : w.phase i = p)
    (hgranted : q.granted = some key → p.granted = some key)
    (hused : q = .stored key ∨ q = .full key → key ∈ w.uses) : Once key (w.moveTo i q) := by
  have hold : ∀ j, ((w.moveTo i q).phase j).granted = some key → (w.phase j).granted = some key := by
    intro j hj
    rw [moveTo_phase] at hj
    by_cases hji : j = i
    · subst hji
      rw [Function.update_self] at hj
      rw [hi]
      exact hgranted hj
    · rwa [Function.update_of_ne hji] at hj
  refine ⟨h.count, fun j hj => h.fresh j (hold j hj),
    fun j l hj hl => h.single j l (hold j hj) (hold l hl), h.admitted, fun j hj => ?_⟩
  rw [moveTo_phase] at hj
  by_cases hji : j = i
  · subst hji
    rw [Function.update_self] at hj
    exact hused hj
  · rw [Function.update_of_ne hji] at hj
    exact h.used j hj

lemma Once.miss (h : Once key w) {i : ι} (hnew : key ∉ w.uses)
    (hnone : ∀ j, w.phase j ≠ .fresh key) : Once key (w.moveTo i (.fresh key)) := by
  have hungranted : ∀ j, (w.phase j).granted ≠ some key := by
    intro j hj
    cases hphase : w.phase j with
    | idle => simp [hphase, Presenting.granted] at hj
    | known k => simp [hphase, Presenting.granted] at hj
    | fresh k =>
      rw [hphase, Presenting.granted, Option.some.injEq] at hj
      exact hnone j (hj ▸ hphase)
    | stored k =>
      rw [hphase, Presenting.granted, Option.some.injEq] at hj
      exact hnew (h.used j (Or.inl (hj ▸ hphase)))
    | full k =>
      rw [hphase, Presenting.granted, Option.some.injEq] at hj
      exact hnew (h.used j (Or.inr (hj ▸ hphase)))
  have honly : ∀ j, ((w.moveTo i (.fresh key)).phase j).granted = some key → j = i := by
    intro j hj
    by_contra hji
    rw [moveTo_phase, Function.update_of_ne hji] at hj
    exact hungranted j hj
  refine ⟨h.count, fun j _ hmem => hnew (h.admitted hmem),
    fun j l hj hl => (honly j hj).trans (honly l hl).symm, h.admitted, fun j hj => ?_⟩
  rw [moveTo_phase] at hj
  by_cases hji : j = i
  · subst hji
    simp at hj
  · rw [Function.update_of_ne hji] at hj
    exact h.used j hj

lemma Once.accept (h : Once key w) {i : ι} {k : α}
    (hi : w.phase i = .stored k ∨ w.phase i = .full k) : Once key ((w.accept k).moveTo i .idle) := by
  by_cases hk : k = key
  · subst hk
    have hgranted : (w.phase i).granted = some k := by
      rcases hi with hi | hi <;> rw [hi, Presenting.granted]
    have hold : ∀ j, (((w.accept k).moveTo i .idle).phase j).granted = some k → j = i := by
      intro j hj
      by_contra hji
      rw [moveTo_phase, Function.update_of_ne hji] at hj
      exact hji (h.single j i hj hgranted)
    have hidle : (((w.accept k).moveTo i .idle).phase i).granted ≠ some k := by
      simp [Presenting.granted]
    have hnone : ∀ j, (((w.accept k).moveTo i .idle).phase j).granted ≠ some k :=
      fun j hj => hidle (hold j hj ▸ hj)
    refine ⟨?_, fun j hj => (hnone j hj).elim, fun j _ hj => (hnone j hj).elim,
      fun _ => h.used i hi, fun j hj => ?_⟩
    · rw [moveTo_admitted, accept_admitted, List.count_append,
        List.count_eq_zero_of_not_mem (h.fresh i hgranted)]
      simp
    · refine (hnone j ?_).elim
      rcases hj with hj | hj <;> rw [hj, Presenting.granted]
  · have haccept : Once key (w.accept k) := by
      refine ⟨?_, fun j hj hmem => ?_, h.single, fun hmem => h.admitted ?_, h.used⟩
      · rw [accept_admitted, List.count_append, List.count_singleton, if_neg (by simpa using hk)]
        exact h.count
      · rw [accept_admitted, List.mem_append, List.mem_singleton] at hmem
        exact hmem.elim (h.fresh j hj) fun he => hk he.symm
      · rw [accept_admitted, List.mem_append, List.mem_singleton] at hmem
        exact hmem.resolve_right fun he => hk he.symm
    exact haccept.moveTo rfl (by simp [Presenting.granted]) (by simp)

variable [Fintype ι] {n : ℕ} {ev : Event α ι}

lemma Once.step (h : Once key w) (hbounds : Bounds n w) (hstep : Step n w ev w')
    (hunraced : Unraced n key w ev) : Once key w' := by
  cases hstep with
  | stay => exact h
  | found i k hi hkey => exact h.moveTo hi (by simp [Presenting.granted]) (by simp)
  | missed i k hi hkey =>
    by_cases hk : k = key
    · subst hk
      obtain ⟨hnone, hrecent⟩ := hunraced rfl
      exact h.miss (fun huses => hkey (hbounds.mem_of_recent (hrecent huses))) hnone
    · exact h.moveTo hi (by simpa [Presenting.granted] using hk) (by simp)
  | touch i k hi hkey => exact (h.use _ k).moveTo hi (by simp [Presenting.granted]) (by simp)
  | gone i k hi hkey => exact h.moveTo hi (by simp [Presenting.granted]) (by simp)
  | again i k hi hkey =>
    refine h.moveTo hi id fun hk => ?_
    obtain rfl : k = key := by simpa using hk
    exact List.mem_dedup.mp (hbounds.suffix.subset hkey)
  | store i k hi hkey =>
    refine (h.use _ k).moveTo hi id fun hk => ?_
    obtain rfl : k = key := by simpa using hk
    exact List.mem_append_right _ (List.mem_singleton_self k)
  | overfull i k hi hlen =>
    refine h.moveTo hi id fun hk => ?_
    obtain rfl : k = key := by simpa using hk
    exact h.used i (Or.inl hi)
  | fits i k hi hlen => exact h.accept (Or.inl hi)
  | emptied i k hi hnil => exact h.moveTo hi (by simp [Presenting.granted]) (by simp)
  | evict i k oldest rest hi hcons =>
    have hrest : Once key { w with entries := rest } :=
      ⟨h.count, h.fresh, h.single, h.admitted, h.used⟩
    exact hrest.accept (Or.inr hi)

lemma admitted_once {events : List (Event α ι)}
    (h : Along (SharedLru.step n) (Unraced n key) (new : SharedLru α ι) events) :
    ¬ List.Duplicate key (run (SharedLru.step n) (new : SharedLru α ι) events).admitted := by
  have hinv : Bounds n (run (SharedLru.step n) (new : SharedLru α ι) events) ∧
      Once key (run (SharedLru.step n) (new : SharedLru α ι) events) := by
    refine h.invariant (I := fun w => Bounds n w ∧ Once key w) (fun w ev hev hw => ?_)
      ⟨bounds_new n, once_new⟩
    have hstep := step_cases n w ev
    exact ⟨hw.1.step hstep, hw.2.step hw.1 hstep hev⟩
  rw [List.duplicate_iff_two_le_count]
  exact Nat.not_le.mpr (Nat.lt_succ_of_le hinv.2.count)

end Once

end SharedLru

end Secupload.Library
