import Secupload.Library.Interleaving
import Secupload.Server.Recovery

/-! Transitions of one identity by concurrent server threads: `_apply` split between its load
and its write-back. -/

namespace Secupload.Server.Database

open Library Shared

variable {ι : Type} [DecidableEq ι] (P : Primitives) (params : RotationParams) (I : Uuid)
  (calls : ι → Call)

def applyPlan (i : ι) (loaded : Option RotationEngine) : Option RotationEngine :=
  match loaded with
  | none => none
  | some e =>
    match ((calls i).transition I).exec P e with
    | (.error _, _) => none
    | (.ok _, e') => some e'

def threads : Calls Database (Option RotationEngine) RotationEngine ι where
  view := loadEngine params (I := I)
  plan := applyPlan P I calls
  write := saveAll

variable {P params I calls}

omit [DecidableEq ι] in
lemma alone_eq_call (db : Database) (i : ι) :
    (threads P params I calls).alone db i = (db.call P params I (calls i)).2 := by
  unfold Calls.alone call apply transact
  simp only [threads, applyPlan]
  cases db.loadEngine params I with
  | none => rfl
  | some e =>
    dsimp only
    rcases ((calls i).transition I).exec P e with ⟨_ | _, e'⟩ <;> rfl

def NeverRevived (I : Uuid) (before after : Database) : Prop :=
  ∀ v c c', before.credential I v = some c → c.status.dead = true →
    after.credential I v = some c' → c'.status.inWindow = false

lemma neverRevived_of_touches {db db' : Database} (h : Touches I db db') : NeverRevived I db db' := by
  intro v c c' hc hdead hc'
  obtain ⟨d, hd, hcd⟩ := h.own v c hc
  obtain rfl := Option.some.inj (hc'.symm.trans hd)
  exact CredentialStatus.not_inWindow_of_dead (hcd.dead hdead)

def committed (P : Primitives) (params : RotationParams) (I : Uuid) (calls : ι → Call)
    (db : Database) (events : List (Calls.Event ι)) :
    Calls.World Database (Option RotationEngine) RotationEngine ι :=
  run (threads P params I calls).step (Calls.start db) events

theorem fresh_transitions_serial (P : Primitives) (params : RotationParams) (I : Uuid)
    (calls : ι → Call) (db : Database) (events : List (Calls.Event ι))
    (hfresh : Along (threads P params I calls).step (threads P params I calls).Fresh
      (Calls.start db) events) :
    (∀ pre post, events = pre ++ post →
      NeverRevived I (committed P params I calls db pre).store
        (committed P params I calls db events).store) ∧
    ∃ order : List ι, order.Nodup ∧
      (∀ i, i ∈ order ↔ (committed P params I calls db events).phase i = .done) ∧
      (committed P params I calls db events).store =
        run (fun db i => (db.call P params I (calls i)).2) db order := by
  refine ⟨?_, ?_⟩
  · rintro pre post rfl
    apply neverRevived_of_touches
    apply Calls.relation_run (R := Touches I) (Touches.refl I) (fun _ _ _ => Touches.trans) _ hfresh
    intro db i
    rw [alone_eq_call]
    exact call_touches P params db I (calls i)
  · have hserial := Calls.serial_run hfresh
    refine ⟨_, hserial.nodup, hserial.done, hserial.store.trans ?_⟩
    exact congrArg (fun step => run step db _) (funext fun db => funext fun i => alone_eq_call db i)

def rollbackAndRevoke (i : ℕ) : Call := if i = 0 then .rollback 1001 else .revoke 1 1001

theorem sequential_threads_serial :
    ∃ order : List ℕ, order.Nodup ∧
      (committed transparent {} Uuid.nil rollbackAndRevoke (reached transparent {} rotatingRun)
          [.read 0, .commit 0, .read 1, .commit 1]).store =
        run (fun db i => (db.call transparent {} Uuid.nil (rollbackAndRevoke i)).2)
          (reached transparent {} rotatingRun) order := by
  obtain ⟨_, order, hnodup, _, hstore⟩ := fresh_transitions_serial transparent {} Uuid.nil
    rollbackAndRevoke (reached transparent {} rotatingRun) [.read 0, .commit 0, .read 1, .commit 1]
    (by decide +kernel)
  exact ⟨order, hnodup, hstore⟩

-- the rollback has read version 1 ACTIVE before its revocation commits, and writes it back after
theorem rollback_revives_revoked :
    ¬ ∀ (P : Primitives) (params : RotationParams) (ops : List RegistryOp) (I : Uuid)
      (calls : ℕ → Call) (pre post : List (Calls.Event ℕ)),
      NeverRevived I (committed P params I calls (reached P params ops) pre).store
        (committed P params I calls (reached P params ops) (pre ++ post)).store := by
  intro h
  have hrevived := h transparent {} rotatingRun Uuid.nil
    rollbackAndRevoke [.read 0, .read 1, .commit 1] [.commit 0] 1
    { identityUuid := Uuid.nil, version := 1, ed25519Public := demoKey 1, x25519Public := demoKey 2
      status := .revoked, createdAt := 1000, activationTime := some 1000
      expirationTime := some 130600 }
    { identityUuid := Uuid.nil, version := 1, ed25519Public := demoKey 1, x25519Public := demoKey 2
      status := .active, createdAt := 1000, activationTime := some 1000
      expirationTime := some 130600 }
    (by decide +kernel) rfl (by decide +kernel)
  cases hrevived

end Secupload.Server.Database
