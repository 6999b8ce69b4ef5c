import Secupload.Server.OwnRotation
import Secupload.Shared.StatusTable

/-! The durable writes of the server's own identity, and what a crash between them leaves. -/

namespace Secupload.Server

open Library Shared
open Shared.RotationEngine (WindowInv mem_of_byStatus)

inductive Stage
  | provision
  | submission
  | promotion
  deriving DecidableEq

-- what is on disk after a write: a commit of the rows, or the key file's replacement after it
inductive Write
  | commit (stage : Stage) (db : Database) (keyFile : Option KeyMap)
  | replace (db : Database) (keyFile : Option KeyMap)

def Write.db : Write → Database
  | .commit _ db _ | .replace db _ => db

def Write.keyFile : Write → Option KeyMap
  | .commit _ _ keyFile | .replace _ keyFile => keyFile

inductive LifeEvent
  | tick (fresh successor : PrivateKeys) (now : ℤ)
  -- the process dies in the tick, after so many of its writes, and another one is started
  | crash (fresh successor : PrivateKeys) (now : ℤ) (writes : ℕ)

namespace ServerState

section Definitions

variable (P : Primitives) (cfg : ServerConfig) (s : ServerState)

def persistWrites (stage : Stage) : List Write :=
  [.commit stage s.persist.db s.keyFile, .replace s.persist.db s.persist.keyFile]

def provisionWrites (k : PrivateKeys) (now : ℤ) : List Write :=
  match s.identity.toHolder.provision P cfg.serverUuid k now with
  | (.error _, _) => []
  | (.ok (), h) => (s.withHolder h).persistWrites .provision

def loadWrites (k : PrivateKeys) (now : ℤ) : List Write :=
  if s.identity.loaded then []
  else
    match s.db.loadEngine cfg.params cfg.serverUuid with
    | none => s.provisionWrites P cfg k now
    | some _ => []

def submitWrites (active : CredentialPublic) (k : PrivateKeys) (now : ℤ) : List Write :=
  match s.identity.toHolder.generateSuccessor P cfg.serverUuid active k now with
  | (.error _, _) => []
  | (.ok _, h) => (s.withHolder h).persistWrites .submission

def promoteWrites (now : ℤ) : List Write :=
  match s.identity.engine.validating with
  | none => []
  | some validating =>
    if now < validating.validationDeadline.getD 0 then []
    else
      match s.identity.toHolder.checkpoint now with
      | (.error _, _) => []
      | (.ok _, h) => (s.withHolder h).persistWrites .promotion

def rotateWrites (k : PrivateKeys) (now : ℤ) : List Write :=
  match s.identity.engine.active with
  | none => []
  | some active =>
    let rotateAt := intOr active.expirationTime now - 2 * cfg.params.fallbackPeriod
    if s.identity.engine.validating = none ∧ rotateAt ≤ now then
      s.submitWrites P cfg active k now ++
        match s.submitSuccessor P cfg active k now with
        | (.error _, _) => []
        | (.ok (), s) => s.promoteWrites now
    else s.promoteWrites now

def maybeRotateWrites (fresh successor : PrivateKeys) (now : ℤ) : List Write :=
  s.loadWrites P cfg fresh now ++
    match s.ensureLoaded P cfg fresh now with
    | (.error _, _) => []
    | (.ok (), s) => s.rotateWrites P cfg successor now

def lastWrite (fresh successor : PrivateKeys) (now : ℤ) (writes : ℕ) : Option Write :=
  ((s.maybeRotateWrites P cfg fresh successor now).take writes).getLast?

def lifeStep (s : ServerState) : LifeEvent → ServerState
  | .tick fresh successor now => (s.maybeRotate P cfg fresh successor now).2
  | .crash fresh successor now writes =>
    match s.lastWrite P cfg fresh successor now writes with
    | none => start cfg s.db s.keyFile
    | some w => start cfg w.db w.keyFile

def Untorn (s : ServerState) : LifeEvent → Prop
  | .tick .. => True
  | .crash fresh successor now writes => ∀ stage db keyFile,
    s.lastWrite P cfg fresh successor now writes = some (.commit stage db keyFile) → stage = .promotion

def Serves : Prop :=
  ∃ c k, s.credential = .ok c ∧ s.activeKeys = .ok k ∧ k.Match P c

structure Consistent : Prop where
  running : s.identity.loaded = true → s.Serves P
  restart : ∀ k now, ∃ s', (start cfg s.db s.keyFile).ensureLoaded P cfg k now = (.ok (), s') ∧ s'.Serves P

end Definitions

section Writes

variable {P : Primitives} {cfg : ServerConfig} {s s' s'' : ServerState} {ws ws' : List Write}

def Leaves (s : ServerState) (ws : List Write) (s' : ServerState) : Prop :=
  match ws.getLast? with
  | none => s'.db = s.db ∧ s'.keyFile = s.keyFile
  | some w => s'.db = w.db ∧ s'.keyFile = w.keyFile

lemma Leaves.append (h : Leaves s ws s') (h' : Leaves s' ws' s'') : Leaves s (ws ++ ws') s'' := by
  rw [Leaves] at h h' ⊢
  rw [List.getLast?_append]
  cases hlast : ws'.getLast? with
  | some w =>
    rw [hlast] at h'
    exact h'
  | none =>
    rw [hlast] at h'
    rw [h'.1, h'.2]
    exact h

variable (P cfg s) in
lemma submitWrites_leaves (active : CredentialPublic) (k : PrivateKeys) (now : ℤ) :
    Leaves s (s.submitWrites P cfg active k now) (s.submitSuccessor P cfg active k now).2 := by
  rw [submitWrites, submitSuccessor]
  generalize s.identity.toHolder.generateSuccessor P cfg.serverUuid active k now = submitted
  obtain ⟨exc | _, h⟩ := submitted
  · exact ⟨rfl, rfl⟩
  · exact ⟨rfl, rfl⟩

lemma promoteWrites_leaves (now : ℤ) : Leaves s (s.promoteWrites now) (s.promote now).2 := by
  rw [promoteWrites, promote]
  cases s.identity.engine.validating with
  | none => exact ⟨rfl, rfl⟩
  | some validating =>
    dsimp only
    split_ifs
    · exact ⟨rfl, rfl⟩
    · generalize s.identity.toHolder.checkpoint now = checked
      obtain ⟨exc | changed, h⟩ := checked
      · cases exc <;> exact ⟨rfl, rfl⟩
      · exact ⟨rfl, rfl⟩

variable (P cfg s) in
lemma rotateWrites_leaves (k : PrivateKeys) (now : ℤ) :
    Leaves s (s.rotateWrites P cfg k now) (s.rotate P cfg k now).2 := by
  rw [rotateWrites, rotate]
  cases s.identity.engine.active with
  | none => exact ⟨rfl, rfl⟩
  | some active =>
    have hsubmit := submitWrites_leaves P cfg s active k now
    dsimp only
    split_ifs
    · generalize s.submitSuccessor P cfg active k now = submitted at hsubmit
      obtain ⟨exc | _, s'⟩ := submitted
      · rw [List.append_nil]
        split
        · rename_i hresult
          obtain ⟨_, rfl⟩ := Prod.mk.inj hresult
          exact hsubmit
        · rename_i hresult
          obtain ⟨_, rfl⟩ := Prod.mk.inj hresult
          exact hsubmit
        · rename_i hresult
          cases (Prod.mk.inj hresult).1
      · exact hsubmit.append (promoteWrites_leaves now)
    · exact promoteWrites_leaves now

variable (P cfg s) in
lemma loadWrites_leaves (k : PrivateKeys) (now : ℤ) :
    Leaves s (s.loadWrites P cfg k now) (s.ensureLoaded P cfg k now).2 := by
  rw [loadWrites, ensureLoaded]
  split_ifs
  · exact ⟨rfl, rfl⟩
  · cases s.db.loadEngine cfg.params cfg.serverUuid with
    | none =>
      rw [provisionWrites, provision]
      generalize s.identity.toHolder.provision P cfg.serverUuid k now = provisioned
      obtain ⟨exc | _, h⟩ := provisioned
      · exact ⟨rfl, rfl⟩
      · exact ⟨rfl, rfl⟩
    | some e =>
      dsimp only
      split
      · exact ⟨rfl, rfl⟩
      · exact ⟨rfl, rfl⟩

variable (P cfg s) in
lemma maybeRotateWrites_leaves (fresh successor : PrivateKeys) (now : ℤ) :
    Leaves s (s.maybeRotateWrites P cfg fresh successor now)
      (s.maybeRotate P cfg fresh successor now).2 := by
  have hload := loadWrites_leaves P cfg s fresh now
  rw [maybeRotateWrites, maybeRotate]
  generalize s.ensureLoaded P cfg fresh now = loaded at hload
  obtain ⟨exc | _, s'⟩ := loaded
  · rw [List.append_nil]
    exact hload
  · exact hload.append (rotateWrites_leaves P cfg s' successor now)

lemma lifeStep_crash_late {fresh successor : PrivateKeys} {now : ℤ} {writes : ℕ}
    (h : (s.maybeRotateWrites P cfg fresh successor now).length ≤ writes) :
    s.lifeStep P cfg (.crash fresh successor now writes) =
      start cfg (s.maybeRotate P cfg fresh successor now).2.db
        (s.maybeRotate P cfg fresh successor now).2.keyFile := by
  have hleaves := maybeRotateWrites_leaves P cfg s fresh successor now
  rw [lifeStep, lastWrite, List.take_of_length_le h]
  rw [Leaves] at hleaves
  split
  · rename_i hlast
    rw [hlast] at hleaves
    rw [hleaves.1, hleaves.2]
  · rename_i w hlast
    rw [hlast] at hleaves
    rw [hleaves.1, hleaves.2]

end Writes

structure Restorable (P : Primitives) (e : RotationEngine) (keys : KeyMap) : Prop where
  window : WindowInv e
  active : e.active ≠ none
  keyed : ∀ c ∈ e.creds.rows, ∃ k, keys.keysFor c.version = some k ∧ k.Match P c

def Whole (P : Primitives) (cfg : ServerConfig) (db : Database) (keyFile : Option KeyMap) : Prop :=
  db.loadEngine cfg.params cfg.serverUuid = none ∨
    ∃ e keys, db.loadEngine cfg.params cfg.serverUuid = some e ∧ keyFile = some keys ∧ Restorable P e keys

structure Alive (P : Primitives) (cfg : ServerConfig) (s : ServerState) : Prop where
  rotating : s.Rotating cfg
  memory : Restorable P s.identity.engine s.identity.keys
  keyFile : s.keyFile = some s.identity.keys
  stored : ∃ e, s.db.loadEngine cfg.params cfg.serverUuid = some e ∧ Restorable P e s.identity.keys
  kept : ∀ v, s.db.credential cfg.serverUuid v ≠ none → s.identity.engine.get v ≠ none

section Stored

variable {P : Primitives} {cfg : ServerConfig} {db : Database} {I : Uuid}
  {s : ServerState} {e e' : RotationEngine} {keys : KeyMap} {k : PrivateKeys} {now : ℤ}

lemma credential_saved (hbelongs : e.BelongsTo I) (hkept : ∀ v, db.credential I v ≠ none → e.get v ≠ none)
    (v : ℤ) : (db.saveAll e).credential I v = e.get v := by
  rw [Database.credential_saveAll hbelongs, if_pos rfl]
  cases hget : e.get v with
  | some c => rfl
  | none =>
    have hnone : db.credential I v = none := by
      by_contra hsome
      exact hkept v hsome hget
    rw [hnone]
    rfl

lemma loadEngine_saveAll (params : RotationParams) (hbelongs : e.BelongsTo I) (hactive : e.active ≠ none)
    (hkept : ∀ v, db.credential I v ≠ none → e.get v ≠ none) :
    ∃ e', (db.saveAll e).loadEngine params I = some e' ∧
      ∀ c, c ∈ e'.creds.rows ↔ c ∈ e.creds.rows := by
  have hcredential := credential_saved hbelongs hkept
  obtain ⟨a, ha⟩ := Option.ne_none_iff_exists'.mp hactive
  cases hload : (db.saveAll e).loadEngine params I with
  | none =>
    have hnone := Database.loadEngine_eq_none.mp hload a.version
    rw [hcredential, RotationEngine.get_of_mem (mem_of_byStatus ha).1] at hnone
    cases hnone
  | some e' =>
    refine ⟨e', rfl, fun c => ?_⟩
    have hget : e'.get c.version = e.get c.version :=
      (Database.loadEngine_get hload c.version).trans (hcredential c.version)
    constructor
    · intro hc
      rw [RotationEngine.get_of_mem hc] at hget
      exact (RotationEngine.get_eq_some.mp hget.symm).1
    · intro hc
      rw [RotationEngine.get_of_mem hc] at hget
      exact (RotationEngine.get_eq_some.mp hget).1

lemma Restorable.congr (h : Restorable P e keys) (hsame : ∀ c, c ∈ e'.creds.rows ↔ c ∈ e.creds.rows) :
    Restorable P e' keys where
  window := h.window.congr hsame
  active := by
    obtain ⟨c, hc, hs⟩ := RotationEngine.active_ne_none.mp h.active
    exact RotationEngine.active_ne_none.mpr ⟨c, (hsame c).mpr hc, hs⟩
  keyed := fun c hc => h.keyed c ((hsame c).mp hc)

lemma alive_persist {h : Holder} (hloaded : s.identity.loaded = true) (hparams : h.engine.params = cfg.params)
    (hbelongs : h.engine.BelongsTo cfg.serverUuid) (hrestorable : Restorable P h.engine h.keys)
    (hkept : ∀ v, s.db.credential cfg.serverUuid v ≠ none → h.engine.get v ≠ none) :
    ((s.withHolder h).persist).Alive P cfg := by
  obtain ⟨e', hload, hsame⟩ := loadEngine_saveAll cfg.params hbelongs hrestorable.active hkept
  refine ⟨⟨hloaded, hparams, hrestorable.window, hbelongs⟩, hrestorable, rfl,
    ⟨e', hload, hrestorable.congr hsame⟩, fun v hv => ?_⟩
  change (s.db.saveAll h.engine).credential cfg.serverUuid v ≠ none at hv
  rw [Database.credential_saveAll hbelongs, if_pos rfl] at hv
  intro hnone
  change h.engine.get v = none at hnone
  rw [hnone] at hv
  exact hkept v hv hnone

lemma Alive.whole (h : s.Alive P cfg) : Whole P cfg s.db s.keyFile := by
  obtain ⟨e, hload, hrestorable⟩ := h.stored
  exact Or.inr ⟨e, _, hload, h.keyFile, hrestorable⟩

lemma serves_of_restorable (h : Restorable P s.identity.engine s.identity.keys) : s.Serves P := by
  obtain ⟨c, hc⟩ := Option.ne_none_iff_exists'.mp h.active
  obtain ⟨k, hk, hmatch⟩ := h.keyed c (mem_of_byStatus hc).1
  exact ⟨c, k, by rw [credential, hc], activeKeys_eq_ok.mpr ⟨c, hc, hk⟩, hmatch⟩

end Stored

def Safe (P : Primitives) (cfg : ServerConfig) : Write → Prop
  | .commit stage db keyFile => stage = .promotion → Whole P cfg db keyFile
  | .replace db keyFile => Whole P cfg db keyFile

section Steps

variable {P : Primitives} {cfg : ServerConfig} {s : ServerState} {e : RotationEngine} {keys : KeyMap}
  {k : PrivateKeys} {now : ℤ}

lemma persistWrites_safe {stage : Stage} (h : s.persist.Alive P cfg)
    (hpromotion : stage = .promotion → s.keyFile = some s.identity.keys) :
    ∀ w ∈ s.persistWrites stage, Safe P cfg w := by
  intro w hw
  have hwhole := h.whole
  rcases List.mem_pair.mp hw with rfl | rfl
  · intro hstage
    rw [hpromotion hstage]
    exact hwhole
  · exact hwhole

lemma Restorable.put_new (h : Restorable P e keys) {n : CredentialPublic}
    (hnew : ∀ c ∈ e.creds.rows, c.version < n.version) (hwindow : WindowInv (e.put n))
    (hmatch : k.Match P n) : Restorable P (e.put n) (keys.add n.version k) where
  window := hwindow
  active := by
    obtain ⟨a, ha⟩ := Option.ne_none_iff_exists'.mp h.active
    exact RotationEngine.active_put_ne ha (hnew a (mem_of_byStatus ha).1).ne
  keyed := by
    intro c hc
    rcases RotationEngine.mem_put.mp hc with rfl | ⟨hc, hne⟩
    · exact ⟨k, (KeyMap.keysFor_add _ _ _ _).trans (if_pos rfl), hmatch⟩
    · obtain ⟨j, hj, hjmatch⟩ := h.keyed c hc
      exact ⟨j, (KeyMap.keysFor_add _ _ _ _).trans ((if_neg (Ne.symm hne)).trans hj), hjmatch⟩

lemma get_put_ne_none {c : CredentialPublic} {v : ℤ} (h : e.get v ≠ none) : (e.put c).get v ≠ none := by
  rw [RotationEngine.get_put]
  split
  · exact Option.some_ne_none _
  · exact h

lemma Alive.submitSuccessor (h : s.Alive P cfg) (active : CredentialPublic) (k : PrivateKeys) (now : ℤ) :
    (s.submitSuccessor P cfg active k now).2.Alive P cfg ∧
      ∀ w ∈ s.submitWrites P cfg active k now, Safe P cfg w := by
  rw [ServerState.submitSuccessor, submitWrites]
  rcases Holder.generateSuccessor_cases P cfg.serverUuid s.identity.toHolder active k now with
    ⟨exc, he⟩ | ⟨signer, payload, _, _, hs, he⟩
  · rw [he]
    exact ⟨h, fun w hw => by cases hw⟩
  · rw [he]
    have hwindow := hs.window h.memory.window
    let n := RotationEngine.submitted s.identity.engine.params
      (credentialOf P cfg.serverUuid (active.version + 1) k) now
    have hrestorable : Restorable P (s.identity.engine.put n) (s.identity.keys.add n.version k) :=
      h.memory.put_new hs.newest hwindow ⟨rfl, rfl⟩
    let holder : Holder := ⟨s.identity.engine.put n, s.identity.keys.add n.version k⟩
    have halive : ((s.withHolder holder).persist).Alive P cfg :=
      alive_persist h.rotating.loaded h.rotating.params (h.rotating.belongs.put rfl) hrestorable
        fun v hv => get_put_ne_none (h.kept v hv)
    exact ⟨halive, persistWrites_safe halive fun h => by cases h⟩

lemma promote_writes (s : ServerState) (now : ℤ) : s.promoteWrites now = [] ∨
    ∃ h : Holder, h.keys = s.identity.keys ∧ (s.promote now).2 = (s.withHolder h).persist ∧
      s.promoteWrites now = (s.withHolder h).persistWrites .promotion := by
  rw [promoteWrites, promote]
  cases s.identity.engine.validating with
  | none => exact Or.inl rfl
  | some validating =>
    dsimp only
    split_ifs
    · exact Or.inl rfl
    · have hkeys : (s.identity.toHolder.checkpoint now).2.keys = s.identity.keys := rfl
      generalize s.identity.toHolder.checkpoint now = checked at hkeys
      obtain ⟨exc | changed, h⟩ := checked
      · exact Or.inl rfl
      · exact Or.inr ⟨h, hkeys, rfl, rfl⟩

lemma Alive.promote (h : s.Alive P cfg) (now : ℤ) :
    (s.promote now).2.Alive P cfg ∧ ∀ w ∈ s.promoteWrites now, Safe P cfg w := by
  have hmemory : Restorable P (s.promote now).2.identity.engine (s.promote now).2.identity.keys := by
    refine ⟨(promote_keepsOthers h.rotating now).rotating.window, promote_active s now h.memory.active,
      fun d hd => ?_⟩
    obtain ⟨c, hc, hcd⟩ := promote_rows s now hd
    obtain ⟨k, hk, hmatch⟩ := h.memory.keyed c hc
    exact ⟨k, by rw [promote_keys, hcd.version, hk], hmatch.evolves hcd⟩
  have hrotating := (promote_keepsOthers h.rotating now).rotating
  have halive : (s.promote now).2.Alive P cfg := by
    rcases promote_cases s now with ⟨_, he⟩ | ⟨_, v3, hv3, he⟩ | ⟨_, v2, v3, hv2, hv3, he⟩
    · rw [he]
      exact h
    · rw [he] at hmemory hrotating ⊢
      exact ⟨hrotating, hmemory, h.keyFile, h.stored, fun v hv => get_put_ne_none (h.kept v hv)⟩
    · rw [he] at hmemory hrotating ⊢
      refine alive_persist hrotating.loaded hrotating.params hrotating.belongs hmemory fun v hv => ?_
      obtain ⟨c, hc⟩ := Option.ne_none_iff_exists'.mp (h.kept v hv)
      obtain ⟨c', hc', _⟩ := (s.identity.engine.evolves_promote now hv2 hv3).cred v c hc
      exact Option.ne_none_iff_exists'.mpr ⟨c', hc'⟩
  refine ⟨halive, ?_⟩
  rcases promote_writes s now with hnone | ⟨holder, hkeys, hpromote, hwrites⟩
  · rw [hnone]
    exact fun w hw => by cases hw
  · rw [hpromote] at halive
    rw [hwrites]
    apply persistWrites_safe halive
    intro _
    change s.keyFile = some holder.keys
    rw [hkeys]
    exact h.keyFile

lemma Alive.rotate (h : s.Alive P cfg) (k : PrivateKeys) (now : ℤ) :
    (s.rotate P cfg k now).2.Alive P cfg ∧ ∀ w ∈ s.rotateWrites P cfg k now, Safe P cfg w := by
  obtain ⟨active, hactive⟩ := Option.ne_none_iff_exists'.mp h.memory.active
  have hsubmit := h.submitSuccessor active k now
  have hpromote := h.promote now
  rw [ServerState.rotate, rotateWrites, hactive]
  dsimp only
  split_ifs
  · generalize s.submitSuccessor P cfg active k now = submitted at hsubmit
    obtain ⟨hsubmitted, hwrites⟩ := hsubmit
    obtain ⟨exc | _, s'⟩ := submitted
    · refine ⟨?_, fun w hw => hwrites w (by simpa using hw)⟩
      split
      · rename_i hresult
        obtain ⟨_, rfl⟩ := Prod.mk.inj hresult
        exact hsubmitted
      · rename_i hresult
        obtain ⟨_, rfl⟩ := Prod.mk.inj hresult
        exact hsubmitted
      · rename_i hresult
        cases (Prod.mk.inj hresult).1
    · obtain ⟨halive, hpromoted⟩ := Alive.promote hsubmitted now
      refine ⟨halive, fun w hw => ?_⟩
      rcases List.mem_append.mp hw with hw | hw
      · exact hwrites w hw
      · exact hpromoted w hw
  · exact hpromote

def resumed (cfg : ServerConfig) (db : Database) (e : RotationEngine) (keys : KeyMap) : ServerState :=
  ((start cfg db (some keys)).withHolder ⟨e, keys⟩).markLoaded

lemma ensureLoaded_resumed {db : Database} (hload : db.loadEngine cfg.params cfg.serverUuid = some e)
    (k : PrivateKeys) (now : ℤ) :
    (start cfg db (some keys)).ensureLoaded P cfg k now = (.ok (), resumed cfg db e keys) := by
  rw [ensureLoaded, if_neg (by simp [start])]
  simp only [start, hload, loadKeys]
  rfl

lemma alive_resumed {db : Database} (hload : db.loadEngine cfg.params cfg.serverUuid = some e)
    (hrestorable : Restorable P e keys) : (resumed cfg db e keys).Alive P cfg := by
  refine ⟨⟨rfl, (Database.loadEngine_rows hload).1, hrestorable.window,
    Database.loadEngine_belongs hload⟩, hrestorable, rfl, ⟨e, hload, hrestorable⟩, fun v hv => ?_⟩
  rwa [show (resumed cfg db e keys).identity.engine.get v = _ from Database.loadEngine_get hload v]

lemma load_alive {db : Database} {keyFile : Option KeyMap} (h : Whole P cfg db keyFile)
    (k : PrivateKeys) (now : ℤ) :
    ∃ s', (start cfg db keyFile).ensureLoaded P cfg k now = (.ok (), s') ∧ s'.Alive P cfg ∧
      ∀ w ∈ (start cfg db keyFile).loadWrites P cfg k now, Safe P cfg w := by
  rcases h with hnone | ⟨e, keys, hload, hfile, hrestorable⟩
  · let e := (RotationEngine.new cfg.params).put
      (RotationEngine.provisioned cfg.params (credentialOf P cfg.serverUuid 1 k) now)
    let holder : Holder := ⟨e, KeyMap.add Table.empty 1 k⟩
    have hblank : ∀ v, db.credential cfg.serverUuid v = none := Database.loadEngine_eq_none.mp hnone
    have hwindow : WindowInv e := RotationEngine.windowInv_step P
      (RotationEngine.windowInv_new cfg.params)
      (.provisionInitial (credentialOf P cfg.serverUuid 1 k) now)
    have hrows : ∀ c ∈ e.creds.rows, c = RotationEngine.provisioned cfg.params
        (credentialOf P cfg.serverUuid 1 k) now := fun c hc => List.mem_singleton.mp hc
    have hrestorable : Restorable P e holder.keys := by
      refine ⟨hwindow, RotationEngine.active_put rfl, fun c hc => ⟨k, ?_⟩⟩
      rw [hrows c hc]
      exact ⟨rfl, rfl, rfl⟩
    have halive : ((({ start cfg db keyFile with identity := ⟨Holder.new cfg.params, true⟩ } :
        ServerState).withHolder holder).persist).Alive P cfg := by
      refine alive_persist rfl rfl (fun c hc => ?_) hrestorable fun v hv => (hv (hblank v)).elim
      rw [hrows c hc]
      rfl
    refine ⟨_, ensureLoaded_first P cfg db keyFile k now hnone, halive, ?_⟩
    have hwrites : (start cfg db keyFile).loadWrites P cfg k now =
        [.commit .provision (db.saveAll e) keyFile, .replace (db.saveAll e) (some holder.keys)] := by
      rw [loadWrites, if_neg (by simp [start])]
      simp only [start, hnone, provisionWrites, Holder.provision_new]
      rfl
    rw [hwrites]
    intro w hw
    rcases List.mem_pair.mp hw with rfl | rfl
    · exact fun h => by cases h
    · exact halive.whole
  · rw [hfile]
    refine ⟨_, ensureLoaded_resumed hload k now, alive_resumed hload hrestorable, ?_⟩
    rw [loadWrites, if_neg (by simp [start])]
    simp only [start, hload]
    exact fun w hw => by cases hw

def Live (P : Primitives) (cfg : ServerConfig) (s : ServerState) : Prop :=
  s.Alive P cfg ∨ ∃ db keyFile, s = start cfg db keyFile ∧ Whole P cfg db keyFile

lemma Live.whole (h : s.Live P cfg) : Whole P cfg s.db s.keyFile := by
  rcases h with h | ⟨db, keyFile, rfl, h⟩
  · exact h.whole
  · exact h

lemma Live.load (h : s.Live P cfg) (k : PrivateKeys) (now : ℤ) :
    ∃ s', s.ensureLoaded P cfg k now = (.ok (), s') ∧ s'.Alive P cfg ∧
      ∀ w ∈ s.loadWrites P cfg k now, Safe P cfg w := by
  rcases h with h | ⟨db, keyFile, rfl, h⟩
  · refine ⟨s, ensureLoaded_loaded h.rotating.loaded k now, h, fun w hw => ?_⟩
    rw [loadWrites, if_pos h.rotating.loaded] at hw
    cases hw
  · exact load_alive h k now

lemma Live.maybeRotate (h : s.Live P cfg) (fresh successor : PrivateKeys) (now : ℤ) :
    (s.maybeRotate P cfg fresh successor now).2.Alive P cfg ∧
      ∀ w ∈ s.maybeRotateWrites P cfg fresh successor now, Safe P cfg w := by
  obtain ⟨s', hload, halive, hwrites⟩ := h.load fresh now
  obtain ⟨hrotated, hrotateWrites⟩ := halive.rotate successor now
  rw [ServerState.maybeRotate, maybeRotateWrites, hload]
  refine ⟨hrotated, fun w hw => ?_⟩
  rcases List.mem_append.mp hw with hw | hw
  · exact hwrites w hw
  · exact hrotateWrites w hw

lemma Live.step (h : s.Live P cfg) {ev : LifeEvent} (huntorn : s.Untorn P cfg ev) :
    (s.lifeStep P cfg ev).Live P cfg := by
  cases ev with
  | tick fresh successor now => exact Or.inl (h.maybeRotate fresh successor now).1
  | crash fresh successor now writes =>
    rw [lifeStep]
    cases hlast : s.lastWrite P cfg fresh successor now writes with
    | none => exact Or.inr ⟨s.db, s.keyFile, rfl, h.whole⟩
    | some w =>
      have hmem : w ∈ s.maybeRotateWrites P cfg fresh successor now :=
        List.mem_of_mem_take (List.mem_of_getLast? hlast)
      have hsafe := (h.maybeRotate fresh successor now).2 w hmem
      cases w with
      | commit stage db keyFile =>
        exact Or.inr ⟨db, keyFile, rfl, hsafe (huntorn stage db keyFile hlast)⟩
      | replace db keyFile => exact Or.inr ⟨db, keyFile, rfl, hsafe⟩

lemma Live.consistent (h : s.Live P cfg) : s.Consistent P cfg where
  running := by
    intro hloaded
    rcases h with h | ⟨db, keyFile, rfl, _⟩
    · exact serves_of_restorable h.memory
    · cases hloaded
  restart := by
    intro k now
    obtain ⟨s', hload, halive, _⟩ := load_alive h.whole k now
    exact ⟨s', hload, serves_of_restorable halive.memory⟩

end Steps

theorem crash_consistent (P : Primitives) (cfg : ServerConfig) (db : Database) (keyFile : Option KeyMap)
    (hdb : db.loadEngine cfg.params cfg.serverUuid = none) (evs : List LifeEvent)
    (huntorn : Along (lifeStep P cfg) (Untorn P cfg) (start cfg db keyFile) evs) :
    (run (lifeStep P cfg) (start cfg db keyFile) evs).Consistent P cfg :=
  (huntorn.invariant (I := Live P cfg) (fun _ _ hev h => h.step hev)
    (Or.inr ⟨db, keyFile, rfl, Or.inl hdb⟩)).consistent

section Demo

-- the first credential, its successor at 44200, the crash between the two writes of the promotion
def promotionCrash : List LifeEvent :=
  [.tick (demoKeys 1) (demoKeys 0) 1000, .tick (demoKeys 0) (demoKeys 2) 44200,
    .crash (demoKeys 0) (demoKeys 3) 87400 1, .tick (demoKeys 0) (demoKeys 4) 87400]

instance (P : Primitives) (cfg : ServerConfig) (s : ServerState) :
    ∀ ev, Decidable (s.Untorn P cfg ev)
  | .tick .. => inferInstanceAs (Decidable True)
  | .crash fresh successor now writes =>
    match hlast : s.lastWrite P cfg fresh successor now writes with
    | none => isTrue fun _ _ _ h => by rw [hlast] at h; cases h
    | some (.replace db keyFile) => isTrue fun _ _ _ h => by rw [hlast] at h; cases h
    | some (.commit stage db keyFile) =>
      decidable_of_iff (stage = .promotion)
        ⟨fun hs _ _ _ h => by rw [hlast] at h; cases h; exact hs, fun h => h stage db keyFile hlast⟩

theorem promotion_crash_consistent :
    (run (lifeStep transparent demoServer) (start demoServer Database.empty none)
      promotionCrash).Consistent transparent demoServer :=
  crash_consistent transparent demoServer Database.empty none rfl promotionCrash (by decide +kernel)

theorem provision_crash_loses_keys :
    ¬ ∀ (P : Primitives) (cfg : ServerConfig) (db : Database) (keyFile : Option KeyMap),
      db.loadEngine cfg.params cfg.serverUuid = none → ∀ evs : List LifeEvent,
        (run (lifeStep P cfg) (start cfg db keyFile) evs).Consistent P cfg := by
  intro h
  obtain ⟨s', hload, _⟩ := (h transparent demoServer Database.empty none rfl
    [.crash (demoKeys 1) (demoKeys 0) 1000 1]).restart (demoKeys 1) 1000
  have hrefused : ((start demoServer (run (lifeStep transparent demoServer)
      (start demoServer Database.empty none) [.crash (demoKeys 1) (demoKeys 0) 1000 1]).db
      (run (lifeStep transparent demoServer) (start demoServer Database.empty none)
        [.crash (demoKeys 1) (demoKeys 0) 1000 1]).keyFile).ensureLoaded transparent demoServer
          (demoKeys 1) 1000).1 ≠ .ok () := by decide +kernel
  exact hrefused (by rw [hload])

end Demo

end ServerState

end Secupload.Server
