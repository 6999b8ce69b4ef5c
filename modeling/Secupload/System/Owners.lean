import Secupload.Client.ResponseAuthenticity
import Secupload.Client.Rotation
import Secupload.Server.Continuity
import Secupload.Server.CrashConsistency

namespace Secupload.Shared

open Library
open RotationEngine (WindowInv mem_of_byStatus submitted)
open Server (Generated lastVersion)

structure RotationEngine.Idle (e : RotationEngine) (a : CredentialPublic) (now : ℤ) : Prop where
  active : e.active = some a
  live : expired a now = false
  idle : e.validating = none

def RotationEngine.Extendable (e : RotationEngine) (a : CredentialPublic) : Prop :=
  (∀ d ∈ e.creds.rows, d.version ≤ a.version) ∧ a.version < lastVersion

namespace Holder

def Prepared (P : Primitives) (h : Holder) (a : CredentialPublic) (k : PrivateKeys) : Prop :=
  ∃ v, h.engine.validating = some v ∧ v.version = a.version + 1 ∧ h.keys.keysFor v.version = some k ∧
    k.Match P v

structure Ready (P : Primitives) (h : Holder) : Prop where
  window : WindowInv h.engine
  belongs : ∃ J, h.engine.BelongsTo J
  keyed : ∀ c ∈ h.engine.creds.rows, ∃ k, h.keys.keysFor c.version = some k ∧ Generated P k ∧ k.Match P c
  numbered : ∀ c ∈ h.engine.creds.rows, 1 ≤ c.version

section Ready

variable {P : Primitives} {h h' : Holder} {a : CredentialPublic} {k : PrivateKeys} {u : Uuid} {now : ℤ}

variable (P) in
lemma ready_new (params : RotationParams) : (Holder.new params).Ready P where
  window := RotationEngine.windowInv_new params
  belongs := ⟨Uuid.nil, fun c hc => by cases hc⟩
  keyed := fun c hc => by cases hc
  numbered := fun c hc => by cases hc

lemma Ready.congr (hr : h.Ready P) (hkeys : h'.keys = h.keys)
    (hsame : ∀ c, c ∈ h'.engine.creds.rows ↔ c ∈ h.engine.creds.rows) : h'.Ready P where
  window := hr.window.congr hsame
  belongs := by
    obtain ⟨J, hJ⟩ := hr.belongs
    exact ⟨J, fun c hc => hJ c ((hsame c).mp hc)⟩
  keyed := by
    rw [hkeys]
    exact fun c hc => hr.keyed c ((hsame c).mp hc)
  numbered := fun c hc => hr.numbered c ((hsame c).mp hc)

lemma Ready.evolves (hr : h.Ready P) {e : RotationEngine} (hwindow : WindowInv e)
    (hrows : ∀ d ∈ e.creds.rows, ∃ c ∈ h.engine.creds.rows, c.Evolves d) : (h.withEngine e).Ready P where
  window := hwindow
  belongs := by
    obtain ⟨J, hJ⟩ := hr.belongs
    refine ⟨J, fun d hd => ?_⟩
    obtain ⟨c, hc, hcd⟩ := hrows d hd
    exact hcd.identity.trans (hJ c hc)
  keyed := by
    intro d hd
    obtain ⟨c, hc, hcd⟩ := hrows d hd
    obtain ⟨k, hk, hgenerated, hmatch⟩ := hr.keyed c hc
    exact ⟨k, by rw [← hk, ← hcd.version]; rfl, hgenerated, hmatch.evolves hcd⟩
  numbered := by
    intro d hd
    obtain ⟨c, hc, hcd⟩ := hrows d hd
    rw [hcd.version]
    exact hr.numbered c hc

lemma Ready.put_new (hr : h.Ready P) {n : CredentialPublic} (hwindow : WindowInv (h.engine.put n))
    (hbelongs : ∃ J, (h.engine.put n).BelongsTo J) (hfrom : 1 ≤ n.version) (hk : Generated P k)
    (hmatch : k.Match P n) : (Holder.mk (h.engine.put n) (h.keys.add n.version k)).Ready P where
  window := hwindow
  belongs := hbelongs
  keyed := by
    intro c hc
    rcases RotationEngine.mem_put.mp hc with rfl | ⟨hc, hne⟩
    · exact ⟨k, (KeyMap.keysFor_add _ _ _ _).trans (if_pos rfl), hk, hmatch⟩
    · obtain ⟨j, hj, hgenerated, hjmatch⟩ := hr.keyed c hc
      exact ⟨j, (KeyMap.keysFor_add _ _ _ _).trans ((if_neg (Ne.symm hne)).trans hj), hgenerated, hjmatch⟩
  numbered := by
    intro c hc
    rcases RotationEngine.mem_put.mp hc with rfl | ⟨hc, _⟩
    · exact hfrom
    · exact hr.numbered c hc

lemma Ready.provision (hr : h.Ready P) (hk : Generated P k) (u : Uuid) (now : ℤ) :
    (h.provision P u k now).2.Ready P := by
  rw [Holder.provision]
  have hwindow := RotationEngine.windowInv_step P hr.window
    (.provisionInitial (credentialOf P u 1 k) now)
  rw [RotationEngine.step, RotationEngine.EngineOp.exec] at hwindow
  rcases RotationEngine.provisionInitial_cases h.engine now (credentialOf P u 1 k) with
    ⟨exc, he⟩ | ⟨hp, he⟩
  · rw [he]
    exact hr
  · rw [he] at hwindow ⊢
    -- a first credential finds no other
    have hempty : ∀ c, c ∉ h.engine.creds.rows := by
      intro c hc
      have hlt := RotationEngine.lt_of_maxVersion hp.order c hc
      have hfrom := hr.numbered c hc
      change c.version < 1 at hlt
      omega
    refine hr.put_new hwindow ⟨u, ?_⟩ le_rfl hk ⟨rfl, rfl⟩
    intro c hc
    rcases RotationEngine.mem_put.mp hc with rfl | ⟨hc, _⟩
    · rfl
    · exact (hempty c hc).elim

lemma Ready.generateSuccessor (hr : h.Ready P) (hk : Generated P k) (u : Uuid) (a : CredentialPublic)
    (now : ℤ) : (h.generateSuccessor P u a k now).2.Ready P := by
  rcases Holder.generateSuccessor_cases P u h a k now with ⟨exc, he⟩ | ⟨signer, payload, _, _, hs, he⟩
  · rw [he]
    exact hr
  · rw [he]
    have hwindow := hs.window hr.window
    have hnew := hs.newest
    obtain ⟨b, _, hb, _, _, _, hidentity, _⟩ := hs
    have hmem := (mem_of_byStatus hb).1
    refine hr.put_new (n := submitted h.engine.params (credentialOf P u (a.version + 1) k) now) hwindow ?_ ?_
      hk ⟨rfl, rfl⟩
    · obtain ⟨J, hJ⟩ := hr.belongs
      exact ⟨J, hJ.put (hidentity.trans (hJ b hmem))⟩
    · have hlt := hnew b hmem
      have hfrom := hr.numbered b hmem
      change b.version < a.version + 1 at hlt
      change 1 ≤ a.version + 1
      omega

lemma Ready.generates_iff (hP : Lawful P) (hlength : ∀ k, k.length = 32 → (P.ed25519Public k).length = 32)
    (hr : h.Ready P) (hidle : h.engine.Idle a now) (hk : Generated P k) :
    (∃ r, (h.generateSuccessor P a.identityUuid a k now).1 = .ok r) ↔ h.engine.Extendable a := by
  obtain ⟨hmem, _⟩ := mem_of_byStatus hidle.active
  constructor
  · rintro ⟨r, hok⟩
    rcases Holder.generateSuccessor_cases P a.identityUuid h a k now with
      ⟨exc, he⟩ | ⟨signer, payload, _, hpayload, hs, _⟩
    · rw [he] at hok
      cases hok
    · refine ⟨fun d hd => ?_, Server.ServerState.payload_version hpayload⟩
      have hlt := hs.newest d hd
      change d.version < a.version + 1 at hlt
      omega
  · rintro ⟨hnewest, hroom⟩
    obtain ⟨signer, hsigner, hgenerated, hmatch⟩ := hr.keyed a hmem
    obtain ⟨payload, hpayload, _⟩ := Server.ServerState.payload_writable hP hlength hk a.identityUuid
      (hr.numbered a hmem) hroom
    have hsubmit := submittable_of_newest (n := credentialOf P a.identityUuid (a.version + 1) k) hP hr.window
      hidle.active hidle.idle hnewest hidle.live hgenerated.1 hmatch rfl rfl hpayload
    exact ⟨_, by rw [Holder.generateSuccessor_ok hsigner hpayload hsubmit]⟩

variable (u a k now) in
lemma Ready.prepared (hr : h.Ready P) (r : CredentialPublic × Bytes × Bytes)
    (hok : (h.generateSuccessor P u a k now).1 = .ok r) :
    (h.generateSuccessor P u a k now).2.Prepared P a k := by
  rcases Holder.generateSuccessor_cases P u h a k now with ⟨exc, he⟩ | ⟨signer, payload, _, _, hs, he⟩
  · rw [he] at hok
    cases hok
  · rw [he]
    refine ⟨submitted h.engine.params (credentialOf P u (a.version + 1) k) now, ?_, rfl, ?_, rfl, rfl⟩
    · exact WindowInv.byStatus_of_get (c := submitted h.engine.params _ now) (hs.window hr.window)
        ((RotationEngine.get_put _).trans (if_pos rfl)) rfl
    · exact (KeyMap.keysFor_add _ _ _ _).trans (if_pos rfl)

end Ready

end Holder

end Secupload.Shared

namespace Secupload.Client

open Library Shared
open Shared.RotationEngine (WindowInv mem_of_byStatus retired)
open Server (Generated)

-- `restart` is a new instance over the same identity file, which loads it
inductive OwnerOp
  | ensureLoaded (k : PrivateKeys) (now : ℤ)
  | restart (k : PrivateKeys) (now : ℤ)
  | markEnrolled
  | generateSuccessor (k : PrivateKeys) (now : ℤ)
  | checkpoint (now : ℤ)
  | rollback (now : ℤ)

def OwnerOp.drawn : OwnerOp → List PrivateKeys
  | .ensureLoaded k _ | .restart k _ | .generateSuccessor k _ => [k]
  | .markEnrolled | .checkpoint _ | .rollback _ => []

def OwnerOp.time : OwnerOp → Option ℤ
  | .ensureLoaded _ now | .restart _ now | .generateSuccessor _ now | .checkpoint now | .rollback now => some now
  | .markEnrolled => none

namespace ClientIdentity

section Definitions

variable (P : Primitives) (cfg : ClientConfig) (c : ClientIdentity)

def reopened : ClientIdentity := { start cfg with file := c.file }

def ownerStep (c : ClientIdentity) : OwnerOp → ClientIdentity
  | .ensureLoaded k now => (c.ensureLoaded P cfg k now).2
  | .restart k now => ((c.reopened cfg).ensureLoaded P cfg k now).2
  | .markEnrolled => c.markEnrolled
  | .generateSuccessor k now => (c.generateSuccessor P k now).2
  | .checkpoint now => (c.checkpoint now).2
  | .rollback now => (c.rollback now).2

def owned (ops : List OwnerOp) : ClientIdentity := run (ownerStep P cfg) (start cfg) ops

def Provides (a : CredentialPublic) (k : PrivateKeys) (now : ℤ) : Prop :=
  (∃ r, (c.generateSuccessor P k now).1 = .ok r) ∧
    (c.generateSuccessor P k now).2.toHolder.Prepared P a k ∧
    ∃ file ∈ (c.generateSuccessor P k now).2.file, file.keys.keysFor (a.version + 1) = some k

structure Held : Prop where
  memory : c.toHolder.Ready P
  file : ∀ file ∈ c.file, (Holder.mk (c.stored cfg) file.keys).Ready P

end Definitions

section Held

variable {P : Primitives} {cfg : ClientConfig} {c : ClientIdentity} {a : CredentialPublic} {k : PrivateKeys}
  {now : ℤ}

variable (cfg) in
lemma held_save (h : c.toHolder.Ready P) : c.save.Held P cfg where
  memory := h
  file := by
    intro file hfile
    obtain rfl := Option.some.inj hfile
    obtain ⟨J, hJ⟩ := h.belongs
    exact h.congr rfl (mem_stored_save hJ)

lemma Held.withHolder (hc : c.Held P cfg) {h : Holder} (hr : h.Ready P) : (c.withHolder h).Held P cfg :=
  ⟨hr, hc.file⟩

lemma Held.ensureLoaded (hc : c.Held P cfg) (hk : Generated P k) (now : ℤ) :
    (c.ensureLoaded P cfg k now).2.Held P cfg := by
  rw [ClientIdentity.ensureLoaded]
  cases hfile : c.file with
  | none =>
    have hprovisioned := hc.memory.provision hk (c.identityUuid P cfg) now
    dsimp only [fresh]
    generalize c.toHolder.provision P (c.identityUuid P cfg) k now = provisioned at hprovisioned
    obtain ⟨exc | _, h⟩ := provisioned
    · exact hc.withHolder hprovisioned
    · exact held_save cfg hprovisioned
  | some file =>
    have hstored := hc.file file hfile
    rw [stored, hfile] at hstored
    have hloaded : ∀ d : ClientIdentity, d.file = some file →
        d.engine = RotationEngine.load cfg.params (loadedCredentials file) → d.keys = file.keys →
        d.Held P cfg := by
      intro d hd hengine hkeys
      refine ⟨hstored.congr hkeys fun b => by rw [hengine]; rfl, fun f hf => ?_⟩
      obtain rfl := Option.some.inj (hd.symm.trans hf)
      rw [stored, hd]
      exact hstored
    dsimp only [load]
    split
    · exact hloaded _ hfile rfl rfl
    · exact hloaded _ hfile rfl rfl

lemma Held.generateSuccessor (hc : c.Held P cfg) (hk : Generated P k) (now : ℤ) :
    (c.generateSuccessor P k now).2.Held P cfg := by
  rw [ClientIdentity.generateSuccessor]
  split
  · exact hc
  · rename_i active _
    have hready := hc.memory.generateSuccessor hk active.identityUuid active now
    generalize c.toHolder.generateSuccessor P active.identityUuid active k now = generated at hready
    obtain ⟨exc | r, h⟩ := generated
    · exact hc.withHolder hready
    · exact held_save cfg hready

lemma Held.checkpoint (hc : c.Held P cfg) (now : ℤ) : (c.checkpoint now).2.Held P cfg := by
  rcases checkpoint_cases c now with
    ⟨_, he | ⟨v3, hv3, he⟩⟩ | ⟨_, v3, v2, hv3, hv2, he⟩
  · rw [he]
    exact hc
  · rw [he]
    exact hc.withHolder (hc.memory.evolves (hc.memory.window.put_retired (mem_of_byStatus hv3).1 rfl)
      fun d hd => RotationEngine.rows_put_of_mem (mem_of_byStatus hv3).1 (.retired rfl) hd)
  · rw [he]
    exact held_save cfg (hc.memory.evolves (hc.memory.window.promote now hv2 hv3)
      fun d hd => RotationEngine.rows_promote hv2 hv3 hd)

lemma Held.rollback (hc : c.Held P cfg) (now : ℤ) : (c.rollback now).2.Held P cfg := by
  rcases rollback_cases c now with ⟨exc, he⟩ | ⟨v3, hv3, he⟩
  · rw [he]
    exact hc
  · rw [he]
    exact held_save cfg (hc.memory.evolves (hc.memory.window.put_retired (mem_of_byStatus hv3).1 rfl)
      fun d hd => RotationEngine.rows_put_of_mem (mem_of_byStatus hv3).1 (.retired rfl) hd)

lemma Held.step (hc : c.Held P cfg) (op : OwnerOp) (hdrawn : ∀ j ∈ op.drawn, Generated P j) :
    (c.ownerStep P cfg op).Held P cfg := by
  cases op with
  | ensureLoaded k now => exact hc.ensureLoaded (hdrawn k (by simp [OwnerOp.drawn])) now
  | restart k now =>
    have hreopened : (c.reopened cfg).Held P cfg := ⟨Holder.ready_new P cfg.params, hc.file⟩
    exact hreopened.ensureLoaded (hdrawn k (by simp [OwnerOp.drawn])) now
  | markEnrolled => exact held_save cfg hc.memory
  | generateSuccessor k now => exact hc.generateSuccessor (hdrawn k (by simp [OwnerOp.drawn])) now
  | checkpoint now => exact hc.checkpoint now
  | rollback now => exact hc.rollback now

variable (P cfg) in
lemma held_run (ops : List OwnerOp) (hdrawn : ∀ j ∈ ops.flatMap OwnerOp.drawn, Generated P j) :
    (owned P cfg ops).Held P cfg := by
  have hstart : (start cfg).Held P cfg := ⟨Holder.ready_new P cfg.params, fun _ hfile => by cases hfile⟩
  have halong : Along (ownerStep P cfg) (fun _ op => ∀ j ∈ op.drawn, Generated P j) (start cfg) ops :=
    along_of_forall (fun op hop _ j hj => hdrawn j (List.mem_flatMap.mpr ⟨op, hop, hj⟩)) (start cfg)
  exact halong.invariant (fun _ op hop h => h.step op hop) hstart

lemma Held.provides_iff (hP : Lawful P) (hlength : ∀ k, k.length = 32 → (P.ed25519Public k).length = 32)
    (hc : c.Held P cfg) (hidle : c.engine.Idle a now) (hk : Generated P k) :
    c.Provides P a k now ↔ c.engine.Extendable a := by
  have hgenerates := hc.memory.generates_iff hP hlength hidle hk
  have hprepared := hc.memory.prepared a k a.identityUuid now
  rw [← hgenerates, Provides, ClientIdentity.generateSuccessor, ClientIdentity.current, hidle.active]
  dsimp only
  generalize c.toHolder.generateSuccessor P a.identityUuid a k now = generated at hprepared
  obtain ⟨exc | r, h⟩ := generated
  · refine iff_of_false ?_ ?_
    · rintro ⟨⟨_, hr⟩, _⟩
      cases hr
    · rintro ⟨_, hr⟩
      cases hr
  · refine iff_of_true ⟨⟨r, rfl⟩, hprepared r rfl, _, rfl, ?_⟩ ⟨r, rfl⟩
    obtain ⟨v, _, hversion, hkey, _⟩ := hprepared r rfl
    rw [← hversion]
    exact hkey

end Held

end ClientIdentity

end Secupload.Client

namespace Secupload.Server

open Library Shared
open Shared.RotationEngine (mem_of_byStatus)

-- `restart` is a new instance over the same database and key file
inductive OwnerOp
  | ensureLoaded (k : PrivateKeys) (now : ℤ)
  | maybeRotate (fresh successor : PrivateKeys) (now : ℤ)
  | restart

def OwnerOp.drawn : OwnerOp → List PrivateKeys
  | .ensureLoaded k _ => [k]
  | .maybeRotate fresh successor _ => [fresh, successor]
  | .restart => []

namespace ServerState

section Definitions

variable (P : Primitives) (cfg : ServerConfig) (s : ServerState)

def ownerStep (s : ServerState) : OwnerOp → ServerState
  | .ensureLoaded k now => (s.ensureLoaded P cfg k now).2
  | .maybeRotate fresh successor now => (s.maybeRotate P cfg fresh successor now).2
  | .restart => start cfg s.db s.keyFile

def owned (db : Database) (keyFile : Option KeyMap) (ops : List OwnerOp) : ServerState :=
  run (ownerStep P cfg) (start cfg db keyFile) ops

def Provides (a : CredentialPublic) (k : PrivateKeys) (now : ℤ) : Prop :=
  (s.submitSuccessor P cfg a k now).1 = .ok () ∧
    (s.submitSuccessor P cfg a k now).2.identity.toHolder.Prepared P a k ∧
    ∃ keys ∈ (s.submitSuccessor P cfg a k now).2.keyFile, keys.keysFor (a.version + 1) = some k

structure Running : Prop where
  alive : s.Alive P cfg
  able : s.Able P

def Held : Prop :=
  s.Running P cfg ∨ s = start cfg s.db s.keyFile ∧ ∀ k now, Generated P k →
    ∃ s', s.ensureLoaded P cfg k now = (.ok (), s') ∧ s'.Running P cfg

end Definitions

section Held

variable {P : Primitives} {cfg : ServerConfig} {s : ServerState} {a : CredentialPublic} {k : PrivateKeys}
  {now : ℤ}

lemma Running.ready (h : s.Running P cfg) : s.identity.toHolder.Ready P where
  window := h.alive.memory.window
  belongs := ⟨cfg.serverUuid, h.alive.rotating.belongs⟩
  keyed := fun c hc => (h.able.keys c hc).1
  numbered := fun c hc => (h.able.keys c hc).2.1

lemma held_start (db : Database) (keyFile : Option KeyMap)
    (hdb : db.loadEngine cfg.params cfg.serverUuid = none) : (start cfg db keyFile).Held P cfg := by
  refine Or.inr ⟨rfl, fun k now hk => ?_⟩
  have hwhole : Whole P cfg db keyFile := Or.inl hdb
  obtain ⟨s', hload, halive, _⟩ := load_alive hwhole k now
  have hable := able_first (P := P) db keyFile now hk hdb
  rw [hload] at hable
  exact ⟨s', hload, halive, hable⟩

lemma Held.ensureLoaded (h : s.Held P cfg) (hk : Generated P k) (now : ℤ) :
    ∃ s', s.ensureLoaded P cfg k now = (.ok (), s') ∧ s'.Running P cfg := by
  rcases h with h | ⟨_, h⟩
  · exact ⟨s, ensureLoaded_loaded h.alive.rotating.loaded k now, h⟩
  · exact h k now hk

lemma Running.rotate (h : s.Running P cfg) (hk : Generated P k) (now : ℤ) :
    (s.rotate P cfg k now).2.Running P cfg :=
  ⟨(h.alive.rotate k now).1, h.able.rotate hk now⟩

lemma Running.restart (h : s.Running P cfg) : (start cfg s.db s.keyFile).Held P cfg := by
  obtain ⟨e, hload, hrestorable⟩ := h.alive.stored
  rw [h.alive.keyFile]
  refine Or.inr ⟨rfl, fun k now _ => ⟨_, ensureLoaded_resumed hload k now, alive_resumed hload hrestorable,
    hrestorable.active, fun c hc => ?_⟩⟩
  have hget := (Database.loadEngine_get hload c.version).symm.trans (RotationEngine.get_of_mem hc)
  obtain ⟨d, hd⟩ := Option.ne_none_iff_exists'.mp
    (h.alive.kept c.version (by rw [hget]; exact Option.some_ne_none c))
  obtain ⟨hmem, hversion⟩ := RotationEngine.get_eq_some.mp hd
  obtain ⟨⟨j, hj, hgenerated, _⟩, hrange⟩ := h.able.keys d hmem
  obtain ⟨j', hj', hmatch⟩ := hrestorable.keyed c hc
  rw [hversion] at hj hrange
  obtain rfl := Option.some.inj (hj.symm.trans hj')
  exact ⟨⟨j, hj, hgenerated, hmatch⟩, hrange⟩

lemma Held.step (h : s.Held P cfg) (op : OwnerOp) (hdrawn : ∀ j ∈ op.drawn, Generated P j) :
    (s.ownerStep P cfg op).Held P cfg := by
  cases op with
  | ensureLoaded k now =>
    obtain ⟨s', hload, hrunning⟩ := h.ensureLoaded (hdrawn k (by simp [OwnerOp.drawn])) now
    rw [ownerStep, hload]
    exact Or.inl hrunning
  | maybeRotate fresh successor now =>
    obtain ⟨s', hload, hrunning⟩ := h.ensureLoaded (hdrawn fresh (by simp [OwnerOp.drawn])) now
    rw [ownerStep, ServerState.maybeRotate, hload]
    exact Or.inl (hrunning.rotate (hdrawn successor (by simp [OwnerOp.drawn])) now)
  | restart =>
    rcases h with h | ⟨hstart, h⟩
    · exact h.restart
    · rw [ownerStep, ← hstart]
      exact Or.inr ⟨hstart, h⟩

variable (P cfg) in
lemma held_run (db : Database) (keyFile : Option KeyMap)
    (hdb : db.loadEngine cfg.params cfg.serverUuid = none) (ops : List OwnerOp)
    (hdrawn : ∀ j ∈ ops.flatMap OwnerOp.drawn, Generated P j) :
    (owned P cfg db keyFile ops).Held P cfg := by
  have halong : Along (ownerStep P cfg) (fun _ op => ∀ j ∈ op.drawn, Generated P j)
      (start cfg db keyFile) ops :=
    along_of_forall (fun op hop _ j hj => hdrawn j (List.mem_flatMap.mpr ⟨op, hop, hj⟩)) _
  exact halong.invariant (fun _ op hop h => h.step op hop) (held_start db keyFile hdb)

lemma Held.provides_iff (hP : Lawful P) (hlength : ∀ k, k.length = 32 → (P.ed25519Public k).length = 32)
    (h : s.Held P cfg) (hidle : s.identity.engine.Idle a now) (hk : Generated P k) :
    s.Provides P cfg a k now ↔ s.identity.engine.Extendable a := by
  have hrunning : s.Running P cfg := by
    rcases h with h | ⟨hstart, _⟩
    · exact h
    · rw [hstart] at hidle
      cases hidle.active
  have hready := hrunning.ready
  have hgenerates := hready.generates_iff hP hlength hidle hk
  rw [hrunning.alive.rotating.belongs a (mem_of_byStatus hidle.active).1] at hgenerates
  have hprepared := hready.prepared a k cfg.serverUuid now
  rw [← hgenerates, Provides, submitSuccessor]
  generalize s.identity.toHolder.generateSuccessor P cfg.serverUuid a k now = generated at hprepared
  obtain ⟨exc | r, h⟩ := generated
  · refine iff_of_false ?_ ?_
    · rintro ⟨hr, _⟩
      cases hr
    · rintro ⟨_, hr⟩
      cases hr
  · refine iff_of_true ⟨rfl, hprepared r rfl, _, rfl, ?_⟩ ⟨r, rfl⟩
    obtain ⟨v, _, hversion, hkey, _⟩ := hprepared r rfl
    rw [← hversion]
    exact hkey

end Held

end ServerState

end Secupload.Server

namespace Secupload.System

open Library Shared Client Server

theorem successor_provided_iff (P : Primitives) (hP : Lawful P)
    (hlength : ∀ k, k.length = 32 → (P.ed25519Public k).length = 32) :
    (∀ (ccfg : ClientConfig) (ops : List Client.OwnerOp) (a : CredentialPublic) (k : PrivateKeys) (now : ℤ),
      (∀ j ∈ k :: ops.flatMap Client.OwnerOp.drawn, Server.Generated P j) →
      (ClientIdentity.owned P ccfg ops).engine.Idle a now →
        ((ClientIdentity.owned P ccfg ops).Provides P a k now ↔
          (ClientIdentity.owned P ccfg ops).engine.Extendable a)) ∧
    ∀ (scfg : ServerConfig) (db : Database) (keyFile : Option KeyMap) (ops : List Server.OwnerOp)
      (a : CredentialPublic) (k : PrivateKeys) (now : ℤ),
      db.loadEngine scfg.params scfg.serverUuid = none →
      (∀ j ∈ k :: ops.flatMap Server.OwnerOp.drawn, Server.Generated P j) →
      (ServerState.owned P scfg db keyFile ops).identity.engine.Idle a now →
        ((ServerState.owned P scfg db keyFile ops).Provides P scfg a k now ↔
          (ServerState.owned P scfg db keyFile ops).identity.engine.Extendable a) := by
  constructor
  · intro ccfg ops a k now hdrawn hidle
    have hheld := ClientIdentity.held_run P ccfg ops fun j hj => hdrawn j (List.mem_cons_of_mem k hj)
    exact hheld.provides_iff hP hlength hidle (hdrawn k List.mem_cons_self)
  · intro scfg db keyFile ops a k now hdb hdrawn hidle
    have hheld := ServerState.held_run P scfg db keyFile hdb ops
      fun j hj => hdrawn j (List.mem_cons_of_mem k hj)
    exact hheld.provides_iff hP hlength hidle (hdrawn k List.mem_cons_self)

section Demo

-- a first credential, its successor at 44200 and the promotion of that one at 87400
def clientTurns : List Client.OwnerOp :=
  [.ensureLoaded (demoKeys 1) 1000, .generateSuccessor (demoKeys 2) 44200, .checkpoint 87400]

def serverTurns : List Server.OwnerOp :=
  [.ensureLoaded (demoKeys 1) 1000, .maybeRotate (demoKeys 0) (demoKeys 2) 44200,
    .maybeRotate (demoKeys 0) (demoKeys 3) 87400]

lemma idle_of_get (e : RotationEngine) (now : ℤ) (h : ∃ hs : e.active.isSome = true,
    RotationEngine.expired (e.active.get hs) now = false ∧ e.validating = none ∧
      (∀ d ∈ e.creds.rows, d.version ≤ (e.active.get hs).version) ∧ (e.active.get hs).version < lastVersion) :
    ∃ a, e.Idle a now ∧ e.Extendable a := by
  obtain ⟨hs, hlive, hidle, hnewest, hroom⟩ := h
  exact ⟨e.active.get hs, ⟨(Option.some_get hs).symm, hlive, hidle⟩, hnewest, hroom⟩

lemma generated_turns : (∀ j ∈ demoKeys 4 :: clientTurns.flatMap Client.OwnerOp.drawn,
      Server.Generated tagged j) ∧
    ∀ j ∈ demoKeys 4 :: serverTurns.flatMap Server.OwnerOp.drawn, Server.Generated tagged j := by
  decide +kernel

theorem promoted_provide_successors :
    (∃ a, (ClientIdentity.owned tagged ClientSession.demoClient clientTurns).Provides tagged a (demoKeys 4) 87400) ∧
    ∃ a, (ServerState.owned tagged ServerState.demoServer Database.empty none serverTurns).Provides
      tagged ServerState.demoServer a (demoKeys 4) 87400 := by
  constructor
  · obtain ⟨a, hidle, hextendable⟩ := idle_of_get
      (ClientIdentity.owned tagged ClientSession.demoClient clientTurns).engine 87400 (by decide +kernel)
    exact ⟨a, ((successor_provided_iff tagged lawful_tagged (fun _ h => h)).1 ClientSession.demoClient clientTurns a
      (demoKeys 4) 87400 generated_turns.1 hidle).mpr hextendable⟩
  · obtain ⟨a, hidle, hextendable⟩ := idle_of_get
      (ServerState.owned tagged ServerState.demoServer Database.empty none serverTurns).identity.engine 87400
      (by decide +kernel)
    exact ⟨a, ((successor_provided_iff tagged lawful_tagged (fun _ h => h)).2 ServerState.demoServer Database.empty none
      serverTurns a (demoKeys 4) 87400 rfl generated_turns.2 hidle).mpr hextendable⟩

-- the successor that was rolled back keeps its version
def rolledBack : List Client.OwnerOp :=
  [.ensureLoaded (demoKeys 1) 1000, .generateSuccessor (demoKeys 2) 44200, .rollback 44200]

theorem rollback_blocks_successor :
    ¬ ∀ (P : Primitives) (ccfg : ClientConfig) (ops : List Client.OwnerOp) (a : CredentialPublic)
      (k : PrivateKeys) (now : ℤ), Lawful P → (∀ k, k.length = 32 → (P.ed25519Public k).length = 32) →
      (∀ j ∈ k :: ops.flatMap Client.OwnerOp.drawn, Server.Generated P j) →
      (ops.filterMap Client.OwnerOp.time ++ [now]).Pairwise (· ≤ ·) →
      (ClientIdentity.owned P ccfg ops).engine.Idle a now →
        (ClientIdentity.owned P ccfg ops).Provides P a k now := by
  intro h
  let e := (ClientIdentity.owned tagged ClientSession.demoClient rolledBack).engine
  have hactive : ∃ hs : e.active.isSome = true,
      RotationEngine.expired (e.active.get hs) 44200 = false ∧ e.validating = none := by decide +kernel
  obtain ⟨hs, hlive, hidle⟩ := hactive
  obtain ⟨⟨r, hok⟩, _⟩ := h tagged ClientSession.demoClient rolledBack (e.active.get hs) (demoKeys 4) 44200
    lawful_tagged (fun _ h => h) (by decide +kernel) (by decide) ⟨(Option.some_get hs).symm, hlive, hidle⟩
  have hrefused : ((ClientIdentity.owned tagged ClientSession.demoClient rolledBack).generateSuccessor tagged
      (demoKeys 4) 44200).1.isOk = false := by decide +kernel
  rw [hok] at hrefused
  cases hrefused

end Demo

end Secupload.System
