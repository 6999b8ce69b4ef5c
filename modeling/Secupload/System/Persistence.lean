import Secupload.Shared.Documents
import Secupload.System.Owners

/-! What a new instance reads of an identity from the file of a client, or from the database and
the key file of a server, and when that is what its owner has in memory. -/

namespace Secupload.Shared

open Library
open RotationEngine (WindowInv expired retired submitted)

namespace RotationEngine

def Lapsed (e : RotationEngine) (now : ℤ) : Prop :=
  ∃ v ∈ e.validating, v.validationDeadline.getD 0 ≤ now ∧ expired v now = true

instance (e : RotationEngine) (now : ℤ) : Decidable (e.Lapsed now) :=
  inferInstanceAs (Decidable (∃ v ∈ e.validating, _ ∧ _))

section Lapsed

variable {e : RotationEngine} {now : ℤ}

lemma checkpoint_lapsed (h : e.Lapsed now) : ∃ v code message, e.validating = some v ∧
    e.checkpoint now = (.error (.rotationError code message), e.put (retired v .expired)) := by
  obtain ⟨v, hv, hdeadline, hexpired⟩ := h
  exact ⟨v, "V3_EXPIRED", "validating credential expired before promotion", hv, by
    rw [checkpoint, Option.mem_def.mp hv]
    dsimp only
    rw [if_neg (by omega), if_pos hexpired]⟩

lemma checkpoint_unlapsed (h : ¬ e.Lapsed now) :
    (∃ code message, e.checkpoint now = (.error (.rotationError code message), e)) ∨
      ∃ changed, (e.checkpoint now).1 = .ok changed := by
  have herror : ∀ exc, (e.checkpoint now).1 = .error exc →
      ∃ code message, exc = .rotationError code message := fun exc => checkpoint_error
  rcases checkpoint_cases e now with ⟨exc, he⟩ | ⟨v, _, hv, hdeadline, hexpired, _⟩ | ⟨_, _, changed, _, _, _, _, _, he⟩
  · obtain ⟨code, message, rfl⟩ := herror exc (by rw [he])
    exact Or.inl ⟨code, message, he⟩
  · exact (h ⟨v, hv, hdeadline, hexpired⟩).elim
  · exact Or.inr ⟨changed, by rw [he]⟩

lemma put_retired_ne {v : CredentialPublic} (hv : e.validating = some v) :
    (e.put (retired v .expired)).get v.version ≠ e.get v.version := by
  obtain ⟨hmem, hstatus⟩ := mem_of_byStatus hv
  rw [get_put, if_pos (show (retired v .expired).version = v.version from rfl), get_of_mem hmem]
  intro hsame
  have hretired := congrArg CredentialPublic.status (Option.some.inj hsame)
  rw [hstatus] at hretired
  cases hretired

lemma lapsed_submitted {n : CredentialPublic} (hwindow : WindowInv (e.put (submitted e.params n now))) :
    (e.put (submitted e.params n now)).Lapsed now ↔ e.params.rotationDuration ≤ 0 := by
  have hv : (e.put (submitted e.params n now)).validating = some (submitted e.params n now) :=
    hwindow.byStatus_of_get (c := submitted e.params n now) ((get_put _).trans (if_pos rfl)) rfl
  have hlapsed : (e.put (submitted e.params n now)).Lapsed now ↔
      now + e.params.rotationDuration / 2 ≤ now ∧ now + 3 * e.params.rotationDuration / 2 ≤ now := by
    rw [Lapsed, hv]
    simp [submitted, expired, RotationParams.validationDeadlineFrom, RotationParams.expirationFrom,
      RotationParams.validationPeriod, RotationParams.totalValidity]
  rw [hlapsed]
  omega

end Lapsed

end RotationEngine

structure Holder.Same (h h' : Holder) : Prop where
  credentials : ∀ v, h.engine.get v = h'.engine.get v
  keys : ∀ v, h.keys.keysFor v = h'.keys.keysFor v

end Secupload.Shared

namespace Secupload.Client

open Library Shared
open Shared.RotationEngine (mem_of_byStatus retired)

namespace IdentityFile

def json (file : IdentityFile) : Json :=
  .obj [("identity_uuid", .str file.identityUuid.str),
    ("credentials", .keyed (·.version) CredentialPublic.json file.credentials),
    ("keys", file.keys.json), ("enrolled", .bool file.enrolled)]

def ofJson (j : Json) : Option IdentityFile := do
  let identityUuid ← Uuid.parse (← (← j.field? "identity_uuid").str?)
  return {
    identityUuid
    credentials := ← (← j.field? "credentials").keyed? (CredentialPublic.ofJson identityUuid)
    keys := ← KeyMap.ofJson (← j.field? "keys")
    enrolled := ← ((j.field? "enrolled").getD (.bool false)).bool? }

structure Written (file : IdentityFile) : Prop where
  identity : ∀ c ∈ file.credentials, c.identityUuid = file.identityUuid
  keys : file.keys.rows ≠ []

lemma ofJson_json {file : IdentityFile} (h : ∀ c ∈ file.credentials, c.identityUuid = file.identityUuid) :
    ofJson file.json = some file := by
  have hcredentials : Json.keyed? (CredentialPublic.ofJson file.identityUuid)
      (.keyed (·.version) CredentialPublic.json file.credentials) = some file.credentials := by
    refine Json.keyed?_keyed fun c hc => ?_
    rw [← h c hc]
    exact CredentialPublic.ofJson_json c
  simp [ofJson, json, Json.field?, List.lookup, Json.str?, Json.bool?, Uuid.parse_str, hcredentials,
    KeyMap.ofJson_json]

end IdentityFile

namespace ClientIdentity

section Definitions

variable (P : Primitives) (cfg : ClientConfig) (c : ClientIdentity)

def opened (file : IdentityFile) : ClientIdentity := { start cfg with file := some file }

inductive Persists : Prop
  | blank (hblank : c = start cfg)
  | reads {file read : IdentityFile} {d : ClientIdentity} (hfile : c.file = some file)
      (hread : IdentityFile.ofJson file.json = some read)
      (hloads : ∀ k now, (opened cfg read).ensureLoaded P cfg k now = (.ok (), d))
      (hsame : d.toHolder.Same c.toHolder) (henrolled : d.enrolled = c.enrolled)

-- a file without keys is written, or a VALIDATING credential that has expired is to be promoted
def Strays : OwnerOp → Prop
  | .markEnrolled => c.keys.rows = []
  | .checkpoint now => c.engine.Lapsed now
  | .ensureLoaded .. | .restart .. | .generateSuccessor .. | .rollback _ => False

instance : ∀ op, Decidable (c.Strays op)
  | .markEnrolled => inferInstanceAs (Decidable (c.keys.rows = []))
  | .checkpoint now => inferInstanceAs (Decidable (c.engine.Lapsed now))
  | .ensureLoaded .. | .restart .. | .generateSuccessor .. | .rollback _ => inferInstanceAs (Decidable False)

structure Mirrored : Prop where
  belongs : ∃ J, c.engine.BelongsTo J
  written : ∀ file ∈ c.file, file.Written
  stored : (∃ file, c.file = some file ∧ file.keys = c.keys ∧ file.enrolled = c.enrolled ∧
    ∀ v, (c.stored cfg).get v = c.engine.get v) ∨ c = start cfg

end Definitions

section Mirrored

variable {P : Primitives} {cfg : ClientConfig} {c : ClientIdentity} {file : IdentityFile}

lemma Mirrored.persists (h : c.Mirrored cfg) : c.Persists P cfg := by
  rcases h.stored with ⟨file, hfile, hkeys, henrolled, hstored⟩ | hblank
  · refine .reads hfile (IdentityFile.ofJson_json (h.written file hfile).identity)
      (ensureLoaded_file rfl (h.written file hfile).keys) ⟨fun v => ?_, fun v => by rw [← hkeys]⟩ henrolled
    rw [← hstored v, ClientIdentity.stored, hfile]
    rfl
  · exact .blank hblank

lemma Persists.stored (h : c.Persists P cfg) (hfile : c.file = some file)
    (hidentity : ∀ d ∈ file.credentials, d.identityUuid = file.identityUuid) :
    file.keys.rows ≠ [] ∧ ∀ v, (c.stored cfg).get v = c.engine.get v := by
  cases h with
  | blank hblank =>
    rw [hblank] at hfile
    cases hfile
  | @reads file' read d hfile' hread hloads hsame _ =>
    obtain rfl := Option.some.inj (hfile.symm.trans hfile')
    obtain rfl := Option.some.inj ((IdentityFile.ofJson_json hidentity).symm.trans hread)
    have hload := hloads (demoKeys 0) 0
    rw [ensureLoaded, opened] at hload
    dsimp only at hload
    rw [load] at hload
    split at hload
    · cases (Prod.mk.inj hload).1
    · rename_i hkeys
      refine ⟨hkeys, fun v => ?_⟩
      rw [← hsame.credentials v, ← (Prod.mk.inj hload).2, ClientIdentity.stored, hfile]
      rfl

variable (cfg) in
lemma mirrored_save (hbelongs : ∃ J, c.engine.BelongsTo J) (hkeys : c.keys.rows ≠ []) : c.save.Mirrored cfg := by
  obtain ⟨J, hJ⟩ := hbelongs
  refine ⟨⟨J, hJ⟩, fun file hfile => ?_, Or.inl ⟨_, rfl, rfl, rfl, RotationEngine.get_congr (mem_stored_save hJ)⟩⟩
  obtain rfl := Option.some.inj hfile
  exact ⟨identity_all hJ, hkeys⟩

lemma mirrored_start : (start cfg).Mirrored cfg :=
  ⟨⟨Uuid.nil, fun c hc => by cases hc⟩, nofun, Or.inr rfl⟩

lemma Mirrored.keys (h : c.Mirrored cfg) {v : CredentialPublic} (hv : c.engine.validating = some v) :
    c.keys.rows ≠ [] := by
  rcases h.stored with ⟨file, hfile, hkeys, _⟩ | hblank
  · rw [← hkeys]
    exact (h.written file hfile).keys
  · rw [hblank] at hv
    cases hv

lemma Mirrored.load (h : c.Mirrored cfg) {d : ClientIdentity} (hfile : c.file = some file)
    (hsame : d.file = some file) (k : PrivateKeys) (now : ℤ) : (d.ensureLoaded P cfg k now).2.Mirrored cfg := by
  have hwritten := h.written file hfile
  rcases h.stored with ⟨file', hfile', _, _, hstored⟩ | hblank
  · have hbelongs : ∃ J, (c.stored cfg).BelongsTo J := by
      obtain ⟨J, hJ⟩ := h.belongs
      refine ⟨J, fun b hb => hJ b ?_⟩
      have hget := (hstored b.version).symm.trans (RotationEngine.get_of_mem hb)
      exact (RotationEngine.get_eq_some.mp hget).1
    rw [ClientIdentity.stored, hfile] at hbelongs
    rw [ensureLoaded_file hsame hwritten.keys]
    refine ⟨hbelongs, fun f hf => ?_, Or.inl ⟨file, hsame, rfl, rfl, fun v => ?_⟩⟩
    · obtain rfl := Option.some.inj (hsame.symm.trans hf)
      exact hwritten
    · rw [ClientIdentity.stored, hsame]
      rfl
  · rw [hblank] at hfile
    cases hfile

variable (P cfg) in
lemma mirrored_first (k : PrivateKeys) (now : ℤ) : ((start cfg).ensureLoaded P cfg k now).2.Mirrored cfg := by
  rw [ensureLoaded_first]
  refine mirrored_save cfg ⟨(start cfg).identityUuid P cfg, fun c hc => ?_⟩ ?_
  · obtain rfl := List.mem_singleton.mp hc
    rfl
  · exact List.ne_nil_of_mem (Table.mem_set.mpr (Or.inl rfl))

lemma Mirrored.generateSuccessor (h : c.Mirrored cfg) (k : PrivateKeys) (now : ℤ) :
    (c.generateSuccessor P k now).2.Mirrored cfg := by
  rcases generateSuccessor_cases P c k now with ⟨exc, he⟩ | ⟨active, signer, payload, hactive, _, _, _, he⟩
  · rw [he]
    exact h
  · rw [he]
    obtain ⟨J, hJ⟩ := h.belongs
    exact mirrored_save cfg ⟨J, hJ.put (hJ active (mem_of_byStatus hactive).1)⟩
      (List.ne_nil_of_mem (Table.mem_set.mpr (Or.inl rfl)))

lemma Mirrored.rollback (h : c.Mirrored cfg) (now : ℤ) : (c.rollback now).2.Mirrored cfg := by
  rcases rollback_cases c now with ⟨exc, he⟩ | ⟨v3, hv3, he⟩
  · rw [he]
    exact h
  · rw [he]
    obtain ⟨J, hJ⟩ := h.belongs
    exact mirrored_save cfg ⟨J, hJ.put (hJ v3 (mem_of_byStatus hv3).1)⟩ (h.keys hv3)

lemma Mirrored.checkpoint (h : c.Mirrored cfg) {now : ℤ} (hkeeps : ¬ c.engine.Lapsed now) :
    (c.checkpoint now).2.Mirrored cfg := by
  rw [ClientIdentity.checkpoint]
  cases hv : c.engine.validating with
  | none => exact h
  | some v =>
    dsimp only
    rw [Holder.checkpoint]
    have hbelongs : ∃ J, (c.engine.checkpoint now).2.BelongsTo J := by
      obtain ⟨J, hJ⟩ := h.belongs
      exact ⟨J, hJ.transition tagged (.checkpoint now)⟩
    rcases RotationEngine.checkpoint_unlapsed hkeeps with ⟨code, message, he⟩ | ⟨changed, he⟩
    · rw [he]
      exact h
    · generalize c.engine.checkpoint now = checked at he hbelongs
      obtain ⟨result, e⟩ := checked
      obtain rfl : result = .ok changed := he
      exact mirrored_save cfg hbelongs (h.keys hv)

lemma Mirrored.checkpoint_lapsed (h : c.Mirrored cfg) {now : ℤ} (hlapsed : c.engine.Lapsed now) :
    ¬ (c.checkpoint now).2.Persists P cfg := by
  obtain ⟨v, code, message, hv, he⟩ := RotationEngine.checkpoint_lapsed hlapsed
  have hcheckpoint : (c.checkpoint now).2 = c.withRows (c.engine.put (retired v .expired)) := by
    rw [ClientIdentity.checkpoint, hv]
    dsimp only
    rw [Holder.checkpoint, he]
    rfl
  rw [hcheckpoint]
  rcases h.stored with ⟨file, hfile, _, _, hstored⟩ | hblank
  · intro hpersists
    obtain ⟨_, hsame⟩ := hpersists.stored hfile (h.written file hfile).identity
    exact RotationEngine.put_retired_ne hv ((hsame v.version).symm.trans (hstored v.version))
  · rw [hblank] at hv
    cases hv

lemma Mirrored.markEnrolled (h : c.Mirrored cfg) : c.markEnrolled.Persists P cfg ↔ c.keys.rows ≠ [] := by
  constructor
  · intro hpersists
    obtain ⟨J, hJ⟩ := h.belongs
    have hidentity := identity_all hJ
    exact (hpersists.stored rfl hidentity).1
  · intro hkeys
    have hsaved : c.markEnrolled.Mirrored cfg := mirrored_save cfg h.belongs hkeys
    exact hsaved.persists

lemma Mirrored.step (h : c.Mirrored cfg) (op : OwnerOp) :
    ¬ c.Strays op ∧ (c.ownerStep P cfg op).Mirrored cfg ∨
      c.Strays op ∧ ¬ (c.ownerStep P cfg op).Persists P cfg := by
  have hload : ∀ d : ClientIdentity, d.file = c.file → (c = start cfg → d = start cfg) →
      ∀ k now, (d.ensureLoaded P cfg k now).2.Mirrored cfg := by
    intro d hfile hblank k now
    rcases h.stored with ⟨file, hc, _⟩ | hc
    · exact h.load hc (hfile.trans hc) k now
    · rw [hblank hc]
      exact mirrored_first P cfg k now
  cases op with
  | ensureLoaded k now => exact Or.inl ⟨id, hload c rfl id k now⟩
  | restart k now =>
    refine Or.inl ⟨id, hload (c.reopened cfg) rfl (fun hc => ?_) k now⟩
    rw [hc]
    rfl
  | markEnrolled =>
    by_cases hkeys : c.keys.rows = []
    · exact Or.inr ⟨hkeys, fun hpersists => h.markEnrolled.mp hpersists hkeys⟩
    · exact Or.inl ⟨hkeys, mirrored_save cfg h.belongs hkeys⟩
  | generateSuccessor k now => exact Or.inl ⟨id, h.generateSuccessor k now⟩
  | checkpoint now =>
    by_cases hlapsed : c.engine.Lapsed now
    · exact Or.inr ⟨hlapsed, h.checkpoint_lapsed hlapsed⟩
    · exact Or.inl ⟨hlapsed, h.checkpoint hlapsed⟩
  | rollback now => exact Or.inl ⟨id, h.rollback now⟩

variable (P cfg) in
lemma persists_iff (ops : List OwnerOp) :
    Along (ownerStep P cfg) (fun c op => (c.ownerStep P cfg op).Persists P cfg) (start cfg) ops ↔
      Along (ownerStep P cfg) (fun c op => ¬ c.Strays op) (start cfg) ops := by
  refine along_iff_of_invariant (I := Mirrored cfg) (fun c op h => ?_) (fun c op h hpersists => ?_)
    mirrored_start ops
  · rcases h.step op with ⟨hkeeps, hnext⟩ | ⟨hstrays, hnext⟩
    · exact iff_of_true hnext.persists hkeeps
    · exact iff_of_false hnext fun hkeeps => hkeeps hstrays
  · rcases h.step op with ⟨_, hnext⟩ | ⟨_, hnext⟩
    · exact hnext
    · exact (hnext hpersists).elim

end Mirrored

end ClientIdentity

end Secupload.Client

namespace Secupload.Shared.Holder

open Library
open RotationEngine (submitted)

section Definitions

variable (P : Primitives) (params : RotationParams) (u : Uuid) (h : Holder) (k : PrivateKeys) (now : ℤ)

def Submits : Prop :=
  ∃ a signer payload, h.engine.active = some a ∧
    intOr a.expirationTime now - 2 * params.fallbackPeriod ≤ now ∧ h.keys.keysFor a.version = some signer ∧
    encodeSuccessorPayload u a.version (a.version + 1) (P.ed25519Public k.ed25519) (P.x25519Public k.x25519) [] =
      .ok payload ∧
    h.engine.Submittable P (credentialOf P u (a.version + 1) k) (signEd25519 P signer.ed25519 payload) [] now

def Strays : Prop := h.engine.Lapsed now ∨ params.rotationDuration ≤ 0 ∧ h.Submits P params u k now

end Definitions

end Secupload.Shared.Holder

namespace Secupload.Server

open Library Shared
open Shared.RotationEngine (expired retired submitted mem_of_byStatus)

namespace ServerState

section Definitions

variable (P : Primitives) (cfg : ServerConfig) (s : ServerState)

def Persists : Prop :=
  ∃ keys read d, s.keyFile = some keys ∧ KeyMap.ofJson keys.json = some read ∧
    (∀ k now, (start cfg s.db (some read)).ensureLoaded P cfg k now = (.ok (), d)) ∧
    d.identity.toHolder.Same s.identity.toHolder

def held : Option Holder :=
  if s.identity.loaded then some s.identity.toHolder
  else
    match s.db.loadEngine cfg.params cfg.serverUuid, s.keyFile with
    | some e, some keys => some ⟨e, keys⟩
    | _, _ => none

def Strays : OwnerOp → Prop
  | .maybeRotate _ k now => ∃ h ∈ s.held cfg, h.Strays P cfg.params cfg.serverUuid k now
  | .ensureLoaded .. | .restart => False

structure Mirrored : Prop where
  alive : s.Alive P cfg
  stored : ∀ v, s.db.credential cfg.serverUuid v = s.identity.engine.get v

end Definitions

section Mirrored

variable {P : Primitives} {cfg : ServerConfig} {s : ServerState} {k : PrivateKeys} {now : ℤ}

lemma Mirrored.persists (h : s.Mirrored P cfg) : s.Persists P cfg := by
  obtain ⟨e, hload, _⟩ := h.alive.stored
  refine ⟨s.identity.keys, s.identity.keys, _, h.alive.keyFile, KeyMap.ofJson_json _,
    ensureLoaded_resumed hload, fun v => ?_, fun v => rfl⟩
  rw [← h.stored v, ← Database.loadEngine_get hload v]
  rfl

lemma Persists.stored (h : s.Persists P cfg) {e : RotationEngine}
    (hload : s.db.loadEngine cfg.params cfg.serverUuid = some e) (v : ℤ) :
    s.db.credential cfg.serverUuid v = s.identity.engine.get v := by
  obtain ⟨keys, read, d, _, _, hloads, hsame⟩ := h
  rw [← hsame.credentials v, ← Database.loadEngine_get hload v]
  have hresumed := (ensureLoaded_resumed hload (demoKeys 0) 0).symm.trans (hloads (demoKeys 0) 0)
  rw [← (Prod.mk.inj hresumed).2]
  rfl

lemma mirrored_persist {h : Holder} (halive : ((s.withHolder h).persist).Alive P cfg)
    (hkept : ∀ v, s.db.credential cfg.serverUuid v ≠ none → h.engine.get v ≠ none) :
    ((s.withHolder h).persist).Mirrored P cfg :=
  ⟨halive, credential_saved halive.rotating.belongs hkept⟩

lemma Mirrored.promote (h : s.Mirrored P cfg) (hkeeps : ¬ s.identity.engine.Lapsed now) :
    (s.promote now).2.Mirrored P cfg := by
  have halive := (h.alive.promote now).1
  rw [ServerState.promote] at halive ⊢
  cases hv : s.identity.engine.validating with
  | none => exact h
  | some v =>
    rw [hv] at halive
    dsimp only at halive ⊢
    split_ifs at halive ⊢
    · exact h
    · rw [Holder.checkpoint] at halive ⊢
      have hevolves := s.identity.engine.evolves_transition P (.checkpoint now)
      rw [RotationEngine.Transition.exec] at hevolves
      rcases RotationEngine.checkpoint_unlapsed hkeeps with ⟨code, message, he⟩ | ⟨changed, he⟩
      · rw [he]
        exact h
      · generalize s.identity.engine.checkpoint now = checked at he hevolves halive
        obtain ⟨result, e⟩ := checked
        obtain rfl : result = .ok changed := he
        refine mirrored_persist halive fun v hstored => ?_
        obtain ⟨c, hc⟩ := Option.ne_none_iff_exists'.mp (h.alive.kept v hstored)
        obtain ⟨c', hc', _⟩ := hevolves.cred v c hc
        exact Option.ne_none_iff_exists'.mpr ⟨c', hc'⟩

lemma Mirrored.promote_lapsed (h : s.Mirrored P cfg) (hlapsed : s.identity.engine.Lapsed now) :
    ¬ (s.promote now).2.Persists P cfg := by
  obtain ⟨v, code, message, hv, he⟩ := RotationEngine.checkpoint_lapsed hlapsed
  obtain ⟨_, hv', hdeadline, _⟩ := hlapsed
  obtain rfl := Option.some.inj (hv.symm.trans hv')
  have hpromote : (s.promote now).2 =
      s.withHolder (s.identity.toHolder.withEngine (s.identity.engine.put (retired v .expired))) := by
    rw [ServerState.promote, hv]
    dsimp only
    rw [if_neg (by omega), Holder.checkpoint, he]
  rw [hpromote]
  intro hpersists
  obtain ⟨e, hload, _⟩ := h.alive.stored
  have hsame := hpersists.stored hload v.version
  exact RotationEngine.put_retired_ne hv (hsame.symm.trans (h.stored v.version))

variable (k now) in
lemma Mirrored.rotate (h : s.Mirrored P cfg) :
    ¬ s.identity.toHolder.Strays P cfg.params cfg.serverUuid k now ∧ (s.rotate P cfg k now).2.Mirrored P cfg ∨
      s.identity.toHolder.Strays P cfg.params cfg.serverUuid k now ∧ ¬ (s.rotate P cfg k now).2.Persists P cfg := by
  obtain ⟨a, hactive⟩ := Option.ne_none_iff_exists'.mp h.alive.memory.active
  have hsubmitted := (h.alive.submitSuccessor a k now).1
  rw [ServerState.rotate, hactive]
  dsimp only
  split_ifs with hdue
  · have hunlapsed : ¬ s.identity.engine.Lapsed now := by
      rintro ⟨v, hv, _⟩
      rw [hdue.1] at hv
      cases hv
    rw [submitSuccessor] at hsubmitted ⊢
    rcases Holder.generateSuccessor_cases P cfg.serverUuid s.identity.toHolder a k now with
      ⟨exc, he⟩ | ⟨signer, payload, hsigner, hpayload, hsubmit, he⟩
    · refine Or.inl ⟨?_, ?_⟩
      · rintro (hlapsed | ⟨_, a', signer, payload, ha', _, hsigner, hpayload, hsubmit⟩)
        · exact hunlapsed hlapsed
        · obtain rfl := Option.some.inj (hactive.symm.trans ha')
          rw [Holder.generateSuccessor_ok hsigner hpayload hsubmit] at he
          cases (Prod.mk.inj he).1
      · rw [he]
        cases exc <;> exact h
    · have hlapsed := RotationEngine.lapsed_submitted (hsubmit.window h.alive.memory.window)
      have hparams : s.identity.engine.params = cfg.params := h.alive.rotating.params
      rw [he] at hsubmitted ⊢
      dsimp only at hsubmitted ⊢
      have hmirrored := mirrored_persist hsubmitted fun v hv => get_put_ne_none (h.alive.kept v hv)
      by_cases hduration : cfg.params.rotationDuration ≤ 0
      · refine Or.inr ⟨Or.inr ⟨hduration, a, signer, payload, hactive, hdue.2, hsigner, hpayload, hsubmit⟩, ?_⟩
        exact hmirrored.promote_lapsed (hlapsed.mpr (by rw [hparams]; exact hduration))
      · refine Or.inl ⟨?_, hmirrored.promote fun hl => hduration (by rw [← hparams]; exact hlapsed.mp hl)⟩
        rintro (hl | ⟨hd, _⟩)
        · exact hunlapsed hl
        · exact hduration hd
  · by_cases hlapsed : s.identity.engine.Lapsed now
    · exact Or.inr ⟨Or.inl hlapsed, h.promote_lapsed hlapsed⟩
    · refine Or.inl ⟨?_, h.promote hlapsed⟩
      rintro (hl | ⟨_, a', _, _, ha', hdue', _, _, hsubmit⟩)
      · exact hlapsed hl
      · obtain rfl := Option.some.inj (hactive.symm.trans ha')
        obtain ⟨_, _, _, _, hidle, _⟩ := hsubmit
        exact hdue ⟨hidle, hdue'⟩

lemma provisioned_keeps (fresh k : PrivateKeys) (keys : KeyMap) (now : ℤ) :
    ¬ (Holder.mk ((RotationEngine.new cfg.params).put (RotationEngine.provisioned cfg.params
      (credentialOf P cfg.serverUuid 1 fresh) now)) keys).Strays P cfg.params cfg.serverUuid k now := by
  rintro (⟨v, hv, _⟩ | ⟨hduration, a, signer, payload, _, _, _, _, hsubmit⟩)
  · cases hv
  · obtain ⟨a', _, ha', hlive, _⟩ := hsubmit
    obtain rfl := Option.some.inj ha'
    have hexpired : now < now + 3 * cfg.params.rotationDuration / 2 := by
      simpa [expired, RotationEngine.provisioned, RotationParams.expirationFrom, RotationParams.totalValidity]
        using hlive
    omega

lemma start_load {db : Database} {keyFile : Option KeyMap} (h : Whole P cfg db keyFile) (fresh k : PrivateKeys)
    (now : ℤ) : ∃ s', (start cfg db keyFile).ensureLoaded P cfg fresh now = (.ok (), s') ∧ s'.Mirrored P cfg ∧
      (s'.identity.toHolder.Strays P cfg.params cfg.serverUuid k now ↔
        (start cfg db keyFile).Strays P cfg (.maybeRotate fresh k now)) := by
  obtain ⟨s', hload, halive, _⟩ := load_alive h fresh now
  refine ⟨s', hload, ?_⟩
  rcases h with hnone | ⟨e, keys, he, rfl, _⟩
  · rw [ensureLoaded_first P cfg db keyFile fresh now hnone] at hload
    obtain rfl := (Prod.mk.inj hload).2
    have hblank : ∀ v, db.credential cfg.serverUuid v = none := Database.loadEngine_eq_none.mp hnone
    refine ⟨⟨halive, credential_saved halive.rotating.belongs fun v hv => (hv (hblank v)).elim⟩,
      iff_of_false (provisioned_keeps fresh k _ now) ?_⟩
    rintro ⟨holder, hheld, _⟩
    simp [held, start, hnone] at hheld
  · rw [ensureLoaded_resumed he fresh now] at hload
    obtain rfl := (Prod.mk.inj hload).2
    refine ⟨⟨halive, fun v => (Database.loadEngine_get he v).symm⟩, ?_⟩
    have hheld : (start cfg db (some keys)).held cfg = some ⟨e, keys⟩ := by simp [held, start, he]
    rw [Strays, hheld]
    simp [resumed, markLoaded, withHolder]

def Resumable (P : Primitives) (cfg : ServerConfig) (s : ServerState) : Prop :=
  s.Mirrored P cfg ∨ ∃ db keyFile, s = start cfg db keyFile ∧ Whole P cfg db keyFile

lemma Resumable.load (h : s.Resumable P cfg) (fresh k : PrivateKeys) (now : ℤ) :
    ∃ s', s.ensureLoaded P cfg fresh now = (.ok (), s') ∧ s'.Mirrored P cfg ∧
      (s'.identity.toHolder.Strays P cfg.params cfg.serverUuid k now ↔ s.Strays P cfg (.maybeRotate fresh k now)) := by
  rcases h with h | ⟨db, keyFile, rfl, hwhole⟩
  · refine ⟨s, ensureLoaded_loaded h.alive.rotating.loaded fresh now, h, ?_⟩
    have hheld : s.held cfg = some s.identity.toHolder := if_pos h.alive.rotating.loaded
    rw [Strays, hheld]
    simp
  · exact start_load hwhole fresh k now

lemma Resumable.step (h : s.Resumable P cfg) (op : OwnerOp) (hop : op ≠ .restart) :
    ¬ s.Strays P cfg op ∧ (s.ownerStep P cfg op).Mirrored P cfg ∨
      s.Strays P cfg op ∧ ¬ (s.ownerStep P cfg op).Persists P cfg := by
  cases op with
  | ensureLoaded k now =>
    obtain ⟨s', hload, hmirrored, _⟩ := h.load k k now
    rw [ownerStep, hload]
    exact Or.inl ⟨id, hmirrored⟩
  | maybeRotate fresh k now =>
    obtain ⟨s', hload, hmirrored, hstrays⟩ := h.load fresh k now
    rw [ownerStep, ServerState.maybeRotate, hload, ← hstrays]
    exact hmirrored.rotate k now
  | restart => exact (hop rfl).elim

variable (P cfg) in
lemma persists_iff (db : Database) (keyFile : Option KeyMap)
    (hdb : db.loadEngine cfg.params cfg.serverUuid = none) (ops : List OwnerOp) :
    Along (ownerStep P cfg) (fun s op => op ≠ .restart → (s.ownerStep P cfg op).Persists P cfg)
        (start cfg db keyFile) ops ↔
      Along (ownerStep P cfg) (fun s op => ¬ s.Strays P cfg op) (start cfg db keyFile) ops := by
  refine along_iff_of_invariant (I := Resumable P cfg) (fun s op h => ?_) (fun s op h hpersists => ?_)
    (Or.inr ⟨db, keyFile, rfl, Or.inl hdb⟩) ops
  · by_cases hop : op = .restart
    · rw [hop]
      exact iff_of_true (fun hne => (hne rfl).elim) id
    · rcases h.step op hop with ⟨hkeeps, hnext⟩ | ⟨hstrays, hnext⟩
      · exact iff_of_true (fun _ => hnext.persists) hkeeps
      · exact iff_of_false (fun hpersists => hnext (hpersists hop)) fun hkeeps => hkeeps hstrays
  · by_cases hop : op = .restart
    · rw [hop]
      rcases h with h | ⟨db, keyFile, rfl, hwhole⟩
      · exact Or.inr ⟨_, _, rfl, h.alive.whole⟩
      · exact Or.inr ⟨db, keyFile, rfl, hwhole⟩
    · rcases h.step op hop with ⟨_, hnext⟩ | ⟨_, hnext⟩
      · exact Or.inl hnext
      · exact (hnext (hpersists hop)).elim

end Mirrored

end ServerState

end Secupload.Server

namespace Secupload.System

open Library Shared Client Server

theorem owners_persist_iff (P : Primitives) :
    (∀ (ccfg : ClientConfig) (ops : List Client.OwnerOp),
      Along (ClientIdentity.ownerStep P ccfg) (fun c op => (c.ownerStep P ccfg op).Persists P ccfg)
          (ClientIdentity.start ccfg) ops ↔
        Along (ClientIdentity.ownerStep P ccfg) (fun c op => ¬ c.Strays op) (ClientIdentity.start ccfg) ops) ∧
    ∀ (scfg : ServerConfig) (db : Database) (keyFile : Option KeyMap) (ops : List Server.OwnerOp),
      db.loadEngine scfg.params scfg.serverUuid = none →
      (Along (ServerState.ownerStep P scfg) (fun s op => op ≠ .restart → (s.ownerStep P scfg op).Persists P scfg)
          (ServerState.start scfg db keyFile) ops ↔
        Along (ServerState.ownerStep P scfg) (fun s op => ¬ s.Strays P scfg op)
          (ServerState.start scfg db keyFile) ops) :=
  ⟨fun ccfg ops => ClientIdentity.persists_iff P ccfg ops,
    fun scfg db keyFile ops hdb => ServerState.persists_iff P scfg db keyFile hdb ops⟩

section Demo

lemma lasting_keeps {P : Primitives} {scfg : ServerConfig} {s : ServerState} (hlasts : 0 < scfg.rotationDuration)
    {fresh k : PrivateKeys} {now : ℤ} (h : ∀ holder ∈ s.held scfg, ¬ holder.engine.Lapsed now) :
    ¬ s.Strays P scfg (.maybeRotate fresh k now) := by
  rintro ⟨holder, hheld, hlapsed | ⟨hduration, _⟩⟩
  · exact h holder hheld hlapsed
  · exact absurd hduration (not_le.mpr hlasts)

theorem promoted_persist :
    Along (ClientIdentity.ownerStep tagged ClientSession.demoClient)
      (fun c op => (c.ownerStep tagged ClientSession.demoClient op).Persists tagged ClientSession.demoClient)
      (ClientIdentity.start ClientSession.demoClient) clientTurns ∧
    Along (ServerState.ownerStep tagged ServerState.demoServer)
      (fun s op => op ≠ .restart → (s.ownerStep tagged ServerState.demoServer op).Persists tagged ServerState.demoServer)
      (ServerState.start ServerState.demoServer Database.empty none) serverTurns := by
  constructor
  · exact ((owners_persist_iff tagged).1 ClientSession.demoClient clientTurns).mpr (by decide +kernel)
  · exact ((owners_persist_iff tagged).2 ServerState.demoServer Database.empty none serverTurns rfl).mpr
      ⟨id, lasting_keeps (by decide) (by decide +kernel), lasting_keeps (by decide) (by decide +kernel), along_nil _⟩

-- the successor of 44200 is to be promoted when it has expired, at 173800
def lateClient : List Client.OwnerOp :=
  [.ensureLoaded (demoKeys 1) 1000, .generateSuccessor (demoKeys 2) 44200, .checkpoint 173800]

def lateServer : List Server.OwnerOp :=
  [.ensureLoaded (demoKeys 1) 1000, .maybeRotate (demoKeys 0) (demoKeys 2) 44200,
    .maybeRotate (demoKeys 0) (demoKeys 3) 173800]

theorem late_promotion_unsaved :
    (¬ ∀ (P : Primitives) (ccfg : ClientConfig) (ops : List Client.OwnerOp),
      Along (ClientIdentity.ownerStep P ccfg) (fun c op => (c.ownerStep P ccfg op).Persists P ccfg)
        (ClientIdentity.start ccfg) ops) ∧
    ¬ ∀ (P : Primitives) (scfg : ServerConfig) (db : Database) (keyFile : Option KeyMap)
      (ops : List Server.OwnerOp), db.loadEngine scfg.params scfg.serverUuid = none →
      Along (ServerState.ownerStep P scfg) (fun s op => op ≠ .restart → (s.ownerStep P scfg op).Persists P scfg)
        (ServerState.start scfg db keyFile) ops := by
  constructor
  · intro h
    have hkeeps := (ClientIdentity.persists_iff tagged ClientSession.demoClient lateClient).mp
      (h tagged ClientSession.demoClient lateClient)
    revert hkeeps
    decide +kernel
  · intro h
    obtain ⟨_, _, hkeeps, _⟩ :=
      (ServerState.persists_iff tagged ServerState.demoServer Database.empty none rfl lateServer).mp
      (h tagged ServerState.demoServer Database.empty none lateServer rfl)
    refine hkeeps ?_
    have hlapsed : ∃ holder ∈ (run (ServerState.ownerStep tagged ServerState.demoServer)
        (ServerState.start ServerState.demoServer Database.empty none) (lateServer.take 2)).held ServerState.demoServer,
        holder.engine.Lapsed 173800 := by decide +kernel
    obtain ⟨holder, hheld, hlapsed⟩ := hlapsed
    exact ⟨holder, hheld, Or.inl hlapsed⟩

end Demo

end Secupload.System
