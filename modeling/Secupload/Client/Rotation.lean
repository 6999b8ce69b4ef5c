import Secupload.Client.Connect
import Secupload.Shared.StatusTable

namespace Secupload.Client.ClientIdentity

open Library Shared
open Shared.RotationEngine (WindowInv expired retired submitted demoted promoted get_of_mem mem_of_byStatus)

def stored (cfg : ClientConfig) (c : ClientIdentity) : RotationEngine :=
  RotationEngine.load cfg.params ((c.file.map loadedCredentials).getD [])

def withRows (c : ClientIdentity) (e : RotationEngine) : ClientIdentity := c.withHolder (c.toHolder.withEngine e)

-- the file may still call VALIDATING what the engine in memory has marked EXPIRED
structure Kept (P : Primitives) (cfg : ClientConfig) (c : ClientIdentity) : Prop where
  window : WindowInv c.engine
  storedWindow : WindowInv (c.stored cfg)
  belongs : ∃ J, c.engine.BelongsTo J
  storedBelongs : ∃ J, (c.stored cfg).BelongsTo J
  enrolled : c.enrolled = true
  keys : c.keys.rows ≠ []
  loads : ∀ v k, c.keys.keysFor v = some k → P.x25519Loads k.x25519 = true
  file : ∃ file, c.file = some file ∧ file.keys = c.keys ∧ file.enrolled = true
  mirrors : ∀ v, c.engine.statusAt v = (c.stored cfg).statusAt v ∨
    (c.stored cfg).statusAt v = some .validating ∧ c.engine.statusAt v = some .expired

section Files

variable {P : Primitives} {cfg : ClientConfig} {c : ClientIdentity} {J : Uuid}

lemma loadedCredentials_perm (file : IdentityFile)
    (h : ∀ d ∈ file.credentials, d.identityUuid = file.identityUuid) :
    (loadedCredentials file).Perm file.credentials := by
  have hperm := List.perm_insertionSort
    (fun c d : CredentialPublic => toString c.version ≤ toString d.version) file.credentials
  have hsame : ∀ d ∈ file.credentials.insertionSort
      (fun c d : CredentialPublic => toString c.version ≤ toString d.version),
      ({ d with identityUuid := file.identityUuid } : CredentialPublic) = d := by
    intro d hd
    rw [← h d (hperm.mem_iff.mp hd)]
  rw [loadedCredentials, List.map_congr_left hsame, List.map_id']
  exact hperm

lemma identity_all (h : c.engine.BelongsTo J) : ∀ d ∈ c.engine.all,
    d.identityUuid = (c.engine.all.head?.map (·.identityUuid)).getD Uuid.nil := by
  intro d hd
  have hrows : ∀ b ∈ c.engine.all, b.identityUuid = J := fun b hb => h b (RotationEngine.mem_all.mp hb)
  cases hall : c.engine.all with
  | nil =>
    rw [hall] at hd
    cases hd
  | cons b rest =>
    rw [hall] at hrows hd
    exact (hrows d hd).trans (hrows b List.mem_cons_self).symm

lemma mem_stored_save (h : c.engine.BelongsTo J) (d : CredentialPublic) :
    d ∈ (c.save.stored cfg).creds.rows ↔ d ∈ c.engine.creds.rows := by
  have hperm := loadedCredentials_perm
    { identityUuid := (c.engine.all.head?.map (·.identityUuid)).getD Uuid.nil
      credentials := c.engine.all, keys := c.keys, enrolled := c.enrolled } (identity_all h)
  have hrows : (c.save.stored cfg).creds.rows = loadedCredentials _ :=
    Table.rows_ofRows _ ((hperm.map _).nodup_iff.mpr c.engine.all_versions_nodup)
  rw [hrows, hperm.mem_iff]
  exact RotationEngine.mem_all

lemma statusAt_stored_save (h : c.engine.BelongsTo J) (v : ℤ) :
    (c.save.stored cfg).statusAt v = c.engine.statusAt v := by
  rw [RotationEngine.statusAt, RotationEngine.get_congr (mem_stored_save h)]
  rfl

variable (cfg) in
lemma kept_save (hwindow : WindowInv c.engine) (hbelongs : ∃ J, c.engine.BelongsTo J)
    (henrolled : c.enrolled = true) (hkeys : c.keys.rows ≠ [])
    (hloads : ∀ v k, c.keys.keysFor v = some k → P.x25519Loads k.x25519 = true) :
    c.save.Kept P cfg := by
  obtain ⟨J, hJ⟩ := hbelongs
  refine ⟨hwindow, hwindow.congr (mem_stored_save hJ), ⟨J, hJ⟩, ⟨J, ?_⟩, henrolled, hkeys, hloads,
    ⟨_, rfl, rfl, henrolled⟩, fun v => Or.inl (statusAt_stored_save hJ v).symm⟩
  exact fun d hd => hJ d ((mem_stored_save hJ d).mp hd)

lemma ensureLoaded_kept (h : c.Kept P cfg) (k : PrivateKeys) (now : ℤ) :
    c.ensureLoaded P cfg k now = (.ok (), c.withRows (c.stored cfg)) := by
  obtain ⟨file, hfile, hkeys, henrolled⟩ := h.file
  have hself : c.enrolled = true := h.enrolled
  have hstored : c.stored cfg = RotationEngine.load cfg.params (loadedCredentials file) := by
    rw [stored, hfile]
    rfl
  rw [ensureLoaded_file hfile (by rw [hkeys]; exact h.keys), hkeys, henrolled, ← hself, hstored]
  rfl

lemma kept_reload (h : c.Kept P cfg) : (c.withRows (c.stored cfg)).Kept P cfg where
  window := h.storedWindow
  storedWindow := h.storedWindow
  belongs := h.storedBelongs
  storedBelongs := h.storedBelongs
  enrolled := h.enrolled
  keys := h.keys
  loads := h.loads
  file := h.file
  mirrors := fun _ => Or.inl rfl

end Files

section Transitions

variable {P : Primitives} {cfg : ClientConfig} {c : ClientIdentity} {k : PrivateKeys} {now : ℤ}
  {active v3 : CredentialPublic}

def submittedBy (P : Primitives) (c : ClientIdentity) (active : CredentialPublic) (k : PrivateKeys)
    (now : ℤ) : ClientIdentity :=
  { c with
    engine := c.engine.put (submitted c.engine.params
      (credentialOf P active.identityUuid (active.version + 1) k) now)
    keys := c.keys.add (active.version + 1) k }.save

variable (P c k now) in
lemma generateSuccessor_cases :
    (∃ exc, c.generateSuccessor P k now = (.error exc, c)) ∨
    ∃ active signer payload, c.engine.active = some active ∧
      c.keys.keysFor active.version = some signer ∧
      encodeSuccessorPayload active.identityUuid active.version (active.version + 1)
        (P.ed25519Public k.ed25519) (P.x25519Public k.x25519) [] = .ok payload ∧
      c.engine.Submittable P (credentialOf P active.identityUuid (active.version + 1) k)
        (signEd25519 P signer.ed25519 payload) [] now ∧
      c.generateSuccessor P k now =
        (.ok (credentialOf P active.identityUuid (active.version + 1) k,
          signEd25519 P signer.ed25519 payload, payload), c.submittedBy P active k now) := by
  rw [generateSuccessor, current]
  cases hactive : c.engine.active with
  | none => exact Or.inl ⟨_, rfl⟩
  | some active =>
    dsimp only
    rcases Holder.generateSuccessor_cases P active.identityUuid c.toHolder active k now with
      ⟨exc, he⟩ | ⟨signer, payload, hsigner, hpayload, hsubmit, he⟩
    · rw [he]
      exact Or.inl ⟨exc, rfl⟩
    · rw [he]
      exact Or.inr ⟨active, signer, payload, rfl, hsigner, hpayload, hsubmit, rfl⟩

lemma kept_submittedBy (h : c.Kept P cfg) (hactive : c.engine.active = some active)
    (hloads : P.x25519Loads k.x25519 = true) {signature : Bytes}
    (hsubmit : c.engine.Submittable P (credentialOf P active.identityUuid (active.version + 1) k)
      signature [] now) : (c.submittedBy P active k now).Kept P cfg := by
  have hwindow := hsubmit.window h.window
  refine kept_save cfg hwindow ?_ h.enrolled ?_ ?_
  · obtain ⟨J, hJ⟩ := h.belongs
    exact ⟨J, hJ.put (hJ active (mem_of_byStatus hactive).1)⟩
  · exact List.ne_nil_of_mem (Table.mem_set.mpr (Or.inl rfl))
  · intro v k' hk'
    dsimp only at hk'
    rw [KeyMap.keysFor_add] at hk'
    split at hk'
    · obtain rfl := Option.some.inj hk'
      exact hloads
    · exact h.loads v k' hk'

variable (c now) in
lemma checkpoint_cases :
    (¬ c.engine.Checkpointable now ∧ (c.checkpoint now = (.ok (), c) ∨
      ∃ v3, c.engine.validating = some v3 ∧
        c.checkpoint now = (.ok (), c.withRows (c.engine.put (retired v3 .expired))))) ∨
    (c.engine.Checkpointable now ∧ ∃ v3 v2, c.engine.validating = some v3 ∧
      c.engine.active = some v2 ∧ c.checkpoint now = (.ok (), (c.withRows
        ((c.engine.terminateFallback.put (demoted c.engine.params v2 now)).put
          (promoted v3 now))).save)) := by
  rw [checkpoint]
  cases hvalidating : c.engine.validating with
  | none =>
    refine Or.inl ⟨?_, Or.inl rfl⟩
    rintro ⟨v3, v2, hv3, _⟩
    rw [hvalidating] at hv3
    cases hv3
  | some v3 =>
    dsimp only
    rw [← RotationEngine.checkpoint_isOk]
    have herror : ∀ exc, (c.engine.checkpoint now).1 = .error exc →
        ∃ code message, exc = .rotationError code message := fun exc => RotationEngine.checkpoint_error
    simp only [Holder.checkpoint]
    rcases RotationEngine.checkpoint_cases c.engine now with
      ⟨exc, he⟩ | ⟨d, exc, hd, _, _, he⟩ | ⟨d, v2, changed, hd, _, _, hv2, _, he⟩
    · rw [he] at herror ⊢
      obtain ⟨code, message, rfl⟩ := herror exc rfl
      exact Or.inl ⟨Bool.false_ne_true, Or.inl rfl⟩
    · rw [he] at herror ⊢
      obtain ⟨code, message, rfl⟩ := herror exc rfl
      exact Or.inl ⟨Bool.false_ne_true, Or.inr ⟨d, hvalidating.symm.trans hd, rfl⟩⟩
    · rw [he]
      exact Or.inr ⟨rfl, d, v2, hvalidating.symm.trans hd, hv2, rfl⟩

variable (c now) in
lemma rollback_cases :
    (∃ exc, c.rollback now = (.error exc, c)) ∨
    ∃ v3, c.engine.validating = some v3 ∧
      c.rollback now = (.ok (), (c.withRows (c.engine.put (retired v3 .terminated))).save) := by
  rw [rollback, Holder.rollback]
  rcases RotationEngine.rollback_cases c.engine now with ⟨exc, he⟩ | ⟨v3, hv3, he⟩
  · rw [he]
    exact Or.inl ⟨exc, rfl⟩
  · rw [he]
    exact Or.inr ⟨v3, hv3, rfl⟩

end Transitions

section Kept

variable {P : Primitives} {cfg : ClientConfig} {c : ClientIdentity} {k : PrivateKeys} {v now : ℤ}
  {active v2 v3 : CredentialPublic} {s : CredentialStatus}

lemma Kept.statusAt_memory (h : c.Kept P cfg) (hs : (c.stored cfg).statusAt v = some s)
    (hne : s ≠ .validating) : c.engine.statusAt v = some s := by
  rcases h.mirrors v with hsame | ⟨hvalidating, _⟩
  · rw [hsame, hs]
  · rw [hs] at hvalidating
    exact (hne (Option.some.inj hvalidating)).elim

lemma Kept.statusAt_file (h : c.Kept P cfg) (hs : c.engine.statusAt v = some s)
    (hne : s ≠ .expired) : (c.stored cfg).statusAt v = some s := by
  rcases h.mirrors v with hsame | ⟨_, hexpired⟩
  · rw [← hsame, hs]
  · rw [hs] at hexpired
    exact (hne (Option.some.inj hexpired)).elim

lemma Kept.statusAt_known (h : c.Kept P cfg) :
    c.engine.statusAt v = none ↔ (c.stored cfg).statusAt v = none := by
  rcases h.mirrors v with hsame | ⟨hvalidating, hexpired⟩
  · rw [hsame]
  · rw [hvalidating, hexpired]
    exact iff_of_false (Option.some_ne_none _) (Option.some_ne_none _)

lemma Kept.current (h : c.Kept P cfg) (hs : (c.stored cfg).statusAt v = some .active) :
    ∃ active, c.engine.active = some active ∧ active.version = v := by
  obtain ⟨active, hactive, hv, _⟩ := h.window.byStatus_of_statusAt (h.statusAt_memory hs (by decide)) rfl
  exact ⟨active, hactive, hv⟩

lemma statusAt_submittedBy (h : c.Kept P cfg) (hactive : c.engine.active = some active) (v : ℤ) :
    ((c.submittedBy P active k now).stored cfg).statusAt v =
      if active.version + 1 = v then some .validating else c.engine.statusAt v := by
  obtain ⟨J, hJ⟩ := h.belongs
  have hbelongs : (c.submittedBy P active k now).engine.BelongsTo J :=
    hJ.put (hJ active (mem_of_byStatus hactive).1)
  exact (statusAt_stored_save hbelongs v).trans (RotationEngine.statusAt_put v)

lemma kept_expire (h : c.Kept P cfg) (hv3 : c.engine.validating = some v3) :
    (c.withRows (c.engine.put (retired v3 .expired))).Kept P cfg := by
  have hmem := (mem_of_byStatus hv3).1
  refine ⟨h.window.put_retired hmem rfl, h.storedWindow, ?_, h.storedBelongs, h.enrolled, h.keys,
    h.loads, h.file, fun v => ?_⟩
  · obtain ⟨J, hJ⟩ := h.belongs
    exact ⟨J, hJ.put (hJ v3 hmem)⟩
  · change (c.engine.put (retired v3 .expired)).statusAt v = (c.stored cfg).statusAt v ∨
      (c.stored cfg).statusAt v = some .validating ∧
        (c.engine.put (retired v3 .expired)).statusAt v = some .expired
    rw [RotationEngine.statusAt_put]
    split
    · rename_i hv
      have hs := h.statusAt_file (RotationEngine.statusAt_of_byStatus hv3) (by decide)
      rw [show v3.version = v from hv] at hs
      exact Or.inr ⟨hs, rfl⟩
    · exact h.mirrors v

lemma belongs_promote {J : Uuid} (hJ : c.engine.BelongsTo J) (hv2 : c.engine.active = some v2)
    (hv3 : c.engine.validating = some v3) :
    ((c.engine.terminateFallback.put (demoted c.engine.params v2 now)).put
      (promoted v3 now)).BelongsTo J := by
  have hdemoted : (demoted c.engine.params v2 now).identityUuid = J := hJ v2 (mem_of_byStatus hv2).1
  have hpromoted : (promoted v3 now).identityUuid = J := hJ v3 (mem_of_byStatus hv3).1
  exact (hJ.terminateFallback.put hdemoted).put hpromoted

lemma kept_promote (h : c.Kept P cfg) (hv2 : c.engine.active = some v2)
    (hv3 : c.engine.validating = some v3) :
    (c.withRows ((c.engine.terminateFallback.put (demoted c.engine.params v2 now)).put
      (promoted v3 now))).save.Kept P cfg := by
  obtain ⟨J, hJ⟩ := h.belongs
  exact kept_save cfg (h.window.promote now hv2 hv3) ⟨J, belongs_promote hJ hv2 hv3⟩ h.enrolled h.keys
    h.loads

lemma statusAt_promote (h : c.Kept P cfg) (hv2 : c.engine.active = some v2)
    (hv3 : c.engine.validating = some v3) (v : ℤ) :
    ((c.withRows ((c.engine.terminateFallback.put (demoted c.engine.params v2 now)).put
      (promoted v3 now))).save.stored cfg).statusAt v =
      if v3.version = v then some .active
      else if v2.version = v then some .fallback
      else (c.engine.get v).map fun c => (RotationEngine.ended c).status := by
  obtain ⟨J, hJ⟩ := h.belongs
  rw [statusAt_stored_save (belongs_promote hJ hv2 hv3)]
  exact h.window.statusAt_promote now v

lemma kept_rollback (h : c.Kept P cfg) (hv3 : c.engine.validating = some v3) :
    (c.withRows (c.engine.put (retired v3 .terminated))).save.Kept P cfg := by
  obtain ⟨J, hJ⟩ := h.belongs
  have hmem := (mem_of_byStatus hv3).1
  exact kept_save cfg (h.window.put_retired hmem rfl) ⟨J, hJ.put (hJ v3 hmem)⟩ h.enrolled h.keys h.loads

lemma statusAt_rollback (h : c.Kept P cfg) (hv3 : c.engine.validating = some v3) (v : ℤ) :
    ((c.withRows (c.engine.put (retired v3 .terminated))).save.stored cfg).statusAt v =
      if v3.version = v then some .terminated else c.engine.statusAt v := by
  obtain ⟨J, hJ⟩ := h.belongs
  have hbelongs : (c.withRows (c.engine.put (retired v3 .terminated))).engine.BelongsTo J :=
    hJ.put (hJ v3 (mem_of_byStatus hv3).1)
  rw [statusAt_stored_save hbelongs]
  exact RotationEngine.statusAt_put v

lemma rolledBack (h : c.Kept P cfg) (now : ℤ) :
    (c.rollback now).2.Kept P cfg ∧ (c.rollback now).2.keys = c.keys ∧
      ∀ v s, (c.stored cfg).statusAt v = some s → s ≠ .validating →
        ((c.rollback now).2.stored cfg).statusAt v = some s := by
  rcases rollback_cases c now with ⟨exc, he⟩ | ⟨v3, hv3, he⟩
  · rw [he]
    exact ⟨h, rfl, fun v s hs _ => hs⟩
  · rw [he]
    refine ⟨kept_rollback h hv3, rfl, fun v s hs hne => ?_⟩
    have hmemory := h.statusAt_memory hs hne
    rw [statusAt_rollback h hv3, if_neg, hmemory]
    rintro rfl
    rw [RotationEngine.statusAt_of_byStatus hv3] at hmemory
    exact hne (Option.some.inj hmemory).symm

lemma checkpointed (h : c.Kept P cfg) {a b : ℤ} (ha : (c.stored cfg).statusAt a = some .active)
    (hb : (c.stored cfg).statusAt b = some .validating) (now : ℤ) :
    (c.checkpoint now).2.Kept P cfg ∧ (c.checkpoint now).2.keys = c.keys ∧
      ((¬ c.engine.Checkpointable now ∧ (c.checkpoint now).2.stored cfg = c.stored cfg) ∨
        c.engine.Checkpointable now ∧
          ((c.checkpoint now).2.stored cfg).statusAt b = some .active ∧
          ((c.checkpoint now).2.stored cfg).statusAt a = some .fallback) := by
  rcases checkpoint_cases c now with
    ⟨hno, he | ⟨v3, hv3, he⟩⟩ | ⟨hyes, v3, v2, hv3, hv2, he⟩
  · rw [he]
    exact ⟨h, rfl, Or.inl ⟨hno, rfl⟩⟩
  · rw [he]
    exact ⟨kept_expire h hv3, rfl, Or.inl ⟨hno, rfl⟩⟩
  · rw [he]
    have h3 := h.statusAt_file (RotationEngine.statusAt_of_byStatus hv3) (by decide)
    obtain rfl := h.storedWindow.statusAt_unique h3 hb rfl
    have h2 := h.statusAt_file (RotationEngine.statusAt_of_byStatus hv2) (by decide)
    obtain rfl := h.storedWindow.statusAt_unique h2 ha rfl
    have hne : v3.version ≠ v2.version := by
      intro hv
      rw [hv, ha] at hb
      cases hb
    refine ⟨kept_promote h hv2 hv3, rfl, Or.inr ⟨hyes, ?_, ?_⟩⟩
    · rw [statusAt_promote h hv2 hv3, if_pos rfl]
    · rw [statusAt_promote h hv2 hv3, if_neg hne, if_pos rfl]

end Kept

end Secupload.Client.ClientIdentity
