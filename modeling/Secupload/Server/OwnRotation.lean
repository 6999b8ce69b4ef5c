import Secupload.Server.OwnKeys

namespace Secupload.Server

open Library Shared
open Shared.RotationEngine (WindowInv windowInv_transition submitted promoted demoted retired ended
  mem_of_byStatus get_put get_eq_some get_of_mem)

namespace ServerState

section Definitions

variable (P : Primitives) (cfg : ServerConfig) (s : ServerState)

-- the state in which `maybe_rotate` looks for a credential to promote
def due (k : PrivateKeys) (now : ℤ) : ServerState :=
  match s.identity.engine.active with
  | none => s
  | some active =>
    if s.identity.engine.validating = none ∧
        intOr active.expirationTime now - 2 * cfg.params.fallbackPeriod ≤ now then
      (s.submitSuccessor P cfg active k now).2
    else s

def Promotes (k : PrivateKeys) (now : ℤ) : Prop :=
  (s.due P cfg k now).identity.engine.Checkpointable now

instance (k : PrivateKeys) (now : ℤ) : Decidable (s.Promotes P cfg k now) :=
  inferInstanceAs (Decidable ((s.due P cfg k now).identity.engine.Checkpointable now))

structure Rotating (s : ServerState) : Prop where
  loaded : s.identity.loaded = true
  params : s.identity.engine.params = cfg.params
  window : WindowInv s.identity.engine
  belongs : s.identity.engine.BelongsTo cfg.serverUuid

structure KeepsOthers (s s' : ServerState) : Prop where
  rotating : s'.Rotating cfg
  rows : ∀ J v, J ≠ cfg.serverUuid → s'.db.credential J v = s.db.credential J v

end Definitions

section Ticks

variable {P : Primitives} {cfg : ServerConfig} {s s' s'' : ServerState} {k : PrivateKeys} {now : ℤ}

lemma rotating_first (db : Database) (keyFile : Option KeyMap) (k : PrivateKeys) (now : ℤ)
    (hdb : db.loadEngine cfg.params cfg.serverUuid = none) :
    ((start cfg db keyFile).ensureLoaded P cfg k now).2.Rotating cfg := by
  rw [ensureLoaded_first P cfg db keyFile k now hdb]
  refine ⟨rfl, rfl, ?_, ?_⟩
  · exact RotationEngine.windowInv_step P (RotationEngine.windowInv_new cfg.params)
      (.provisionInitial (credentialOf P cfg.serverUuid 1 k) now)
  · intro d hd
    rw [List.mem_singleton.mp hd]
    rfl

lemma Rotating.of_identity (h : s.Rotating cfg) (hs : s'.identity = s.identity) : s'.Rotating cfg := by
  obtain ⟨identity, db, keyFile⟩ := s
  obtain ⟨_, db', keyFile'⟩ := s'
  obtain rfl := hs
  exact ⟨h.loaded, h.params, h.window, h.belongs⟩

lemma KeepsOthers.refl (h : s.Rotating cfg) : KeepsOthers cfg s s := ⟨h, fun _ _ _ => rfl⟩

lemma KeepsOthers.trans (h : KeepsOthers cfg s s') (h' : KeepsOthers cfg s' s'') :
    KeepsOthers cfg s s'' :=
  ⟨h'.rotating, fun J v hJ => (h'.rows J v hJ).trans (h.rows J v hJ)⟩

lemma keepsOthers_transition (h : s.Rotating cfg) (t : RotationEngine.Transition)
    (hidentity : s'.identity.loaded = s.identity.loaded)
    (hengine : s'.identity.engine = (t.exec P s.identity.engine).2)
    (hdb : s'.db = s.db ∨ s'.db = s.db.saveAll s'.identity.engine) : KeepsOthers cfg s s' := by
  have hbelongs : s'.identity.engine.BelongsTo cfg.serverUuid := by
    rw [hengine]
    exact h.belongs.transition P t
  refine ⟨⟨hidentity.trans h.loaded, ?_, ?_, hbelongs⟩, fun J v hJ => ?_⟩
  · rw [hengine, (s.identity.engine.evolves_transition P t).params, h.params]
  · rw [hengine]
    exact windowInv_transition P h.window t
  · rcases hdb with hdb | hdb
    · rw [hdb]
    · rw [hdb, Database.credential_saveAll hbelongs, if_neg hJ]

variable (P k now) in
lemma submitSuccessor_engine (h : s.Rotating cfg) (active : CredentialPublic) :
    KeepsOthers cfg s (s.submitSuccessor P cfg active k now).2 ∧
      ((s.submitSuccessor P cfg active k now).2.identity.engine = s.identity.engine ∨
        ∃ n, (∀ d ∈ s.identity.engine.creds.rows, d.version < n.version) ∧
          (s.submitSuccessor P cfg active k now).2.identity.engine =
            s.identity.engine.put (submitted s.identity.engine.params n now)) := by
  rw [submitSuccessor]
  rcases Holder.generateSuccessor_cases P cfg.serverUuid s.identity.toHolder active k now with
    ⟨exc, he⟩ | ⟨signer, payload, _, _, hs, he⟩
  · rw [he]
    exact ⟨.refl h, Or.inl rfl⟩
  · rw [he]
    have hexec := (congrArg Prod.snd hs.submit).symm
    exact ⟨keepsOthers_transition (P := P) h (.submitSuccessor (credentialOf P cfg.serverUuid
      (active.version + 1) k) (signEd25519 P signer.ed25519 payload) [] now) rfl hexec (Or.inr rfl),
      Or.inr ⟨_, hs.newest, rfl⟩⟩

lemma due_engine (h : s.Rotating cfg) (k : PrivateKeys) (now : ℤ) :
    KeepsOthers cfg s (s.due P cfg k now) ∧
      ((s.due P cfg k now).identity.engine = s.identity.engine ∨
        ∃ n, (∀ d ∈ s.identity.engine.creds.rows, d.version < n.version) ∧
          (s.due P cfg k now).identity.engine =
            s.identity.engine.put (submitted s.identity.engine.params n now)) := by
  rw [due]
  split
  · exact ⟨.refl h, Or.inl rfl⟩
  · split
    · exact submitSuccessor_engine P k now h _
    · exact ⟨.refl h, Or.inl rfl⟩

lemma promote_cases (s : ServerState) (now : ℤ) :
    (¬ s.identity.engine.Checkpointable now ∧ (s.promote now).2 = s) ∨
    (¬ s.identity.engine.Checkpointable now ∧ ∃ v3, s.identity.engine.validating = some v3 ∧
      (s.promote now).2 =
        s.withHolder (s.identity.toHolder.withEngine (s.identity.engine.put (retired v3 .expired)))) ∨
    (s.identity.engine.Checkpointable now ∧ ∃ v2 v3, s.identity.engine.active = some v2 ∧
      s.identity.engine.validating = some v3 ∧
      (s.promote now).2 = (s.withHolder (s.identity.toHolder.withEngine
        ((s.identity.engine.terminateFallback.put (demoted s.identity.engine.params v2 now)).put
          (promoted v3 now)))).persist) := by
  have haccepts : (∃ changed, (s.identity.engine.checkpoint now).1 = .ok changed) ↔
      s.identity.engine.Checkpointable now := RotationEngine.checkpoint_accepts
  rw [promote]
  cases hv : s.identity.engine.validating with
  | none =>
    refine Or.inl ⟨?_, rfl⟩
    rintro ⟨v3, _, hv3, _⟩
    rw [hv] at hv3
    cases hv3
  | some v =>
    dsimp only
    by_cases hdeadline : now < v.validationDeadline.getD 0
    · rw [if_pos hdeadline]
      refine Or.inl ⟨?_, rfl⟩
      rintro ⟨v3, _, hv3, hle, _⟩
      obtain rfl := Option.some.inj (hv.symm.trans hv3)
      omega
    · rw [if_neg hdeadline]
      simp only [Holder.checkpoint]
      rcases RotationEngine.checkpoint_cases s.identity.engine now with
        ⟨exc, he⟩ | ⟨v3, exc, hv3, _, _, he⟩ | ⟨v3, v2, changed, hv3, _, _, hv2, _, he⟩
      · obtain ⟨code, message, rfl⟩ := RotationEngine.checkpoint_error (congrArg Prod.fst he)
        rw [he] at haccepts ⊢
        refine Or.inl ⟨fun h => ?_, rfl⟩
        obtain ⟨_, hok⟩ := haccepts.mpr h
        cases hok
      · obtain ⟨code, message, rfl⟩ := RotationEngine.checkpoint_error (congrArg Prod.fst he)
        rw [he] at haccepts ⊢
        obtain rfl := Option.some.inj (hv.symm.trans hv3)
        refine Or.inr (Or.inl ⟨fun h => ?_, v, rfl, rfl⟩)
        obtain ⟨_, hok⟩ := haccepts.mpr h
        cases hok
      · rw [he] at haccepts ⊢
        obtain rfl := Option.some.inj (hv.symm.trans hv3)
        exact Or.inr (Or.inr ⟨haccepts.mp ⟨changed, rfl⟩, v2, v, hv2, rfl, rfl⟩)

lemma promote_keys (s : ServerState) (now : ℤ) :
    (s.promote now).2.identity.keys = s.identity.keys := by
  rcases promote_cases s now with ⟨_, he⟩ | ⟨_, v3, _, he⟩ | ⟨_, v2, v3, _, _, he⟩ <;> rw [he] <;> rfl

lemma promote_active (s : ServerState) (now : ℤ) (h : s.identity.engine.active ≠ none) :
    (s.promote now).2.identity.engine.active ≠ none := by
  rcases promote_cases s now with ⟨_, he⟩ | ⟨_, v3, hv3, he⟩ | ⟨_, v2, v3, _, _, he⟩
  · rw [he]
    exact h
  · rw [he]
    obtain ⟨a, ha⟩ := Option.ne_none_iff_exists'.mp h
    refine RotationEngine.active_put_ne ha fun hv => ?_
    have hsame := s.identity.engine.creds.row_unique (mem_of_byStatus ha).1 (mem_of_byStatus hv3).1 hv
    have hs := (mem_of_byStatus ha).2
    rw [hsame, (mem_of_byStatus hv3).2] at hs
    cases hs
  · rw [he]
    exact RotationEngine.active_put rfl

lemma promote_rows (s : ServerState) (now : ℤ) {d : CredentialPublic}
    (hd : d ∈ (s.promote now).2.identity.engine.creds.rows) :
    ∃ c ∈ s.identity.engine.creds.rows, c.Evolves d := by
  rcases promote_cases s now with ⟨_, he⟩ | ⟨_, v3, hv3, he⟩ | ⟨_, v2, v3, hv2, hv3, he⟩
  · rw [he] at hd
    exact ⟨d, hd, .refl d⟩
  · rw [he] at hd
    exact RotationEngine.rows_put_of_mem (mem_of_byStatus hv3).1 (.retired rfl) hd
  · rw [he] at hd
    exact RotationEngine.rows_promote hv2 hv3 hd

lemma promote_keepsOthers (h : s.Rotating cfg) (now : ℤ) : KeepsOthers cfg s (s.promote now).2 := by
  rcases promote_cases s now with ⟨_, he⟩ | ⟨_, v3, hv3, he⟩ | ⟨_, v2, v3, hv2, hv3, he⟩
  · rw [he]
    exact .refl h
  · rw [he]
    refine ⟨⟨h.loaded, h.params, h.window.put_retired (mem_of_byStatus hv3).1 rfl, ?_⟩, fun _ _ _ => rfl⟩
    exact h.belongs.put (h.belongs v3 (mem_of_byStatus hv3).1)
  · rw [he]
    have hdemoted : (demoted s.identity.engine.params v2 now).identityUuid = cfg.serverUuid :=
      h.belongs v2 (mem_of_byStatus hv2).1
    have hpromoted : (promoted v3 now).identityUuid = cfg.serverUuid :=
      h.belongs v3 (mem_of_byStatus hv3).1
    have hbelongs := (h.belongs.terminateFallback.put hdemoted).put hpromoted
    have hparams := (s.identity.engine.evolves_promote now hv2 hv3).params
    refine ⟨⟨h.loaded, hparams.trans h.params, h.window.promote now hv2 hv3, hbelongs⟩, fun J v hJ => ?_⟩
    exact (Database.credential_saveAll hbelongs J v).trans (if_neg hJ)

lemma rotate_due {active : CredentialPublic} (hactive : s.identity.engine.active = some active)
    (k : PrivateKeys) (now : ℤ) :
    (s.rotate P cfg k now).2 = ((s.due P cfg k now).promote now).2 := by
  rw [rotate, due, hactive]
  dsimp only
  split
  · rename_i hdue
    rw [submitSuccessor]
    rcases Holder.generateSuccessor_cases P cfg.serverUuid s.identity.toHolder active k now with
      ⟨exc, he⟩ | ⟨signer, payload, _, _, hs, he⟩
    · rw [he]
      have hnone : (s.promote now).2 = s := by rw [promote, hdue.1]
      refine Eq.trans ?_ hnone.symm
      dsimp only
      split
      · rename_i hresult
        rw [← (Prod.mk.inj hresult).2]
        rfl
      · rename_i hresult
        rw [← (Prod.mk.inj hresult).2]
        rfl
      · rename_i hresult
        cases (Prod.mk.inj hresult).1
    · rw [he]
  · rfl

lemma rotate_keepsOthers (h : s.Rotating cfg) (k : PrivateKeys) (now : ℤ) :
    KeepsOthers cfg s (s.rotate P cfg k now).2 := by
  cases hactive : s.identity.engine.active with
  | none =>
    rw [rotate, hactive]
    exact .refl h
  | some active =>
    rw [rotate_due hactive]
    have hdue := (due_engine (P := P) h k now).1
    exact hdue.trans (promote_keepsOthers hdue.rotating now)

variable (P k now) in
lemma due_get (h : s.Rotating cfg) {v : ℤ} {c : CredentialPublic}
    (hc : s.identity.engine.get v = some c) :
    (s.due P cfg k now).identity.engine.get v = some c := by
  rcases (due_engine (P := P) h k now).2 with he | ⟨n, hnew, he⟩
  · rw [he, hc]
  · obtain ⟨hmem, hv⟩ := get_eq_some.mp hc
    rw [he, get_put, if_neg, hc]
    have hlt := hnew c hmem
    have hn : (submitted s.identity.engine.params n now).version = n.version := rfl
    omega

lemma rotate_unpromoted (h : s.Rotating cfg) (hno : ¬ s.Promotes P cfg k now) {v : ℤ}
    {c : CredentialPublic} (hc : s.identity.engine.get v = some c) (hs : c.status ≠ .validating) :
    (s.rotate P cfg k now).2.identity.engine.get v = some c := by
  cases hactive : s.identity.engine.active with
  | none =>
    rw [rotate, hactive]
    exact hc
  | some active =>
    rw [rotate_due hactive]
    have hget := due_get P k now h hc
    rcases promote_cases (s.due P cfg k now) now with ⟨_, he⟩ | ⟨_, v3, hv3, he⟩ | ⟨hyes, _⟩
    · rw [he, hget]
    · rw [he]
      refine (get_put v).trans ((if_neg fun hv => hs ?_).trans hget)
      obtain ⟨hmem, hstatus⟩ := mem_of_byStatus hv3
      obtain ⟨hcmem, hcv⟩ := get_eq_some.mp hget
      rw [(s.due P cfg k now).identity.engine.creds.row_unique hcmem hmem (hcv.trans hv.symm), hstatus]
    · exact (hno hyes).elim

lemma rotate_promoted (h : s.Rotating cfg) (hyes : s.Promotes P cfg k now) {v : ℤ}
    {c : CredentialPublic} (hc : s.identity.engine.get v = some c) :
    (c.status = .active →
      (s.rotate P cfg k now).2.identity.engine.get v = some (demoted cfg.params c now)) ∧
    (c.status = .fallback →
      (s.rotate P cfg k now).2.identity.engine.get v = some (retired c .terminated)) := by
  have hdue := (due_engine (P := P) h k now).1.rotating
  have hget := due_get P k now h hc
  have hactive : s.identity.engine.active ≠ none := by
    intro hnone
    obtain ⟨_, v2, _, _, _, hv2, _⟩ := hyes
    rw [due, hnone] at hv2
    cases hnone.symm.trans hv2
  obtain ⟨active, hactive⟩ := Option.ne_none_iff_exists'.mp hactive
  rw [rotate_due hactive]
  rcases promote_cases (s.due P cfg k now) now with
    ⟨hno, _⟩ | ⟨hno, _⟩ | ⟨_, v2, v3, hv2, hv3, he⟩
  · exact (hno hyes).elim
  · exact (hno hyes).elim
  · rw [he]
    obtain ⟨hm2, hs2⟩ := mem_of_byStatus hv2
    obtain ⟨hm3, hs3⟩ := mem_of_byStatus hv3
    obtain ⟨hmem, hv⟩ := get_eq_some.mp hget
    have hafter := hdue.window.get_promote v2 v3 now v
    rw [hdue.params, hget, Option.map_some] at hafter
    have hne3 (hs : c.status ≠ .validating) : v3.version ≠ v := by
      intro heq
      rw [(s.due P cfg k now).identity.engine.creds.row_unique hmem hm3 (hv.trans heq.symm)] at hs
      exact hs hs3
    constructor
    · intro hs
      obtain rfl : c = v2 := hdue.window.unique c hmem v2 hm2 (by rw [hs]; rfl) (hs.trans hs2.symm)
      rw [if_neg (hne3 (by rw [hs]; decide)), if_pos hv] at hafter
      rw [hdue.params]
      exact hafter
    · intro hs
      have hne2 : v2.version ≠ v := by
        intro heq
        rw [(s.due P cfg k now).identity.engine.creds.row_unique hmem hm2 (hv.trans heq.symm), hs2] at hs
        cases hs
      rw [if_neg (hne3 (by rw [hs]; decide)), if_neg hne2, ended, if_pos hs] at hafter
      rw [hdue.params]
      exact hafter

lemma rotate_evolves (h : s.Rotating cfg) (k : PrivateKeys) (now : ℤ) :
    s.identity.engine.Evolves (s.rotate P cfg k now).2.identity.engine := by
  cases hactive : s.identity.engine.active with
  | none =>
    rw [rotate, hactive]
    exact .refl _
  | some active =>
    rw [rotate_due hactive]
    have hdue : s.identity.engine.Evolves (s.due P cfg k now).identity.engine := by
      rcases (due_engine (P := P) h k now).2 with he | ⟨n, hnew, he⟩
      · rw [he]
        exact .refl _
      · rw [he]
        exact .put_new hnew
    refine hdue.trans ?_
    rcases promote_cases (s.due P cfg k now) now with ⟨_, he⟩ | ⟨_, v3, hv3, he⟩ | ⟨_, v2, v3, hv2, hv3, he⟩
    · rw [he]
      exact .refl _
    · rw [he]
      exact .put_of_mem (mem_of_byStatus hv3).1 (.retired rfl)
    · rw [he]
      exact RotationEngine.evolves_promote _ now hv2 hv3

lemma rotate_active (h : s.Rotating cfg) (k : PrivateKeys) (now : ℤ) {c : CredentialPublic}
    (hc : s.identity.engine.active = some c) :
    ∃ c', (s.rotate P cfg k now).2.identity.engine.active = some c' ∧
      (¬ s.Promotes P cfg k now → c'.version = c.version) ∧ (s.Promotes P cfg k now → c.version < c'.version) := by
  obtain ⟨hmem, hs⟩ := mem_of_byStatus hc
  have hwindow := (rotate_keepsOthers (P := P) h k now).rotating.window
  by_cases hyes : s.Promotes P cfg k now
  · have hdue := (due_engine (P := P) h k now).1.rotating
    have hget := due_get P k now h (get_of_mem hmem)
    rw [rotate_due hc]
    rcases promote_cases (s.due P cfg k now) now with ⟨hno, _⟩ | ⟨hno, _⟩ | ⟨_, v2, v3, hv2, hv3, he⟩
    · exact (hno hyes).elim
    · exact (hno hyes).elim
    · obtain ⟨hm3, hs3⟩ := mem_of_byStatus hv3
      have hactive : (s.rotate P cfg k now).2.identity.engine.active = some (promoted v3 now) := by
        refine hwindow.byStatus_of_get (c := promoted v3 now) (v := v3.version) ?_ rfl
        rw [rotate_due hc, he]
        exact (hdue.window.get_promote v2 v3 now v3.version).trans (if_pos rfl)
      rw [rotate_due hc] at hactive
      refine ⟨promoted v3 now, hactive, fun hno => (hno hyes).elim, fun _ => ?_⟩
      have hle := hdue.window.validating_last v3 hm3 hs3 c (get_eq_some.mp hget).1
      refine lt_of_le_of_ne hle fun hv => ?_
      have hsame := (s.due P cfg k now).identity.engine.creds.row_unique (get_eq_some.mp hget).1 hm3 hv
      rw [hsame, hs3] at hs
      cases hs
  · have hget := rotate_unpromoted (P := P) h hyes (get_of_mem hmem) (by rw [hs]; nofun)
    have hactive := hwindow.byStatus_of_get hget (by rw [hs]; rfl)
    rw [hs] at hactive
    exact ⟨c, hactive, fun _ => rfl, fun hyes' => (hyes hyes').elim⟩

end Ticks

end ServerState

end Secupload.Server
