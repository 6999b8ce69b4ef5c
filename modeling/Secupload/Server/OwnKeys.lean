import Secupload.Server.Tunnel2

namespace Secupload.Server

open Library Shared
open Shared.RotationEngine (mem_of_byStatus)

-- a tick of the rotation thread, or what other transactions commit between two ticks
inductive IdentityOp
  | maybeRotate (fresh successor : PrivateKeys) (now : ℤ)
  | commit (db : Database)

def IdentityOp.drawn : IdentityOp → List PrivateKeys
  | .maybeRotate _ successor _ => [successor]
  | .commit _ => []

def IdentityOp.time : IdentityOp → Option ℤ
  | .maybeRotate _ _ now => some now
  | .commit _ => none

namespace ServerState

variable (P : Primitives) (cfg : ServerConfig)

def identityStep (s : ServerState) : IdentityOp → ServerState
  | .maybeRotate fresh successor now => (s.maybeRotate P cfg fresh successor now).2
  | .commit db => { s with db }

def rotated (db : Database) (keyFile : Option KeyMap) (k : PrivateKeys) (now : ℤ)
    (ops : List IdentityOp) : ServerState :=
  run (identityStep P cfg) ((start cfg db keyFile).ensureLoaded P cfg k now).2 ops

structure Sound (drawn : List PrivateKeys) (s : ServerState) : Prop where
  loaded : s.identity.loaded = true
  holder : s.identity.toHolder.Sound P drawn

section Runs

variable {P cfg} {s : ServerState} {drawn : List PrivateKeys}

variable (cfg) in
lemma sound_submitSuccessor (h : Sound P drawn s) {k : PrivateKeys} (hk : k.Fresh P drawn)
    (active : CredentialPublic) (now : ℤ) :
    Sound P (drawn ++ [k]) (s.submitSuccessor P cfg active k now).2 := by
  have hholder := h.holder.generateSuccessor cfg.serverUuid hk active now
  simp only [submitSuccessor]
  split <;> rename_i he <;> rw [he] at hholder <;> exact ⟨h.loaded, hholder⟩

lemma sound_promote (h : Sound P drawn s) (now : ℤ) : Sound P drawn (s.promote now).2 := by
  have hholder := h.holder.checkpoint now
  simp only [promote]
  split
  · exact h
  · split
    · exact h
    · split <;> rename_i he <;> rw [he] at hholder <;> exact ⟨h.loaded, hholder⟩

lemma sound_rotate (h : Sound P drawn s) {k : PrivateKeys} (hk : k.Fresh P drawn) (now : ℤ) :
    Sound P (drawn ++ [k]) (s.rotate P cfg k now).2 := by
  have hsame : Sound P (drawn ++ [k]) s := ⟨h.loaded, h.holder.drawMore k⟩
  simp only [rotate]
  split
  · exact hsame
  · rename_i active hactive
    have hsubmitted := sound_submitSuccessor cfg h hk active now
    split
    · split <;> rename_i he <;> rw [he] at hsubmitted
      · exact hsubmitted
      · exact hsubmitted
      · exact sound_promote hsubmitted now
    · exact sound_promote hsame now

lemma ensureLoaded_loaded (h : s.identity.loaded = true) (k : PrivateKeys) (now : ℤ) :
    s.ensureLoaded P cfg k now = (.ok (), s) := by
  simp only [ensureLoaded, h, if_true]

lemma maybeRotate_loaded (h : s.identity.loaded = true) (fresh successor : PrivateKeys) (now : ℤ) :
    s.maybeRotate P cfg fresh successor now = s.rotate P cfg successor now := by
  rw [maybeRotate, ensureLoaded_loaded h]
  rfl

lemma sound_step (h : Sound P drawn s) (op : IdentityOp) (hop : ∀ k ∈ op.drawn, k.Fresh P drawn) :
    Sound P (drawn ++ op.drawn) (identityStep P cfg s op) := by
  cases op with
  | maybeRotate fresh successor now =>
    rw [identityStep, maybeRotate_loaded h.loaded]
    exact sound_rotate h (hop successor List.mem_cons_self) now
  | commit db =>
    simp only [IdentityOp.drawn, List.append_nil]
    exact ⟨h.loaded, h.holder⟩

lemma sound_run (h : Sound P drawn s) (ops : List IdentityOp)
    (hdrawn : ((drawn ++ ops.flatMap IdentityOp.drawn).map fun j => P.x25519Public j.x25519).Nodup) :
    Sound P (drawn ++ ops.flatMap IdentityOp.drawn) (run (identityStep P cfg) s ops) := by
  induction ops generalizing drawn s with
  | nil => simpa using h
  | cons op ops ih =>
    rw [List.flatMap_cons, ← List.append_assoc] at hdrawn ⊢
    refine ih (sound_step h op ?_) hdrawn
    rw [List.map_append, List.map_append] at hdrawn
    have hop := (List.nodup_append.mp (List.nodup_append.mp hdrawn).1).2.2
    intro k hk j hj
    exact hop _ (List.mem_map_of_mem hj) _ (List.mem_map_of_mem hk)

variable (P cfg) in
lemma sound_provision (db : Database) (keyFile : Option KeyMap) (k : PrivateKeys) (now : ℤ)
    (hdb : db.loadEngine cfg.params cfg.serverUuid = none) :
    Sound P [k] ((start cfg db keyFile).ensureLoaded P cfg k now).2 := by
  have hholder := (Holder.Sound.new (P := P) cfg.params).provision (k := k)
    cfg.serverUuid (by simp [PrivateKeys.Fresh]) now
  rw [Holder.provision_new] at hholder
  rw [ensureLoaded_first P cfg db keyFile k now hdb]
  exact ⟨rfl, hholder⟩

end Runs

end ServerState

def SealedTo (P : Primitives) (c : CredentialPublic) (m : Bytes) (env : Envelope) : Prop :=
  ∃ ephemeral nonce aad r, P.x25519Loads ephemeral = true ∧ env.aad 0 = .ok aad ∧
    sealMessage P ephemeral c.x25519Public nonce aad m = .ok r ∧
    wrapEncrypted ⟨c.version, r.1, nonce, r.2⟩ = .ok env.payload

def SealedChunkTo (P : Primitives) (c : CredentialPublic) (object : Uuid) (index : ℤ) (m : Bytes)
    (env : Envelope) : Prop :=
  ∃ ephemeral aad r, P.x25519Loads ephemeral = true ∧ env.aad index = .ok aad ∧
    sealChunk P ephemeral c.x25519Public object.bytes index aad m = .ok r ∧
    wrapEncryptedChunk ⟨c.version, object, index, r.1, r.2⟩ = .ok env.payload

section Sealed

variable {P : Primitives} {c : CredentialPublic} {k : PrivateKeys} {env : Envelope} {m : Bytes}
  {object : Uuid} {index : ℤ}

lemma decryptTo_own (hbox : SealedBox P) (hm : SealedTo P c m env) (hk : k.Match P c)
    (hloads : P.x25519Loads k.x25519 = true) : decryptTo P env k.x25519 = .ok m := by
  obtain ⟨ephemeral, nonce, aad, r, heph, haad, hseal, hwrap⟩ := hm
  rw [hk.2] at hseal
  simp only [decryptTo, openPayload, unwrap_wrapEncrypted hwrap, haad, except_ok_bind]
  exact hbox.message ephemeral k.x25519 nonce aad m r heph hloads hseal

lemma decryptTo_other (hbox : SealedBox P) (hm : SealedTo P c m env) (hk : k.Match P c)
    {other : PrivateKeys} (hne : P.x25519Public other.x25519 ≠ c.x25519Public) (m' : Bytes) :
    decryptTo P env other.x25519 ≠ .ok m' := by
  obtain ⟨ephemeral, nonce, aad, r, heph, haad, hseal, hwrap⟩ := hm
  rw [hk.2] at hseal hne
  simp only [decryptTo, openPayload, unwrap_wrapEncrypted hwrap, haad, except_ok_bind]
  exact hbox.message_other ephemeral k.x25519 other.x25519 nonce aad m r m' heph hne hseal

lemma decryptChunkTo_own (hbox : SealedBox P) (hm : SealedChunkTo P c object index m env)
    (hk : k.Match P c) (hloads : P.x25519Loads k.x25519 = true) :
    decryptChunkTo P env k.x25519 env.payload = .ok (object, index, m) := by
  obtain ⟨ephemeral, aad, r, heph, haad, hseal, hwrap⟩ := hm
  rw [hk.2] at hseal
  have hopen := hbox.chunk ephemeral k.x25519 object.bytes index aad m r heph hloads hseal
  simp only [decryptChunkTo, unwrap_wrapEncryptedChunk hwrap, haad, except_ok_bind, hopen]
  rfl

lemma decryptChunkTo_other (hbox : SealedBox P) (hm : SealedChunkTo P c object index m env)
    (hk : k.Match P c) {other : PrivateKeys}
    (hne : P.x25519Public other.x25519 ≠ c.x25519Public) (chunk : Uuid × ℤ × Bytes) :
    decryptChunkTo P env other.x25519 env.payload ≠ .ok chunk := by
  obtain ⟨ephemeral, aad, r, heph, haad, hseal, hwrap⟩ := hm
  rw [hk.2] at hseal hne
  have hclosed := hbox.chunk_other ephemeral k.x25519 other.x25519 object.bytes index aad m r
  simp only [decryptChunkTo, unwrap_wrapEncryptedChunk hwrap, haad, except_ok_bind]
  intro hok
  obtain ⟨plaintext, hopen, _⟩ := except_bind_eq_ok.mp hok
  exact hclosed plaintext heph hne hseal hopen

end Sealed

namespace ServerState

section Opening

variable {P : Primitives} {s : ServerState} {drawn : List PrivateKeys} {c : CredentialPublic}

lemma activeKeys_eq_ok {k : PrivateKeys} : s.activeKeys = .ok k ↔
    ∃ a, s.identity.engine.active = some a ∧ s.identity.keys.keysFor a.version = some k := by
  simp only [activeKeys, credential, keys]
  cases s.identity.engine.active with
  | none => simp
  | some a =>
    simp only [except_ok_bind, Option.some.injEq, exists_eq_left']
    cases s.identity.keys.keysFor a.version <;> simp

lemma activeKeys_match (h : Sound P drawn s) (hc : c ∈ s.identity.engine.creds.rows)
    (hactive : c.status = .active) :
    ∃ k ∈ drawn, s.activeKeys = .ok k ∧ k.Match P c := by
  obtain ⟨a, ha⟩ := Option.ne_none_iff_exists'.mp (RotationEngine.active_ne_none.mpr ⟨c, hc, hactive⟩)
  obtain ⟨hmem, hs⟩ := mem_of_byStatus ha
  obtain rfl := h.holder.window.unique a hmem c hc (by rw [hs]; rfl) (hs.trans hactive.symm)
  obtain ⟨k, hk, hkeys, hmatch⟩ := h.holder.owned.keys a hc
  exact ⟨k, hk, activeKeys_eq_ok.mpr ⟨a, ha, hkeys⟩, hmatch⟩

lemma activeKeys_other (h : Sound P drawn s) (hc : c ∈ s.identity.engine.creds.rows)
    (hactive : c.status ≠ .active) {k : PrivateKeys} (hk : s.activeKeys = .ok k) :
    P.x25519Public k.x25519 ≠ c.x25519Public := by
  obtain ⟨a, ha, hkeys⟩ := activeKeys_eq_ok.mp hk
  obtain ⟨hmem, hs⟩ := mem_of_byStatus ha
  obtain ⟨j, _, hj, hmatch⟩ := h.holder.owned.keys a hmem
  obtain rfl := Option.some.inj (hj.symm.trans hkeys)
  rw [← hmatch.2]
  intro hx
  rw [h.holder.owned.distinct a hmem c hc hx] at hs
  exact hactive hs

lemma openControl_eq_ok {env : Envelope} {m : Bytes} :
    s.openControl P env = .ok m ↔ s.openRequest P env = .ok m := by
  simp only [openControl, openRequest, except_bind_eq_ok]
  apply exists_congr
  intro k
  apply and_congr_right
  intro _
  cases decryptTo P env k.x25519 with
  | error exc =>
    constructor <;> intro h <;> cases h
  | ok inner => exact Iff.rfl

lemma openRequest_iff (hbox : SealedBox P) (h : Sound P drawn s)
    (hloads : ∀ k ∈ drawn, P.x25519Loads k.x25519 = true)
    (hc : c ∈ s.identity.engine.creds.rows) {env : Envelope} {m : Bytes}
    (hm : SealedTo P c m env) : s.openRequest P env = .ok m ↔ c.status = .active := by
  constructor
  · intro hok
    by_contra hactive
    obtain ⟨k, hk, hopen⟩ := except_bind_eq_ok.mp hok
    obtain ⟨own, _, _, hmatch⟩ := h.holder.owned.keys c hc
    exact decryptTo_other hbox hm hmatch (activeKeys_other h hc hactive hk) m hopen
  · intro hactive
    obtain ⟨k, hk, hkeys, hmatch⟩ := activeKeys_match h hc hactive
    rw [openRequest, hkeys, except_ok_bind]
    exact decryptTo_own hbox hm hmatch (hloads k hk)

lemma openObjChunk_iff (hbox : SealedBox P) (h : Sound P drawn s)
    (hloads : ∀ k ∈ drawn, P.x25519Loads k.x25519 = true)
    (hc : c ∈ s.identity.engine.creds.rows) {env : Envelope} {object : Uuid} {index : ℤ} {m : Bytes}
    (hm : SealedChunkTo P c object index m env) :
    s.openObjChunk P env = .ok (object, index, m) ↔ c.status = .active := by
  constructor
  · intro hok
    by_contra hactive
    obtain ⟨k, hk, hopen⟩ := except_bind_eq_ok.mp hok
    obtain ⟨own, _, _, hmatch⟩ := h.holder.owned.keys c hc
    exact decryptChunkTo_other hbox hm hmatch (activeKeys_other h hc hactive hk) _ hopen
  · intro hactive
    obtain ⟨k, hk, hkeys, hmatch⟩ := activeKeys_match h hc hactive
    rw [openObjChunk, hkeys, except_ok_bind]
    exact decryptChunkTo_own hbox hm hmatch (hloads k hk)

end Opening

theorem opens_iff_active (P : Primitives) (hbox : SealedBox P) (cfg : ServerConfig) (db : Database)
    (keyFile : Option KeyMap) (k : PrivateKeys) (now : ℤ) (ops : List IdentityOp)
    (hdb : db.loadEngine cfg.params cfg.serverUuid = none)
    (hloads : ∀ j ∈ k :: ops.flatMap IdentityOp.drawn, P.x25519Loads j.x25519 = true)
    (hdrawn : ((k :: ops.flatMap IdentityOp.drawn).map fun j => P.x25519Public j.x25519).Nodup) :
    let s := rotated P cfg db keyFile k now ops
    ∀ c ∈ s.identity.engine.creds.rows,
      (∀ env m, SealedTo P c m env →
        (s.openRequest P env = .ok m ↔ c.status = .active) ∧
        (s.openControl P env = .ok m ↔ c.status = .active)) ∧
      ∀ env object index m, SealedChunkTo P c object index m env →
        (s.openObjChunk P env = .ok (object, index, m) ↔ c.status = .active) := by
  intro s c hc
  have h : Sound P (k :: ops.flatMap IdentityOp.drawn) s :=
    sound_run (sound_provision P cfg db keyFile k now hdb) ops hdrawn
  refine ⟨fun env m hm => ⟨openRequest_iff hbox h hloads hc hm, ?_⟩,
    fun env object index m hm => openObjChunk_iff hbox h hloads hc hm⟩
  rw [openControl_eq_ok]
  exact openRequest_iff hbox h hloads hc hm

section Demo

-- the successor is submitted at 44200 and takes over at 87400
def demoRotation : List IdentityOp :=
  [.maybeRotate (demoKeys 0) (demoKeys 2) 44200, .maybeRotate (demoKeys 0) (demoKeys 3) 87400]

def demoServer : ServerConfig := { serverUuid := Uuid.nil }

def demoRotated : ServerState := rotated transparent demoServer Database.empty none (demoKeys 1) 1000 demoRotation

def demoSealed (c : CredentialPublic) (m : Bytes) : Envelope :=
  let env : Envelope :=
    { msgType := MsgType.request.code, senderUuid := Uuid.nil, recipientUuid := Uuid.nil
      requestId := Uuid.nil, senderCredentialVersion := 1, timestamp := 87400
      nonce := List.replicate 12 0
      payload := [] }
  let payload : Except Exn Bytes := do
    let r ← sealMessage transparent (demoKey 9) c.x25519Public (List.replicate 12 0) (← env.aad 0) m
    wrapEncrypted ⟨c.version, r.1, List.replicate 12 0, r.2⟩
  { env with payload := payload.toOption.getD [] }

def demoCredential (version : ℤ) : CredentialPublic :=
  (demoRotated.identity.engine.get version).getD (credentialOf transparent Uuid.nil 0 (demoKeys 0))

lemma demo_sealed (version : ℤ) (hv : version = 1 ∨ version = 2) :
    SealedTo transparent (demoCredential version) [7] (demoSealed (demoCredential version) [7]) := by
  have haad : (demoSealed (demoCredential version) [7]).aad 0 =
      .ok (((demoSealed (demoCredential 1) [7]).aad 0).toOption.getD []) := by
    rcases hv with rfl | rfl <;> decide +kernel
  refine ⟨demoKey 9, List.replicate 12 0, _, (demoKey 9, (unwrapEncrypted
    (demoSealed (demoCredential version) [7]).payload).toOption.elim [] (·.ciphertext)),
    by decide +kernel, haad, ?_, ?_⟩
  · rcases hv with rfl | rfl <;> decide +kernel
  · rcases hv with rfl | rfl <;> decide +kernel

theorem successor_message_opens :
    demoRotated.openRequest transparent (demoSealed (demoCredential 2) [7]) = .ok [7] := by
  have h := opens_iff_active transparent sealedBox_transparent demoServer Database.empty none
    (demoKeys 1) 1000 demoRotation rfl (by decide) (by decide)
    (demoCredential 2) (by decide +kernel)
  exact ((h.1 _ _ (demo_sealed 2 (Or.inr rfl))).1).mpr (by decide +kernel)

-- a message sealed just before the rotation is lost, although its version is still valid
theorem fallback_message_lost :
    ¬ ∀ (P : Primitives) (cfg : ServerConfig) (db : Database) (keyFile : Option KeyMap)
      (k : PrivateKeys) (now : ℤ) (ops : List IdentityOp) (later : ℤ), SealedBox P →
      db.loadEngine cfg.params cfg.serverUuid = none →
      (∀ j ∈ k :: ops.flatMap IdentityOp.drawn, P.x25519Loads j.x25519 = true) →
      ((k :: ops.flatMap IdentityOp.drawn).map fun j => P.x25519Public j.x25519).Nodup →
      (now :: ops.filterMap IdentityOp.time ++ [later]).Pairwise (· ≤ ·) →
      let s := rotated P cfg db keyFile k now ops
      ∀ c ∈ s.identity.engine.creds.rows, (c.status = .active ∨ c.status = .fallback) →
        RotationEngine.expired c later = false →
        ∀ env m, SealedTo P c m env → s.openRequest P env = .ok m := by
  intro h
  have hopen := h transparent demoServer Database.empty none (demoKeys 1) 1000 demoRotation 87401
    sealedBox_transparent rfl (by decide) (by decide)
    (by decide) (demoCredential 1) (by decide +kernel) (by decide +kernel)
    (by decide +kernel) _ _ (demo_sealed 1 (Or.inl rfl))
  exact absurd hopen (by decide +kernel)

end Demo

end ServerState

end Secupload.Server
