import Secupload.Shared.CredentialLifecycle
import Secupload.Shared.Envelope

/-! The owner of an identity: its engine, and the private keys of its credentials. -/

namespace Secupload.Shared

open Library
open RotationEngine (WindowInv windowInv_transition windowInv_new)

def tokenUuid (P : Primitives) (label token : String) : Uuid :=
  uuidAt (P.sha256 (utf8 label ++ utf8 token)) 0

structure PrivateKeys where
  ed25519 : Bytes
  x25519 : Bytes
  deriving DecidableEq

def demoKeys (n : UInt8) : PrivateKeys := ⟨demoKey n, demoKey (n + 100)⟩

abbrev KeyMap := Table (fun entry : ℤ × PrivateKeys => entry.1)

namespace KeyMap

def keysFor (keys : KeyMap) (version : ℤ) : Option PrivateKeys := (keys.get? version).map (·.2)

def add (keys : KeyMap) (version : ℤ) (k : PrivateKeys) : KeyMap := keys.set (version, k)

lemma keysFor_add (keys : KeyMap) (version v : ℤ) (k : PrivateKeys) :
    (keys.add version k).keysFor v = if version = v then some k else keys.keysFor v := by
  rw [keysFor, add]
  rw [Table.get?_set]
  split <;> rfl

@[simp] lemma keysFor_empty (v : ℤ) : keysFor Table.empty v = none := rfl

end KeyMap

def credentialOf (P : Primitives) (identityUuid : Uuid) (version : ℤ) (k : PrivateKeys) :
    CredentialPublic where
  identityUuid
  version
  ed25519Public := (generateEd25519Keypair P k.ed25519).2
  x25519Public := (generateX25519Keypair P k.x25519).2
  status := .generated

def PrivateKeys.Match (P : Primitives) (k : PrivateKeys) (c : CredentialPublic) : Prop :=
  c.ed25519Public = P.ed25519Public k.ed25519 ∧ c.x25519Public = P.x25519Public k.x25519

lemma encodeSuccessorPayload_writes (identityUuid : Uuid) {oldVersion newVersion : ℤ}
    {ed25519Public x25519Public : Bytes} (hold : 0 ≤ oldVersion ∧ oldVersion < 2 ^ 32)
    (hnew : 0 ≤ newVersion ∧ newVersion < 2 ^ 32) (hed25519 : ed25519Public.length = 32)
    (hx25519 : x25519Public.length = 32) :
    Encoder.Writes (encodeSuccessorPayload identityUuid oldVersion newVersion ed25519Public x25519Public [])
      115 := by
  have hlength : successorTag.length = 10 := rfl
  have htag := Encoder.Writes.new.bytes (show successorTag.length < 2 ^ 32 by omega)
  have hversions := ((htag.uuid (some identityUuid)).u32 hold.1 hold.2).u32 hnew.1 hnew.2
  have hkeys := (hversions.bytes (show ed25519Public.length < 2 ^ 32 by omega)).bytes
    (show x25519Public.length < 2 ^ 32 by omega)
  exact (hkeys.bytes (show ([] : Bytes).length < 2 ^ 32 by decide)).of_eq
    (by rw [hlength, hed25519, hx25519, List.length_nil])

lemma submittable_of_verified {P : Primitives} {e : RotationEngine} {a n : CredentialPublic}
    {metadata payload signature : Bytes} {now : ℤ} (h : WindowInv e) (hactive : e.active = some a)
    (hidle : e.validating = none) (hnewest : ∀ d ∈ e.creds.rows, d.version ≤ a.version)
    (hlive : RotationEngine.expired a now = false) (hversion : n.version = a.version + 1)
    (hidentity : n.identityUuid = a.identityUuid)
    (hpayload : encodeSuccessorPayload a.identityUuid a.version n.version n.ed25519Public n.x25519Public
      metadata = .ok payload) (hverify : verifyEd25519 P a.ed25519Public payload signature = .ok ()) :
    e.Submittable P n signature metadata now := by
  obtain ⟨hmem, _⟩ := RotationEngine.mem_of_byStatus hactive
  have hmax : e.maxVersion?.getD 0 = a.version := by
    rw [RotationEngine.maxVersion?_eq_some.mpr ⟨⟨a, hmem, rfl⟩, hnewest⟩, Option.getD_some]
  have hroom : e.versionsInWindow < 3 := by
    have hnone : RotationEngine.countStatus e .validating = 0 := by
      apply List.countP_eq_zero.mpr
      intro d hd
      simpa using RotationEngine.byStatus_eq_none.mp hidle d hd
    have hone : RotationEngine.countStatus e .active ≤ 1 := h.countStatus_le_one rfl
    have hfallback : RotationEngine.countStatus e .fallback ≤ 1 := h.countStatus_le_one rfl
    rw [RotationEngine.versionsInWindow_eq]
    omega
  refine ⟨a, payload, hactive, hlive, hidle, ?_, hidentity, hroom, hpayload, hverify⟩
  rw [hmax, hversion]

lemma submittable_of_newest {P : Primitives} {e : RotationEngine} {a n : CredentialPublic}
    {k : PrivateKeys} {metadata payload : Bytes} {now : ℤ} (hP : Lawful P) (h : WindowInv e)
    (hactive : e.active = some a) (hidle : e.validating = none)
    (hnewest : ∀ d ∈ e.creds.rows, d.version ≤ a.version)
    (hlive : RotationEngine.expired a now = false) (hk : k.ed25519.length = 32) (hmatch : k.Match P a)
    (hversion : n.version = a.version + 1) (hidentity : n.identityUuid = a.identityUuid)
    (hpayload : encodeSuccessorPayload a.identityUuid a.version n.version n.ed25519Public n.x25519Public
      metadata = .ok payload) :
    e.Submittable P n (signEd25519 P k.ed25519 payload) metadata now := by
  refine submittable_of_verified h hactive hidle hnewest hlive hversion hidentity hpayload ?_
  rw [hmatch.1]
  exact hP.verify hk payload

-- what the identities of the server, a client and a proxy have in common
structure Holder where
  engine : RotationEngine
  keys : KeyMap
  deriving DecidableEq

namespace Holder

variable (P : Primitives) (identityUuid : Uuid) (h : Holder)

def new (params : RotationParams) : Holder := ⟨RotationEngine.new params, Table.empty⟩

def withEngine (e : RotationEngine) : Holder := { h with engine := e }

-- `k` is the drawn pair of private keys
def provision (k : PrivateKeys) (now : ℤ) : Outcome Holder Unit :=
  match h.engine.provisionInitial (credentialOf P identityUuid 1 k) now with
  | (.error exc, e) => (.error exc, h.withEngine e)
  | (.ok (), e) => (.ok (), ⟨e, h.keys.add 1 k⟩)

def generateSuccessor (active : CredentialPublic) (k : PrivateKeys) (now : ℤ) :
    Outcome Holder (CredentialPublic × Bytes × Bytes) :=
  match h.keys.keysFor active.version with
  | none => (.error .keyError, h)
  | some signer =>
    let newCred := credentialOf P identityUuid (active.version + 1) k
    match encodeSuccessorPayload identityUuid active.version newCred.version newCred.ed25519Public
        newCred.x25519Public [] with
    | .error exc => (.error exc, h)
    | .ok payload =>
      let signature := signEd25519 P signer.ed25519 payload
      match h.engine.submitSuccessor P newCred signature [] now with
      | (.error exc, e) => (.error exc, h.withEngine e)
      | (.ok (), e) => (.ok (newCred, signature, payload), ⟨e, h.keys.add newCred.version k⟩)

def checkpoint (now : ℤ) : Outcome Holder (List CredentialPublic) :=
  let (result, e) := h.engine.checkpoint now
  (result, h.withEngine e)

def rollback (now : ℤ) : Outcome Holder CredentialPublic :=
  let (result, e) := h.engine.rollback now
  (result, h.withEngine e)

end Holder

lemma Holder.provision_new (P : Primitives) (params : RotationParams) (identityUuid : Uuid)
    (k : PrivateKeys) (now : ℤ) : (Holder.new params).provision P identityUuid k now =
      (.ok (), ⟨(RotationEngine.new params).put
        (RotationEngine.provisioned params (credentialOf P identityUuid 1 k) now),
        KeyMap.add Table.empty 1 k⟩) := by
  have hprovisionable : (RotationEngine.new params).Provisionable (credentialOf P identityUuid 1 k) := by
    refine ⟨rfl, rfl, fun m hm => ?_, rfl⟩
    cases hm
  have hok := RotationEngine.provisionInitial_ok now hprovisionable
  rw [Holder.provision, show (Holder.new params).engine.provisionInitial _ now = _ from hok]
  rfl

lemma Holder.generateSuccessor_cases (P : Primitives) (identityUuid : Uuid) (h : Holder)
    (active : CredentialPublic) (k : PrivateKeys) (now : ℤ) :
    (∃ exc, h.generateSuccessor P identityUuid active k now = (.error exc, h)) ∨
    ∃ signer payload, h.keys.keysFor active.version = some signer ∧
      encodeSuccessorPayload identityUuid active.version (active.version + 1)
        (P.ed25519Public k.ed25519) (P.x25519Public k.x25519) [] = .ok payload ∧
      h.engine.Submittable P (credentialOf P identityUuid (active.version + 1) k)
        (signEd25519 P signer.ed25519 payload) [] now ∧
      h.generateSuccessor P identityUuid active k now =
        (.ok (credentialOf P identityUuid (active.version + 1) k,
            signEd25519 P signer.ed25519 payload, payload),
          ⟨h.engine.put (RotationEngine.submitted h.engine.params
              (credentialOf P identityUuid (active.version + 1) k) now),
            h.keys.add (active.version + 1) k⟩) := by
  simp only [Holder.generateSuccessor]
  split
  · exact Or.inl ⟨_, rfl⟩
  · rename_i signer hsigner
    split
    · exact Or.inl ⟨_, rfl⟩
    · rename_i payload hpayload
      rcases RotationEngine.submitSuccessor_cases P h.engine now
        (credentialOf P identityUuid (active.version + 1) k)
        (signEd25519 P signer.ed25519 payload) [] with ⟨exc, he⟩ | ⟨hs, he⟩
      · rw [he]
        exact Or.inl ⟨exc, rfl⟩
      · rw [he]
        exact Or.inr ⟨signer, payload, hsigner, hpayload, hs, rfl⟩

lemma Holder.generateSuccessor_ok {P : Primitives} {identityUuid : Uuid} {h : Holder}
    {active : CredentialPublic} {k signer : PrivateKeys} {now : ℤ} {payload : Bytes}
    (hsigner : h.keys.keysFor active.version = some signer)
    (hpayload : encodeSuccessorPayload identityUuid active.version (active.version + 1)
      (P.ed25519Public k.ed25519) (P.x25519Public k.x25519) [] = .ok payload)
    (hs : h.engine.Submittable P (credentialOf P identityUuid (active.version + 1) k)
      (signEd25519 P signer.ed25519 payload) [] now) :
    h.generateSuccessor P identityUuid active k now =
      (.ok (credentialOf P identityUuid (active.version + 1) k,
          signEd25519 P signer.ed25519 payload, payload),
        ⟨h.engine.put (RotationEngine.submitted h.engine.params
            (credentialOf P identityUuid (active.version + 1) k) now),
          h.keys.add (active.version + 1) k⟩) := by
  have hencode : encodeSuccessorPayload identityUuid active.version
      (credentialOf P identityUuid (active.version + 1) k).version
      (credentialOf P identityUuid (active.version + 1) k).ed25519Public
      (credentialOf P identityUuid (active.version + 1) k).x25519Public [] = .ok payload := by
    rw [← hpayload]
    rfl
  simp only [Holder.generateSuccessor, hsigner, hencode, hs.submit]
  rfl

structure Owned (P : Primitives) (drawn : List PrivateKeys) (e : RotationEngine) (keys : KeyMap) :
    Prop where
  keys : ∀ c ∈ e.creds.rows, ∃ k ∈ drawn, keys.keysFor c.version = some k ∧ k.Match P c
  distinct : ∀ c ∈ e.creds.rows, ∀ d ∈ e.creds.rows,
    c.x25519Public = d.x25519Public → c = d

section Owned

variable {P : Primitives} {drawn : List PrivateKeys} {e e' : RotationEngine} {keys : KeyMap}
  {k : PrivateKeys} {n : CredentialPublic}

lemma PrivateKeys.Match.evolves {c d : CredentialPublic} (h : k.Match P c) (hcd : c.Evolves d) :
    k.Match P d :=
  ⟨hcd.ed25519.trans h.1, hcd.x25519.trans h.2⟩

lemma Owned.evolves (h : Owned P drawn e keys)
    (hrows : ∀ d ∈ e'.creds.rows, ∃ c ∈ e.creds.rows, c.Evolves d) : Owned P drawn e' keys where
  keys := by
    intro d hd
    obtain ⟨c, hc, hcd⟩ := hrows d hd
    obtain ⟨k, hk, hkeys, hmatch⟩ := h.keys c hc
    exact ⟨k, hk, by rw [hcd.version, hkeys], hmatch.evolves hcd⟩
  distinct := by
    intro d hd d' hd' hx
    obtain ⟨c, hc, hcd⟩ := hrows d hd
    obtain ⟨c', hc', hcd'⟩ := hrows d' hd'
    have he : c = c' := h.distinct c hc c' hc' (by rw [← hcd.x25519, ← hcd'.x25519, hx])
    apply e'.creds.row_unique hd hd'
    rw [hcd.version, hcd'.version, he]

lemma Owned.put_new (h : Owned P drawn e keys) (hnew : ∀ c ∈ e.creds.rows, c.version < n.version)
    (hmatch : k.Match P n)
    (hfresh : ∀ j ∈ drawn, P.x25519Public j.x25519 ≠ P.x25519Public k.x25519) :
    Owned P (drawn ++ [k]) (e.put n) (keys.add n.version k) where
  keys := by
    intro d hd
    rcases RotationEngine.mem_put.mp hd with rfl | ⟨hd', hv⟩
    · exact ⟨k, by simp, by rw [KeyMap.keysFor_add, if_pos rfl], hmatch⟩
    · obtain ⟨j, hj, hkeys, hjmatch⟩ := h.keys d hd'
      refine ⟨j, List.mem_append_left _ hj, ?_, hjmatch⟩
      rw [KeyMap.keysFor_add, if_neg (fun he => hv he.symm), hkeys]
  distinct := by
    have hne : ∀ d ∈ e.creds.rows, d.x25519Public ≠ n.x25519Public := by
      intro d hd hx
      obtain ⟨j, hj, _, hjmatch⟩ := h.keys d hd
      exact hfresh j hj (by rw [← hjmatch.2, ← hmatch.2, hx])
    intro d hd d' hd' hx
    rcases RotationEngine.mem_put.mp hd with he | ⟨hold, _⟩ <;>
      rcases RotationEngine.mem_put.mp hd' with he' | ⟨hold', _⟩
    · rw [he, he']
    · exact (hne d' hold' (by rw [← hx, he])).elim
    · exact (hne d hold (by rw [hx, he'])).elim
    · exact h.distinct d hold d' hold' hx

lemma Owned.drawMore (h : Owned P drawn e keys) (k : PrivateKeys) : Owned P (drawn ++ [k]) e keys where
  keys := by
    intro c hc
    obtain ⟨j, hj, hkeys, hmatch⟩ := h.keys c hc
    exact ⟨j, List.mem_append_left _ hj, hkeys, hmatch⟩
  distinct := h.distinct

end Owned

structure Holder.Sound (P : Primitives) (drawn : List PrivateKeys) (h : Holder) : Prop where
  window : WindowInv h.engine
  owned : Owned P drawn h.engine h.keys

def PrivateKeys.Fresh (P : Primitives) (drawn : List PrivateKeys) (k : PrivateKeys) : Prop :=
  ∀ j ∈ drawn, P.x25519Public j.x25519 ≠ P.x25519Public k.x25519

namespace Holder.Sound

variable {P : Primitives} {drawn : List PrivateKeys} {h : Holder} {k : PrivateKeys}

lemma drawMore (hs : h.Sound P drawn) (k : PrivateKeys) : h.Sound P (drawn ++ [k]) :=
  ⟨hs.window, hs.owned.drawMore k⟩

lemma new (params : RotationParams) : (Holder.new params).Sound P [] where
  window := windowInv_new params
  owned := by constructor <;> simp [Holder.new, RotationEngine.new]

lemma provision (hs : h.Sound P drawn) (identityUuid : Uuid) (hk : k.Fresh P drawn) (now : ℤ) :
    (h.provision P identityUuid k now).2.Sound P (drawn ++ [k]) := by
  simp only [Holder.provision]
  rcases RotationEngine.provisionInitial_cases h.engine now (credentialOf P identityUuid 1 k) with
    ⟨exc, he⟩ | ⟨hp, he⟩
  · rw [he]
    exact hs.drawMore k
  · rw [he]
    have hnew := RotationEngine.lt_of_maxVersion hp.order
    exact ⟨hs.window.install hp.validating (fun _ => hp.active) (Or.inl rfl) hnew,
      hs.owned.put_new hnew ⟨rfl, rfl⟩ hk⟩

lemma generateSuccessor (hs : h.Sound P drawn) (identityUuid : Uuid) (hk : k.Fresh P drawn)
    (active : CredentialPublic) (now : ℤ) :
    (h.generateSuccessor P identityUuid active k now).2.Sound P (drawn ++ [k]) := by
  rcases Holder.generateSuccessor_cases P identityUuid h active k now with
    ⟨exc, he⟩ | ⟨signer, payload, _, _, hsubmit, he⟩
  · rw [he]
    exact hs.drawMore k
  · rw [he]
    exact ⟨hsubmit.window hs.window, hs.owned.put_new hsubmit.newest ⟨rfl, rfl⟩ hk⟩

lemma checkpoint (hs : h.Sound P drawn) (now : ℤ) : (h.checkpoint now).2.Sound P drawn where
  window := windowInv_transition P hs.window (.checkpoint now)
  owned := hs.owned.evolves fun _ hd => RotationEngine.rows_checkpoint hd

end Holder.Sound

end Secupload.Shared
