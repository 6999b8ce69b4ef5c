import Secupload.Shared.RotationTiming
import Secupload.Shared.StatusTable
import Secupload.Server.ControlActions

namespace Secupload.Shared.RotationEngine

open Library

variable {P : Primitives} {e : RotationEngine} {op : EngineOp} {b c d : CredentialPublic}

def AuthorizedBy (P : Primitives) (e : RotationEngine) (c : CredentialPublic)
    (signature metadata : Bytes) (now : ℤ) : Prop :=
  ∃ signer payload, e.active = some signer ∧ expired signer now = false ∧
    signer.identityUuid = c.identityUuid ∧
    encodeSuccessorPayload c.identityUuid signer.version c.version c.ed25519Public c.x25519Public
      metadata = .ok payload ∧
    verifyEd25519 P signer.ed25519Public payload signature = .ok ()

def Provisions (e : RotationEngine) (op : EngineOp) (c : CredentialPublic) : Prop :=
  ∃ cred now, op = .provisionInitial cred now ∧ e.Provisionable cred ∧ e.get c.version = none ∧
    cred.identityUuid = c.identityUuid ∧ cred.version = c.version ∧
    cred.ed25519Public = c.ed25519Public ∧ cred.x25519Public = c.x25519Public

def Succeeds (P : Primitives) (e : RotationEngine) (op : EngineOp) (c : CredentialPublic) : Prop :=
  ∃ newCred signature metadata now, op = .transition (.submitSuccessor newCred signature metadata now) ∧
    e.get c.version = none ∧ newCred.version = c.version ∧ AuthorizedBy P e c signature metadata now

lemma Submittable.authorized {n : CredentialPublic} {signature metadata : Bytes} {now : ℤ}
    (h : e.Submittable P n signature metadata now) (hidentity : c.identityUuid = n.identityUuid)
    (hversion : c.version = n.version) (hed25519 : c.ed25519Public = n.ed25519Public)
    (hx25519 : c.x25519Public = n.x25519Public) : AuthorizedBy P e c signature metadata now := by
  obtain ⟨signer, payload, hactive, hunexpired, _, _, hsame, _, hpayload, hverify⟩ := h
  refine ⟨signer, payload, hactive, hunexpired, ?_, ?_, hverify⟩
  · rw [hidentity, hsame]
  · rw [hidentity, hversion, hed25519, hx25519, hsame]
    exact hpayload

lemma Moves.evolves (h : Moves e op c d) : c.Evolves d := by
  cases h with
  | kept => exact .refl c
  | revoked _ => exact .retired rfl
  | dropped _ hdead => exact .retired hdead
  | swept _ => exact .retired rfl
  | terminated _ _ _ => exact .retired rfl
  | demoted _ _ hactive =>
    apply CredentialPublic.Evolves.of_inWindow
    rw [(mem_of_byStatus hactive).2]
    rfl
  | promoted hvalidating _ =>
    apply CredentialPublic.Evolves.of_inWindow
    rw [(mem_of_byStatus hvalidating).2]
    rfl

lemma added_by (hd : d ∈ (step P e op).creds.rows) (hnew : e.get d.version = none) :
    Provisions e op d ∨ Succeeds P e op d ∧ d.status = .validating := by
  have hout : ¬ ∃ b ∈ e.creds.rows, b.version = d.version := by
    rintro ⟨b, hb, hv⟩
    exact get_eq_none.mp hnew b hb hv
  cases op with
  | provisionInitial cred now =>
    change d ∈ (e.provisionInitial cred now).2.creds.rows at hd
    rcases provisionInitial_cases e now cred with ⟨exc, he⟩ | ⟨hp, he⟩
    · rw [he] at hd
      exact (hout ⟨d, hd, rfl⟩).elim
    · rw [he] at hd
      rcases mem_put.mp hd with rfl | ⟨hd, _⟩
      · exact Or.inl ⟨cred, now, rfl, hp, hnew, rfl, rfl, rfl, rfl⟩
      · exact (hout ⟨d, hd, rfl⟩).elim
  | transition t =>
    cases t with
    | submitSuccessor cred signature metadata now =>
      change d ∈ (e.submitSuccessor P cred signature metadata now).2.creds.rows at hd
      rcases submitSuccessor_cases P e now cred signature metadata with ⟨exc, he⟩ | ⟨hs, he⟩
      · rw [he] at hd
        exact (hout ⟨d, hd, rfl⟩).elim
      · rw [he] at hd
        rcases mem_put.mp hd with rfl | ⟨hd, _⟩
        · right
          exact ⟨⟨cred, signature, metadata, now, rfl, hnew, rfl, hs.authorized rfl rfl rfl rfl⟩, rfl⟩
        · exact (hout ⟨d, hd, rfl⟩).elim
    | checkpoint now =>
      obtain ⟨b, hb, hbd⟩ := rows_checkpoint hd
      exact (hout ⟨b, hb, hbd.version.symm⟩).elim
    | rollback now =>
      change d ∈ (e.rollback now).2.creds.rows at hd
      rcases rollback_cases e now with ⟨exc, he⟩ | ⟨v3, hv3, he⟩
      · rw [he] at hd
        exact (hout ⟨d, hd, rfl⟩).elim
      · rw [he] at hd
        obtain ⟨b, hb, hbd⟩ := rows_put_of_mem (mem_of_byStatus hv3).1 (.retired rfl) hd
        exact (hout ⟨b, hb, hbd.version.symm⟩).elim
    | revoke version now =>
      change d ∈ (e.revoke version now).2.creds.rows at hd
      rcases revoke_cases e now version with ⟨exc, he⟩ | ⟨cred, hcred, he⟩
      · rw [he] at hd
        exact (hout ⟨d, hd, rfl⟩).elim
      · rw [he] at hd
        obtain ⟨b, hb, hbd⟩ := rows_put_of_mem (get_eq_some.mp hcred).1 (.retired rfl) hd
        exact (hout ⟨b, hb, hbd.version.symm⟩).elim
    | expireAll now =>
      obtain ⟨b, hb, hbd⟩ := List.mem_map.mp hd
      exact (hout ⟨b, hb, hbd ▸ (sweep_version now b).symm⟩).elim

lemma Provisions.evolves (h : Provisions e op c) (hcd : c.Evolves d) : Provisions e op d := by
  obtain ⟨cred, now, hop, hp, hnew, hidentity, hversion, hed25519, hx25519⟩ := h
  refine ⟨cred, now, hop, hp, ?_, hidentity.trans hcd.identity.symm, hversion.trans hcd.version.symm,
    hed25519.trans hcd.ed25519.symm, hx25519.trans hcd.x25519.symm⟩
  rwa [hcd.version]

lemma Succeeds.evolves (h : Succeeds P e op c) (hcd : c.Evolves d) : Succeeds P e op d := by
  obtain ⟨newCred, signature, metadata, now, hop, hnew, hversion, signer, payload, hsigner, hunexpired,
    hidentity, hpayload, hverify⟩ := h
  refine ⟨newCred, signature, metadata, now, hop, ?_, hversion.trans hcd.version.symm, signer, payload,
    hsigner, hunexpired, hidentity.trans hcd.identity.symm, ?_, hverify⟩
  · rw [hcd.version]
    exact hnew
  · rw [hcd.identity, hcd.version, hcd.ed25519, hcd.x25519]
    exact hpayload

lemma descent_of_mem (P : Primitives) (params : RotationParams) (ops : List EngineOp)
    (hc : c ∈ (run (step P) (new params) ops).creds.rows) :
    Sometime (step P) (fun e op => Provisions e op c) (new params) ops ∨
    Sometime (step P) (fun e op => Succeeds P e op c) (new params) ops ∧
      (c.status = .active ∨ c.status = .fallback →
        Sometime (step P) (fun e _ => e.statusAt c.version = some .validating) (new params) ops) := by
  induction ops using List.reverseRecOn generalizing c with
  | nil => simp [new, Table.empty] at hc
  | append_singleton ops op ih =>
    rw [run_append] at hc
    cases hold : (run (step P) (new params) ops).get c.version with
    | none =>
      rcases added_by hc hold with hprovisions | ⟨hsucceeds, hvalidating⟩
      · exact Or.inl (.last hprovisions)
      · refine Or.inr ⟨.last hsucceeds, ?_⟩
        rintro (hs | hs) <;> rw [hvalidating] at hs <;> cases hs
    | some b =>
      obtain ⟨hb, hversion⟩ := get_eq_some.mp hold
      obtain ⟨d, hd, hmoves⟩ := moves_of_get P op hold
      obtain rfl : d = c := by
        have hget := get_of_mem hc
        rw [run_cons, run_nil, hd] at hget
        exact Option.some.inj hget
      have hevolves := hmoves.evolves
      rcases ih hb with hprovisions | ⟨hsucceeds, hvalidating⟩
      · exact Or.inl ((hprovisions.mono fun e op h => h.evolves hevolves).append [op])
      · refine Or.inr ⟨(hsucceeds.mono fun e op h => h.evolves hevolves).append [op], ?_⟩
        intro husable
        rcases hmoves.of_usable husable with hs | ⟨hs, _⟩
        · have hearlier := hvalidating hs
          rw [hversion] at hearlier
          exact hearlier.append [op]
        · exact .last (statusAt_eq_some.mpr ⟨b, hold, hs⟩)

end Secupload.Shared.RotationEngine

namespace Secupload.Server

open Library Shared
open Shared.RotationEngine (step new AuthorizedBy Provisions Succeeds added_by descent_of_mem)

namespace Database

variable {P : Primitives} {params : RotationParams} {db : Database} {sender J : Uuid} {inner : Bytes}
  {now v : ℤ} {c : CredentialPublic}

variable (P params db sender inner now) in
lemma handleRotateSubmit_db : (db.handleRotateSubmit P params sender inner now).2 = db ∨
    ∃ p : SuccessorPayload, (db.handleRotateSubmit P params sender inner now).2 =
      (db.call P params sender (.submitSuccessor p.newVersion p.newEd25519Public p.newX25519Public
        (signaturePart inner) p.transitionMetadata now)).2 := by
  unfold handleRotateSubmit
  split
  · exact Or.inl rfl
  · rename_i p _
    split_ifs with hidentity
    · exact Or.inl rfl
    · right
      refine ⟨p, ?_⟩
      rw [submitSuccessor]
      cases hcall : db.call P params sender (.submitSuccessor p.newVersion p.newEd25519Public
          p.newX25519Public (signaturePart inner) p.transitionMetadata now) with
      | mk result db' => cases result <;> rfl

lemma handleRotateSubmit_authorized (hnew : db.credential J v = none)
    (hc : (db.handleRotateSubmit P params sender inner now).2.credential J v = some c) :
    J = sender ∧ ∃ e metadata, db.loadEngine params sender = some e ∧
      AuthorizedBy P e c (signaturePart inner) metadata now := by
  have hchanged {db' : Database} (hsame : db' = db) (h : db'.credential J v = some c) : False := by
    rw [hsame, hnew] at h
    cases h
  rcases handleRotateSubmit_db P params db sender inner now with hsame | ⟨p, hcall⟩
  · exact (hchanged hsame hc).elim
  · rw [hcall] at hc
    have hJ : J = sender := by
      by_contra hJ
      rw [(call_touches P params db sender _).others J hJ v, hnew] at hc
      cases hc
    subst hJ
    refine ⟨rfl, ?_⟩
    rcases call_cases P params db J (.submitSuccessor p.newVersion p.newEd25519Public
      p.newX25519Public (signaturePart inner) p.transitionMetadata now) with
      ⟨exc, he⟩ | ⟨e, changed, e', hload, he, _⟩
    · exact (hchanged (congrArg Prod.snd he) hc).elim
    · rw [credential_call hload he] at hc
      obtain ⟨hmem, hversion⟩ := RotationEngine.get_eq_some.mp hc
      rw [← loadEngine_get hload, ← hversion] at hnew
      have hstep : step P e (.transition (.submitSuccessor (newCredential J p.newVersion
          p.newEd25519Public p.newX25519Public) (signaturePart inner) p.transitionMetadata now)) = e' :=
        congrArg Prod.snd he
      rw [← hstep] at hmem
      rcases added_by hmem hnew with ⟨_, _, hop, _⟩ | ⟨⟨_, _, metadata, _, hop, _, _, hauthorized⟩, _⟩
      · cases hop
      · injection hop with hop
        injection hop with _ hsignature hmetadata hnow
        subst hsignature hnow
        exact ⟨e, metadata, hload, hauthorized⟩

end Database

theorem chain_of_trust (P : Primitives) (params : RotationParams) :
    (∀ (ops : List RotationEngine.EngineOp) (c : CredentialPublic),
      c ∈ (run (step P) (new params) ops).creds.rows →
      Sometime (step P) (fun e op => Provisions e op c) (new params) ops ∨
      Sometime (step P) (fun e op => Succeeds P e op c) (new params) ops ∧
        (c.status = .active ∨ c.status = .fallback →
          Sometime (step P) (fun e _ => e.statusAt c.version = some .validating) (new params) ops)) ∧
    ∀ (db : Database) (sender J : Uuid) (inner : Bytes) (now v : ℤ) (c : CredentialPublic),
      db.credential J v = none →
      (db.handleRotateSubmit P params sender inner now).2.credential J v = some c →
      J = sender ∧ ∃ e metadata, db.loadEngine params sender = some e ∧
        AuthorizedBy P e c (Database.signaturePart inner) metadata now := by
  constructor
  · intro ops c hc
    exact descent_of_mem P params ops hc
  · intro db sender J inner now v c hnew hc
    exact Database.handleRotateSubmit_authorized hnew hc

open Database (reached enrolledRun)

-- a ROTATE_SUBMIT plaintext that the enrolled key has signed
def successorInner : Bytes :=
  let payload := (encodeSuccessorPayload Uuid.nil 1 2 (demoKey 3) (demoKey 4) []).toOption.getD []
  payload ++ signEd25519 transparent (demoKey 1) payload

theorem submitted_successor_authorized : ∃ c,
    ((reached transparent {} enrolledRun).handleRotateSubmit transparent {} Uuid.nil successorInner
      1000).2.credential Uuid.nil 2 = some c ∧
    ∃ e metadata, (reached transparent {} enrolledRun).loadEngine {} Uuid.nil = some e ∧
      AuthorizedBy transparent e c (Database.signaturePart successorInner) metadata 1000 := by
  have hadded : (((reached transparent {} enrolledRun).handleRotateSubmit transparent {} Uuid.nil successorInner
      1000).2.credential Uuid.nil 2).isSome = true := by decide +kernel
  obtain ⟨c, hc⟩ := Option.isSome_iff_exists.mp hadded
  obtain ⟨_, hauthorized⟩ := (chain_of_trust transparent {}).2 (reached transparent {} enrolledRun) Uuid.nil
    Uuid.nil successorInner 1000 2 c (by decide +kernel) hc
  exact ⟨c, hc, hauthorized⟩

end Secupload.Server
