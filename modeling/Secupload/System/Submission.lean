import Secupload.Server.RegistryRuns
import Secupload.System.Control
import Secupload.System.Owners

namespace Secupload.System

open Library Shared Client Server
open Shared.RotationEngine (mem_of_byStatus submitted)
open Server (lastVersion)
open Client.ClientSession (demoClient)

lemma submittable_of_generated {P : Primitives} {c : ClientIdentity} {k : PrivateKeys}
    {a b newCred : CredentialPublic} {S : RotationEngine} {now serverNow : ℤ} {payload signature : Bytes}
    (hactive : c.engine.active = some a) (hS : S.WindowInv) (hserver : S.Idle b serverNow)
    (hlast : ∀ d ∈ S.creds.rows, d.version ≤ b.version) (hidentity : b.identityUuid = a.identityUuid)
    (hversion : b.version = a.version) (hed25519 : b.ed25519Public = a.ed25519Public)
    (hgenerated : (c.generateSuccessor P k now).1 = .ok (newCred, signature, payload)) :
    newCred = credentialOf P a.identityUuid (a.version + 1) k ∧
      encodeSuccessorPayload a.identityUuid a.version newCred.version newCred.ed25519Public
        newCred.x25519Public [] = .ok payload ∧
      signature.length = ed25519SignatureSize ∧ S.Submittable P newCred signature [] serverNow := by
  rcases ClientIdentity.generateSuccessor_cases P c k now with
    ⟨exc, he⟩ | ⟨a', signer, payload', hactive', _, hpayload, hsubmit, he⟩
  · rw [he] at hgenerated
    cases hgenerated
  · obtain rfl := Option.some.inj (hactive'.symm.trans hactive)
    rw [he] at hgenerated
    obtain ⟨rfl, hrest⟩ := Prod.mk.inj (Except.ok.inj hgenerated)
    obtain ⟨rfl, rfl⟩ := Prod.mk.inj hrest
    obtain ⟨own, written, hown, _, _, _, _, _, hwritten, hverify⟩ := hsubmit
    obtain rfl := Option.some.inj (hown.symm.trans hactive')
    have hsame : payload' = written := Except.ok.inj (hpayload.symm.trans hwritten)
    rw [← hsame] at hverify
    refine ⟨rfl, hpayload, (verifyEd25519_eq_ok.mp hverify).1, ?_⟩
    have hnext : (credentialOf P own.identityUuid (own.version + 1) k).version = b.version + 1 := by
      rw [hversion]
      rfl
    rw [← hed25519] at hverify
    refine submittable_of_verified hS hserver.active hserver.idle hlast hserver.live hnext hidentity.symm ?_
      hverify
    rw [hidentity, hversion]
    exact hpayload

theorem honest_submission_accepted (P : Primitives) (hP : Lawful P)
    (hlength : ∀ k, k.length = 32 → (P.ed25519Public k).length = 32) (c : ClientIdentity)
    (a : CredentialPublic) (k : PrivateKeys) (now : ℤ) (hk : Server.Generated P k) (hclient : c.engine.Idle a now)
    (hnewest : ∀ d ∈ c.engine.creds.rows, d.version ≤ a.version)
    (params : RotationParams) (calls : List Database.RegistryOp) (S : RotationEngine) (b : CredentialPublic)
    (serverNow : ℤ) (hload : (Database.reached P params calls).loadEngine params a.identityUuid = some S)
    (hserver : S.Idle b serverNow) (hlast : ∀ d ∈ S.creds.rows, d.version ≤ b.version)
    (hversion : b.version = a.version) (hed25519 : b.ed25519Public = a.ed25519Public) :
    (∀ cfg turns, (∀ j ∈ turns.flatMap Client.OwnerOp.drawn, Server.Generated P j) →
      c = ClientIdentity.owned P cfg turns →
      ((∃ r, (c.generateSuccessor P k now).1 = .ok r) ↔ a.version < lastVersion)) ∧
    ∀ newCred signature payload, (c.generateSuccessor P k now).1 = .ok (newCred, signature, payload) →
      newCred.version = a.version + 1 ∧
      newCred.ed25519Public = (generateEd25519Keypair P k.ed25519).2 ∧
      newCred.x25519Public = (generateX25519Keypair P k.x25519).2 ∧
      ∃ db' row, (Database.reached P params calls).handleRotateSubmit P params a.identityUuid
          (payload ++ signature) serverNow = (.ok okResponse, db') ∧
        db'.credential a.identityUuid newCred.version = some row ∧ row.status = .validating ∧
        row.version = newCred.version ∧ row.ed25519Public = newCred.ed25519Public ∧
        row.x25519Public = newCred.x25519Public := by
  constructor
  · rintro cfg turns hdrawn rfl
    have hprovides := (ClientIdentity.held_run P cfg turns hdrawn).provides_iff hP hlength hclient hk
    constructor
    · rintro ⟨r, hr⟩
      rcases ClientIdentity.generateSuccessor_cases P (ClientIdentity.owned P cfg turns) k now with
        ⟨exc, he⟩ | ⟨a', _, _, hactive, _, hpayload, _, _⟩
      · rw [he] at hr
        cases hr
      · obtain rfl := Option.some.inj (hactive.symm.trans hclient.active)
        exact ServerState.payload_version hpayload
    · intro hroom
      exact (hprovides.mpr ⟨hnewest, hroom⟩).1
  · intro newCred signature payload hgenerated
    have hidentity : b.identityUuid = a.identityUuid :=
      Database.loadEngine_belongs hload b (mem_of_byStatus hserver.active).1
    obtain ⟨rfl, hpayload, hsignature, hsubmit⟩ := submittable_of_generated hclient.active
      (Database.windowed_reached P params calls _ S hload) hserver hlast hidentity hversion hed25519 hgenerated
    obtain ⟨db', he, hload'⟩ := submission_stored hload hsignature hpayload hsubmit
    let row := submitted params (newCredential a.identityUuid (a.version + 1) (P.ed25519Public k.ed25519)
      (P.x25519Public k.x25519)) serverNow
    have hstored : db'.credential a.identityUuid (a.version + 1) = some row := by
      rw [← Database.loadEngine_get hload', RotationEngine.get_put]
      exact if_pos rfl
    exact ⟨rfl, rfl, rfl, db', row, he, hstored, rfl, rfl, rfl, rfl⟩

section Demo

def loadedClient : ClientIdentity :=
  ClientIdentity.owned tagged demoClient [.ensureLoaded (demoKeys 1) 1000]

def ownIdentity : Uuid := loadedClient.identityUuid tagged demoClient

def enrolledRow : CredentialPublic :=
  RotationEngine.provisioned {} (credentialOf tagged ownIdentity 1 (demoKeys 1)) 1000

def enrollment : List Database.RegistryOp :=
  [.issueToken "t" .enroll .client 900 none (some 1000) 0,
    .enroll ownIdentity .client "t" 1 enrolledRow.ed25519Public enrolledRow.x25519Public (some 1000) 0]

theorem first_successor_accepted : ∃ newCred signature payload db' row,
    (loadedClient.generateSuccessor tagged (demoKeys 2) 44200).1 = .ok (newCred, signature, payload) ∧
      (Database.reached tagged {} enrollment).handleRotateSubmit tagged {} ownIdentity
        (payload ++ signature) 44201 = (.ok okResponse, db') ∧
      db'.credential ownIdentity 2 = some row ∧ row.status = .validating := by
  have hclient : loadedClient.engine.active = some enrolledRow ∧
      RotationEngine.expired enrolledRow 44200 = false ∧ loadedClient.engine.validating = none ∧
      ∀ d ∈ loadedClient.engine.creds.rows, d.version ≤ enrolledRow.version := by decide +kernel
  have hserver : ∃ h : ((Database.reached tagged {} enrollment).loadEngine {} ownIdentity).isSome = true,
      (Option.get _ h).active = some enrolledRow ∧ RotationEngine.expired enrolledRow 44201 = false ∧
        (Option.get _ h).validating = none ∧
        ∀ d ∈ (Option.get _ h).creds.rows, d.version ≤ enrolledRow.version := by decide +kernel
  obtain ⟨hactive, hlive, hidle, hnewest⟩ := hclient
  obtain ⟨hload, hactive', hlive', hidle', hlast⟩ := hserver
  obtain ⟨hgenerates, haccepted⟩ := honest_submission_accepted tagged lawful_tagged (fun _ h => h)
    loadedClient enrolledRow (demoKeys 2) 44200 (by decide) ⟨hactive, hlive, hidle⟩ hnewest {} enrollment
    (Option.get _ hload) enrolledRow 44201 (Option.some_get hload).symm ⟨hactive', hlive', hidle'⟩ hlast rfl
    rfl
  obtain ⟨⟨newCred, signature, payload⟩, hr⟩ := (hgenerates demoClient
    [.ensureLoaded (demoKeys 1) 1000] (by decide) rfl).mpr (by decide)
  obtain ⟨hversion, _, _, db', row, hresponse, hrow, hstatus, _⟩ := haccepted newCred signature payload hr
  rw [hversion] at hrow
  exact ⟨newCred, signature, payload, db', row, hr, hresponse, hrow, hstatus⟩

end Demo

end Secupload.System
