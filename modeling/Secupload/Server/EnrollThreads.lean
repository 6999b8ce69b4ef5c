import Mathlib.Data.Fintype.Defs
import Secupload.Server.Recovery

/-! Calls of `enroll` by concurrent server threads: each query and each commit is a step of its own,
and any other transaction of the registry may come between two of them. -/

namespace Secupload.Server

open Library Shared

structure EnrollRequest where
  identityUuid : Uuid
  kind : IdentityKind
  token : String
  version : ℤ
  ed25519Public : Bytes
  x25519Public : Bytes
  now : ℤ

-- where a call is, and the rows that its session has read
inductive EnrollStage
  | called
  | tokenRead (row : EnrollmentToken)
  | identityRead (row : EnrollmentToken) (identityRow : Option IdentityRow)
  | checked (row : EnrollmentToken) (identityRow : Option IdentityRow)
      (revoked : List CredentialPublic)
  | redeemed (row : EnrollmentToken)
  | provisioned (e : RotationEngine)
  | saved
  | finished (result : Except Exn (Option CredentialPublic))

-- `revokeUsable` with the rows still in the session
def revocation (now : ℤ) : RotationEngine × List CredentialPublic → CredentialPublic →
    Except Exn (RotationEngine × List CredentialPublic)
  | (e, revoked), cred =>
    if cred.status = .active ∨ cred.status = .fallback then do
      let (result, e') := e.revoke cred.version now
      let _ ← result
      match e'.get cred.version with
      | none => throw (.registryError "INTERNAL" "revoked credential missing")
      | some cred' => return (e', revoked ++ [cred'])
    else return (e, revoked)

namespace EnrollStage

variable (P : Primitives) (params : RotationParams) (req : EnrollRequest) (db : Database)

def refuse (code message : String) : EnrollStage × Database :=
  (.finished (.error (.registryError code message)), db)

def advance : EnrollStage → EnrollStage × Database
  | .called =>
    match db.tokens.get? (Database.hashToken P req.token) with
    | none => refuse db "BAD_TOKEN" "unknown enrollment token"
    | some row =>
      if row.usedAt.isSome then refuse db "TOKEN_USED" "token already used"
      else if row.expiresAt < req.now then refuse db "TOKEN_EXPIRED" "token has expired"
      else if row.purpose = .recover ∧ row.identityUuid ≠ some req.identityUuid then
        refuse db "TOKEN_MISMATCH" "recovery token not bound to this identity"
      else (.tokenRead row, db)
  | .tokenRead row =>
    let identityRow := db.identityRow req.identityUuid req.kind
    if row.purpose = .recover ∧ identityRow = none then
      refuse db "UNKNOWN_IDENTITY" "cannot recover: identity unknown"
    else if row.purpose = .enroll ∧ identityRow ≠ none then
      refuse db "ALREADY_ENROLLED" "identity already enrolled"
    else (.identityRead row identityRow, db)
  | .identityRead row identityRow =>
    match db.loadEngine params req.identityUuid with
    | none =>
      if row.purpose = .recover then refuse db "UNKNOWN_IDENTITY" "no credentials to recover"
      else (.checked row identityRow [], db)
    | some e =>
      if row.purpose = .recover then
        match e.all.foldlM (revocation req.now) (e, []) with
        | .error exc => (.finished (.error exc), db)
        | .ok (_, revoked) => (.checked row identityRow revoked, db)
      else refuse db "ALREADY_ENROLLED" "identity already enrolled"
  | .checked row identityRow revoked =>
    -- the identity is the primary key of the row to insert
    if identityRow = none ∧ db.identityRow req.identityUuid req.kind ≠ none then
      (.finished (.error .integrityError), db)
    else
      (.redeemed row, (revoked.foldl Database.savePublic db).commitToken req.identityUuid req.kind
        identityRow row req.now)
  | .redeemed row =>
    if row.purpose = .enroll ∧ req.version ≠ 1 then
      refuse db "VERSION_ORDER" "initial enrollment must use credential version 1"
    else
      let e := (db.loadEngine params req.identityUuid).getD (RotationEngine.new params)
      let newCred := newCredential req.identityUuid req.version req.ed25519Public req.x25519Public
      match e.provisionInitial newCred req.now with
      | (.error exc, _) => (.finished (.error (asRegistryError exc)), db)
      | (.ok _, e') => (.provisioned e', db)
  | .provisioned e => (.saved, db.saveAll e)
  | .saved => (.finished (.ok (db.getCredential req.identityUuid req.version)), db)
  | .finished result => (.finished result, db)

def alone (r : EnrollStage × Database) : EnrollStage × Database := r.1.advance P params req r.2

variable {P params req}

lemma alone_finished (n : ℕ) (result : Except Exn (Option CredentialPublic)) :
    (alone P params req)^[n] (.finished result, db) = (.finished result, db) :=
  Function.iterate_fixed rfl n

variable (P params) in
lemma revokeUsable_foldl (now : ℤ) (e : RotationEngine) (revoked : List CredentialPublic)
    (c : CredentialPublic) :
    Database.revokeUsable now (e, revoked.foldl Database.savePublic db) c =
      (revocation now (e, revoked) c).map fun r => (r.1, r.2.foldl Database.savePublic db) := by
  rw [Database.revokeUsable, revocation]
  split
  · rcases e.revoke c.version now with ⟨_ | _, e'⟩
    · rfl
    · dsimp only
      cases hget : e'.get c.version with
      | none => rfl
      | some c' => simp [Except.map, pure, Except.pure, bind, Except.bind]
  · rfl

lemma foldlM_revokeUsable (now : ℤ) (rows : List CredentialPublic) (e : RotationEngine)
    (revoked : List CredentialPublic) :
    rows.foldlM (Database.revokeUsable now) (e, revoked.foldl Database.savePublic db) =
      (rows.foldlM (revocation now) (e, revoked)).map
        fun r => (r.1, r.2.foldl Database.savePublic db) := by
  induction rows generalizing e revoked with
  | nil => rfl
  | cons c rows ih =>
    rw [List.foldlM_cons, List.foldlM_cons, revokeUsable_foldl]
    rcases revocation now (e, revoked) c with _ | ⟨e', revoked'⟩
    · rfl
    · exact ih e' revoked'

-- the second transaction of `enroll`
def provision (params : RotationParams) (req : EnrollRequest) (row : EnrollmentToken)
    (committed : Database) : Outcome Database (Option CredentialPublic) :=
  if row.purpose = .enroll ∧ req.version ≠ 1 then
    (.error (.registryError "VERSION_ORDER" "initial enrollment must use credential version 1"),
      committed)
  else
    (committed.apply params req.identityUuid (fun e => e.provisionInitial (newCredential
      req.identityUuid req.version req.ed25519Public req.x25519Public) req.now) true).map
      fun _ final => final.getCredential req.identityUuid req.version

lemma alone_redeemed (row : EnrollmentToken) :
    (alone P params req)^[3] (.redeemed row, db) =
      (.finished (provision params req row db).1, (provision params req row db).2) := by
  rw [Function.iterate_succ_apply, alone, advance, provision]
  dsimp only
  split_ifs with hversion
  · exact alone_finished _ _ _
  · have happly : ∀ fn : RotationEngine → Outcome RotationEngine Unit,
        db.apply params req.identityUuid fn true =
          db.transact ((db.loadEngine params req.identityUuid).getD (RotationEngine.new params)) fn := by
      intro fn
      rw [Database.apply]
      cases db.loadEngine params req.identityUuid <;> rfl
    rw [happly, Database.transact]
    rcases ((db.loadEngine params req.identityUuid).getD
      (RotationEngine.new params)).provisionInitial _ _ with ⟨exc | _, e'⟩
    · exact alone_finished _ _ _
    · rfl

lemma alone_enroll {now : Option ℤ} {time : ℤ} (hnow : req.now = intOr now time) :
    (alone P params req)^[7] (.called, db) =
      (.finished (db.enroll P params req.identityUuid req.kind req.token req.version
          req.ed25519Public req.x25519Public now time).1,
        (db.enroll P params req.identityUuid req.kind req.token req.version
          req.ed25519Public req.x25519Public now time).2) := by
  rw [Database.enroll, Database.redeemToken, ← hnow]
  cases hrow : db.tokens.get? (Database.hashToken P req.token) with
  | none =>
    rw [Function.iterate_succ_apply, alone, advance, hrow]
    exact alone_finished _ _ _
  | some row =>
    rw [Function.iterate_succ_apply, alone, advance, hrow]
    dsimp only
    split_ifs with hused hexpired hbound hunknown henrolled
    · exact alone_finished _ _ _
    · exact alone_finished _ _ _
    · exact alone_finished _ _ _
    · rw [Function.iterate_succ_apply, alone, advance]
      dsimp only
      rw [if_pos hunknown]
      exact alone_finished _ _ _
    · rw [Function.iterate_succ_apply, alone, advance]
      dsimp only
      rw [if_neg hunknown, if_pos henrolled]
      exact alone_finished _ _ _
    · rw [Function.iterate_succ_apply, alone, advance]
      dsimp only
      rw [if_neg hunknown, if_neg henrolled, Function.iterate_succ_apply, alone, advance,
        Database.recoverCredentials]
      cases hload : db.loadEngine params req.identityUuid with
      | none =>
        dsimp only
        by_cases hrecover : row.purpose = .recover
        · rw [if_pos hrecover, if_pos hrecover]
          exact alone_finished _ _ _
        · rw [if_neg hrecover, if_neg hrecover]
          rw [Function.iterate_succ_apply, alone, advance]
          dsimp only
          rw [if_neg fun h => h.2 h.1]
          exact alone_redeemed _ _
      | some e =>
        dsimp only
        by_cases hrecover : row.purpose = .recover
        · rw [if_pos hrecover, if_pos hrecover]
          have hfold := foldlM_revokeUsable db req.now e.all e []
          rw [List.foldl_nil] at hfold
          rw [hfold]
          cases e.all.foldlM (revocation req.now) (e, []) with
          | error exc => exact alone_finished _ _ _
          | ok r =>
            rw [Function.iterate_succ_apply, alone, advance]
            dsimp only
            rw [if_neg fun h => h.2 h.1]
            exact alone_redeemed _ _
        · rw [if_neg hrecover, if_neg hrecover]
          exact alone_finished _ _ _

def pending : EnrollStage → Option EnrollmentToken
  | .tokenRead row | .identityRead row _ | .checked row _ _ => some row
  | _ => none

inductive Spent : EnrollStage → Prop
  | redeemed (row : EnrollmentToken) : Spent (.redeemed row)
  | provisioned (e : RotationEngine) : Spent (.provisioned e)
  | saved : Spent .saved
  | finished (c : Option CredentialPublic) : Spent (.finished (.ok c))

inductive Enrolling (row : EnrollmentToken) : Option IdentityRow → EnrollStage → Prop
  | identityRead (identityRow : Option IdentityRow) :
      Enrolling row identityRow (.identityRead row identityRow)
  | checked (identityRow : Option IdentityRow) (revoked : List CredentialPublic) :
      Enrolling row identityRow (.checked row identityRow revoked)

end EnrollStage

inductive EnrollStep (P : Primitives) (req : EnrollRequest) (db : Database) :
    EnrollStage → EnrollStage → Database → Prop
  | refuse (stage : EnrollStage) (exc : Exn) : EnrollStep P req db stage (.finished (.error exc)) db
  | readToken (row : EnrollmentToken)
      (hrow : db.tokens.get? (Database.hashToken P req.token) = some row) (hunused : row.usedAt = none) :
      EnrollStep P req db .called (.tokenRead row) db
  | readIdentity (row : EnrollmentToken)
      (hnew : row.purpose = .enroll → db.identityRow req.identityUuid req.kind = none) :
      EnrollStep P req db (.tokenRead row)
        (.identityRead row (db.identityRow req.identityUuid req.kind)) db
  | readCredentials (row : EnrollmentToken) (identityRow : Option IdentityRow)
      (revoked : List CredentialPublic) :
      EnrollStep P req db (.identityRead row identityRow) (.checked row identityRow revoked) db
  | redeem (row : EnrollmentToken) (identityRow : Option IdentityRow)
      (revoked : List CredentialPublic)
      (hnew : identityRow = none → db.identityRow req.identityUuid req.kind = none) :
      EnrollStep P req db (.checked row identityRow revoked) (.redeemed row)
        ((revoked.foldl Database.savePublic db).commitToken req.identityUuid req.kind identityRow row
          req.now)
  | provision (row : EnrollmentToken) (e : RotationEngine) :
      EnrollStep P req db (.redeemed row) (.provisioned e) db
  | save (e : RotationEngine) : EnrollStep P req db (.provisioned e) .saved (db.saveAll e)
  | answer (c : Option CredentialPublic) : EnrollStep P req db .saved (.finished (.ok c)) db
  | returned (result : Except Exn (Option CredentialPublic)) :
      EnrollStep P req db (.finished result) (.finished result) db

lemma EnrollStage.step_cases (P : Primitives) (params : RotationParams) (req : EnrollRequest)
    (db : Database) (stage : EnrollStage) :
    EnrollStep P req db stage (stage.advance P params req db).1 (stage.advance P params req db).2 := by
  cases stage with
  | called =>
    rw [advance]
    split
    · exact .refuse _ _
    · rename_i row hrow
      split_ifs with hused
      · exact .refuse _ _
      · exact .refuse _ _
      · exact .refuse _ _
      · exact .readToken row hrow (by simpa using hused)
  | tokenRead row =>
    rw [advance]
    split_ifs with hunknown henrolled
    · exact .refuse _ _
    · exact .refuse _ _
    · exact .readIdentity row fun hp => by_contra fun hne => henrolled ⟨hp, hne⟩
  | identityRead row identityRow =>
    rw [advance]
    split
    · split_ifs
      · exact .refuse _ _
      · exact .readCredentials row identityRow []
    · split_ifs
      · split
        · exact .refuse _ _
        · exact .readCredentials row identityRow _
      · exact .refuse _ _
  | checked row identityRow revoked =>
    rw [advance]
    split_ifs with hraced
    · exact .refuse _ _
    · exact .redeem row identityRow revoked fun hnone => by_contra fun hne => hraced ⟨hnone, hne⟩
  | redeemed row =>
    rw [advance]
    split_ifs
    · exact .refuse _ _
    · dsimp only
      split
      · exact .refuse _ _
      · exact .provision row _
  | provisioned e => exact .save e
  | saved => exact .answer _
  | finished result => exact .returned result

namespace Database

structure Durable (db db' : Database) : Prop where
  identity : ∀ J kind, db.identityRow J kind ≠ none → db'.identityRow J kind ≠ none
  used : ∀ tokenHash row, db.tokens.get? tokenHash = some row → row.usedAt ≠ none →
    ∃ row', db'.tokens.get? tokenHash = some row' ∧ row'.usedAt ≠ none

section Durable

variable {P : Primitives} {params : RotationParams} {db db' db'' : Database}

lemma Durable.refl (db : Database) : Durable db db :=
  ⟨fun _ _ h => h, fun _ row hrow hused => ⟨row, hrow, hused⟩⟩

lemma Durable.trans (h : Durable db db') (h' : Durable db' db'') : Durable db db'' where
  identity J kind hrow := h'.identity J kind (h.identity J kind hrow)
  used tokenHash row hrow hused := by
    obtain ⟨row', hrow', hused'⟩ := h.used tokenHash row hrow hused
    exact h'.used tokenHash row' hrow' hused'

lemma durable_of_eq (hclients : db'.clients = db.clients) (hproxies : db'.proxies = db.proxies)
    (htokens : db'.tokens = db.tokens) : Durable db db' where
  identity J kind h := by rwa [identityRow, hclients, hproxies]
  used tokenHash row hrow hused := ⟨row, by rwa [htokens], hused⟩

lemma durable_saveAll (e : RotationEngine) : Durable db (db.saveAll e) :=
  durable_of_eq saveAll_clients saveAll_proxies saveAll_tokens

lemma durable_foldl (rows : List CredentialPublic) : Durable db (rows.foldl savePublic db) := by
  rw [foldl_savePublic]
  exact durable_of_eq rfl rfl rfl

lemma durable_commitToken (I : Uuid) (kind : IdentityKind) (identityRow : Option IdentityRow)
    (row : EnrollmentToken) (now : ℤ) : Durable db (db.commitToken I kind identityRow row now) := by
  have hadd : ∀ J k, db.identityRow J k ≠ none → (db.addIdentity I kind).identityRow J k ≠ none := by
    intro J k h
    have hkept : (db.clients.get? J ≠ none → (db.addIdentity I kind).clients.get? J ≠ none) ∧
        (db.proxies.get? J ≠ none → (db.addIdentity I kind).proxies.get? J ≠ none) :=
      addIdentity_kept db J
    rw [Database.identityRow] at h ⊢
    split
    · exact hkept.1 (by rwa [if_pos ‹_›] at h)
    · exact hkept.2 (by rwa [if_neg ‹_›] at h)
  have hidentity : ∀ J k, db.identityRow J k ≠ none →
      (db.commitToken I kind identityRow row now).identityRow J k ≠ none := by
    intro J k h
    rw [commitToken]
    split
    · exact hadd J k h
    · exact h
  have htokens : (db.commitToken I kind identityRow row now).tokens =
      db.tokens.set { row with usedAt := some now } := by
    rw [commitToken]
    split
    · rw [(addIdentity_rest I kind db).2]
    · rfl
  refine ⟨hidentity, fun tokenHash row' hrow hused => ?_⟩
  rw [htokens, Table.get?_set]
  split
  · exact ⟨_, rfl, Option.some_ne_none _⟩
  · exact ⟨row', hrow, hused⟩

lemma durable_call (I : Uuid) (c : Call) : Durable db (db.call P params I c).2 :=
  have ht := call_touches P params db I c
  durable_of_eq ht.clients ht.proxies ht.tokens

lemma durable_issueToken (token : String) (purpose : Purpose) (kind : IdentityKind) (ttl : ℤ)
    (identityUuid : Option Uuid) (now : Option ℤ) (time : ℤ) :
    Durable db (db.issueToken P token purpose kind ttl identityUuid now time).2 := by
  rw [issueToken]
  dsimp only
  split_ifs with hknown
  · exact .refl db
  · refine ⟨fun _ _ h => h, fun tokenHash row hrow hused => ⟨row, ?_, hused⟩⟩
    dsimp only
    rw [Table.get?_set_ne, hrow]
    rintro rfl
    simp [hrow] at hknown

end Durable

end Database

lemma EnrollStep.durable {P : Primitives} {req : EnrollRequest} {db db' : Database}
    {stage stage' : EnrollStage} (h : EnrollStep P req db stage stage' db') : db.Durable db' := by
  cases h with
  | refuse => exact .refl db
  | readToken => exact .refl db
  | readIdentity => exact .refl db
  | readCredentials => exact .refl db
  | redeem => exact (Database.durable_foldl _).trans (Database.durable_commitToken ..)
  | provision => exact .refl db
  | save => exact Database.durable_saveAll _
  | answer => exact .refl db
  | returned => exact .refl db

-- `redemptions` are the first commits, in their order
structure EnrollThreads (ι : Type) where
  db : Database
  stage : ι → EnrollStage
  redemptions : List (ι × EnrollmentToken)

inductive EnrollThreads.Event (ι : Type)
  | next (i : ι)
  | issueToken (token : String) (purpose : Purpose) (kind : IdentityKind) (ttl : ℤ)
      (identityUuid : Option Uuid) (now : Option ℤ) (time : ℤ)
  | call (I : Uuid) (c : Call)

namespace EnrollThreads

variable {ι : Type} [DecidableEq ι] (P : Primitives) (params : RotationParams)
  (requests : ι → EnrollRequest)

def start (db : Database) : EnrollThreads ι := ⟨db, fun _ => .called, []⟩

def redemption (i : ι) (stage stage' : EnrollStage) : List (ι × EnrollmentToken) :=
  match stage', stage with
  | .redeemed row, .checked .. => [(i, row)]
  | _, _ => []

def step (w : EnrollThreads ι) : Event ι → EnrollThreads ι
  | .next i =>
    let result := (w.stage i).advance P params (requests i) w.db
    ⟨result.2, Function.update w.stage i result.1, w.redemptions ++ redemption i (w.stage i) result.1⟩
  | .issueToken token purpose kind ttl identityUuid now time =>
    { w with db := (w.db.issueToken P token purpose kind ttl identityUuid now time).2 }
  | .call I c => { w with db := (w.db.call P params I c).2 }

def reached (db : Database) (events : List (Event ι)) : EnrollThreads ι :=
  run (step P params requests) (start db) events

end EnrollThreads

namespace Database

variable {db : Database} {I : Uuid} {kind : IdentityKind} {identityRow : Option IdentityRow}
  {row : EnrollmentToken} {now : ℤ}

lemma commitToken_identity (hrow : identityRow ≠ none → db.identityRow I kind ≠ none) :
    (db.commitToken I kind identityRow row now).identityRow I kind ≠ none := by
  rw [commitToken]
  split
  · exact addIdentity_row db
  · exact hrow ‹_›

lemma commitToken_used : ∃ row', (db.commitToken I kind identityRow row now).tokens.get? row.tokenHash =
    some row' ∧ row'.usedAt ≠ none := by
  refine ⟨{ row with usedAt := some now }, ?_, Option.some_ne_none _⟩
  rw [commitToken]
  exact Table.get?_set_self _ _

end Database

namespace EnrollThreads

variable {ι : Type} [DecidableEq ι] {P : Primitives} {params : RotationParams}
  {requests : ι → EnrollRequest} {db₀ db' : Database} {w : EnrollThreads ι} {i : ι}
  {stage stage' : EnrollStage}

def registeredIn (db : Database) (req : EnrollRequest) : Prop :=
  db.identityRow req.identityUuid req.kind ≠ none

def NotAgain (requests : ι → EnrollRequest) (r s : ι × EnrollmentToken) : Prop :=
  s.2.purpose = .enroll → (requests s.1).identityUuid = (requests r.1).identityUuid →
    (requests s.1).kind ≠ (requests r.1).kind

structure Sound (req : EnrollRequest) (db : Database) (redemptions : List (ι × EnrollmentToken))
    (i : ι) (stage : EnrollStage) : Prop where
  early : stage = .called ∨ stage.pending ≠ none → ∀ r ∈ redemptions, r.1 ≠ i
  spent : stage.Spent → ∃ row, (i, row) ∈ redemptions
  enrolling : ∀ row identityRow, EnrollStage.Enrolling row identityRow stage →
    (row.purpose = .enroll → identityRow = none) ∧ (identityRow ≠ none → registeredIn db req)

structure Consistent (requests : ι → EnrollRequest) (db₀ : Database) (w : EnrollThreads ι) : Prop where
  durable : db₀.Durable w.db
  registered : ∀ r ∈ w.redemptions, registeredIn w.db (requests r.1)
  used : ∀ r ∈ w.redemptions, ∃ row, w.db.tokens.get? r.2.tokenHash = some row ∧ row.usedAt ≠ none
  stages : ∀ i, Sound (requests i) w.db w.redemptions i (w.stage i)
  nodup : (w.redemptions.map (·.1)).Nodup
  first : w.redemptions.Pairwise (NotAgain requests)
  new : ∀ r ∈ w.redemptions, r.2.purpose = .enroll → ¬ registeredIn db₀ (requests r.1)

omit [DecidableEq ι] in
lemma consistent_start (db : Database) : (start db : EnrollThreads ι).Consistent requests db where
  durable := .refl db
  registered := by simp [start]
  used := by simp [start]
  stages i := ⟨by simp [start], by rintro ⟨⟩, by rintro _ _ ⟨⟩⟩
  nodup := List.nodup_nil
  first := List.Pairwise.nil
  new := by simp [start]

omit [DecidableEq ι] in
lemma Sound.mono {req : EnrollRequest} {db : Database} {redemptions : List (ι × EnrollmentToken)}
    (h : Sound req db redemptions i stage) (hd : db.Durable db') :
    Sound req db' redemptions i stage where
  early := h.early
  spent := h.spent
  enrolling row identityRow hs := by
    obtain ⟨hnone, hknown⟩ := h.enrolling row identityRow hs
    exact ⟨hnone, fun hne => hd.identity _ _ (hknown hne)⟩

omit [DecidableEq ι] in
lemma Consistent.withDb (h : w.Consistent requests db₀) (hd : w.db.Durable db') :
    Consistent requests db₀ { w with db := db' } where
  durable := h.durable.trans hd
  registered r hr := hd.identity _ _ (h.registered r hr)
  used r hr := by
    obtain ⟨row, hrow, hused⟩ := h.used r hr
    exact hd.used _ row hrow hused
  stages j := (h.stages j).mono hd
  nodup := h.nodup
  first := h.first
  new := h.new

lemma Consistent.move (h : w.Consistent requests db₀)
    (hsound : Sound (requests i) w.db w.redemptions i stage') :
    Consistent requests db₀ { w with stage := Function.update w.stage i stage' } where
  durable := h.durable
  registered := h.registered
  used := h.used
  stages := (Function.forall_update_iff _ fun j s => Sound (requests j) w.db w.redemptions j s).mpr
    ⟨hsound, fun j _ => h.stages j⟩
  nodup := h.nodup
  first := h.first
  new := h.new

lemma Consistent.redeem (h : w.Consistent requests db₀) {row : EnrollmentToken}
    {identityRow : Option IdentityRow} {revoked : List CredentialPublic}
    (hi : w.stage i = .checked row identityRow revoked)
    (hnew : identityRow = none → ¬ registeredIn w.db (requests i))
    (hd : w.db.Durable db') (hregistered : registeredIn db' (requests i))
    (hused : ∃ row', db'.tokens.get? row.tokenHash = some row' ∧ row'.usedAt ≠ none) :
    Consistent requests db₀ ⟨db', Function.update w.stage i (.redeemed row),
      w.redemptions ++ [(i, row)]⟩ := by
  have hsound := h.stages i
  rw [hi] at hsound
  have hfresh := hsound.early (Or.inr (Option.some_ne_none _))
  obtain ⟨hnone, _⟩ := hsound.enrolling row identityRow (.checked identityRow revoked)
  refine ⟨h.durable.trans hd, ?_, ?_, ?_, ?_, ?_, ?_⟩
  · intro r hr
    rcases List.mem_append.mp hr with hr | hr
    · exact hd.identity _ _ (h.registered r hr)
    · rwa [List.mem_singleton.mp hr]
  · intro r hr
    rcases List.mem_append.mp hr with hr | hr
    · obtain ⟨row', hrow, hu⟩ := h.used r hr
      exact hd.used _ row' hrow hu
    · rwa [List.mem_singleton.mp hr]
  · refine (Function.forall_update_iff _ fun j s => Sound (requests j) db'
      (w.redemptions ++ [(i, row)]) j s).mpr ⟨?_, fun j hj => ?_⟩
    · refine ⟨by simp [EnrollStage.pending], fun _ => ⟨row, by simp⟩, ?_⟩
      rintro _ _ ⟨⟩
    · obtain ⟨hearly, hspent, henrolling⟩ := (h.stages j).mono hd
      refine ⟨fun hs r hr => ?_, fun hs => ?_, henrolling⟩
      · rcases List.mem_append.mp hr with hr | hr
        · exact hearly hs r hr
        · rw [List.mem_singleton.mp hr]
          exact fun he => hj he.symm
      · obtain ⟨row', hrow⟩ := hspent hs
        exact ⟨row', List.mem_append_left _ hrow⟩
  · rw [List.map_append, List.map_singleton, List.nodup_append_comm, List.singleton_append,
      List.nodup_cons]
    refine ⟨fun hmem => ?_, h.nodup⟩
    obtain ⟨r, hr, he⟩ := List.mem_map.mp hmem
    exact hfresh r hr he
  · rw [List.pairwise_append]
    refine ⟨h.first, List.pairwise_singleton _ _, fun r hr s hs hp hI hkind => ?_⟩
    rw [List.mem_singleton.mp hs] at hp hI hkind
    have hrow := h.registered r hr
    rw [registeredIn, ← hI, ← hkind] at hrow
    exact hnew (hnone hp) hrow
  · intro r hr hp
    rcases List.mem_append.mp hr with hr | hr
    · exact h.new r hr hp
    · rw [List.mem_singleton.mp hr] at hp ⊢
      exact fun hreg => hnew (hnone hp) (h.durable.identity _ _ hreg)

lemma Consistent.next (h : w.Consistent requests db₀) (hi : w.stage i = stage)
    (hstep : EnrollStep P (requests i) w.db stage stage' db') :
    Consistent requests db₀ ⟨db', Function.update w.stage i stage',
      w.redemptions ++ redemption i stage stage'⟩ := by
  have hsound := h.stages i
  rw [hi] at hsound
  have hother : redemption i stage stage' = [] → w.db.Durable db' →
      Sound (requests i) w.db w.redemptions i stage' →
      Consistent requests db₀ ⟨db', Function.update w.stage i stage',
        w.redemptions ++ redemption i stage stage'⟩ := by
    intro hnil hd hs
    rw [hnil, List.append_nil]
    exact (h.move hs).withDb hd
  have hdurable := hstep.durable
  cases hstep with
  | refuse stage exc =>
    exact hother rfl hdurable ⟨by simp [EnrollStage.pending], by rintro ⟨⟩, by rintro _ _ ⟨⟩⟩
  | readToken row hrow hunused =>
    exact hother rfl hdurable ⟨fun _ => hsound.early (Or.inl rfl), by rintro ⟨⟩, by rintro _ _ ⟨⟩⟩
  | readIdentity row hnew =>
    refine hother rfl hdurable ⟨fun _ => hsound.early (Or.inr (Option.some_ne_none _)), by rintro ⟨⟩, ?_⟩
    rintro _ _ ⟨⟩
    exact ⟨hnew, id⟩
  | readCredentials row identityRow revoked =>
    refine hother rfl hdurable ⟨fun _ => hsound.early (Or.inr (Option.some_ne_none _)), by rintro ⟨⟩, ?_⟩
    rintro _ _ ⟨⟩
    exact hsound.enrolling row identityRow (.identityRead identityRow)
  | redeem row identityRow revoked hnew =>
    obtain ⟨_, hknown⟩ := hsound.enrolling row identityRow (.checked identityRow revoked)
    refine h.redeem hi (fun hnone hreg => hreg (hnew hnone)) hdurable ?_ Database.commitToken_used
    exact Database.commitToken_identity fun hne => (Database.durable_foldl _).identity _ _ (hknown hne)
  | provision row e =>
    exact hother rfl hdurable ⟨by simp [EnrollStage.pending], fun _ => hsound.spent (.redeemed row),
      by rintro _ _ ⟨⟩⟩
  | save e =>
    exact hother rfl hdurable ⟨by simp [EnrollStage.pending], fun _ => hsound.spent (.provisioned e),
      by rintro _ _ ⟨⟩⟩
  | answer c =>
    exact hother rfl hdurable ⟨by simp [EnrollStage.pending], fun _ => hsound.spent .saved,
      by rintro _ _ ⟨⟩⟩
  | returned result => exact hother rfl hdurable hsound

lemma Consistent.step (h : w.Consistent requests db₀) (ev : Event ι) :
    (w.step P params requests ev).Consistent requests db₀ := by
  cases ev with
  | next i => exact h.next rfl (EnrollStage.step_cases P params (requests i) w.db (w.stage i))
  | issueToken token purpose kind ttl identityUuid now time =>
    exact h.withDb (Database.durable_issueToken ..)
  | call I c => exact h.withDb (Database.durable_call I c)

theorem enrolled_once (P : Primitives) (params : RotationParams) (requests : ι → EnrollRequest)
    (db : Database) (events : List (Event ι)) :
    ((reached P params requests db events).redemptions.map (·.1)).Nodup ∧
    (∀ i c, (reached P params requests db events).stage i = .finished (.ok c) →
      ∃ row, (i, row) ∈ (reached P params requests db events).redemptions) ∧
    (∀ r ∈ (reached P params requests db events).redemptions, r.2.purpose = .enroll →
      db.identityRow (requests r.1).identityUuid (requests r.1).kind = none) ∧
    (reached P params requests db events).redemptions.Pairwise fun r s =>
      s.2.purpose = .enroll → (requests s.1).identityUuid = (requests r.1).identityUuid →
        (requests s.1).kind ≠ (requests r.1).kind := by
  have h : (reached P params requests db events).Consistent requests db :=
    run_invariant (fun _ ev hw => hw.step ev) (consistent_start db) events
  refine ⟨h.nodup, fun i c hi => ?_, fun r hr hp => not_not.mp (h.new r hr hp), h.first⟩
  have hspent := (h.stages i).spent
  rw [hi] at hspent
  exact hspent (.finished c)

section Token

variable {tokenHash : Bytes}

def Undisturbed (P : Primitives) (requests : ι → EnrollRequest) (tokenHash : Bytes)
    (w : EnrollThreads ι) : Event ι → Prop
  | .next i =>
    match w.stage i with
    | .called => Database.hashToken P (requests i).token = tokenHash →
        ∀ j, ∀ row ∈ (w.stage j).pending, row.tokenHash ≠ tokenHash
    | _ => True
  | _ => True

instance [Fintype ι] (P : Primitives) (requests : ι → EnrollRequest) (tokenHash : Bytes)
    (w : EnrollThreads ι) : DecidablePred (Undisturbed P requests tokenHash w)
  | .next i =>
    match h : w.stage i with
    | .called => decidable_of_iff (Database.hashToken P (requests i).token = tokenHash →
        ∀ j, ∀ row ∈ (w.stage j).pending, row.tokenHash ≠ tokenHash) (by simp only [Undisturbed, h])
    | .tokenRead .. | .identityRead .. | .checked .. | .redeemed _ | .provisioned _ | .saved
    | .finished _ => isTrue (by simp only [Undisturbed, h])
  | .issueToken .. | .call .. => inferInstanceAs (Decidable True)

structure Once (tokenHash : Bytes) (w : EnrollThreads ι) : Prop where
  count : (w.redemptions.filter fun r => decide (r.2.tokenHash = tokenHash)).length ≤ 1
  unspent : ∀ i row, (w.stage i).pending = some row → row.tokenHash = tokenHash →
    ∀ r ∈ w.redemptions, r.2.tokenHash ≠ tokenHash
  single : ∀ i j row row', (w.stage i).pending = some row → (w.stage j).pending = some row' →
    row.tokenHash = tokenHash → row'.tokenHash = tokenHash → i = j

omit [DecidableEq ι] in
lemma once_start (db : Database) : (start db : EnrollThreads ι).Once tokenHash :=
  ⟨Nat.zero_le _, by simp [start], by simp [start, EnrollStage.pending]⟩

lemma Once.move (h : w.Once tokenHash)
    (hpending : ∀ row, stage'.pending = some row → (w.stage i).pending = some row) :
    Once tokenHash ⟨db', Function.update w.stage i stage', w.redemptions⟩ := by
  have hold : ∀ j row, (Function.update w.stage i stage' j).pending = some row →
      (w.stage j).pending = some row :=
    (Function.forall_update_iff _ fun j (s : EnrollStage) => ∀ row, s.pending = some row →
      (w.stage j).pending = some row).mpr ⟨hpending, fun _ _ _ => id⟩
  exact ⟨h.count, fun j row hj => h.unspent j row (hold j row hj),
    fun j k row row' hj hk => h.single j k row row' (hold j row hj) (hold k row' hk)⟩

lemma Once.read (h : w.Once tokenHash) (hconsistent : w.Consistent requests db₀)
    (hi : w.stage i = .called) {row : EnrollmentToken}
    (hrow : w.db.tokens.get? (Database.hashToken P (requests i).token) = some row)
    (hunused : row.usedAt = none) (hquiet : Undisturbed P requests tokenHash w (.next i)) :
    Once tokenHash ⟨w.db, Function.update w.stage i (.tokenRead row), w.redemptions⟩ := by
  have hkey : row.tokenHash = Database.hashToken P (requests i).token := (Table.get?_eq_some.mp hrow).2
  have hnone : row.tokenHash = tokenHash → ∀ j row', (w.stage j).pending = some row' →
      row'.tokenHash ≠ tokenHash := by
    rw [Undisturbed, hi] at hquiet
    exact fun hhash => hquiet (hkey.symm.trans hhash)
  have hunspent : row.tokenHash = tokenHash → ∀ r ∈ w.redemptions, r.2.tokenHash ≠ tokenHash := by
    intro hhash r hr he
    obtain ⟨used, hused, hmarked⟩ := hconsistent.used r hr
    rw [he, ← hhash, hkey, hrow] at hused
    obtain rfl := Option.some.inj hused
    exact hmarked hunused
  have hpending : ∀ j row', (Function.update w.stage i (.tokenRead row) j).pending = some row' →
      row'.tokenHash = tokenHash → j = i ∧ row' = row ∨ (w.stage j).pending = some row' ∧
        row.tokenHash ≠ tokenHash := by
    refine (Function.forall_update_iff _ fun j (s : EnrollStage) => ∀ row', s.pending = some row' →
      row'.tokenHash = tokenHash → j = i ∧ row' = row ∨ (w.stage j).pending = some row' ∧
        row.tokenHash ≠ tokenHash).mpr ⟨fun row' hj _ => ?_, fun j _ row' hj hhash => ?_⟩
    · exact Or.inl ⟨rfl, (Option.some.inj hj).symm⟩
    · exact Or.inr ⟨hj, fun he => hnone he j row' hj hhash⟩
  refine ⟨h.count, fun j row' hj hhash => ?_, fun j k row' row'' hj hk hhash hhash' => ?_⟩
  · rcases hpending j row' hj hhash with ⟨rfl, rfl⟩ | ⟨hj, _⟩
    · exact hunspent hhash
    · exact h.unspent j row' hj hhash
  · rcases hpending j row' hj hhash with ⟨rfl, rfl⟩ | ⟨hj, hne⟩
    · rcases hpending k row'' hk hhash' with ⟨rfl, _⟩ | ⟨_, hne⟩
      · rfl
      · exact (hne hhash).elim
    · rcases hpending k row'' hk hhash' with ⟨rfl, rfl⟩ | ⟨hk, _⟩
      · exact (hne hhash').elim
      · exact h.single j k row' row'' hj hk hhash hhash'

lemma Once.redeem (h : w.Once tokenHash) {row : EnrollmentToken}
    (hi : (w.stage i).pending = some row) :
    Once tokenHash ⟨db', Function.update w.stage i (.redeemed row),
      w.redemptions ++ [(i, row)]⟩ := by
  have hpending : ∀ j row', (Function.update w.stage i (.redeemed row) j).pending = some row' →
      j ≠ i ∧ (w.stage j).pending = some row' := by
    refine (Function.forall_update_iff _ fun j (s : EnrollStage) => ∀ row', s.pending = some row' →
      j ≠ i ∧ (w.stage j).pending = some row').mpr ⟨?_, fun j hj row' hrow => ⟨hj, hrow⟩⟩
    rintro row' ⟨⟩
  refine ⟨?_, fun j row' hj hhash r hr => ?_, fun j k row' row'' hj hk =>
    h.single j k row' row'' (hpending j row' hj).2 (hpending k row'' hk).2⟩
  · rw [List.filter_append, List.length_append, List.filter_singleton]
    by_cases hhash : row.tokenHash = tokenHash
    · have hnil : w.redemptions.filter (fun r => decide (r.2.tokenHash = tokenHash)) = [] :=
        List.filter_eq_nil_iff.mpr fun r hr => by simpa using h.unspent i row hi hhash r hr
      simp [hnil, hhash]
    · simpa [hhash] using h.count
  · obtain ⟨hji, hj⟩ := hpending j row' hj
    rcases List.mem_append.mp hr with hr | hr
    · exact h.unspent j row' hj hhash r hr
    · rw [List.mem_singleton.mp hr]
      exact fun he => hji (h.single j i row' row hj hi hhash he)

lemma Once.next (h : w.Once tokenHash) (hconsistent : w.Consistent requests db₀)
    (hi : w.stage i = stage) (hstep : EnrollStep P (requests i) w.db stage stage' db')
    (hquiet : Undisturbed P requests tokenHash w (.next i)) :
    Once tokenHash ⟨db', Function.update w.stage i stage',
      w.redemptions ++ redemption i stage stage'⟩ := by
  have hother : redemption i stage stage' = [] →
      (∀ row, stage'.pending = some row → (w.stage i).pending = some row) →
      Once tokenHash ⟨db', Function.update w.stage i stage',
        w.redemptions ++ redemption i stage stage'⟩ := by
    intro hnil hpending
    rw [hnil, List.append_nil]
    exact h.move hpending
  cases hstep with
  | refuse stage exc => exact hother rfl (by rintro _ ⟨⟩)
  | readToken row hrow hunused =>
    have hread := h.read hconsistent hi hrow hunused hquiet
    exact (List.append_nil w.redemptions).symm ▸ hread
  | readIdentity row hnew => exact hother rfl fun row' hrow => by rw [hi]; exact hrow
  | readCredentials row identityRow revoked => exact hother rfl fun row' hrow => by rw [hi]; exact hrow
  | redeem row identityRow revoked hnew => exact h.redeem (by rw [hi]; rfl)
  | provision row e => exact hother rfl (by rintro _ ⟨⟩)
  | save e => exact hother rfl (by rintro _ ⟨⟩)
  | answer c => exact hother rfl (by rintro _ ⟨⟩)
  | returned result => exact hother rfl (by rintro _ ⟨⟩)

lemma Once.step (h : w.Once tokenHash) (hconsistent : w.Consistent requests db₀) {ev : Event ι}
    (hquiet : Undisturbed P requests tokenHash w ev) :
    (w.step P params requests ev).Once tokenHash := by
  cases ev with
  | next i => exact h.next hconsistent rfl (EnrollStage.step_cases P params (requests i) w.db _) hquiet
  | issueToken token purpose kind ttl identityUuid now time => exact ⟨h.count, h.unspent, h.single⟩
  | call I c => exact ⟨h.count, h.unspent, h.single⟩

theorem token_redeemed_once {P : Primitives} {params : RotationParams} {requests : ι → EnrollRequest}
    {db : Database} {events : List (Event ι)}
    (h : Along (step P params requests) (Undisturbed P requests tokenHash) (start db) events) :
    ((reached P params requests db events).redemptions.filter
      fun r => decide (r.2.tokenHash = tokenHash)).length ≤ 1 := by
  have hinv : (reached P params requests db events).Consistent requests db ∧
      (reached P params requests db events).Once tokenHash :=
    h.invariant (I := fun w => w.Consistent requests db ∧ w.Once tokenHash)
      (fun _ ev hev hw => ⟨hw.1.step ev, hw.2.step hw.1 hev⟩) ⟨consistent_start db, once_start db⟩
  exact hinv.2.count

def oneToken (client : Bool) : EnrollRequest where
  identityUuid := if client then Uuid.nil else Uuid.repeated 1
  kind := if client then .client else .proxy
  token := "t"
  version := 1
  ed25519Public := demoKey 1
  x25519Public := demoKey 2
  now := 1000

def issued : Database :=
  (Database.empty.issueToken transparent "t" .enroll .client 900 none (some 1000) 0).2

theorem proxy_after_client : ((reached transparent ⟨10⟩ oneToken issued
      ([true, true, true, true, false, true, false, true, true].map .next)).redemptions.filter
        fun r => decide (r.2.tokenHash = Database.hashToken transparent "t")).length ≤ 1 :=
  token_redeemed_once (by decide)

-- both look it up before either marks it
example : (reached transparent ⟨10⟩ oneToken issued
    ([true, false, true, true, true, false, false, false].map .next)).redemptions.map (·.1) =
    [true, false] := by decide

end Token

end EnrollThreads

end Secupload.Server
