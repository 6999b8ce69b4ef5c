import Secupload.Client.Identity
import Secupload.System.Service

namespace Secupload.Server.Database

open Library Shared

section Mismatch

variable {P : Primitives} {params : RotationParams} {db : Database} {I : Uuid} {kind : IdentityKind}

def Mismatch {α : Type} (r : Except Exn α) : Prop :=
  ∃ message, r = .error (.registryError "TOKEN_MISMATCH" message)

lemma recoverCredentials_not_mismatch (purpose : Purpose) (now : ℤ) :
    ¬ Mismatch (db.recoverCredentials params I purpose now) := by
  rintro ⟨message, h⟩
  rw [recoverCredentials] at h
  split at h
  · split_ifs at h
    exact absurd (Exn.registryError.inj (Except.error.inj h)).1 (by decide)
  · rename_i e hload
    split_ifs at h
    · obtain ⟨e', db', hfold, _⟩ := revoke_all now hload
      rw [hfold] at h
      cases h
    · exact absurd (Exn.registryError.inj (Except.error.inj h)).1 (by decide)

variable (params kind) in
lemma redeemToken_not_mismatch {tokenHash : Bytes} (now : ℤ)
    (hbound : ∀ row, db.tokens.get? tokenHash = some row → row.purpose = .recover →
      row.identityUuid = some I) : ¬ Mismatch (db.redeemToken params I kind tokenHash now) := by
  rintro ⟨message, h⟩
  rw [redeemToken] at h
  split at h
  · exact absurd (Exn.registryError.inj (Except.error.inj h)).1 (by decide)
  · rename_i row hrow
    split_ifs at h with _ _ hother
    · exact absurd (Exn.registryError.inj (Except.error.inj h)).1 (by decide)
    · exact absurd (Exn.registryError.inj (Except.error.inj h)).1 (by decide)
    · exact hother.2 (hbound row hrow hother.1)
    · exact absurd (Exn.registryError.inj (Except.error.inj h)).1 (by decide)
    · exact absurd (Exn.registryError.inj (Except.error.inj h)).1 (by decide)
    · split at h
      · rename_i exc hexc
        obtain rfl := Except.error.inj h
        exact recoverCredentials_not_mismatch row.purpose now ⟨message, hexc⟩
      · cases h

lemma provision_not_mismatch (cred : CredentialPublic) (now : ℤ) :
    ¬ Mismatch (db.apply params I (fun e => e.provisionInitial cred now) true).1 := by
  have htransact : ∀ e, ¬ Mismatch (db.transact e fun e => e.provisionInitial cred now).1 := by
    rintro e ⟨message, h⟩
    rw [transact, RotationEngine.provisionInitial] at h
    split_ifs at h
    · exact absurd (Exn.registryError.inj (Except.error.inj h)).1 (by decide)
    · exact absurd (Exn.registryError.inj (Except.error.inj h)).1 (by decide)
    · exact absurd (Exn.registryError.inj (Except.error.inj h)).1 (by decide)
  rw [apply]
  split
  · rw [if_pos rfl]
    exact htransact _
  · exact htransact _

lemma map_not_mismatch {α β : Type} {r : Outcome Database α} (h : ¬ Mismatch r.1)
    (f : α → Database → β) : ¬ Mismatch (r.map f).1 := by
  obtain ⟨exc | a, db⟩ := r
  · rintro ⟨message, he⟩
    obtain rfl := Except.error.inj he
    exact h ⟨message, rfl⟩
  · rintro ⟨message, he⟩
    cases he

lemma enroll_not_mismatch {token : String}
    (hbound : ∀ row, db.tokens.get? (hashToken P token) = some row → row.purpose = .recover →
      row.identityUuid = some I) (version : ℤ) (ed25519Public x25519Public : Bytes) (now : Option ℤ)
    (time : ℤ) :
    ¬ Mismatch (db.enroll P params I kind token version ed25519Public x25519Public now time).1 := by
  have hredeem := redeemToken_not_mismatch params kind (intOr now time) hbound
  rw [enroll]
  dsimp only
  generalize db.redeemToken params I kind (hashToken P token) (intOr now time) = redeemed at hredeem
  obtain exc | ⟨row, committed⟩ := redeemed
  · rintro ⟨message, h⟩
    obtain rfl := Except.error.inj h
    exact hredeem ⟨message, rfl⟩
  · dsimp only
    split_ifs
    · rintro ⟨message, h⟩
      exact absurd (Exn.registryError.inj (Except.error.inj h)).1 (by decide)
    · exact map_not_mismatch (provision_not_mismatch _ _) _

end Mismatch

end Secupload.Server.Database

namespace Secupload.System

open Library Shared Client Server
open Server.Database (Spent Touches hashToken Mismatch)

variable (P : Primitives)

def EnrolledWith (db : Server.Database) (I : Uuid) (kind : IdentityKind) (token : String) : Prop :=
  db.Spent (hashToken P token) ∧ Tunnel2Server.tokenIdentity P token kind = I

def Traced (db : Server.Database) : Prop :=
  ∀ J, db.identityKind J ≠ none → ∃ kind token, EnrolledWith P db J kind token

section Traced

variable {P} {scfg : ServerConfig} {conn : Connection} {db db' : Server.Database}

lemma Traced.of_spent (h : Traced P db) (hkinds : ∀ J, db'.identityKind J ≠ none → db.identityKind J ≠ none)
    (hspent : ∀ k, db.Spent k → db'.Spent k) : Traced P db' := by
  intro J hJ
  obtain ⟨kind, token, hused, hderives⟩ := h J (hkinds J hJ)
  exact ⟨kind, token, hspent _ hused, hderives⟩

lemma traced_touches {I : Uuid} (h : Traced P db) (ht : Touches I db db') : Traced P db' := by
  refine h.of_spent (fun J hJ => ?_) fun k hk => hk.congr ht.tokens
  rw [Database.identityKind, ht.clients, ht.proxies] at hJ
  exact hJ

lemma traced_enroll (h : Traced P db) (params : RotationParams) (kind : IdentityKind) (token : String)
    (version : ℤ) (ed25519Public x25519Public : Bytes) (now : Option ℤ) (time : ℤ) :
    Traced P (db.enroll P params (Tunnel2Server.tokenIdentity P token kind) kind token version
      ed25519Public x25519Public now time).2 := by
  have honly := Database.enroll_only P params db (Tunnel2Server.tokenIdentity P token kind) kind token
    version ed25519Public x25519Public now time
  have hspent : ∀ k, db.Spent k → (db.enroll P params (Tunnel2Server.tokenIdentity P token kind) kind
      token version ed25519Public x25519Public now time).2.Spent k :=
    fun k hk => Database.enroll_spent hk kind token version ed25519Public x25519Public now time
  have hmarked : (db.enroll P params (Tunnel2Server.tokenIdentity P token kind) kind token version
      ed25519Public x25519Public now time).2 = db ∨
      (db.enroll P params (Tunnel2Server.tokenIdentity P token kind) kind token version
        ed25519Public x25519Public now time).2.Spent (hashToken P token) := by
    rcases Database.enroll_cases P params db (Tunnel2Server.tokenIdentity P token kind) kind token version
        ed25519Public x25519Public now time with
      ⟨_, code, message, he⟩ |
      ⟨row, db', hrow, _, hredeemed, ⟨_, code, message, he⟩ | ⟨_, final, he, hfinal⟩⟩
    · exact Or.inl (by rw [he])
    · rw [he]
      exact Or.inr (.mark (Or.inr (Table.get?_eq_some.mp hrow).2) hredeemed.tokens)
    · rw [he]
      exact Or.inr (.mark (Or.inr (Table.get?_eq_some.mp hrow).2) (hfinal.tokens.trans hredeemed.tokens))
  rcases hmarked with hsame | hused
  · rw [hsame]
    exact h
  · intro J hJ
    by_cases hI : J = Tunnel2Server.tokenIdentity P token kind
    · exact ⟨kind, token, hused, hI.symm⟩
    · rw [Database.identityKind, honly.clients J hI, honly.proxies J hI] at hJ
      obtain ⟨kind', token', hspent', hderives⟩ := h J hJ
      exact ⟨kind', token', hspent _ hspent', hderives⟩

lemma serve_traced (h : Traced P conn.state.db) (ev : ServerEvent) :
    Traced P (serve P scfg conn ev).state.db := by
  cases ev with
  | issue token purpose kind ttl identityUuid now time =>
    have hspent : ∀ k, conn.state.db.Spent k →
        (conn.state.db.issueToken P token purpose kind ttl identityUuid now time).2.Spent k :=
      fun k hk => Database.issueToken_spent hk token purpose kind ttl identityUuid now time
    change Traced P (conn.state.db.issueToken P token purpose kind ttl identityUuid now time).2
    rcases Database.issueToken_cases P conn.state.db token purpose kind ttl identityUuid now time with
      he | ⟨row, he⟩
    · rw [he]
      exact h
    · rw [he] at hspent ⊢
      exact h.of_spent (fun _ => id) hspent
  | frame frame d =>
    rw [serve]
    rcases handleFrame_state P scfg conn d frame with
      hsame | ⟨_, msg, _, ⟨_, b, kind, _, _, henroll⟩ | ⟨_, action, env, inner, _, hacts⟩⟩
    · rw [hsame]
      exact h
    · rw [henroll]
      exact traced_enroll h _ _ _ _ _ _ _ _
    · rw [hacts]
      exact traced_touches h
        (Database.handleAction_touches P scfg.params conn.state.db action env.senderUuid inner d.now)
  | rotate fresh successor now =>
    obtain ⟨credentials, hsame⟩ :=
      ServerState.maybeRotate_sameIdentities P scfg conn.state fresh successor now
    change Traced P (conn.state.maybeRotate P scfg fresh successor now).2.db
    rw [hsame]
    exact h

end Traced

variable (scfg : ServerConfig)

structure RecoveryReaches (srv : Tunnel2Server) (I : Uuid) (kind : IdentityKind) (token : String) :
    Prop where
  server : Tunnel2Server.tokenIdentity P token kind = I
  owner : ∀ (ccfg : ClientConfig) (c : ClientIdentity), ccfg.enrollmentToken = token →
    ccfg.kind = kind → c.identityUuid P ccfg = I
  matched : ∀ b d, b.token = token → ¬ Mismatch (srv.registers P scfg d b kind).1

def tokenLabel (kind : IdentityKind) : String := if kind = .proxy then "proxy" else "client"

def Collides (kind : IdentityKind) (token : String) (kind₀ : IdentityKind) (token₀ : String) : Prop :=
  token₀ ≠ token ∧
    uuidAt (P.sha256 (utf8 (tokenLabel kind) ++ utf8 token)) 0 =
      uuidAt (P.sha256 (utf8 (tokenLabel kind₀) ++ utf8 token₀)) 0

variable {P} {scfg} in
lemma recoveryReaches_of_derives {srv : Tunnel2Server} {I : Uuid} {kind : IdentityKind}
    {token : String} {row : EnrollmentToken}
    (hrow : srv.state.db.tokens.get? (hashToken P token) = some row)
    (hbound : row.identityUuid = some I) (htoken : token ≠ "")
    (h : Tunnel2Server.tokenIdentity P token kind = I) : RecoveryReaches P scfg srv I kind token where
  server := h
  owner := by
    rintro ccfg c rfl rfl
    rw [ClientIdentity.identityUuid, if_pos htoken]
    exact h
  matched := by
    rintro b d rfl
    rw [Tunnel2Server.registers, h]
    apply Database.enroll_not_mismatch
    intro row' hrow' _
    obtain rfl := Option.some.inj (hrow.symm.trans hrow')
    exact hbound

theorem recovery_reaches_iff (conn : Connection) (evs : List ServerEvent)
    (hclients : conn.state.db.clients = Table.empty) (hproxies : conn.state.db.proxies = Table.empty)
    (I : Uuid) (kind : IdentityKind) (token : String) (row : EnrollmentToken)
    (hknown : (run (serve P scfg) conn evs).state.db.identityRow I kind ≠ none)
    (hrow : (run (serve P scfg) conn evs).state.db.tokens.get? (hashToken P token) = some row)
    (hbound : row.identityUuid = some I) (hunused : row.usedAt = none) (htoken : token ≠ "") :
    RecoveryReaches P scfg (run (serve P scfg) conn evs).toTunnel2Server I kind token ↔
      ∃ kind₀ token₀, EnrolledWith P (run (serve P scfg) conn evs).state.db I kind₀ token₀ ∧
        Collides P kind token kind₀ token₀ := by
  constructor
  · intro h
    have hstart : Traced P conn.state.db := by
      intro J hJ
      rw [Database.identityKind, hclients, hproxies] at hJ
      exact (hJ rfl).elim
    have htraced : Traced P (run (serve P scfg) conn evs).state.db :=
      run_invariant (I := fun conn : Connection => Traced P conn.state.db)
        (fun _ ev ht => serve_traced ht ev) hstart evs
    obtain ⟨kind₀, token₀, hspent, hderives⟩ := htraced I (Database.identityKind_of_row hknown)
    refine ⟨kind₀, token₀, ⟨hspent, hderives⟩, ?_, h.server.trans hderives.symm⟩
    rintro rfl
    obtain ⟨used, hused, hsome⟩ := hspent
    obtain rfl := Option.some.inj (hrow.symm.trans hused)
    exact hsome hunused
  · rintro ⟨kind₀, token₀, ⟨_, hderives⟩, _, hsame⟩
    exact recoveryReaches_of_derives hrow hbound htoken (hsame.trans hderives)

section Demo

variable {P scfg}

def enrollFrameOf (token : String) : Frame where
  channel := channelControl
  payload := ((encodeEnrollmentBody ⟨1, token, 1, demoKey 1, demoKey 2⟩ >>= encodeControl
    ControlType.enroll.code).toOption.getD [])

def recovering (token recovery : String) : List ServerEvent :=
  [.issue token .enroll .client 900 none (some 50000) 0,
    .frame (enrollFrameOf token) Tunnel2Server.demoDraw,
    .issue recovery .recover .client 900
      (some (Tunnel2Server.tokenIdentity transparent token .client)) (some 50000) 0]

def recoveryServer : Connection where
  toTunnel2Server := Tunnel2Server.issuing
  objects := .empty
  permissions := Table.empty

def recoveryRow (token recovery : String) : EnrollmentToken :=
  ⟨hashToken transparent recovery, .recover, .client,
    some (Tunnel2Server.tokenIdentity transparent token .client), 50900, none⟩

-- the digests of short texts begin with the same zeros here
theorem colliding_token_recovers :
    RecoveryReaches transparent Tunnel2Server.frontServer
      (run (serve transparent Tunnel2Server.frontServer) recoveryServer
        (recovering "t" "r")).toTunnel2Server Uuid.nil .client "r" :=
  (recovery_reaches_iff transparent Tunnel2Server.frontServer recoveryServer (recovering "t" "r")
    rfl rfl Uuid.nil .client "r" (recoveryRow "t" "r") (by decide +kernel) (by decide +kernel) rfl rfl
    (by decide)).mpr ⟨.client, "t", ⟨⟨⟨hashToken transparent "t", .enroll, .client, none, 50900, some 50000⟩,
      by decide +kernel, by simp⟩, rfl⟩, by decide, by decide +kernel⟩

def longToken (c : Char) : String := String.ofList (List.replicate 43 c)

theorem recovery_token_mismatched :
    ¬ ∀ (P : Primitives) (scfg : ServerConfig) (conn : Connection) (evs : List ServerEvent),
      conn.state.db.clients = Table.empty → conn.state.db.proxies = Table.empty →
      ∀ (I : Uuid) (kind : IdentityKind) (token : String) (row : EnrollmentToken),
      (run (serve P scfg) conn evs).state.db.identityRow I kind ≠ none →
      (run (serve P scfg) conn evs).state.db.tokens.get? (hashToken P token) = some row →
      row.purpose = .recover → row.identityUuid = some I → row.usedAt = none → token ≠ "" →
        RecoveryReaches P scfg (run (serve P scfg) conn evs).toTunnel2Server I kind token := by
  intro h
  have hreaches := h transparent Tunnel2Server.frontServer recoveryServer
    (recovering (longToken 'a') (longToken 'b')) rfl rfl
    (Tunnel2Server.tokenIdentity transparent (longToken 'a') .client) .client (longToken 'b')
    (recoveryRow (longToken 'a') (longToken 'b')) (by decide +kernel) (by decide +kernel) rfl rfl rfl
    (by decide)
  exact absurd hreaches.server (by decide +kernel)

end Demo

end Secupload.System
