import Secupload.Server.ControlActions
import Secupload.Server.Recovery

namespace Secupload.Server

open Library Shared

-- what `_handle_enroll` reads of its message
def enrollRequest (body : Bytes) : Except Exn (EnrollmentBody × IdentityKind) := do
  let b ← parseEnrollmentBody body
  return (b, ← kindFromCode b.identityKind)

inductive TokenEvent
  | issue (token : String) (purpose : Purpose) (kind : IdentityKind) (ttl : ℤ)
      (identityUuid : Option Uuid) (now : Option ℤ) (time : ℤ)
  | enroll (body : Bytes) (d : Draw)

namespace Database

section Rows

variable {P : Primitives} {params : RotationParams} {db db' : Database} {I : Uuid}
  {kind : IdentityKind} {token : String} {version : ℤ} {ed25519Public x25519Public : Bytes}
  {now : Option ℤ} {time : ℤ} {row : EnrollmentToken} {tokenHash : Bytes}

def withIdentity (db : Database) (I : Uuid) (kind : IdentityKind) : Database :=
  if db.identityRow I kind = none then db.addIdentity I kind else db

lemma redeemToken_identities {t : ℤ}
    (h : db.redeemToken params I kind tokenHash t = .ok (row, db')) :
    db'.clients = (db.withIdentity I kind).clients ∧ db'.proxies = (db.withIdentity I kind).proxies := by
  rw [redeemToken] at h
  split at h
  · cases h
  · split_ifs at h
    split at h
    · cases h
    · rename_i base hbase
      obtain ⟨hrow, rfl⟩ := Prod.mk.inj (Except.ok.inj h)
      rw [hrow] at hbase ⊢
      rcases recoverCredentials_cases params db I t row.purpose with
        ⟨code, message, he, _⟩ | ⟨base', hok, _, hcl, hpr, _, _⟩
      · rw [hbase] at he
        cases he
      · obtain rfl := Except.ok.inj (hbase.symm.trans hok)
        rw [commitToken, withIdentity]
        split
        · simp only [addIdentity]
          split <;> exact ⟨by rw [hcl], by rw [hpr]⟩
        · exact ⟨hcl, hpr⟩

variable (P params db I kind token version ed25519Public x25519Public now time) in
lemma enroll_identities :
    db.enroll P params I kind token version ed25519Public x25519Public now time =
        ((db.enroll P params I kind token version ed25519Public x25519Public now time).1, db) ∨
      (db.enroll P params I kind token version ed25519Public x25519Public now time).2.clients =
          (db.withIdentity I kind).clients ∧
        (db.enroll P params I kind token version ed25519Public x25519Public now time).2.proxies =
          (db.withIdentity I kind).proxies := by
  rw [enroll]
  dsimp only
  split
  · exact Or.inl rfl
  · rename_i row committed hredeem
    have hrows := redeemToken_identities hredeem
    split_ifs
    · exact Or.inr hrows
    · rw [Outcome.map_snd]
      rcases apply_cases params committed I (fun e => e.provisionInitial
          (newCredential I version ed25519Public x25519Public) (intOr now time)) true with
        ⟨exc, he⟩ | ⟨e, changed, e', _, _, he⟩
      · rw [he]
        exact Or.inr hrows
      · rw [he, saveAll_clients, saveAll_proxies]
        exact Or.inr hrows

variable (P params db I kind token version ed25519Public x25519Public now time) in
lemma enroll_tokens :
    (db.enroll P params I kind token version ed25519Public x25519Public now time).2.tokens =
        db.tokens ∨
      ∃ row, db.tokens.get? (hashToken P token) = some row ∧ row.usedAt = none ∧
        (db.enroll P params I kind token version ed25519Public x25519Public now time).2.tokens =
          db.tokens.set { row with usedAt := some (intOr now time) } := by
  rcases enroll_cases P params db I kind token version ed25519Public x25519Public now time with
    ⟨_, code, message, he⟩ |
    ⟨row, db', hrow, hadmits, hredeemed, ⟨_, code, message, he⟩ | ⟨_, final, he, hfinal⟩⟩
  · rw [he]
    exact Or.inl rfl
  · rw [he]
    exact Or.inr ⟨row, hrow, hadmits.1, hredeemed.tokens⟩
  · rw [he]
    exact Or.inr ⟨row, hrow, hadmits.1, hfinal.tokens.trans hredeemed.tokens⟩

variable (P params db I kind token version ed25519Public x25519Public now time) in
lemma enroll_succeeds_iff :
    (∃ cred, (db.enroll P params I kind token version ed25519Public x25519Public now time).1 =
        .ok cred) ↔
      ∃ row, db.tokens.get? (hashToken P token) = some row ∧
        db.Admits I kind (intOr now time) row ∧ ¬ db.RefusedLate I version row := by
  rcases enroll_cases P params db I kind token version ed25519Public x25519Public now time with
    ⟨hno, code, message, he⟩ |
    ⟨row, db', hrow, hadmits, _, ⟨hlate, code, message, he⟩ | ⟨hlate, final, he, _⟩⟩
  · rw [he]
    refine iff_of_false (by simp) ?_
    rintro ⟨row, hrow, hadmits, _⟩
    exact hno row hrow hadmits
  · rw [he]
    refine iff_of_false (by simp) ?_
    rintro ⟨row', hrow', _, hlate'⟩
    obtain rfl := Option.some.inj (hrow.symm.trans hrow')
    exact hlate' hlate
  · rw [he]
    exact iff_of_true ⟨_, rfl⟩ ⟨row, hrow, hadmits, hlate⟩

end Rows

def Known (db : Database) (I : Uuid) : Prop :=
  db.identityKind I ≠ none ∨ ∃ v, db.credential I v ≠ none

structure Permits (db : Database) (I : Uuid) (kind : IdentityKind)
    (row : EnrollmentToken) : Prop where
  kind : kind = row.identityKind
  enroll : row.purpose = .enroll → ¬ db.Known I
  recover : row.purpose = .recover → row.identityUuid = some I ∧ db.Known I

def Spent (db : Database) (k : Bytes) : Prop :=
  ∃ row, db.tokens.get? k = some row ∧ row.usedAt ≠ none

section Spent

variable {P : Primitives} {params : RotationParams} {db db' : Database} {I : Uuid} {k : Bytes}

lemma Spent.congr (h : db.Spent k) (hsame : db'.tokens = db.tokens) : db'.Spent k := by
  rw [Spent, hsame]
  exact h

lemma Spent.mark {row : EnrollmentToken} {t : ℤ} (h : db.Spent k ∨ row.tokenHash = k)
    (hset : db'.tokens = db.tokens.set { row with usedAt := some t }) : db'.Spent k := by
  by_cases hk : row.tokenHash = k
  · exact ⟨{ row with usedAt := some t }, by rw [hset, Table.get?_set, if_pos hk], by simp⟩
  · obtain ⟨old, hold, hused⟩ := h.resolve_right hk
    exact ⟨old, by rw [hset, Table.get?_set, if_neg hk, hold], hused⟩

lemma issueToken_spent (h : db.Spent k) (token : String) (purpose : Purpose) (kind : IdentityKind)
    (ttl : ℤ) (identityUuid : Option Uuid) (now : Option ℤ) (time : ℤ) :
    (db.issueToken P token purpose kind ttl identityUuid now time).2.Spent k := by
  obtain ⟨row, hrow, hused⟩ := h
  rw [issueToken]
  dsimp only
  split_ifs with hfound
  · exact ⟨row, hrow, hused⟩
  · refine ⟨row, ?_, hused⟩
    dsimp only
    rw [Table.get?_set, if_neg, hrow]
    intro hk
    dsimp only at hk
    rw [hk, hrow] at hfound
    exact hfound rfl

lemma enroll_spent (h : db.Spent k) (kind : IdentityKind) (token : String) (version : ℤ)
    (ed25519Public x25519Public : Bytes) (now : Option ℤ) (time : ℤ) :
    (db.enroll P params I kind token version ed25519Public x25519Public now time).2.Spent k := by
  rcases enroll_tokens P params db I kind token version ed25519Public x25519Public now time with
    hsame | ⟨row, _, _, hset⟩
  · exact h.congr hsame
  · exact .mark (Or.inl h) hset

end Spent

structure AddsOnly (kind : IdentityKind) (db db' : Database) : Prop where
  clients : kind ≠ .client → ∀ J, db.clients.get? J = none → db'.clients.get? J = none
  proxies : kind ≠ .proxy → ∀ J, db.proxies.get? J = none → db'.proxies.get? J = none

end Database

namespace Tunnel2Server

open Database

section Run

variable (P : Primitives) (cfg : ServerConfig) (srv : Tunnel2Server)

def tokenStep (srv : Tunnel2Server) : TokenEvent → Tunnel2Server
  | .issue token purpose kind ttl identityUuid now time =>
    srv.withDb (srv.state.db.issueToken P token purpose kind ttl identityUuid now time).2
  | .enroll body d => (srv.handleEnroll P cfg d body).2

def Issues (row : EnrollmentToken) (srv : Tunnel2Server) : TokenEvent → Prop
  | .issue token purpose kind ttl identityUuid now time =>
    (srv.state.db.issueToken P token purpose kind ttl identityUuid now time).1 = .ok token ∧
      row = { tokenHash := hashToken P token, purpose, identityKind := kind, identityUuid
              expiresAt := intOr now time + ttl }
  | .enroll .. => False

def registers (d : Draw) (b : EnrollmentBody) (kind : IdentityKind) :
    Outcome Database (Option CredentialPublic) :=
  srv.state.db.enroll P cfg.params (tokenIdentity P b.token kind) kind b.token b.version
    b.ed25519Public b.x25519Public (some d.now) d.time

def Redeems (srv : Tunnel2Server) (b : EnrollmentBody) (kind : IdentityKind) : TokenEvent → Prop
  | .issue .. => False
  | .enroll body d =>
    enrollRequest body = .ok (b, kind) ∧ ∃ cred, (srv.registers P cfg d b kind).1 = .ok cred

structure Authority (evs : List TokenEvent) : Prop where
  once : ∀ pre ev mid ev' post, evs = pre ++ ev :: (mid ++ ev' :: post) → ∀ b kind b' kind',
    Redeems P cfg (run (tokenStep P cfg) srv pre) b kind ev →
    Redeems P cfg (run (tokenStep P cfg) srv (pre ++ ev :: mid)) b' kind' ev' →
      hashToken P b.token ≠ hashToken P b'.token
  permitted : ∀ pre ev post, evs = pre ++ ev :: post → ∀ b kind,
    Redeems P cfg (run (tokenStep P cfg) srv pre) b kind ev →
      ∃ row, (run (tokenStep P cfg) srv pre).state.db.tokens.get? (hashToken P b.token) = some row ∧
        Sometime (tokenStep P cfg) (Issues P row) srv pre ∧
        (run (tokenStep P cfg) srv pre).state.db.Permits (tokenIdentity P b.token kind) kind row
  tables : ∀ pre ev post, evs = pre ++ ev :: post → ∀ b kind,
    Redeems P cfg (run (tokenStep P cfg) srv pre) b kind ev →
      AddsOnly kind (run (tokenStep P cfg) srv pre).state.db
        (run (tokenStep P cfg) srv (pre ++ [ev])).state.db

def Conforms (srv : Tunnel2Server) : TokenEvent → Prop
  | .issue .. => True
  | .enroll body d => ∀ b kind row, enrollRequest body = .ok (b, kind) →
    srv.state.db.tokens.get? (hashToken P b.token) = some row →
    srv.state.db.Admits (tokenIdentity P b.token kind) kind (intOr (some d.now) d.time) row →
    ¬ srv.state.db.RefusedLate (tokenIdentity P b.token kind) b.version row →
      kind = row.identityKind ∧
      (row.purpose = .enroll → srv.state.db.identityKind (tokenIdentity P b.token kind) = none) ∧
      (kind = .server → srv.state.db.proxies.get? (tokenIdentity P b.token kind) ≠ none)

end Run

section Step

variable {P : Primitives} {cfg : ServerConfig} {srv : Tunnel2Server} {body : Bytes} {d : Draw}
  {b : EnrollmentBody} {kind : IdentityKind} {ev : TokenEvent}

lemma handleEnroll_unread {exc : Exn} (h : enrollRequest body = .error exc) :
    (srv.handleEnroll P cfg d body).2 = srv := by
  change (do
    let b ← parseEnrollmentBody body
    return (b, ← kindFromCode b.identityKind) : Except Exn (EnrollmentBody × IdentityKind)) = _ at h
  rw [handleEnroll, h]

lemma handleEnroll_requested (h : enrollRequest body = .ok (b, kind)) :
    (srv.handleEnroll P cfg d body).2 = srv.withDb (srv.registers P cfg d b kind).2 := by
  change (do
    let b ← parseEnrollmentBody body
    return (b, ← kindFromCode b.identityKind) : Except Exn (EnrollmentBody × IdentityKind)) = _ at h
  rw [handleEnroll, registers, h]
  dsimp only
  split
  · rename_i he
    rw [he]
  · rename_i he
    rw [he]
  · rename_i he
    rw [he]

variable (P cfg srv ev) in
lemma tokenStep_tokens :
    (tokenStep P cfg srv ev).state.db.tokens = srv.state.db.tokens ∨
      (∃ row, Issues P row srv ev ∧ srv.state.db.tokens.get? row.tokenHash = none ∧
        (tokenStep P cfg srv ev).state.db.tokens = srv.state.db.tokens.set row) ∨
      ∃ row t, srv.state.db.tokens.get? row.tokenHash = some row ∧
        (tokenStep P cfg srv ev).state.db.tokens =
          srv.state.db.tokens.set { row with usedAt := some t } := by
  cases ev with
  | issue token purpose kind ttl identityUuid now time =>
    by_cases hfound : (srv.state.db.tokens.get? (hashToken P token)).isSome
    · refine Or.inl ?_
      rw [tokenStep, issueToken]
      dsimp only
      rw [if_pos hfound]
      rfl
    · refine Or.inr (Or.inl ⟨_, ⟨?_, rfl⟩, by simpa using hfound, ?_⟩)
      · rw [issueToken]
        dsimp only
        rw [if_neg hfound]
      · rw [tokenStep, issueToken]
        dsimp only
        rw [if_neg hfound]
        rfl
  | enroll body d =>
    cases hrequest : enrollRequest body with
    | error exc =>
      refine Or.inl ?_
      rw [tokenStep, handleEnroll_unread hrequest]
    | ok request =>
      obtain ⟨b, kind⟩ := request
      rw [tokenStep, handleEnroll_requested hrequest]
      rcases enroll_tokens P cfg.params srv.state.db (tokenIdentity P b.token kind) kind b.token
          b.version b.ed25519Public b.x25519Public (some d.now) d.time with hsame | ⟨row, hrow, _, hset⟩
      · exact Or.inl hsame
      · refine Or.inr (Or.inr ⟨row, _, ?_, hset⟩)
        rw [(Table.get?_eq_some.mp hrow).2]
        exact hrow

lemma redeems_iff : Redeems P cfg srv b kind (.enroll body d) ↔
    enrollRequest body = .ok (b, kind) ∧
      ∃ row, srv.state.db.tokens.get? (hashToken P b.token) = some row ∧
        srv.state.db.Admits (tokenIdentity P b.token kind) kind (intOr (some d.now) d.time) row ∧
        ¬ srv.state.db.RefusedLate (tokenIdentity P b.token kind) b.version row :=
  and_congr_right fun _ => enroll_succeeds_iff P cfg.params srv.state.db
    (tokenIdentity P b.token kind) kind b.token b.version b.ed25519Public b.x25519Public
    (some d.now) d.time

lemma tokenStep_spent {k : Bytes} (h : srv.state.db.Spent k) :
    (tokenStep P cfg srv ev).state.db.Spent k := by
  cases ev with
  | issue => exact issueToken_spent h _ _ _ _ _ _ _
  | enroll body d =>
    cases hrequest : enrollRequest body with
    | error exc =>
      rw [tokenStep, handleEnroll_unread hrequest]
      exact h
    | ok request =>
      rw [tokenStep, handleEnroll_requested hrequest]
      exact enroll_spent h _ _ _ _ _ _ _

lemma redeems_spends (h : Redeems P cfg srv b kind ev) :
    ¬ srv.state.db.Spent (hashToken P b.token) ∧
      (tokenStep P cfg srv ev).state.db.Spent (hashToken P b.token) := by
  cases ev with
  | issue => exact h.elim
  | enroll body d =>
    obtain ⟨hrequest, row, hrow, hadmits, hlate⟩ := redeems_iff.mp h
    constructor
    · rintro ⟨row', hrow', hused⟩
      obtain rfl := Option.some.inj (hrow.symm.trans hrow')
      exact hused hadmits.1
    · rw [tokenStep, handleEnroll_requested hrequest]
      rcases enroll_cases P cfg.params srv.state.db (tokenIdentity P b.token kind) kind b.token
          b.version b.ed25519Public b.x25519Public (some d.now) d.time with
        ⟨hno, _⟩ | ⟨row', db', hrow', _, hredeemed, ⟨hlate', _⟩ | ⟨_, final, he, hfinal⟩⟩
      · exact (hno row hrow hadmits).elim
      · obtain rfl := Option.some.inj (hrow.symm.trans hrow')
        exact (hlate hlate').elim
      · change (registers P cfg srv d b kind).2.Spent (hashToken P b.token)
        rw [registers, he]
        exact .mark (Or.inr (Table.get?_eq_some.mp hrow').2) (hfinal.tokens.trans hredeemed.tokens)

lemma issued_run (hnone : srv.state.db.tokens = Table.empty) (evs : List TokenEvent) {k : Bytes}
    {row : EnrollmentToken} (hrow : (run (tokenStep P cfg) srv evs).state.db.tokens.get? k = some row) :
    Sometime (tokenStep P cfg) (Issues P { row with usedAt := none }) srv evs := by
  induction evs using List.reverseRecOn generalizing k row with
  | nil =>
    rw [run_nil, hnone] at hrow
    cases hrow
  | append_singleton evs ev ih =>
    rw [run_append, run_cons, run_nil] at hrow
    rcases tokenStep_tokens P cfg (run (tokenStep P cfg) srv evs) ev with
      hsame | ⟨row', hissues, hfree, hset⟩ | ⟨row', t, hrow', hset⟩
    · rw [hsame] at hrow
      exact (ih hrow).append [ev]
    · rw [hset, Table.get?_set] at hrow
      split at hrow
      · obtain rfl := Option.some.inj hrow
        have hunused : { row' with usedAt := none } = row' := by
          cases ev with
          | issue => rw [hissues.2]
          | enroll => exact hissues.elim
        rw [hunused]
        exact .last hissues
      · exact (ih hrow).append [ev]
    · rw [hset, Table.get?_set] at hrow
      split at hrow
      · obtain rfl := Option.some.inj hrow
        exact (ih hrow').append [ev]
      · exact (ih hrow).append [ev]

lemma redeems_once {pre mid : List TokenEvent} {ev' : TokenEvent} {b' : EnrollmentBody}
    {kind' : IdentityKind} (h : Redeems P cfg (run (tokenStep P cfg) srv pre) b kind ev)
    (h' : Redeems P cfg (run (tokenStep P cfg) srv (pre ++ ev :: mid)) b' kind' ev') :
    hashToken P b.token ≠ hashToken P b'.token := by
  intro hsame
  apply (redeems_spends h').1
  rw [← hsame, run_append, run_cons]
  exact run_invariant (I := fun s : Tunnel2Server => s.state.db.Spent (hashToken P b.token))
    (fun _ _ hs => tokenStep_spent hs) (redeems_spends h).2 mid

lemma permits_of_admits {row : EnrollmentToken} {db : Database} {I : Uuid} {t : ℤ}
    (hadmits : db.Admits I kind t row) (hkind : kind = row.identityKind)
    (henroll : row.purpose = .enroll → db.identityKind I = none) : db.Permits I kind row := by
  refine ⟨hkind, fun hp => ?_, fun hp => ?_⟩
  · have hchecks := hadmits.2.2
    rw [hp] at hchecks
    rintro (hknown | ⟨v, hv⟩)
    · exact hknown (henroll hp)
    · exact hv (hchecks.2 v)
  · have hchecks := hadmits.2.2
    rw [hp] at hchecks
    exact ⟨hchecks.1, Or.inl (identityKind_of_row hchecks.2.1)⟩

lemma withIdentity_addsOnly {db : Database} {I : Uuid} (h : kind = .server → db.proxies.get? I ≠ none) :
    AddsOnly kind db (db.withIdentity I kind) := by
  constructor
  · intro hkind J hJ
    rw [withIdentity, addIdentity, if_neg hkind]
    split <;> exact hJ
  · intro hkind J hJ
    cases kind with
    | client =>
      rw [withIdentity, addIdentity, if_pos rfl]
      split <;> exact hJ
    | proxy => exact (hkind rfl).elim
    | server =>
      have hrow : db.identityRow I .server ≠ none := h rfl
      rw [withIdentity, if_neg hrow]
      exact hJ

lemma conforms_redeems (hconforms : Conforms P srv ev) (h : Redeems P cfg srv b kind ev) :
    (∃ row, srv.state.db.tokens.get? (hashToken P b.token) = some row ∧ row.usedAt = none ∧
      srv.state.db.Permits (tokenIdentity P b.token kind) kind row) ∧
    AddsOnly kind srv.state.db (tokenStep P cfg srv ev).state.db := by
  cases ev with
  | issue => exact h.elim
  | enroll body d =>
    obtain ⟨hrequest, row, hrow, hadmits, hlate⟩ := redeems_iff.mp h
    obtain ⟨hkind, henroll, hserver⟩ := hconforms b kind row hrequest hrow hadmits hlate
    refine ⟨⟨row, hrow, hadmits.1, permits_of_admits hadmits hkind henroll⟩, ?_⟩
    rw [tokenStep, handleEnroll_requested hrequest]
    have hadds := withIdentity_addsOnly hserver
    rcases enroll_identities P cfg.params srv.state.db (tokenIdentity P b.token kind) kind b.token
        b.version b.ed25519Public b.x25519Public (some d.now) d.time with he | ⟨hcl, hpr⟩
    · change AddsOnly kind _ (registers P cfg srv d b kind).2
      rw [registers, he]
      exact ⟨fun _ _ => id, fun _ _ => id⟩
    · constructor
      · intro hk J hJ
        change (registers P cfg srv d b kind).2.clients.get? J = none
        rw [registers, hcl]
        exact hadds.clients hk J hJ
      · intro hk J hJ
        change (registers P cfg srv d b kind).2.proxies.get? J = none
        rw [registers, hpr]
        exact hadds.proxies hk J hJ

lemma conforms_of_permits
    (h : ∀ b kind, Redeems P cfg srv b kind ev →
      (∃ row, srv.state.db.tokens.get? (hashToken P b.token) = some row ∧
        srv.state.db.Permits (tokenIdentity P b.token kind) kind row) ∧
      AddsOnly kind srv.state.db (tokenStep P cfg srv ev).state.db) : Conforms P srv ev := by
  cases ev with
  | issue => trivial
  | enroll body d =>
    intro b kind row hrequest hrow hadmits hlate
    have hredeems : Redeems P cfg srv b kind (.enroll body d) :=
      redeems_iff.mpr ⟨hrequest, row, hrow, hadmits, hlate⟩
    obtain ⟨⟨row', hrow', hpermits⟩, hadds⟩ := h b kind hredeems
    obtain rfl := Option.some.inj (hrow.symm.trans hrow')
    refine ⟨hpermits.kind, fun hp => ?_, fun hserver hfree => ?_⟩
    · by_contra hknown
      exact hpermits.enroll hp (Or.inl hknown)
    · have hnone := hadds.proxies (by simp [hserver]) _ hfree
      rw [tokenStep, handleEnroll_requested hrequest] at hnone
      change (registers P cfg srv d b kind).2.proxies.get? _ = none at hnone
      obtain ⟨cred, hok⟩ := hredeems.2
      rcases enroll_cases P cfg.params srv.state.db (tokenIdentity P b.token kind) kind b.token
          b.version b.ed25519Public b.x25519Public (some d.now) d.time with
        ⟨_, code, message, he⟩ | ⟨row', db', _, _, hredeemed, ⟨_, code, message, he⟩ | ⟨_, final, he, hfinal⟩⟩
      · rw [registers, he] at hok
        cases hok
      · rw [registers, he] at hok
        cases hok
      · rw [registers, he, hfinal.proxies] at hnone
        apply hredeemed.identity
        rw [identityRow, hserver, if_neg (by simp)]
        exact hserver ▸ hnone

end Step

theorem token_authority_iff (P : Primitives) (cfg : ServerConfig) (srv : Tunnel2Server)
    (evs : List TokenEvent) (hnone : srv.state.db.tokens = Table.empty) :
    Authority P cfg srv evs ↔ Along (tokenStep P cfg) (Conforms P) srv evs := by
  have hsplit : ∀ pre ev, run (tokenStep P cfg) srv (pre ++ [ev]) =
      tokenStep P cfg (run (tokenStep P cfg) srv pre) ev := by
    intro pre ev
    rw [run_append, run_cons, run_nil]
  rw [along_iff_forall]
  constructor
  · rintro ⟨_, hpermitted, htables⟩ pre ev post hevs
    apply conforms_of_permits
    intro b kind hredeems
    obtain ⟨row, hrow, _, hpermits⟩ := hpermitted pre ev post hevs b kind hredeems
    refine ⟨⟨row, hrow, hpermits⟩, ?_⟩
    rw [← hsplit]
    exact htables pre ev post hevs b kind hredeems
  · intro halong
    constructor
    · rintro pre ev mid ev' post rfl b kind b' kind' hfirst hsecond
      exact redeems_once hfirst hsecond
    · intro pre ev post hevs b kind hredeems
      obtain ⟨⟨row, hrow, hunused, hpermits⟩, _⟩ := conforms_redeems (halong pre ev post hevs) hredeems
      refine ⟨row, hrow, ?_, hpermits⟩
      have hissued := issued_run hnone pre hrow
      rw [← hunused] at hissued
      exact hissued
    · intro pre ev post hevs b kind hredeems
      rw [hsplit]
      exact (conforms_redeems (halong pre ev post hevs) hredeems).2

section Demo

def clientToken : TokenEvent := .issue "t" .enroll .client 900 none (some 50000) 0

def demoEnrollment (kind : ℤ) : EnrollmentBody := ⟨kind, "t", 1, demoKey 1, demoKey 2⟩

def enrollMessage (kind : ℤ) : TokenEvent :=
  .enroll ((encodeEnrollmentBody (demoEnrollment kind)).toOption.getD []) demoDraw

def issuing : Tunnel2Server := serving transparent frontServer [] (demoKeys 6) 1000

lemma clientToken_row : (run (tokenStep transparent frontServer) issuing [clientToken]).state.db.tokens.get?
    (hashToken transparent "t") =
      some ⟨hashToken transparent "t", .enroll, .client, none, 50900, none⟩ := by
  rfl

theorem client_enrolled_by_token :
    Authority transparent frontServer issuing [clientToken, enrollMessage 1] := by
  refine (token_authority_iff transparent frontServer issuing [clientToken, enrollMessage 1] rfl).mpr
    ⟨trivial, ?_, trivial⟩
  intro b kind row hrequest hrow _ _
  obtain ⟨rfl, rfl⟩ : b = demoEnrollment 1 ∧ kind = .client :=
    Prod.mk.inj (Except.ok.inj (hrequest.symm.trans (by decide +kernel)))
  obtain rfl := Option.some.inj (hrow.symm.trans clientToken_row)
  exact ⟨rfl, fun _ => rfl, fun h => by cases h⟩

theorem client_token_enrolls_proxy :
    ¬ ∀ (P : Primitives) (cfg : ServerConfig) (srv : Tunnel2Server) (evs : List TokenEvent),
      srv.state.db.tokens = Table.empty → Authority P cfg srv evs := by
  intro h
  have hauthority := h transparent frontServer issuing [clientToken, enrollMessage 2] rfl
  obtain ⟨row, hrow, _, hpermits⟩ := hauthority.permitted [clientToken] _ [] rfl (demoEnrollment 2)
    .proxy ⟨by decide +kernel, some (Database.enrolled frontServer.params
      (tokenIdentity transparent "t" .proxy) 1 (demoKey 1) (demoKey 2) 50000), by decide +kernel⟩
  obtain rfl := Option.some.inj (hrow.symm.trans clientToken_row)
  cases hpermits.kind

end Demo

end Tunnel2Server

end Secupload.Server
