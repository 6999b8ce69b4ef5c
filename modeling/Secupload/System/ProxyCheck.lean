import Secupload.Proxy.Validation
import Secupload.Shared.Canonical
import Secupload.System.Control

/-! The proxy's check of a relayed envelope against the server's, on a cache that was just
filled from the registry. -/

namespace Secupload.Proxy

open Library Shared Server

namespace RegistryCache

section Newest

variable {identityUuid : Uuid} {best : Option RegistryEntry} {e d : RegistryEntry}
  {entries : List RegistryEntry}

structure Newest (identityUuid : Uuid) (seen : List RegistryEntry) (best : Option RegistryEntry) :
    Prop where
  found : ∀ b ∈ best, b ∈ seen ∧ b.identityUuid = identityUuid
  covers : ∀ d ∈ seen, d.identityUuid = identityUuid → ∃ b ∈ best, d.version ≤ b.version

lemma Newest.newer {seen : List RegistryEntry} (h : Newest identityUuid seen best)
    (e : RegistryEntry) : Newest identityUuid (seen ++ [e]) (newer identityUuid best e) := by
  have hkept : (∀ d, d.identityUuid = identityUuid → d = e → ∃ b ∈ best, d.version ≤ b.version) →
      Newest identityUuid (seen ++ [e]) best := by
    intro hlast
    constructor
    · intro b hb
      obtain ⟨hmem, hidentity⟩ := h.found b hb
      exact ⟨List.mem_append_left _ hmem, hidentity⟩
    · intro d hd hidentity
      rcases List.mem_append.mp hd with hd | hd
      · exact h.covers d hd hidentity
      · exact hlast d hidentity (List.mem_singleton.mp hd)
  rw [RegistryCache.newer]
  split
  · rename_i hnewer
    constructor
    · intro b hb
      obtain rfl := Option.some.inj hb
      exact ⟨List.mem_append_right _ (List.mem_singleton_self _), hnewer.1⟩
    · intro d hd hidentity
      refine ⟨e, rfl, ?_⟩
      rcases List.mem_append.mp hd with hd | hd
      · obtain ⟨b, hb, hle⟩ := h.covers d hd hidentity
        exact hle.trans (hnewer.2 b hb).le
      · rw [List.mem_singleton.mp hd]
  · rename_i holder
    apply hkept
    rintro d hidentity rfl
    by_contra hno
    push Not at hno
    exact holder ⟨hidentity, hno⟩

lemma newest_foldl {seen : List RegistryEntry} (h : Newest identityUuid seen best)
    (entries : List RegistryEntry) :
    Newest identityUuid (seen ++ entries) (entries.foldl (newer identityUuid) best) := by
  induction entries generalizing seen best with
  | nil => rwa [List.append_nil]
  | cons e entries ih =>
    have hnext := ih (h.newer e)
    rwa [List.append_assoc] at hnext

lemma entry_newest (cache : RegistryCache) (identityUuid : Uuid) :
    Newest identityUuid cache.entries (cache.entry identityUuid) := by
  have hnone : Newest identityUuid [] none := ⟨nofun, nofun⟩
  exact newest_foldl hnone cache.entries

end Newest

end RegistryCache

section Loading

variable (db : Database)

-- `sync_registry(kind)`, the channel aside
def snapshotOf (kind : IdentityKind) : Except Exn (List RegistryEntry) := do
  parseRegistrySnapshot (← db.handleRegistrySync [UInt8.ofNat (kindToCode kind).toNat])

-- the end of `_control_burst`
def loaded (cache : RegistryCache) : Except Exn RegistryCache := do
  let clientEntries ← snapshotOf db .client
  let proxyEntries ← snapshotOf db .proxy
  return cache.update (clientEntries ++ proxyEntries)

variable {db}

lemma snapshotOf_eq_ok {kind : IdentityKind} {entries : List RegistryEntry}
    (hkind : Database.syncKind [UInt8.ofNat (kindToCode kind).toNat] = .ok kind)
    (h : snapshotOf db kind = .ok entries) :
    entries = (db.publicEntries kind).map registryEntryFromPublic := by
  obtain ⟨data, hdata, hparse⟩ := except_bind_eq_ok.mp h
  rw [Database.handleRegistrySync, hkind, except_ok_bind, ← registrySnapshot_write] at hdata
  rw [← registrySnapshot_read] at hparse
  have hrun := parseAll_eq_ok hparse
  rw [(registrySnapshot.reads hdata).run] at hrun
  exact (congrArg Prod.fst (Except.ok.inj hrun)).symm

lemma mem_publicEntries {kind : IdentityKind} {c : CredentialPublic} :
    c ∈ db.publicEntries kind ↔ c ∈ db.credentials.rows ∧
      c.identityUuid ∈ (if kind = .client then db.clients.rows else db.proxies.rows).map (·.uuid) := by
  rw [Database.publicEntries, (List.perm_insertionSort _ _).mem_iff, List.mem_filter, decide_eq_true_eq]

def Known (db : Database) (I : Uuid) : Prop :=
  I ∈ db.clients.rows.map (·.uuid) ∨ I ∈ db.proxies.rows.map (·.uuid)

lemma mem_loaded {cache cache' : RegistryCache} (h : loaded db cache = .ok cache') {e : RegistryEntry} :
    e ∈ cache'.entries ↔ ∃ c ∈ db.credentials.rows, Known db c.identityUuid ∧
      registryEntryFromPublic c = e := by
  obtain ⟨clientEntries, hclient, h⟩ := except_bind_eq_ok.mp h
  obtain ⟨proxyEntries, hproxy, h⟩ := except_bind_eq_ok.mp h
  obtain rfl := Except.ok.inj h
  rw [snapshotOf_eq_ok rfl hclient, snapshotOf_eq_ok rfl hproxy]
  simp only [RegistryCache.update, List.mem_append, List.mem_map, mem_publicEntries, Known]
  constructor
  · rintro (⟨c, ⟨hc, hkind⟩, rfl⟩ | ⟨c, ⟨hc, hkind⟩, rfl⟩)
    · exact ⟨c, hc, Or.inl (by simpa using hkind), rfl⟩
    · exact ⟨c, hc, Or.inr (by simpa using hkind), rfl⟩
  · rintro ⟨c, hc, hkind | hkind, rfl⟩
    · exact Or.inl ⟨c, ⟨hc, by simpa using hkind⟩, rfl⟩
    · exact Or.inr ⟨c, ⟨hc, by simpa using hkind⟩, rfl⟩

lemma loaded_entry {cache cache' : RegistryCache} (h : loaded db cache = .ok cache') {I : Uuid}
    {entry : RegistryEntry} (hentry : cache'.entry I = some entry) :
    Known db I ∧ ∃ c, db.credential I entry.version = some c ∧ entry.ed25519Public = c.ed25519Public ∧
      ∀ d ∈ db.credentials.rows, d.identityUuid = I → d.version ≤ entry.version := by
  have hnewest := cache'.entry_newest I
  rw [hentry] at hnewest
  obtain ⟨hmem, hidentity⟩ := hnewest.found entry rfl
  obtain ⟨c, hc, hknown, rfl⟩ := (mem_loaded h).mp hmem
  have hI : c.identityUuid = I := hidentity
  rw [hI] at hknown
  refine ⟨hknown, c, Database.credential_eq_some.mpr ⟨hc, hI, rfl⟩, rfl, ?_⟩
  intro d hd hdI
  rw [← hdI] at hknown
  obtain ⟨b, hb, hle⟩ := hnewest.covers _ ((mem_loaded h).mpr ⟨d, hd, hknown, rfl⟩) hdI
  obtain rfl := Option.some.inj hb
  exact hle

end Loading

end Secupload.Proxy

namespace Secupload.System

open Library Shared Server Proxy

section Agreement

variable {P : Primitives} {params : RotationParams} {db : Database} {env : Envelope} {now : ℤ}
  {cache cache' : RegistryCache} {frame : Frame} {auth : Authenticator} {cred : CredentialPublic}

def SignedBy (P : Primitives) (db : Database) (env : Envelope) (cred : CredentialPublic) : Prop :=
  db.credential env.senderUuid env.senderCredentialVersion = some cred ∧
    env.verify P cred.ed25519Public = .ok ()

def Usable (cred : CredentialPublic) (now : ℤ) : Prop :=
  (cred.status = .active ∨ cred.status = .fallback) ∧ RotationEngine.expired cred now = false

def Latest (db : Database) (cred : CredentialPublic) : Prop :=
  ∀ d ∈ db.credentials.rows, d.identityUuid = cred.identityUuid → d.version ≤ cred.version

lemma check_eq_ok {entry : RegistryEntry} (hrelay : frame.channel ≠ channelControl)
    (hparse : parseEnvelope frame.payload = .ok env) (hentry : cache.entry env.senderUuid = some entry) :
    check P cache now frame = .ok () ↔ entry.version = env.senderCredentialVersion ∧
      timestampOk env.timestamp now = true ∧ env.verify P entry.ed25519Public = .ok () := by
  rw [check, if_neg hrelay, hparse, except_ok_bind, hentry]
  dsimp only
  split_ifs with hversion hwindow
  · exact iff_of_false nofun (fun h => hversion h.1)
  · exact iff_of_false nofun (fun h => by simp [hwindow] at h)
  · rw [and_iff_right (not_not.mp hversion), and_iff_right (by simpa using hwindow)]
    split
    · rename_i message hverify
      rw [hverify]
      exact iff_of_false nofun nofun
    · rfl

variable (P params) in
lemma checkCredential_isOk (hknown : db.identityKind env.senderUuid ≠ none) :
    (∃ r, Authenticator.checkCredential P params db env now = .ok r) ↔
      ∃ cred, SignedBy P db env cred ∧ Usable cred now := by
  obtain ⟨kind, hkind⟩ := Option.ne_none_iff_exists'.mp hknown
  have hauthenticating {cred : CredentialPublic} (h : Usable cred now) :
      cred.status.authenticating = true := by
    rcases h.1 with hs | hs <;> rw [hs] <;> rfl
  constructor
  · rintro ⟨⟨kind', row⟩, h⟩
    have hrow := Authenticator.checkCredential_usable h
    obtain ⟨hcred, husable⟩ := Database.credentialForAuth_eq_some.mp hrow
    refine ⟨row, ⟨hcred, ?_⟩, husable⟩
    simp only [Authenticator.checkCredential, hrow, hauthenticating husable] at h
    cases hverify : env.verify P row.ed25519Public with
    | ok _ => rfl
    | error exc =>
      rw [hverify] at h
      cases exc <;> cases h
  · rintro ⟨cred, ⟨hcred, hverify⟩, husable⟩
    have hrow : db.credentialForAuth params env.senderUuid env.senderCredentialVersion now =
        .ok (some cred) :=
      Database.credentialForAuth_eq_some.mpr ⟨hcred, husable⟩
    refine ⟨(kind, cred), ?_⟩
    simp only [Authenticator.checkCredential, hrow, hauthenticating husable, hverify, hkind]
    rfl

lemma authenticate_isOk (hfresh : env.replayKey ∉ auth.replay.entries)
    (hknown : db.identityKind env.senderUuid ≠ none) :
    (∃ r, (auth.authenticate P params db env now).1 = .ok r) ↔
      timestampOk env.timestamp now = true ∧ ∃ cred, SignedBy P db env cred ∧ Usable cred now := by
  rw [← checkCredential_isOk P params hknown, Authenticator.authenticate]
  cases hwindow : timestampOk env.timestamp now with
  | false => simp
  | true => simp [ReplayCache.checkAndAdd, hfresh]

lemma known_of_mem {I : Uuid} (h : Known db I) : db.identityKind I ≠ none := by
  have hfound {t : Table IdentityRow.uuid} (hmem : I ∈ t.rows.map (·.uuid)) : t.get? I ≠ none := by
    obtain ⟨row, hrow, hI⟩ := List.mem_map.mp hmem
    intro hnone
    exact Table.get?_eq_none.mp hnone row hrow hI
  rw [Database.identityKind_ne_none]
  exact h.imp hfound hfound

theorem proxy_agrees_iff (hloaded : loaded db cache = .ok cache') (hrelay : frame.channel ≠ channelControl)
    (hparse : parseEnvelope frame.payload = .ok env) (hknown : cache'.entry env.senderUuid ≠ none)
    (hfresh : env.replayKey ∉ auth.replay.entries) :
    (check P cache' now frame = .ok () ↔ ∃ r, (auth.authenticate P params db env now).1 = .ok r) ↔
      ∀ cred, SignedBy P db env cred → timestampOk env.timestamp now = true →
        (Usable cred now ↔ Latest db cred) := by
  obtain ⟨entry, hentry⟩ := Option.ne_none_iff_exists'.mp hknown
  obtain ⟨hmember, c, hc, hkey, hnewest⟩ := loaded_entry hloaded hentry
  obtain ⟨hrow, hidentity, hversion⟩ := Database.credential_eq_some.mp hc
  rw [check_eq_ok hrelay hparse hentry, authenticate_isOk hfresh (known_of_mem hmember)]
  by_cases hsame : entry.version = env.senderCredentialVersion
  · -- the envelope names the newest version
    have hsigned (cred : CredentialPublic) :
        SignedBy P db env cred ↔ c = cred ∧ env.verify P c.ed25519Public = .ok () := by
      rw [SignedBy, ← hsame, hc, Option.some.injEq]
      apply and_congr_right
      rintro rfl
      rfl
    have hlatest : Latest db c := by
      intro d hd hI
      rw [hversion]
      exact hnewest d hd (hI.trans hidentity)
    rw [and_iff_right hsame, hkey]
    simp only [hsigned, and_imp, forall_eq', and_assoc, exists_eq_left', hlatest, iff_true]
    tauto
  · -- it names an older one, which the proxy refuses
    have hrefused (cred : CredentialPublic) (h : SignedBy P db env cred) : ¬ Latest db cred := by
      intro hlatest
      obtain ⟨hmem, hI, hcred⟩ := Database.credential_eq_some.mp h.1
      have hge := hlatest c hrow (hidentity.trans hI.symm)
      have hle := hnewest cred hmem hI
      omega
    constructor
    · intro h cred hcred hwindow
      refine iff_of_false ?_ (hrefused cred hcred)
      intro husable
      exact hsame (h.mpr ⟨hwindow, cred, hcred, husable⟩).1
    · intro h
      refine iff_of_false (fun hcheck => hsame hcheck.1) ?_
      rintro ⟨hwindow, cred, hcred, husable⟩
      exact hrefused cred hcred ((h cred hcred hwindow).mp husable)

end Agreement

section Demo

open Server.Database (reached enrolledRun rotatingRun RegistryOp)

deriving instance DecidableEq for RegistryCache

def demoLoaded (ops : List RegistryOp) : RegistryCache :=
  (loaded (reached transparent {} ops) ⟨[]⟩).toOption.getD ⟨[]⟩

def requestFrame : Frame := ⟨channelRelay, ((Authenticator.demoEnvelope 0).encode).toOption.getD []⟩

theorem enrolled_client_agrees :
    (check transparent (demoLoaded enrolledRun) 1000 requestFrame = .ok () ↔
      ∃ r, ((Authenticator.new 1).authenticate transparent {} (reached transparent {} enrolledRun)
        (Authenticator.demoEnvelope 0) 1000).1 = .ok r) ↔
      ∀ cred, SignedBy transparent (reached transparent {} enrolledRun) (Authenticator.demoEnvelope 0) cred →
        timestampOk (Authenticator.demoEnvelope 0).timestamp 1000 = true →
        (Usable cred 1000 ↔ Latest (reached transparent {} enrolledRun) cred) := by
  have hloaded : loaded (reached transparent {} enrolledRun) ⟨[]⟩ = .ok (demoLoaded enrolledRun) := by
    decide +kernel
  exact proxy_agrees_iff hloaded (by decide +kernel) (by decide +kernel) (by decide +kernel)
    (by decide +kernel)

-- version 1 is ACTIVE while version 2 is VALIDATING; version 1 is REVOKED and there is no other
theorem proxy_disagrees :
    (¬ ∀ (P : Primitives) (params : RotationParams) (ops : List RegistryOp)
      (cache cache' : RegistryCache) (now : ℤ) (frame : Frame) (env : Envelope) (auth : Authenticator),
      loaded (reached P params ops) cache = .ok cache' → frame.channel ≠ channelControl →
      parseEnvelope frame.payload = .ok env → cache'.entry env.senderUuid ≠ none →
      env.replayKey ∉ auth.replay.entries →
      (∃ r, (auth.authenticate P params (reached P params ops) env now).1 = .ok r) →
      check P cache' now frame = .ok ()) ∧
    ¬ ∀ (P : Primitives) (params : RotationParams) (ops : List RegistryOp)
      (cache cache' : RegistryCache) (now : ℤ) (frame : Frame) (env : Envelope) (auth : Authenticator),
      loaded (reached P params ops) cache = .ok cache' → frame.channel ≠ channelControl →
      parseEnvelope frame.payload = .ok env → cache'.entry env.senderUuid ≠ none →
      env.replayKey ∉ auth.replay.entries → check P cache' now frame = .ok () →
      ∃ r, (auth.authenticate P params (reached P params ops) env now).1 = .ok r := by
  constructor
  · intro h
    have hok : ∃ r, ((Authenticator.new 1).authenticate transparent {} (reached transparent {} rotatingRun)
        (Authenticator.demoEnvelope 0) 1000).1 = .ok r := by
      have hisOk : ((Authenticator.new 1).authenticate transparent {}
          (reached transparent {} rotatingRun) (Authenticator.demoEnvelope 0) 1000).1.isOk = true := by
        decide +kernel
      exact exists_of_isOk hisOk
    have hcheck := h transparent {} rotatingRun ⟨[]⟩ (demoLoaded rotatingRun) 1000 requestFrame
      (Authenticator.demoEnvelope 0) (Authenticator.new 1) (by decide +kernel) (by decide +kernel)
      (by decide +kernel) (by decide +kernel) (by decide +kernel) hok
    exact absurd hcheck (by decide +kernel)
  · intro h
    obtain ⟨r, hr⟩ := h transparent {} (enrolledRun ++ [.revoke Uuid.nil 1 1000]) ⟨[]⟩
      (demoLoaded (enrolledRun ++ [.revoke Uuid.nil 1 1000])) 1000 requestFrame
      (Authenticator.demoEnvelope 0) (Authenticator.new 1) (by decide +kernel) (by decide +kernel)
      (by decide +kernel) (by decide +kernel) (by decide +kernel) (by decide +kernel)
    have hrefused : ((Authenticator.new 1).authenticate transparent {}
        (reached transparent {} (enrolledRun ++ [.revoke Uuid.nil 1 1000]))
        (Authenticator.demoEnvelope 0) 1000).1.isOk = false := by
      decide +kernel
    rw [hr] at hrefused
    cases hrefused

end Demo

end Secupload.System
