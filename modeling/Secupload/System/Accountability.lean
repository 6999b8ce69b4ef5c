import Secupload.Server.AuditTrail
import Secupload.System.Mediation

/-! The server with its audit trail: every change to its tables and files leaves a row that names who
made it, unless an enrollment is refused after its first commit, and no row claims what was not shown. -/

namespace Secupload.Server

open Library Shared

def EventType.ofCredential : EventType → Bool
  | .enrollment | .recovery | .credentialGeneration | .credentialPromotion | .credentialRollback
  | .credentialRevocation | .credentialExpiration => true
  | _ => false

section Authenticating

variable {P : Primitives} {params : RotationParams} {clock : ℕ → ℤ} {db : Database} {auth : Authenticator}
  {env : Envelope} {now : ℤ}

variable (P params clock db auth env now) in
lemma audit_cases (log : AuditLog) :
    (∃ events exc, auth.audit P params clock db env now log = log ++ events ∧
      (auth.authenticate P params db env now).1 = .error exc ∧
      ∀ event ∈ events, event.result = "DENY" ∧
        (event.eventType = .authFailure ∨ event.eventType = .replayRejection)) ∨
    ∃ event, auth.audit P params clock db env now log = log ++ [event] ∧
      (event.eventType = .authSuccess ∧ event.result = "OK" ∧ event.identityUuid = some env.senderUuid ∧
        event.credentialVersion = some env.senderCredentialVersion) ∧
      timestampOk env.timestamp now = true ∧ env.replayKey ∉ auth.replay.entries ∧
      ∃ cred, db.credentialForAuth params env.senderUuid env.senderCredentialVersion now = .ok (some cred) ∧
        cred.status.authenticating = true ∧ env.verify P cred.ed25519Public = .ok () := by
  rw [Authenticator.audit, Authenticator.authenticate, ReplayCache.checkAndAdd]
  by_cases hwindow : timestampOk env.timestamp now = false
  · rw [if_pos hwindow, if_pos hwindow]
    exact Or.inl ⟨[_], _, rfl, rfl, by simp⟩
  rw [if_neg hwindow, if_neg hwindow]
  cases hfresh : decide (env.replayKey ∉ auth.replay.entries) with
  | false => exact Or.inl ⟨[_], _, rfl, rfl, by simp⟩
  | true =>
    simp only [Authenticator.auditCredential, Authenticator.checkCredential]
    cases hcred : db.credentialForAuth params env.senderUuid env.senderCredentialVersion now with
    | error exc =>
      obtain ⟨code, message, rfl⟩ : ∃ code message, exc = .registryError code message :=
        ⟨_, _, Database.credentialForAuth_error hcred⟩
      exact Or.inl ⟨[_], _, rfl, rfl, by simp⟩
    | ok found =>
      cases found with
      | none => exact Or.inl ⟨[_], _, rfl, rfl, by simp⟩
      | some cred =>
        dsimp only
        by_cases hstatus : cred.status.authenticating = false
        · rw [if_pos hstatus, if_pos hstatus]
          exact Or.inl ⟨[_], _, rfl, rfl, by simp⟩
        rw [if_neg hstatus, if_neg hstatus]
        cases hverify : env.verify P cred.ed25519Public with
        | ok =>
          refine Or.inr ⟨_, rfl, ⟨rfl, rfl, rfl, rfl⟩, by simpa using hwindow, of_decide_eq_true hfresh,
            cred, rfl, by simpa using hstatus, hverify⟩
        | error exc =>
          rcases Envelope.verify_error hverify with rfl | ⟨message, rfl⟩ | ⟨message, rfl⟩
          · exact Or.inl ⟨[], _, (List.append_nil _).symm, rfl, by simp⟩
          · exact Or.inl ⟨[], _, (List.append_nil _).symm, rfl, by simp⟩
          · exact Or.inl ⟨[_], _, rfl, rfl, by simp⟩

end Authenticating

section Actions

variable {P : Primitives} {params : RotationParams} {clock : ℕ → ℤ} {db : Database} {I : Uuid}

variable (clock I) in
lemma audited_cases {α : Type} (r : AuditedRegistry) (result : Outcome Database α) (eventType : EventType)
    (version : α → Option ℤ) :
    (∃ exc, result.1 = .error exc) ∧
      (r.audited result fun a r => r.record clock eventType (some I) (version a)).2.auditEvents = r.auditEvents ∨
    ∃ event, (r.audited result fun a r => r.record clock eventType (some I) (version a)).2.auditEvents =
        r.auditEvents ++ [event] ∧
      event.identityUuid = some I ∧ event.result = "OK" ∧ event.eventType = eventType := by
  obtain ⟨_ | a, db⟩ := result
  · exact Or.inl ⟨⟨_, rfl⟩, rfl⟩
  · exact Or.inr ⟨_, rfl, rfl, rfl, rfl⟩

structure Tells (I : Uuid) (db db' : Database) (events : List AuditEvent) : Prop where
  rows : ∀ event ∈ events, event.identityUuid = some I ∧ event.result = "OK" ∧
    (event.eventType.ofCredential = true ∨ event.eventType = .registrySync)
  changes : db' = db ∨ ∃ event ∈ events, event.eventType.ofCredential = true

lemma Tells.nothing (I : Uuid) (db : Database) : Tells I db db [] := ⟨by simp, Or.inl rfl⟩

variable (P params clock db I) in
lemma tells_of_call {α : Type} (c : Call) (f : List CredentialPublic → Database → α) (eventType : EventType)
    (version : α → Option ℤ) (hcredential : eventType.ofCredential = true) (log : AuditLog) :
    ∃ events, ((⟨db, log⟩ : AuditedRegistry).audited ((db.call P params I c).map f) fun a r =>
        r.record clock eventType (some I) (version a)).2.auditEvents = log ++ events ∧
      Tells I db (db.call P params I c).2 events := by
  rcases audited_cases clock I ⟨db, log⟩ ((db.call P params I c).map f) eventType version with
    ⟨⟨exc, hrefused⟩, hlog⟩ | ⟨event, hlog, hidentity, hresult, htype⟩
  · refine ⟨[], hlog.trans (List.append_nil _).symm, ?_⟩
    rcases Database.call_cases P params db I c with ⟨exc', he⟩ | ⟨_, changed, _, _, _, he⟩
    · rw [he]
      exact .nothing I db
    · rw [he] at hrefused
      cases hrefused
  · refine ⟨[event], hlog, ?_, Or.inr ⟨event, by simp, by rw [htype, hcredential]⟩⟩
    intro event' hevent
    obtain rfl := List.mem_singleton.mp hevent
    exact ⟨hidentity, hresult, Or.inl (by rw [htype, hcredential])⟩

lemma bind_db {α β : Type} (result : Outcome Database α) (f : α → Except Exn β) :
    (result.bind fun a db => (f a, db)).2 = result.2 := by
  obtain ⟨_ | a, db⟩ := result <;> rfl

variable (P params clock db) in
lemma auditAction_cases (action : Action) (env : Envelope) (inner : Bytes) (now : ℤ) (log : AuditLog) :
    ∃ events, db.auditAction P params clock action env inner now log = log ++ events ∧
      Tells env.senderUuid db (db.handleAction P params action env.senderUuid inner now).2 events := by
  cases action with
  | registrySync =>
    change ∃ events, Database.auditRegistrySync clock env inner log = log ++ events ∧ Tells _ db db events
    rw [Database.auditRegistrySync]
    cases Database.syncKind inner with
    | error exc => exact ⟨[], (List.append_nil _).symm, .nothing _ db⟩
    | ok kind => exact ⟨[_], rfl, by simp, Or.inl rfl⟩
  | rotateSubmit =>
    change ∃ events, db.auditRotateSubmit P params clock env.senderUuid inner now log = log ++ events ∧
      Tells _ db (db.handleRotateSubmit P params env.senderUuid inner now).2 events
    unfold Database.auditRotateSubmit Database.handleRotateSubmit
    cases parseSuccessorPayload (Database.payloadPart inner) with
    | error exc => exact ⟨[], (List.append_nil _).symm, .nothing _ db⟩
    | ok p =>
      dsimp only
      split_ifs with hidentity
      · exact ⟨[], (List.append_nil _).symm, .nothing _ db⟩
      · rw [bind_db, AuditedRegistry.submitSuccessor, Database.submitSuccessor, Outcome.map_snd]
        exact tells_of_call P params clock db env.senderUuid _ _ .credentialGeneration _ rfl log
  | rotateCheckpoint =>
    change ∃ events, _ = log ++ events ∧
      Tells _ db (db.handleRotateCheckpoint P params env.senderUuid now).2 events
    have htold := tells_of_call P params clock db env.senderUuid (.checkpoint now) (fun changed _ => changed)
      .credentialPromotion (fun changed => changed.getLast?.map (·.version)) rfl log
    rw [Outcome.map_id] at htold
    rw [Database.handleRotateCheckpoint, bind_db]
    exact htold
  | rotateRollback =>
    change ∃ events, _ = log ++ events ∧
      Tells _ db (db.handleRotateRollback P params env.senderUuid now).2 events
    rw [Database.handleRotateRollback, bind_db, Database.rollback, Outcome.map_snd]
    exact tells_of_call P params clock db env.senderUuid _ _ .credentialRollback _ rfl log
  | rotateRevoke =>
    change ∃ events, db.auditRotateRevoke P params clock env.senderUuid inner now log = log ++ events ∧
      Tells _ db (db.handleRotateRevoke P params env.senderUuid inner now).2 events
    rw [Database.auditRotateRevoke, Database.handleRotateRevoke]
    cases Decoder.parse inner Decoder.u32 with
    | error exc => exact ⟨[], (List.append_nil _).symm, .nothing _ db⟩
    | ok version =>
      dsimp only
      rw [bind_db, AuditedRegistry.revoke, Database.revoke, Outcome.map_snd]
      exact tells_of_call P params clock db env.senderUuid _ _ .credentialRevocation _ rfl log

end Actions

end Secupload.Server

namespace Secupload.System

open Library Shared Client Server
open Server.Database (hashToken)
open ObjectStore (SameFor)

structure AuditedServer where
  conn : Connection
  auditEvents : AuditLog

section Methods

variable (P : Primitives) (scfg : ServerConfig) (clock : ℕ → ℤ)

-- a token is issued through the admin API
def auditServe (conn : Connection) (log : AuditLog) : ServerEvent → AuditLog
  | .issue token purpose kind ttl identityUuid now time =>
    match (conn.state.db.issueToken P token purpose kind ttl identityUuid now time).1 with
    | .error _ => log
    | .ok _ => log.record clock .enrollment none none "ADMIN"
  | .frame frame d => conn.auditFrame P scfg clock d frame log
  | .rotate fresh successor now => conn.state.auditTick P scfg clock fresh successor now log

def AuditedServer.serve (a : AuditedServer) (e : ServerEvent) : AuditedServer :=
  ⟨System.serve P scfg a.conn e, auditServe P scfg clock a.conn a.auditEvents e⟩

end Methods

def Carries (frame : Frame) (env : Envelope) : Prop :=
  frame.channel = channelRelay ∧ parseEnvelope frame.payload = .ok env ∨
    frame.channel = channelControl ∧ ∃ msg action, parseControl frame.payload = .ok msg ∧
      Action.ofCode? msg.ctype = some action ∧ parseEnvelope msg.body = .ok env

section Accounts

variable (P : Primitives) (scfg : ServerConfig) (conn conn' : Connection)

-- an ENROLL with a valid token that the registry refuses once the token is used up
def Aborted : ServerEvent → Prop
  | .frame frame d => frame.channel = channelControl ∧ ∃ msg b kind row, parseControl frame.payload = .ok msg ∧
      msg.ctype = ControlType.enroll.code ∧ parseEnrollmentBody msg.body = .ok b ∧
      kindFromCode b.identityKind = .ok kind ∧ conn.state.db.tokens.get? (hashToken P b.token) = some row ∧
      conn.state.db.Admits (Tunnel2Server.tokenIdentity P b.token kind) kind (intOr (some d.now) d.time) row ∧
      conn.state.db.RefusedLate (Tunnel2Server.tokenIdentity P b.token kind) b.version row
  | _ => False

structure Recorded (events : List AuditEvent) : Prop where
  rows : ∀ J, rowsOf J conn' ≠ rowsOf J conn →
    ∃ event ∈ events, event.identityUuid = some J ∧ event.eventType.ofCredential = true
  tokens : ∀ k, conn'.state.db.tokens.get? k ≠ conn.state.db.tokens.get? k →
    ∃ event ∈ events, event.eventType = .enrollment ∨ event.eventType = .recovery
  objects : ∀ o, keptOf o conn' ≠ keptOf o conn → ∃ success access rest I, events = success :: access :: rest ∧
    success.eventType = .authSuccess ∧ success.identityUuid = some I ∧ access.eventType = .objectAccess ∧
    (access.identityUuid = some I ∨ access.identityUuid = some o) ∧ Allowed conn.permissions I o "WRITE"

structure Vouches (frame : Frame) (d : Server.Draw) (env : Envelope) (event : AuditEvent) : Prop where
  carried : Carries frame env
  eventType : event.eventType = .authSuccess
  result : event.result = "OK"
  sender : event.identityUuid = some env.senderUuid
  version : event.credentialVersion = some env.senderCredentialVersion
  timely : timestampOk env.timestamp d.authNow = true
  fresh : env.replayKey ∉ conn.auth.replay.entries
  signed : ∃ cred, conn.state.db.credentialForAuth scfg.params env.senderUuid env.senderCredentialVersion
    d.authNow = .ok (some cred) ∧ cred.status.authenticating = true ∧ env.verify P cred.ed25519Public = .ok ()

structure Truthful (e : ServerEvent) (events : List AuditEvent) : Prop where
  success : ∀ event ∈ events, event.eventType = .authSuccess →
    ∃ frame d env, e = .frame frame d ∧ Vouches P scfg conn frame d env event
  denial : ∀ event ∈ events, event.result = "DENY" →
    conn'.state.db = conn.state.db ∧ conn'.objects = conn.objects
  access : ∀ event ∈ events, event.eventType = .objectAccess → ∃ frame d env o operation, e = .frame frame d ∧
    Carries frame env ∧ Genuine P scfg conn.toTunnel2Server d env ∧
    Allowed conn.permissions env.senderUuid o operation ∧
    (event.identityUuid = some env.senderUuid ∨ event.identityUuid = some o)
  credential : ∀ event ∈ events, ∀ J, event.eventType.ofCredential = true → event.identityUuid = some J →
    RowsAuthorized P scfg conn J e

inductive Audits : ServerEvent → List AuditEvent → Prop
  | refused {e : ServerEvent} {events : List AuditEvent}
      (hevents : ∀ event ∈ events, event.result = "DENY" ∧
        (event.eventType = .authFailure ∨ event.eventType = .replayRejection))
      (hdb : conn'.state.db = conn.state.db) (hobjects : conn'.objects = conn.objects) : Audits e events
  | aborted {e : ServerEvent} (h : Aborted P conn e) (hobjects : conn'.objects = conn.objects) : Audits e []
  | told {e : ServerEvent} {events : List AuditEvent} (I : Option Uuid) (hsome : events ≠ [])
      (hevents : ∀ event ∈ events, event.identityUuid = I ∧ event.result = "OK" ∧
        event.eventType.ofCredential = true)
      (hauthorized : ∀ J, I = some J → RowsAuthorized P scfg conn J e)
      (hrows : ∀ J, I ≠ some J → rowsOf J conn' = rowsOf J conn)
      (htokens : conn'.state.db.tokens = conn.state.db.tokens ∨
        ∃ event ∈ events, event.eventType = .enrollment ∨ event.eventType = .recovery)
      (hobjects : conn'.objects = conn.objects) : Audits e events
  | acted {frame : Frame} {d : Server.Draw} {env : Envelope} {success : AuditEvent} {events : List AuditEvent}
      (hsuccess : Vouches P scfg conn frame d env success)
      (hevents : Tells env.senderUuid conn.state.db conn'.state.db events)
      (hauthorized : events ≠ [] → RowsAuthorized P scfg conn env.senderUuid (.frame frame d))
      (hrows : ∀ J, J ≠ env.senderUuid → rowsOf J conn' = rowsOf J conn)
      (htokens : conn'.state.db.tokens = conn.state.db.tokens)
      (hobjects : conn'.objects = conn.objects) : Audits (.frame frame d) (success :: events)
  | accessed {frame : Frame} {d : Server.Draw} {env : Envelope} {success : AuditEvent}
      {events : List AuditEvent} (hsuccess : Vouches P scfg conn frame d env success)
      (hevents : ∀ event ∈ events, event.eventType = .objectAccess ∧ event.result = "OK" ∧
        ∃ o operation, Allowed conn.permissions env.senderUuid o operation ∧
          (event.identityUuid = some env.senderUuid ∨ event.identityUuid = some o))
      (hgenuine : events ≠ [] → Genuine P scfg conn.toTunnel2Server d env)
      (hdb : conn'.state.db = conn.state.db)
      (hchanged : ∀ o, keptOf o conn' ≠ keptOf o conn → ∃ access rest, events = access :: rest ∧
        (access.identityUuid = some env.senderUuid ∨ access.identityUuid = some o) ∧
        Allowed conn.permissions env.senderUuid o "WRITE") : Audits (.frame frame d) (success :: events)

end Accounts

section Audits

variable {P : Primitives} {scfg : ServerConfig} {conn conn' : Connection} {e : ServerEvent}
  {events : List AuditEvent}

lemma rowsOf_of_db (h : conn'.state.db = conn.state.db) (J : Uuid) : rowsOf J conn' = rowsOf J conn := by
  rw [rowsOf, rowsOf, h]

lemma keptOf_of_objects (h : conn'.objects = conn.objects) (o : Uuid) : keptOf o conn' = keptOf o conn := by
  rw [keptOf, keptOf, h]

lemma Audits.recorded (h : Audits P scfg conn conn' e events) (hnot : ¬ Aborted P conn e) :
    Recorded conn conn' events := by
  cases h with
  | refused hevents hdb hobjects =>
    refine ⟨fun J hJ => (hJ (rowsOf_of_db hdb J)).elim, fun k hk => (hk ?_).elim,
      fun o ho => (ho (keptOf_of_objects hobjects o)).elim⟩
    rw [hdb]
  | aborted haborted => exact (hnot haborted).elim
  | told I hsome hevents _ hrows htokens hobjects =>
    refine ⟨fun J hJ => ?_, fun k hk => ?_, fun o ho => (ho (keptOf_of_objects hobjects o)).elim⟩
    · have hI : I = some J := by
        by_contra hne
        exact hJ (hrows J hne)
      obtain ⟨event, hevent⟩ := List.exists_mem_of_ne_nil events hsome
      obtain ⟨hidentity, _, htype⟩ := hevents event hevent
      exact ⟨event, hevent, hidentity.trans hI, htype⟩
    · rcases htokens with hsame | hevent
      · exact (hk (by rw [hsame])).elim
      · exact hevent
  | acted hsuccess htold _ hrows htokens hobjects =>
    refine ⟨fun J hJ => ?_, fun k hk => (hk (by rw [htokens])).elim,
      fun o ho => (ho (keptOf_of_objects hobjects o)).elim⟩
    rcases htold.changes with hdb | ⟨event, hevent, htype⟩
    · exact (hJ (rowsOf_of_db hdb J)).elim
    · have hsender : J = _ := not_not.mp fun hne => hJ (hrows J hne)
      exact ⟨event, List.mem_cons_of_mem _ hevent, hsender ▸ (htold.rows event hevent).1, htype⟩
  | @accessed _ _ env success events hsuccess hevents _ hdb hchanged =>
    refine ⟨fun J hJ => (hJ (rowsOf_of_db hdb J)).elim, fun k hk => (hk ?_).elim, fun o ho => ?_⟩
    · rw [hdb]
    · obtain ⟨access, rest, rfl, hidentity, hallowed⟩ := hchanged o ho
      exact ⟨success, access, rest, env.senderUuid, rfl, hsuccess.eventType, hsuccess.sender,
        (hevents access List.mem_cons_self).1, hidentity, hallowed⟩

lemma Audits.truthful (h : Audits P scfg conn conn' e events) : Truthful P scfg conn conn' e events := by
  cases h with
  | refused hevents hdb hobjects =>
    refine ⟨fun event hevent htype => ?_, fun _ _ _ => ⟨hdb, hobjects⟩, fun event hevent htype => ?_,
      fun event hevent J htype => ?_⟩ <;>
    obtain ⟨_, htype' | htype'⟩ := hevents event hevent <;> rw [htype'] at htype <;> cases htype
  | aborted => constructor <;> simp
  | told I hsome hevents hauthorized =>
    refine ⟨fun event hevent htype => ?_, fun event hevent hresult => ?_, fun event hevent htype => ?_,
      fun event hevent J _ hJ => ?_⟩ <;> obtain ⟨hidentity, hresult', htype'⟩ := hevents event hevent
    · rw [htype] at htype'
      cases htype'
    · rw [hresult'] at hresult
      exact absurd hresult (by decide)
    · rw [htype] at htype'
      cases htype'
    · exact hauthorized J (hidentity.symm.trans hJ)
  | @acted frame d env success events hsuccess htold hauthorized =>
    refine ⟨fun event hevent htype => ?_, fun event hevent hresult => ?_, fun event hevent htype => ?_,
      fun event hevent J htype hJ => ?_⟩ <;> rcases List.mem_cons.mp hevent with rfl | hevent
    · exact ⟨frame, d, env, rfl, hsuccess⟩
    · obtain ⟨_, _, htype' | htype'⟩ := htold.rows event hevent <;> rw [htype] at htype' <;> cases htype'
    · rw [hsuccess.result] at hresult
      exact absurd hresult (by decide)
    · rw [(htold.rows event hevent).2.1] at hresult
      exact absurd hresult (by decide)
    · rw [hsuccess.eventType] at htype
      cases htype
    · obtain ⟨_, _, htype' | htype'⟩ := htold.rows event hevent <;> rw [htype] at htype' <;> cases htype'
    · rw [hsuccess.eventType] at htype
      cases htype
    · obtain rfl := Option.some.inj ((htold.rows event hevent).1.symm.trans hJ)
      exact hauthorized (List.ne_nil_of_mem hevent)
  | @accessed frame d env success events hsuccess hevents hgenuine =>
    refine ⟨fun event hevent htype => ?_, fun event hevent hresult => ?_, fun event hevent htype => ?_,
      fun event hevent J htype hJ => ?_⟩ <;> rcases List.mem_cons.mp hevent with rfl | hevent
    · exact ⟨frame, d, env, rfl, hsuccess⟩
    · rw [(hevents event hevent).1] at htype
      cases htype
    · rw [hsuccess.result] at hresult
      exact absurd hresult (by decide)
    · rw [(hevents event hevent).2.1] at hresult
      exact absurd hresult (by decide)
    · rw [hsuccess.eventType] at htype
      cases htype
    · obtain ⟨_, _, o, operation, hallowed, hidentity⟩ := hevents event hevent
      exact ⟨frame, d, env, o, operation, rfl, hsuccess.carried, hgenuine (List.ne_nil_of_mem hevent), hallowed,
        hidentity⟩
    · rw [hsuccess.eventType] at htype
      cases htype
    · rw [(hevents event hevent).1] at htype
      cases htype

end Audits

section Enrolling

variable {P : Primitives} {scfg : ServerConfig} {clock : ℕ → ℤ} {conn : Connection} {d : Server.Draw}

lemma enroll_audits {frame : Frame} {msg : ControlMessage} (hchannel : frame.channel = channelControl)
    (hmsg : parseControl frame.payload = .ok msg) (hctype : msg.ctype = ControlType.enroll.code)
    (log : AuditLog) :
    ∃ events, conn.toTunnel2Server.auditEnroll P scfg clock d msg.body log = log ++ events ∧
      Audits P scfg conn { conn with
        toTunnel2Server := (conn.toTunnel2Server.handleEnroll P scfg d msg.body).2 } (.frame frame d) events := by
  rw [Tunnel2Server.auditEnroll, Tunnel2Server.handleEnroll]
  cases hb : parseEnrollmentBody msg.body with
  | error exc => exact ⟨[], (List.append_nil _).symm, .refused (by simp) rfl rfl⟩
  | ok b =>
    simp only [except_ok_bind]
    cases hkind : kindFromCode b.identityKind with
    | error exc => exact ⟨[], (List.append_nil _).symm, .refused (by simp) rfl rfl⟩
    | ok kind =>
      simp only [except_ok_bind, pure, Except.pure, AuditedRegistry.enroll]
      rcases Server.Database.enroll_cases P scfg.params conn.state.db (Tunnel2Server.tokenIdentity P b.token kind)
        kind b.token b.version b.ed25519Public b.x25519Public (some d.now) d.time with
        ⟨_, code, message, he⟩ |
        ⟨row, db', hrow, hadmits, hr, ⟨hlate, code, message, he⟩ | ⟨_, final, he, _⟩⟩
      · rw [he]
        exact ⟨[], (List.append_nil _).symm, .refused (by simp) rfl rfl⟩
      · rw [he]
        exact ⟨[], (List.append_nil _).symm, .aborted ⟨hchannel, msg, b, kind, row, hmsg, hctype, hb, hkind, hrow,
          hadmits, hlate⟩ rfl⟩
      · have honly := Server.Database.enroll_only P scfg.params conn.state.db
          (Tunnel2Server.tokenIdentity P b.token kind) kind b.token b.version b.ed25519Public b.x25519Public
          (some d.now) d.time
        rw [he] at honly ⊢
        refine ⟨[_], rfl, .told (some (Tunnel2Server.tokenIdentity P b.token kind)) (by simp) ?_ ?_ ?_ ?_ rfl⟩
        · intro event hevent
          obtain rfl := List.mem_singleton.mp hevent
          refine ⟨rfl, rfl, ?_⟩
          dsimp only
          split_ifs <;> rfl
        · rintro J hJ
          obtain rfl := Option.some.inj hJ
          exact ⟨hchannel, msg, hmsg, Or.inl ⟨hctype, b, kind, row, hb, hkind, rfl, hrow, hadmits⟩⟩
        · intro J hJ
          have hJ' : J ≠ Tunnel2Server.tokenIdentity P b.token kind := fun he => hJ (congrArg some he.symm)
          exact Prod.ext (funext (honly.credentials J hJ')) (Prod.ext (honly.clients J hJ') (honly.proxies J hJ'))
        · refine Or.inr ⟨_, List.mem_singleton_self _, ?_⟩
          dsimp only
          split_ifs
          · exact Or.inl rfl
          · exact Or.inr rfl

end Enrolling

section Acting

variable {P : Primitives} {scfg : ServerConfig} {clock : ℕ → ℤ} {conn : Connection} {d : Server.Draw}

lemma Audits.unheard {frame : Frame} {env : Envelope} {success : AuditEvent} {conn' : Connection}
    (hsuccess : Vouches P scfg conn frame d env success) (hdb : conn'.state.db = conn.state.db)
    (hobjects : conn'.objects = conn.objects) : Audits P scfg conn conn' (.frame frame d) [success] :=
  .acted hsuccess ⟨by simp, Or.inl hdb⟩ (fun h => (h rfl).elim) (fun J _ => rowsOf_of_db hdb J) (by rw [hdb]) hobjects

lemma authenticated_audits {frame : Frame} {msg : ControlMessage} {action : Action}
    (hchannel : frame.channel = channelControl) (hmsg : parseControl frame.payload = .ok msg)
    (haction : Action.ofCode? msg.ctype = some action) (log : AuditLog) :
    ∃ events, conn.toTunnel2Server.auditAuthenticated P scfg clock d action msg.body log = log ++ events ∧
      Audits P scfg conn { conn with
        toTunnel2Server := (conn.toTunnel2Server.handleAuthenticated P scfg d action msg.body).2 }
        (.frame frame d) events := by
  rw [Tunnel2Server.auditAuthenticated, Tunnel2Server.handleAuthenticated, Tunnel2Server.receive]
  cases hparse : parseEnvelope msg.body with
  | error exc => exact ⟨[], (List.append_nil _).symm, .refused (by simp) rfl rfl⟩
  | ok env =>
    have hcarries : Carries frame env := Or.inr ⟨hchannel, msg, action, hmsg, haction, hparse⟩
    dsimp only
    rcases audit_cases P scfg.params clock conn.state.db conn.auth env d.authNow log with
      ⟨events, exc, hlog, hrefused, hevents⟩ |
      ⟨success, hlog, ⟨htype, hresult, hsender, hversion⟩, htimely, hfresh, hsigned⟩
    · rw [hlog]
      generalize conn.auth.authenticate P scfg.params conn.state.db env d.authNow = authenticated at hrefused
      obtain ⟨_, auth⟩ := authenticated
      obtain rfl := hrefused
      exact ⟨events, rfl, .refused hevents rfl rfl⟩
    · have hsuccess : Vouches P scfg conn frame d env success :=
        ⟨hcarries, htype, hresult, hsender, hversion, htimely, hfresh, hsigned⟩
      rw [hlog]
      rcases hauth : conn.auth.authenticate P scfg.params conn.state.db env d.authNow with ⟨exc | r, auth⟩
      · exact ⟨[success], rfl, .unheard hsuccess rfl rfl⟩
      · have hgenuine : Genuine P scfg conn.toTunnel2Server d env :=
          genuine_of_authenticate (congrArg Prod.fst hauth)
        dsimp only
        cases hopen : conn.state.openControl P env with
        | error exc => exact ⟨[success], rfl, .unheard hsuccess rfl rfl⟩
        | ok inner =>
          obtain ⟨events, haudit, htells⟩ := auditAction_cases P scfg.params clock conn.state.db action env inner
            d.now (log ++ [success])
          have htouches := Server.Database.handleAction_touches P scfg.params conn.state.db action env.senderUuid
            inner d.now
          refine ⟨success :: events, haudit.trans (by simp), .acted hsuccess htells (fun _ => ?_) (fun J hJ => ?_)
            htouches.tokens rfl⟩
          · exact ⟨hchannel, msg, hmsg, Or.inr ⟨action, env, haction, hparse, rfl, hgenuine⟩⟩
          · exact Prod.ext (funext (htouches.others J hJ)) (Prod.ext
              (congrArg (fun t : Table IdentityRow.uuid => t.get? J) htouches.clients)
              (congrArg (fun t : Table IdentityRow.uuid => t.get? J) htouches.proxies))

lemma control_audits {frame : Frame} (hchannel : frame.channel = channelControl) (log : AuditLog) :
    ∃ events, conn.toTunnel2Server.auditControl P scfg clock d frame.payload log = log ++ events ∧
      Audits P scfg conn { conn with
        toTunnel2Server := (conn.toTunnel2Server.handleControl P scfg d frame.payload).2 }
        (.frame frame d) events := by
  rw [Tunnel2Server.auditControl, handleControl_state, Tunnel2Server.perform]
  cases hmsg : parseControl frame.payload with
  | error exc => exact ⟨[], (List.append_nil _).symm, .refused (by simp) rfl rfl⟩
  | ok msg =>
    dsimp only
    by_cases hctype : msg.ctype = ControlType.enroll.code
    · rw [if_pos hctype, if_pos hctype]
      exact enroll_audits hchannel hmsg hctype log
    · rw [if_neg hctype, if_neg hctype]
      cases haction : Action.ofCode? msg.ctype with
      | none => exact ⟨[], (List.append_nil _).symm, .refused (by simp) rfl rfl⟩
      | some action => exact authenticated_audits hchannel hmsg haction log

end Acting

section Accessing

variable {P : Primitives} {scfg : ServerConfig} {clock : ℕ → ℤ} {conn : Connection} {env : Envelope}

structure Accesses (conn conn' : Connection) (env : Envelope) (events : List AuditEvent) : Prop where
  rows : ∀ event ∈ events, event.eventType = .objectAccess ∧ event.result = "OK" ∧
    ∃ o operation, Allowed conn.permissions env.senderUuid o operation ∧
      (event.identityUuid = some env.senderUuid ∨ event.identityUuid = some o)
  changed : ∀ o, keptOf o conn' ≠ keptOf o conn → ∃ access rest, events = access :: rest ∧
    (access.identityUuid = some env.senderUuid ∨ access.identityUuid = some o) ∧
    Allowed conn.permissions env.senderUuid o "WRITE"

lemma Accesses.nothing {conn' : Connection} (h : conn'.objects = conn.objects) : Accesses conn conn' env [] :=
  ⟨by simp, fun o ho => (ho (keptOf_of_objects h o)).elim⟩

lemma Accesses.read {conn' : Connection} {o : Uuid} {operation : String} {event : AuditEvent}
    (hallowed : Allowed conn.permissions env.senderUuid o operation) (htype : event.eventType = .objectAccess)
    (hresult : event.result = "OK") (hidentity : event.identityUuid = some env.senderUuid)
    (h : conn'.objects = conn.objects) : Accesses conn conn' env [event] := by
  refine ⟨fun event' hevent => ?_, fun o ho => (ho (keptOf_of_objects h o)).elim⟩
  obtain rfl := List.mem_singleton.mp hevent
  exact ⟨htype, hresult, o, operation, hallowed, Or.inl hidentity⟩

lemma writeChunk_refused {st : ObjectStore} {o : Uuid} {chunkIndex : ℤ} {data : Bytes} {exc : Exn}
    (h : (st.writeChunk o chunkIndex data).1 = .error exc) : (st.writeChunk o chunkIndex data).2 = st := by
  rw [ObjectStore.writeChunk] at h ⊢
  split at h
  · rfl
  · split_ifs at h ⊢ with hfinalized
    · rfl

lemma create_refused {st : ObjectStore} {o : Uuid} {fileType : String} {fileSize : ℤ} {metadata : String} {exc : Exn}
    (h : (st.create o fileType fileSize metadata).1 = .error exc) :
    (st.create o fileType fileSize metadata).2 = st := by
  rw [ObjectStore.create] at h ⊢
  split_ifs at h ⊢
  · rfl
  · rfl
  · have hcreated := (ObjectStore.info_set rfl).symm.trans h
    cases hcreated

lemma Accesses.write {o : Uuid} {st : ObjectStore} {access : AuditEvent} {rest : List AuditEvent}
    (hallowed : Allowed conn.permissions env.senderUuid o "WRITE")
    (hrows : ∀ event ∈ access :: rest, event.eventType = .objectAccess ∧ event.result = "OK" ∧
      (event.identityUuid = some env.senderUuid ∨ event.identityUuid = some o))
    (hother : ∀ o', o' ≠ o → SameFor o' conn.objects st) :
    Accesses conn (conn.withObjects st) env (access :: rest) := by
  refine ⟨fun event hevent => ?_, fun o' ho' => ?_⟩
  · obtain ⟨htype, hresult, hidentity⟩ := hrows event hevent
    exact ⟨htype, hresult, o, "WRITE", hallowed, hidentity⟩
  · obtain rfl : o' = o := not_not.mp fun hne => ho' (keptOf_eq (hother o' hne))
    exact ⟨access, rest, rfl, (hrows access List.mem_cons_self).2.2, hallowed⟩

variable (P clock) in
lemma objChunk_accesses (conn : Connection) (env : Envelope) (log : AuditLog) :
    ∃ events, conn.auditObjChunk P clock env log = log ++ events ∧
      Accesses conn (conn.handleObjChunk P env).2 env events := by
  rw [Connection.auditObjChunk, Connection.handleObjChunk]
  cases haccepted : conn.acceptedChunk P env with
  | error exc => exact ⟨[], (List.append_nil _).symm, .nothing rfl⟩
  | ok accepted =>
    obtain ⟨o, chunkIndex, data⟩ := accepted
    obtain ⟨r, _, hchecked⟩ := except_bind_eq_ok.mp haccepted
    obtain ⟨_, hpermitted, hsame⟩ := except_bind_eq_ok.mp hchecked
    obtain rfl : r = (o, chunkIndex, data) := Except.ok.inj hsame
    have hallowed : Allowed conn.permissions env.senderUuid o "WRITE" := checkPermission_eq_ok.mp hpermitted
    have hother := (Connection.local_storeChunk P conn o chunkIndex data).other conn.objects
    dsimp only
    cases hwrite : (conn.objects.writeChunk o chunkIndex data).1 with
    | error exc =>
      refine ⟨[], (List.append_nil _).symm, .nothing ?_⟩
      rw [Connection.storeChunk, Outcome.bind, hwrite]
      exact writeChunk_refused hwrite
    | ok =>
      dsimp only
      cases (conn.storeChunk P o chunkIndex data).1 with
      | error exc => exact ⟨[_], rfl, .write hallowed (by simp) hother⟩
      | ok info => exact ⟨[_, _], List.append_assoc _ _ _, .write hallowed (by simp) hother⟩

variable (scfg clock) in
lemma answer_accesses (conn : Connection) (env : Envelope) (request : RequestMessage) (log : AuditLog) :
    ∃ events, conn.auditAnswer scfg clock env request log = log ++ events ∧
      Accesses conn (conn.answer scfg env request).2 env events := by
  rw [Connection.auditAnswer, Connection.answer]
  split_ifs
  · rw [Connection.auditWrite, Connection.handleWrite]
    cases hrequested : conn.requestedObject "WRITE" request.objectUuid env "WRITE" with
    | error exc => exact ⟨[], (List.append_nil _).symm, .nothing rfl⟩
    | ok o =>
      have hallowed := requestedObject_allowed hrequested
      dsimp only
      cases hcreate : (conn.objects.create o request.fileType request.fileSize request.metadata).1 with
      | error exc => exact ⟨[], (List.append_nil _).symm, .nothing (create_refused hcreate)⟩
      | ok info =>
        refine ⟨[_, _], List.append_assoc _ _ _, .write hallowed (by simp) fun o' hne => ?_⟩
        exact (ObjectStore.local_create o request.fileType request.fileSize request.metadata).other conn.objects o' hne
  · rw [Connection.auditRead]
    cases hrequested : conn.requestedObject "READ" request.objectUuid env "READ" with
    | error exc => exact ⟨[], (List.append_nil _).symm, .nothing rfl⟩
    | ok o =>
      dsimp only
      cases conn.objects.info o with
      | error exc => exact ⟨[], (List.append_nil _).symm, .nothing rfl⟩
      | ok info => exact ⟨[_], rfl, .read (requestedObject_allowed hrequested) rfl rfl rfl rfl⟩
  · rw [Connection.auditReadChunk]
    cases hread : conn.handleReadChunk scfg env request with
    | error exc => exact ⟨[], (List.append_nil _).symm, .nothing rfl⟩
    | ok response =>
      obtain ⟨o, hrequested, _⟩ := except_bind_eq_ok.mp hread
      exact ⟨[_], rfl, .read (requestedObject_allowed hrequested) rfl rfl rfl rfl⟩
  · exact ⟨[], (List.append_nil _).symm, .nothing rfl⟩

variable (P scfg clock) in
lemma dispatch_accesses (conn : Connection) (env : Envelope) (log : AuditLog) :
    ∃ events, conn.auditDispatch P scfg clock env log = log ++ events ∧
      Accesses conn (conn.dispatch P scfg env).2 env events := by
  rw [Connection.auditDispatch, Connection.dispatch]
  cases (do parseRequestMessage (← conn.state.openRequest P env) : Except Exn RequestMessage) with
  | error exc => exact ⟨[], (List.append_nil _).symm, .nothing rfl⟩
  | ok request => exact answer_accesses scfg clock conn env request log

end Accessing

section Relaying

variable {P : Primitives} {scfg : ServerConfig} {clock : ℕ → ℤ} {conn : Connection} {d : Server.Draw}

lemma relay_audits {frame : Frame} (hchannel : frame.channel = channelRelay) (log : AuditLog) :
    ∃ events, conn.auditRelay P scfg clock d frame.payload log = log ++ events ∧
      Audits P scfg conn (conn.handleRelay P scfg d frame.payload).2 (.frame frame d) events := by
  have hstate : (conn.handleRelay P scfg d frame.payload).2.state.db = conn.state.db :=
    congrArg ServerState.db (handleRelay_state frame.payload)
  rw [Connection.auditRelay]
  rw [Connection.handleRelay] at hstate ⊢
  cases hparse : parseEnvelope frame.payload with
  | error exc => exact ⟨[], (List.append_nil _).symm, .refused (by simp) rfl rfl⟩
  | ok env =>
    have hcarries : Carries frame env := Or.inl ⟨hchannel, hparse⟩
    rw [hparse] at hstate
    dsimp only at hstate ⊢
    rw [Connection.attempt] at hstate ⊢
    rcases audit_cases P scfg.params clock conn.state.db conn.auth env d.authNow log with
      ⟨events, exc, hlog, hrefused, hevents⟩ |
      ⟨success, hlog, ⟨htype, hresult, hsender, hversion⟩, htimely, hfresh, hsigned⟩
    · rw [hlog]
      generalize conn.auth.authenticate P scfg.params conn.state.db env d.authNow = authenticated at hrefused
      obtain ⟨_, auth⟩ := authenticated
      obtain rfl := hrefused
      exact ⟨events, rfl, .refused hevents rfl rfl⟩
    · have hsuccess : Vouches P scfg conn frame d env success :=
        ⟨hcarries, htype, hresult, hsender, hversion, htimely, hfresh, hsigned⟩
      rw [hlog]
      rcases hauth : conn.auth.authenticate P scfg.params conn.state.db env d.authNow with ⟨exc | r, auth⟩
      · exact ⟨[success], rfl, .unheard hsuccess rfl rfl⟩
      · have hgenuine : Genuine P scfg conn.toTunnel2Server d env :=
          genuine_of_authenticate (congrArg Prod.fst hauth)
        rw [hauth] at hstate
        dsimp only at hstate ⊢
        split_ifs at hstate ⊢
        · obtain ⟨events, haudit, haccesses⟩ :=
            objChunk_accesses P clock (conn.withAuth auth) env (log ++ [success])
          exact ⟨success :: events, haudit.trans (by simp),
            .accessed hsuccess haccesses.rows (fun _ => hgenuine) hstate haccesses.changed⟩
        · obtain ⟨events, haudit, haccesses⟩ :=
            dispatch_accesses P scfg clock (conn.withAuth auth) env (log ++ [success])
          exact ⟨success :: events, haudit.trans (by simp),
            .accessed hsuccess haccesses.rows (fun _ => hgenuine) hstate haccesses.changed⟩

variable (P scfg clock conn d) in
lemma frame_audits (frame : Frame) (log : AuditLog) :
    ∃ events, conn.auditFrame P scfg clock d frame log = log ++ events ∧
      Audits P scfg conn (conn.handleFrame P scfg d frame).2 (.frame frame d) events := by
  rw [Connection.auditFrame, Connection.handleFrame]
  split_ifs with hcontrol hrelay
  · exact control_audits hcontrol log
  · exact relay_audits hrelay log
  · exact ⟨[], (List.append_nil _).symm, .refused (by simp) rfl rfl⟩

end Relaying

section Ticking

open Server.ServerState (due promote_cases)

variable {P : Primitives} {scfg : ServerConfig} {clock : ℕ → ℤ} {s : ServerState} {k : PrivateKeys} {now : ℤ}

structure Rotated (scfg : ServerConfig) (db db' : Server.Database) (events : List AuditEvent) : Prop where
  rows : ∀ event ∈ events, event.identityUuid = some scfg.serverUuid ∧ event.result = "OK" ∧
    event.eventType.ofCredential = true
  changes : db' = db ∨ events ≠ []

lemma Rotated.nothing (db : Server.Database) : Rotated scfg db db [] := ⟨by simp, Or.inl rfl⟩

variable (scfg clock now s) in
lemma promote_audits (log : AuditLog) : ∃ events, s.auditPromote scfg clock now log = log ++ events ∧
    Rotated scfg s.db (s.promote now).2.db events := by
  rw [ServerState.auditPromote, ServerState.promote]
  cases s.identity.engine.validating with
  | none => exact ⟨[], (List.append_nil _).symm, .nothing _⟩
  | some v =>
    dsimp only
    split_ifs
    · exact ⟨[], (List.append_nil _).symm, .nothing _⟩
    · generalize s.identity.toHolder.checkpoint now = promoted
      obtain ⟨exc | changed, h⟩ := promoted
      · refine ⟨[], (List.append_nil _).symm, ?_⟩
        cases exc <;> exact .nothing _
      · exact ⟨[_], rfl, by simp [EventType.ofCredential], Or.inr (by simp)⟩

variable (P scfg clock s k now) in
lemma rotate_audits (log : AuditLog) : ∃ events, s.auditRotate P scfg clock k now log = log ++ events ∧
    Rotated scfg s.db (s.rotate P scfg k now).2.db events := by
  rw [ServerState.auditRotate, ServerState.rotate]
  cases s.identity.engine.active with
  | none => exact ⟨[], (List.append_nil _).symm, .nothing _⟩
  | some active =>
    dsimp only
    split_ifs
    · rw [ServerState.submitSuccessor]
      rcases Holder.generateSuccessor_cases P scfg.serverUuid s.identity.toHolder active k now with
        ⟨exc, he⟩ | ⟨signer, payload, _, _, _, he⟩
      · rw [he]
        refine ⟨[], (List.append_nil _).symm, ?_⟩
        cases exc <;> exact .nothing _
      · rw [he]
        obtain ⟨events, haudit, hrotated⟩ := promote_audits scfg clock _ now
          (log.record clock .credentialGeneration (some scfg.serverUuid) (some (active.version + 1)))
        refine ⟨_ :: events, haudit.trans (List.append_assoc _ _ _), fun event hevent => ?_, Or.inr (by simp)⟩
        rcases List.mem_cons.mp hevent with rfl | hevent
        · exact ⟨rfl, rfl, rfl⟩
        · exact hrotated.rows event hevent
    · exact promote_audits scfg clock s now log

variable (P scfg clock s k now) in
lemma tick_grows (fresh : PrivateKeys) (log : AuditLog) :
    log <+: s.auditTick P scfg clock fresh k now log := by
  have hloaded : log <+: s.auditLoaded P scfg clock fresh now log := by
    rw [ServerState.auditLoaded]
    split_ifs
    · exact List.prefix_refl log
    · split
      · exact List.prefix_refl log
      · split
        · exact List.prefix_refl log
        · exact List.prefix_append log _
  rw [ServerState.auditTick]
  split
  · exact hloaded
  · rename_i s' _
    obtain ⟨events, hrotate, _⟩ := rotate_audits P scfg clock s' k now (s.auditLoaded P scfg clock fresh now log)
    rw [hrotate]
    exact hloaded.trans (List.prefix_append _ events)

end Ticking

section Serving

variable {P : Primitives} {scfg : ServerConfig} {clock : ℕ → ℤ} {conn : Connection}

variable (P clock) in
lemma serve_audits (hrotating : conn.state.Rotating scfg) (e : ServerEvent) (log : AuditLog) :
    ∃ events, auditServe P scfg clock conn log e = log ++ events ∧
      Audits P scfg conn (serve P scfg conn e) e events := by
  cases e with
  | issue token purpose kind ttl identityUuid now time =>
    have hrows (J : Uuid) : rowsOf J (serve P scfg conn (.issue token purpose kind ttl identityUuid now time)) =
        rowsOf J conn := serve_rows hrotating id
    rw [auditServe, serve] at *
    rw [Server.Database.issueToken] at *
    dsimp only at *
    split_ifs at *
    · exact ⟨[], (List.append_nil _).symm, .refused (by simp) rfl rfl⟩
    · exact ⟨[_], rfl, .told none (by simp) (by simp [EventType.ofCredential]) (by simp) (fun J _ => hrows J)
        (Or.inr ⟨_, List.mem_singleton_self _, Or.inl rfl⟩) rfl⟩
  | frame frame d => exact frame_audits P scfg clock conn d frame log
  | rotate fresh successor now =>
    obtain ⟨events, haudit, hrotated⟩ := rotate_audits P scfg clock conn.state successor now log
    obtain ⟨credentials, hdb⟩ := ServerState.maybeRotate_sameIdentities P scfg conn.state fresh successor now
    have htokens := congrArg Server.Database.tokens hdb
    refine ⟨events, ?_, ?_⟩
    · rw [auditServe, ServerState.auditTick, ServerState.ensureLoaded_loaded hrotating.loaded,
        ServerState.auditLoaded, if_pos hrotating.loaded]
      exact haudit
    · rw [← ServerState.maybeRotate_loaded hrotating.loaded fresh] at hrotated
      by_cases hsome : events = []
      · exact .refused (by simp [hsome]) (hrotated.changes.resolve_right (not_not.mpr hsome)) rfl
      · exact .told (some scfg.serverUuid) hsome hrotated.rows (fun J hJ => (Option.some.inj hJ).symm)
          (fun J hJ => serve_rows hrotating fun hown => hJ (congrArg some hown.symm)) (Or.inl htokens) rfl

variable (scfg clock) in
lemma Aborted.unrecorded {e : ServerEvent} (h : Aborted P conn e) (log : AuditLog) :
    auditServe P scfg clock conn log e = log ∧
      ∃ k, (serve P scfg conn e).state.db.tokens.get? k ≠ conn.state.db.tokens.get? k := by
  cases e with
  | issue | rotate => exact h.elim
  | frame frame d =>
    obtain ⟨hchannel, msg, b, kind, row, hmsg, hctype, hb, hkind, hrow, hadmits, hlate⟩ := h
    have hkey : row.tokenHash = hashToken P b.token := (Table.get?_eq_some.mp hrow).2
    rcases Server.Database.enroll_cases P scfg.params conn.state.db (Tunnel2Server.tokenIdentity P b.token kind)
      kind b.token b.version b.ed25519Public b.x25519Public (some d.now) d.time with
      ⟨hno, _⟩ | ⟨row', db', hrow', _, hr, ⟨_, code, message, he⟩ | ⟨hnot, _⟩⟩
    · exact (hno row hrow hadmits).elim
    · obtain rfl := Option.some.inj (hrow.symm.trans hrow')
      refine ⟨?_, hashToken P b.token, ?_⟩
      · rw [auditServe, Connection.auditFrame, if_pos hchannel, Tunnel2Server.auditControl, hmsg]
        dsimp only
        rw [if_pos hctype, Tunnel2Server.auditEnroll, hb]
        simp only [except_ok_bind, hkind, pure, Except.pure, AuditedRegistry.enroll, he]
        rfl
      · have hdb : (serve P scfg conn (.frame frame d)).state.db = db' := by
          change (conn.handleFrame P scfg d frame).2.state.db = db'
          rw [Connection.handleFrame, if_pos hchannel]
          dsimp only
          rw [handleControl_state, Tunnel2Server.perform, hmsg]
          dsimp only
          rw [if_pos hctype, Tunnel2Server.handleEnroll, hb]
          simp only [except_ok_bind, hkind, pure, Except.pure, he]
          rfl
        have hused : db'.tokens.get? (hashToken P b.token) =
            some { row with usedAt := some (intOr (some d.now) d.time) } := by
          rw [hr.tokens, Table.get?_set, if_pos hkey]
        rw [hdb, hused, hrow]
        intro hsame
        have husedAt := congrArg EnrollmentToken.usedAt (Option.some.inj hsame)
        rw [hadmits.1] at husedAt
        cases husedAt
    · obtain rfl := Option.some.inj (hrow.symm.trans hrow')
      exact (hnot hlate).elim

end Serving

namespace AuditedServer

variable (P : Primitives) (scfg : ServerConfig) (clock : ℕ → ℤ)

def journal : Journal AuditedServer ServerEvent AuditEvent where
  step := serve P scfg clock
  trail := auditEvents
  grows := by
    intro a e
    cases e with
    | issue token purpose kind ttl identityUuid now time =>
      change a.auditEvents <+: auditServe P scfg clock a.conn a.auditEvents
        (.issue token purpose kind ttl identityUuid now time)
      rw [auditServe]
      split
      · exact List.prefix_refl _
      · exact List.prefix_append _ _
    | frame frame d =>
      obtain ⟨events, haudit, _⟩ := frame_audits P scfg clock a.conn d frame a.auditEvents
      exact ⟨events, haudit.symm⟩
    | rotate fresh successor now => exact tick_grows P scfg clock a.conn.state successor now fresh a.auditEvents

end AuditedServer

theorem trail_accounts (P : Primitives) (scfg : ServerConfig) (clock : ℕ → ℤ) (a : AuditedServer)
    (hrotating : a.conn.state.Rotating scfg) (es : List ServerEvent) :
    let J := AuditedServer.journal P scfg clock
    (Along J.step (fun a e => Recorded a.conn (J.step a e).conn (J.emitted a e)) a es ↔
      Along J.step (fun a e => ¬ Aborted P a.conn e) a es) ∧
    Along J.step (fun a e => Truthful P scfg a.conn (J.step a e).conn e (J.emitted a e)) a es := by
  intro J
  have hstep : ∀ a e, a.conn.state.Rotating scfg → (J.step a e).conn.state.Rotating scfg :=
    fun a e h => serve_rotating h
  have haudits : ∀ a e, a.conn.state.Rotating scfg →
      Audits P scfg a.conn (J.step a e).conn e (J.emitted a e) := fun a e h => by
    obtain ⟨events, hlog, haudits⟩ := serve_audits P clock h e a.auditEvents
    rw [J.emitted_of_append (s := a) (i := e) hlog]
    exact haudits
  refine ⟨along_iff_of_invariant (fun a e h => ⟨fun hrecorded haborted => ?_, (haudits a e h).recorded⟩)
    (fun a e h _ => hstep a e h) hrotating es, ?_⟩
  · obtain ⟨hlog, k, hk⟩ := haborted.unrecorded scfg clock a.auditEvents
    obtain ⟨event, hevent, _⟩ := hrecorded.tokens k hk
    rw [J.emitted_of_append (s := a) (i := e) (hlog.trans (List.append_nil _).symm)] at hevent
    cases hevent
  · have htrivial : Along J.step (fun _ _ => True) a es := along_of_forall (fun _ _ _ => trivial) a
    exact htrivial.along (I := fun a => a.conn.state.Rotating scfg)
      (fun a e _ h => ⟨(haudits a e h).truthful, hstep a e h⟩) hrotating

section Demo

def demoAudited : AuditedServer := ⟨demoConnection, []⟩

theorem enrolling_accounts :
    let J := AuditedServer.journal tagged demoServer Int.ofNat
    (Along J.step (fun a e => Recorded a.conn (J.step a e).conn (J.emitted a e)) demoAudited enrollingEvents ↔
      Along J.step (fun a e => ¬ Aborted tagged a.conn e) demoAudited enrollingEvents) ∧
    Along J.step (fun a e => Truthful tagged demoServer a.conn (J.step a e).conn e (J.emitted a e)) demoAudited
      enrollingEvents :=
  trail_accounts tagged demoServer Int.ofNat demoAudited
    (ServerState.rotating_first _ none (demoKeys 9) 1000 (by decide +kernel)) enrollingEvents

end Demo

end Secupload.System
