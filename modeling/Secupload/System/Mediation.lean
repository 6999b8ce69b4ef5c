import Secupload.Server.Noninterference
import Secupload.System.Service

/-! Every change to the server's tables and files goes back to a frame that its owner, a token's
bearer or a permitted writer has sent, or to the server's own tick. -/

namespace Secupload.System

open Library Shared Client Server
open Server.Database (hashToken)
open ObjectStore (SameFor)

structure Genuine (P : Primitives) (scfg : ServerConfig) (srv : Tunnel2Server) (d : Server.Draw)
    (env : Envelope) : Prop where
  timely : timestampOk env.timestamp d.authNow = true
  fresh : env.replayKey ∉ srv.auth.replay.entries
  signed : ∃ cred, srv.state.db.credentialForAuth scfg.params env.senderUuid env.senderCredentialVersion
      d.authNow = .ok (some cred) ∧ cred.status.authenticating = true ∧ env.verify P cred.ed25519Public = .ok ()
  known : srv.state.db.identityKind env.senderUuid ≠ none

section Authorized

variable (P : Primitives) (scfg : ServerConfig) (conn : Connection)

def ControlAuthorized (frame : Frame) (d : Server.Draw) (J : Uuid) : Prop :=
  frame.channel = channelControl ∧ ∃ msg, parseControl frame.payload = .ok msg ∧
    ((msg.ctype = ControlType.enroll.code ∧ ∃ b kind row, parseEnrollmentBody msg.body = .ok b ∧
        kindFromCode b.identityKind = .ok kind ∧ J = Tunnel2Server.tokenIdentity P b.token kind ∧
        conn.state.db.tokens.get? (hashToken P b.token) = some row ∧
        conn.state.db.Admits J kind (intOr (some d.now) d.time) row) ∨
      (∃ action env, Action.ofCode? msg.ctype = some action ∧ parseEnvelope msg.body = .ok env ∧
        J = env.senderUuid ∧ Genuine P scfg conn.toTunnel2Server d env))

def RowsAuthorized (J : Uuid) : ServerEvent → Prop
  | .issue _ _ _ _ _ _ _ => False
  | .frame frame d => ControlAuthorized P scfg conn frame d J
  | .rotate _ _ _ => J = scfg.serverUuid

def TokenAuthorized (tokenHash : Bytes) : ServerEvent → Prop
  | .issue token _ _ _ _ _ _ => hashToken P token = tokenHash
  | .frame frame d => frame.channel = channelControl ∧ ∃ msg b kind row,
      parseControl frame.payload = .ok msg ∧ msg.ctype = ControlType.enroll.code ∧
      parseEnrollmentBody msg.body = .ok b ∧ kindFromCode b.identityKind = .ok kind ∧
      hashToken P b.token = tokenHash ∧ conn.state.db.tokens.get? tokenHash = some row ∧
      conn.state.db.Admits (Tunnel2Server.tokenIdentity P b.token kind) kind (intOr (some d.now) d.time) row
  | .rotate _ _ _ => False

def ObjectAuthorized (o : Uuid) : ServerEvent → Prop
  | .frame frame d => frame.channel = channelRelay ∧ ∃ env, parseEnvelope frame.payload = .ok env ∧
      Genuine P scfg conn.toTunnel2Server d env ∧ Allowed conn.permissions env.senderUuid o "WRITE"
  | _ => False

end Authorized

section Frames

variable {P : Primitives} {scfg : ServerConfig} {conn : Connection} {d : Server.Draw} {env : Envelope}

lemma handleControl_state (payload : Bytes) : (conn.toTunnel2Server.handleControl P scfg d payload).2 =
    (conn.toTunnel2Server.perform P scfg d payload).2 := by
  rw [Tunnel2Server.handleControl]
  generalize conn.toTunnel2Server.perform P scfg d payload = performed
  obtain ⟨_ | _, srv⟩ := performed <;> rfl

lemma checkCredential_signed {db : Server.Database} {params : RotationParams} {now : ℤ}
    {r : IdentityKind × CredentialPublic} (h : Authenticator.checkCredential P params db env now = .ok r) :
    (∃ cred, db.credentialForAuth params env.senderUuid env.senderCredentialVersion now = .ok (some cred) ∧
      cred.status.authenticating = true ∧ env.verify P cred.ed25519Public = .ok ()) ∧
    db.identityKind env.senderUuid ≠ none := by
  simp only [Authenticator.checkCredential] at h
  split at h
  · cases h
  · cases h
  · cases h
  · rename_i cred hcred
    split_ifs at h with hstatus
    split at h
    · cases h
    · cases h
    · rename_i hverify
      split at h
      · cases h
      · rename_i kind hkind
        exact ⟨⟨cred, hcred, by simpa using hstatus, hverify⟩, by rw [hkind]; exact Option.some_ne_none kind⟩

lemma genuine_of_authenticate {srv : Tunnel2Server} {r : IdentityKind × CredentialPublic}
    (h : (srv.auth.authenticate P scfg.params srv.state.db env d.authNow).1 = .ok r) :
    Genuine P scfg srv d env := by
  rw [Authenticator.authenticate] at h
  split_ifs at h with hwindow
  rw [ReplayCache.checkAndAdd] at h
  split at h
  · cases h
  · rename_i hfresh
    obtain ⟨hsigned, hknown⟩ := checkCredential_signed h
    exact ⟨by simpa using hwindow, of_decide_eq_true (congrArg Prod.fst hfresh), hsigned, hknown⟩

lemma handleAuthenticated_acts (srv : Tunnel2Server) (action : Action) (body : Bytes) :
    (srv.handleAuthenticated P scfg d action body).2.state = srv.state ∨
    ∃ env inner, parseEnvelope body = .ok env ∧ Genuine P scfg srv d env ∧
      srv.state.openControl P env = .ok inner ∧ (srv.handleAuthenticated P scfg d action body).2.state.db =
        (srv.state.db.handleAction P scfg.params action env.senderUuid inner d.now).2 := by
  rw [Tunnel2Server.handleAuthenticated, Tunnel2Server.receive]
  cases hparse : parseEnvelope body with
  | error exc => exact Or.inl rfl
  | ok env =>
    dsimp only
    rcases hauth : srv.auth.authenticate P scfg.params srv.state.db env d.authNow with ⟨_ | r, auth⟩
    · exact Or.inl rfl
    · have hgenuine : Genuine P scfg srv d env := genuine_of_authenticate (congrArg Prod.fst hauth)
      cases hopen : srv.state.openControl P env with
      | error exc => exact Or.inl rfl
      | ok inner => exact Or.inr ⟨env, inner, rfl, hgenuine, hopen, rfl⟩

variable (P scfg conn d) in
lemma handleFrame_authorized (frame : Frame) :
    (conn.handleFrame P scfg d frame).2.state.db = conn.state.db ∨
    frame.channel = channelControl ∧ ∃ msg, parseControl frame.payload = .ok msg ∧
      ((msg.ctype = ControlType.enroll.code ∧ ∃ b kind row, parseEnrollmentBody msg.body = .ok b ∧
          kindFromCode b.identityKind = .ok kind ∧ conn.state.db.tokens.get? (hashToken P b.token) = some row ∧
          conn.state.db.Admits (Tunnel2Server.tokenIdentity P b.token kind) kind (intOr (some d.now) d.time) row ∧
          (conn.handleFrame P scfg d frame).2.state.db = (conn.state.db.enroll P scfg.params
            (Tunnel2Server.tokenIdentity P b.token kind) kind b.token b.version b.ed25519Public b.x25519Public
            (some d.now) d.time).2) ∨
        (∃ action env inner, Action.ofCode? msg.ctype = some action ∧ parseEnvelope msg.body = .ok env ∧
          Genuine P scfg conn.toTunnel2Server d env ∧ conn.state.openControl P env = .ok inner ∧
          (conn.handleFrame P scfg d frame).2.state.db =
            (conn.state.db.handleAction P scfg.params action env.senderUuid inner d.now).2)) := by
  rw [Connection.handleFrame]
  split_ifs with hchannel
  · dsimp only
    rw [handleControl_state, Tunnel2Server.perform]
    split
    · exact Or.inl rfl
    · rename_i msg hmsg
      split_ifs with hctype
      · rcases (handleEnroll_state conn.toTunnel2Server msg.body :
            (conn.toTunnel2Server.handleEnroll P scfg d msg.body).2.state = _ ∨ _) with
          hsame | ⟨b, kind, hb, hkind, henroll⟩
        · exact Or.inl (congrArg ServerState.db hsame)
        · rcases Database.enroll_cases P scfg.params conn.state.db (Tunnel2Server.tokenIdentity P b.token kind) kind
            b.token b.version b.ed25519Public b.x25519Public (some d.now) d.time with
            ⟨_, _, _, hrefused⟩ | ⟨row, _, hrow, hadmits, _⟩
          · refine Or.inl ((congrArg ServerState.db henroll).trans ?_)
            exact congrArg Prod.snd hrefused
          · exact Or.inr ⟨hchannel, msg, hmsg, Or.inl ⟨hctype, b, kind, row, hb, hkind, hrow, hadmits,
              congrArg ServerState.db henroll⟩⟩
      · split
        · exact Or.inl rfl
        · rename_i action haction
          rcases (handleAuthenticated_acts conn.toTunnel2Server action msg.body :
              (conn.toTunnel2Server.handleAuthenticated P scfg d action msg.body).2.state = _ ∨ _) with
            hsame | ⟨env, inner, hparse, hgenuine, hopen, hacts⟩
          · exact Or.inl (congrArg ServerState.db hsame)
          · exact Or.inr ⟨hchannel, msg, hmsg, Or.inr ⟨action, env, inner, haction, hparse, hgenuine, hopen, hacts⟩⟩
  · exact Or.inl (congrArg ServerState.db (handleRelay_state frame.payload))
  · exact Or.inl rfl

def rowsOf (J : Uuid) (conn : Connection) : (ℤ → Option CredentialPublic) × Option IdentityRow × Option IdentityRow :=
  (conn.state.db.credential J, conn.state.db.clients.get? J, conn.state.db.proxies.get? J)

lemma rows_frame {frame : Frame} {J : Uuid} (h : ¬ ControlAuthorized P scfg conn frame d J) :
    rowsOf J (conn.handleFrame P scfg d frame).2 = rowsOf J conn := by
  simp only [rowsOf]
  rcases handleFrame_authorized P scfg conn d frame with
    hsame | ⟨hchannel, msg, hmsg, ⟨hctype, b, kind, row, hb, hkind, hrow, hadmits, hdb⟩ |
      ⟨action, env, inner, haction, hparse, hgenuine, _, hdb⟩⟩
  · rw [hsame]
  · have hJ : J ≠ Tunnel2Server.tokenIdentity P b.token kind := by
      rintro rfl
      exact h ⟨hchannel, msg, hmsg, Or.inl ⟨hctype, b, kind, row, hb, hkind, rfl, hrow, hadmits⟩⟩
    have honly := Database.enroll_only P scfg.params conn.state.db (Tunnel2Server.tokenIdentity P b.token kind) kind
      b.token b.version b.ed25519Public b.x25519Public (some d.now) d.time
    rw [hdb, honly.clients J hJ, honly.proxies J hJ, funext (honly.credentials J hJ)]
  · have hJ : J ≠ env.senderUuid := by
      rintro rfl
      exact h ⟨hchannel, msg, hmsg, Or.inr ⟨action, env, haction, hparse, rfl, hgenuine⟩⟩
    have htouches := Database.handleAction_touches P scfg.params conn.state.db action env.senderUuid inner d.now
    rw [hdb, htouches.clients, htouches.proxies, funext (htouches.others J hJ)]

lemma tokens_frame {frame : Frame} {k : Bytes} (h : ¬ TokenAuthorized P conn k (.frame frame d)) :
    (conn.handleFrame P scfg d frame).2.state.db.tokens.get? k = conn.state.db.tokens.get? k := by
  rcases handleFrame_authorized P scfg conn d frame with
    hsame | ⟨hchannel, msg, hmsg, ⟨hctype, b, kind, row, hb, hkind, hrow, hadmits, hdb⟩ |
      ⟨action, env, inner, haction, hparse, hgenuine, _, hdb⟩⟩
  · rw [hsame]
  · have hk : k ≠ hashToken P b.token := by
      rintro rfl
      exact h ⟨hchannel, msg, b, kind, row, hmsg, hctype, hb, hkind, rfl, hrow, hadmits⟩
    rw [hdb]
    exact (Database.enroll_only P scfg.params conn.state.db (Tunnel2Server.tokenIdentity P b.token kind) kind
      b.token b.version b.ed25519Public b.x25519Public (some d.now) d.time).tokens k hk
  · rw [hdb, (Database.handleAction_touches P scfg.params conn.state.db action env.senderUuid inner d.now).tokens]

def keptOf (o : Uuid) (conn : Connection) : Option ObjectInfo × Option Bytes :=
  (conn.objects.objects.get? o, conn.objects.content? o)

lemma keptOf_eq {o : Uuid} {conn conn' : Connection} (h : SameFor o conn.objects conn'.objects) :
    keptOf o conn' = keptOf o conn :=
  Prod.ext h.row h.content

lemma requestedObject_allowed {o : Uuid} {operation permission : String} {object : Option Uuid}
    (h : conn.requestedObject operation object env permission = .ok o) :
    Allowed conn.permissions env.senderUuid o permission := by
  cases object with
  | none => cases h
  | some objectUuid =>
    obtain ⟨_, hallowed, ho⟩ := except_bind_eq_ok.mp h
    obtain rfl := Except.ok.inj ho
    exact checkPermission_eq_ok.mp hallowed

lemma attempt_kept {o : Uuid}
    (h : ¬ (Genuine P scfg conn.toTunnel2Server d env ∧ Allowed conn.permissions env.senderUuid o "WRITE")) :
    SameFor o conn.objects (conn.attempt P scfg d env).2.objects := by
  rw [Connection.attempt]
  rcases hauth : conn.auth.authenticate P scfg.params conn.state.db env d.authNow with ⟨_ | r, auth⟩
  · exact .refl _
  have hgenuine : Genuine P scfg conn.toTunnel2Server d env := genuine_of_authenticate (congrArg Prod.fst hauth)
  have hothers : ∀ o', Allowed conn.permissions env.senderUuid o' "WRITE" → o ≠ o' := by
    rintro o' hallowed rfl
    exact h ⟨hgenuine, hallowed⟩
  dsimp only
  split_ifs
  · rw [Connection.handleObjChunk]
    split
    · exact .refl _
    · rename_i o' chunkIndex data haccepted
      obtain ⟨r, _, haccepted⟩ := except_bind_eq_ok.mp haccepted
      obtain ⟨_, hpermitted, hsame⟩ := except_bind_eq_ok.mp haccepted
      obtain ⟨rfl, _⟩ := Prod.mk.inj (Except.ok.inj hsame)
      exact (Connection.local_storeChunk P (conn.withAuth auth) r.1 chunkIndex data).other conn.objects o
        (hothers _ (checkPermission_eq_ok.mp hpermitted))
  · rw [Connection.dispatch]
    split
    · exact .refl _
    · rename_i request _
      rw [Connection.answer]
      split_ifs
      · rw [Connection.handleWrite]
        split
        · exact .refl _
        · rename_i o' hrequested
          exact (ObjectStore.local_create o' request.fileType request.fileSize request.metadata).other conn.objects o
            (hothers o' (requestedObject_allowed hrequested))
      · exact .refl _
      · exact .refl _
      · exact .refl _

lemma objects_frame {frame : Frame} {o : Uuid} (h : ¬ ObjectAuthorized P scfg conn o (.frame frame d)) :
    keptOf o (conn.handleFrame P scfg d frame).2 = keptOf o conn := by
  rw [Connection.handleFrame]
  split_ifs with hcontrol hrelay
  · rfl
  · refine keptOf_eq ?_
    rw [Connection.handleRelay]
    split
    · exact .refl _
    · rename_i env hparse
      exact attempt_kept fun hboth => h ⟨hrelay, env, hparse, hboth⟩
  · rfl

lemma permissions_frame (frame : Frame) :
    (conn.handleFrame P scfg d frame).2.permissions = conn.permissions := by
  rw [Connection.handleFrame]
  split_ifs
  · rfl
  · obtain ⟨auth, objects, hrelay⟩ := handleRelay_withAuth P scfg conn d frame.payload
    rw [hrelay]
    rfl
  · rfl

end Frames

section Events

variable {P : Primitives} {scfg : ServerConfig} {conn : Connection} {e : ServerEvent}

lemma serve_rotating (h : conn.state.Rotating scfg) : (serve P scfg conn e).state.Rotating scfg := by
  cases e with
  | issue token purpose kind ttl identityUuid now time => exact h.of_identity rfl
  | frame frame d => exact h.of_identity (handleFrame_identity P scfg conn d frame)
  | rotate fresh successor now => exact (ServerState.maybeRotate_spares h fresh successor now).1

lemma serve_rows (hrotating : conn.state.Rotating scfg) {J : Uuid} (h : ¬ RowsAuthorized P scfg conn J e) :
    rowsOf J (serve P scfg conn e) = rowsOf J conn := by
  cases e with
  | issue token purpose kind ttl identityUuid now time =>
    change rowsOf J { conn with toTunnel2Server := conn.toTunnel2Server.withDb _ } = _
    rcases Server.Database.issueToken_cases P conn.state.db token purpose kind ttl identityUuid now time with
      hsame | ⟨row, hrow⟩
    · rw [hsame]
      rfl
    · rw [hrow]
      rfl
  | frame frame d => exact rows_frame h
  | rotate fresh successor now =>
    obtain ⟨credentials, hdb⟩ := ServerState.maybeRotate_sameIdentities P scfg conn.state fresh successor now
    have hrows := ((ServerState.maybeRotate_spares (P := P) hrotating fresh successor now).2.1 J (Ne.symm h)).rows
    refine Prod.ext (funext hrows) (Prod.ext ?_ ?_)
    · exact congrArg (fun db => db.clients.get? J) hdb
    · exact congrArg (fun db => db.proxies.get? J) hdb

lemma serve_tokens {k : Bytes} (h : ¬ TokenAuthorized P conn k e) :
    (serve P scfg conn e).state.db.tokens.get? k = conn.state.db.tokens.get? k := by
  cases e with
  | issue token purpose kind ttl identityUuid now time =>
    change (conn.state.db.issueToken P token purpose kind ttl identityUuid now time).2.tokens.get? k = _
    rw [Server.Database.issueToken]
    dsimp only
    split_ifs
    · rfl
    · exact Table.get?_set_ne _ h
  | frame frame d => exact tokens_frame h
  | rotate fresh successor now =>
    obtain ⟨credentials, hdb⟩ := ServerState.maybeRotate_sameIdentities P scfg conn.state fresh successor now
    exact congrArg (fun db => db.tokens.get? k) hdb

lemma serve_objects {o : Uuid} (h : ¬ ObjectAuthorized P scfg conn o e) :
    keptOf o (serve P scfg conn e) = keptOf o conn := by
  cases e with
  | issue | rotate => rfl
  | frame frame d => exact objects_frame h

lemma serve_permissions : (serve P scfg conn e).permissions = conn.permissions := by
  cases e with
  | issue | rotate => rfl
  | frame frame d => exact permissions_frame frame

end Events

theorem changes_authorized (P : Primitives) (scfg : ServerConfig) (conn : Connection)
    (hrotating : conn.state.Rotating scfg) (es : List ServerEvent) :
    (∀ J, rowsOf J (run (serve P scfg) conn es) ≠ rowsOf J conn →
      Sometime (serve P scfg) (fun c e => RowsAuthorized P scfg c J e) conn es) ∧
    (∀ k, (run (serve P scfg) conn es).state.db.tokens.get? k ≠ conn.state.db.tokens.get? k →
      Sometime (serve P scfg) (fun c e => TokenAuthorized P c k e) conn es) ∧
    (∀ o, keptOf o (run (serve P scfg) conn es) ≠ keptOf o conn →
      Sometime (serve P scfg) (fun c e => ObjectAuthorized P scfg c o e) conn es) ∧
    (run (serve P scfg) conn es).permissions = conn.permissions := by
  have hinv : ∀ (c : Connection) (e : ServerEvent), c.state.Rotating scfg → (serve P scfg c e).state.Rotating scfg :=
    fun _ _ => serve_rotating
  refine ⟨fun J => ?_, fun k => ?_, fun o => ?_, ?_⟩
  · exact sometime_of_changed hinv (fun _ _ hc h => serve_rows hc h) hrotating
  · exact sometime_of_changed (f := fun c : Connection => c.state.db.tokens.get? k) hinv
      (fun _ _ _ h => serve_tokens h) hrotating
  · exact sometime_of_changed hinv (fun _ _ _ h => serve_objects h) hrotating
  · exact run_invariant (I := fun c : Connection => c.permissions = conn.permissions)
      (fun _ _ h => serve_permissions.trans h) rfl es

section Demo

-- a client redeems its token, a frame that does not parse arrives, and the server's thread ticks
def enrollingEvents : List ServerEvent :=
  [.frame ((demoWorld.session.enrollFrame demoClient).toOption.getD ⟨0, []⟩) (demoRound 0).server,
    .frame ⟨channelRelay, []⟩ (demoRound 1).server, .rotate (demoKeys 3) (demoKeys 4) 50000]

theorem enrolling_authorized :
    (∀ J, rowsOf J (run (serve tagged demoServer) demoConnection enrollingEvents) ≠ rowsOf J demoConnection →
      Sometime (serve tagged demoServer) (fun c e => RowsAuthorized tagged demoServer c J e) demoConnection
        enrollingEvents) ∧
    (∀ k, (run (serve tagged demoServer) demoConnection enrollingEvents).state.db.tokens.get? k ≠
        demoConnection.state.db.tokens.get? k →
      Sometime (serve tagged demoServer) (fun c e => TokenAuthorized tagged c k e) demoConnection
        enrollingEvents) ∧
    (∀ o, keptOf o (run (serve tagged demoServer) demoConnection enrollingEvents) ≠ keptOf o demoConnection →
      Sometime (serve tagged demoServer) (fun c e => ObjectAuthorized tagged demoServer c o e) demoConnection
        enrollingEvents) ∧
    (run (serve tagged demoServer) demoConnection enrollingEvents).permissions = demoConnection.permissions :=
  changes_authorized tagged demoServer demoConnection
    (ServerState.rotating_first _ none (demoKeys 9) 1000 (by decide +kernel)) enrollingEvents

end Demo

end Secupload.System
