import Secupload.System.Enrollment

namespace Secupload.System

open Library Shared Client Server
open Shared.RotationEngine (expired statusAt_of_get statusAt_of_byStatus statusAt_eq_some)

section Steps

variable {P : Primitives} {ccfg : ClientConfig} {scfg : ServerConfig} {S : RotationEngine} {w : World}
  {a b : ℤ}

lemma InStep.move (hP : Lawful P) (h : Linked P ccfg scfg S w)
    (hin : InStep P ccfg w.session.identity S a) (m : Move P) :
    ∃ S', Linked P ccfg scfg S' (System.move P ccfg scfg w m) ∧
      ((∃ a', InStep P ccfg (System.move P ccfg scfg w m).session.identity S' a') ∨
        Overtakes P ccfg scfg w m ∧
          Ahead P ccfg (System.move P ccfg scfg w m).session.identity S' a (a + 1) ∨
        Outruns P ccfg scfg w m ∧
          Behind P ccfg (System.move P ccfg scfg w m).session.identity S' a) := by
  obtain ⟨_ | _ | _, fate, r, hr⟩ | ⟨fresh, now, fate, d⟩ := m
  · obtain ⟨S', hlinked, hin' | hahead⟩ := InStep.rotate hP h hin hr fate
    · exact ⟨S', hlinked, Or.inl ⟨a, hin'⟩⟩
    · exact ⟨S', hlinked, Or.inr (Or.inl hahead)⟩
  · obtain ⟨S', hlinked, ⟨hin', _⟩ | ⟨hin', _⟩ | hbehind⟩ := InStep.checkpointRotation hP h hin hr fate
    · exact ⟨S', hlinked, Or.inl ⟨a, hin'⟩⟩
    · exact ⟨S', hlinked, Or.inl ⟨a + 1, hin'⟩⟩
    · exact ⟨S', hlinked, Or.inr (Or.inr hbehind)⟩
  · obtain ⟨S', hlinked, hin'⟩ := InStep.rollbackRotation hP h hin hr.toDrawn fate
    exact ⟨S', hlinked, Or.inl ⟨a, hin'⟩⟩
  · obtain ⟨hlinked, hidentity⟩ := reconnect_moves h fresh now fate d
    refine ⟨S, hlinked, Or.inl ⟨a, ?_⟩⟩
    rw [hidentity]
    exact hin.reloaded

lemma Ahead.move (hP : Lawful P) (h : Linked P ccfg scfg S w)
    (hd : Ahead P ccfg w.session.identity S b a) (m : Move P) :
    Linked P ccfg scfg S (System.move P ccfg scfg w m) ∧
      Ahead P ccfg (System.move P ccfg scfg w m).session.identity S b a := by
  obtain ⟨_ | _ | _, fate, r, hr⟩ | ⟨fresh, now, fate, d⟩ := m
  · exact Ahead.rotate hP h hd hr fate
  · obtain ⟨hlinked, hahead, _⟩ := Ahead.checkpointRotation hP h hd hr fate
    exact ⟨hlinked, hahead⟩
  · exact Ahead.rollbackRotation hP h hd hr.toDrawn fate
  · obtain ⟨hlinked, hidentity⟩ := reconnect_moves h fresh now fate d
    refine ⟨hlinked, ?_⟩
    rw [hidentity]
    exact ⟨hd.active, hd.demoted, hd.row, hd.current⟩

end Steps

def Move.clientTimes {P : Primitives} : Move P → List ℤ
  | .call _ _ r _ => [r.client.identityNow, r.client.now, r.client.laterNow]
  | .reconnect _ now _ _ => [now]

def Move.serverTimes {P : Primitives} : Move P → List ℤ
  | .call _ _ r _ => [r.server.authNow, r.server.now, r.server.sentAt]
  | .reconnect _ _ _ _ => []

def Forward {P : Primitives} (ms : List (Move P)) : Prop :=
  (ms.flatMap Move.clientTimes).Pairwise (· ≤ ·) ∧ (ms.flatMap Move.serverTimes).Pairwise (· ≤ ·)

instance {P : Primitives} (ms : List (Move P)) : Decidable (Forward ms) :=
  inferInstanceAs (Decidable (_ ∧ _))

section Recognized

variable (P : Primitives) (ccfg : ClientConfig) (scfg : ServerConfig) (w : World)

def Recognized : Prop :=
  ∃ active row, w.session.identity.engine.active = some active ∧
    w.server.state.db.getCredential (w.session.identity.identityUuid P ccfg) active.version = some row ∧
    (row.status = .active ∨ row.status = .fallback) ∧
    ∀ env now, env.senderUuid = w.session.identity.identityUuid P ccfg →
      env.senderCredentialVersion = active.version → expired row now = false →
      Authenticator.verdictOf (Authenticator.checkCredential P scfg.params w.server.state.db env now) ≠
        .refuse "BAD_CREDENTIAL"

def Unretired : Prop :=
  ∀ S, w.server.state.db.loadEngine scfg.params (w.session.identity.identityUuid P ccfg) = some S →
    ∀ c ∈ S.creds.rows, c.status ≠ .revoked ∧ c.status ≠ .expired

variable {P ccfg scfg w}

lemma checkCredential_known {params : RotationParams} {db : Database} {env : Envelope} {now : ℤ}
    {row : CredentialPublic}
    (hrow : db.credentialForAuth params env.senderUuid env.senderCredentialVersion now = .ok (some row))
    (hstatus : row.status = .active ∨ row.status = .fallback) :
    Authenticator.verdictOf (Authenticator.checkCredential P params db env now) ≠ .refuse "BAD_CREDENTIAL" := by
  have hauthenticating : row.status.authenticating = true := by
    rcases hstatus with hs | hs <;> rw [hs] <;> rfl
  simp only [Authenticator.checkCredential, hrow, hauthenticating]
  rw [if_neg (by decide)]
  split
  · simp [Authenticator.verdictOf]
  · rename_i exc _ hverify
    rcases Envelope.verify_error hverify with rfl | ⟨message, rfl⟩ | ⟨message, rfl⟩ <;> simp [Authenticator.verdictOf]
  · split <;> simp [Authenticator.verdictOf]

def Agreed (P : Primitives) (ccfg : ClientConfig) (scfg : ServerConfig) (w : World) : Prop :=
  ∃ S a, Linked P ccfg scfg S w ∧
    (InStep P ccfg w.session.identity S a ∨ Behind P ccfg w.session.identity S a)

lemma Agreed.move (hP : Lawful P) (h : Agreed P ccfg scfg w) (m : Move P)
    (hm : ¬ Overtakes P ccfg scfg w m) : Agreed P ccfg scfg (System.move P ccfg scfg w m) := by
  obtain ⟨S, a, hlinked, hin | hbehind⟩ := h
  · obtain ⟨S', hlinked', ⟨a', hin'⟩ | ⟨hovertakes, _⟩ | ⟨_, hbehind⟩⟩ := hin.move hP hlinked m
    · exact ⟨S', a', hlinked', Or.inl hin'⟩
    · exact (hm hovertakes).elim
    · exact ⟨S', a, hlinked', Or.inr hbehind⟩
  · obtain ⟨hlinked', hbehind'⟩ := hbehind.move hP hlinked m
    exact ⟨S, a, hlinked', Or.inr hbehind'⟩

lemma Agreed.recognized (h : Agreed P ccfg scfg w) : Recognized P ccfg scfg w := by
  obtain ⟨S, a, hlinked, hmode⟩ := h
  have hboth : (w.session.identity.stored ccfg).statusAt a = some .active ∧
      ∃ s, S.statusAt a = some s ∧ (s = .active ∨ s = .fallback) := by
    rcases hmode with hin | hbehind
    · exact ⟨hin.active, _, hin.row.statusAt, Or.inl rfl⟩
    · exact ⟨hbehind.active, _, hbehind.row.statusAt, Or.inr rfl⟩
  obtain ⟨hactive, s, hs, hstatus⟩ := hboth
  obtain ⟨active, hcurrent, rfl⟩ := hlinked.kept.current hactive
  obtain ⟨row, hrow, rfl⟩ := statusAt_eq_some.mp hs
  have hget : w.server.state.db.credential (w.session.identity.identityUuid P ccfg) active.version =
      some row := by
    rw [← Database.loadEngine_get hlinked.load]
    exact hrow
  refine ⟨active, row, hcurrent, hget, hstatus, fun env now hsender hversion hunexpired => ?_⟩
  refine checkCredential_known ?_ hstatus
  rw [hsender, hversion]
  exact Database.credentialForAuth_eq_some.mpr ⟨hget, hstatus, hunexpired⟩

end Recognized

theorem active_recognized (P : Primitives) (hP : Lawful P) (ccfg : ClientConfig) (scfg : ServerConfig)
    (w : World) (k : PrivateKeys) (now : ℤ) (fate : Fate) (d : Server.Draw)
    (hs : Unenrolled P ccfg w.session) (hk : P.x25519Loads k.x25519 = true)
    (hserver : Operating P w.server.state)
    (henrolled : (w.connect P ccfg scfg k now fate d).1 = .ok ()) (ms : List (Move P))
    (hms : Along (move P ccfg scfg) (fun w m => ¬ Overtakes P ccfg scfg w m)
      (w.connect P ccfg scfg k now fate d).2 ms) :
    Recognized P ccfg scfg (run (move P ccfg scfg) (w.connect P ccfg scfg k now fate d).2 ms) := by
  obtain ⟨S, hlinked, hin⟩ := connect_linked hs hk hserver henrolled
  exact (hms.invariant (fun w m hm h => Agreed.move hP h m hm) ⟨S, 1, hlinked, Or.inl hin⟩).recognized

section Converging

variable (P : Primitives) (ccfg : ClientConfig) (scfg : ServerConfig) (w : World)

def SameActive : Prop :=
  ∃ active S current, w.session.identity.engine.active = some active ∧
    w.server.state.db.loadEngine scfg.params (w.session.identity.identityUuid P ccfg) = some S ∧
    S.active = some current ∧ active.version = current.version

def Synced : Move P → Prop
  | .call .checkpointRotation fate r g =>
    (w.exchange P scfg (ClientSession.checkpointRotation P ccfg r.client) fate r.server).1 =
        .ok (.promoted true) →
      SameActive P ccfg scfg (move P ccfg scfg w (.call .checkpointRotation fate r g))
  | _ => True

-- the server has `v` ACTIVE and the client VALIDATING; in the round `r` the server answers, both
-- clocks are past the deadlines of `v`, and no credential has expired
structure Overdue (r : Round) (v : ℤ) : Prop where
  server : ∃ S ∈ w.server.state.db.loadEngine scfg.params (w.session.identity.identityUuid P ccfg),
    ∃ current ∈ S.active, current.version = v ∧ current.validationDeadline.getD 0 ≤ r.server.now ∧
      (∀ c ∈ S.creds.rows, expired c r.server.now = false) ∧
      ∃ active ∈ w.session.identity.engine.active,
        Authentic (w.session.identity.identityUuid P ccfg) w.server S active.version r
  client : ∃ validating ∈ w.session.identity.engine.validating,
    validating.version = v ∧ validating.validationDeadline.getD 0 ≤ r.client.laterNow
  unexpired : ∀ c ∈ w.session.identity.engine.creds.rows, expired c r.client.laterNow = false
  sentAt : InInt64 r.server.sentAt

instance (r : Round) (v : ℤ) : Decidable (Overdue P ccfg scfg w r v) :=
  decidable_of_iff ((∃ S ∈ w.server.state.db.loadEngine scfg.params (w.session.identity.identityUuid P ccfg),
      ∃ current ∈ S.active, current.version = v ∧ current.validationDeadline.getD 0 ≤ r.server.now ∧
        (∀ c ∈ S.creds.rows, expired c r.server.now = false) ∧
        ∃ active ∈ w.session.identity.engine.active,
          Authentic (w.session.identity.identityUuid P ccfg) w.server S active.version r) ∧
    (∃ validating ∈ w.session.identity.engine.validating,
      validating.version = v ∧ validating.validationDeadline.getD 0 ≤ r.client.laterNow) ∧
    (∀ c ∈ w.session.identity.engine.creds.rows, expired c r.client.laterNow = false) ∧
    InInt64 r.server.sentAt)
    ⟨fun ⟨hserver, hclient, hunexpired, hsentAt⟩ => ⟨hserver, hclient, hunexpired, hsentAt⟩,
      fun h => ⟨h.server, h.client, h.unexpired, h.sentAt⟩⟩

def Converges : Prop :=
  ∀ (r : Round) (g : Generated P r) (v : ℤ), Overdue P ccfg scfg w r v →
    ∃ active, (move P ccfg scfg w
        (.call .checkpointRotation .delivered r g)).session.identity.engine.active = some active ∧
      active.version = v

variable {P ccfg scfg w} {S : RotationEngine} {a : ℤ}

lemma InStep.sameActive (h : Linked P ccfg scfg S w) (hin : InStep P ccfg w.session.identity S a) :
    SameActive P ccfg scfg w := by
  obtain ⟨active, hactive, hversion⟩ := h.kept.current hin.active
  obtain ⟨current, hcurrent, hv, _⟩ := h.window.byStatus_of_statusAt hin.row.statusAt rfl
  exact ⟨active, S, current, hactive, h.load, hcurrent, hversion.trans hv.symm⟩

def Settled (P : Primitives) (ccfg : ClientConfig) (scfg : ServerConfig) (w : World) : Prop :=
  ∃ S a, Linked P ccfg scfg S w ∧
    (InStep P ccfg w.session.identity S a ∨ ∃ b, Ahead P ccfg w.session.identity S b a)

lemma Settled.move (hP : Lawful P) (h : Settled P ccfg scfg w) (m : Move P)
    (hm : ¬ Outruns P ccfg scfg w m) : Settled P ccfg scfg (System.move P ccfg scfg w m) := by
  obtain ⟨S, a, hlinked, hin | ⟨b, hahead⟩⟩ := h
  · obtain ⟨S', hlinked', ⟨a', hin'⟩ | ⟨_, hahead⟩ | ⟨houtruns, _⟩⟩ := hin.move hP hlinked m
    · exact ⟨S', a', hlinked', Or.inl hin'⟩
    · exact ⟨S', a + 1, hlinked', Or.inr ⟨a, hahead⟩⟩
    · exact (hm houtruns).elim
  · obtain ⟨hlinked', hahead'⟩ := hahead.move hP hlinked m
    exact ⟨S, a, hlinked', Or.inr ⟨b, hahead'⟩⟩

lemma Settled.synced (hP : Lawful P) (h : Settled P ccfg scfg w) (m : Move P)
    (hm : ¬ Outruns P ccfg scfg w m) : Synced P ccfg scfg w m := by
  obtain ⟨_ | _ | _, fate, r, g⟩ | _ := m
  · trivial
  · intro htrue
    obtain ⟨S, a, hlinked, hin | ⟨b, hahead⟩⟩ := h
    · obtain ⟨S', hlinked', ⟨_, hfalse⟩ | ⟨hin', _⟩ | ⟨houtruns, _⟩⟩ :=
        InStep.checkpointRotation hP hlinked hin g fate
      · exact (hfalse htrue).elim
      · exact InStep.sameActive hlinked' hin'
      · exact (hm houtruns).elim
    · exact ((Ahead.checkpointRotation hP hlinked hahead g fate).2.2 htrue).elim
  · trivial
  · trivial

lemma Settled.converges (h : Settled P ccfg scfg w) : Converges P ccfg scfg w := by
  intro r g v hoverdue
  obtain ⟨S', hload, current, hcurrent, rfl, _⟩ := hoverdue.server
  obtain ⟨validating, hvalidating, hversion, _⟩ := hoverdue.client
  obtain ⟨S, a, hlinked, hmode⟩ := h
  obtain rfl := Option.some.inj (hlinked.load.symm.trans hload)
  have hserver := statusAt_of_byStatus hcurrent
  have hclient := statusAt_of_byStatus hvalidating
  rw [hversion] at hclient
  have hknown : ∃ s, (w.session.identity.stored ccfg).statusAt current.version = some s ∧
      s ≠ .validating := by
    rcases hmode with hin | ⟨b, hahead⟩
    · obtain rfl := hlinked.window.statusAt_unique hserver hin.row.statusAt rfl
      exact ⟨_, hin.active, by decide⟩
    · obtain rfl := hlinked.window.statusAt_unique hserver hahead.current rfl
      exact ⟨_, hahead.demoted, by decide⟩
  obtain ⟨s, hs, hne⟩ := hknown
  have hmemory := hlinked.kept.statusAt_memory hs hne
  rw [hclient] at hmemory
  exact (hne (Option.some.inj hmemory).symm).elim

end Converging

theorem rotation_converges (P : Primitives) (hP : Lawful P) (ccfg : ClientConfig) (scfg : ServerConfig)
    (w : World) (k : PrivateKeys) (now : ℤ) (fate : Fate) (d : Server.Draw)
    (hs : Unenrolled P ccfg w.session) (hk : P.x25519Loads k.x25519 = true)
    (hserver : Operating P w.server.state)
    (henrolled : (w.connect P ccfg scfg k now fate d).1 = .ok ()) (ms : List (Move P))
    (hms : Along (move P ccfg scfg) (fun w m => ¬ Outruns P ccfg scfg w m)
      (w.connect P ccfg scfg k now fate d).2 ms) :
    Along (move P ccfg scfg) (fun w m => Synced P ccfg scfg w m)
        (w.connect P ccfg scfg k now fate d).2 ms ∧
      Converges P ccfg scfg (run (move P ccfg scfg) (w.connect P ccfg scfg k now fate d).2 ms) := by
  obtain ⟨S, hlinked, hin⟩ := connect_linked hs hk hserver henrolled
  have hsettled : Settled P ccfg scfg (w.connect P ccfg scfg k now fate d).2 :=
    ⟨S, 1, hlinked, Or.inl hin⟩
  refine ⟨?_, (hms.invariant (fun w m hm h => Settled.move hP h m hm) hsettled).converges⟩
  exact hms.along (fun w m hm h => ⟨Settled.synced hP h m hm, Settled.move hP h m hm⟩) hsettled

section Demo

def pacedRound (n : UInt8) (client later server : ℤ) : Round where
  client :=
    { (demoRound n).client with now := client, identityNow := client, laterNow := later, time := client }
  server :=
    { (demoRound n).server with authNow := server, now := server, time := server, sentAt := server }

lemma generated_paced (n : UInt8) (client later server : ℤ) :
    Generated tagged (pacedRound n client later server) where
  nonce := List.length_replicate
  ephemeral := show tagged.x25519Loads (demoKey 7) = true by decide
  serverNonce := List.length_replicate
  serverEphemeral := show tagged.x25519Loads (demoKey 8) = true by decide
  successor := show tagged.x25519Loads (demoKey 102) = true by decide

def paced (c : RotationCall) (fate : Fate) (n : UInt8) (client later server : ℤ) : Move tagged :=
  .call c fate (pacedRound n client later server) (generated_paced n client later server)

def startWorld (ccfg : ClientConfig) (scfg : ServerConfig) : World where
  session := ClientSession.start ccfg
  server :=
    { demoConnection with
      state := ((ServerState.start scfg (Database.empty.issueToken tagged "t" .enroll .client 3600 none
        (some 1000) 1000).2 none).ensureLoaded tagged scfg (demoKeys 9) 1000).2 }

lemma operating_start (ccfg : ClientConfig) {scfg : ServerConfig}
    (hrows : (Database.empty.issueToken tagged "t" .enroll .client 3600 none (some 1000) 1000).2.loadEngine
      scfg.params scfg.serverUuid = none) : Operating tagged (startWorld ccfg scfg).server.state := by
  refine operating_of_sound (ServerState.sound_provision tagged scfg _ none (demoKeys 9) 1000 hrows) ?_ ?_
  · intro k hk
    rw [List.mem_singleton.mp hk]
    decide
  · rw [startWorld, ServerState.ensureLoaded_first tagged scfg _ none (demoKeys 9) 1000 hrows]
    exact RotationEngine.active_put rfl

-- a reply lost, a rollback, a reload of the identity file, and a second rotation
def lossyRun : List (Move tagged) :=
  [paced .rotate .replyLost 1 1000 1000 1000, paced .rollbackRotation .requestLost 2 1100 1100 1100,
    paced .checkpointRotation .replyLost 3 44200 44200 44200, .reconnect (demoKeys 3) 44300 .delivered
      (demoRound 0).server, paced .checkpointRotation .delivered 4 44300 44300 44300]

def mendedRun : List (Move tagged) :=
  [paced .rotate .replyLost 1 1000 1000 1000, paced .checkpointRotation .requestLost 2 44200 44200 44200,
    paced .checkpointRotation .delivered 3 44300 44300 44300]

def briskClient : ClientConfig := { demoClient with rotationDuration := 20 }

def briskServer : ServerConfig := { demoServer with rotationDuration := 20 }

-- the client handles the answer to its submission half its rotation duration later
def overtaking : List (Move tagged) := [paced .rotate .delivered 1 1000 1010 1000]

-- the reply to the promotion is lost
def outrunning : List (Move tagged) :=
  [paced .rotate .delivered 1 1000 1000 1000, paced .checkpointRotation .replyLost 2 44200 44200 44200]

-- the client's clock lags behind the server's
def lagging : List (Move tagged) :=
  [paced .rotate .delivered 1 1000 1000 1000, paced .checkpointRotation .delivered 2 44100 44199 44200]

lemma operating_demo : Operating tagged (startWorld demoClient demoServer).server.state :=
  operating_start demoClient rfl

lemma operating_brisk : Operating tagged (startWorld briskClient briskServer).server.state :=
  operating_start briskClient rfl

def connectDemo (ccfg : ClientConfig) (scfg : ServerConfig) : Outcome World Unit :=
  (startWorld ccfg scfg).connect tagged ccfg scfg (demoKeys 1) 1000 .delivered (demoRound 0).server

lemma connected_demo : (connectDemo demoClient demoServer).1 = .ok () := by decide +kernel

lemma connected_brisk : (connectDemo briskClient briskServer).1 = .ok () := by decide +kernel

theorem lossy_run_recognized : Recognized tagged demoClient demoServer
    (run (move tagged demoClient demoServer) (connectDemo demoClient demoServer).2 lossyRun) :=
  active_recognized tagged lawful_tagged demoClient demoServer (startWorld demoClient demoServer)
    (demoKeys 1) 1000 .delivered (demoRound 0).server .start (by decide) operating_demo connected_demo
    lossyRun (by decide +kernel)

def overtaken : World :=
  run (move tagged briskClient briskServer) (connectDemo briskClient briskServer).2 overtaking

lemma overtaken_rows :
    (∀ c ∈ overtaken.server.state.db.credentialRows
      (overtaken.session.identity.identityUuid tagged briskClient),
        c.status ≠ .revoked ∧ c.status ≠ .expired) ∧
    overtaken.session.identity.engine.active.map (·.version) = some 2 ∧
    (overtaken.server.state.db.getCredential
      (overtaken.session.identity.identityUuid tagged briskClient) 2).map (·.status) =
        some .validating := by
  decide +kernel

lemma unretired_overtaken : Unretired tagged briskClient briskServer overtaken := by
  intro S hload
  rw [(Database.loadEngine_rows hload).2]
  exact overtaken_rows.1

theorem overtaking_client_unrecognized :
    ¬ ∀ (P : Primitives), Lawful P → ∀ (ccfg : ClientConfig) (scfg : ServerConfig) (w : World)
      (k : PrivateKeys) (now : ℤ) (fate : Fate) (d : Server.Draw), Unenrolled P ccfg w.session →
      P.x25519Loads k.x25519 = true → Operating P w.server.state →
      (w.connect P ccfg scfg k now fate d).1 = .ok () → ∀ ms : List (Move P), Forward ms →
      Unretired P ccfg scfg (run (move P ccfg scfg) (w.connect P ccfg scfg k now fate d).2 ms) →
      Recognized P ccfg scfg (run (move P ccfg scfg) (w.connect P ccfg scfg k now fate d).2 ms) := by
  intro h
  have hrecognized := h tagged lawful_tagged briskClient briskServer (startWorld briskClient briskServer)
    (demoKeys 1) 1000 .delivered (demoRound 0).server .start (by decide) operating_brisk connected_brisk
    overtaking (by decide) unretired_overtaken
  obtain ⟨active, row, hactive, hrow, hstatus, _⟩ := hrecognized
  obtain ⟨_, hversion, hvalidating⟩ := overtaken_rows
  rw [overtaken, connectDemo, hactive, Option.map_some, Option.some.injEq] at hversion
  rw [hversion] at hrow
  rw [overtaken, connectDemo, hrow, Option.map_some, Option.some.injEq] at hvalidating
  rw [hvalidating] at hstatus
  rcases hstatus with hs | hs <;> cases hs

theorem mended_run_converges :
    Along (move tagged demoClient demoServer) (fun w m => Synced tagged demoClient demoServer w m)
        (connectDemo demoClient demoServer).2 mendedRun ∧
      Converges tagged demoClient demoServer
        (run (move tagged demoClient demoServer) (connectDemo demoClient demoServer).2 mendedRun) :=
  rotation_converges tagged lawful_tagged demoClient demoServer (startWorld demoClient demoServer)
    (demoKeys 1) 1000 .delivered (demoRound 0).server .start (by decide) operating_demo connected_demo
    mendedRun (by decide +kernel)

def outrun : World :=
  run (move tagged demoClient demoServer) (connectDemo demoClient demoServer).2 outrunning

def lagged : World :=
  run (move tagged demoClient demoServer) (connectDemo demoClient demoServer).2 lagging

lemma outrun_diverged :
    Overdue tagged demoClient demoServer outrun (pacedRound 3 44300 44300 44300) 2 ∧
      (move tagged demoClient demoServer outrun (.call .checkpointRotation .delivered
        (pacedRound 3 44300 44300 44300)
        (generated_paced 3 44300 44300 44300))).session.identity.engine.active.map (·.version) =
          some 1 := by
  decide +kernel

lemma lagged_diverged :
    ((run (move tagged demoClient demoServer) (connectDemo demoClient demoServer).2
      [paced .rotate .delivered 1 1000 1000 1000]).exchange tagged demoServer
        (ClientSession.checkpointRotation tagged demoClient (pacedRound 2 44100 44199 44200).client)
        .delivered (pacedRound 2 44100 44199 44200).server).1 = .ok (.promoted true) ∧
    lagged.session.identity.engine.active.map (·.version) = some 1 ∧
    ∀ c ∈ lagged.server.state.db.credentialRows
      (lagged.session.identity.identityUuid tagged demoClient), c.status = .active → c.version = 2 := by
  decide +kernel

-- after the lost reply the client keeps VALIDATING what the server has promoted, and a client whose
-- clock lags returns True without having promoted it
theorem outrun_client_diverges :
    (¬ ∀ (P : Primitives), Lawful P → ∀ (ccfg : ClientConfig) (scfg : ServerConfig) (w : World)
      (k : PrivateKeys) (now : ℤ) (fate : Fate) (d : Server.Draw), Unenrolled P ccfg w.session →
      P.x25519Loads k.x25519 = true → Operating P w.server.state →
      (w.connect P ccfg scfg k now fate d).1 = .ok () → ∀ ms : List (Move P), Forward ms →
      Along (move P ccfg scfg) (fun w m => Synced P ccfg scfg w m)
        (w.connect P ccfg scfg k now fate d).2 ms) ∧
    ¬ ∀ (P : Primitives), Lawful P → ∀ (ccfg : ClientConfig) (scfg : ServerConfig) (w : World)
      (k : PrivateKeys) (now : ℤ) (fate : Fate) (d : Server.Draw), Unenrolled P ccfg w.session →
      P.x25519Loads k.x25519 = true → Operating P w.server.state →
      (w.connect P ccfg scfg k now fate d).1 = .ok () → ∀ ms : List (Move P), Forward ms →
      Converges P ccfg scfg (run (move P ccfg scfg) (w.connect P ccfg scfg k now fate d).2 ms) := by
  constructor
  · intro h
    have hsynced : Along (move tagged demoClient demoServer)
        (fun w m => Synced tagged demoClient demoServer w m) (connectDemo demoClient demoServer).2 lagging :=
      h tagged lawful_tagged demoClient demoServer (startWorld demoClient demoServer)
      (demoKeys 1) 1000 .delivered (demoRound 0).server .start (by decide) operating_demo connected_demo
      lagging (by decide)
    obtain ⟨hpromoted, hclient, hserver⟩ := lagged_diverged
    obtain ⟨active, S, current, hactive, hload, hcurrent, hsame⟩ : SameActive tagged demoClient demoServer
      lagged := hsynced.2.1 hpromoted
    rw [hactive, Option.map_some, Option.some.injEq, hsame] at hclient
    rw [← (Database.loadEngine_rows hload).2] at hserver
    obtain ⟨hmem, hs⟩ := RotationEngine.mem_of_byStatus hcurrent
    rw [hserver current hmem hs] at hclient
    cases hclient
  · intro h
    have hconverges : Converges tagged demoClient demoServer outrun :=
      h tagged lawful_tagged demoClient demoServer (startWorld demoClient demoServer)
      (demoKeys 1) 1000 .delivered (demoRound 0).server .start (by decide) operating_demo connected_demo
      outrunning (by decide)
    obtain ⟨hoverdue, hstill⟩ := outrun_diverged
    obtain ⟨active, hactive, hversion⟩ := hconverges (pacedRound 3 44300 44300 44300)
      (generated_paced 3 44300 44300 44300) 2 hoverdue
    rw [hactive, Option.map_some, Option.some.injEq, hversion] at hstill
    cases hstill

end Demo

end Secupload.System
