import Secupload.System.Agreement

namespace Secupload.System

open Library Shared Client Server
open Shared.RotationEngine (WindowInv windowInv_single provisioned statusAt_of_get byStatus_none_iff
  statusAt_eq_some get_eq_some get_of_mem)

structure Provisional (P : Primitives) (cred : CredentialPublic) (k : PrivateKeys) (c : ClientIdentity) :
    Prop where
  enrolled : c.enrolled = false
  rows : c.engine.creds.rows = [cred]
  keys : c.keys = KeyMap.add Table.empty 1 k
  file : c.file = some ⟨cred.identityUuid, [cred], c.keys, false⟩
  version : cred.version = 1
  status : cred.status = .active
  x25519 : cred.x25519Public = P.x25519Public k.x25519
  loads : P.x25519Loads k.x25519 = true

inductive Unenrolled (P : Primitives) (ccfg : ClientConfig) : ClientSession → Prop
  | start : Unenrolled P ccfg (ClientSession.start ccfg)
  | attempt (scfg : ServerConfig) (w : World) (k : PrivateKeys) (now : ℤ) (fate : Fate) (d : Server.Draw)
      (unenrolled : Unenrolled P ccfg w.session) (loads : P.x25519Loads k.x25519 = true)
      (failed : (w.connect P ccfg scfg k now fate d).1 ≠ .ok ()) :
      Unenrolled P ccfg (w.connect P ccfg scfg k now fate d).2.session

def Operating (P : Primitives) (state : ServerState) : Prop :=
  ∃ c k, state.credential = .ok c ∧ state.activeKeys = .ok k ∧ k.Match P c ∧
    P.x25519Loads k.x25519 = true

section Operating

variable {P : Primitives} {state : ServerState} {drawn : List PrivateKeys}

lemma operating_of_sound (h : ServerState.Sound P drawn state)
    (hloads : ∀ k ∈ drawn, P.x25519Loads k.x25519 = true)
    (hactive : state.identity.engine.active ≠ none) : Operating P state := by
  obtain ⟨c, hc⟩ := Option.ne_none_iff_exists'.mp hactive
  obtain ⟨k, hk, hkeys, hmatch⟩ := h.holder.owned.keys c (RotationEngine.mem_of_byStatus hc).1
  have hcredential : state.credential = .ok c := by rw [ServerState.credential, hc]
  refine ⟨c, k, hcredential, ?_, hmatch, hloads k hk⟩
  rw [ServerState.activeKeys, hcredential, except_ok_bind, ServerState.keys, hkeys]

end Operating

section Dialing

variable {P : Primitives} {ccfg : ClientConfig} {scfg : ServerConfig} {c : ClientIdentity}
  {cred : CredentialPublic} {k k' : PrivateKeys} {now : ℤ} {s : ClientSession} {w : World}

variable (ccfg) in
lemma ensureLoaded_start (hk : P.x25519Loads k.x25519 = true) (now : ℤ) :
    ∃ cred c, (ClientIdentity.start ccfg).ensureLoaded P ccfg k now = (.ok (), c) ∧
      Provisional P cred k c := by
  let cred := provisioned ccfg.params
    (credentialOf P ((ClientIdentity.start ccfg).identityUuid P ccfg) 1 k) now
  exact ⟨cred, _, ClientIdentity.ensureLoaded_first P ccfg k now, rfl, rfl, rfl, rfl, rfl, rfl, rfl, hk⟩

variable (ccfg) in
lemma ensureLoaded_provisional (h : Provisional P cred k c) (k' : PrivateKeys) (now : ℤ) :
    ∃ c', c.ensureLoaded P ccfg k' now = (.ok (), c') ∧ Provisional P cred k c' := by
  have hkeys : c.keys.rows ≠ [] := by
    rw [h.keys]
    exact List.ne_nil_of_mem (Table.mem_set.mpr (Or.inl rfl))
  exact ⟨_, ClientIdentity.ensureLoaded_file h.file hkeys k' now,
    ⟨rfl, rfl, h.keys, h.file, h.version, h.status, h.x25519, h.loads⟩⟩

def enrolledWith (s : ClientSession) (info : ServerKeyInfo) : ClientSession :=
  { s with
    serverKeys := ⟨info.version, info.ed25519Public, info.x25519Public⟩
    identity := s.identity.markEnrolled }

variable (P ccfg scfg w) in
lemma enroll_cases (fate : Fate) (d : Server.Draw) :
    ((w.enroll P ccfg scfg fate d).1 ≠ .ok () ∧ (w.enroll P ccfg scfg fate d).2.session = w.session) ∨
    ∃ frame reply info, w.session.enrollFrame ccfg = .ok frame ∧
      (w.server.handleFrame P scfg d frame).1 = .ok reply ∧
      ClientSession.enrolledKey reply = .ok info ∧
      w.enroll P ccfg scfg fate d =
        (.ok (), ⟨enrolledWith w.session info, (w.server.handleFrame P scfg d frame).2⟩) := by
  rw [World.enroll]
  split
  · exact Or.inl ⟨by simp, rfl⟩
  · rename_i frame hframe
    cases fate with
    | requestLost => exact Or.inl ⟨by simp [World.transmit], rfl⟩
    | replyLost => exact Or.inl ⟨by simp [World.transmit], rfl⟩
    | delivered =>
      rw [World.transmit]
      dsimp only
      cases hreply : (w.server.handleFrame P scfg d frame).1 with
      | error exc => exact Or.inl ⟨by simp [Except.toOption], rfl⟩
      | ok reply =>
        simp only [Except.toOption, ClientSession.useEnrolled]
        cases hkey : ClientSession.enrolledKey reply with
        | error exc => exact Or.inl ⟨by simp, rfl⟩
        | ok info => exact Or.inr ⟨frame, reply, info, hframe, hreply, hkey, rfl⟩

lemma connect_unenrolled {fate : Fate} {d : Server.Draw}
    (hdial : w.session.dial P ccfg k now = (.ok (), { w.session with identity := c, connected := true }))
    (hc : c.enrolled = false) : w.connect P ccfg scfg k now fate d =
      { w with session := { w.session with identity := c, connected := true } }.enroll P ccfg scfg
        fate d := by
  rw [World.connect, hdial]
  exact if_neg (by simp [hc])

lemma dial_unenrolled (h : Unenrolled P ccfg s) (hk : P.x25519Loads k.x25519 = true) (now : ℤ) :
    ∃ cred k' c, s.dial P ccfg k now = (.ok (), { s with identity := c, connected := true }) ∧
      Provisional P cred k' c := by
  have hdial : ∀ {s : ClientSession} {c : ClientIdentity} {k : PrivateKeys} {now : ℤ},
      s.identity.ensureLoaded P ccfg k now = (.ok (), c) →
      s.dial P ccfg k now = (.ok (), { s with identity := c, connected := true }) := by
    intro s c k now hloaded
    rw [ClientSession.dial, hloaded]
  induction h generalizing k now with
  | start =>
    obtain ⟨cred, c, hloaded, hc⟩ := ensureLoaded_start ccfg hk now
    exact ⟨cred, k, c, hdial hloaded, hc⟩
  | attempt scfg w k₀ now₀ fate d _ hk₀ hfailed ih =>
    obtain ⟨cred, k', c, hdialled, hc⟩ := ih hk₀ now₀
    rw [connect_unenrolled hdialled hc.enrolled] at hfailed ⊢
    rcases enroll_cases P ccfg scfg
      { w with session := { w.session with identity := c, connected := true } } fate d with
      ⟨_, hsession⟩ | ⟨_, _, _, _, _, _, hdone⟩
    · rw [hsession]
      obtain ⟨c', hloaded, hc'⟩ := ensureLoaded_provisional ccfg hc k now
      exact ⟨cred, k', c', hdial hloaded, hc'⟩
    · exact (hfailed (congrArg Prod.fst hdone)).elim

end Dialing

section Replying

variable {P : Primitives} {scfg : ServerConfig} {conn : Connection} {srv srv' : Tunnel2Server}
  {d : Server.Draw} {frame reply : Frame} {body : Bytes} {info : ServerKeyInfo}

lemma enrolledKey_reply {resp : EnrollResponse} {response : Bytes}
    (hresponse : encodeEnrollResponse resp = .ok response)
    (hreply : (srv.reply P scfg d (.enrolled response) >>= sendFrame channelControl) = .ok reply)
    (hkey : ClientSession.enrolledKey reply = .ok info) :
    resp.status = 0 ∧ parseServerKeyInfo resp.serverKeyInfo = .ok info := by
  obtain ⟨payload, hpayload, hframe⟩ := except_bind_eq_ok.mp hreply
  rw [sendFrame] at hframe
  split_ifs at hframe
  obtain rfl := Except.ok.inj hframe
  rw [ClientSession.enrolledKey, if_neg (not_not.mpr rfl), parse_encodeControl hpayload,
    except_ok_bind] at hkey
  dsimp only at hkey
  rw [if_neg (not_not.mpr rfl), parse_encodeEnrollResponse hresponse] at hkey
  by_cases hstatus : resp.status = 0
  · simp only [hstatus, ne_eq, not_true_eq_false, if_false, except_ok_bind] at hkey
    exact ⟨hstatus, hkey⟩
  · simp only [ne_eq, hstatus, not_false_eq_true, if_true, except_ok_bind] at hkey
    cases hkey

lemma handleEnroll_done {b : EnrollmentBody} {kind : IdentityKind}
    (hframe : encodeControl ControlType.enroll.code body = .ok frame.payload)
    (hbody : encodeEnrollmentBody b = .ok body) (hkind : b.identityKind = kindToCode kind)
    (hreply : (srv.handleControl P scfg d frame.payload).1 = .ok reply)
    (hkey : ClientSession.enrolledKey reply = .ok info) :
    ∃ result db c, srv.state.db.enroll P scfg.params (Tunnel2Server.tokenIdentity P b.token kind) kind
        b.token b.version b.ed25519Public b.x25519Public (some d.now) d.time = (.ok result, db) ∧
      (srv.handleControl P scfg d frame.payload).2 = srv.withDb db ∧
      srv.state.credential = .ok c ∧ InUInt32 c.version ∧ info.version = c.version ∧
      info.x25519Public = c.x25519Public := by
  have hperform : srv.perform P scfg d frame.payload = srv.handleEnroll P scfg d body := by
    simp only [Tunnel2Server.perform, parse_encodeControl hframe, if_true]
  have hparsed : (do
      let b ← parseEnrollmentBody body
      return (b, ← kindFromCode b.identityKind)) = (.ok (b, kind) : Except Exn _) := by
    simp only [parse_encodeEnrollmentBody hbody, hkind, kindFromCode_code, except_ok_bind]
    rfl
  rw [Tunnel2Server.handleControl, hperform, Tunnel2Server.handleEnroll] at hreply ⊢
  rw [hparsed] at hreply ⊢
  dsimp only at hreply ⊢
  generalize srv.state.db.enroll P scfg.params _ kind b.token b.version b.ed25519Public
    b.x25519Public (some d.now) d.time = enrolled at hreply ⊢
  obtain ⟨result, db⟩ := enrolled
  cases result with
  | error exc =>
    cases exc with
    | registryError code message =>
      dsimp only at hreply
      cases hresponse : encodeEnrollResponse
        { status := RespStatus.error.code, message, serverKeyInfo := [] } with
      | error exc =>
        rw [hresponse] at hreply
        cases hreply
      | ok response =>
        rw [hresponse] at hreply
        cases (enrolledKey_reply hresponse hreply hkey).1
    | _ => cases hreply
  | ok result =>
    dsimp only at hreply ⊢
    cases hresponse : srv.keyInfoResponse with
    | error exc =>
      rw [hresponse] at hreply
      cases hreply
    | ok response =>
      rw [hresponse] at hreply
      obtain ⟨c, hc, hencode⟩ := except_bind_eq_ok.mp hresponse
      obtain ⟨keyInfo, hkeyInfo, hencode⟩ := except_bind_eq_ok.mp hencode
      have hparse := (enrolledKey_reply hencode hreply hkey).2
      rw [parse_encodeServerKeyInfo hkeyInfo] at hparse
      obtain rfl := Except.ok.inj hparse
      exact ⟨result, db, c, rfl, rfl, hc, encodeServerKeyInfo_version hkeyInfo, rfl, rfl⟩

end Replying

section Connecting

variable {P : Primitives} {ccfg : ClientConfig} {scfg : ServerConfig} {c : ClientIdentity}
  {cred : CredentialPublic} {k : PrivateKeys} {now : ℤ} {s : ClientSession} {w : World}

lemma Provisional.current (h : Provisional P cred k c) : c.current = .ok cred := by
  have hactive : c.engine.active = some cred := by
    rw [RotationEngine.active, RotationEngine.byStatus, h.rows]
    simp [h.status]
  rw [ClientIdentity.current, hactive]

lemma Provisional.statusAt (h : Provisional P cred k c) : c.engine.statusAt 1 = some .active := by
  have hmem : cred ∈ c.engine.creds.rows := by
    rw [h.rows]
    exact List.mem_singleton_self cred
  rw [← h.version, statusAt_of_get (get_of_mem hmem), h.status]

variable (ccfg) in
lemma Provisional.markEnrolled (h : Provisional P cred k c) :
    c.markEnrolled.Kept P ccfg ∧ (c.markEnrolled.stored ccfg).statusAt 1 = some .active ∧
      c.markEnrolled.keys.keysFor 1 = some k := by
  have hrows : ∀ d ∈ c.engine.creds.rows, d = cred := by
    intro d hd
    rw [h.rows] at hd
    exact List.mem_singleton.mp hd
  have hbelongs : c.engine.BelongsTo cred.identityUuid := fun d hd => by rw [hrows d hd]
  have hkeysFor : ∀ v, c.keys.keysFor v = if (1 : ℤ) = v then some k else none := by
    intro v
    rw [h.keys, KeyMap.keysFor_add, KeyMap.keysFor_empty]
  refine ⟨ClientIdentity.kept_save ccfg (c := { c with enrolled := true }) ?_ ⟨_, hbelongs⟩ rfl ?_ ?_, ?_,
    (hkeysFor 1).trans (if_pos rfl)⟩
  · refine windowInv_single (v := 1) fun d hd _ => ?_
    rw [hrows d hd]
    exact ⟨h.version, h.status⟩
  · rw [h.keys]
    exact List.ne_nil_of_mem (Table.mem_set.mpr (Or.inl rfl))
  · intro v k' hk'
    rw [hkeysFor] at hk'
    split_ifs at hk'
    obtain rfl := Option.some.inj hk'
    exact h.loads
  · exact (ClientIdentity.statusAt_stored_save (c := { c with enrolled := true }) hbelongs 1).trans
      h.statusAt

lemma loadEngine_enrolled (params : RotationParams) {db : Database} {I : Uuid}
    (hcred : db.credential I 1 = some cred) (hstatus : cred.status = .active)
    (hlone : ∀ v d, db.credential I v = some d → d.status.inWindow = true → v = 1) :
    ∃ S, db.loadEngine params I = some S ∧ WindowInv S ∧ S.get 1 = some cred ∧ S.validating = none := by
  cases hload : db.loadEngine params I with
  | none =>
    rw [Database.loadEngine_eq_none] at hload
    rw [hload 1] at hcred
    cases hcred
  | some S =>
    have hactive : ∀ v d, S.get v = some d → d.status.inWindow = true → v = 1 ∧ d.status = .active := by
      intro v d hd hwindow
      rw [Database.loadEngine_get hload] at hd
      obtain rfl := hlone v d hd hwindow
      obtain rfl := Option.some.inj (hd.symm.trans hcred)
      exact ⟨rfl, hstatus⟩
    refine ⟨S, rfl, windowInv_single (v := 1) fun d hd => hactive _ d (get_of_mem hd), ?_, ?_⟩
    · rw [Database.loadEngine_get hload, hcred]
    · refine byStatus_none_iff.mpr fun v hv => ?_
      obtain ⟨d, hd, hs⟩ := statusAt_eq_some.mp hv
      have ha := (hactive v d hd (by rw [hs]; rfl)).2
      rw [hs] at ha
      cases ha

lemma enrollFrame_eq_ok {frame : Frame} (h : s.enrollFrame ccfg = .ok frame) :
    ccfg.enrollmentToken ≠ "" ∧ frame.channel = channelControl ∧ ∃ cred body,
      s.identity.current = .ok cred ∧
      encodeEnrollmentBody ⟨kindToCode ccfg.kind, ccfg.enrollmentToken, cred.version, cred.ed25519Public,
        cred.x25519Public⟩ = .ok body ∧
      encodeControl ControlType.enroll.code body = .ok frame.payload := by
  rw [ClientSession.enrollFrame] at h
  split_ifs at h with htoken
  obtain ⟨cred, hcurrent, h⟩ := except_bind_eq_ok.mp h
  obtain ⟨body, hbody, h⟩ := except_bind_eq_ok.mp h
  obtain ⟨_, _, h⟩ := except_bind_eq_ok.mp h
  obtain ⟨payload, hpayload, h⟩ := except_bind_eq_ok.mp h
  rw [sendFrame] at h
  split_ifs at h
  obtain rfl := Except.ok.inj h
  exact ⟨htoken, rfl, cred, body, hcurrent, hbody, hpayload⟩

lemma enrollFrame_done (h : Provisional P cred k s.identity) {frame : Frame}
    (hframe : s.enrollFrame ccfg = .ok frame) :
    ccfg.enrollmentToken ≠ "" ∧ frame.channel = channelControl ∧ ∃ body,
      encodeEnrollmentBody ⟨kindToCode ccfg.kind, ccfg.enrollmentToken, 1, cred.ed25519Public,
        P.x25519Public k.x25519⟩ = .ok body ∧
      encodeControl ControlType.enroll.code body = .ok frame.payload := by
  obtain ⟨htoken, hchannel, cred', body, hcurrent, hbody, hpayload⟩ := enrollFrame_eq_ok hframe
  obtain rfl := Except.ok.inj (h.current.symm.trans hcurrent)
  rw [h.version, h.x25519] at hbody
  exact ⟨htoken, hchannel, body, hbody, hpayload⟩

lemma connect_linked (hs : Unenrolled P ccfg w.session) (hk : P.x25519Loads k.x25519 = true)
    (hserver : Operating P w.server.state) {fate : Fate} {d : Server.Draw}
    (h : (w.connect P ccfg scfg k now fate d).1 = .ok ()) :
    ∃ S, Linked P ccfg scfg S (w.connect P ccfg scfg k now fate d).2 ∧
      InStep P ccfg (w.connect P ccfg scfg k now fate d).2.session.identity S 1 := by
  obtain ⟨cred, k', c, hdial, hc⟩ := dial_unenrolled hs hk now
  rw [connect_unenrolled hdial hc.enrolled] at h ⊢
  rcases enroll_cases P ccfg scfg
    { w with session := { w.session with identity := c, connected := true } } fate d with
    ⟨hfailed, _⟩ | ⟨frame, reply, info, hframe, hreply, hkey, hdone⟩
  · exact (hfailed h).elim
  obtain ⟨htoken, hchannel, body, hbody, hpayload⟩ := enrollFrame_done hc hframe
  have hcontrol : w.server.handleFrame P scfg d frame =
      ((w.server.toTunnel2Server.handleControl P scfg d frame.payload).1,
        { w.server with toTunnel2Server :=
          (w.server.toTunnel2Server.handleControl P scfg d frame.payload).2 }) := by
    rw [Connection.handleFrame, if_pos hchannel]
  rw [hdone]
  dsimp only at hreply ⊢
  rw [hcontrol] at hreply ⊢
  obtain ⟨result, db, sc, henroll, hserved, hcredential, hversion, _, hinfo⟩ :=
    handleEnroll_done hpayload hbody rfl hreply hkey
  dsimp only at henroll ⊢
  rw [hserved]
  obtain ⟨hcred, hlone⟩ := Database.enroll_usable henroll
  obtain ⟨S, hload, hwindow, hget, hidle⟩ := loadEngine_enrolled scfg.params hcred rfl hlone
  obtain ⟨hkept, hactive, hkeys⟩ := hc.markEnrolled ccfg
  have hidentity : ∀ c : ClientIdentity, c.identityUuid P ccfg =
      Tunnel2Server.tokenIdentity P ccfg.enrollmentToken ccfg.kind := by
    intro c
    rw [ClientIdentity.identityUuid, if_pos htoken]
    rfl
  refine ⟨S, ⟨htoken, hkept, ?_, hwindow, ?_⟩, hactive, ⟨_, k', hget, rfl, hkeys, rfl⟩, Or.inl hidle⟩
  · rw [hidentity]
    exact hload
  · obtain ⟨sc', sk, hcredential', hactiveKeys, hmatch, hloads⟩ := hserver
    obtain rfl := Except.ok.inj (hcredential.symm.trans hcredential')
    exact ⟨⟨sc, hcredential, hversion⟩, sk, hactiveKeys, hloads, hinfo.trans hmatch.2⟩

end Connecting

end Secupload.System
