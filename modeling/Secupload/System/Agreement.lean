import Secupload.System.Rotation

/-! Whether the version that a client has ACTIVE stays usable in the server's registry, and
whether the two sides come to the same ACTIVE version. -/

namespace Secupload.System

open Library Shared Client Server
open Shared.RotationEngine (WindowInv submitted promoted demoted retired expired mem_of_byStatus
  get_of_mem get_eq_some get_put statusAt_put statusAt_of_get statusAt_of_byStatus statusAt_eq_some
  byStatus_none_iff)

-- both sides have `a` ACTIVE, and what the server validates next is what the client has submitted
structure InStep (P : Primitives) (cfg : ClientConfig) (c : ClientIdentity) (S : RotationEngine) (a : ℤ) :
    Prop where
  active : (c.stored cfg).statusAt a = some .active
  row : Seals P S c.keys a .active
  next : S.validating = none ∨
    Seals P S c.keys (a + 1) .validating ∧ (c.stored cfg).statusAt (a + 1) = some .validating

-- the server has promoted the successor of `a`, the client has not
structure Behind (P : Primitives) (cfg : ClientConfig) (c : ClientIdentity) (S : RotationEngine) (a : ℤ) :
    Prop where
  active : (c.stored cfg).statusAt a = some .active
  row : Seals P S c.keys a .fallback
  idle : S.validating = none
  known : (c.stored cfg).statusAt (a + 1) ≠ none

-- the client has promoted `a`, the server still validates it and has `b` ACTIVE
structure Ahead (P : Primitives) (cfg : ClientConfig) (c : ClientIdentity) (S : RotationEngine) (b a : ℤ) :
    Prop where
  active : (c.stored cfg).statusAt a = some .active
  demoted : (c.stored cfg).statusAt b = some .fallback
  row : Seals P S c.keys a .validating
  current : S.statusAt b = some .active

section Modes

variable {P : Primitives} {cfg : ClientConfig} {c c' : ClientIdentity} {S S' : RotationEngine} {a b v : ℤ}
  {s : CredentialStatus} {now : ℤ}

lemma InStep.idle (h : InStep P cfg c S a) (hkept : c.Kept P cfg)
    (hunknown : c.engine.statusAt (a + 1) = none) : S.validating = none := by
  rcases h.next with hidle | ⟨_, hnext⟩
  · exact hidle
  · rw [hkept.statusAt_known, hnext] at hunknown
    cases hunknown

lemma InStep.reloaded (h : InStep P cfg c S a) : InStep P cfg (c.withRows (c.stored cfg)) S a :=
  ⟨h.active, h.row, h.next⟩

lemma InStep.congr (h : InStep P cfg c S a) (hkeys : c'.keys = c.keys)
    (hstored : c'.stored cfg = c.stored cfg) : InStep P cfg c' S a where
  active := by rw [hstored]; exact h.active
  row := by rw [hkeys]; exact h.row
  next := by rw [hkeys, hstored]; exact h.next

lemma InStep.validating_version (h : InStep P cfg c S a) (hS : WindowInv S) {v3 : CredentialPublic}
    (hv3 : S.validating = some v3) : v3.version = a + 1 ∧ Seals P S c.keys (a + 1) .validating ∧
      (c.stored cfg).statusAt (a + 1) = some .validating := by
  rcases h.next with hidle | ⟨hseals, hnext⟩
  · rw [hidle] at hv3
    cases hv3
  · exact ⟨hS.statusAt_unique (statusAt_of_byStatus hv3) hseals.statusAt rfl, hseals, hnext⟩

lemma InStep.promote (h : InStep P cfg c S a) (hS : WindowInv S) {inner : Bytes} {I : Uuid}
    (hacts : Acts P I S inner now .rotateCheckpoint S') (hevolves : S.Evolves S') :
    S'.validating = none ∧ Seals P S' c.keys a .fallback ∧ Seals P S' c.keys (a + 1) .active ∧
      (c.stored cfg).statusAt (a + 1) = some .validating := by
  obtain ⟨v3, v2, hv3, hv2, _, rfl⟩ := hacts
  obtain ⟨h3, hseals, hnext⟩ := h.validating_version hS hv3
  have h2 := hS.statusAt_unique (statusAt_of_byStatus hv2) h.row.statusAt rfl
  refine ⟨hS.validating_promote hv3 now, h.row.evolves hevolves ?_, hseals.evolves hevolves ?_, hnext⟩
  · rw [hS.statusAt_promote, if_neg (by omega), if_pos h2]
  · rw [hS.statusAt_promote, if_pos h3]

lemma InStep.rollback (h : InStep P cfg c S a) (hS : WindowInv S) {inner : Bytes} {I : Uuid}
    (hacts : Acts P I S inner now .rotateRollback S') (hevolves : S.Evolves S') :
    S'.validating = none ∧ Seals P S' c.keys a .active := by
  obtain ⟨v3, hv3, rfl⟩ := hacts
  have hne : v3.version ≠ a := by
    intro hv
    have hs := statusAt_of_byStatus hv3
    rw [hv, h.row.statusAt] at hs
    cases hs
  refine ⟨hS.validating_rollback hv3, h.row.evolves hevolves ?_⟩
  exact (statusAt_put a).trans ((if_neg hne).trans h.row.statusAt)

lemma acts_submission {k : PrivateKeys} {payload signature : Bytes} {J I : Uuid}
    (hpayload : encodeSuccessorPayload J a (a + 1) (P.ed25519Public k.ed25519)
      (P.x25519Public k.x25519) [] = .ok payload)
    (hsignature : signature.length = ed25519SignatureSize)
    (hacts : Acts P I S (payload ++ signature) now .rotateSubmit S') :
    (∃ signature metadata, S.Submittable P
        (newCredential I (a + 1) (P.ed25519Public k.ed25519) (P.x25519Public k.x25519)) signature metadata
        now) ∧
      S' = S.put (submitted S.params
        (newCredential I (a + 1) (P.ed25519Public k.ed25519) (P.x25519Public k.x25519)) now) := by
  obtain ⟨p, hparse, hsubmit, rfl⟩ := hacts
  rw [payloadPart_signed hsignature, parse_encodeSuccessorPayload hpayload] at hparse
  obtain rfl := Except.ok.inj hparse
  exact ⟨⟨_, _, hsubmit⟩, rfl⟩

lemma InStep.submit (h : InStep P cfg c S a) {k : PrivateKeys} {I : Uuid} {ed25519Public : Bytes}
    (hsubmit : S' = S.put (submitted S.params
      (newCredential I (a + 1) ed25519Public (P.x25519Public k.x25519)) now)) (hevolves : S.Evolves S')
    (hkeys : ∀ v, c'.keys.keysFor v = if a + 1 = v then some k else c.keys.keysFor v) :
    Seals P S' c'.keys a .active ∧ Seals P S' c'.keys (a + 1) .validating := by
  subst hsubmit
  constructor
  · refine (h.row.evolves hevolves ?_).of_keys (by rw [hkeys, if_neg (by omega)])
    exact (statusAt_put a).trans ((if_neg (show ¬ a + 1 = a by omega)).trans h.row.statusAt)
  · exact ⟨_, k, (get_put _).trans (if_pos rfl), rfl, by rw [hkeys, if_pos rfl], rfl⟩

end Modes

instance (v : ℤ) : Decidable (InInt64 v) := inferInstanceAs (Decidable (_ ∧ _))

section Conditions

variable (P : Primitives) (ccfg : ClientConfig) (scfg : ServerConfig) (w : World)

def Receives (S : RotationEngine) (v now : ℤ) : Prop :=
  ∃ signer ∈ S.active, expired signer now = false ∧ S.validating = none ∧
    v = S.maxVersion?.getD 0 + 1 ∧ S.versionsInWindow < 3

-- the server takes the successor up, but the client's clock reaches the validation deadline of
-- the successor before the answer is handled
def Overtakes : Move P → Prop
  | .call .rotate fate r _ => fate = .delivered ∧ ∃ active ∈ w.session.identity.engine.active,
      ∃ S ∈ w.server.state.db.loadEngine scfg.params (w.session.identity.identityUuid P ccfg),
        Authentic (w.session.identity.identityUuid P ccfg) w.server S active.version r ∧
        Receives S (active.version + 1) r.server.now ∧
        (submitting P w active r.client).engine.Checkpointable r.client.laterNow
  | _ => False

-- the server promotes the successor, and the client does not hear of it or may not promote yet
def Outruns : Move P → Prop
  | .call .checkpointRotation fate r _ => ∃ active ∈ w.session.identity.engine.active,
      ∃ S ∈ w.server.state.db.loadEngine scfg.params (w.session.identity.identityUuid P ccfg),
        Authentic (w.session.identity.identityUuid P ccfg) w.server S active.version r ∧
        S.Checkpointable r.server.now ∧ fate ≠ .requestLost ∧
        ¬ (fate = .delivered ∧ InInt64 r.server.sentAt ∧
          w.session.identity.engine.Checkpointable r.client.laterNow)
  | _ => False

instance (S : RotationEngine) (v now : ℤ) : Decidable (Receives S v now) :=
  inferInstanceAs (Decidable (∃ signer ∈ S.active, _))

instance : ∀ m : Move P, Decidable (Overtakes P ccfg scfg w m)
  | .call .rotate fate r _ =>
    inferInstanceAs (Decidable (fate = .delivered ∧ ∃ active ∈ w.session.identity.engine.active, ∃ S ∈ _,
      Authentic _ w.server S active.version r ∧ Receives S (active.version + 1) r.server.now ∧
        (submitting P w active r.client).engine.Checkpointable r.client.laterNow))
  | .call .checkpointRotation _ _ _ | .call .rollbackRotation _ _ _ | .reconnect _ _ _ _ =>
    inferInstanceAs (Decidable False)

instance : ∀ m : Move P, Decidable (Outruns P ccfg scfg w m)
  | .call .checkpointRotation fate r _ =>
    inferInstanceAs (Decidable (∃ active ∈ w.session.identity.engine.active, ∃ S ∈ _,
      Authentic _ w.server S active.version r ∧ S.Checkpointable r.server.now ∧ fate ≠ .requestLost ∧
        ¬ (fate = .delivered ∧ InInt64 r.server.sentAt ∧
          w.session.identity.engine.Checkpointable r.client.laterNow)))
  | .call .rotate _ _ _ | .call .rollbackRotation _ _ _ | .reconnect _ _ _ _ =>
    inferInstanceAs (Decidable False)

end Conditions

section Moves

variable {P : Primitives} {ccfg : ClientConfig} {scfg : ServerConfig} {S : RotationEngine} {w : World}
  {a b : ℤ} {r : Round}

lemma InStep.rotate (hP : Lawful P) (h : Linked P ccfg scfg S w)
    (hin : InStep P ccfg w.session.identity S a) (hr : Generated P r) (fate : Fate) :
    ∃ S', Linked P ccfg scfg S' (move P ccfg scfg w (.call .rotate fate r hr)) ∧
      (InStep P ccfg (move P ccfg scfg w (.call .rotate fate r hr)).session.identity S' a ∨
        Overtakes P ccfg scfg w (.call .rotate fate r hr) ∧
          Ahead P ccfg (move P ccfg scfg w (.call .rotate fate r hr)).session.identity S' a (a + 1)) := by
  have hmoves := rotate_moves hP h hin.active hin.row hr fate
  have hmove : move P ccfg scfg w (.call .rotate fate r hr) =
      (w.exchange P scfg (ClientSession.rotate P ccfg r.client) fate r.server).2 := rfl
  rw [hmove]
  generalize (w.exchange P scfg (ClientSession.rotate P ccfg r.client) fate r.server).2 = w' at hmoves
  rcases hmoves with rfl | ⟨active, signature, payload, hcurrent, rfl, hpayload, hsignature, hsubmit,
    hrest⟩
  · exact ⟨S, h, Or.inl hin⟩
  obtain ⟨hkept, hactive⟩ := h.submitting hcurrent hr.successor hsubmit
  have hidle := hin.idle h.kept hsubmit.unknown
  have hkeys := keysFor_submitting (P := P) (w := w) (r := r) active
  have hrow := hin.row.of_keys (hkeys active.version ▸ if_neg (by omega))
  rcases hrest with ⟨hstate, hsession | hsession⟩ | ⟨S', hserved, hsession⟩
  · refine ⟨S, h.same hsession hkept hstate, Or.inl ?_⟩
    rw [hsession]
    exact ⟨hactive, hrow, Or.inl hidle⟩
  · obtain ⟨hkept', hsame, hstatus⟩ := ClientIdentity.rolledBack hkept r.client.laterNow
    refine ⟨S, h.same hsession hkept' hstate, Or.inl ?_⟩
    rw [hsession]
    exact ⟨hstatus _ _ hactive (by decide), hrow.of_keys (by rw [← hsame]; rfl), Or.inl hidle⟩
  · obtain ⟨⟨_, _, signer, _, hsigner, hunexpired, hnone, hversion, _, hwindow, _⟩, hput⟩ :=
      acts_submission hpayload hsignature hserved.acts
    obtain ⟨t, ht⟩ := hserved.transition
    have hevolves := S.evolves_transition P t
    rw [ht] at hevolves
    obtain ⟨hrow', hrow''⟩ := hin.submit hput hevolves hkeys
    have hnext : ((submitting P w active r.client).stored ccfg).statusAt (active.version + 1) =
        some .validating := by
      rw [submitting, ClientIdentity.statusAt_submittedBy h.kept hcurrent, if_pos rfl]
    have hin' : InStep P ccfg (submitting P w active r.client) S' active.version :=
      ⟨hactive, hrow', Or.inr ⟨hrow'', hnext⟩⟩
    rcases hsession with hsession | ⟨hfate, hsession⟩
    · refine ⟨S', h.served hsession hkept hserved, Or.inl ?_⟩
      rw [hsession]
      exact hin'
    · obtain ⟨hkept', hsame, ⟨_, hstored⟩ | ⟨hcheckpointable, hpromoted, hdemoted⟩⟩ :=
        ClientIdentity.checkpointed hkept hactive hnext r.client.laterNow
      · refine ⟨S', h.served hsession hkept' hserved, Or.inl ?_⟩
        rw [hsession]
        exact hin'.congr hsame hstored
      · refine ⟨S', h.served hsession hkept' hserved, Or.inr ⟨⟨hfate, active, hcurrent, S, h.load,
          hserved.authentic, ⟨signer, hsigner, hunexpired, hnone, hversion, hwindow⟩,
          hcheckpointable⟩, ?_⟩⟩
        rw [hsession]
        exact ⟨hpromoted, hdemoted, hrow''.of_keys (by rw [← hsame]; rfl), hrow'.statusAt⟩

lemma InStep.checkpointRotation (hP : Lawful P) (h : Linked P ccfg scfg S w)
    (hin : InStep P ccfg w.session.identity S a) (hr : Generated P r) (fate : Fate) :
    let out := w.exchange P scfg (ClientSession.checkpointRotation P ccfg r.client) fate r.server
    ∃ S', Linked P ccfg scfg S' out.2 ∧
      ((InStep P ccfg out.2.session.identity S' a ∧ out.1 ≠ .ok (.promoted true)) ∨
        (InStep P ccfg out.2.session.identity S' (a + 1) ∧ S'.validating = none) ∨
        Outruns P ccfg scfg w (.call .checkpointRotation fate r hr) ∧
          Behind P ccfg out.2.session.identity S' a) := by
  have hmoves := checkpoint_moves hP h hin.active hin.row hr.toDrawn fate
  dsimp only at hmoves ⊢
  generalize w.exchange P scfg (ClientSession.checkpointRotation P ccfg r.client) fate r.server = out at hmoves ⊢
  obtain ⟨result, w'⟩ := out
  dsimp only at hmoves ⊢
  rcases hmoves with ⟨hstate, hsession, hno⟩ | ⟨S', hserved, hsession⟩
  · refine ⟨S, h.same hsession h.kept hstate, Or.inl ⟨?_, hno⟩⟩
    rw [hsession]
    exact hin
  obtain ⟨t, ht⟩ := hserved.transition
  have hevolves := S.evolves_transition P t
  rw [ht] at hevolves
  obtain ⟨hidle, hrow, hrow', hnext⟩ := hin.promote h.window hserved.acts hevolves
  obtain ⟨v3, v2, _, _, hcheckpointable, _⟩ := hserved.acts
  obtain ⟨active, hcurrent, hversion⟩ := h.kept.current hin.active
  have hauthentic := hserved.authentic
  rw [← hversion] at hauthentic
  have houtruns : fate ≠ .requestLost → ¬ (fate = .delivered ∧ InInt64 r.server.sentAt ∧
      w.session.identity.engine.Checkpointable r.client.laterNow) →
      Outruns P ccfg scfg w (.call .checkpointRotation fate r hr) := fun harrives hno =>
    ⟨active, hcurrent, S, h.load, hauthentic, hcheckpointable, harrives, hno⟩
  rcases hsession with ⟨hsession, _, harrives, hlost⟩ | ⟨hfate, hsession⟩
  · refine ⟨S', h.served hsession h.kept hserved, Or.inr (Or.inr ⟨houtruns harrives fun hno =>
      hlost ⟨hno.1, hno.2.1⟩, ?_⟩)⟩
    rw [hsession]
    exact ⟨hin.active, hrow, hidle, by rw [hnext]; exact Option.some_ne_none _⟩
  · obtain ⟨hkept', hsame, ⟨hno, hstored⟩ | ⟨_, hpromoted, _⟩⟩ :=
      ClientIdentity.checkpointed h.kept hin.active hnext r.client.laterNow
    · refine ⟨S', h.served hsession hkept' hserved, Or.inr (Or.inr ⟨houtruns
        (by rw [hfate]; decide) fun hyes => hno hyes.2.2, ?_⟩)⟩
      rw [hsession]
      refine ⟨?_, hrow.of_keys (by rw [← hsame]; rfl), hidle, ?_⟩
      · exact (congrArg (RotationEngine.statusAt · a) hstored).trans hin.active
      · rw [show (w.session.withIdentity _).identity.stored ccfg = _ from hstored, hnext]
        exact Option.some_ne_none _
    · refine ⟨S', h.served hsession hkept' hserved, Or.inr (Or.inl ⟨?_, hidle⟩)⟩
      rw [hsession]
      exact ⟨hpromoted, hrow'.of_keys (by rw [← hsame]; rfl), Or.inl hidle⟩

lemma InStep.rollbackRotation (hP : Lawful P) (h : Linked P ccfg scfg S w)
    (hin : InStep P ccfg w.session.identity S a) (hr : Drawn P r) (fate : Fate) :
    let w' := (w.exchange P scfg (ClientSession.rollbackRotation P ccfg r.client) fate r.server).2
    ∃ S', Linked P ccfg scfg S' w' ∧ InStep P ccfg w'.session.identity S' a := by
  have hmoves := rollback_moves hP h hin.active hin.row hr fate
  dsimp only at hmoves ⊢
  generalize (w.exchange P scfg (ClientSession.rollbackRotation P ccfg r.client) fate r.server).2 = w' at hmoves ⊢
  rcases hmoves with ⟨hstate, hsession⟩ | ⟨S', hserved, hsession⟩
  · refine ⟨S, h.same hsession h.kept hstate, ?_⟩
    rw [hsession]
    exact hin
  obtain ⟨t, ht⟩ := hserved.transition
  have hevolves := S.evolves_transition P t
  rw [ht] at hevolves
  obtain ⟨hidle, hrow⟩ := hin.rollback h.window hserved.acts hevolves
  rcases hsession with hsession | hsession
  · refine ⟨S', h.served hsession h.kept hserved, ?_⟩
    rw [hsession]
    exact ⟨hin.active, hrow, Or.inl hidle⟩
  · obtain ⟨hkept', hsame, hstatus⟩ := ClientIdentity.rolledBack h.kept r.client.laterNow
    refine ⟨S', h.served hsession hkept' hserved, ?_⟩
    rw [hsession]
    exact ⟨hstatus _ _ hin.active (by decide), hrow.of_keys (by rw [← hsame]; rfl), Or.inl hidle⟩

lemma reconnect_moves (h : Linked P ccfg scfg S w) (fresh : PrivateKeys) (now : ℤ) (fate : Fate)
    (d : Server.Draw) :
    Linked P ccfg scfg S (move P ccfg scfg w (.reconnect fresh now fate d)) ∧
      (move P ccfg scfg w (.reconnect fresh now fate d)).session.identity =
        w.session.identity.withRows (w.session.identity.stored ccfg) := by
  have hdial : w.session.dial P ccfg fresh now = (.ok (), { w.session with
      identity := w.session.identity.withRows (w.session.identity.stored ccfg), connected := true }) := by
    rw [ClientSession.dial, ClientIdentity.ensureLoaded_kept h.kept]
  have hkept := ClientIdentity.kept_reload h.kept
  have hmove : move P ccfg scfg w (.reconnect fresh now fate d) = { w with session :=
      { w.session with
        identity := w.session.identity.withRows (w.session.identity.stored ccfg), connected := true } } := by
    rw [move, World.connect, hdial]
    exact congrArg Prod.snd (if_pos hkept.enrolled)
  rw [hmove]
  refine ⟨⟨h.token, hkept, ?_, h.window, ⟨h.tracks.credential, h.tracks.keys⟩⟩, rfl⟩
  rw [identityUuid_congr h.token _ w.session.identity]
  exact h.load

lemma Behind.move (hP : Lawful P) (h : Linked P ccfg scfg S w)
    (hb : Behind P ccfg w.session.identity S a) (m : Move P) :
    Linked P ccfg scfg S (move P ccfg scfg w m) ∧
      Behind P ccfg (move P ccfg scfg w m).session.identity S a := by
  have hsame : ∀ w', w'.server.state = w.server.state → w'.session = w.session →
      Linked P ccfg scfg S w' ∧ Behind P ccfg w'.session.identity S a := by
    intro w' hstate hsession
    refine ⟨h.same hsession h.kept hstate, ?_⟩
    rw [hsession]
    exact hb
  have hidle : ∀ v3, S.validating ≠ some v3 := by
    intro v3 hv3
    rw [hb.idle] at hv3
    cases hv3
  obtain ⟨_ | _ | _, fate, r, hr⟩ | ⟨fresh, now, fate, d⟩ := m
  · rcases rotate_moves hP h hb.active hb.row hr fate with
      hmove | ⟨active, _, _, _, rfl, _, _, hsubmit, _⟩
    · exact hsame _ (congrArg (·.server.state) hmove) (congrArg (·.session) hmove)
    · exact (hb.known (h.kept.statusAt_known.mp hsubmit.unknown)).elim
  · rcases checkpoint_moves hP h hb.active hb.row hr.toDrawn fate with
      ⟨hstate, hsession, _⟩ | ⟨S', ⟨_, ⟨v3, _, hv3, _⟩, _, _, _⟩, _⟩
    · exact hsame _ hstate hsession
    · exact (hidle v3 hv3).elim
  · rcases rollback_moves hP h hb.active hb.row hr.toDrawn fate with
      ⟨hstate, hsession⟩ | ⟨S', ⟨_, ⟨v3, hv3, _⟩, _, _, _⟩, _⟩
    · exact hsame _ hstate hsession
    · exact (hidle v3 hv3).elim
  · obtain ⟨hlinked, hidentity⟩ := reconnect_moves h fresh now fate d
    refine ⟨hlinked, ?_⟩
    rw [hidentity]
    exact ⟨hb.active, hb.row, hb.idle, hb.known⟩

lemma Seals.not_authentic {keys : KeyMap} (h : Seals P S keys a .validating) {I : Uuid} {conn : Connection} :
    ¬ Authentic I conn S a r := by
  rintro ⟨_, _, husable⟩
  obtain ⟨row, hrow⟩ := Option.isSome_iff_exists.mp husable
  obtain ⟨hget, hstatus, _⟩ := RotationEngine.credentialForAuth_eq_some.mp hrow
  have hs := h.statusAt
  rw [statusAt_of_get hget] at hs
  rw [Option.some.inj hs] at hstatus
  rcases hstatus with hs | hs <;> cases hs

lemma Ahead.rotate (hP : Lawful P) (h : Linked P ccfg scfg S w)
    (hd : Ahead P ccfg w.session.identity S b a) (hr : Generated P r) (fate : Fate) :
    Linked P ccfg scfg S (move P ccfg scfg w (.call .rotate fate r hr)) ∧
      Ahead P ccfg (move P ccfg scfg w (.call .rotate fate r hr)).session.identity S b a := by
  have hmoves := rotate_moves hP h hd.active hd.row hr fate
  have hmove : System.move P ccfg scfg w (.call .rotate fate r hr) =
      (w.exchange P scfg (ClientSession.rotate P ccfg r.client) fate r.server).2 := rfl
  rw [hmove]
  generalize (w.exchange P scfg (ClientSession.rotate P ccfg r.client) fate r.server).2 = w' at hmoves
  rcases hmoves with rfl | ⟨active, signature, payload, hcurrent, rfl, hpayload, hsignature, hsubmit,
    ⟨hstate, hsession⟩ | ⟨S', hserved, _⟩⟩
  · exact ⟨h, hd⟩
  · obtain ⟨hkept, hactive⟩ := h.submitting hcurrent hr.successor hsubmit
    have hrow : Seals P S (submitting P w active r.client).keys active.version .validating :=
      hd.row.of_keys (keysFor_submitting active active.version ▸ if_neg (by omega))
    have hdemoted : ((submitting P w active r.client).stored ccfg).statusAt b = some .fallback := by
      have hmemory := h.kept.statusAt_memory hd.demoted (by decide)
      rw [submitting, ClientIdentity.statusAt_submittedBy h.kept hcurrent, if_neg, hmemory]
      rintro rfl
      have hunknown := hsubmit.unknown
      rw [show (credentialOf P active.identityUuid (active.version + 1) r.client.successor).version =
        active.version + 1 from rfl, hmemory] at hunknown
      cases hunknown
    rcases hsession with hsession | hsession
    · refine ⟨h.same hsession hkept hstate, ?_⟩
      rw [hsession]
      exact ⟨hactive, hdemoted, hrow, hd.current⟩
    · obtain ⟨hkept', hsame, hstatus⟩ := ClientIdentity.rolledBack hkept r.client.laterNow
      refine ⟨h.same hsession hkept' hstate, ?_⟩
      rw [hsession]
      exact ⟨hstatus _ _ hactive (by decide), hstatus _ _ hdemoted (by decide),
        hrow.of_keys (by rw [← hsame]; rfl), hd.current⟩
  · exact (hd.row.not_authentic hserved.authentic).elim

lemma Ahead.checkpointRotation (hP : Lawful P) (h : Linked P ccfg scfg S w)
    (hd : Ahead P ccfg w.session.identity S b a) (hr : Generated P r) (fate : Fate) :
    let out := w.exchange P scfg (ClientSession.checkpointRotation P ccfg r.client) fate r.server
    Linked P ccfg scfg S out.2 ∧ Ahead P ccfg out.2.session.identity S b a ∧
      out.1 ≠ .ok (.promoted true) := by
  rcases checkpoint_moves hP h hd.active hd.row hr.toDrawn fate with
    ⟨hstate, hsession, hno⟩ | ⟨S', hserved, _⟩
  · refine ⟨h.same hsession h.kept hstate, ?_, hno⟩
    rw [hsession]
    exact hd
  · exact (hd.row.not_authentic hserved.authentic).elim

lemma Ahead.rollbackRotation (hP : Lawful P) (h : Linked P ccfg scfg S w)
    (hd : Ahead P ccfg w.session.identity S b a) (hr : Drawn P r) (fate : Fate) :
    let w' := (w.exchange P scfg (ClientSession.rollbackRotation P ccfg r.client) fate r.server).2
    Linked P ccfg scfg S w' ∧ Ahead P ccfg w'.session.identity S b a := by
  rcases rollback_moves hP h hd.active hd.row hr fate with
    ⟨hstate, hsession⟩ | ⟨S', hserved, _⟩
  · refine ⟨h.same hsession h.kept hstate, ?_⟩
    rw [hsession]
    exact hd
  · exact (hd.row.not_authentic hserved.authentic).elim

end Moves

end Secupload.System
