import Secupload.Shared.RotationWindow

namespace Secupload.Shared

structure CredentialPublic.Evolves (c d : CredentialPublic) : Prop where
  identity : d.identityUuid = c.identityUuid
  version : d.version = c.version
  ed25519 : d.ed25519Public = c.ed25519Public
  x25519 : d.x25519Public = c.x25519Public
  created : d.createdAt = c.createdAt
  dead : c.status.dead = true → d.status.dead = true

namespace CredentialPublic.Evolves

variable {c d f : CredentialPublic}

lemma refl (c : CredentialPublic) : c.Evolves c := ⟨rfl, rfl, rfl, rfl, rfl, id⟩

lemma trans (h : c.Evolves d) (k : d.Evolves f) : c.Evolves f where
  identity := k.identity.trans h.identity
  version := k.version.trans h.version
  ed25519 := k.ed25519.trans h.ed25519
  x25519 := k.x25519.trans h.x25519
  created := k.created.trans h.created
  dead := fun hd => k.dead (h.dead hd)

lemma retired {status : CredentialStatus} (hs : status.dead = true) :
    c.Evolves (RotationEngine.retired c status) :=
  ⟨rfl, rfl, rfl, rfl, rfl, fun _ => hs⟩

lemma of_inWindow {status : CredentialStatus} (hw : c.status.inWindow = true)
    (activation expiration : Option ℤ) :
    c.Evolves { c with status, activationTime := activation, expirationTime := expiration } := by
  refine ⟨rfl, rfl, rfl, rfl, rfl, fun hd => ?_⟩
  rw [CredentialStatus.not_dead_of_inWindow hw] at hd
  cases hd

end CredentialPublic.Evolves

namespace RotationEngine

structure Evolves (e e' : RotationEngine) : Prop where
  params : e'.params = e.params
  cred : ∀ v c, e.get v = some c → ∃ c', e'.get v = some c' ∧ c.Evolves c'

namespace Evolves

variable {e e' e'' : RotationEngine}

lemma refl (e : RotationEngine) : e.Evolves e := ⟨rfl, fun _ c h => ⟨c, h, .refl c⟩⟩

lemma trans (h : e.Evolves e') (k : e'.Evolves e'') : e.Evolves e'' where
  params := k.params.trans h.params
  cred := by
    intro v c hc
    obtain ⟨c', hc', hcc'⟩ := h.cred v c hc
    obtain ⟨c'', hc'', hcc''⟩ := k.cred v c' hc'
    exact ⟨c'', hc'', hcc'.trans hcc''⟩

lemma put {n : CredentialPublic} (h : ∀ c, e.get n.version = some c → c.Evolves n) :
    e.Evolves (e.put n) where
  params := rfl
  cred := by
    intro v c hc
    rw [get_put]
    split
    · rename_i hv
      exact ⟨n, rfl, h c (hv ▸ hc)⟩
    · exact ⟨c, hc, .refl c⟩

lemma put_of_mem {c n : CredentialPublic} (hc : c ∈ e.creds.rows) (h : c.Evolves n) :
    e.Evolves (e.put n) := by
  apply put
  intro d hd
  obtain ⟨hmem, hv⟩ := get_eq_some.mp hd
  rwa [e.creds.row_unique hmem hc (hv.trans h.version)]

lemma put_new {n : CredentialPublic} (h : ∀ d ∈ e.creds.rows, d.version < n.version) :
    e.Evolves (e.put n) := by
  apply put
  intro c hc
  obtain ⟨hmem, hv⟩ := get_eq_some.mp hc
  have hlt := h c hmem
  omega

lemma terminateFallback (e : RotationEngine) : e.Evolves e.terminateFallback := by
  rw [RotationEngine.terminateFallback]
  split
  · exact refl e
  · rename_i v1 hv1
    exact put_of_mem (mem_of_byStatus hv1).1 (.retired rfl)

lemma expireAll (e : RotationEngine) (now : ℤ) : e.Evolves (e.expireAll now).2 where
  params := rfl
  cred := by
    intro v c hc
    refine ⟨sweep now c, by rw [expireAll_get, hc]; rfl, ?_⟩
    rw [sweep]
    split
    · exact .retired rfl
    · exact .refl c

end Evolves

section Operations

variable (P : Primitives) (e : RotationEngine)

lemma terminateFallback_get {v : ℤ} {c : CredentialPublic} (hc : e.get v = some c)
    (hs : c.status ≠ .fallback) : e.terminateFallback.get v = some c := by
  rw [RotationEngine.terminateFallback]
  split
  · exact hc
  · rename_i v1 hv1
    have hmem := mem_of_byStatus hv1
    rw [get_put, if_neg, hc]
    intro hv
    have hcm := get_eq_some.mp hc
    exact hs (e.creds.row_unique hcm.1 hmem.1 (hcm.2.trans hv.symm) ▸ hmem.2)

lemma evolves_promote {v2 v3 : CredentialPublic} (now : ℤ) (hv2 : e.active = some v2)
    (hv3 : e.validating = some v3) :
    e.Evolves ((e.terminateFallback.put (demoted e.params v2 now)).put (promoted v3 now)) := by
  obtain ⟨hm2, hs2⟩ := mem_of_byStatus hv2
  obtain ⟨hm3, hs3⟩ := mem_of_byStatus hv3
  have hne : v2.version ≠ v3.version := by
    intro hv
    rw [e.creds.row_unique hm2 hm3 hv, hs3] at hs2
    cases hs2
  have h2 := e.terminateFallback_get (get_of_mem hm2) (by simp [hs2])
  have h3 := e.terminateFallback_get (get_of_mem hm3) (by simp [hs3])
  have h3' : (e.terminateFallback.put (demoted e.params v2 now)).get v3.version = some v3 := by
    rw [get_put, if_neg (show (demoted e.params v2 now).version ≠ v3.version from hne), h3]
  have hdemote : e.terminateFallback.Evolves (e.terminateFallback.put (demoted e.params v2 now)) :=
    .put_of_mem (get_eq_some.mp h2).1 (.of_inWindow (by rw [hs2]; rfl) _ _)
  have hpromote : (e.terminateFallback.put (demoted e.params v2 now)).Evolves
      ((e.terminateFallback.put (demoted e.params v2 now)).put (promoted v3 now)) :=
    .put_of_mem (get_eq_some.mp h3').1 (.of_inWindow (by rw [hs3]; rfl) _ _)
  exact ((Evolves.terminateFallback e).trans hdemote).trans hpromote

lemma evolves_transition (t : Transition) : e.Evolves (t.exec P e).2 := by
  rcases transition_cases P e t with
    he | ⟨n, signature, metadata, now, hs, he⟩ | ⟨c, status, hc, hdead, _, he⟩ |
    ⟨v2, v3, now, hv2, hv3, he⟩ | ⟨now, rfl⟩
  · exact he.symm ▸ .refl e
  · exact he ▸ .put_new hs.newest
  · exact he ▸ .put_of_mem hc (.retired hdead)
  · exact he ▸ e.evolves_promote now hv2 hv3
  · exact .expireAll e now

lemma evolves_provisionInitial (cred : CredentialPublic) (now : ℤ) :
    e.Evolves (e.provisionInitial cred now).2 := by
  rcases provisionInitial_cases e now cred with ⟨exc, he⟩ | ⟨hp, he⟩
  · exact he ▸ .refl e
  · exact he ▸ .put_new (lt_of_maxVersion hp.order)

end Operations

section Rows

variable {e : RotationEngine}

lemma rows_put_of_mem {c n d : CredentialPublic} (hc : c ∈ e.creds.rows) (h : c.Evolves n)
    (hd : d ∈ (e.put n).creds.rows) : ∃ b ∈ e.creds.rows, b.Evolves d := by
  rcases mem_put.mp hd with rfl | ⟨hd', _⟩
  · exact ⟨c, hc, h⟩
  · exact ⟨d, hd', .refl d⟩

lemma rows_terminateFallback {d : CredentialPublic} (hd : d ∈ e.terminateFallback.creds.rows) :
    ∃ b ∈ e.creds.rows, b.Evolves d := by
  rw [RotationEngine.terminateFallback] at hd
  split at hd
  · exact ⟨d, hd, .refl d⟩
  · rename_i v1 hv1
    exact rows_put_of_mem (mem_of_byStatus hv1).1 (.retired rfl) hd

lemma rows_promote {v2 v3 d : CredentialPublic} {now : ℤ} (hv2 : e.active = some v2)
    (hv3 : e.validating = some v3) (hd : d ∈ ((e.terminateFallback.put (demoted e.params v2 now)).put
      (promoted v3 now)).creds.rows) : ∃ b ∈ e.creds.rows, b.Evolves d := by
  have hw3 : v3.status.inWindow = true := by rw [(mem_of_byStatus hv3).2]; rfl
  have hw2 : v2.status.inWindow = true := by rw [(mem_of_byStatus hv2).2]; rfl
  rcases mem_put.mp hd with rfl | ⟨hd, _⟩
  · exact ⟨v3, (mem_of_byStatus hv3).1, .of_inWindow hw3 _ _⟩
  · rcases mem_put.mp hd with rfl | ⟨hd, _⟩
    · exact ⟨v2, (mem_of_byStatus hv2).1, .of_inWindow hw2 _ _⟩
    · exact rows_terminateFallback hd

lemma rows_checkpoint {now : ℤ} {d : CredentialPublic} (hd : d ∈ (e.checkpoint now).2.creds.rows) :
    ∃ b ∈ e.creds.rows, b.Evolves d := by
  rcases checkpoint_cases e now with
    ⟨exc, he⟩ | ⟨v3, exc, hv3, _, _, he⟩ | ⟨v3, v2, changed, hv3, _, _, hv2, _, he⟩
  · rw [he] at hd
    exact ⟨d, hd, .refl d⟩
  · rw [he] at hd
    exact rows_put_of_mem (mem_of_byStatus hv3).1 (.retired rfl) hd
  · rw [he] at hd
    exact rows_promote hv2 hv3 hd

end Rows

section Promotion

variable {e : RotationEngine} {c v2 v3 : CredentialPublic} {v now : ℤ}

def ended (c : CredentialPublic) : CredentialPublic :=
  if c.status = .fallback then retired c .terminated else c

lemma WindowInv.get_terminateFallback (h : WindowInv e) (v : ℤ) :
    e.terminateFallback.get v = (e.get v).map ended := by
  cases hc : e.get v with
  | none =>
    rw [get_eq_none] at hc
    refine get_eq_none.mpr fun d hd => ?_
    obtain ⟨b, hb, hbd⟩ := rows_terminateFallback hd
    rw [hbd.version]
    exact hc b hb
  | some c =>
    obtain ⟨hmem, hv⟩ := get_eq_some.mp hc
    rw [Option.map_some, ended]
    split
    · rename_i hs
      exact get_eq_some.mpr ⟨h.mem_terminateFallback.mpr (Or.inr ⟨c, hmem, hs, rfl⟩), hv⟩
    · rename_i hs
      exact get_eq_some.mpr ⟨h.mem_terminateFallback.mpr (Or.inl ⟨hmem, hs⟩), hv⟩

lemma WindowInv.get_promote (h : WindowInv e) (v2 v3 : CredentialPublic) (now v : ℤ) :
    ((e.terminateFallback.put (demoted e.params v2 now)).put (promoted v3 now)).get v =
      if v3.version = v then some (promoted v3 now)
      else if v2.version = v then some (demoted e.params v2 now)
      else (e.get v).map ended := by
  rw [get_put, get_put, h.get_terminateFallback]
  rfl

lemma WindowInv.byStatus_of_get (h : WindowInv e) (hc : e.get v = some c)
    (hw : c.status.inWindow = true) : e.byStatus c.status = some c := by
  obtain ⟨hmem, _⟩ := get_eq_some.mp hc
  obtain ⟨d, hd⟩ := Option.isSome_iff_exists.mp (byStatus_isSome.mpr ⟨c, hmem, rfl⟩)
  obtain ⟨hdmem, hds⟩ := mem_of_byStatus hd
  rw [hd, h.unique c hmem d hdmem hw hds.symm]

end Promotion

def BelongsTo (e : RotationEngine) (identityUuid : Uuid) : Prop :=
  ∀ c ∈ e.creds.rows, c.identityUuid = identityUuid

section BelongsTo

variable {e : RotationEngine} {I : Uuid}

lemma BelongsTo.put (h : e.BelongsTo I) {n : CredentialPublic} (hn : n.identityUuid = I) :
    (e.put n).BelongsTo I := by
  intro c hc
  rcases mem_put.mp hc with rfl | ⟨hc', _⟩
  · exact hn
  · exact h c hc'

lemma BelongsTo.terminateFallback (h : e.BelongsTo I) : e.terminateFallback.BelongsTo I := by
  rw [RotationEngine.terminateFallback]
  split
  · exact h
  · rename_i v1 hv1
    exact h.put (h v1 (mem_of_byStatus hv1).1)

lemma BelongsTo.transition (P : Primitives) (h : e.BelongsTo I) (t : Transition) :
    (t.exec P e).2.BelongsTo I := by
  rcases transition_cases P e t with
    he | ⟨n, signature, metadata, now, hs, he⟩ | ⟨c, status, hc, _, _, he⟩ |
    ⟨v2, v3, now, hv2, hv3, he⟩ | ⟨now, rfl⟩
  · exact he.symm ▸ h
  · obtain ⟨signer, _, hsigner, _, _, _, hidentity, _⟩ := hs
    exact he ▸ h.put (hidentity.trans (h signer (mem_of_byStatus hsigner).1))
  · exact he ▸ h.put (h c hc)
  · have hdemoted : (demoted e.params v2 now).identityUuid = I := h v2 (mem_of_byStatus hv2).1
    have hpromoted : (promoted v3 now).identityUuid = I := h v3 (mem_of_byStatus hv3).1
    exact he ▸ (h.terminateFallback.put hdemoted).put hpromoted
  · intro c hc
    obtain ⟨c', hc', rfl⟩ := List.mem_map.mp hc
    rw [sweep]
    split
    · exact h c' hc'
    · exact h c' hc'

lemma BelongsTo.provisionInitial (h : e.BelongsTo I) {cred : CredentialPublic}
    (hcred : cred.identityUuid = I) (now : ℤ) : (e.provisionInitial cred now).2.BelongsTo I := by
  rcases provisionInitial_cases e now cred with ⟨exc, he⟩ | ⟨_, he⟩
  · exact he ▸ h
  · exact he ▸ h.put hcred

end BelongsTo

end RotationEngine

end Secupload.Shared
