import Mathlib.Algebra.Order.BigOperators.Group.List
import Secupload.Shared.Formats

namespace Secupload.Shared

open Library

section Parsing

variable {α : Type} {f : Format Exn UInt8 α} {data : Bytes} {a : α} {trailing : Exn}

lemma parse_eq_ok {dec : Decoder α} (h : Decoder.parse data dec = .ok a) :
    ∃ rest, dec.run data = .ok (a, rest) := by
  obtain ⟨⟨a', rest⟩, hrun, ha⟩ := except_bind_eq_ok.mp h
  obtain rfl := Except.ok.inj ha
  exact ⟨rest, hrun⟩

lemma parseAll_eq_ok {dec : Decoder α} (h : Decoder.parseAll data trailing dec = .ok a) :
    dec.run data = .ok (a, []) := by
  obtain ⟨⟨a', rest⟩, hrun, ha⟩ := except_bind_eq_ok.mp h
  by_cases hrest : rest = []
  · subst hrest
    obtain rfl := Except.ok.inj ha
    exact hrun
  · simp only [if_neg hrest] at ha
    cases ha

lemma Format.parse_exact {parsed : Except Exn α} (hread : Decoder.parse data f.read = parsed)
    {word : Except Exn Bytes} (hwrite : f.write a = word) (h : parsed = .ok a) :
    word = .ok data ↔ f.Exact data := by
  obtain ⟨rest, hrun⟩ := parse_eq_ok (hread.trans h)
  rw [← hwrite]
  exact f.write_eq_ok_iff hrun

lemma Format.parseAll_exact {parsed : Except Exn α}
    (hread : Decoder.parseAll data trailing f.read = parsed) {word : Except Exn Bytes}
    (hwrite : f.write a = word) (h : parsed = .ok a) : word = .ok data ↔ f.Exact data := by
  rw [← hwrite]
  exact f.write_eq_ok_iff (parseAll_eq_ok (hread.trans h))

lemma Format.parse_write {parse : Bytes → Except Exn α}
    (hread : ∀ data, Decoder.parse data f.read = parse data) {word : Except Exn Bytes}
    (hwrite : f.write a = word) (h : f.Domain a) : ∃ data, word = .ok data ∧ parse data = .ok a := by
  obtain ⟨data, hword, hrun⟩ := h.reads
  refine ⟨data, hwrite ▸ hword, ?_⟩
  rw [← hread, Decoder.parse, hrun]
  rfl

lemma Format.parseAll_write {parse : Bytes → Except Exn α}
    (hread : ∀ data, Decoder.parseAll data trailing f.read = parse data) {word : Except Exn Bytes}
    (hwrite : f.write a = word) (h : f.Domain a) : ∃ data, word = .ok data ∧ parse data = .ok a := by
  obtain ⟨data, hword, hrun⟩ := h.reads
  refine ⟨data, hwrite ▸ hword, ?_⟩
  rw [← hread, Decoder.parseAll, hrun]
  rfl

end Parsing

def U8 (v : ℤ) : Prop := 0 ≤ v ∧ v < 2 ^ 8

def U32 (v : ℤ) : Prop := 0 ≤ v ∧ v < 2 ^ 32

def U64 (v : ℤ) : Prop := 0 ≤ v ∧ v < 2 ^ 64

def I64 (v : ℤ) : Prop := -2 ^ 63 ≤ v ∧ v < 2 ^ 63

def Short (b : Bytes) : Prop := b.length < 2 ^ 32

namespace Format

open Library.Format (Domain writeAll_domain append_eq_ok)

variable {v : ℤ} {α : Type} {f : Format Exn UInt8 α}

lemma uint_domain {n : ℕ} : Domain (uint n) v ↔ 0 ≤ v ∧ v < 256 ^ n := packUInt_isOk

@[simp] lemma u8_domain : Domain u8 v ↔ U8 v := uint_domain

@[simp] lemma u32_domain : Domain u32 v ↔ U32 v := by
  rw [u32, uint_domain, U32]
  norm_num

@[simp] lemma u64_domain : Domain u64 v ↔ U64 v := by
  rw [u64, uint_domain, U64]
  norm_num

@[simp] lemma i64_domain : Domain i64 v ↔ I64 v := by
  constructor
  · rintro ⟨w, hw⟩
    change packInt64 v = .ok w at hw
    rw [packInt64] at hw
    split at hw
    · assumption
    · cases hw
  · intro h
    exact ⟨_, if_pos h⟩

@[simp] lemma bytes_domain {b : Bytes} : Domain bytes b ↔ Short b := by
  have hlen : (∃ len, packUInt 4 b.length = .ok len) ↔ Short b := by
    rw [packUInt_isOk, Short]
    omega
  rw [← hlen]
  constructor
  · rintro ⟨w, hw⟩
    obtain ⟨len, hlen, _⟩ := new_bytes.mp hw
    exact ⟨len, hlen⟩
  · rintro ⟨len, hlen⟩
    exact ⟨len ++ b, bytes_write hlen⟩

@[simp] lemma str_domain {t : String} : Domain str t ↔ Short (utf8 t) := bytes_domain

@[simp] lemma uuid_domain {u : Option Uuid} : Domain uuid u := by
  cases u <;> exact ⟨_, rfl⟩

@[simp] lemma someUuid_domain {u : Uuid} : Domain someUuid u := ⟨_, rfl⟩

lemma nested_domain {a : α} : Domain (nested f) a ↔ ∃ w, f.write a = .ok w ∧ Short w := by
  constructor
  · rintro ⟨w, h⟩
    rw [nested_write] at h
    obtain ⟨field, hfield, hbytes⟩ := except_bind_eq_ok.mp h
    exact ⟨field, hfield, bytes_domain.mp ⟨w, hbytes⟩⟩
  · rintro ⟨field, hfield, hshort⟩
    obtain ⟨w, hw⟩ := bytes_domain.mpr hshort
    refine ⟨w, ?_⟩
    rw [nested_write, hfield, except_ok_bind, hw]

lemma counted_domain {as : List α} :
    Domain (counted f) as ↔ as.length < 2 ^ 32 ∧ ∀ a ∈ as, f.Domain a := by
  have hlen : (∃ len, packUInt 4 as.length = .ok len) ↔ as.length < 2 ^ 32 := by
    rw [packUInt_isOk]
    omega
  rw [← hlen, ← writeAll_domain]
  constructor
  · rintro ⟨w, h⟩
    obtain ⟨len, v, hlen, hv, _⟩ := append_eq_ok.mp h
    exact ⟨⟨len, hlen⟩, v, hv⟩
  · rintro ⟨⟨len, hlen⟩, v, hv⟩
    exact ⟨len ++ v, append_eq_ok.mpr ⟨len, v, hlen, hv, rfl⟩⟩

lemma marker_domain {tag : Bytes} {exc : Exn} {a : Unit} : Domain (marker tag exc) a ↔ Short tag :=
  bytes_domain

end Format

section Canonical

variable (data : Bytes)

theorem decoded_canonical_iff :
    (∀ msg, parseRequestMessage data = .ok msg →
      (encodeRequestMessage msg = .ok data ↔ RequestMessage.format.Exact data)) ∧
    (∀ msg, parseResponseMessage data = .ok msg →
      (encodeResponseMessage msg = .ok data ↔ ResponseMessage.format.Exact data)) ∧
    (∀ msg, parseControl data = .ok msg →
      (encodeControl msg.ctype msg.body = .ok data ↔ ControlMessage.format.Exact data)) ∧
    (∀ entry, parseRegistryEntry data = .ok entry →
      (encodeRegistryEntry entry = .ok data ↔ RegistryEntry.format.Exact data)) ∧
    (∀ entries, parseRegistrySnapshot data = .ok entries →
      (encodeRegistrySnapshot entries = .ok data ↔ registrySnapshot.Exact data)) ∧
    (∀ body, parseEnrollmentBody data = .ok body →
      (encodeEnrollmentBody body = .ok data ↔ EnrollmentBody.format.Exact data)) ∧
    (∀ p, unwrapEncrypted data = .ok p →
      (wrapEncrypted p = .ok data ↔ EncryptedPayload.format.Exact data)) ∧
    (∀ p, unwrapEncryptedChunk data = .ok p →
      (wrapEncryptedChunk p = .ok data ↔ EncryptedChunk.format.Exact data)) ∧
    (∀ info, parseServerKeyInfo data = .ok info →
      (encodeServerKeyInfo info = .ok data ↔ ServerKeyInfo.format.Exact data)) ∧
    (∀ resp, parseEnrollResponse data = .ok resp →
      (encodeEnrollResponse resp = .ok data ↔ EnrollResponse.format.Exact data)) ∧
    (∀ p, parseSuccessorPayload data = .ok p →
      (encodeSuccessorPayload p.identityUuid p.oldVersion p.newVersion p.newEd25519Public
        p.newX25519Public p.transitionMetadata = .ok data ↔ SuccessorPayload.format.Exact data)) := by
  refine ⟨?_, ?_, ?_, ?_, ?_, ?_, ?_, ?_, ?_, ?_, ?_⟩
  · intro msg
    exact Format.parse_exact (RequestMessage.read_format data) (RequestMessage.write_format msg)
  · intro msg
    exact Format.parse_exact (ResponseMessage.read_format data) (ResponseMessage.write_format msg)
  · intro msg
    exact Format.parse_exact (ControlMessage.read_format data) (ControlMessage.write_format msg)
  · intro entry
    exact Format.parse_exact (RegistryEntry.read_format data) (RegistryEntry.write_format entry)
  · intro entries
    exact Format.parseAll_exact (registrySnapshot_read data) (registrySnapshot_write entries)
  · intro body
    exact Format.parse_exact (EnrollmentBody.read_format data) (EnrollmentBody.write_format body)
  · intro p
    exact Format.parseAll_exact (EncryptedPayload.read_format data) (EncryptedPayload.write_format p)
  · intro p
    exact Format.parseAll_exact (EncryptedChunk.read_format data) (EncryptedChunk.write_format p)
  · intro info
    exact Format.parse_exact (ServerKeyInfo.read_format data) (ServerKeyInfo.write_format info)
  · intro resp
    exact Format.parse_exact (EnrollResponse.read_format data) (EnrollResponse.write_format resp)
  · intro p
    exact Format.parse_exact (SuccessorPayload.read_format data) (SuccessorPayload.write_format p)

-- a byte behind a control message, the flag 2 of a chunk's object, an absent object with filler
theorem malleable_words :
    (¬ ∀ data msg, parseControl data = .ok msg → encodeControl msg.ctype msg.body = .ok data) ∧
    (¬ ∀ data p, unwrapEncryptedChunk data = .ok p → wrapEncryptedChunk p = .ok data) ∧
    ¬ ∀ data msg, parseRequestMessage data = .ok msg → encodeRequestMessage msg = .ok data := by
  refine ⟨?_, ?_, ?_⟩
  · intro h
    have henc := h [4, 0, 0, 0, 0, 9] ⟨4, []⟩ (by decide +kernel)
    revert henc
    decide +kernel
  · intro h
    have henc := h ([0, 0, 0, 1, 2] ++ List.replicate 32 0) ⟨1, Uuid.nil, 0, [], []⟩ (by decide +kernel)
    revert henc
    decide +kernel
  · intro h
    have henc := h ([1, 0] ++ List.replicate 16 5 ++ List.replicate 16 0) ⟨1, none, "", 0, ""⟩
      (by decide +kernel)
    revert henc
    decide +kernel

end Canonical

section RoundTrip

def RequestMessage.InRange (msg : RequestMessage) : Prop :=
  U8 msg.op ∧ Short (utf8 msg.fileType) ∧ U64 msg.fileSize ∧ Short (utf8 msg.metadata)

def ResponseMessage.InRange (msg : ResponseMessage) : Prop :=
  U8 msg.status ∧ Short (utf8 msg.message) ∧ Short (utf8 msg.fileType) ∧ U64 msg.fileSize ∧
    Short (utf8 msg.contentIntegrity) ∧ U32 msg.serverKeyVersion ∧ Short msg.serverEd25519Public ∧
    Short msg.serverX25519Public ∧ Short msg.serverSuccessorSignature ∧ U32 msg.serverPrevVersion

def ControlMessage.InRange (msg : ControlMessage) : Prop := U8 msg.ctype ∧ Short msg.body

def RegistryEntry.InRange (entry : RegistryEntry) : Prop :=
  U32 entry.version ∧ U8 entry.status ∧ Short entry.ed25519Public ∧ Short entry.x25519Public ∧
    I64 entry.createdAt ∧ I64 entry.validationDeadline ∧ I64 entry.activationTime ∧
    I64 entry.expirationTime

def EnrollmentBody.InRange (body : EnrollmentBody) : Prop :=
  U8 body.identityKind ∧ Short (utf8 body.token) ∧ U32 body.version ∧ Short body.ed25519Public ∧
    Short body.x25519Public

def EncryptedPayload.InRange (p : EncryptedPayload) : Prop :=
  U32 p.recipientVersion ∧ Short p.ephemeralPublic ∧ Short p.nonce ∧ Short p.ciphertext

def EncryptedChunk.InRange (p : EncryptedChunk) : Prop :=
  U32 p.recipientVersion ∧ U64 p.chunkIndex ∧ Short p.ephemeralPublic ∧ Short p.ciphertext

def ServerKeyInfo.InRange (info : ServerKeyInfo) : Prop :=
  U32 info.version ∧ Short info.ed25519Public ∧ Short info.x25519Public ∧ U32 info.prevVersion ∧
    Short info.successorSignature

def EnrollResponse.InRange (resp : EnrollResponse) : Prop :=
  U8 resp.status ∧ Short (utf8 resp.message) ∧ Short resp.serverKeyInfo

def SuccessorPayload.InRange (p : SuccessorPayload) : Prop :=
  U32 p.oldVersion ∧ U32 p.newVersion ∧ Short p.newEd25519Public ∧ Short p.newX25519Public ∧
    Short p.transitionMetadata

open Library.Format (seq_domain equiv_domain closed_of_tidy)

lemma RequestMessage.domain (msg : RequestMessage) : format.Domain msg ↔ msg.InRange := by
  simp [format, fields, InRange, seq_domain, equiv_domain, and_assoc]

lemma RequestMessage.inRange {data : Bytes} {msg : RequestMessage} (h : parseRequestMessage data = .ok msg) :
    msg.InRange := by
  have hclosed : format.Closed := by
    have hop : Format.u8.Closed := closed_of_tidy fun _ => trivial
    have huuid : Format.uuid.Closed := fun _ _ _ _ => Format.uuid_domain
    have hstr : Format.str.Closed := closed_of_tidy fun _ => trivial
    have hsize : Format.u64.Closed := closed_of_tidy fun _ => trivial
    exact ((((hop.seq huuid).seq hstr).seq hsize).seq hstr).equiv fields
  rw [← read_format, Decoder.parse] at h
  obtain ⟨⟨a, rest⟩, hread, hpure⟩ := except_bind_eq_ok.mp h
  obtain rfl := Except.ok.inj hpure
  exact (domain _).mp (hclosed _ _ _ hread)

lemma ResponseMessage.domain (msg : ResponseMessage) : format.Domain msg ↔ msg.InRange := by
  simp [format, fields, InRange, seq_domain, equiv_domain, and_assoc]

lemma ControlMessage.domain (msg : ControlMessage) : format.Domain msg ↔ msg.InRange := by
  simp [format, fields, InRange, seq_domain, equiv_domain]

lemma RegistryEntry.domain (entry : RegistryEntry) : format.Domain entry ↔ entry.InRange := by
  simp [format, fields, InRange, seq_domain, equiv_domain, and_assoc]

lemma EnrollmentBody.domain (body : EnrollmentBody) : format.Domain body ↔ body.InRange := by
  simp [format, fields, InRange, seq_domain, equiv_domain, and_assoc]

lemma EncryptedPayload.domain (p : EncryptedPayload) : format.Domain p ↔ p.InRange := by
  simp [format, fields, InRange, seq_domain, equiv_domain, and_assoc]

lemma EncryptedChunk.domain (p : EncryptedChunk) : format.Domain p ↔ p.InRange := by
  simp [format, fields, InRange, seq_domain, equiv_domain, and_assoc]

lemma ServerKeyInfo.domain (info : ServerKeyInfo) : format.Domain info ↔ info.InRange := by
  simp [format, fields, InRange, seq_domain, equiv_domain, and_assoc]

lemma EnrollResponse.domain (resp : EnrollResponse) : format.Domain resp ↔ resp.InRange := by
  simp [format, fields, InRange, seq_domain, equiv_domain, and_assoc]

lemma SuccessorPayload.domain (p : SuccessorPayload) : format.Domain p ↔ p.InRange := by
  have htag : Short successorTag := by
    rw [Short]
    decide
  simp [format, fields, InRange, seq_domain, equiv_domain, Format.marker_domain, htag, and_assoc]

def RegistryEntry.encodedLength (entry : RegistryEntry) : ℕ :=
  62 + entry.ed25519Public.length + entry.x25519Public.length

lemma encodeRegistryEntry_writes {entry : RegistryEntry} (h : entry.InRange) :
    Encoder.Writes (encodeRegistryEntry entry) entry.encodedLength := by
  obtain ⟨hversion, hstatus, hed25519, hx25519, hcreated, hdeadline, hactivation, hexpiration⟩ := h
  have hcode := ((Encoder.Writes.new.uuid (some entry.identityUuid)).u32 hversion.1 hversion.2).u8
    hstatus.1 hstatus.2
  have hkeys := (hcode.bytes hed25519).bytes hx25519
  have hstart := (hkeys.i64 hcreated.1 hcreated.2).i64 hdeadline.1 hdeadline.2
  have hend := (hstart.i64 hactivation.1 hactivation.2).i64 hexpiration.1 hexpiration.2
  apply hend.of_eq
  rw [RegistryEntry.encodedLength]
  omega

lemma nested_entry_domain {entry : RegistryEntry} (h : entry.InRange) :
    (Format.nested RegistryEntry.format).Domain entry ↔ entry.encodedLength < 2 ^ 32 := by
  obtain ⟨w, hw, hlength⟩ := encodeRegistryEntry_writes h
  rw [Format.nested_domain, RegistryEntry.write_format, hw, ← hlength]
  constructor
  · rintro ⟨w', hw', hshort⟩
    obtain rfl := Except.ok.inj hw'
    exact hshort
  · intro hshort
    exact ⟨w, rfl, hshort⟩

def snapshotLength (entries : List RegistryEntry) : ℕ :=
  4 + (entries.map fun entry => 4 + entry.encodedLength).sum

lemma length_le_snapshotLength (entries : List RegistryEntry) : 4 * entries.length ≤ snapshotLength entries := by
  have hsum : ∀ entries : List RegistryEntry,
      4 * entries.length ≤ (entries.map fun entry => 4 + entry.encodedLength).sum := by
    intro entries
    induction entries with
    | nil => exact le_refl 0
    | cons entry entries ih =>
      rw [List.length_cons, List.map_cons, List.sum_cons]
      omega
  have h := hsum entries
  rw [snapshotLength]
  omega

lemma encodedLength_le_snapshotLength {entries : List RegistryEntry} {entry : RegistryEntry}
    (h : entry ∈ entries) : entry.encodedLength ≤ snapshotLength entries := by
  have hle := List.le_sum_of_mem (List.mem_map_of_mem (f := fun entry => 4 + entry.encodedLength) h)
  rw [snapshotLength]
  omega

lemma writes_entries {entries : List RegistryEntry} {enc : Encoder} {n : ℕ} (henc : Encoder.Writes enc n)
    (h : ∀ entry ∈ entries, entry.InRange ∧ entry.encodedLength < 2 ^ 32) :
    Encoder.Writes (entries.foldl (fun enc entry => do
        let buf ← enc
        let field ← encodeRegistryEntry entry
        Encoder.bytes (.ok buf) field) enc)
      (n + (entries.map fun entry => 4 + entry.encodedLength).sum) := by
  induction entries generalizing enc n with
  | nil => exact henc
  | cons entry entries ih =>
    obtain ⟨hentry, hrest⟩ := List.forall_mem_cons.mp h
    obtain ⟨buf, rfl, rfl⟩ := henc
    obtain ⟨field, hfield, hlength⟩ := encodeRegistryEntry_writes hentry.1
    have hbytes : Encoder.Writes (Encoder.bytes (.ok buf) field) (buf.length + 4 + field.length) :=
      Encoder.Writes.bytes ⟨buf, rfl, rfl⟩ (by omega)
    rw [List.foldl_cons, except_ok_bind, hfield, except_ok_bind]
    refine (ih hbytes hrest).of_eq ?_
    rw [List.map_cons, List.sum_cons]
    omega

lemma encodeRegistrySnapshot_ok {entries : List RegistryEntry} (hrange : ∀ entry ∈ entries, entry.InRange)
    (hlength : snapshotLength entries < 2 ^ 32) :
    ∃ data, encodeRegistrySnapshot entries = .ok data ∧ data.length = snapshotLength entries ∧
      parseRegistrySnapshot data = .ok entries := by
  have hcount := length_le_snapshotLength entries
  have hentries : ∀ entry ∈ entries, entry.InRange ∧ entry.encodedLength < 2 ^ 32 := by
    intro entry hentry
    have hle := encodedLength_le_snapshotLength hentry
    exact ⟨hrange entry hentry, by omega⟩
  have hwrites := writes_entries (Encoder.Writes.new.u32 (v := entries.length) (by omega) (by omega)) hentries
  obtain ⟨data, hdata, hdataLength⟩ := hwrites
  have hencode : encodeRegistrySnapshot entries = .ok data := hdata
  refine ⟨data, hencode, by rw [hdataLength, snapshotLength, Nat.zero_add], ?_⟩
  rw [← registrySnapshot_write] at hencode
  rw [← registrySnapshot_read]
  rw [Decoder.parseAll, (registrySnapshot.reads hencode).run]
  rfl

lemma snapshotLength_perm {entries entries' : List RegistryEntry} (h : entries.Perm entries') :
    snapshotLength entries = snapshotLength entries' := by
  rw [snapshotLength, snapshotLength, (h.map _).sum_eq]

theorem decode_encode :
    (∀ msg : RequestMessage, msg.InRange →
      ∃ data, encodeRequestMessage msg = .ok data ∧ parseRequestMessage data = .ok msg) ∧
    (∀ msg : ResponseMessage, msg.InRange →
      ∃ data, encodeResponseMessage msg = .ok data ∧ parseResponseMessage data = .ok msg) ∧
    (∀ msg : ControlMessage, msg.InRange →
      ∃ data, encodeControl msg.ctype msg.body = .ok data ∧ parseControl data = .ok msg) ∧
    (∀ entry : RegistryEntry, entry.InRange →
      ∃ data, encodeRegistryEntry entry = .ok data ∧ parseRegistryEntry data = .ok entry) ∧
    (∀ entries : List RegistryEntry, entries.length < 2 ^ 32 →
      (∀ entry ∈ entries, entry.InRange ∧ entry.encodedLength < 2 ^ 32) →
      ∃ data, encodeRegistrySnapshot entries = .ok data ∧ parseRegistrySnapshot data = .ok entries) ∧
    (∀ body : EnrollmentBody, body.InRange →
      ∃ data, encodeEnrollmentBody body = .ok data ∧ parseEnrollmentBody data = .ok body) ∧
    (∀ p : EncryptedPayload, p.InRange →
      ∃ data, wrapEncrypted p = .ok data ∧ unwrapEncrypted data = .ok p) ∧
    (∀ p : EncryptedChunk, p.InRange →
      ∃ data, wrapEncryptedChunk p = .ok data ∧ unwrapEncryptedChunk data = .ok p) ∧
    (∀ info : ServerKeyInfo, info.InRange →
      ∃ data, encodeServerKeyInfo info = .ok data ∧ parseServerKeyInfo data = .ok info) ∧
    (∀ resp : EnrollResponse, resp.InRange →
      ∃ data, encodeEnrollResponse resp = .ok data ∧ parseEnrollResponse data = .ok resp) ∧
    (∀ p : SuccessorPayload, p.InRange →
      ∃ data, encodeSuccessorPayload p.identityUuid p.oldVersion p.newVersion p.newEd25519Public
        p.newX25519Public p.transitionMetadata = .ok data ∧ parseSuccessorPayload data = .ok p) := by
  refine ⟨?_, ?_, ?_, ?_, ?_, ?_, ?_, ?_, ?_, ?_, ?_⟩
  · intro msg h
    exact Format.parse_write RequestMessage.read_format msg.write_format (msg.domain.mpr h)
  · intro msg h
    exact Format.parse_write ResponseMessage.read_format msg.write_format (msg.domain.mpr h)
  · intro msg h
    exact Format.parse_write ControlMessage.read_format msg.write_format (msg.domain.mpr h)
  · intro entry h
    exact Format.parse_write RegistryEntry.read_format entry.write_format (entry.domain.mpr h)
  · intro entries hcount h
    apply Format.parseAll_write registrySnapshot_read (registrySnapshot_write entries)
    apply Format.counted_domain.mpr
    refine ⟨hcount, ?_⟩
    intro entry hentry
    obtain ⟨hrange, hlength⟩ := h entry hentry
    exact (nested_entry_domain hrange).mpr hlength
  · intro body h
    exact Format.parse_write EnrollmentBody.read_format body.write_format (body.domain.mpr h)
  · intro p h
    exact Format.parseAll_write EncryptedPayload.read_format p.write_format (p.domain.mpr h)
  · intro p h
    exact Format.parseAll_write EncryptedChunk.read_format p.write_format (p.domain.mpr h)
  · intro info h
    exact Format.parse_write ServerKeyInfo.read_format info.write_format (info.domain.mpr h)
  · intro resp h
    exact Format.parse_write EnrollResponse.read_format resp.write_format (resp.domain.mpr h)
  · intro p h
    exact Format.parse_write SuccessorPayload.read_format p.write_format (p.domain.mpr h)

-- both keys of an entry may be short and the entry still too long for its place in a snapshot
def longEntry (key : Bytes) : RegistryEntry := ⟨Uuid.nil, 1, 0, key, [], 0, 0, 0, 0⟩

lemma longEntry_inRange {key : Bytes} (h : Short key) : (longEntry key).InRange := by
  simp [longEntry, RegistryEntry.InRange, U8, U32, I64, h]
  simp [Short]

lemma snapshot_long {key : Bytes} (h : Short key) (hlong : 2 ^ 32 ≤ 62 + key.length) (data : Bytes) :
    encodeRegistrySnapshot [longEntry key] ≠ .ok data := by
  intro hok
  rw [← registrySnapshot_write] at hok
  have hdomain := (Format.counted_domain.mp ⟨data, hok⟩).2 _ (List.mem_singleton_self _)
  rw [nested_entry_domain (longEntry_inRange h), RegistryEntry.encodedLength] at hdomain
  exact absurd hdomain (not_lt.mpr hlong)

theorem snapshot_of_long_entry_fails :
    ¬ ∀ entries : List RegistryEntry, entries.length < 2 ^ 32 → (∀ entry ∈ entries, entry.InRange) →
      ∃ data, encodeRegistrySnapshot entries = .ok data ∧
        parseRegistrySnapshot data = .ok entries := by
  intro h
  have hlength : (List.replicate (2 ^ 32 - 1) (0 : UInt8)).length = 2 ^ 32 - 1 := List.length_replicate
  generalize List.replicate (2 ^ 32 - 1) (0 : UInt8) = key at hlength
  have hshort : Short key := by
    rw [Short, hlength]
    norm_num
  obtain ⟨data, hdata, _⟩ := h [longEntry key] (by norm_num) (by
    intro entry hentry
    obtain rfl := List.mem_singleton.mp hentry
    exact longEntry_inRange hshort)
  exact snapshot_long hshort (by omega) data hdata

end RoundTrip

section Envelopes

variable {data : Bytes}

def payloadLength (data : Bytes) : ℕ := (unpackUInt (slice data 74 4)).toNat

lemma slice_length {i n : ℕ} (h : i + n ≤ data.length) : (slice data i n).length = n := by
  rw [slice, List.length_take, List.length_drop]
  omega

lemma slice_append_drop (data : Bytes) (i n : ℕ) : slice data i n ++ data.drop (i + n) = data.drop i := by
  rw [slice, ← List.drop_drop, List.take_append_drop]

lemma uuidAt_bytes {i : ℕ} (h : i + 16 ≤ data.length) : (uuidAt data i).bytes = slice data i 16 := by
  rw [uuidAt, Uuid.ofBytes?, dif_pos (slice_length h), Option.getD_some]

def EnvelopeShaped (data : Bytes) : Prop :=
  unpackUInt (data.take 1) = envelopeVersion ∧ data.length = 78 + payloadLength data + 64

def envelopeFields (data : Bytes) : Envelope where
  version := unpackUInt (slice data 0 1)
  msgType := unpackUInt (slice data 1 1)
  senderUuid := uuidAt data 2
  recipientUuid := uuidAt data 18
  requestId := uuidAt data 34
  senderCredentialVersion := unpackUInt (slice data 50 4)
  timestamp := unpackInt64 (slice data 54 8)
  nonce := slice data 62 12
  payload := slice data 78 (payloadLength data)
  signature := data.drop (78 + payloadLength data)

lemma parseEnvelope_eq_ok {env : Envelope} :
    parseEnvelope data = .ok env ↔ EnvelopeShaped data ∧ env = envelopeFields data := by
  have hpayload : (slice data 78 (payloadLength data)).length = min (payloadLength data) (data.length - 78) := by
    rw [slice, List.length_take, List.length_drop]
  have hsignature : (data.drop (78 + payloadLength data)).length = data.length - (78 + payloadLength data) :=
    List.length_drop
  change (if data.length < 78 + 64 then _
    else if unpackUInt (data.take 1) ≠ envelopeVersion then _
    else if (slice data 78 (payloadLength data)).length ≠ payloadLength data then _
    else if (data.drop (78 + payloadLength data)).length ≠ 64 then _
    else .ok (envelopeFields data) : Except Exn Envelope) = .ok env ↔ _
  rw [EnvelopeShaped]
  split_ifs with hshort hversion htruncated hcut
  · exact iff_of_false (fun h => by cases h) (fun h => by omega)
  · exact iff_of_false (fun h => by cases h) (fun h => hversion h.1.1)
  · exact iff_of_false (fun h => by cases h) (fun h => by omega)
  · exact iff_of_false (fun h => by cases h) (fun h => by omega)
  · rw [Except.ok.injEq, eq_comm]
    have hlength : data.length = 78 + payloadLength data + 64 := by omega
    exact (and_iff_right ⟨not_not.mp hversion, hlength⟩).symm

lemma encode_envelopeFields (h : EnvelopeShaped data) : (envelopeFields data).encode = .ok data := by
  obtain ⟨_, hlength⟩ := h
  have hwidth (i n : ℕ) (h : i + n ≤ 78) : (slice data i n).length = n := by
    apply slice_length
    omega
  have hpayload : (envelopeFields data).payload.length = payloadLength data := by
    apply slice_length
    omega
  have hlen : packUInt 4 (envelopeFields data).payload.length = .ok (slice data 74 4) := by
    have hnonneg : 0 ≤ unpackUInt (slice data 74 4) := Int.natCast_nonneg _
    rw [hpayload, payloadLength, Int.toNat_of_nonneg hnonneg]
    exact packUInt_unpack (hwidth 74 4 (by omega))
  have hversion : packUInt 1 (envelopeFields data).version = .ok (slice data 0 1) :=
    packUInt_unpack (hwidth 0 1 (by omega))
  have hmsgType : packUInt 1 (envelopeFields data).msgType = .ok (slice data 1 1) :=
    packUInt_unpack (hwidth 1 1 (by omega))
  have hcredential : packUInt 4 (envelopeFields data).senderCredentialVersion = .ok (slice data 50 4) :=
    packUInt_unpack (hwidth 50 4 (by omega))
  have htimestamp : packInt64 (envelopeFields data).timestamp = .ok (slice data 54 8) := by
    have hclock := packInt64_unpack (hwidth 54 8 (by omega))
    simpa only [envelopeFields] using hclock
  have hsender : (envelopeFields data).senderUuid.bytes = slice data 2 16 := by
    apply uuidAt_bytes
    omega
  have hrecipient : (envelopeFields data).recipientUuid.bytes = slice data 18 16 := by
    apply uuidAt_bytes
    omega
  have hrequest : (envelopeFields data).requestId.bytes = slice data 34 16 := by
    apply uuidAt_bytes
    omega
  have hnonce : packNonce (envelopeFields data).nonce = slice data 62 12 :=
    packNonce_of_length (hwidth 62 12 (by omega))
  have hcover : slice data 0 1 ++ (slice data 1 1 ++ (slice data 2 16 ++ (slice data 18 16 ++
      (slice data 34 16 ++ (slice data 50 4 ++ (slice data 54 8 ++ (slice data 62 12 ++ (slice data 74 4 ++
      (slice data 78 (payloadLength data) ++ data.drop (78 + payloadLength data)))))))))) = data := by
    rw [slice_append_drop, slice_append_drop data 74 4, slice_append_drop data 62 12,
      slice_append_drop data 54 8, slice_append_drop data 50 4, slice_append_drop data 34 16,
      slice_append_drop data 18 16, slice_append_drop data 2 16, slice_append_drop data 1 1,
      slice_append_drop data 0 1, List.drop_zero]
  rw [Envelope.encode, Envelope.signedBytes, packHeader, hversion, hmsgType, hcredential,
    htimestamp, hlen, hsender, hrecipient, hrequest, hnonce]
  simp only [except_ok_bind, pure, Except.pure, List.append_assoc, Except.ok.injEq]
  exact hcover

lemma parseEnvelope_wellFormed {env : Envelope} (h : parseEnvelope data = .ok env) : env.WellFormed := by
  obtain ⟨hshaped, rfl⟩ := parseEnvelope_eq_ok.mp h
  have hlength := hshaped.2
  exact Envelope.wellFormed_of_encode hshaped.1 (slice_length (by omega)) (encode_envelopeFields hshaped)

theorem envelope_codec :
    (∀ data : Bytes, (∃ env, parseEnvelope data = .ok env) ↔ EnvelopeShaped data) ∧
    (∀ (data : Bytes) (env : Envelope), parseEnvelope data = .ok env → env.encode = .ok data ∧
      envelopeRecipient data = .ok env.recipientUuid ∧ envelopeMsgType data = .ok env.msgType) ∧
    ∀ env : Envelope, env.version = 1 → U8 env.msgType → U32 env.senderCredentialVersion →
      I64 env.timestamp → env.nonce.length = 12 → Short env.payload → env.signature.length = 64 →
      ∃ data, env.encode = .ok data ∧ parseEnvelope data = .ok env := by
  refine ⟨?_, ?_, ?_⟩
  · intro data
    constructor
    · rintro ⟨env, h⟩
      exact (parseEnvelope_eq_ok.mp h).1
    · intro h
      exact ⟨_, parseEnvelope_eq_ok.mpr ⟨h, rfl⟩⟩
  · intro data env h
    obtain ⟨hshaped, rfl⟩ := parseEnvelope_eq_ok.mp h
    have hlong : ¬ data.length < headerSize := by
      have hlength := hshaped.2
      rw [headerSize]
      omega
    refine ⟨encode_envelopeFields hshaped, ?_, ?_⟩
    · rw [envelopeRecipient, if_neg hlong]
      rfl
    · rw [envelopeMsgType, if_neg hlong]
      rfl
  · intro env hversion hmsgType hcredential htimestamp hnonce hpayload hsignature
    have hformed : env.WellFormed := ⟨hversion, hmsgType, hcredential, htimestamp, hnonce⟩
    obtain ⟨body, hbody, _⟩ := Envelope.signedBytes_ok hformed hpayload
    have hencode : env.encode = .ok (body ++ env.signature) := by
      rw [Envelope.encode, hbody]
      rfl
    exact ⟨_, hencode, Envelope.parse_encode hformed hsignature hencode⟩

end Envelopes

end Secupload.Shared
