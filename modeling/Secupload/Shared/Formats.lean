import Secupload.Library.Formats
import Secupload.Shared.CredentialState
import Secupload.Shared.Messages

namespace Secupload.Shared

open Library

lemma packUInt_unpack {n : ℕ} {w : Bytes} (h : w.length = n) : packUInt n (unpackUInt w) = .ok w := by
  subst h
  have hlt : unpackUInt w < 256 ^ w.length := by
    rw [unpackUInt]
    exact_mod_cast beValue_lt w
  rw [packUInt, if_pos ⟨Int.natCast_nonneg _, hlt⟩, unpackUInt, Int.toNat_natCast, beBytes_beValue]

lemma packInt64_unpack {w : Bytes} (h : w.length = 8) : packInt64 (unpackInt64 w) = .ok w := by
  have hlt : unpackUInt w < 256 ^ w.length := by
    rw [unpackUInt]
    exact_mod_cast beValue_lt w
  have hnonneg : 0 ≤ unpackUInt w := Int.natCast_nonneg _
  rw [h] at hlt
  have hmod : (unpackInt64 w % 2 ^ 64).toNat = beValue w := by
    have hvalue : (beValue w : ℤ) = unpackUInt w := rfl
    rw [unpackInt64]
    split <;> omega
  rw [packInt64, if_pos, hmod, ← h, beBytes_beValue]
  rw [unpackInt64]
  split <;> omega

lemma utf8_of_ofUtf8? {w : Bytes} {s : String} (h : ofUtf8? w = some s) : utf8 s = w := by
  rw [ofUtf8?, String.fromUTF8?] at h
  split_ifs at h with hvalid
  obtain rfl := Option.some.inj h
  simp [utf8, String.fromUTF8]

lemma take_run {n : ℕ} {data w rest : Bytes} (h : (Decoder.take n).run data = .ok (w, rest)) :
    w.length = n ∧ data = w ++ rest := by
  obtain ⟨hlen, rfl, rfl⟩ := takeN_eq_ok.mp h
  exact ⟨by rw [List.length_take, min_eq_left hlen], (List.take_append_drop n data).symm⟩

lemma bytes_run {data b rest : Bytes} (h : Decoder.bytes.run data = .ok (b, rest)) :
    ∃ len, packUInt 4 b.length = .ok len ∧ data = len ++ b ++ rest := by
  obtain ⟨v, mid, hv, hb⟩ := parser_bind_eq_ok.mp h
  obtain ⟨len, mid', hlen, hpure⟩ := parser_bind_eq_ok.mp hv
  obtain ⟨rfl, rfl⟩ := parser_pure_eq_ok.mp hpure
  obtain ⟨hsize, rfl⟩ := take_run hlen
  obtain ⟨hlength, rfl⟩ := take_run hb
  refine ⟨len, ?_, (List.append_assoc _ _ _).symm⟩
  have hnonneg : 0 ≤ unpackUInt len := Int.natCast_nonneg _
  rw [hlength, Int.toNat_of_nonneg hnonneg]
  exact packUInt_unpack hsize

namespace Format

open Library.Format

def fixed {α : Type} (n : ℕ) (pack : α → Except Exn Bytes) (unpack : Bytes → α)
    (hpack : ∀ {a w}, pack a = .ok w → w.length = n ∧ unpack w = a)
    (hunpack : ∀ {w}, w.length = n → pack (unpack w) = .ok w) : Format Exn UInt8 α where
  write := pack
  read := unpack <$> Decoder.take n
  size _ := n
  Tidy _ := True
  reads := by
    intro a w h
    obtain ⟨hlen, rfl⟩ := hpack h
    exact (Decoder.reads_take_of_length hlen).map unpack
  splits := by
    intro data a rest h
    rw [← bind_pure_comp] at h
    obtain ⟨w, mid, hw, h⟩ := parser_bind_eq_ok.mp h
    obtain ⟨rfl, rfl⟩ := parser_pure_eq_ok.mp h
    obtain ⟨hlen, rfl⟩ := take_run hw
    exact ⟨w, hlen, rfl, iff_of_true trivial (hunpack hlen)⟩

def uint (n : ℕ) : Format Exn UInt8 ℤ :=
  fixed n (packUInt n) unpackUInt (fun h => ⟨packUInt_length h, unpack_packUInt h⟩) packUInt_unpack

def u8 : Format Exn UInt8 ℤ := uint 1

def u32 : Format Exn UInt8 ℤ := uint 4

def u64 : Format Exn UInt8 ℤ := uint 8

def i64 : Format Exn UInt8 ℤ :=
  fixed 8 packInt64 unpackInt64 (fun h => ⟨packInt64_length h, unpack_packInt64 h⟩) packInt64_unpack

def announced (data : Bytes) : ℕ := (unpackUInt (data.take 4)).toNat

lemma announced_eq {b len rest : Bytes} (h : packUInt 4 b.length = .ok len) :
    announced (len ++ rest) = b.length := by
  rw [announced, List.take_left' (packUInt_length h), unpack_packUInt h, Int.toNat_natCast]

lemma length_prefixed {b len : Bytes} (h : packUInt 4 b.length = .ok len) (rest : Bytes) :
    (len ++ b).length = 4 + announced (len ++ b ++ rest) := by
  rw [List.append_assoc, announced_eq h, List.length_append, packUInt_length h]

lemma new_bytes {b w : Bytes} :
    Encoder.new.bytes b = .ok w ↔ ∃ len, packUInt 4 b.length = .ok len ∧ w = len ++ b := by
  rw [Encoder.bytes, Encoder.u32, Encoder.new_write, Encoder.write_eq_ok]
  constructor
  · rintro ⟨len, _, hlen, hb, rfl⟩
    obtain rfl := Except.ok.inj hb
    exact ⟨len, hlen, rfl⟩
  · rintro ⟨len, hlen, rfl⟩
    exact ⟨len, b, hlen, rfl, rfl⟩

def bytes : Format Exn UInt8 Bytes where
  write b := Encoder.new.bytes b
  read := Decoder.bytes
  size data := 4 + announced data
  Tidy _ := True
  reads := by
    intro b w h
    obtain ⟨len, hlen, rfl⟩ := new_bytes.mp h
    exact Decoder.reads_bytes hlen
  splits := by
    intro data b rest h
    obtain ⟨len, hlen, rfl⟩ := bytes_run h
    exact ⟨len ++ b, length_prefixed hlen rest, rfl, iff_of_true trivial (new_bytes.mpr ⟨len, hlen, rfl⟩)⟩

lemma bytes_write {b len : Bytes} (h : packUInt 4 b.length = .ok len) : bytes.write b = .ok (len ++ b) :=
  new_bytes.mpr ⟨len, h, rfl⟩

def str : Format Exn UInt8 String where
  write s := bytes.write (utf8 s)
  read := Decoder.str
  size := bytes.size
  Tidy _ := True
  reads := by
    intro s w h
    obtain ⟨len, hlen, rfl⟩ := new_bytes.mp h
    exact Decoder.reads_str hlen
  splits := by
    intro data s rest h
    obtain ⟨b, mid, hb, h⟩ := parser_bind_eq_ok.mp h
    obtain ⟨w, hw, hdata, hwrite⟩ := bytes.splits hb
    cases hs : ofUtf8? b with
    | none =>
      rw [hs] at h
      cases h
    | some t =>
      rw [hs] at h
      obtain ⟨rfl, rfl⟩ := parser_pure_eq_ok.mp h
      rw [← utf8_of_ofUtf8? hs] at hwrite
      exact ⟨w, hw, hdata, iff_of_true trivial (hwrite.mp trivial)⟩

lemma uuid_run {data rest : Bytes} {u : Option Uuid} (h : Decoder.uuid.run data = .ok (u, rest)) :
    ∃ flag bs, bs.length = 16 ∧ data = flag :: bs ++ rest ∧
      u = if flag = 0 then none else Uuid.ofBytes? bs := by
  obtain ⟨v, mid, hv, hrest⟩ := parser_bind_eq_ok.mp h
  obtain ⟨w, mid', hw, hvalue⟩ := parser_bind_eq_ok.mp hv
  obtain ⟨rfl, rfl⟩ := parser_pure_eq_ok.mp hvalue
  obtain ⟨bs, mid, hread, hpure⟩ := parser_bind_eq_ok.mp hrest
  obtain ⟨rfl, rfl⟩ := parser_pure_eq_ok.mp hpure
  obtain ⟨hlength, rfl⟩ := take_run hw
  obtain ⟨hbs, rfl⟩ := take_run hread
  obtain ⟨flag, rfl⟩ := List.length_eq_one_iff.mp hlength
  refine ⟨flag, bs, hbs, rfl, ?_⟩
  have hzero : unpackUInt [flag] = 0 ↔ flag = 0 := by
    rw [unpackUInt, ← List.nil_append [flag], beValue_concat, beValue_nil]
    constructor
    · intro hflag
      apply UInt8.toNat.inj
      simpa using hflag
    · rintro rfl
      rfl
  simp only [hzero]

-- the flag of a present UUID is 1, and one that is absent leaves zeros
def uuid : Format Exn UInt8 (Option Uuid) where
  write u := Encoder.new.uuid u
  read := Decoder.uuid
  size _ := 17
  Tidy data := data.head? = some 1 ∨ data.take 17 = List.replicate 17 0
  reads := by
    intro u w h
    cases u with
    | none =>
      obtain rfl := Except.ok.inj h
      exact Decoder.reads_uuid_none
    | some u =>
      obtain rfl := Except.ok.inj h
      exact Decoder.reads_uuid_some u
  splits := by
    intro data u rest h
    obtain ⟨flag, bs, hbs, rfl, rfl⟩ := uuid_run h
    refine ⟨flag :: bs, by rw [List.length_cons, hbs], rfl, ?_⟩
    rw [List.take_left' (by rw [List.length_cons, hbs])]
    by_cases hflag : flag = 0
    · subst hflag
      rw [if_pos rfl, Encoder.uuid, Encoder.new_write, Except.ok.injEq]
      simp [List.replicate_succ, eq_comm]
    · rw [if_neg hflag, Uuid.ofBytes?, dif_pos hbs, Encoder.uuid, Encoder.new_write, Except.ok.injEq]
      simp [List.replicate_succ, hflag, eq_comm]

-- a UUID that has to be there; one that is absent reads as the nil UUID
def someUuid : Format Exn UInt8 Uuid where
  write u := Encoder.new.uuid (some u)
  read := (·.getD Uuid.nil) <$> Decoder.uuid
  size _ := 17
  Tidy data := data.head? = some 1
  reads := by
    intro u w h
    obtain rfl := Except.ok.inj h
    exact (Decoder.reads_uuid_some u).map (·.getD Uuid.nil)
  splits := by
    intro data u rest h
    rw [← bind_pure_comp] at h
    obtain ⟨u', mid, hu, hpure⟩ := parser_bind_eq_ok.mp h
    obtain ⟨rfl, rfl⟩ := parser_pure_eq_ok.mp hpure
    obtain ⟨flag, bs, hbs, rfl, rfl⟩ := uuid_run hu
    refine ⟨flag :: bs, by rw [List.length_cons, hbs], rfl, ?_⟩
    rw [Encoder.uuid, Encoder.new_write, Except.ok.injEq, List.cons.injEq]
    by_cases hflag : flag = 0
    · subst hflag
      simp
    · rw [if_neg hflag, Uuid.ofBytes?, dif_pos hbs]
      simp [eq_comm]

-- a value written into a byte string of its own; what follows it in there is not read
def nested {α : Type} (f : Format Exn UInt8 α) : Format Exn UInt8 α where
  write a := f.write a >>= bytes.write
  read := do
    let field ← Decoder.bytes
    match Decoder.parse field f.read with
    | .error exc => throw exc
    | .ok a => return a
  size := bytes.size
  Tidy data := f.Exact ((data.drop 4).take (announced data))
  reads := by
    intro a w h
    obtain ⟨field, hfield, hbytes⟩ := except_bind_eq_ok.mp h
    apply (bytes.reads hbytes).last
    rw [Decoder.parse, (f.reads hfield).run]
    exact Reads.pure a
  splits := by
    intro data a rest h
    obtain ⟨field, mid, hfield, hparse⟩ := parser_bind_eq_ok.mp h
    obtain ⟨len, hlen, rfl⟩ := bytes_run hfield
    have hw := bytes_write hlen
    cases hrun : f.read.run field with
    | error exc =>
      rw [Decoder.parse, hrun] at hparse
      cases hparse
    | ok result =>
      rw [Decoder.parse, hrun] at hparse
      obtain ⟨rfl, rfl⟩ := parser_pure_eq_ok.mp hparse
      refine ⟨len ++ field, length_prefixed hlen rest, rfl, ?_⟩
      rw [List.append_assoc, announced_eq hlen, List.drop_left' (packUInt_length hlen), List.take_left,
        ← Format.write_eq_ok_iff hrun]
      constructor
      · intro hwrite
        rw [hwrite, except_ok_bind, hw]
      · intro hwrite
        obtain ⟨field', hfield', hwrite⟩ := except_bind_eq_ok.mp hwrite
        rw [bytes.write_injective hwrite hw] at hfield'
        exact hfield'

lemma nested_write {α : Type} (f : Format Exn UInt8 α) (a : α) :
    (nested f).write a = f.write a >>= bytes.write := rfl

def counted {α : Type} (f : Format Exn UInt8 α) : Format Exn UInt8 (List α) where
  write as := do return (← packUInt 4 as.length) ++ (← f.writeAll as)
  read := do f.readN (← Decoder.u32).toNat
  size data := 4 + f.sizeN (announced data) (data.drop 4)
  Tidy data := f.TidyN (announced data) (data.drop 4)
  reads := by
    intro as w h
    obtain ⟨len, v, hlen, hv, rfl⟩ := append_eq_ok.mp h
    apply (Decoder.reads_u32 hlen).bind
    rw [Int.toNat_natCast]
    exact reads_all hv
  splits := by
    intro data as rest h
    obtain ⟨v, mid, hv, has⟩ := parser_bind_eq_ok.mp h
    obtain ⟨len, mid', hlen, hpure⟩ := parser_bind_eq_ok.mp hv
    obtain ⟨rfl, rfl⟩ := parser_pure_eq_ok.mp hpure
    obtain ⟨hsize, rfl⟩ := take_run hlen
    obtain ⟨hlength, u, hu, rfl, htidy⟩ := splits_all has
    have hannounced : announced (len ++ (u ++ rest)) = (unpackUInt len).toNat := by
      rw [announced, List.take_left' hsize]
    have hcount : packUInt 4 as.length = .ok len := by
      have hnonneg : 0 ≤ unpackUInt len := Int.natCast_nonneg _
      rw [hlength, Int.toNat_of_nonneg hnonneg]
      exact packUInt_unpack hsize
    refine ⟨len ++ u, ?_, (List.append_assoc _ _ _).symm, ?_⟩
    · rw [hannounced, List.drop_left' hsize, List.length_append, hsize, hu]
    · rw [hannounced, List.drop_left' hsize, htidy, append_eq_ok]
      constructor
      · intro hwrite
        exact ⟨len, u, hcount, hwrite, rfl⟩
      · rintro ⟨len', u', hlen', hwrite, hsame⟩
        obtain rfl := Except.ok.inj (hlen'.symm.trans hcount)
        exact List.append_cancel_left hsame ▸ hwrite

def marker (tag : Bytes) (exc : Exn) : Format Exn UInt8 Unit where
  write _ := bytes.write tag
  read := do
    let found ← Decoder.bytes
    if found ≠ tag then throw exc
  size := bytes.size
  Tidy _ := True
  reads := by
    intro a w h
    apply (bytes.reads h).last
    rw [if_neg (not_not.mpr rfl)]
    exact Reads.pure ()
  splits := by
    intro data a rest h
    obtain ⟨found, mid, hfound, hsame⟩ := parser_bind_eq_ok.mp h
    by_cases heq : found = tag
    · rw [if_neg (not_not.mpr heq)] at hsame
      obtain ⟨_, rfl⟩ := parser_pure_eq_ok.mp hsame
      rw [← heq]
      exact bytes.splits hfound
    · rw [if_pos heq] at hsame
      cases hsame

lemma encoder_uuid (enc : Encoder) (u : Option Uuid) : enc.uuid u = enc.write (uuid.write u) := by
  cases u <;> rfl

lemma encoder_bytes (enc : Encoder) (b : Bytes) : enc.bytes b = enc.write (bytes.write b) :=
  enc.write_bytes b

lemma encoder_str (enc : Encoder) (t : String) : enc.str t = enc.write (str.write t) :=
  encoder_bytes enc (utf8 t)

lemma encoder_u8 (enc : Encoder) (v : ℤ) : enc.u8 v = enc.write (u8.write v) := rfl

lemma encoder_u32 (enc : Encoder) (v : ℤ) : enc.u32 v = enc.write (u32.write v) := rfl

lemma encoder_u64 (enc : Encoder) (v : ℤ) : enc.u64 v = enc.write (u64.write v) := rfl

lemma encoder_i64 (enc : Encoder) (v : ℤ) : enc.i64 v = enc.write (i64.write v) := rfl

end Format

section Messages

open Format (u8 u32 u64 i64 bytes str uuid someUuid marker nested nested_write counted encoder_u8 encoder_u32
  encoder_u64 encoder_i64 encoder_bytes encoder_str encoder_uuid)

def RequestMessage.fields : RequestMessage ≃ (((ℤ × Option Uuid) × String) × ℤ) × String where
  toFun m := ((((m.op, m.objectUuid), m.fileType), m.fileSize), m.metadata)
  invFun p := ⟨p.1.1.1.1, p.1.1.1.2, p.1.1.2, p.1.2, p.2⟩

def RequestMessage.format : Format Exn UInt8 RequestMessage :=
  ((((u8.seq uuid).seq str).seq u64).seq str).equiv fields

lemma RequestMessage.write_format (msg : RequestMessage) :
    format.write msg = encodeRequestMessage msg := by
  simp only [encodeRequestMessage, encoder_u8, encoder_uuid, encoder_str, encoder_u64,
    Encoder.finish, Encoder.new_write]
  rfl

lemma RequestMessage.read_format (data : Bytes) :
    Decoder.parse data format.read = parseRequestMessage data := by
  simp only [format, Format.equiv, Format.seq, parseRequestMessage, map_bind, map_pure, bind_assoc,
    pure_bind]
  rfl

def ResponseMessage.fields : ResponseMessage ≃
    (((((((((ℤ × String) × Option Uuid) × String) × ℤ) × String) × ℤ) × Bytes) × Bytes) × Bytes) × ℤ where
  toFun m := ((((((((((m.status, m.message), m.objectUuid), m.fileType), m.fileSize),
    m.contentIntegrity), m.serverKeyVersion), m.serverEd25519Public), m.serverX25519Public),
    m.serverSuccessorSignature), m.serverPrevVersion)
  invFun p := ⟨p.1.1.1.1.1.1.1.1.1.1, p.1.1.1.1.1.1.1.1.1.2, p.1.1.1.1.1.1.1.1.2, p.1.1.1.1.1.1.1.2,
    p.1.1.1.1.1.1.2, p.1.1.1.1.1.2, p.1.1.1.1.2, p.1.1.1.2, p.1.1.2, p.1.2, p.2⟩

def ResponseMessage.format : Format Exn UInt8 ResponseMessage :=
  ((((((((((u8.seq str).seq uuid).seq str).seq u64).seq str).seq u32).seq bytes).seq bytes).seq
    bytes).seq u32).equiv fields

lemma ResponseMessage.write_format (msg : ResponseMessage) :
    format.write msg = encodeResponseMessage msg := by
  simp only [encodeResponseMessage, encoder_u8, encoder_uuid, encoder_str, encoder_u64, encoder_u32,
    encoder_bytes, Encoder.finish, Encoder.new_write]
  rfl

lemma ResponseMessage.read_format (data : Bytes) :
    Decoder.parse data format.read = parseResponseMessage data := by
  simp only [format, Format.equiv, Format.seq, parseResponseMessage, map_bind, map_pure, bind_assoc,
    pure_bind]
  rfl

def ControlMessage.fields : ControlMessage ≃ ℤ × Bytes where
  toFun m := (m.ctype, m.body)
  invFun p := ⟨p.1, p.2⟩

def ControlMessage.format : Format Exn UInt8 ControlMessage := (u8.seq bytes).equiv fields

lemma ControlMessage.write_format (msg : ControlMessage) :
    format.write msg = encodeControl msg.ctype msg.body := by
  simp only [encodeControl, encoder_u8, encoder_bytes, Encoder.finish, Encoder.new_write]
  rfl

lemma ControlMessage.read_format (data : Bytes) :
    Decoder.parse data format.read = parseControl data := by
  simp only [format, Format.equiv, Format.seq, parseControl, map_bind, map_pure]
  rfl

def RegistryEntry.fields : RegistryEntry ≃
    (((((((Uuid × ℤ) × ℤ) × Bytes) × Bytes) × ℤ) × ℤ) × ℤ) × ℤ where
  toFun m := ((((((((m.identityUuid, m.version), m.status), m.ed25519Public), m.x25519Public),
    m.createdAt), m.validationDeadline), m.activationTime), m.expirationTime)
  invFun p := ⟨p.1.1.1.1.1.1.1.1, p.1.1.1.1.1.1.1.2, p.1.1.1.1.1.1.2, p.1.1.1.1.1.2, p.1.1.1.1.2,
    p.1.1.1.2, p.1.1.2, p.1.2, p.2⟩

def RegistryEntry.format : Format Exn UInt8 RegistryEntry :=
  ((((((((someUuid.seq u32).seq u8).seq bytes).seq bytes).seq i64).seq i64).seq i64).seq i64).equiv fields

lemma RegistryEntry.write_format (entry : RegistryEntry) :
    format.write entry = encodeRegistryEntry entry := by
  simp only [encodeRegistryEntry, encoder_u8, encoder_uuid, encoder_u32, encoder_i64, encoder_bytes,
    Encoder.finish, Encoder.new_write]
  rfl

lemma RegistryEntry.read_format (data : Bytes) :
    Decoder.parse data format.read = parseRegistryEntry data := by
  simp only [format, Format.equiv, Format.seq, someUuid, parseRegistryEntry, map_bind, map_pure,
    bind_assoc, pure_bind, bind_map_left]
  rfl

def registrySnapshot : Format Exn UInt8 (List RegistryEntry) := counted (nested RegistryEntry.format)

lemma write_field (enc : Encoder) (x : Except Exn Bytes) :
    (do
      let buf ← enc
      let field ← x
      Encoder.bytes (.ok buf) field) = enc.write (x >>= bytes.write) := by
  cases enc with
  | error exc => simp [Encoder.write]
  | ok buf =>
    cases x with
    | error exc => simp [Encoder.write]
    | ok field => rw [except_ok_bind, except_ok_bind, except_ok_bind, encoder_bytes]

lemma foldl_entries (entries : List RegistryEntry) (enc : Encoder) :
    entries.foldl (fun enc entry => do
        let buf ← enc
        let field ← encodeRegistryEntry entry
        Encoder.bytes (.ok buf) field) enc =
      enc.write ((nested RegistryEntry.format).writeAll entries) := by
  induction entries generalizing enc with
  | nil => cases enc <;> simp [Format.writeAll, Encoder.write, pure, Except.pure]
  | cons entry entries ih =>
    have hfield : (nested RegistryEntry.format).write entry = encodeRegistryEntry entry >>= bytes.write := by
      rw [nested_write, RegistryEntry.write_format]
    rw [List.foldl_cons, ih, write_field, Encoder.write_write, ← hfield]
    rfl

lemma registrySnapshot_write (entries : List RegistryEntry) :
    registrySnapshot.write entries = encodeRegistrySnapshot entries := by
  rw [encodeRegistrySnapshot, Encoder.finish, foldl_entries, Encoder.u32, Encoder.new_write]
  rfl

lemma registrySnapshot_entries (count : ℕ) :
    (nested RegistryEntry.format).readN count = snapshotEntries count := by
  induction count with
  | zero => rfl
  | succ count ih =>
    rw [Format.readN, ih, snapshotEntries]
    simp only [nested, bind_assoc, RegistryEntry.read_format]
    congr 1
    funext field
    cases parseRegistryEntry field <;> rfl

lemma registrySnapshot_read (data : Bytes) :
    Decoder.parseAll data (.decodeError "trailing data in registry snapshot") registrySnapshot.read =
      parseRegistrySnapshot data := by
  simp only [registrySnapshot, counted, registrySnapshot_entries, parseRegistrySnapshot]

def EnrollmentBody.fields : EnrollmentBody ≃ (((ℤ × String) × ℤ) × Bytes) × Bytes where
  toFun m := ((((m.identityKind, m.token), m.version), m.ed25519Public), m.x25519Public)
  invFun p := ⟨p.1.1.1.1, p.1.1.1.2, p.1.1.2, p.1.2, p.2⟩

def EnrollmentBody.format : Format Exn UInt8 EnrollmentBody :=
  ((((u8.seq str).seq u32).seq bytes).seq bytes).equiv fields

lemma EnrollmentBody.write_format (body : EnrollmentBody) :
    format.write body = encodeEnrollmentBody body := by
  simp only [encodeEnrollmentBody, encoder_u8, encoder_str, encoder_u32, encoder_bytes, Encoder.finish,
    Encoder.new_write]
  rfl

lemma EnrollmentBody.read_format (data : Bytes) :
    Decoder.parse data format.read = parseEnrollmentBody data := by
  simp only [format, Format.equiv, Format.seq, parseEnrollmentBody, map_bind, map_pure, bind_assoc,
    pure_bind]
  rfl

def EncryptedPayload.fields : EncryptedPayload ≃ ((ℤ × Bytes) × Bytes) × Bytes where
  toFun m := (((m.recipientVersion, m.ephemeralPublic), m.nonce), m.ciphertext)
  invFun p := ⟨p.1.1.1, p.1.1.2, p.1.2, p.2⟩

def EncryptedPayload.format : Format Exn UInt8 EncryptedPayload :=
  (((u32.seq bytes).seq bytes).seq bytes).equiv fields

lemma EncryptedPayload.write_format (p : EncryptedPayload) : format.write p = wrapEncrypted p := by
  simp only [wrapEncrypted, encoder_u32, encoder_bytes, Encoder.finish, Encoder.new_write]
  rfl

lemma EncryptedPayload.read_format (data : Bytes) :
    Decoder.parseAll data (.protocolError "trailing data in encrypted payload") format.read =
      unwrapEncrypted data := by
  simp only [format, Format.equiv, Format.seq, unwrapEncrypted, map_bind, map_pure, bind_assoc,
    pure_bind]
  rfl

def EncryptedChunk.fields : EncryptedChunk ≃ (((ℤ × Uuid) × ℤ) × Bytes) × Bytes where
  toFun m := ((((m.recipientVersion, m.objectUuid), m.chunkIndex), m.ephemeralPublic), m.ciphertext)
  invFun p := ⟨p.1.1.1.1, p.1.1.1.2, p.1.1.2, p.1.2, p.2⟩

def EncryptedChunk.format : Format Exn UInt8 EncryptedChunk :=
  ((((u32.seq someUuid).seq u64).seq bytes).seq bytes).equiv fields

lemma EncryptedChunk.write_format (p : EncryptedChunk) : format.write p = wrapEncryptedChunk p := by
  simp only [wrapEncryptedChunk, encoder_u32, encoder_uuid, encoder_u64, encoder_bytes, Encoder.finish,
    Encoder.new_write]
  rfl

lemma EncryptedChunk.read_format (data : Bytes) :
    Decoder.parseAll data (.protocolError "trailing data in encrypted chunk payload") format.read =
      unwrapEncryptedChunk data := by
  simp only [format, Format.equiv, Format.seq, someUuid, unwrapEncryptedChunk, map_bind, map_pure,
    bind_assoc, pure_bind, bind_map_left]
  rfl

def ServerKeyInfo.fields : ServerKeyInfo ≃ (((ℤ × Bytes) × Bytes) × ℤ) × Bytes where
  toFun m := ((((m.version, m.ed25519Public), m.x25519Public), m.prevVersion), m.successorSignature)
  invFun p := ⟨p.1.1.1.1, p.1.1.1.2, p.1.1.2, p.1.2, p.2⟩

def ServerKeyInfo.format : Format Exn UInt8 ServerKeyInfo :=
  ((((u32.seq bytes).seq bytes).seq u32).seq bytes).equiv fields

lemma ServerKeyInfo.write_format (info : ServerKeyInfo) : format.write info = encodeServerKeyInfo info := by
  simp only [encodeServerKeyInfo, encoder_u32, encoder_bytes, Encoder.finish, Encoder.new_write]
  rfl

lemma ServerKeyInfo.read_format (data : Bytes) :
    Decoder.parse data format.read = parseServerKeyInfo data := by
  simp only [format, Format.equiv, Format.seq, parseServerKeyInfo, map_bind, map_pure, bind_assoc,
    pure_bind]
  rfl

def EnrollResponse.fields : EnrollResponse ≃ (ℤ × String) × Bytes where
  toFun m := ((m.status, m.message), m.serverKeyInfo)
  invFun p := ⟨p.1.1, p.1.2, p.2⟩

def EnrollResponse.format : Format Exn UInt8 EnrollResponse := ((u8.seq str).seq bytes).equiv fields

lemma EnrollResponse.write_format (resp : EnrollResponse) :
    format.write resp = encodeEnrollResponse resp := by
  simp only [encodeEnrollResponse, encoder_u8, encoder_str, encoder_bytes, Encoder.finish,
    Encoder.new_write]
  rfl

lemma EnrollResponse.read_format (data : Bytes) :
    Decoder.parse data format.read = parseEnrollResponse data := by
  simp only [format, Format.equiv, Format.seq, parseEnrollResponse, map_bind, map_pure, bind_assoc,
    pure_bind]
  rfl

def SuccessorPayload.fields : SuccessorPayload ≃
    (((((Unit × Uuid) × ℤ) × ℤ) × Bytes) × Bytes) × Bytes where
  toFun p := (((((((), p.identityUuid), p.oldVersion), p.newVersion), p.newEd25519Public),
    p.newX25519Public), p.transitionMetadata)
  invFun p := ⟨p.1.1.1.1.1.2, p.1.1.1.1.2, p.1.1.1.2, p.1.1.2, p.1.2, p.2⟩

def SuccessorPayload.format : Format Exn UInt8 SuccessorPayload :=
  (((((((marker successorTag (.rotationError "BAD_TAG" "not a successor payload")).seq someUuid).seq
    u32).seq u32).seq bytes).seq bytes).seq bytes).equiv fields

lemma SuccessorPayload.write_format (p : SuccessorPayload) :
    format.write p = encodeSuccessorPayload p.identityUuid p.oldVersion p.newVersion p.newEd25519Public
      p.newX25519Public p.transitionMetadata := by
  simp only [encodeSuccessorPayload, encoder_bytes, encoder_uuid, encoder_u32, Encoder.finish,
    Encoder.new_write]
  rfl

lemma SuccessorPayload.read_format (data : Bytes) :
    Decoder.parse data format.read = parseSuccessorPayload data := by
  simp only [format, Format.equiv, Format.seq, marker, someUuid, Decoder.parse, parseSuccessorPayload,
    map_bind, map_pure, bind_assoc, pure_bind, bind_map_left, StateT.run_bind]
  cases Decoder.bytes.run data with
  | error exc => rfl
  | ok r =>
    by_cases htag : r.1 = successorTag
    · simp only [except_ok_bind, if_neg (not_not.mpr htag)]
      rfl
    · simp only [except_ok_bind, if_pos htag]
      rfl

end Messages

end Secupload.Shared
