import Secupload.Library.Parsing
import Secupload.Shared.Models

/-! The canonical binary encoding. An encoder is its buffer, or the `struct.error` of
the first field out of range; a decoder consumes the data from its offset on. -/

namespace Secupload.Shared

open Library

@[simp] lemma except_ok_bind {ε α β : Type} (a : α) (f : α → Except ε β) :
    (Except.ok a >>= f) = f a := rfl

@[simp] lemma except_error_bind {ε α β : Type} (e : ε) (f : α → Except ε β) :
    (Except.error e >>= f) = .error e := rfl

lemma except_bind_eq_ok {ε α β : Type} {x : Except ε α} {f : α → Except ε β} {b : β} :
    (x >>= f) = .ok b ↔ ∃ a, x = .ok a ∧ f a = .ok b := by
  cases x <;> simp

lemma except_map_eq_ok {ε α β : Type} {x : Except ε α} {f : α → β} {b : β} :
    f <$> x = .ok b ↔ ∃ a, x = .ok a ∧ f a = b := by
  cases x <;> simp

lemma exists_of_isOk {ε α : Type} {x : Except ε α} (h : x.isOk = true) : ∃ a, x = .ok a := by
  cases x with
  | error exc => cases h
  | ok a => exact ⟨a, rfl⟩

def packUInt (n : ℕ) (v : ℤ) : Except Exn Bytes :=
  if 0 ≤ v ∧ v < 256 ^ n then .ok (beBytes n v.toNat) else .error .structError

def packInt64 (v : ℤ) : Except Exn Bytes :=
  if -2 ^ 63 ≤ v ∧ v < 2 ^ 63 then .ok (beBytes 8 (v % 2 ^ 64).toNat) else .error .structError

def unpackUInt (bs : Bytes) : ℤ := beValue bs

def unpackInt64 (bs : Bytes) : ℤ :=
  if unpackUInt bs < 2 ^ 63 then unpackUInt bs else unpackUInt bs - 2 ^ 64

lemma packUInt_error {n : ℕ} {v : ℤ} {exc : Exn} (h : packUInt n v = .error exc) :
    exc = .structError := by
  rw [packUInt] at h
  split at h
  · cases h
  · exact (Except.error.inj h).symm

lemma packInt64_error {v : ℤ} {exc : Exn} (h : packInt64 v = .error exc) : exc = .structError := by
  rw [packInt64] at h
  split at h
  · cases h
  · exact (Except.error.inj h).symm

lemma except_bind_eq_error {ε α β : Type} {x : Except ε α} {f : α → Except ε β} {e : ε} :
    (x >>= f) = .error e ↔ x = .error e ∨ ∃ a, x = .ok a ∧ f a = .error e := by
  cases x <;> simp

lemma packUInt_isOk {n : ℕ} {v : ℤ} : (∃ bs, packUInt n v = .ok bs) ↔ 0 ≤ v ∧ v < 256 ^ n := by
  rw [packUInt]
  split
  · rename_i hv
    exact iff_of_true ⟨_, rfl⟩ hv
  · rename_i hv
    refine iff_of_false ?_ hv
    rintro ⟨bs, h⟩
    cases h

lemma packUInt_length {n : ℕ} {v : ℤ} {bs : Bytes} (h : packUInt n v = .ok bs) : bs.length = n := by
  rw [packUInt] at h
  split at h
  · rw [← Except.ok.inj h, beBytes_length]
  · cases h

lemma unpack_packUInt {n : ℕ} {v : ℤ} {bs : Bytes} (h : packUInt n v = .ok bs) :
    unpackUInt bs = v := by
  rw [packUInt] at h
  split at h
  · rename_i hv
    have hlt : v.toNat < 256 ^ n := by
      have hc : (v.toNat : ℤ) = v := Int.toNat_of_nonneg hv.1
      exact_mod_cast hc ▸ hv.2
    rw [← Except.ok.inj h, unpackUInt, beValue_beBytes n _ hlt, Int.toNat_of_nonneg hv.1]
  · cases h

lemma packInt64_length {v : ℤ} {bs : Bytes} (h : packInt64 v = .ok bs) : bs.length = 8 := by
  rw [packInt64] at h
  split at h
  · rw [← Except.ok.inj h, beBytes_length]
  · cases h

lemma unpack_packInt64 {v : ℤ} {bs : Bytes} (h : packInt64 v = .ok bs) : unpackInt64 bs = v := by
  rw [packInt64] at h
  split at h
  · rename_i hv
    have hlt : (v % 2 ^ 64).toNat < 256 ^ 8 := by omega
    rw [← Except.ok.inj h, unpackInt64, unpackUInt, beValue_beBytes 8 _ hlt]
    split <;> omega
  · cases h

def utf8 (s : String) : Bytes := s.toUTF8.data.toList

def ofUtf8? (bs : Bytes) : Option String := String.fromUTF8? ⟨bs.toArray⟩

@[simp] lemma ofUtf8?_utf8 (s : String) : ofUtf8? (utf8 s) = some s := by
  have hv : s.toByteArray.IsValidUTF8 := s.isValidUTF8
  simp [ofUtf8?, utf8, String.fromUTF8?, hv, String.fromUTF8]

lemma utf8_length (s : String) : (utf8 s).length = s.utf8ByteSize := by
  rw [utf8]
  simp

lemma utf8_append (s t : String) : utf8 (s ++ t) = utf8 s ++ utf8 t := by
  rw [utf8, utf8, utf8]
  simp

lemma hexDigit_size {n : ℕ} (hn : n < 16) : (Uuid.hexDigit n).utf8Size = 1 := by
  have hall : ∀ i : Fin 16, (Uuid.hexDigit i).utf8Size = 1 := by decide
  exact hall ⟨n, hn⟩

lemma utf8_hex_length (bs : Bytes) : (utf8 (Uuid.hex bs)).length = 2 * bs.length := by
  rw [utf8_length, Uuid.hex]
  induction bs with
  | nil => rfl
  | cons b bs ih =>
    have hhigh := hexDigit_size (n := b.toNat / 16) (by have := b.toNat_lt; omega)
    have hlow := hexDigit_size (n := b.toNat % 16) (by omega)
    rw [List.flatMap_cons, List.cons_append, List.cons_append, List.nil_append, String.ofList_cons,
      String.ofList_cons, String.utf8ByteSize_append, String.utf8ByteSize_append, String.utf8ByteSize_singleton,
      String.utf8ByteSize_singleton, hhigh, hlow, ih, List.length_cons]
    omega

lemma utf8_str_length (u : Uuid) : (utf8 u.str).length = 36 := by
  have hdash : (utf8 "-").length = 1 := by decide
  simp only [Uuid.str, utf8_append, List.length_append, utf8_hex_length, List.length_take, List.length_drop,
    u.size, hdash]
  rfl

abbrev Encoder := Except Exn Bytes

namespace Encoder

def new : Encoder := .ok []

def write (enc : Encoder) (field : Except Exn Bytes) : Encoder := do
  return (← enc) ++ (← field)

def u8 (enc : Encoder) (v : ℤ) : Encoder := enc.write (packUInt 1 v)

def u32 (enc : Encoder) (v : ℤ) : Encoder := enc.write (packUInt 4 v)

def u64 (enc : Encoder) (v : ℤ) : Encoder := enc.write (packUInt 8 v)

def i64 (enc : Encoder) (v : ℤ) : Encoder := enc.write (packInt64 v)

def bytes (enc : Encoder) (b : Bytes) : Encoder := (enc.u32 b.length).write (.ok b)

def str (enc : Encoder) (s : String) : Encoder := enc.bytes (utf8 s)

def uuid (enc : Encoder) : Option Uuid → Encoder
  | none => enc.write (.ok (0 :: List.replicate 16 0))
  | some u => enc.write (.ok (1 :: u.bytes))

def finish (enc : Encoder) : Except Exn Bytes := enc

lemma write_eq_ok {enc : Encoder} {field : Except Exn Bytes} {bs : Bytes} :
    enc.write field = .ok bs ↔ ∃ v w, enc = .ok v ∧ field = .ok w ∧ v ++ w = bs := by
  simp only [write, except_bind_eq_ok]
  constructor
  · rintro ⟨v, hv, w, hw, he⟩
    exact ⟨v, w, hv, hw, Except.ok.inj he⟩
  · rintro ⟨v, w, hv, hw, he⟩
    exact ⟨v, hv, w, hw, by rw [he]; rfl⟩

lemma new_write (field : Except Exn Bytes) : new.write field = field := by
  cases field <;> rfl

lemma write_write (enc : Encoder) (field field' : Except Exn Bytes) :
    (enc.write field).write field' = enc.write (Encoder.write field field') := by
  cases enc <;> cases field <;> cases field' <;> simp [write, pure, Except.pure]

lemma write_bytes (enc : Encoder) (b : Bytes) : enc.bytes b = enc.write (new.bytes b) := by
  rw [bytes, bytes, u32, u32, new_write, write_write]

lemma of_write {enc : Encoder} {field : Except Exn Bytes} {bs : Bytes} (h : enc.write field = .ok bs) :
    ∃ v, enc = .ok v := by
  obtain ⟨v, _, hv, _⟩ := write_eq_ok.mp h
  exact ⟨v, hv⟩

lemma of_bytes {enc : Encoder} {b bs : Bytes} (h : enc.bytes b = .ok bs) : ∃ v, enc = .ok v := by
  obtain ⟨_, hlength⟩ := of_write h
  exact of_write hlength

def Writes (enc : Encoder) (n : ℕ) : Prop := ∃ bs, enc = .ok bs ∧ bs.length = n

namespace Writes

variable {enc : Encoder} {n : ℕ}

lemma new : Writes Encoder.new 0 := ⟨[], rfl, rfl⟩

lemma of_eq {m : ℕ} (h : Writes enc n) (hn : n = m) : Writes enc m := hn ▸ h

lemma write {field : Except Exn Bytes} {m : ℕ} (h : Writes enc n)
    (hfield : ∃ w, field = .ok w ∧ w.length = m) : Writes (enc.write field) (n + m) := by
  obtain ⟨v, hv, rfl⟩ := h
  obtain ⟨w, hw, rfl⟩ := hfield
  exact ⟨v ++ w, write_eq_ok.mpr ⟨v, w, hv, hw, rfl⟩, List.length_append⟩

lemma uint {k : ℕ} {v : ℤ} (h : Writes enc n) (hv : 0 ≤ v) (hlt : v < 256 ^ k) :
    Writes (enc.write (packUInt k v)) (n + k) := by
  obtain ⟨w, hw⟩ := packUInt_isOk.mpr ⟨hv, hlt⟩
  exact h.write ⟨w, hw, packUInt_length hw⟩

lemma u8 {v : ℤ} (h : Writes enc n) (hv : 0 ≤ v) (hlt : v < 2 ^ 8) : Writes (enc.u8 v) (n + 1) :=
  h.uint hv hlt

lemma u32 {v : ℤ} (h : Writes enc n) (hv : 0 ≤ v) (hlt : v < 2 ^ 32) : Writes (enc.u32 v) (n + 4) :=
  h.uint hv (by omega)

lemma u64 {v : ℤ} (h : Writes enc n) (hv : 0 ≤ v) (hlt : v < 2 ^ 64) : Writes (enc.u64 v) (n + 8) :=
  h.uint hv (by omega)

lemma i64 {v : ℤ} (h : Writes enc n) (hv : -2 ^ 63 ≤ v) (hlt : v < 2 ^ 63) :
    Writes (enc.i64 v) (n + 8) := by
  obtain ⟨w, hw⟩ : ∃ w, packInt64 v = .ok w := ⟨_, if_pos ⟨hv, hlt⟩⟩
  exact h.write ⟨w, hw, packInt64_length hw⟩

lemma bytes {b : Bytes} (h : Writes enc n) (hlt : b.length < 2 ^ 32) :
    Writes (enc.bytes b) (n + 4 + b.length) :=
  (h.u32 (by omega) (by omega)).write ⟨b, rfl, rfl⟩

lemma str {s : String} (h : Writes enc n) (hlt : (utf8 s).length < 2 ^ 32) :
    Writes (enc.str s) (n + 4 + (utf8 s).length) :=
  h.bytes hlt

lemma uuid (h : Writes enc n) (u : Option Uuid) : Writes (enc.uuid u) (n + 17) := by
  cases u with
  | none => exact h.write ⟨_, rfl, rfl⟩
  | some u => exact h.write ⟨_, rfl, by rw [List.length_cons, u.size]⟩

end Writes

end Encoder

abbrev Decoder (α : Type) := Parser Exn UInt8 α

namespace Decoder

def take (n : ℕ) : Decoder Bytes :=
  takeN (fun data => .decodeError s!"truncated: need {n} bytes, have {data.length}") n

def u8 : Decoder ℤ := do return unpackUInt (← take 1)

def u32 : Decoder ℤ := do return unpackUInt (← take 4)

def u64 : Decoder ℤ := do return unpackUInt (← take 8)

def i64 : Decoder ℤ := do return unpackInt64 (← take 8)

def bytes : Decoder Bytes := do take (← u32).toNat

def str : Decoder String := do
  let bs ← bytes
  match ofUtf8? bs with
  | some s => return s
  | none => throw .unicodeDecodeError

def uuid : Decoder (Option Uuid) := do
  let flag ← u8
  let bs ← take 16
  return if flag = 0 then none else Uuid.ofBytes? bs

lemma u32_eq_ok {data rest : Bytes} {v : ℤ} :
    u32.run data = .ok (v, rest) ↔
      4 ≤ data.length ∧ v = unpackUInt (data.take 4) ∧ rest = data.drop 4 := by
  simp only [u32, take, parser_bind_eq_ok, takeN_eq_ok, parser_pure_eq_ok]
  constructor
  · rintro ⟨w, mid, ⟨hlen, rfl, rfl⟩, rfl, rfl⟩
    exact ⟨hlen, rfl, rfl⟩
  · rintro ⟨hlen, rfl, rfl⟩
    exact ⟨_, _, ⟨hlen, rfl, rfl⟩, rfl, rfl⟩

lemma bytes_eq_ok {data b rest : Bytes} (h : bytes.run data = .ok (b, rest)) :
    4 ≤ data.length ∧ unpackUInt (data.take 4) = b.length := by
  simp only [bytes, take, parser_bind_eq_ok, takeN_eq_ok, u32_eq_ok] at h
  obtain ⟨v, mid, ⟨hlen, rfl, rfl⟩, hshort, rfl, rfl⟩ := h
  refine ⟨hlen, ?_⟩
  rw [List.length_take, min_eq_left hshort]
  exact (Int.toNat_of_nonneg (Int.natCast_nonneg _)).symm

lemma reads_take (bs : Bytes) : Reads (take bs.length) bs bs := reads_takeN _ bs

lemma reads_take_of_length {n : ℕ} {bs : Bytes} (h : bs.length = n) : Reads (take n) bs bs :=
  h ▸ reads_take bs

lemma reads_u8 {v : ℤ} {bs : Bytes} (h : packUInt 1 v = .ok bs) : Reads u8 bs v :=
  unpack_packUInt h ▸ (reads_take_of_length (packUInt_length h)).map unpackUInt

lemma reads_u32 {v : ℤ} {bs : Bytes} (h : packUInt 4 v = .ok bs) : Reads u32 bs v :=
  unpack_packUInt h ▸ (reads_take_of_length (packUInt_length h)).map unpackUInt

lemma reads_u64 {v : ℤ} {bs : Bytes} (h : packUInt 8 v = .ok bs) : Reads u64 bs v :=
  unpack_packUInt h ▸ (reads_take_of_length (packUInt_length h)).map unpackUInt

lemma reads_i64 {v : ℤ} {bs : Bytes} (h : packInt64 v = .ok bs) : Reads i64 bs v :=
  unpack_packInt64 h ▸ (reads_take_of_length (packInt64_length h)).map unpackInt64

lemma reads_bytes {b bs : Bytes} (h : packUInt 4 b.length = .ok bs) : Reads bytes (bs ++ b) b :=
  (reads_u32 h).bind (by simpa using reads_take b)

lemma reads_str {s : String} {bs : Bytes} (h : packUInt 4 (utf8 s).length = .ok bs) :
    Reads str (bs ++ utf8 s) s := by
  refine (reads_bytes h).last ?_
  simpa using Reads.pure s

lemma reads_uuid_none : Reads uuid (0 :: List.replicate 16 0) none := by
  have hflag : Reads u8 [0] 0 := reads_u8 rfl
  have htake : Reads (take 16) (List.replicate 16 0) (List.replicate 16 0) :=
    reads_take_of_length rfl
  exact Reads.bind (w := List.replicate 16 0) hflag (htake.map fun _ => none)

lemma reads_uuid_some (u : Uuid) : Reads uuid (1 :: u.bytes) (some u) := by
  have hflag : Reads u8 [1] 1 := reads_u8 rfl
  have htake := (reads_take_of_length u.size).map Uuid.ofBytes?
  rw [Uuid.ofBytes?_bytes] at htake
  exact hflag.bind htake

end Decoder

def Leads {α : Type} (enc : Encoder) (dec k : Decoder α) : Prop :=
  ∀ data rest, enc = .ok data → dec.run (data ++ rest) = k.run rest

namespace Leads

variable {α β : Type} {enc : Encoder} {dec : Decoder α}

lemma new (dec : Decoder α) : Leads Encoder.new dec dec := by
  intro data rest h
  obtain rfl := Except.ok.inj h
  rfl

lemma write {field : Except Exn Bytes} {p : Decoder β} {v : β} {k : β → Decoder α}
    (h : Leads enc dec (p >>= k)) (hp : ∀ bs, field = .ok bs → Reads p bs v) :
    Leads (enc.write field) dec (k v) := by
  intro data rest hdata
  obtain ⟨w, bs, hw, hbs, rfl⟩ := Encoder.write_eq_ok.mp hdata
  rw [List.append_assoc, h w (bs ++ rest) hw, StateT.run_bind, hp bs hbs rest]
  rfl

lemma u8 {k : ℤ → Decoder α} (h : Leads enc dec (Decoder.u8 >>= k)) (v : ℤ) :
    Leads (enc.u8 v) dec (k v) :=
  h.write fun _ => Decoder.reads_u8

lemma u32 {k : ℤ → Decoder α} (h : Leads enc dec (Decoder.u32 >>= k)) (v : ℤ) :
    Leads (enc.u32 v) dec (k v) :=
  h.write fun _ => Decoder.reads_u32

lemma u64 {k : ℤ → Decoder α} (h : Leads enc dec (Decoder.u64 >>= k)) (v : ℤ) :
    Leads (enc.u64 v) dec (k v) :=
  h.write fun _ => Decoder.reads_u64

lemma i64 {k : ℤ → Decoder α} (h : Leads enc dec (Decoder.i64 >>= k)) (v : ℤ) :
    Leads (enc.i64 v) dec (k v) :=
  h.write fun _ => Decoder.reads_i64

lemma sized {b : Bytes} {p : Decoder β} {v : β} {k : β → Decoder α} (h : Leads enc dec (p >>= k))
    (hp : ∀ len, packUInt 4 b.length = .ok len → Reads p (len ++ b) v) :
    Leads (enc.bytes b) dec (k v) := by
  intro data rest hdata
  obtain ⟨w, bs, hw, hbs, rfl⟩ := Encoder.write_eq_ok.mp hdata
  obtain ⟨w', len, hw', hlen, rfl⟩ := Encoder.write_eq_ok.mp hw
  obtain rfl := Except.ok.inj hbs
  rw [List.append_assoc, List.append_assoc, h w' _ hw', ← List.append_assoc, StateT.run_bind,
    hp len hlen rest]
  rfl

lemma bytes {k : Bytes → Decoder α} (h : Leads enc dec (Decoder.bytes >>= k)) (b : Bytes) :
    Leads (enc.bytes b) dec (k b) :=
  h.sized fun _ => Decoder.reads_bytes

lemma str {k : String → Decoder α} (h : Leads enc dec (Decoder.str >>= k)) (s : String) :
    Leads (enc.str s) dec (k s) :=
  h.sized fun _ => Decoder.reads_str

lemma uuid {k : Option Uuid → Decoder α} (h : Leads enc dec (Decoder.uuid >>= k))
    (u : Option Uuid) : Leads (enc.uuid u) dec (k u) := by
  cases u with
  | none =>
    exact h.write fun bs hbs => Except.ok.inj hbs ▸ Decoder.reads_uuid_none
  | some u =>
    exact h.write fun bs hbs => Except.ok.inj hbs ▸ Decoder.reads_uuid_some u

end Leads

end Secupload.Shared
