import Secupload.Library.Json
import Secupload.Shared.Keys

namespace Secupload.Shared

open Library

section Hex

-- Python also reads capital digits, and blanks between bytes
def hexValue (c : Char) : Option ℕ :=
  if '0' ≤ c ∧ c ≤ '9' then some (c.toNat - 48)
  else if 'a' ≤ c ∧ c ≤ 'f' then some (c.toNat - 87)
  else if 'A' ≤ c ∧ c ≤ 'F' then some (c.toNat - 55)
  else none

def unhex : List Char → Option Bytes
  | [] => some []
  | c :: rest =>
    if c.toNat = 32 ∨ 9 ≤ c.toNat ∧ c.toNat ≤ 13 then unhex rest
    else
      match rest with
      | [] => none
      | d :: rest => do return UInt8.ofNat (16 * (← hexValue c) + (← hexValue d)) :: (← unhex rest)

def fromHex (s : String) : Option Bytes := unhex s.toList

def hexChars (bs : Bytes) : List Char :=
  bs.flatMap fun b => [Uuid.hexDigit (b.toNat / 16), Uuid.hexDigit (b.toNat % 16)]

lemma hexDigit_read {n : ℕ} (hn : n < 16) : hexValue (Uuid.hexDigit n) = some n ∧
    Uuid.hexDigit n ≠ '-' ∧ ¬ ((Uuid.hexDigit n).toNat = 32 ∨
      9 ≤ (Uuid.hexDigit n).toNat ∧ (Uuid.hexDigit n).toNat ≤ 13) := by
  have hall : ∀ i : Fin 16, hexValue (Uuid.hexDigit i) = some i.val ∧
      Uuid.hexDigit i ≠ '-' ∧ ¬ ((Uuid.hexDigit i).toNat = 32 ∨
        9 ≤ (Uuid.hexDigit i).toNat ∧ (Uuid.hexDigit i).toNat ≤ 13) := by decide
  exact hall ⟨n, hn⟩

lemma toList_hex (bs : Bytes) : (Uuid.hex bs).toList = hexChars bs := by
  rw [Uuid.hex, String.toList_ofList, hexChars]

lemma unhex_hexChars (bs : Bytes) : unhex (hexChars bs) = some bs := by
  induction bs with
  | nil => rfl
  | cons b bs ih =>
    have hb := b.toNat_lt
    obtain ⟨hhigh, _, hblank⟩ := hexDigit_read (show b.toNat / 16 < 16 by omega)
    obtain ⟨hlow, _⟩ := hexDigit_read (show b.toNat % 16 < 16 by omega)
    rw [hexChars, List.flatMap_cons, List.cons_append, List.cons_append, List.nil_append, unhex, if_neg hblank]
    change (do return UInt8.ofNat (16 * (← hexValue _) + (← hexValue _)) :: (← unhex (hexChars bs))) = _
    rw [hhigh, hlow, ih]
    have hbyte : UInt8.ofNat (16 * (b.toNat / 16) + b.toNat % 16) = b := by
      rw [Nat.div_add_mod]
      exact UInt8.ofNat_toNat
    simp only [Option.bind_eq_bind, Option.bind_some, Option.pure_def, hbyte]

lemma fromHex_hex (bs : Bytes) : fromHex (Uuid.hex bs) = some bs := by
  rw [fromHex, toList_hex, unhex_hexChars]

end Hex

namespace Uuid

def parse (s : String) : Option Uuid := do
  ofBytes? (← unhex (s.toList.filter (· ≠ '-')))

lemma hexChars_undashed (bs : Bytes) : (hexChars bs).filter (· ≠ '-') = hexChars bs := by
  rw [List.filter_eq_self]
  intro c hc
  obtain ⟨b, _, hc⟩ := List.mem_flatMap.mp hc
  have hb := b.toNat_lt
  simp only [decide_eq_true_eq]
  rcases List.mem_pair.mp hc with rfl | rfl
  · exact (hexDigit_read (show b.toNat / 16 < 16 by omega)).2.1
  · exact (hexDigit_read (show b.toNat % 16 < 16 by omega)).2.1

lemma parse_str (u : Uuid) : parse u.str = some u := by
  have hparts : u.bytes = u.bytes.take 4 ++ ((u.bytes.drop 4).take 2 ++ ((u.bytes.drop 6).take 2 ++
      ((u.bytes.drop 8).take 2 ++ (u.bytes.drop 10).take 6))) := by
    have hlast : (u.bytes.drop 10).take 6 = u.bytes.drop 10 := List.take_of_length_le (by simp [u.size])
    rw [hlast]
    have h8 := List.take_append_drop 2 (u.bytes.drop 8)
    have h6 := List.take_append_drop 2 (u.bytes.drop 6)
    have h4 := List.take_append_drop 2 (u.bytes.drop 4)
    rw [List.drop_drop] at h8 h6 h4
    rw [h8, h6, h4, List.take_append_drop]
  have hchars : u.str.toList.filter (· ≠ '-') = hexChars u.bytes := by
    rw [hparts]
    simp only [str, String.toList_append, toList_hex, List.filter_append, hexChars_undashed, List.drop_zero]
    simp [hexChars]
  rw [parse, hchars, unhex_hexChars]
  exact ofBytes?_bytes u

end Uuid

namespace CredentialStatus

def value : CredentialStatus → String
  | generated => "GENERATED"
  | validating => "VALIDATING"
  | active => "ACTIVE"
  | fallback => "FALLBACK"
  | expired => "EXPIRED"
  | terminated => "TERMINATED"
  | revoked => "REVOKED"

def ofValue (s : String) : Option CredentialStatus :=
  [generated, validating, active, fallback, expired, terminated, revoked].find? fun status =>
    decide (status.value = s)

lemma ofValue_value (status : CredentialStatus) : ofValue status.value = some status := by
  cases status <;> decide

end CredentialStatus

namespace CredentialPublic

def json (c : CredentialPublic) : Json :=
  .obj [("ed_pub", .str (Uuid.hex c.ed25519Public)), ("x_pub", .str (Uuid.hex c.x25519Public)),
    ("status", .str c.status.value), ("created_at", .int c.createdAt),
    ("validation_deadline", .ofOption c.validationDeadline), ("activation_time", .ofOption c.activationTime),
    ("expiration_time", .ofOption c.expirationTime)]

-- `none` where Python raises a KeyError, a TypeError or a ValueError
def ofJson (identityUuid : Uuid) (version : ℤ) (j : Json) : Option CredentialPublic := do
  return {
    identityUuid, version
    ed25519Public := ← fromHex (← (← j.field? "ed_pub").str?)
    x25519Public := ← fromHex (← (← j.field? "x_pub").str?)
    status := ← CredentialStatus.ofValue (← (← j.field? "status").str?)
    createdAt := ← (← j.field? "created_at").int?
    validationDeadline := ← j.option? "validation_deadline"
    activationTime := ← j.option? "activation_time"
    expirationTime := ← j.option? "expiration_time" }

lemma ofJson_json (c : CredentialPublic) : ofJson c.identityUuid c.version c.json = some c := by
  have hdeadline : c.json.option? "validation_deadline" = some c.validationDeadline :=
    Json.option?_ofOption (by simp [json, Json.field?, List.lookup])
  have hactivation : c.json.option? "activation_time" = some c.activationTime :=
    Json.option?_ofOption (by simp [json, Json.field?, List.lookup])
  have hexpiration : c.json.option? "expiration_time" = some c.expirationTime :=
    Json.option?_ofOption (by simp [json, Json.field?, List.lookup])
  rw [ofJson, hdeadline, hactivation, hexpiration]
  simp [json, Json.field?, List.lookup, Json.str?, Json.int?, fromHex_hex, CredentialStatus.ofValue_value]

end CredentialPublic

namespace PrivateKeys

def json (k : PrivateKeys) : Json :=
  .obj [("ed", .str (Uuid.hex k.ed25519)), ("x", .str (Uuid.hex k.x25519))]

def ofJson (j : Json) : Option PrivateKeys := do
  return ⟨← fromHex (← (← j.field? "ed").str?), ← fromHex (← (← j.field? "x").str?)⟩

lemma ofJson_json (k : PrivateKeys) : ofJson k.json = some k := by
  simp [ofJson, json, Json.field?, List.lookup, Json.str?, fromHex_hex]

end PrivateKeys

namespace KeyMap

def json (keys : KeyMap) : Json := .keyed (·.1) (·.2.json) keys.rows

def ofJson (j : Json) : Option KeyMap := do
  return Table.ofRows (← j.keyed? fun version entry => (version, ·) <$> PrivateKeys.ofJson entry)

lemma ofJson_json (keys : KeyMap) : ofJson keys.json = some keys := by
  have hrows : Json.keyed? (fun version entry => (version, ·) <$> PrivateKeys.ofJson entry) keys.json =
      some keys.rows := Json.keyed?_keyed fun r _ => by rw [PrivateKeys.ofJson_json]; rfl
  have htable : (Table.ofRows keys.rows : KeyMap) = keys := Table.ext (Table.rows_ofRows _ keys.nodup)
  rw [ofJson, hrows, Option.bind_eq_bind, Option.bind_some, htable]
  rfl

end KeyMap

end Secupload.Shared
