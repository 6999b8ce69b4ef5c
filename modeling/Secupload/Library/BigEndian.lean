import Mathlib.Tactic.Ring
import Mathlib.Data.List.Induction

namespace Secupload.Library

abbrev Bytes := List UInt8

def beBytes : ℕ → ℕ → Bytes
  | 0, _ => []
  | n + 1, v => beBytes n (v / 256) ++ [UInt8.ofNat v]

def beValue (bs : Bytes) : ℕ := bs.foldl (fun v b => v * 256 + b.toNat) 0

@[simp] lemma beBytes_length (n v : ℕ) : (beBytes n v).length = n := by
  induction n generalizing v with
  | zero => rfl
  | succ n ih => simp [beBytes, ih]

@[simp] lemma beValue_nil : beValue [] = 0 := rfl

lemma beValue_concat (bs : Bytes) (b : UInt8) : beValue (bs ++ [b]) = beValue bs * 256 + b.toNat := by
  simp [beValue]

lemma beValue_cons (b : UInt8) (bs : Bytes) :
    beValue (b :: bs) = b.toNat * 256 ^ bs.length + beValue bs := by
  induction bs using List.reverseRecOn with
  | nil => simp [beValue]
  | append_singleton bs c ih =>
    rw [← List.cons_append, beValue_concat, ih, beValue_concat, List.length_append,
      List.length_singleton, pow_succ]
    ring

lemma beValue_beBytes (n v : ℕ) (h : v < 256 ^ n) : beValue (beBytes n v) = v := by
  induction n generalizing v with
  | zero =>
    have hv : v = 0 := by simpa using h
    simp [beBytes, hv]
  | succ n ih =>
    have hq : v / 256 < 256 ^ n := by
      apply Nat.div_lt_of_lt_mul
      rw [pow_succ] at h
      omega
    rw [beBytes, beValue_concat, ih (v / 256) hq, UInt8.toNat_ofNat']
    omega

lemma beValue_lt (bs : Bytes) : beValue bs < 256 ^ bs.length := by
  induction bs using List.reverseRecOn with
  | nil => simp
  | append_singleton bs b ih =>
    have hb : b.toNat < 256 := b.toNat_lt
    rw [beValue_concat, List.length_append, List.length_singleton, pow_succ]
    omega

lemma beBytes_beValue (bs : Bytes) : beBytes bs.length (beValue bs) = bs := by
  induction bs using List.reverseRecOn with
  | nil => rfl
  | append_singleton bs b ih =>
    have hb : b.toNat < 256 := b.toNat_lt
    have hq : (beValue bs * 256 + b.toNat) / 256 = beValue bs := by omega
    have hr : UInt8.ofNat (beValue bs * 256 + b.toNat) = b := by
      apply UInt8.toNat.inj
      rw [UInt8.toNat_ofNat']
      omega
    rw [List.length_append, List.length_singleton, beValue_concat, beBytes, hq, ih, hr]

end Secupload.Library
