import Mathlib.Data.List.Basic
import Mathlib.Tactic.Ring

namespace Secupload.Library

variable {α : Type*}

def block (k : ℕ) (xs : List α) (i : ℕ) : List α := (xs.drop (i * k)).take k

def blockCount (k : ℕ) (xs : List α) : ℕ := (xs.length + k - 1) / k

def blocks (k : ℕ) (xs : List α) : List (List α) := (List.range (blockCount k xs)).map (block k xs)

section Blocks

variable {k : ℕ} {xs : List α}

lemma lt_blockCount (hk : 0 < k) {i : ℕ} : i < blockCount k xs ↔ i * k < xs.length := by
  rw [blockCount, Nat.lt_iff_add_one_le, Nat.le_div_iff_mul_le hk, Nat.succ_mul]
  omega

lemma blockCount_ne_zero (hk : 0 < k) (hxs : xs ≠ []) : blockCount k xs ≠ 0 := by
  have hpos : 0 < blockCount k xs := by
    rw [lt_blockCount hk, Nat.zero_mul]
    exact List.length_pos_iff.mpr hxs
  omega

lemma length_block_le (i : ℕ) : (block k xs i).length ≤ k := List.length_take_le _ _

lemma block_ne_nil (hk : 0 < k) {i : ℕ} (h : i * k < xs.length) : block k xs i ≠ [] := by
  rw [← List.length_pos_iff, block, List.length_take, List.length_drop]
  omega

lemma length_le_of_blockCount_le (hk : 0 < k) {i : ℕ} (h : blockCount k xs ≤ i) : xs.length ≤ i * k := by
  by_contra hlt
  exact absurd ((lt_blockCount hk).mpr (not_le.mp hlt)) (not_lt.mpr h)

lemma take_of_blockCount_le (hk : 0 < k) {i : ℕ} (h : blockCount k xs ≤ i) : xs.take (i * k) = xs :=
  List.take_of_length_le (length_le_of_blockCount_le hk h)

lemma take_append_block (i : ℕ) : xs.take (i * k) ++ block k xs i = xs.take ((i + 1) * k) := by
  rw [Nat.add_one_mul, List.take_add, block]

lemma flatten_range_block (m : ℕ) : ((List.range m).map (block k xs)).flatten = xs.take (m * k) := by
  induction m with
  | zero => simp
  | succ m ih =>
    rw [List.range_succ, List.map_append, List.flatten_append, ih, ← take_append_block]
    simp

lemma flatten_blocks (hk : 0 < k) : (blocks k xs).flatten = xs := by
  rw [blocks, flatten_range_block]
  exact take_of_blockCount_le hk le_rfl

end Blocks

end Secupload.Library
