import Mathlib.Data.Fin.Basic
import Mathlib.Data.Nat.Bits
import Mathlib.Data.Nat.Bitwise
import Mathlib.Data.Nat.Notation
import Mathlib.Tactic.Common

/-!
# Words of bytes

A 32-bit word and the four bytes that a little-endian machine keeps for it, in both directions:
`ofLe32` loads a word from its bytes, `byteOf` is one byte of a word. Words that are used as sets of
bits are natural numbers, read with `Nat.testBit`.
-/

namespace Common

/-! ## Bits -/

/-- The test of one bit with a mask. -/
theorem and_two_pow_ne_zero_iff (x k : ℕ) : x &&& 2 ^ k ≠ 0 ↔ x.testBit k = true := by
  rw [Nat.and_two_pow]
  cases x.testBit k <;> simp

/-- A mask that begins at bit `k`. -/
theorem and_two_pow_mul (x m k : ℕ) : x &&& 2 ^ k * m = 2 ^ k * (x / 2 ^ k &&& m) := by
  have hpos : 0 < 2 ^ k := Nat.two_pow_pos k
  rw [← Nat.div_add_mod (x &&& 2 ^ k * m) (2 ^ k), Nat.and_div_two_pow, Nat.and_mod_two_pow,
    Nat.mul_div_cancel_left m hpos, Nat.mul_mod_right, Nat.and_zero, Nat.add_zero]

/-- A field of `w` bits from bit `k` on. -/
theorem and_field (x k w : ℕ) : x &&& 2 ^ k * (2 ^ w - 1) = 2 ^ k * (x / 2 ^ k % 2 ^ w) := by
  rw [and_two_pow_mul, Nat.and_two_pow_sub_one_eq_mod]

theorem testBit_or_two_pow_iff (x k p : ℕ) :
    (x ||| 2 ^ k).testBit p = true ↔ x.testBit p = true ∨ k = p := by
  rw [Nat.testBit_or, Nat.testBit_two_pow, Bool.or_eq_true, decide_eq_true_iff]

theorem testBit_ldiff_two_pow_iff (x k p : ℕ) :
    (Nat.ldiff x (2 ^ k)).testBit p = true ↔ x.testBit p = true ∧ k ≠ p := by
  rw [Nat.testBit_ldiff, Nat.testBit_two_pow, Bool.and_eq_true, Bool.not_eq_true',
    decide_eq_false_iff_not]

/-- Clearing one bit leaves the others. -/
theorem testBit_ldiff_two_pow {x k j : ℕ} (hne : k ≠ j) :
    (Nat.ldiff x (2 ^ k)).testBit j = x.testBit j := by
  rw [Nat.testBit_ldiff, Nat.testBit_two_pow, decide_eq_false hne, Bool.not_false, Bool.and_true]

/-! ## Bytes -/

/-- The word in four bytes, low byte first. -/
def ofLe32 (b : Fin 4 → UInt8) : UInt32 :=
  UInt32.ofNat ((b 0).toNat + 2 ^ 8 * (b 1).toNat + 2 ^ 16 * (b 2).toNat + 2 ^ 24 * (b 3).toNat)

/-- Byte `k` of a word, the low byte first. -/
def byteOf (v : UInt32) (k : Fin 4) : UInt8 := UInt8.ofNat (v.toNat / 2 ^ (8 * k.val))

theorem toNat_ofLe32 (b : Fin 4 → UInt8) : (ofLe32 b).toNat =
    (b 0).toNat + 2 ^ 8 * (b 1).toNat + 2 ^ 16 * (b 2).toNat + 2 ^ 24 * (b 3).toNat := by
  have h0 := (b 0).toNat_lt
  have h1 := (b 1).toNat_lt
  have h2 := (b 2).toNat_lt
  have h3 := (b 3).toNat_lt
  rw [ofLe32, UInt32.toNat_ofNat']
  omega

/-- A loaded word has the bytes it was loaded from. -/
theorem byteOf_ofLe32 (b : Fin 4 → UInt8) (k : Fin 4) : byteOf (ofLe32 b) k = b k := by
  have h0 := (b 0).toNat_lt
  have h1 := (b 1).toNat_lt
  have h2 := (b 2).toNat_lt
  have h3 := (b 3).toNat_lt
  refine UInt8.toNat_inj.mp ?_
  rw [byteOf, toNat_ofLe32, UInt8.toNat_ofNat']
  obtain rfl | rfl | rfl | rfl : k = 0 ∨ k = 1 ∨ k = 2 ∨ k = 3 := by omega
  · simp only [Fin.val_zero]
    omega
  · simp only [Fin.val_one]
    omega
  · simp only [Fin.val_two]
    omega
  · show (_ + _ + _ + _) / 2 ^ (8 * 3) % 2 ^ 8 = (b 3).toNat
    omega

/-- A byte shifted out of a word. -/
theorem toUInt8_shiftRight (v : UInt32) {n : UInt32} {k : Fin 4} (hn : n.toNat % 32 = 8 * k.val) :
    (v >>> n).toUInt8 = byteOf v k := by
  apply UInt8.toNat_inj.mp
  rw [UInt32.toNat_toUInt8, UInt32.toNat_shiftRight, hn, Nat.shiftRight_eq_div_pow, byteOf,
    UInt8.toNat_ofNat']

theorem testBit_byteOf (v : UInt32) (k : Fin 4) {i : ℕ} (hi : i < 8) :
    (byteOf v k).toNat.testBit i = v.toNat.testBit (8 * k.val + i) := by
  rw [byteOf, UInt8.toNat_ofNat', Nat.testBit_mod_two_pow, decide_eq_true hi, Bool.true_and,
    Nat.testBit_div_two_pow, Nat.add_comm]

/-- Bit `j` of a loaded word is bit `j % 8` of byte `j / 8`. -/
theorem testBit_ofLe32 (b : Fin 4 → UInt8) {j : ℕ} (hj : j / 8 < 4) :
    (ofLe32 b).toNat.testBit j = (b ⟨j / 8, hj⟩).toNat.testBit (j % 8) := by
  rw [← byteOf_ofLe32 b ⟨j / 8, hj⟩, testBit_byteOf _ _ (Nat.mod_lt j (by decide)), Nat.div_add_mod]

end Common
