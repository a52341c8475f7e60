import Mathlib.Algebra.GroupWithZero.Nat
import Mathlib.Data.List.Basic
import Mathlib.Data.Nat.Notation
import Mathlib.Tactic.Common

/-!
# Byte buffers

A buffer is a list. `overwrite` is a copy into a buffer (`memcpy`, `memmove`, a store), `slice` reads
a range, and `drop` is what follows a position. The lemmas say what a later read of the copied range,
of an earlier range or of the rest of the buffer sees.
-/

namespace Common

variable {α : Type*}

/-- Copy `bs` over `l` from offset `off` on. -/
def overwrite (l : List α) (off : ℕ) (bs : List α) : List α :=
  l.take off ++ bs ++ l.drop (off + bs.length)

/-- The `n` elements of `l` from offset `off` on. -/
def slice (l : List α) (off n : ℕ) : List α := (l.drop off).take n

theorem length_slice {l : List α} {off n : ℕ} (h : off + n ≤ l.length) :
    (slice l off n).length = n := by
  simp only [slice, List.length_take, List.length_drop]
  omega

theorem length_overwrite {l : List α} {off : ℕ} {bs : List α} (h : off + bs.length ≤ l.length) :
    (overwrite l off bs).length = l.length := by
  simp only [overwrite, List.length_append, List.length_take, List.length_drop]
  omega

/-- A copied range reads back as what was copied. -/
theorem slice_overwrite_self {l : List α} {off n : ℕ} {bs : List α} (hn : bs.length = n)
    (h : off + n ≤ l.length) : slice (overwrite l off bs) off n = bs := by
  have hlen : (l.take off).length = off := by
    rw [List.length_take]
    omega
  rw [overwrite, List.append_assoc, slice, List.drop_left' hlen]
  exact List.take_left' hn

/-- A range that ends before the copied one is not changed. -/
theorem slice_overwrite_before {l : List α} {off i n : ℕ} {bs : List α}
    (h : i + n ≤ off) (hoff : off ≤ l.length) : slice (overwrite l off bs) i n = slice l i n := by
  simp only [slice, overwrite, List.append_assoc]
  rw [List.drop_append_of_le_length (by rw [List.length_take]; omega),
    List.take_append_of_le_length (by rw [List.length_drop, List.length_take]; omega),
    List.drop_take, List.take_take]
  congr 1
  omega

/-- From the copied range on: what was copied, then the rest. -/
theorem drop_overwrite_self {l : List α} {off : ℕ} {bs : List α} (h : off ≤ l.length) :
    (overwrite l off bs).drop off = bs ++ l.drop (off + bs.length) := by
  have hlen : (l.take off).length = off := by
    rw [List.length_take]
    omega
  rw [overwrite, List.append_assoc]
  exact List.drop_left' hlen

/-- What comes after the copied range is not changed. -/
theorem drop_overwrite_after {l : List α} {off k : ℕ} {bs : List α} (h : off ≤ l.length)
    (hk : off + bs.length ≤ k) : (overwrite l off bs).drop k = l.drop k := by
  obtain ⟨i, rfl⟩ := Nat.exists_eq_add_of_le hk
  rw [← List.drop_drop, ← List.drop_drop, drop_overwrite_self h, List.drop_left, List.drop_drop]

/-- A range and what follows it. -/
theorem slice_append_drop (l : List α) (off n : ℕ) :
    slice l off n ++ l.drop (off + n) = l.drop off := by
  rw [slice, ← List.drop_drop, List.take_append_drop]

/-- The two bytes of a 16-bit number, low byte first. -/
def le16 (n : ℕ) : List UInt8 := [UInt8.ofNat n, UInt8.ofNat (n / 256)]

/-- The 16-bit number in two bytes, low byte first. -/
def ofLe16 : List UInt8 → ℕ
  | [a, b] => a.toNat + 256 * b.toNat
  | _ => 0

@[simp] theorem length_le16 (n : ℕ) : (le16 n).length = 2 := rfl

theorem ofLe16_le16 {n : ℕ} (h : n < 2 ^ 16) : ofLe16 (le16 n) = n := by
  simp only [le16, ofLe16, UInt8.toNat_ofNat']
  omega

end Common
