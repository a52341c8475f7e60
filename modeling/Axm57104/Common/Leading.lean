import Mathlib.Data.Nat.Notation
import Mathlib.Tactic.Common

/-!
# Leading runs

`leading p n` is the number of indices below `n` that come before the first one that does not satisfy
`p`: how far a loop gets that tests `p` once in each iteration.
-/

namespace Common

/-- The number of indices below `n` before the first that does not satisfy `p`. -/
def leading (p : ℕ → Bool) : ℕ → ℕ
  | 0 => 0
  | n + 1 => if p 0 then leading (fun j => p (j + 1)) n + 1 else 0

variable {p q : ℕ → Bool} {n : ℕ}

theorem leading_succ (h : p 0 = true) :
    leading p (n + 1) = leading (fun j => p (j + 1)) n + 1 := by
  rw [leading, if_pos h]

theorem leading_of_false (h : p 0 = false) : leading p n = 0 := by
  cases n with
  | zero => rfl
  | succ n => rw [leading, if_neg (by rw [h]; exact Bool.false_ne_true)]

theorem leading_le (p : ℕ → Bool) (n : ℕ) : leading p n ≤ n := by
  induction n generalizing p with
  | zero => exact Nat.le_refl 0
  | succ n ih =>
      rw [leading]
      split
      · exact Nat.succ_le_succ (ih _)
      · exact Nat.zero_le _

theorem of_lt_leading {j : ℕ} (h : j < leading p n) : p j = true := by
  induction n generalizing p j with
  | zero => exact absurd h (Nat.not_lt_zero j)
  | succ n ih =>
      cases h0 : p 0 with
      | false =>
          rw [leading_of_false h0] at h
          exact absurd h (Nat.not_lt_zero j)
      | true =>
          rw [leading_succ h0] at h
          cases j with
          | zero => exact h0
          | succ j => exact ih (p := fun j => p (j + 1)) (Nat.lt_of_succ_lt_succ h)

/-- The run ends at an index that does not satisfy `p`, or at the bound. -/
theorem eq_false_of_leading_lt (h : leading p n < n) : p (leading p n) = false := by
  induction n generalizing p with
  | zero => exact absurd h (Nat.not_lt_zero _)
  | succ n ih =>
      cases h0 : p 0 with
      | false => rw [leading_of_false h0, h0]
      | true =>
          rw [leading_succ h0] at h ⊢
          exact ih (Nat.lt_of_succ_lt_succ h)

theorem leading_congr (h : ∀ j < n, p j = q j) : leading p n = leading q n := by
  induction n generalizing p q with
  | zero => rfl
  | succ n ih =>
      rw [leading, leading, h 0 (Nat.succ_pos n),
        ih fun j hj => h (j + 1) (Nat.succ_lt_succ hj)]

/-- A failure right behind the bound leaves the run as it is. -/
theorem leading_succ_of_last_false (h : p n = false) : leading p (n + 1) = leading p n := by
  induction n generalizing p with
  | zero => exact leading_of_false h
  | succ n ih =>
      rw [leading, ih h]
      rfl

end Common
