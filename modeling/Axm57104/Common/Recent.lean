import Mathlib.Algebra.GroupWithZero.Nat
import Mathlib.Data.List.Basic
import Mathlib.Data.Nat.Notation
import Mathlib.Tactic.Common

/-!
# Rings that keep the newest entries

A ring of `n` slots with a write position overwrites its oldest entry. Read backwards from the
write position it shows the newest entries of everything ever written, newest first. `Recent` states
this against the whole history, `Recent.push` is the step, and `searchBack_eq_find?` reads a backward
search across the wrap as a search in the history.
-/

namespace Common

variable {α : Type*} {n : ℕ}

/-- The slot after `r`, wrapping to the first. -/
def nextSlot (r : Fin n) : Fin n :=
  if h : r.val + 1 < n then ⟨r.val + 1, h⟩ else ⟨0, Nat.zero_lt_of_lt r.isLt⟩

/-- The slot before `r`, wrapping to the last. -/
def prevSlot (r : Fin n) : Fin n :=
  if r.val = 0 then ⟨n - 1, Nat.sub_one_lt_of_lt r.isLt⟩
  else ⟨r.val - 1, Nat.lt_of_le_of_lt (Nat.sub_le _ _) r.isLt⟩

/-- The slot that was written `k` writes before the newest one, for the write position `w`. -/
def slotBack (w : Fin n) : ℕ → Fin n
  | 0 => prevSlot w
  | k + 1 => prevSlot (slotBack w k)

theorem val_slotBack (w : Fin n) {k : ℕ} (hk : k < n) :
    (slotBack w k).val = if k < w.val then w.val - 1 - k else w.val + n - 1 - k := by
  induction k with
  | zero =>
      simp only [slotBack, prevSlot]
      split <;> split <;> simp only <;> omega
  | succ k ih =>
      have hprev := ih (by omega)
      simp only [slotBack, prevSlot]
      have hw := w.isLt
      split at hprev <;> split <;> split <;> simp only <;> omega

theorem prevSlot_nextSlot (w : Fin n) : prevSlot (nextSlot w) = w := by
  have hw := w.isLt
  apply Fin.ext
  by_cases hlast : w.val + 1 < n
  · simp [nextSlot, prevSlot, hlast]
  · simp only [nextSlot, prevSlot, hlast, dite_false, if_true]
    omega

theorem slotBack_nextSlot (w : Fin n) (k : ℕ) : slotBack (nextSlot w) (k + 1) = slotBack w k := by
  induction k with
  | zero => rw [slotBack, slotBack, slotBack, prevSlot_nextSlot]
  | succ k ih => rw [slotBack, ih, slotBack]

/-- Only the oldest entry of a full ring sits at the write position. -/
theorem slotBack_ne {w : Fin n} {k : ℕ} (hk : k + 1 < n) : slotBack w k ≠ w := by
  intro heq
  have hval := val_slotBack w (show k < n by omega)
  rw [heq] at hval
  split at hval <;> omega

/-- The `num` slots behind the write position `w` hold the newest entries of `hist`, which lists
everything written, newest first. -/
structure Recent (items : Vector α n) (w : Fin n) (num : ℕ) (hist : List α) : Prop where
  num_eq : num = min hist.length n
  slot : ∀ k < num, hist[k]? = some items[slotBack w k]

namespace Recent

variable {items : Vector α n} {w : Fin n} {num : ℕ} {hist : List α}

theorem empty (items : Vector α n) (w : Fin n) : Recent items w 0 [] where
  num_eq := by simp
  slot k hk := absurd hk (Nat.not_lt_zero k)

/-- A write puts one more entry in front of the history. -/
theorem push (h : Recent items w num hist) (a : α) :
    Recent (items.set w a) (nextSlot w) (if num < n then num + 1 else num) (a :: hist) where
  num_eq := by
    have hnum := h.num_eq
    rw [List.length_cons]
    split <;> omega
  slot k hk := by
    have hnum := h.num_eq
    cases k with
    | zero =>
        have hw : slotBack (nextSlot w) 0 = w := prevSlot_nextSlot w
        rw [List.getElem?_cons_zero]
        simp [hw]
    | succ k =>
        have hlt : k < num ∧ k + 1 < n := by split at hk <;> omega
        have hne : w.val ≠ (slotBack w k).val := fun heq => slotBack_ne hlt.2 (Fin.ext heq.symm)
        rw [List.getElem?_cons_succ, h.slot k hlt.1]
        simp only [slotBack_nextSlot, Fin.getElem_fin, Vector.getElem_set, if_neg hne]

theorem num_eq_zero_iff (h : Recent items w num hist) : num = 0 ↔ hist = [] := by
  have hnum := h.num_eq
  have hw := w.isLt
  rw [← List.length_eq_zero_iff]
  omega

end Recent

/-- The first of `num` slots, going backwards from `r`, whose entry satisfies `p`. -/
def searchBack (items : Vector α n) (p : α → Bool) : ℕ → Fin n → Option (Fin n)
  | 0, _ => none
  | num + 1, r => if p items[r] then some r else searchBack items p num (prevSlot r)

/-- Searching the `m` slots from the `k`-th newest on is searching that part of the history. -/
theorem searchBack_slotBack {items : Vector α n} {w : Fin n} {num : ℕ} {hist : List α}
    (h : Recent items w num hist) (p : α → Bool) {m k : ℕ} (hm : k + m = num) :
    (searchBack items p m (slotBack w k)).map (fun r => items[r]) =
      ((hist.drop k).take m).find? p := by
  induction m generalizing k with
  | zero => simp [searchBack]
  | succ m ih =>
      obtain ⟨hk, hget⟩ := List.getElem?_eq_some_iff.mp (h.slot k (by omega))
      rw [List.drop_eq_getElem_cons hk, List.take_succ_cons, List.find?_cons, hget, searchBack]
      cases hp : p items[slotBack w k] with
      | true => simp
      | false => simpa [slotBack] using ih (show k + 1 + m = num by omega)

/-- A backward search over the whole ring finds the newest matching entry among the newest `n`. -/
theorem searchBack_eq_find? {items : Vector α n} {w : Fin n} {num : ℕ} {hist : List α}
    (h : Recent items w num hist) (p : α → Bool) :
    (searchBack items p num (prevSlot w)).map (fun r => items[r]) = (hist.take n).find? p := by
  have hall : hist.take num = hist.take n := by
    rw [h.num_eq, Nat.min_comm]
    exact (List.take_eq_take_min).symm
  rw [← hall]
  exact searchBack_slotBack h p (Nat.zero_add num)

end Common
