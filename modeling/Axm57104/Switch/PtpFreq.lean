import Axm57104.Switch.PtpTime

/-!
# The frequency of the clocks

`ax_ptp_adjfine` scales the addend that the clock had at start-up by parts per billion. The
arithmetic is in 64 bits, the register has 32: a base addend near the top has no room for a faster
clock, although the driver announces the same `max_adj` for every clock.
-/

namespace Axm57104.Switch

open Common

/-- `ptp_caps.max_adj`. The PTP core lets no larger adjustment through. -/
@[simp] abbrev MAX_ADJ : ℤ := 100000000

/-- The addend for a frequency of `ppb` parts per billion, as a number: the change is rounded
towards zero. -/
def exactAddend (base : ℕ) (ppb : ℤ) : ℤ :=
  if ppb < 0 then base - base * -ppb / 10 ^ 9 else base + base * ppb / 10 ^ 9

/-- The adjustment passes the check of the PTP core. -/
def InRange (ppb : ℤ) : Prop := -MAX_ADJ ≤ ppb ∧ ppb ≤ MAX_ADJ

instance (ppb : ℤ) : Decidable (InRange ppb) := inferInstanceAs (Decidable (_ ∧ _))

section Arithmetic

/-- A faster clock has the larger addend. -/
theorem exactAddend_mono (base : ℕ) {ppb ppb' : ℤ} (h : ppb ≤ ppb') :
    exactAddend base ppb ≤ exactAddend base ppb' := by
  have hbase : (0 : ℤ) ≤ base := Int.natCast_nonneg base
  have hdown : ∀ x : ℤ, 0 ≤ x → 0 ≤ base * x / 10 ^ 9 := fun x hx =>
    Int.ediv_nonneg (Int.mul_nonneg hbase hx) (by decide)
  rw [exactAddend, exactAddend]
  by_cases hneg : ppb < 0
  · rw [if_pos hneg]
    by_cases hneg' : ppb' < 0
    · rw [if_pos hneg']
      have hmul : (base : ℤ) * -ppb' ≤ base * -ppb := Int.mul_le_mul_of_nonneg_left (by omega) hbase
      have hdiv := Int.ediv_le_ediv (show (0 : ℤ) < 10 ^ 9 by decide) hmul
      omega
    · rw [if_neg hneg']
      have hleft := hdown (-ppb) (by omega)
      have hright := hdown ppb' (by omega)
      omega
  · have hneg' : ¬ ppb' < 0 := by omega
    rw [if_neg hneg, if_neg hneg']
    have hmul : (base : ℤ) * ppb ≤ base * ppb' := Int.mul_le_mul_of_nonneg_left h hbase
    have hdiv := Int.ediv_le_ediv (show (0 : ℤ) < 10 ^ 9 by decide) hmul
    omega

/-- A tenth of the base value is the most that can be added or taken away. -/
theorem adjustment_le (base : ℕ) {x : ℤ} (hx : x ≤ MAX_ADJ) : base * x / 10 ^ 9 ≤ (base : ℤ) := by
  have hmul : (base : ℤ) * x ≤ base * 10 ^ 9 :=
    Int.mul_le_mul_of_nonneg_left (by simp only [MAX_ADJ] at hx; omega) (Int.natCast_nonneg base)
  have hdiv := Int.ediv_le_ediv (show (0 : ℤ) < 10 ^ 9 by decide) hmul
  rwa [Int.mul_ediv_cancel _ (by decide)] at hdiv

/-- The 64-bit product and quotient are exact. -/
theorem toNat_adjustVal (base : UInt32) {ppb : UInt64} (hppb : ppb.toNat ≤ 10 ^ 8) :
    base.toNat * ppb.toNat < 2 ^ 64 ∧
      (base.toUInt64 * ppb / NS_PER_SEC).toNat = base.toNat * ppb.toNat / 10 ^ 9 := by
  have hbase := base.toNat_lt
  have hmul : base.toNat * ppb.toNat ≤ (2 ^ 32 - 1) * 10 ^ 8 :=
    Nat.mul_le_mul (by omega) hppb
  have hlt : base.toNat * ppb.toNat < 2 ^ 64 := by omega
  refine ⟨hlt, ?_⟩
  rw [UInt64.toNat_div, UInt64.toNat_mul, UInt32.toNat_toUInt64, Nat.mod_eq_of_lt hlt]
  rfl

/-- A number that is not negative keeps its value when it is taken as unsigned. -/
theorem toNat_toUInt64_of_nonneg {x : Int64} (h : 0 ≤ x.toInt) :
    (x.toUInt64.toNat : ℤ) = x.toInt := by
  have hlt := x.toUInt64.toNat_lt
  have hle := x.toInt_lt
  rcases toInt_eq_or x with hx | hx <;> omega

/-- The sign is taken off without overflow. -/
theorem toInt_neg_of_inRange {ppb : Int64} (h : InRange ppb.toInt) : (-ppb).toInt = -ppb.toInt := by
  obtain ⟨hlo, hhi⟩ := h
  simp only [MAX_ADJ] at hlo hhi
  rw [Int64.toInt_neg, Int.bmod_eq_of_le (by omega) (by omega)]

/-- **The computed addend**: the exact one, cut to 32 bits. -/
theorem toNat_newAddendVal {base : UInt32} {ppb : Int64} (h : InRange ppb.toInt) :
    ((newAddendVal base ppb).toNat : ℤ) = exactAddend base.toNat ppb.toInt % 2 ^ 32 := by
  have hbase := base.toNat_lt
  have hcast : base.toUInt64.toNat = base.toNat := UInt32.toNat_toUInt64 base
  have hsign : ppb < 0 ↔ ppb.toInt < 0 := Int64.lt_iff_toInt_lt
  have hlo := h.1
  have hhi := h.2
  simp only [MAX_ADJ] at hlo hhi
  by_cases hneg : ppb.toInt < 0
  · have habs : ((-ppb).toUInt64.toNat : ℤ) = -ppb.toInt := by
      rw [toNat_toUInt64_of_nonneg, toInt_neg_of_inRange h]
      rw [toInt_neg_of_inRange h]
      omega
    obtain ⟨-, hval⟩ := toNat_adjustVal base (show (-ppb).toUInt64.toNat ≤ 10 ^ 8 by omega)
    have hle := adjustment_le base.toNat (x := -ppb.toInt) (by simp only [MAX_ADJ]; omega)
    simp only [newAddendVal, hsign.mpr hneg, if_true, exactAddend, if_pos hneg]
    rw [← habs, ← Int.natCast_mul] at hle ⊢
    have hnat : (base.toUInt64 * (-ppb).toUInt64 / NS_PER_SEC) ≤ base.toUInt64 := by
      rw [UInt64.le_iff_toNat_le, hval, hcast]
      omega
    rw [UInt64.toNat_toUInt32, UInt64.toNat_sub_of_le _ _ hnat, hval, hcast]
    omega
  · have habs : (ppb.toUInt64.toNat : ℤ) = ppb.toInt := toNat_toUInt64_of_nonneg (by omega)
    obtain ⟨-, hval⟩ := toNat_adjustVal base (show ppb.toUInt64.toNat ≤ 10 ^ 8 by omega)
    have hle := adjustment_le base.toNat (x := ppb.toInt) (by simp only [MAX_ADJ]; omega)
    simp only [newAddendVal, mt hsign.mp hneg, if_false, exactAddend, if_neg hneg]
    rw [← habs, ← Int.natCast_mul] at hle ⊢
    rw [UInt64.toNat_toUInt32, UInt64.toNat_add, hval, hcast]
    omega

/-- The helper's sum and product stay within 64 bits. -/
def Converts (scaledPpm : Int64) : Prop :=
  -2 ^ 63 ≤ (1 + scaledPpm.toInt) * 125 ∧ (1 + scaledPpm.toInt) * 125 < 2 ^ 63

theorem toInt_ppmToPpb {scaledPpm : Int64} (h : Converts scaledPpm) :
    (ppmToPpb scaledPpm).toInt = (1 + scaledPpm.toInt) * 125 / 2 ^ 13 := by
  obtain ⟨hlo, hhi⟩ := h
  have hone : (1 : Int64).toInt = 1 := by decide
  have hfactor : (125 : Int64).toInt = 125 := by decide
  have hsum : (1 + scaledPpm).toInt = 1 + scaledPpm.toInt := by
    rw [Int64.toInt_add, hone, Int.bmod_eq_of_le (by omega) (by omega)]
  have hmul : ((1 + scaledPpm) * 125).toInt = (1 + scaledPpm.toInt) * 125 := by
    rw [Int64.toInt_mul, hsum, hfactor, Int.bmod_eq_of_le (by omega) (by omega)]
  have hshift : (ppmToPpb scaledPpm).toInt = ((1 + scaledPpm) * 125).toInt >>> (13 : ℕ) :=
    BitVec.toInt_sshiftRight'
  rw [hshift, hmul, Int.shiftRight_eq_div_pow]
  rfl

end Arithmetic

/-- The register has room for the adjusted addend: the base value is below
`2 ^ 32 / (1 + ppb / 10 ^ 9)`. -/
def HasRoom (base : ℕ) (ppb : ℤ) : Prop := base * (10 ^ 9 + ppb) < 2 ^ 32 * 10 ^ 9

instance (base : ℕ) (ppb : ℤ) : Decidable (HasRoom base ppb) := inferInstanceAs (Decidable (_ < _))

theorem hasRoom_iff {base : UInt32} {ppb : ℤ} (h : InRange ppb) :
    HasRoom base.toNat ppb ↔ exactAddend base.toNat ppb < 2 ^ 32 := by
  have hbase := base.toNat_lt
  obtain ⟨hlo, hhi⟩ := h
  rw [HasRoom, exactAddend, Int.mul_add]
  by_cases hneg : ppb < 0
  · -- a slower clock always fits
    have hmul : (base.toNat : ℤ) * ppb ≤ 0 :=
      Int.mul_nonpos_of_nonneg_of_nonpos (Int.natCast_nonneg _) (by omega)
    have hdown : 0 ≤ (base.toNat : ℤ) * -ppb / 10 ^ 9 :=
      Int.ediv_nonneg (Int.mul_nonneg (Int.natCast_nonneg _) (by omega)) (by decide)
    rw [if_pos hneg]
    omega
  · rw [if_neg hneg]
    omega

/-- The addend of the clock after `ax_ptp_adjfine`. -/
def adjfineAddend (s : SwitchRegs) (clock : PtpClock) (scaledPpm : Int64) : UInt32 :=
  ((axPtpAdjfine ppmToPpb clock scaledPpm).run switchDev s).final (.timer clock.timer .addend)

theorem adjfineAddend_eq (s : SwitchRegs) (clock : PtpClock) (scaledPpm : Int64) :
    adjfineAddend s clock scaledPpm = newAddendVal clock.baseAddendVal (ppmToPpb scaledPpm) := by
  rw [adjfineAddend, run_axPtpAdjfine, Function.update_self]

/-- The adjustment is exact, and no smaller `scaled_ppm` gives a larger addend. -/
structure AdjustsExactly (s : SwitchRegs) (clock : PtpClock) (scaledPpm : Int64) : Prop where
  exact : ((adjfineAddend s clock scaledPpm).toNat : ℤ) =
    exactAddend clock.baseAddendVal.toNat (ppmToPpb scaledPpm).toInt
  no_overflow : clock.baseAddendVal.toNat * (ppmToPpb scaledPpm).toInt.natAbs < 2 ^ 64
  monotone : ∀ scaledPpm', Converts scaledPpm' → Converts scaledPpm →
    InRange (ppmToPpb scaledPpm').toInt → scaledPpm' ≤ scaledPpm →
    adjfineAddend s clock scaledPpm' ≤ adjfineAddend s clock scaledPpm

section Adjfine

variable {s : SwitchRegs} {clock : PtpClock} {scaledPpm : Int64}

/-- With room in the register, nothing is cut off. -/
theorem toNat_adjfineAddend (h : InRange (ppmToPpb scaledPpm).toInt)
    (hroom : exactAddend clock.baseAddendVal.toNat (ppmToPpb scaledPpm).toInt < 2 ^ 32) :
    ((adjfineAddend s clock scaledPpm).toNat : ℤ) =
      exactAddend clock.baseAddendVal.toNat (ppmToPpb scaledPpm).toInt := by
  have hnonneg : 0 ≤ exactAddend clock.baseAddendVal.toNat (ppmToPpb scaledPpm).toInt := by
    obtain ⟨hlo, -⟩ := h
    have hle := adjustment_le clock.baseAddendVal.toNat
      (show -(ppmToPpb scaledPpm).toInt ≤ MAX_ADJ by omega)
    rw [exactAddend]
    split
    · omega
    · exact Int.add_nonneg (Int.natCast_nonneg _)
        (Int.ediv_nonneg (Int.mul_nonneg (Int.natCast_nonneg _) (by omega)) (by decide))
  rw [adjfineAddend_eq, toNat_newAddendVal h, Int.emod_eq_of_lt hnonneg hroom]

/-- **When the frequency adjustment is exact.** For every base addend and every adjustment that the
PTP core lets through, the addend that `ax_ptp_adjfine` writes is the exact one, and no larger than
that of a larger adjustment, if and only if the register has room for it. -/
theorem axPtpAdjfine_exact_iff (s : SwitchRegs) (clock : PtpClock) (scaledPpm : Int64)
    (h : InRange (ppmToPpb scaledPpm).toInt) :
    AdjustsExactly s clock scaledPpm ↔
      HasRoom clock.baseAddendVal.toNat (ppmToPpb scaledPpm).toInt := by
  rw [hasRoom_iff h]
  constructor
  · rintro ⟨hexact, -, -⟩
    have hlt := (adjfineAddend s clock scaledPpm).toNat_lt
    omega
  · intro hroom
    have hexact := toNat_adjfineAddend (s := s) h hroom
    refine ⟨hexact, ?_, fun scaledPpm' hconv' hconv h' hle => ?_⟩
    · obtain ⟨hlo, hhi⟩ := h
      have hbase := clock.baseAddendVal.toNat_lt
      simp only [MAX_ADJ] at hlo hhi
      have hmul := Nat.mul_le_mul (show clock.baseAddendVal.toNat ≤ 2 ^ 32 by omega)
        (show (ppmToPpb scaledPpm).toInt.natAbs ≤ 10 ^ 8 by omega)
      omega
    · -- the smaller adjustment has room too
      rw [Int64.le_iff_toInt_le] at hle
      have hppb : (ppmToPpb scaledPpm').toInt ≤ (ppmToPpb scaledPpm).toInt := by
        rw [toInt_ppmToPpb hconv, toInt_ppmToPpb hconv']
        omega
      have hmono := exactAddend_mono clock.baseAddendVal.toNat hppb
      have hexact' := toNat_adjfineAddend (s := s) h' (Int.lt_of_le_of_lt hmono hroom)
      rw [UInt32.le_iff_toNat_le]
      omega

/-- Half of the range leaves room for every adjustment. -/
theorem axPtpAdjfine_exact_half :
    AdjustsExactly (fun _ => 0) ⟨0, 0x80000000⟩ 6553599999 :=
  (axPtpAdjfine_exact_iff _ _ _ (by decide)).mpr (by decide)

/-- The largest base addend and the largest adjustment: a clock that should run a tenth faster gets
a tenth of its addend. -/
theorem axPtpAdjfine_wraps :
    InRange (ppmToPpb 6553599999).toInt ∧
      ¬ AdjustsExactly (fun _ => 0) ⟨0, 0xFFFFFFFF⟩ 6553599999 ∧
      adjfineAddend (fun _ => 0) ⟨0, 0xFFFFFFFF⟩ 6553599999 = 429496728 ∧
      adjfineAddend (fun _ => 0) ⟨0, 0xFFFFFFFF⟩ 0 = 0xFFFFFFFF := by
  have hlow : adjfineAddend (fun _ => 0) ⟨0, 0xFFFFFFFF⟩ 6553599999 = 429496728 := by
    rw [adjfineAddend_eq]
    decide
  have hbase : adjfineAddend (fun _ => 0) ⟨0, 0xFFFFFFFF⟩ 0 = 0xFFFFFFFF := by
    rw [adjfineAddend_eq]
    decide
  refine ⟨by decide, fun h => ?_, hlow, hbase⟩
  have hle := h.monotone 0 ⟨by decide, by decide⟩ ⟨by decide, by decide⟩ (by decide) (by decide)
  rw [hlow, hbase] at hle
  exact absurd hle (by decide)

end Adjfine

end Axm57104.Switch
