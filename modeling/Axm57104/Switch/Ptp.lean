import Axm57104.Switch.Qbv

/-!
# The PTP hardware clocks

The operations that the driver registers for each of its clocks. A clock is a domain, whose timer is
behind the selector index `domain_index + 1`; index 0 is the free-running timer. Every operation
returns zero, so only the time that `ax_ptp_gettime64` fills in is a result.

`scaled_ppm_to_ppb` is the kernel's; the operations are stated for any such conversion.
-/

namespace Axm57104.Switch

open Common

/-- What the operations read of `struct ax_ptp_clock_data`. -/
structure PtpClock where
  domainIndex : UInt32
  baseAddendVal : UInt32
  deriving DecidableEq, Repr

/-- `struct timespec64`. -/
structure Timespec64 where
  tvSec : Int64
  tvNsec : Int64
  deriving DecidableEq, Repr

/-- The number of clocks. -/
@[simp] abbrev PTP_DOMAIN_NUM : ℕ := 2

instance ptpDomainNum_neZero : NeZero PTP_DOMAIN_NUM := ⟨Nat.succ_ne_zero 1⟩

@[simp] abbrev NS_PER_SEC : UInt64 := 1000000000

/-- The selector index of the clock's timer. -/
def PtpClock.timer (clock : PtpClock) : UInt32 := clock.domainIndex + 1

/-- `ax_ptp_gettime64`. -/
def axPtpGettime64 (clock : PtpClock) : SwitchM Timespec64 := do
  writeReg .asTSelector (clock.domainIndex + 1)
  let second ← readReg (.timer .valHi)
  let nanosecond ← readReg (.timer .valLo)
  pure ⟨second.toUInt64.toInt64, nanosecond.toUInt64.toInt64⟩

/-- `ax_ptp_settime64`. -/
def axPtpSettime64 (clock : PtpClock) (ts : Timespec64) : SwitchM Unit := do
  writeReg .asTSelector (clock.domainIndex + 1)
  writeReg (.timer .valHi) ts.tvSec.toUInt64.toUInt32
  writeReg (.timer .valLo) ts.tvNsec.toUInt64.toUInt32

/-- `ax_ptp_adjtime`. The signed delta is added to an unsigned number of nanoseconds. -/
def axPtpAdjtime (clock : PtpClock) (delta : Int64) : SwitchM Unit := do
  writeReg .asTSelector (clock.domainIndex + 1)
  let second ← readReg (.timer .valHi)
  let nanosecond ← readReg (.timer .valLo)
  let ns := currentTime second nanosecond + delta.toUInt64
  writeReg (.timer .valHi) (ns / NS_PER_SEC).toUInt32
  writeReg (.timer .valLo) (ns % NS_PER_SEC).toUInt32

/-- The addend that `ax_ptp_adjfine` computes: the base value, changed by `ppb` parts per billion. -/
def newAddendVal (baseAddendVal : UInt32) (ppb : Int64) : UInt32 :=
  let negAdj := ppb < 0
  let ppb := if negAdj then -ppb else ppb
  let adjustVal := baseAddendVal.toUInt64 * ppb.toUInt64 / NS_PER_SEC
  if negAdj then (baseAddendVal.toUInt64 - adjustVal).toUInt32
  else (baseAddendVal.toUInt64 + adjustVal).toUInt32

/-- `ax_ptp_adjfine`. -/
def axPtpAdjfine (scaledPpmToPpb : Int64 → Int64) (clock : PtpClock) (scaledPpm : Int64) :
    SwitchM Unit := do
  let newAddend := newAddendVal clock.baseAddendVal (scaledPpmToPpb scaledPpm)
  writeReg .asTSelector (clock.domainIndex + 1)
  writeReg (.timer .addend) newAddend

/-- Scaled parts per million to parts per billion, as the kernel documents it: `ppm * 125 / 2 ^ 13`,
rounded. -/
def ppmToPpb (ppm : Int64) : Int64 := ((1 + ppm) * 125) >>> (13 : Int64)

/-! ## What the operations do to the registers -/

section Final

variable (s : SwitchRegs) (clock : PtpClock)

/-- The registers once the timer of a clock is selected. -/
def selectTimer (s : SwitchRegs) (clock : PtpClock) : SwitchRegs :=
  Function.update s .asTSelector clock.timer

theorem selectTimer_selector : selectTimer s clock .asTSelector = clock.timer :=
  Function.update_self _ _ _

theorem selectTimer_timer (i : UInt32) (r : TimerReg) :
    selectTimer s clock (.timer i r) = s (.timer i r) :=
  Function.update_of_ne (by simp) _ _

theorem run_axPtpGettime64 :
    ((axPtpGettime64 clock).run switchDev s).final = selectTimer s clock ∧
      ((axPtpGettime64 clock).run switchDev s).result =
        .ok ⟨(s (.timer clock.timer .valHi)).toUInt64.toInt64,
          (s (.timer clock.timer .valLo)).toUInt64.toInt64⟩ := by
  have hsel := selectTimer_selector s clock
  rw [axPtpGettime64, run_selectTimer, ← PtpClock.timer, ← selectTimer, run_readTimer hsel,
    run_readTimer hsel, selectTimer_timer, selectTimer_timer]
  exact ⟨rfl, rfl⟩

/-- The registers once a clock is loaded with seconds and nanoseconds. -/
def loadTimer (s : SwitchRegs) (clock : PtpClock) (second nanosecond : UInt32) : SwitchRegs :=
  Function.update (Function.update (selectTimer s clock) (.timer clock.timer .valHi) second)
    (.timer clock.timer .valLo) nanosecond

theorem run_axPtpSettime64 (ts : Timespec64) :
    ((axPtpSettime64 clock ts).run switchDev s).final =
      loadTimer s clock ts.tvSec.toUInt64.toUInt32 ts.tvNsec.toUInt64.toUInt32 := by
  have hsel := selectTimer_selector s clock
  have hsel' : Function.update (selectTimer s clock) (.timer clock.timer .valHi)
      ts.tvSec.toUInt64.toUInt32 .asTSelector = clock.timer := hsel
  rw [axPtpSettime64, run_selectTimer, ← PtpClock.timer, ← selectTimer, run_writeTimer hsel,
    run_writeTimer_ret hsel']
  rfl

/-- The nanoseconds that `ax_ptp_adjtime` computes. -/
def adjustedTime (s : SwitchRegs) (clock : PtpClock) (delta : Int64) : UInt64 :=
  currentTime (s (.timer clock.timer .valHi)) (s (.timer clock.timer .valLo)) + delta.toUInt64

theorem run_axPtpAdjtime (delta : Int64) :
    ((axPtpAdjtime clock delta).run switchDev s).final =
      loadTimer s clock (adjustedTime s clock delta / NS_PER_SEC).toUInt32
        (adjustedTime s clock delta % NS_PER_SEC).toUInt32 := by
  have hsel := selectTimer_selector s clock
  have hsel' : ∀ v, Function.update (selectTimer s clock) (.timer clock.timer .valHi) v
      .asTSelector = clock.timer := fun _ => hsel
  rw [axPtpAdjtime, run_selectTimer, ← PtpClock.timer, ← selectTimer, run_readTimer hsel,
    run_readTimer hsel, selectTimer_timer, selectTimer_timer]
  dsimp only
  rw [← adjustedTime, run_writeTimer hsel, run_writeTimer_ret (hsel' _)]
  rfl

theorem run_axPtpAdjfine (scaledPpmToPpb : Int64 → Int64) (scaledPpm : Int64) :
    ((axPtpAdjfine scaledPpmToPpb clock scaledPpm).run switchDev s).final =
      Function.update (selectTimer s clock) (.timer clock.timer .addend)
        (newAddendVal clock.baseAddendVal (scaledPpmToPpb scaledPpm)) := by
  have hsel := selectTimer_selector s clock
  rw [axPtpAdjfine, run_selectTimer, ← PtpClock.timer, ← selectTimer, run_writeTimer_ret hsel]
  rfl

end Final

theorem newAddendVal_zero (base : UInt32) : newAddendVal base 0 = base := by
  have hneg : ¬ (0 : Int64) < 0 := by decide
  have hzero : (0 : Int64).toUInt64 = 0 := by decide
  simp only [newAddendVal, hneg, if_false, hzero, UInt64.mul_zero, UInt64.zero_div, UInt64.add_zero,
    UInt32.toUInt32_toUInt64]

end Axm57104.Switch
