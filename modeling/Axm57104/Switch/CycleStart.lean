import Axm57104.Switch.ChangeTime
import Axm57104.Switch.RetimeAgree
import Axm57104.Switch.RetimeFrame
import Mathlib.Order.Bounds.Defs

/-!
# The cycle start that a re-timing commands

`get_cycle_start_time` takes a base time that is not behind as it is, and else goes from it in whole
cycles to the one after the next. In 64 bits this is exact, for every reading of the timer.

With a configuration change pending, the new start is commanded only if the change is more than ten
cycles away. These ten cycles are a 32-bit product, so for long cycles the handlers see less than ten
of them.
-/

namespace Axm57104.Switch

open Common

/-! ## The next cycle start -/

/-- What the start time has to be: the base time if it is not behind, else the first boundary of its
cycles that is more than a cycle away. -/
def IsNextStart (current base cycle start : ℕ) : Prop :=
  (current ≤ base → start = base) ∧
    (base < current → IsLeast {t | (∃ k, t = base + k * cycle) ∧ current + cycle < t} start ∧
      start ≤ current + 2 * cycle)

theorem stepAhead_isLeast {cur base c : ℕ} (hc : 0 < c) (hb : base < cur) :
    IsLeast {t | (∃ k, t = base + k * c) ∧ cur + c < t} (stepAhead cur base c) := by
  obtain ⟨hlow, hhigh⟩ := stepAhead_bounds hc hb
  refine ⟨⟨⟨_, rfl⟩, hlow⟩, ?_⟩
  rintro t ⟨⟨k, rfl⟩, hk⟩
  -- one cycle less would not be more than a cycle away
  rw [stepAhead] at hhigh ⊢
  by_contra hlt
  have hstep : k < (cur - base) / c + 2 := by
    apply Nat.lt_of_mul_lt_mul_right (a := c)
    omega
  have hle : k * c ≤ ((cur - base) / c + 1) * c := Nat.mul_le_mul_right c (by omega)
  rw [Nat.add_mul] at hhigh hle
  omega

/-- The 64-bit operations on the way from a timer reading to the start time, each with the value that
it has as a number. -/
structure NoWrap (sec nsec : UInt32) (base : UInt64) (cycle : UInt32) : Prop where
  seconds : (sec.toUInt64 * 1000000000).toNat = sec.toNat * 10 ^ 9
  current : (currentTime sec nsec).toNat = sec.toNat * 10 ^ 9 + nsec.toNat
  elapsed : base < currentTime sec nsec →
    (currentTime sec nsec - base).toNat = (currentTime sec nsec).toNat - base.toNat
  nextstep : base < currentTime sec nsec →
    ((currentTime sec nsec - base) / cycle.toUInt64 + 2).toNat =
      ((currentTime sec nsec - base) / cycle.toUInt64).toNat + 2
  product : base < currentTime sec nsec →
    (((currentTime sec nsec - base) / cycle.toUInt64 + 2) * cycle.toUInt64).toNat =
      ((currentTime sec nsec - base) / cycle.toUInt64 + 2).toNat * cycle.toNat
  start : base < currentTime sec nsec →
    (base + ((currentTime sec nsec - base) / cycle.toUInt64 + 2) * cycle.toUInt64).toNat =
      base.toNat + (((currentTime sec nsec - base) / cycle.toUInt64 + 2) * cycle.toUInt64).toNat

theorem noWrap (sec nsec : UInt32) (base : UInt64) (cycle : UInt32) :
    NoWrap sec nsec base cycle := by
  have hcur := toNat_currentTime_lt sec nsec
  have hsec := sec.toNat_lt
  have hnext : base < currentTime sec nsec →
      ((currentTime sec nsec - base) / cycle.toUInt64 + 2).toNat =
        ((currentTime sec nsec).toNat - base.toNat) / cycle.toNat + 2 :=
    fun hb => toNat_cycles cycle hcur (UInt64.le_of_lt hb) (by decide)
  have hproduct : base < currentTime sec nsec →
      (((currentTime sec nsec - base) / cycle.toUInt64 + 2) * cycle.toUInt64).toNat =
        (((currentTime sec nsec).toNat - base.toNat) / cycle.toNat + 2) * cycle.toNat :=
    fun hb => toNat_cycles_mul cycle hcur (UInt64.le_of_lt hb) (by decide)
  refine ⟨?_, toNat_currentTime sec nsec, fun hb => ?_, fun hb => ?_, fun hb => ?_, fun hb => ?_⟩
  · rw [UInt64.toNat_mul, UInt32.toNat_toUInt64]
    exact Nat.mod_eq_of_lt (by simp only [UInt64.reduceToNat]; omega)
  · exact UInt64.toNat_sub_of_le _ _ (UInt64.le_of_lt hb)
  · rw [hnext hb, UInt64.toNat_div, UInt64.toNat_sub_of_le _ _ (UInt64.le_of_lt hb),
      UInt32.toNat_toUInt64]
  · rw [hproduct hb, hnext hb]
  · rw [hproduct hb]
    exact toNat_boundary cycle hcur (UInt64.le_of_lt hb) (by decide)

/-- The start time that is computed is the one it has to be. -/
theorem nextStart_isNextStart {current : UInt64} (base : UInt64) {cycle : UInt32}
    (hcur : current.toNat < 2 ^ 62) (hc : cycle ≠ 0) :
    ∃ start, nextStart current base cycle = some start ∧
      IsNextStart current.toNat base.toNat cycle.toNat start.toNat := by
  by_cases hb : base < current
  · have hlt := UInt64.lt_iff_toNat_lt.mp hb
    have hpos := toNat_pos_of_ne_zero hc
    refine ⟨_, by rw [nextStart, if_neg (UInt64.not_le.mpr hb), if_neg hc], fun hle => ?_, fun _ => ?_⟩
    · omega
    · rw [toNat_stepAhead cycle hcur hb]
      exact ⟨stepAhead_isLeast hpos hlt, (stepAhead_bounds hpos hlt).2⟩
  · refine ⟨base, nextStart_ahead cycle hb, fun _ => rfl, fun hlt => ?_⟩
    exact absurd (UInt64.lt_iff_toNat_lt.mpr hlt) hb

theorem words_toNat (t : UInt64) : (hiWord t).toNat * 2 ^ 32 + (loWord t).toNat = t.toNat := by
  rw [toNat_hiWord, toNat_loWord]
  omega

/-- The writes of a re-timing that commands a new start: the start comes right before the command,
and there is no second one. -/
theorem Timing.writes_command {t : Timing} {base : UInt64}
    (hcmd : (QbvReg.cycleStartTimeCtrl, 1) ∈ t.writes base) :
    ∃ start rest, nextStart t.current base t.cycle = some start ∧
      (QbvReg.cycleStartTimeCtrl, 1) ∉ rest ∧
      t.writes base = (.cycleStartTimeCtrl, 2) :: (.cycleStartTimeNsHi, hiWord start) ::
        (.cycleStartTimeNsLo, loWord start) :: (.cycleStartTimeCtrl, 1) :: rest := by
  rw [Timing.writes, List.mem_cons] at hcmd
  have hdecision := hcmd.resolve_left (by decide)
  rw [Timing.decision] at hdecision
  by_cases hsoon : t.tooSoon = true
  · rw [if_pos hsoon, List.mem_singleton] at hdecision
    cases hdecision
  rw [if_neg hsoon] at hdecision
  cases hnext : nextStart t.current base t.cycle with
  | none =>
      rw [hnext] at hdecision
      cases hdecision
  | some start =>
      refine ⟨start, if t.pending then [(.configChangeCtrl, 1)] else [], rfl, ?_, ?_⟩
      · split <;> decide
      · rw [Timing.writes, Timing.decision, if_neg hsoon, hnext]
        rfl

/-- **The next cycle start.** Whenever `ax_irq_timer_value_change` commands a new cycle start for a
port with a cycle time, the two words it has written just before are those of the base time, if that
is not behind, and else of the first cycle boundary that is more than a cycle away; no 64-bit
operation has wrapped around on the way. -/
theorem cycleStart_isNextStart (cfg : SwitchConfig) (s : SwitchRegs) (p : UInt32)
    (hcycle : s (.port p .operCycleTime) ≠ 0)
    (hcmd : (QbvReg.cycleStartTimeCtrl, 1) ∈
      portWrites p ((axIrqTimerValueChange cfg).run switchDev s).log) :
    let sec := s (.timer (timerOf s p) .valHi)
    let nsec := s (.timer (timerOf s p) .valLo)
    let base := baseTime s p .operBaseTimeNsHi .operBaseTimeNsLo
    ∃ hi lo rest, portWrites p ((axIrqTimerValueChange cfg).run switchDev s).log =
        (.cycleStartTimeCtrl, 2) :: (.cycleStartTimeNsHi, hi) :: (.cycleStartTimeNsLo, lo) ::
          (.cycleStartTimeCtrl, 1) :: rest ∧
      (QbvReg.cycleStartTimeCtrl, 1) ∉ rest ∧
      IsNextStart (sec.toNat * 10 ^ 9 + nsec.toNat) base.toNat (s (.port p .operCycleTime)).toNat
        (hi.toNat * 2 ^ 32 + lo.toNat) ∧
      NoWrap sec nsec base (s (.port p .operCycleTime)) := by
  intro sec nsec base
  have hwrites : portWrites p ((axIrqTimerValueChange cfg).run switchDev s).log =
      (timing s p).writes base := by
    rcases retime_writes cfg s (r := .asTIntMask) nofun p with hnone | ⟨-, hw⟩
    · have hnone' : portWrites p ((axIrqTimerValueChange cfg).run switchDev s).log = [] := hnone
      rw [hnone'] at hcmd
      exact absurd hcmd List.not_mem_nil
    · exact hw
  rw [hwrites] at hcmd ⊢
  obtain ⟨start, rest, hnext, hrest, heq⟩ := Timing.writes_command hcmd
  obtain ⟨start', hnext', hstart⟩ := nextStart_isNextStart base
    (toNat_currentTime_lt sec nsec) hcycle
  obtain rfl : start = start' := Option.some.inj (hnext.symm.trans hnext')
  refine ⟨hiWord start, loWord start, rest, heq, hrest, ?_, noWrap sec nsec base _⟩
  rw [words_toNat, ← toNat_currentTime]
  exact hstart

/-- The timer shows 100 ns, the cycles of 10 ns begin at 0 ns. -/
theorem cycleStart_isNextStart_behind :
    ∃ hi lo rest,
      portWrites 0 ((axIrqTimerValueChange smallConfig).run switchDev (retimeRegs 30)).log =
        (.cycleStartTimeCtrl, 2) :: (.cycleStartTimeNsHi, hi) :: (.cycleStartTimeNsLo, lo) ::
          (.cycleStartTimeCtrl, 1) :: rest ∧
      IsNextStart 100 0 10 (hi.toNat * 2 ^ 32 + lo.toNat) := by
  obtain ⟨hi, lo, rest, hwrites, -, hstart, -⟩ :=
    cycleStart_isNextStart smallConfig (retimeRegs 30) 0 (by decide) (by decide)
  exact ⟨hi, lo, rest, hwrites, hstart⟩

/-! ## A pending configuration change -/

/-- The writes command a new cycle start. -/
def Commands (writes : List (QbvReg × UInt32)) : Prop :=
  ∃ hi lo, [(.cycleStartTimeNsHi, hi), (.cycleStartTimeNsLo, lo), (.cycleStartTimeCtrl, 1)] <:+: writes

/-- The writes for a pending change: the configuration change comes last, and a new start is
commanded unless the change is too soon. -/
theorem Timing.writes_pending {t : Timing} (hpending : t.pending = true) (hc : t.cycle ≠ 0)
    (hcur : t.current.toNat < 2 ^ 62) (base : UInt64) :
    (t.writes base).getLast? = some (.configChangeCtrl, 1) ∧
      (Commands (t.writes base) ↔ t.current.toNat + (10 * t.cycle).toNat < t.changeTime.toNat) := by
  have hsoon : t.tooSoon = true ↔ ¬ t.current.toNat + (10 * t.cycle).toNat < t.changeTime.toNat := by
    rw [Timing.tooSoon, hpending, Bool.true_and, decide_eq_true_eq, UInt64.le_iff_toNat_le,
      toNat_add_ten hcur, Nat.not_lt]
  by_cases htoo : t.tooSoon = true
  · rw [Timing.writes, Timing.decision, if_pos htoo]
    refine ⟨rfl, fun hcommands => ?_, fun hlate => absurd hlate (hsoon.mp htoo)⟩
    obtain ⟨hi, lo, hinfix⟩ := hcommands
    have hlen := hinfix.length_le
    simp at hlen
  · obtain ⟨start, hnext, -⟩ := nextStart_isNextStart base hcur hc
    rw [Timing.writes, Timing.decision, if_neg htoo, hnext, hpending]
    refine ⟨rfl, fun _ => ?_, fun _ => ⟨hiWord start, loWord start, [(.cycleStartTimeCtrl, 2)],
      [(.configChangeCtrl, 1)], rfl⟩⟩
    exact not_not.mp fun h => htoo (hsoon.mpr h)

/-- **A pending configuration change is judged exactly** unless it is due within ten cycles, but not
within their 32-bit product. -/
theorem pendingChange_exact_iff (cfg : SwitchConfig) (s : SwitchRegs) (p : UInt32) {r : ReqReg}
    (hr : r ≠ .qbvConfigChangeReq) (hcycle : s (.port p .operCycleTime) ≠ 0)
    (hpending : s (.port p .configChangeState) = 1)
    (hretimed : (QbvReg.cycleStartTimeCtrl, 2) ∈
      portWrites p ((handlerOf cfg r).run switchDev s).log) :
    let writes := portWrites p ((handlerOf cfg r).run switchDev s).log
    let current := (timing s p).current.toNat
    let changeTime := (timing s p).changeTime.toNat
    let cycle := s (.port p .operCycleTime)
    ((Commands writes ↔ current + 10 * cycle.toNat < changeTime) ∧
        writes.getLast? = some (.configChangeCtrl, 1)) ↔
      ¬ (current + (10 * cycle).toNat < changeTime ∧ changeTime ≤ current + 10 * cycle.toNat) := by
  intro writes current changeTime cycle
  have hwrites : writes = (timing s p).writes (retimeBase s p r) := by
    rcases retime_writes cfg s hr p with hnone | ⟨-, hw⟩
    · rw [hnone] at hretimed
      exact absurd hretimed List.not_mem_nil
    · exact hw
  have hpend : (timing s p).pending = true := decide_eq_true hpending
  obtain ⟨hlast, hcommands⟩ := Timing.writes_pending hpend hcycle
    (toNat_currentTime_lt _ _) (retimeBase s p r)
  have hle := toNat_ten_mul_le cycle
  have hcommands' : Commands writes ↔ current + (10 * cycle).toNat < changeTime := by
    rw [hwrites]
    exact hcommands
  have hlast' : writes.getLast? = some (.configChangeCtrl, 1) := by
    rw [hwrites]
    exact hlast
  rw [hcommands', and_iff_left hlast']
  omega

/-- Port 0 has cycles of `cycle` ns and a configuration change pending for `change` ns; its timer
shows 100 ns. Both re-timing handlers are due. -/
def pendingRegs (cycle change : UInt32) : SwitchRegs
  | .req .asTIntMask => 2
  | .req .qbvTimerChangeRequest => 1
  | .port 0 .gateEnabled => 1
  | .port 0 .operCycleTime => cycle
  | .port 0 .configChangeState => 1
  | .port 0 .configChangeTimeNsLo => change
  | .timer 1 .valLo => 100
  | _ => 0

/-- A change that is ninety cycles away. -/
theorem pendingChange_exact_far :
    let writes := portWrites 0 ((axIrqTimerChange smallConfig).run switchDev (pendingRegs 10 1000)).log
    (Commands writes ↔ 100 + 10 * 10 < 1000) ∧ writes.getLast? = some (.configChangeCtrl, 1) := by
  have hiff := pendingChange_exact_iff smallConfig (pendingRegs 10 1000) 0
    (r := .qbvTimerChangeRequest) nofun (by decide) rfl (by decide)
  exact hiff.mpr (by decide)

/-- Ten cycles of 429496730 ns are 4 ns in 32 bits: both handlers command a new start for a change
that is 100 ns away. -/
theorem pendingChange_not_exact :
    Commands (portWrites 0
        ((axIrqTimerChange smallConfig).run switchDev (pendingRegs 429496730 200)).log) ∧
      Commands (portWrites 0
        ((axIrqTimerValueChange smallConfig).run switchDev (pendingRegs 429496730 200)).log) ∧
      (timing (pendingRegs 429496730 200) 0).pending = true ∧
      ¬ 100 + 10 * 429496730 < 200 := by
  have hwrites : ∀ {writes : List (QbvReg × UInt32)}, writes = [(.cycleStartTimeCtrl, 2),
      (.cycleStartTimeNsHi, 0), (.cycleStartTimeNsLo, 858993460), (.cycleStartTimeCtrl, 1),
      (.configChangeCtrl, 1)] → Commands writes := by
    rintro _ rfl
    exact ⟨0, 858993460, [_], [_], rfl⟩
  exact ⟨hwrites (by decide), hwrites (by decide), by decide, by decide⟩

end Axm57104.Switch
