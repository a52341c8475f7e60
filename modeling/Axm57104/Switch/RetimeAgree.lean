import Axm57104.Switch.Retime
import Mathlib.Data.Nat.ModEq

/-!
# The two re-timing handlers compared

`ax_irq_timer_change` and `ax_irq_timer_value_change` re-time a port by the same code, but the
former takes the administrative base time where the latter takes the operational one. This module
says when a port is given the same values all the same: exactly when no start time is computed, or
when both base times lead to the same cycle start.
-/

namespace Axm57104.Switch

open Common

/-! ## Cycle starts -/

section CycleStart

/-- The step from a base time that lies behind the current time, as a number. -/
def stepAhead (cur base c : ℕ) : ℕ := base + ((cur - base) / c + 2) * c

variable {cur c : ℕ}

theorem stepAhead_bounds {base : ℕ} (hc : 0 < c) (hb : base < cur) :
    cur + c < stepAhead cur base c ∧ stepAhead cur base c ≤ cur + 2 * c := by
  have hdiv := Nat.div_add_mod' (cur - base) c
  have hmod := Nat.mod_lt (cur - base) hc
  rw [stepAhead, Nat.add_mul]
  omega

theorem stepAhead_mod (base : ℕ) : stepAhead cur base c % c = base % c := by
  rw [stepAhead, Nat.add_mul_mod_self_right]

/-- Two numbers of one residue in a window of one cycle are the same. -/
theorem eq_of_mod_eq_of_window {a b lo : ℕ} (hmod : a % c = b % c) (ha : lo < a ∧ a ≤ lo + c)
    (hb : lo < b ∧ b ≤ lo + c) : a = b := by
  have hab : a ≡ b [MOD c] := hmod
  rcases Nat.le_total a b with hle | hle
  · have hdvd := (Nat.modEq_iff_dvd' hle).mp hab
    have hzero := Nat.eq_zero_of_dvd_of_lt hdvd (by omega)
    omega
  · have hdvd := (Nat.modEq_iff_dvd' hle).mp hab.symm
    have hzero := Nat.eq_zero_of_dvd_of_lt hdvd (by omega)
    omega

end CycleStart

/-- The value of a next cycle start from a base time behind the current time. -/
theorem toNat_stepAhead {current base : UInt64} (cycle : UInt32) (hcur : current.toNat < 2 ^ 62)
    (hb : base < current) :
    (base + ((current - base) / cycle.toUInt64 + 2) * cycle.toUInt64).toNat =
      stepAhead current.toNat base.toNat cycle.toNat :=
  toNat_boundary cycle hcur (UInt64.le_of_lt hb) (by decide)

/-- A base time that the computation takes to the window of the next but one cycle, or that lies in
it already. -/
def Reaches (current base : UInt64) (cycle : UInt32) : Prop :=
  base < current ∨
    current.toNat + cycle.toNat < base.toNat ∧ base.toNat ≤ current.toNat + 2 * cycle.toNat

/-- Two base times that lead to the same cycle start, or to the same division by zero. -/
def SameStart (current a b : UInt64) (cycle : UInt32) : Prop :=
  a = b ∨ (cycle = 0 ∧ a < current ∧ b < current) ∨
    (cycle ≠ 0 ∧ a.toNat % cycle.toNat = b.toNat % cycle.toNat ∧ Reaches current a cycle ∧
      Reaches current b cycle)

/-- The cycle start of a base time behind the current one is in the window, with its residue. -/
theorem nextStart_behind {current base : UInt64} {cycle : UInt32} (hcur : current.toNat < 2 ^ 62)
    (hb : base < current) (hc : cycle ≠ 0) :
    ∃ start, nextStart current base cycle = some start ∧
      start.toNat % cycle.toNat = base.toNat % cycle.toNat ∧
      current.toNat + cycle.toNat < start.toNat ∧
      start.toNat ≤ current.toNat + 2 * cycle.toNat := by
  have hvalue := toNat_stepAhead cycle hcur hb
  have hbounds := stepAhead_bounds (toNat_pos_of_ne_zero hc) (UInt64.lt_iff_toNat_lt.mp hb)
  refine ⟨_, by rw [nextStart, if_neg (UInt64.not_le.mpr hb), if_neg hc], ?_, ?_⟩
  · rw [hvalue, stepAhead_mod]
  · rw [hvalue]
    exact hbounds

theorem nextStart_ahead {current base : UInt64} (cycle : UInt32) (hb : ¬ base < current) :
    nextStart current base cycle = some base :=
  if_pos (UInt64.not_lt.mp hb)

theorem nextStart_eq_iff_of_zero {current a b : UInt64} :
    nextStart current a 0 = nextStart current b 0 ↔ a = b ∨ a < current ∧ b < current := by
  have hbehind : ∀ {x : UInt64}, x < current → nextStart current x 0 = none := fun hx => by
    rw [nextStart, if_neg (UInt64.not_le.mpr hx), if_pos rfl]
  by_cases ha : a < current <;> by_cases hb : b < current
  · simp [hbehind ha, hbehind hb, ha, hb]
  · rw [hbehind ha, nextStart_ahead 0 hb]
    constructor
    · intro h
      cases h
    · rintro (rfl | h)
      · exact absurd ha hb
      · exact absurd h.2 hb
  · rw [hbehind hb, nextStart_ahead 0 ha]
    constructor
    · intro h
      cases h
    · rintro (rfl | h)
      · exact absurd hb ha
      · exact absurd h.1 ha
  · rw [nextStart_ahead 0 ha, nextStart_ahead 0 hb, Option.some.injEq]
    exact ⟨Or.inl, fun h => h.resolve_right fun h => ha h.1⟩

/-- With a cycle time, every base time has a next start with its residue; the start is in the window
if the base time reaches it, and is the base time itself if that is not behind. -/
theorem nextStart_spec {current : UInt64} {cycle : UInt32} (hcur : current.toNat < 2 ^ 62)
    (hc : cycle ≠ 0) (base : UInt64) :
    ∃ start, nextStart current base cycle = some start ∧
      start.toNat % cycle.toNat = base.toNat % cycle.toNat ∧
      (Reaches current base cycle → current.toNat + cycle.toNat < start.toNat ∧
        start.toNat ≤ current.toNat + 2 * cycle.toNat) ∧
      (¬ base < current → start = base) := by
  by_cases hb : base < current
  · obtain ⟨start, hnext, hmod, hwindow⟩ := nextStart_behind hcur hb hc
    exact ⟨start, hnext, hmod, fun _ => hwindow, fun h => absurd hb h⟩
  · refine ⟨base, nextStart_ahead cycle hb, rfl, ?_, fun _ => rfl⟩
    rintro (h | h)
    · exact absurd h hb
    · exact h

theorem nextStart_eq_iff {current : UInt64} {cycle : UInt32} (hcur : current.toNat < 2 ^ 62)
    (a b : UInt64) :
    nextStart current a cycle = nextStart current b cycle ↔ SameStart current a b cycle := by
  by_cases hc : cycle = 0
  · subst hc
    simp [nextStart_eq_iff_of_zero, SameStart]
  obtain ⟨sa, hna, hma, hwa, hfa⟩ := nextStart_spec hcur hc a
  obtain ⟨sb, hnb, hmb, hwb, hfb⟩ := nextStart_spec hcur hc b
  rw [hna, hnb, Option.some.injEq]
  constructor
  · rintro rfl
    by_cases ha : a < current
    · -- the start is in the window, so the other base time reaches it too
      refine Or.inr (Or.inr ⟨hc, hma.symm.trans hmb, Or.inl ha, ?_⟩)
      by_cases hb : b < current
      · exact Or.inl hb
      · exact Or.inr (hfb hb ▸ hwa (Or.inl ha))
    · by_cases hb : b < current
      · exact Or.inr (Or.inr ⟨hc, hma.symm.trans hmb, Or.inr (hfa ha ▸ hwb (Or.inl hb)), Or.inl hb⟩)
      · exact Or.inl ((hfa ha).symm.trans (hfb hb))
  · rintro (rfl | ⟨h0, -⟩ | ⟨-, hmod, ha, hb⟩)
    · exact Option.some.inj (hna.symm.trans hnb)
    · exact absurd h0 hc
    · have hwa' := hwa ha
      have hwb' := hwb hb
      apply UInt64.toNat_inj.mp
      exact eq_of_mod_eq_of_window (hma.trans (hmod.trans hmb.symm))
        ⟨hwa'.1, by omega⟩ ⟨hwb'.1, by omega⟩

/-! ## The writes -/

theorem words_inj {t t' : UInt64} (hhi : hiWord t = hiWord t') (hlo : loWord t = loWord t') :
    t = t' := by
  rw [← time64_words t, hhi, hlo, time64_words]

/-- The writes of a re-timing are the same for two base times if no start time is written, or if
they lead to the same one. -/
theorem Timing.writes_eq_iff {t : Timing} (hcur : t.current.toNat < 2 ^ 62) (a b : UInt64) :
    t.writes a = t.writes b ↔ t.tooSoon = true ∨ SameStart t.current a b t.cycle := by
  rw [← nextStart_eq_iff hcur]
  simp only [Timing.writes, Timing.decision, List.cons.injEq, true_and]
  by_cases hsoon : t.tooSoon = true
  · simp [hsoon]
  · simp only [hsoon, Bool.false_eq_true, if_false, false_or]
    cases nextStart t.current a t.cycle with
    | none => cases nextStart t.current b t.cycle <;> simp
    | some start =>
        cases nextStart t.current b t.cycle with
        | none => simp
        | some start' =>
            simp only [List.cons_append, List.nil_append, List.cons.injEq, Prod.mk.injEq, true_and,
              and_true, Option.some.injEq]
            constructor
            · intro h
              exact words_inj h.1 h.2
            · rintro rfl
              exact ⟨rfl, rfl⟩

/-- Re-timing writes to the four registers only. -/
theorem Timing.filter_writes (t : Timing) (base : UInt64) :
    (t.writes base).filter (fun x => x.1.retimed) = t.writes base := by
  rw [List.filter_eq_self]
  simp only [Timing.writes, Timing.decision, List.forall_mem_cons]
  refine ⟨rfl, ?_⟩
  split
  · simp [QbvReg.retimed]
  · split
    · simp
    · split <;> simp [QbvReg.retimed]

/-! ## The handlers -/

/-- What a handler, run alone, writes to the cycle start and configuration change registers of a
port: registers and values, in order. -/
def retimings (p : UInt32) (h : SwitchM Unit) (s : SwitchRegs) : List (QbvReg × UInt32) :=
  (portWrites p (h.run switchDev s).log).filter fun x => x.1.retimed

/-- **The re-timing handlers agree on a port exactly when the base times do not matter**: when a
pending configuration change is due too soon for a new cycle start, or when the administrative and
the operational base time lead to the same cycle start. -/
theorem retimings_agree_iff (cfg : SwitchConfig) (s : SwitchRegs) (p : UInt32)
    (hrequest : OnlyFlag (s (.req .qbvTimerChangeRequest)) cfg.numberOfPorts p.toNat)
    (hgate : s (.port p .gateEnabled) = 1)
    (htimer : OnlyFlag (s (.req .asTIntMask)) (cfg.numberOfDomains + 1)
      (s (.port p .timerDomainIndex) + 1).toNat) :
    retimings p (axIrqTimerChange cfg) s = retimings p (timerValueChangeOn cfg [p]) s ↔
      (timing s p).tooSoon = true ∨
        SameStart (timing s p).current (baseTime s p .adminBaseTimeNsHi .adminBaseTimeNsLo)
          (baseTime s p .operBaseTimeNsHi .operBaseTimeNsLo) (timing s p).cycle := by
  have hchange : retimings p (axIrqTimerChange cfg) s =
      (timing s p).writes (baseTime s p .adminBaseTimeNsHi .adminBaseTimeNsLo) := by
    rw [retimings, axIrqTimerChange, portWrites_handler,
      (run_timerChangeBody s hrequest.lowest hgate).1, Timing.filter_writes]
  have hvalue : retimings p (timerValueChangeOn cfg [p]) s =
      (timing s p).writes (baseTime s p .operBaseTimeNsHi .operBaseTimeNsLo) := by
    rw [retimings, timerValueChangeOn, portWrites_handler, timerValueChangeBody,
      htimer.lowest.getIndexByMask_eq_self]
    simp only [timerValueChangePorts]
    -- the loop has one round, after which nothing follows
    rw [Prog.pure_eq_ret, show (fun _ : Unit => Prog.ret ()) = Prog.ret from rfl, Prog.bind_ret,
      (run_timerValueChangePort s hgate rfl).1, Timing.filter_writes]
  rw [hchange, hvalue]
  exact Timing.writes_eq_iff (toNat_currentTime_lt _ _) _ _

/-- Port 0 uses timer 1, which shows 100 ns, with cycles of 10 ns; its base times are 0 ns and, to
be applied, `admin` ns. Both handlers are due. -/
def retimeRegs (admin : UInt32) : SwitchRegs
  | .req .asTIntMask => 2
  | .req .qbvTimerChangeRequest => 1
  | .port 0 .gateEnabled => 1
  | .port 0 .operCycleTime => 10
  | .port 0 .adminBaseTimeNsLo => admin
  | .timer 1 .valLo => 100
  | _ => 0

theorem retimings_agree_whole_cycles :
    retimings 0 (axIrqTimerChange smallConfig) (retimeRegs 30) =
      retimings 0 (timerValueChangeOn smallConfig [0]) (retimeRegs 30) := by
  have hrequest : OnlyFlag (retimeRegs 30 (.req .qbvTimerChangeRequest)) 5 (0 : UInt32).toNat := by
    decide
  have htimer : OnlyFlag (retimeRegs 30 (.req .asTIntMask)) 3
      (retimeRegs 30 (.port 0 .timerDomainIndex) + 1).toNat := by
    decide
  apply (retimings_agree_iff smallConfig (retimeRegs 30) 0 hrequest rfl htimer).mpr
  exact Or.inr (Or.inr (Or.inr ⟨by decide, by decide, Or.inl (by decide), Or.inl (by decide)⟩))

/-- The two base times are half a cycle apart: the handlers write 115 ns and 120 ns. -/
theorem retimings_differ_half_cycle :
    OnlyFlag (retimeRegs 5 (.req .qbvTimerChangeRequest)) smallConfig.numberOfPorts
        (0 : UInt32).toNat ∧
      retimeRegs 5 (.port 0 .gateEnabled) = 1 ∧
      OnlyFlag (retimeRegs 5 (.req .asTIntMask)) (smallConfig.numberOfDomains + 1)
        (retimeRegs 5 (.port 0 .timerDomainIndex) + 1).toNat ∧
      retimings 0 (axIrqTimerChange smallConfig) (retimeRegs 5) ≠
        retimings 0 (timerValueChangeOn smallConfig [0]) (retimeRegs 5) :=
  ⟨by decide, rfl, by decide, by decide⟩

end Axm57104.Switch
