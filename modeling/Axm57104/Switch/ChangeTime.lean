import Axm57104.Switch.Served

/-!
# The phase of a configuration change

`ax_irq_config_change` sends the administrative base time itself if it is far enough ahead, else the
tenth cycle boundary from now, counted from the base time. The count divides `current - base`, which
wraps around when the base time is ahead, but less than ten cycles: the time it then sends is on a
cycle boundary only if the cycle time divides `2 ^ 64`.

The count is rounded down, so the tenth boundary is less than ten cycles ahead unless the division
leaves no rest.
-/

namespace Axm57104.Switch

open Common

/-- The base time is ahead, but not far enough to be sent. The ten cycles are a 32-bit product. -/
def NearFuture (current base : UInt64) (cycle : UInt32) : Prop :=
  current.toNat < base.toNat ∧ base.toNat < current.toNat + (10 * cycle).toNat

instance (current base : UInt64) (cycle : UInt32) : Decidable (NearFuture current base cycle) :=
  inferInstanceAs (Decidable (_ ∧ _))

/-- `t` is on a cycle boundary counted from the base time. -/
def OnCycle (t base : UInt64) (cycle : UInt32) : Prop :=
  ∃ k : ℕ, t.toNat = base.toNat + k * cycle.toNat

section Arithmetic

/-- The time sent when the count has wrapped around: `r` is the rest of the division. -/
theorem boundary_iff_dvd {cur base c q r t : ℕ} (hnear : base < cur + 10 * c)
    (hdiv : 2 ^ 64 - (base - cur) = q * c + r) (hr : r < c) (hb : cur < base) (hbase : base < 2 ^ 64)
    (ht : t + r = cur + 10 * c) : (∃ k, t = base + k * c) ↔ c ∣ 2 ^ 64 := by
  constructor
  · rintro ⟨k, rfl⟩
    -- as integers, `2 ^ 64 = (q + 10 - k) * c`
    have hle : k * c ≤ (q + 10) * c := by
      rw [Nat.add_mul]
      omega
    refine ⟨q + 10 - k, ?_⟩
    rw [Nat.mul_comm, Nat.sub_mul, Nat.add_mul]
    rw [Nat.add_mul] at hle
    omega
  · rintro ⟨m, hm⟩
    -- the base time is `m - q` cycles ahead of the rest
    have hahead : (m - q) * c = base - cur + r := by
      rw [Nat.sub_mul, Nat.mul_comm m, ← hm]
      omega
    have hcycles : m - q < 11 := by
      apply Nat.lt_of_mul_lt_mul_right (a := c)
      omega
    have hle : (m - q) * c ≤ 10 * c := Nat.mul_le_mul_right c (by omega)
    refine ⟨10 - (m - q), ?_⟩
    rw [Nat.sub_mul]
    omega

variable {current base : UInt64} {cycle : UInt32}

/-- Ten cycles in 32 bits are no more than they are as a number. -/
theorem toNat_ten_mul_le (cycle : UInt32) : (10 * cycle).toNat ≤ 10 * cycle.toNat := by
  rw [UInt32.toNat_mul]
  exact Nat.mod_le _ _

/-- The bound of ten cycles, which does not overflow. -/
theorem toNat_add_ten (hcur : current.toNat < 2 ^ 62) (cycle : UInt32) :
    (current + (10 * cycle).toUInt64).toNat = current.toNat + (10 * cycle).toNat := by
  have h10 := (10 * cycle).toNat_lt
  rw [UInt64.toNat_add, UInt32.toNat_toUInt64]
  exact Nat.mod_eq_of_lt (by omega)

/-- The time sent for a base time that is not ahead. -/
theorem nextChange_behind (cycle : UInt32) (hcur : current.toNat < 2 ^ 62)
    (hb : base.toNat ≤ current.toNat) :
    (base + ((current - base) / cycle.toUInt64 + 10) * cycle.toUInt64).toNat =
      base.toNat + ((current.toNat - base.toNat) / cycle.toNat + 10) * cycle.toNat :=
  toNat_boundary cycle hcur (UInt64.le_iff_toNat_le.mpr hb) (by decide)

theorem toNat_sub_wrapped (hb : current.toNat < base.toNat) :
    (current - base).toNat = 2 ^ 64 - (base.toNat - current.toNat) := by
  have hbase := base.toNat_lt
  rw [UInt64.toNat_sub]
  omega

/-- The time sent for a base time that is ahead: the count has wrapped around. -/
theorem nextChange_wrapped (hcur : current.toNat < 2 ^ 62) (hc : cycle ≠ 0)
    (hb : current.toNat < base.toNat) :
    (base + ((current - base) / cycle.toUInt64 + 10) * cycle.toUInt64).toNat +
        (2 ^ 64 - (base.toNat - current.toNat)) % cycle.toNat =
      current.toNat + 10 * cycle.toNat := by
  have hpos := toNat_pos_of_ne_zero hc
  have hcycle := cycle.toNat_lt
  have hbase := base.toNat_lt
  have hdiv := Nat.div_add_mod' (2 ^ 64 - (base.toNat - current.toNat)) cycle.toNat
  have hmod := Nat.mod_lt (2 ^ 64 - (base.toNat - current.toNat)) hpos
  rw [UInt64.toNat_add, UInt64.toNat_mul, UInt64.toNat_add, UInt64.toNat_div,
    toNat_sub_wrapped hb, UInt32.toNat_toUInt64]
  simp only [UInt64.reduceToNat]
  rw [← Nat.add_mod_mod, Nat.mod_mod, Nat.mod_mul_mod]
  rw [Nat.add_mul]
  generalize (2 ^ 64 - (base.toNat - current.toNat)) / cycle.toNat * cycle.toNat = q at hdiv ⊢
  generalize (2 ^ 64 - (base.toNat - current.toNat)) % cycle.toNat = r at hdiv hmod ⊢
  omega

/-- The tenth boundary falls short of ten cycles by the rest of the division. -/
theorem nextChange_rest (base : UInt64) (hcur : current.toNat < 2 ^ 62) (hc : cycle ≠ 0) :
    (base + ((current - base) / cycle.toUInt64 + 10) * cycle.toUInt64).toNat +
        (current - base).toNat % cycle.toNat =
      current.toNat + 10 * cycle.toNat := by
  by_cases hb : base.toNat ≤ current.toNat
  · have hsub : (current - base).toNat = current.toNat - base.toNat :=
      UInt64.toNat_sub_of_le _ _ (UInt64.le_iff_toNat_le.mpr hb)
    have hdiv := Nat.div_add_mod' (current.toNat - base.toNat) cycle.toNat
    rw [nextChange_behind cycle hcur hb, hsub, Nat.add_mul]
    omega
  · have hahead : current.toNat < base.toNat := Nat.lt_of_not_le hb
    rw [toNat_sub_wrapped hahead]
    exact nextChange_wrapped hcur hc hahead

/-- The base time is sent if it is ten cycles ahead in 32 bits, else the tenth boundary. -/
theorem nextChange_cases (base : UInt64) (hcur : current.toNat < 2 ^ 62) (hc : cycle ≠ 0) :
    current.toNat + (10 * cycle).toNat ≤ base.toNat ∧ nextChange current base cycle = some base ∨
      base.toNat < current.toNat + (10 * cycle).toNat ∧ nextChange current base cycle =
        some (base + ((current - base) / cycle.toUInt64 + 10) * cycle.toUInt64) := by
  rw [← toNat_add_ten hcur cycle, nextChange]
  by_cases hfar : base ≥ current + (10 * cycle).toUInt64
  · rw [if_pos hfar]
    exact .inl ⟨UInt64.le_iff_toNat_le.mp hfar, rfl⟩
  · rw [if_neg hfar, if_neg hc]
    exact .inr ⟨UInt64.lt_iff_toNat_lt.mp (UInt64.not_le.mp hfar), rfl⟩

/-- Ten cycles of lead, with the exact product. They are kept by a base time that is that far ahead;
one that is not sent keeps them if the division leaves no rest. -/
def LeadKept (current base : UInt64) (cycle : UInt32) : Prop :=
  current.toNat + 10 * cycle.toNat ≤ base.toNat ∨
    base.toNat < current.toNat + (10 * cycle).toNat ∧ cycle.toNat ∣ (current - base).toNat

instance (current base : UInt64) (cycle : UInt32) : Decidable (LeadKept current base cycle) :=
  inferInstanceAs (Decidable (_ ∨ _))

theorem lead_nextChange_iff (base : UInt64) (hcur : current.toNat < 2 ^ 62) (hc : cycle ≠ 0) :
    ∃ t, nextChange current base cycle = some t ∧
      (current.toNat + 10 * cycle.toNat ≤ t.toNat ↔ LeadKept current base cycle) := by
  have hle := toNat_ten_mul_le cycle
  rcases nextChange_cases base hcur hc with ⟨hfar, hnext⟩ | ⟨hnear, hnext⟩
  · refine ⟨base, hnext, Or.inl, ?_⟩
    rintro (hlead | ⟨hnear, -⟩)
    · exact hlead
    · omega
  · have hrest := nextChange_rest base hcur hc
    refine ⟨_, hnext, fun hlead => Or.inr ⟨hnear, ?_⟩, ?_⟩
    · exact Nat.dvd_of_mod_eq_zero (by omega)
    · rintro (hlead | ⟨-, hdvd⟩)
      · omega
      · rw [Nat.mod_eq_zero_of_dvd hdvd] at hrest
        omega

/-- With a cycle time there is a time to send, and it is on a cycle boundary unless the base time is
in the near future; there it depends on the cycle time. -/
theorem onCycle_nextChange_iff (base : UInt64) (hcur : current.toNat < 2 ^ 62) (hc : cycle ≠ 0) :
    ∃ t, nextChange current base cycle = some t ∧
      (OnCycle t base cycle ↔ NearFuture current base cycle → cycle.toNat ∣ 2 ^ 64) := by
  rcases nextChange_cases base hcur hc with ⟨hfar, hnext⟩ | ⟨hlt, hnext⟩
  · refine ⟨base, hnext, fun _ hnear => ?_, fun _ => ⟨0, by omega⟩⟩
    have := hnear.2
    omega
  · refine ⟨_, hnext, ?_⟩
    by_cases hb : base.toNat ≤ current.toNat
    · refine ⟨fun _ hnear => ?_, fun _ => ⟨_, nextChange_behind cycle hcur hb⟩⟩
      have := hnear.1
      omega
    · have hahead : current.toNat < base.toNat := by omega
      have hle := toNat_ten_mul_le cycle
      have hiff := boundary_iff_dvd (show base.toNat < current.toNat + 10 * cycle.toNat by omega)
        (Nat.div_add_mod' _ _).symm (Nat.mod_lt _ (toNat_pos_of_ne_zero hc)) hahead base.toNat_lt
        (nextChange_wrapped hcur hc hahead)
      rw [OnCycle, hiff]
      exact ⟨fun h _ => h, fun h => h ⟨hahead, hlt⟩⟩

end Arithmetic

/-- The time that `ax_irq_config_change` computes for the lowest requested port is what it writes. -/
theorem configChange_writes {cfg : SwitchConfig} {s : SwitchRegs} {p : UInt32} {t : UInt64}
    (hrequest : LowestFlag (s (.req .qbvConfigChangeReq)) cfg.numberOfPorts p.toNat)
    (hchange : changeTimeOf s p = some t) :
    ∃ hi lo, portWrites p ((axIrqConfigChange cfg).run switchDev s).log =
        [(.configChangeTimeNsHi, hi), (.configChangeTimeNsLo, lo), (.configChangeCtrl, 1)] ∧
      t = time64 hi lo := by
  have hrun := run_configChangeBody (s := s) hrequest
  simp only [hchange] at hrun
  refine ⟨hiWord t, loWord t, ?_, (time64_words t).symm⟩
  rw [axIrqConfigChange, portWrites_handler]
  exact hrun.2

/-- **The phase of a configuration change.** For a port with a cycle time, the handler writes a
configuration change time and then the command; the time is on a cycle boundary counted from the
administrative base time exactly if that is not in the near future, or if the cycle time divides
`2 ^ 64`. -/
theorem configChange_onCycle_iff (cfg : SwitchConfig) (s : SwitchRegs) (p : UInt32)
    (hrequest : LowestFlag (s (.req .qbvConfigChangeReq)) cfg.numberOfPorts p.toNat)
    (hcycle : s (.port p .adminCycleTime) ≠ 0) :
    ∃ hi lo, portWrites p ((axIrqConfigChange cfg).run switchDev s).log =
        [(.configChangeTimeNsHi, hi), (.configChangeTimeNsLo, lo), (.configChangeCtrl, 1)] ∧
      (OnCycle (time64 hi lo) (baseTime s p .adminBaseTimeNsHi .adminBaseTimeNsLo)
          (s (.port p .adminCycleTime)) ↔
        ¬ NearFuture (timing s p).current (baseTime s p .adminBaseTimeNsHi .adminBaseTimeNsLo)
            (s (.port p .adminCycleTime)) ∨
          (s (.port p .adminCycleTime)).toNat ∣ 2 ^ 64) := by
  obtain ⟨t, htime, hphase⟩ :=
    onCycle_nextChange_iff (baseTime s p .adminBaseTimeNsHi .adminBaseTimeNsLo)
      (toNat_currentTime_lt _ _) hcycle
  obtain ⟨hi, lo, hwrites, ht⟩ := configChange_writes (s := s) hrequest htime
  refine ⟨hi, lo, hwrites, ?_⟩
  rw [← ht, hphase]
  exact imp_iff_not_or

/-- Port 0 asks for a configuration change, with cycles of `cycle` ns and the base time `base` ns; its
timer shows 100 ns. -/
def changeRegs (base cycle : UInt32) : SwitchRegs
  | .req .qbvConfigChangeReq => 1
  | .port 0 .adminCycleTime => cycle
  | .port 0 .adminBaseTimeNsLo => base
  | .timer 1 .valLo => 100
  | _ => 0

theorem configChange_onCycle_behind :
    ∃ hi lo, portWrites 0 ((axIrqConfigChange smallConfig).run switchDev (changeRegs 7 10)).log =
        [(.configChangeTimeNsHi, hi), (.configChangeTimeNsLo, lo), (.configChangeCtrl, 1)] ∧
      OnCycle (time64 hi lo) 7 10 := by
  obtain ⟨hi, lo, hwrites, hphase⟩ :=
    configChange_onCycle_iff smallConfig (changeRegs 7 10) 0 (by decide) (by decide)
  exact ⟨hi, lo, hwrites, hphase.mpr (Or.inl (by decide))⟩

/-- The base time is 50 ns ahead, with cycles of 10 ns: the handler sends 194 ns, which is not on a
cycle boundary counted from 150 ns. -/
theorem configChange_offCycle :
    portWrites 0 ((axIrqConfigChange smallConfig).run switchDev (changeRegs 150 10)).log =
        [(.configChangeTimeNsHi, 0), (.configChangeTimeNsLo, 194), (.configChangeCtrl, 1)] ∧
      ¬ OnCycle (time64 0 194) 150 10 := by
  refine ⟨by decide, ?_⟩
  rintro ⟨k, hk⟩
  have h : 194 = 150 + k * 10 := hk
  omega

/-- **The lead of a configuration change.** For a port with a cycle time, the handler writes a
configuration change time and then the command; the time is ten cycles ahead or more exactly if the
administrative base time is, or if that is not sent and the division by the cycle time leaves no
rest. -/
theorem configChange_lead_iff (cfg : SwitchConfig) (s : SwitchRegs) (p : UInt32)
    (hrequest : LowestFlag (s (.req .qbvConfigChangeReq)) cfg.numberOfPorts p.toNat)
    (hcycle : s (.port p .adminCycleTime) ≠ 0) :
    ∃ hi lo, portWrites p ((axIrqConfigChange cfg).run switchDev s).log =
        [(.configChangeTimeNsHi, hi), (.configChangeTimeNsLo, lo), (.configChangeCtrl, 1)] ∧
      ((timing s p).current.toNat + 10 * (s (.port p .adminCycleTime)).toNat ≤
          (time64 hi lo).toNat ↔
        LeadKept (timing s p).current (baseTime s p .adminBaseTimeNsHi .adminBaseTimeNsLo)
          (s (.port p .adminCycleTime))) := by
  obtain ⟨t, htime, hlead⟩ := lead_nextChange_iff (baseTime s p .adminBaseTimeNsHi .adminBaseTimeNsLo)
    (toNat_currentTime_lt _ _) hcycle
  obtain ⟨hi, lo, hwrites, ht⟩ := configChange_writes (s := s) hrequest htime
  exact ⟨hi, lo, hwrites, ht ▸ hlead⟩

/-- The base time is 90 ns behind, nine whole cycles: the handler sends 200 ns. -/
theorem configChange_lead_whole_cycles :
    ∃ hi lo, portWrites 0 ((axIrqConfigChange smallConfig).run switchDev (changeRegs 10 10)).log =
        [(.configChangeTimeNsHi, hi), (.configChangeTimeNsLo, lo), (.configChangeCtrl, 1)] ∧
      100 + 10 * 10 ≤ (time64 hi lo).toNat := by
  obtain ⟨hi, lo, hwrites, hlead⟩ :=
    configChange_lead_iff smallConfig (changeRegs 10 10) 0 (by decide) (by decide)
  exact ⟨hi, lo, hwrites, hlead.mpr (by decide)⟩

/-- The base time is 93 ns behind, with cycles of 10 ns: the handler sends 197 ns, three short of ten
cycles. -/
theorem configChange_short_lead :
    portWrites 0 ((axIrqConfigChange smallConfig).run switchDev (changeRegs 7 10)).log =
        [(.configChangeTimeNsHi, 0), (.configChangeTimeNsLo, 197), (.configChangeCtrl, 1)] ∧
      (timing (changeRegs 7 10) 0).current = 100 ∧ ¬ 100 + 10 * 10 ≤ (time64 0 197).toNat :=
  ⟨by decide, by decide, by decide⟩

end Axm57104.Switch
