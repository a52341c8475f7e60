import Axm57104.Switch.Regs
import Axm57104.Switch.TsQueue
import Mathlib.Data.Nat.Find

/-!
# The Qbv interrupt handlers

The switch raises an interrupt when a port's gate configuration is to change, when a port is moved
to another timer, or when a timer is set. Each handler reads its request register, recomputes the
times that depend on the clock, and acknowledges by clearing the register.

Times are 64-bit nanoseconds, as in the source; `10*oper_cycle_time` is a 32-bit product there, and
here.
-/

namespace Axm57104.Switch

open Common

/-- What the handlers look up in `struct ax_switch`. A shift count stays below the word size. -/
structure SwitchConfig where
  numberOfPorts : ℕ
  numberOfDomains : ℕ
  ports_le : numberOfPorts ≤ 32
  domains_lt : numberOfDomains < 32

/-- The switch with `NUM_SWITCH_PORTS` ports and `NUM_OF_DOMAIN` domains. -/
def smallConfig : SwitchConfig where
  numberOfPorts := 5
  numberOfDomains := 2
  ports_le := by decide
  domains_lt := by decide

/-- The `-1` of `get_index_by_mask` as the callers compare it. -/
@[simp] abbrev NO_INDEX : UInt32 := 0xFFFFFFFF

/-- `mask & (1 << i)`. -/
def Flagged (mask : UInt32) (i : ℕ) : Prop := mask &&& (1 <<< UInt32.ofNat i) ≠ 0

instance (mask : UInt32) (i : ℕ) : Decidable (Flagged mask i) :=
  inferInstanceAs (Decidable (mask &&& (1 <<< UInt32.ofNat i) ≠ 0))

/-- The loop of `get_index_by_mask` from `i` on, with `n` rounds to go. -/
def getIndexFrom (mask : UInt32) : ℕ → ℕ → UInt32
  | _, 0 => NO_INDEX
  | i, n + 1 => if Flagged mask i then UInt32.ofNat i else getIndexFrom mask (i + 1) n

/-- `get_index_by_mask`. -/
def getIndexByMask (mask : UInt32) (maxIndex : ℕ) : UInt32 := getIndexFrom mask 0 maxIndex

/-- The lowest flag among the first `n`. -/
def LowestFlag (mask : UInt32) (n k : ℕ) : Prop :=
  k < n ∧ Flagged mask k ∧ ∀ j < k, ¬ Flagged mask j

instance (mask : UInt32) (n k : ℕ) : Decidable (LowestFlag mask n k) :=
  inferInstanceAs (Decidable (k < n ∧ Flagged mask k ∧ ∀ j < k, ¬ Flagged mask j))

theorem getIndexFrom_eq {mask : UInt32} {i n k : ℕ} (hi : i ≤ k) (hk : k < i + n)
    (hflag : Flagged mask k) (hlow : ∀ j, i ≤ j → j < k → ¬ Flagged mask j) :
    getIndexFrom mask i n = UInt32.ofNat k := by
  induction n generalizing i with
  | zero => omega
  | succ n ih =>
      rw [getIndexFrom]
      rcases Nat.eq_or_lt_of_le hi with rfl | hlt
      · rw [if_pos hflag]
      · rw [if_neg (hlow i (Nat.le_refl i) hlt)]
        exact ih hlt (by omega) fun j hj => hlow j (by omega)

theorem getIndexFrom_eq_none {mask : UInt32} {i n : ℕ}
    (hnone : ∀ j, i ≤ j → j < i + n → ¬ Flagged mask j) : getIndexFrom mask i n = NO_INDEX := by
  induction n generalizing i with
  | zero => rfl
  | succ n ih =>
      rw [getIndexFrom, if_neg (hnone i (Nat.le_refl i) (by omega))]
      exact ih fun j hj hj' => hnone j (by omega) (by omega)

theorem LowestFlag.getIndexByMask_eq {mask : UInt32} {n k : ℕ} (h : LowestFlag mask n k) :
    getIndexByMask mask n = UInt32.ofNat k :=
  getIndexFrom_eq (Nat.zero_le k) (by have := h.1; omega) h.2.1 fun j _ => h.2.2 j

/-- The lowest flag, if there is one. -/
theorem getIndexByMask_cases (mask : UInt32) (n : ℕ) :
    (∃ k, LowestFlag mask n k) ∨ getIndexByMask mask n = NO_INDEX := by
  by_cases hany : ∃ k, k < n ∧ Flagged mask k
  · have hlow := Nat.find_spec hany
    refine .inl ⟨Nat.find hany, hlow.1, hlow.2, fun j hj hflag => ?_⟩
    exact Nat.find_min hany hj ⟨Nat.lt_trans hj hlow.1, hflag⟩
  · exact .inr (getIndexFrom_eq_none fun j _ hj hflag => hany ⟨j, by omega, hflag⟩)

theorem toNat_ofNat_index {i : ℕ} (hi : i < 32) : (UInt32.ofNat i).toNat = i :=
  UInt32.toNat_ofNat_of_lt' (Nat.lt_trans hi (by decide))

/-- With a flag, an index is found. -/
theorem LowestFlag.getIndexByMask_ne {mask : UInt32} {n k : ℕ} (h : LowestFlag mask n k)
    (hn : n ≤ 32) : getIndexByMask mask n ≠ NO_INDEX := by
  have hk : k < 32 := Nat.lt_of_lt_of_le h.1 hn
  rw [h.getIndexByMask_eq]
  intro heq
  have hnat := congrArg UInt32.toNat heq
  rw [toNat_ofNat_index hk] at hnat
  simp at hnat
  omega

theorem LowestFlag.getIndexByMask_eq_self {mask p : UInt32} {n : ℕ}
    (h : LowestFlag mask n p.toNat) : getIndexByMask mask n = p := by
  rw [h.getIndexByMask_eq, UInt32.ofNat_toNat]

/-- An index that `get_index_by_mask` can find is the lowest flag. -/
theorem getIndexByMask_eq_iff {mask p : UInt32} {n : ℕ} (hn : n ≤ 32) (hp : p ≠ NO_INDEX) :
    getIndexByMask mask n = p ↔ LowestFlag mask n p.toNat := by
  constructor
  · rintro rfl
    rcases getIndexByMask_cases mask n with ⟨k, hk⟩ | hnone
    · rw [hk.getIndexByMask_eq, toNat_ofNat_index (Nat.lt_of_lt_of_le hk.1 hn)]
      exact hk
    · exact absurd hnone hp
  · exact LowestFlag.getIndexByMask_eq_self

/-- `k` is the only flag among the first `n`. -/
def OnlyFlag (mask : UInt32) (n k : ℕ) : Prop := k < n ∧ ∀ j < n, Flagged mask j ↔ j = k

instance (mask : UInt32) (n k : ℕ) : Decidable (OnlyFlag mask n k) :=
  inferInstanceAs (Decidable (k < n ∧ ∀ j < n, Flagged mask j ↔ j = k))

theorem OnlyFlag.lowest {mask : UInt32} {n k : ℕ} (h : OnlyFlag mask n k) : LowestFlag mask n k := by
  obtain ⟨hk, hall⟩ := h
  refine ⟨hk, (hall k hk).mpr rfl, fun j hj hflag => ?_⟩
  have := (hall j (by omega)).mp hflag
  omega

/-! ## Times -/

/-- `((uint64_t)hi << 32) + lo`. -/
def time64 (hi lo : UInt32) : UInt64 := (hi.toUInt64 <<< 32) + lo.toUInt64

/-- The current time of a timer, from its seconds and nanoseconds. -/
def currentTime (sec nsec : UInt32) : UInt64 := sec.toUInt64 * 1000000000 + nsec.toUInt64

theorem toNat_currentTime (sec nsec : UInt32) :
    (currentTime sec nsec).toNat = sec.toNat * 10 ^ 9 + nsec.toNat := by
  have hs := sec.toNat_lt
  have hn := nsec.toNat_lt
  rw [currentTime, UInt64.toNat_add, UInt64.toNat_mul, UInt32.toNat_toUInt64, UInt32.toNat_toUInt64]
  simp only [UInt64.reduceToNat]
  show _ = sec.toNat * 1000000000 + nsec.toNat
  rw [Nat.mod_eq_of_lt (show sec.toNat * 1000000000 < 2 ^ 64 by omega), Nat.mod_eq_of_lt (by omega)]

theorem toNat_currentTime_lt (sec nsec : UInt32) : (currentTime sec nsec).toNat < 2 ^ 62 := by
  have hs := sec.toNat_lt
  have hn := nsec.toNat_lt
  rw [toNat_currentTime]
  omega

/-- `(uint32_t)((t & 0xFFFFFFFF00000000) >> 32)`. -/
def hiWord (t : UInt64) : UInt32 := ((t &&& 0xFFFFFFFF00000000) >>> 32).toUInt32

/-- `(uint32_t)(t & 0x00000000FFFFFFFF)`. -/
def loWord (t : UInt64) : UInt32 := (t &&& 0x00000000FFFFFFFF).toUInt32

theorem toNat_hiWord (t : UInt64) : (hiWord t).toNat = t.toNat / 2 ^ 32 := by
  have ht := t.toNat_lt
  have hmask : (0xFFFFFFFF00000000 : ℕ) >>> 32 = 2 ^ 32 - 1 := by decide
  rw [hiWord, UInt64.toNat_toUInt32, UInt64.toNat_shiftRight, UInt64.toNat_and]
  simp only [UInt64.reduceToNat, Nat.reduceMod]
  rw [Nat.shiftRight_and_distrib, hmask, Nat.and_two_pow_sub_one_eq_mod, Nat.shiftRight_eq_div_pow]
  omega

theorem toNat_loWord (t : UInt64) : (loWord t).toNat = t.toNat % 2 ^ 32 := by
  have hmask : (0xFFFFFFFF : ℕ) = 2 ^ 32 - 1 := by decide
  rw [loWord, UInt64.toNat_toUInt32, UInt64.toNat_and]
  simp only [UInt64.reduceToNat]
  rw [hmask, Nat.and_two_pow_sub_one_eq_mod, Nat.mod_mod]

/-- The halves of a time put together again. -/
theorem time64_words (t : UInt64) : time64 (hiWord t) (loWord t) = t := by
  have ht := t.toNat_lt
  apply UInt64.toNat_inj.mp
  rw [time64, UInt64.toNat_add, UInt64.toNat_shiftLeft, UInt32.toNat_toUInt64, UInt32.toNat_toUInt64,
    toNat_hiWord, toNat_loWord, Nat.shiftLeft_eq]
  simp only [UInt64.reduceToNat, Nat.reduceMod]
  omega

/-! ## Whole cycles from a base time

Both computations go from a base time in whole cycles to one that is some cycles ahead of the current
time. From a base time that is not ahead, no operation wraps around. -/

theorem toNat_pos_of_ne_zero {cycle : UInt32} (hc : cycle ≠ 0) : 0 < cycle.toNat :=
  Nat.pos_of_ne_zero fun h => hc (UInt32.toNat_inj.mp h)

theorem boundary_le {cur base : ℕ} (hb : base ≤ cur) (c k : ℕ) :
    base + ((cur - base) / c + k) * c ≤ cur + k * c := by
  have hdiv := Nat.div_mul_le_self (cur - base) c
  rw [Nat.add_mul]
  omega

section Boundary

variable {current base k : UInt64} (cycle : UInt32)

theorem toNat_cycles (hcur : current.toNat < 2 ^ 62) (hb : base ≤ current) (hk : k.toNat ≤ 10) :
    ((current - base) / cycle.toUInt64 + k).toNat =
      (current.toNat - base.toNat) / cycle.toNat + k.toNat := by
  have hdiv := Nat.div_le_self (current.toNat - base.toNat) cycle.toNat
  rw [UInt64.toNat_add, UInt64.toNat_div, UInt64.toNat_sub_of_le _ _ hb, UInt32.toNat_toUInt64]
  exact Nat.mod_eq_of_lt (by omega)

/-- A boundary that is at most ten cycles ahead. -/
theorem boundary_lt (hcur : current.toNat < 2 ^ 62) (hb : base ≤ current) (hk : k.toNat ≤ 10) :
    base.toNat + ((current.toNat - base.toNat) / cycle.toNat + k.toNat) * cycle.toNat < 2 ^ 64 := by
  have hle := boundary_le (UInt64.le_iff_toNat_le.mp hb) cycle.toNat k.toNat
  have hten := Nat.mul_le_mul hk (Nat.le_of_lt cycle.toNat_lt)
  omega

theorem toNat_cycles_mul (hcur : current.toNat < 2 ^ 62) (hb : base ≤ current) (hk : k.toNat ≤ 10) :
    (((current - base) / cycle.toUInt64 + k) * cycle.toUInt64).toNat =
      ((current.toNat - base.toNat) / cycle.toNat + k.toNat) * cycle.toNat := by
  have hlt := boundary_lt cycle hcur hb hk
  rw [UInt64.toNat_mul, toNat_cycles cycle hcur hb hk, UInt32.toNat_toUInt64]
  exact Nat.mod_eq_of_lt (by omega)

theorem toNat_boundary (hcur : current.toNat < 2 ^ 62) (hb : base ≤ current) (hk : k.toNat ≤ 10) :
    (base + ((current - base) / cycle.toUInt64 + k) * cycle.toUInt64).toNat =
      base.toNat + ((current.toNat - base.toNat) / cycle.toNat + k.toNat) * cycle.toNat := by
  rw [UInt64.toNat_add, toNat_cycles_mul cycle hcur hb hk]
  exact Nat.mod_eq_of_lt (boundary_lt cycle hcur hb hk)

end Boundary

/-! ## The handlers -/

/-- `div_u64`. -/
def divU64 (dividend : UInt64) (divisor : UInt32) : SwitchM UInt64 :=
  if divisor = 0 then .fail .divideError else pure (dividend / divisor.toUInt64)

/-- `get_cycle_start_time`. -/
def getCycleStartTime (current operBaseTime : UInt64) (operCycleTime : UInt32) : SwitchM UInt64 :=
  if operBaseTime ≥ current then pure operBaseTime
  else do
    let actualstep ← divU64 (current - operBaseTime) operCycleTime
    let nextstep := actualstep + 2
    pure (operBaseTime + nextstep * operCycleTime.toUInt64)

/-- Selecting the timer in use by the selected port, and reading it. The selector's index 0 is the
free-running timer, which Qbv cannot use. -/
def readPortTime : SwitchM UInt64 := do
  let domain ← readReg (.qbv .timerDomainIndex)
  writeReg .asTSelector (domain + 1)
  let sec ← readReg (.timer .valHi)
  let nsec ← readReg (.timer .valLo)
  pure (currentTime sec nsec)

/-- The end of both re-timing handlers: the new cycle start time is written and applied. -/
def applyCycleStartTime (current operBaseTime : UInt64) (operCycleTime : UInt32) : SwitchM Unit := do
  let cycleStartTime ← getCycleStartTime current operBaseTime operCycleTime
  writeReg (.qbv .cycleStartTimeNsHi) (hiWord cycleStartTime)
  writeReg (.qbv .cycleStartTimeNsLo) (loWord cycleStartTime)
  writeReg (.qbv .cycleStartTimeCtrl) 1

/-- The decision of both re-timing handlers, by the configuration change that may be pending. -/
def retimeDecide (current operBaseTime : UInt64) (operCycleTime : UInt32) : SwitchM Unit := do
  let state ← readReg (.qbv .configChangeState)
  if state = 1 then do
    let cctHi ← readReg (.qbv .configChangeTimeNsHi)
    let cctLo ← readReg (.qbv .configChangeTimeNsLo)
    if time64 cctHi cctLo ≤ current + (10 * operCycleTime).toUInt64 then
      writeReg (.qbv .configChangeCtrl) 1
    else do
      applyCycleStartTime current operBaseTime operCycleTime
      writeReg (.qbv .configChangeCtrl) 1
  else
    applyCycleStartTime current operBaseTime operCycleTime

/-- What the re-timing handlers do for the selected port once they know that its gates are enabled.
They differ in the registers they take for the base time. -/
def retimePort (baseHi baseLo : QbvReg) : SwitchM Unit := do
  -- safe state: the administrative gate states are used until the new start time is set
  writeReg (.qbv .cycleStartTimeCtrl) 2
  let operCycleTime ← readReg (.qbv .operCycleTime)
  let hi ← readReg (.qbv baseHi)
  let lo ← readReg (.qbv baseLo)
  let current ← readPortTime
  retimeDecide current (time64 hi lo) operCycleTime

/-- One round of the port loop of `ax_irq_timer_value_change`. -/
def timerValueChangePort (timerChangedIndex : UInt32) (i : UInt32) : SwitchM Unit := do
  writeReg .qbvPortSelector i
  let gate ← readReg (.qbv .gateEnabled)
  if gate = 1 then do
    let domain ← readReg (.qbv .timerDomainIndex)
    if timerChangedIndex = domain + 1 then retimePort .operBaseTimeNsHi .operBaseTimeNsLo
    else pure ()
  else pure ()

/-- The port loop over a list of ports. -/
def timerValueChangePorts (timerChangedIndex : UInt32) : List UInt32 → SwitchM Unit
  | [] => pure ()
  | i :: ports => do
      timerValueChangePort timerChangedIndex i
      timerValueChangePorts timerChangedIndex ports

/-- The ports of the switch, in the order of the loop. -/
def SwitchConfig.ports (cfg : SwitchConfig) : List UInt32 :=
  (List.range cfg.numberOfPorts).map UInt32.ofNat

/-- A handler: read the request register, work on the mask, clear the register. -/
def handler (r : ReqReg) (body : UInt32 → SwitchM Unit) : SwitchM Unit := do
  let mask ← readReg (.req r)
  body mask
  writeReg (.req r) 0

/-- `ax_irq_timer_value_change` between reading and clearing `AS_T_INT_MASK`, for some ports. -/
def timerValueChangeBody (cfg : SwitchConfig) (ports : List UInt32) (mask : UInt32) : SwitchM Unit :=
  timerValueChangePorts (getIndexByMask mask (cfg.numberOfDomains + 1)) ports

/-- `ax_irq_timer_value_change` restricted to some ports. -/
def timerValueChangeOn (cfg : SwitchConfig) (ports : List UInt32) : SwitchM Unit :=
  handler .asTIntMask (timerValueChangeBody cfg ports)

/-- `ax_irq_timer_value_change`. -/
def axIrqTimerValueChange (cfg : SwitchConfig) : SwitchM Unit := timerValueChangeOn cfg cfg.ports

/-- The time `ax_irq_config_change` sends: the administrative base time if it is at least ten cycles
ahead, else the tenth cycle from now on. -/
def getConfigChangeTime (current adminBaseTime : UInt64) (adminCycleTime : UInt32) :
    SwitchM UInt64 :=
  if adminBaseTime ≥ current + (10 * adminCycleTime).toUInt64 then pure adminBaseTime
  else do
    let actualstep ← divU64 (current - adminBaseTime) adminCycleTime
    let nextstep := actualstep + 10
    pure (adminBaseTime + nextstep * adminCycleTime.toUInt64)

/-- `ax_irq_config_change` for the selected port. -/
def configChangePort : SwitchM Unit := do
  let adminCycleTime ← readReg (.qbv .adminCycleTime)
  let hi ← readReg (.qbv .adminBaseTimeNsHi)
  let lo ← readReg (.qbv .adminBaseTimeNsLo)
  let current ← readPortTime
  let configChangeTime ← getConfigChangeTime current (time64 hi lo) adminCycleTime
  writeReg (.qbv .configChangeTimeNsHi) (hiWord configChangeTime)
  writeReg (.qbv .configChangeTimeNsLo) (loWord configChangeTime)
  writeReg (.qbv .configChangeCtrl) 1

/-- `ax_irq_config_change` between reading and clearing `QBV_CONFIG_CHANGE_REQ`. -/
def configChangeBody (cfg : SwitchConfig) (mask : UInt32) : SwitchM Unit :=
  let portId := getIndexByMask mask cfg.numberOfPorts
  if portId ≠ NO_INDEX then do
    writeReg .qbvPortSelector portId
    configChangePort
  else pure ()

/-- `ax_irq_config_change`. -/
def axIrqConfigChange (cfg : SwitchConfig) : SwitchM Unit :=
  handler .qbvConfigChangeReq (configChangeBody cfg)

/-- `ax_irq_timer_change` between reading and clearing `QBV_TIMER_CHANGE_REQUEST`. Its pointers
`p_oper_base_time_ns_hi` and `p_oper_base_time_ns_lo` are set to the administrative base time. -/
def timerChangeBody (cfg : SwitchConfig) (mask : UInt32) : SwitchM Unit :=
  let portId := getIndexByMask mask cfg.numberOfPorts
  if portId ≠ NO_INDEX then do
    writeReg .qbvPortSelector portId
    let gate ← readReg (.qbv .gateEnabled)
    if gate = 1 then retimePort .adminBaseTimeNsHi .adminBaseTimeNsLo else pure ()
  else pure ()

/-- `ax_irq_timer_change`. -/
def axIrqTimerChange (cfg : SwitchConfig) : SwitchM Unit :=
  handler .qbvTimerChangeRequest (timerChangeBody cfg)

end Axm57104.Switch
