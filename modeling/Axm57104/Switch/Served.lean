import Axm57104.Switch.Retime

/-!
# What a handler run serves

A request is a flag in one of the request registers. `Served` says what the log of a handler run
must show for it, and `Asks` whether it asks for anything at all. A run that came to its end has
served the lowest flag it found (`served_of_lowest`), and no other.
-/

namespace Axm57104.Switch

open Common

/-! ## The requests -/

/-- The number of flags of a request register: the ports, or the timers. -/
def SwitchConfig.flags (cfg : SwitchConfig) : ReqReg → ℕ
  | .asTIntMask => cfg.numberOfDomains + 1
  | .qbvConfigChangeReq => cfg.numberOfPorts
  | .qbvTimerChangeRequest => cfg.numberOfPorts

/-- The gates of a port are enabled. -/
def GateEnabled (s : SwitchRegs) (p : UInt32) : Prop := s (.port p .gateEnabled) = 1

/-- The timer a port uses. -/
def timerOf (s : SwitchRegs) (p : UInt32) : UInt32 := s (.port p .timerDomainIndex) + 1

/-- The configuration change time of a base time; none on a division by zero. -/
def nextChange (current base : UInt64) (cycle : UInt32) : Option UInt64 :=
  if base ≥ current + (10 * cycle).toUInt64 then some base
  else if cycle = 0 then none
  else some (base + ((current - base) / cycle.toUInt64 + 10) * cycle.toUInt64)

/-- The configuration change time of a port. -/
def changeTimeOf (s : SwitchRegs) (p : UInt32) : Option UInt64 :=
  nextChange (timing s p).current (baseTime s p .adminBaseTimeNsHi .adminBaseTimeNsLo)
    (s (.port p .adminCycleTime))

theorem SameConfig.changeTimeOf_eq {s u : SwitchRegs} (h : SameConfig s u) (p : UInt32) :
    changeTimeOf u p = changeTimeOf s p := by
  simp only [changeTimeOf, baseTime, h.timing_eq, h.port p .adminBaseTimeNsHi rfl,
    h.port p .adminBaseTimeNsLo rfl, h.port p .adminCycleTime rfl]

/-- The port was given its configuration change time, and then told to change. -/
def ConfigChanged (s : SwitchRegs) (p : UInt32) (log : List (Access × Resp)) : Prop :=
  ∃ t, changeTimeOf s p = some t ∧
    portWrites p log = [(.configChangeTimeNsHi, hiWord t), (.configChangeTimeNsLo, loWord t),
      (.configChangeCtrl, 1)]

/-- The port was re-timed from one of its base times. -/
def Retimed (s : SwitchRegs) (p : UInt32) (log : List (Access × Resp)) : Prop :=
  ∃ base ∈ [baseTime s p .operBaseTimeNsHi .operBaseTimeNsLo,
      baseTime s p .adminBaseTimeNsHi .adminBaseTimeNsLo],
    (timing s p).succeeds base = true ∧ (timing s p).writes base <:+: portWrites p log

/-- Request `i` of a register was served by a run from `s` that made the accesses `log`. -/
def Served (cfg : SwitchConfig) (s : SwitchRegs) (log : List (Access × Resp)) (i : ℕ) :
    ReqReg → Prop
  | .qbvConfigChangeReq => ConfigChanged s (UInt32.ofNat i) log
  | .qbvTimerChangeRequest => GateEnabled s (UInt32.ofNat i) → Retimed s (UInt32.ofNat i) log
  | .asTIntMask => ∀ p ∈ cfg.ports, GateEnabled s p → timerOf s p = UInt32.ofNat i → Retimed s p log

/-- Request `i` of a register asks for something: always for a configuration change, for a re-timing
only if there is a port with enabled gates to re-time. -/
def Asks (cfg : SwitchConfig) (s : SwitchRegs) (i : ℕ) : ReqReg → Prop
  | .qbvConfigChangeReq => True
  | .qbvTimerChangeRequest => GateEnabled s (UInt32.ofNat i)
  | .asTIntMask => ∃ p ∈ cfg.ports, GateEnabled s p ∧ timerOf s p = UInt32.ofNat i

theorem served_of_not_asks {cfg : SwitchConfig} {s : SwitchRegs} {i : ℕ} {r : ReqReg}
    (h : ¬ Asks cfg s i r) (log : List (Access × Resp)) : Served cfg s log i r := by
  cases r with
  | qbvConfigChangeReq => exact absurd trivial h
  | qbvTimerChangeRequest => exact fun hgate => absurd hgate h
  | asTIntMask => exact fun p hp hgate htimer => absurd ⟨p, hp, hgate, htimer⟩ h

/-! ## The handlers -/

/-- What the handler of a register does between reading and clearing it. -/
def handlerBody (cfg : SwitchConfig) : ReqReg → UInt32 → SwitchM Unit
  | .asTIntMask => timerValueChangeBody cfg cfg.ports
  | .qbvConfigChangeReq => configChangeBody cfg
  | .qbvTimerChangeRequest => timerChangeBody cfg

/-- The handler of a register. -/
def handlerOf (cfg : SwitchConfig) : ReqReg → SwitchM Unit
  | .asTIntMask => axIrqTimerValueChange cfg
  | .qbvConfigChangeReq => axIrqConfigChange cfg
  | .qbvTimerChangeRequest => axIrqTimerChange cfg

theorem handlerOf_eq (cfg : SwitchConfig) (r : ReqReg) :
    handlerOf cfg r = handler r (handlerBody cfg r) := by
  cases r <;> rfl

/-- An access to something else than a request register. -/
def NoReq : Access → Prop
  | .read (.req _) => False
  | .write (.req _) _ => False
  | _ => True

theorem RetimeAccess.noReq {a : Access} (h : RetimeAccess a) : NoReq a := by
  cases a with
  | read r =>
      cases r with
      | req q => exact h
      | _ => trivial
  | write r v =>
      cases r with
      | req q => exact h
      | _ => trivial

theorem getConfigChangeTime_eq (current base : UInt64) (cycle : UInt32) :
    getConfigChangeTime current base cycle = ofNext (nextChange current base cycle) := by
  rw [getConfigChangeTime, nextChange, divU64]
  split
  · rfl
  · split <;> rfl

theorem configChangePort_all : configChangePort.All NoReq := by
  refine all_readReg trivial fun cycle => all_readReg trivial fun hi => all_readReg trivial fun lo => ?_
  refine (readPortTime_all.mono fun _ h => h.retime.noReq).bind fun current => ?_
  rw [getConfigChangeTime_eq]
  cases nextChange current (time64 hi lo) cycle with
  | none => trivial
  | some t =>
      refine (all_writeReg ?_).bind fun _ => (all_writeReg ?_).bind fun _ => all_writeReg ?_
      all_goals trivial

theorem timerValueChangePort_all (i p : UInt32) : (timerValueChangePort i p).All RetimeAccess := by
  refine (all_writeReg trivial).bind fun _ => all_readReg trivial fun gate => ?_
  split
  · refine all_readReg trivial fun domain => ?_
    split
    · exact (retimePort_all _ _).mono fun _ => SelectedAccess.retime
    · trivial
  · trivial

theorem timerValueChangePorts_all (i : UInt32) (ports : List UInt32) :
    (timerValueChangePorts i ports).All RetimeAccess := by
  induction ports with
  | nil => trivial
  | cons p ports ih => exact (timerValueChangePort_all i p).bind fun _ => ih

/-- Between reading and clearing its request register, a handler does not access any of them. -/
theorem handlerBody_all (cfg : SwitchConfig) (r : ReqReg) (mask : UInt32) :
    (handlerBody cfg r mask).All NoReq := by
  cases r with
  | asTIntMask => exact (timerValueChangePorts_all _ _).mono fun _ => RetimeAccess.noReq
  | qbvConfigChangeReq =>
      simp only [handlerBody, configChangeBody]
      split
      · exact (all_writeReg trivial).bind fun _ => configChangePort_all
      · trivial
  | qbvTimerChangeRequest =>
      simp only [handlerBody, timerChangeBody]
      split
      · refine (all_writeReg trivial).bind fun _ => all_readReg trivial fun gate => ?_
        split
        · exact (retimePort_all _ _).mono fun _ h => h.retime.noReq
        · trivial
      · trivial

/-! ## The lowest flag is served -/

section Runs

variable {cfg : SwitchConfig} {s : SwitchRegs} {mask : UInt32} {i : ℕ}

/-- A configuration change of the selected port: it is given its time, if there is one. -/
theorem run_configChangePort {p : UInt32} (hp : s .qbvPortSelector = p) :
    match changeTimeOf s p with
    | none => (configChangePort.run switchDev s).result = .error .divideError
    | some t =>
        (configChangePort.run switchDev s).result = .ok () ∧
          portWrites p (configChangePort.run switchDev s).log =
            [(.configChangeTimeNsHi, hiWord t), (.configChangeTimeNsLo, loWord t),
              (.configChangeCtrl, 1)] := by
  simp only [configChangePort, getConfigChangeTime_eq]
  rw [run_readQbv hp, run_readQbv hp, run_readQbv hp]
  obtain ⟨l, hl, hread⟩ := run_readPortTime hp fun current => do
    let t ← ofNext (nextChange current (baseTime s p .adminBaseTimeNsHi .adminBaseTimeNsLo)
      (s (.port p .adminCycleTime)))
    writeReg (.qbv .configChangeTimeNsHi) (hiWord t)
    writeReg (.qbv .configChangeTimeNsLo) (loWord t)
    writeReg (.qbv .configChangeCtrl) 1
  rw [← baseTime, hread, ← changeTimeOf]
  set u := Function.update s .asTSelector (s (.port p .timerDomainIndex) + 1)
  have hup : u .qbvPortSelector = p := hp
  cases hchange : changeTimeOf s p with
  | none => rfl
  | some t =>
      have hup₁ : Function.update u (.port p .configChangeTimeNsHi) (hiWord t) .qbvPortSelector = p :=
        hp
      have hup₂ : Function.update (Function.update u (.port p .configChangeTimeNsHi) (hiWord t))
          (.port p .configChangeTimeNsLo) (loWord t) .qbvPortSelector = p := hp
      simp only [ofNext, Prog.ret_bind]
      rw [run_writeQbv hup, run_writeQbv hup₁, run_writeQbv_ret hup₂]
      simp [Outcome.cons, Outcome.prepend, portWrites_append, hl]

/-- `ax_irq_config_change` is about the lowest flagged port. -/
theorem run_configChangeBody {p : UInt32} (hlow : LowestFlag mask cfg.numberOfPorts p.toNat) :
    match changeTimeOf s p with
    | none => ((configChangeBody cfg mask).run switchDev s).result = .error .divideError
    | some t =>
        ((configChangeBody cfg mask).run switchDev s).result = .ok () ∧
          portWrites p ((configChangeBody cfg mask).run switchDev s).log =
            [(.configChangeTimeNsHi, hiWord t), (.configChangeTimeNsLo, loWord t),
              (.configChangeCtrl, 1)] := by
  have hindex := hlow.getIndexByMask_eq_self
  have hsome := hlow.getIndexByMask_ne cfg.ports_le
  rw [hindex] at hsome
  have hsel : Function.update s .qbvPortSelector p .qbvPortSelector = p := Function.update_self _ _ _
  have hport := run_configChangePort hsel
  rw [(SameConfig.select s p).changeTimeOf_eq] at hport
  simp only [configChangeBody, hindex]
  rw [if_pos hsome, run_selectPort, Outcome.result_cons, Outcome.log_cons, portWrites_portSelector]
  exact hport

theorem served_configChange (hlow : LowestFlag mask cfg.numberOfPorts i)
    (hok : ((configChangeBody cfg mask).run switchDev s).result = .ok ()) :
    ConfigChanged s (UInt32.ofNat i) ((configChangeBody cfg mask).run switchDev s).log := by
  have hnat := toNat_ofNat_index (Nat.lt_of_lt_of_le hlow.1 cfg.ports_le)
  have hrun := run_configChangeBody (p := UInt32.ofNat i) (s := s) (hnat.symm ▸ hlow)
  cases hchange : changeTimeOf s (UInt32.ofNat i) with
  | none =>
      simp only [hchange] at hrun
      rw [hrun] at hok
      cases hok
  | some t =>
      simp only [hchange] at hrun
      exact ⟨t, hchange, hrun.2⟩

theorem served_timerChange (hlow : LowestFlag mask cfg.numberOfPorts i)
    (hok : ((timerChangeBody cfg mask).run switchDev s).result = .ok ())
    (hgate : GateEnabled s (UInt32.ofNat i)) :
    Retimed s (UInt32.ofNat i) ((timerChangeBody cfg mask).run switchDev s).log := by
  have hnat := toNat_ofNat_index (Nat.lt_of_lt_of_le hlow.1 cfg.ports_le)
  obtain ⟨hwrites, hresult⟩ := run_timerChangeBody (p := UInt32.ofNat i) s (hnat.symm ▸ hlow) hgate
  refine ⟨_, List.mem_cons_of_mem _ (List.mem_singleton_self _), hresult.mp hok, ?_⟩
  exact hwrites.symm ▸ List.infix_refl _

/-- A port is still re-timed when more is done before and after, in the same configuration. -/
theorem Retimed.extend {u : SwitchRegs} {p : UInt32} {log : List (Access × Resp)}
    (h : Retimed u p log) (hsame : SameConfig s u) (l l' : List (Access × Resp)) :
    Retimed s p (l ++ log ++ l') := by
  obtain ⟨base, hbase, hsucc, hwrites⟩ := h
  have hport : ∀ q : QbvReg, q.retimed = false → u (.port p q) = s (.port p q) := hsame.port p
  have hmem : base ∈ [baseTime s p .operBaseTimeNsHi .operBaseTimeNsLo,
      baseTime s p .adminBaseTimeNsHi .adminBaseTimeNsLo] := by
    simpa only [baseTime, hport .operBaseTimeNsHi rfl, hport .operBaseTimeNsLo rfl,
      hport .adminBaseTimeNsHi rfl, hport .adminBaseTimeNsLo rfl] using hbase
  rw [hsame.timing_eq] at hsucc hwrites
  refine ⟨base, hmem, hsucc, hwrites.trans ?_⟩
  rw [portWrites_append, portWrites_append]
  exact List.infix_append _ _ _

/-- The port loop re-times every port with enabled gates that uses the timer. -/
theorem retimed_timerValueChangePorts {t p : UInt32} {ports : List UInt32} (hp : p ∈ ports)
    (hok : ((timerValueChangePorts t ports).run switchDev s).result = .ok ())
    (hgate : GateEnabled s p) (htimer : timerOf s p = t) :
    Retimed s p ((timerValueChangePorts t ports).run switchDev s).log := by
  induction ports generalizing s with
  | nil => exact absurd hp List.not_mem_nil
  | cons q ports ih =>
      simp only [timerValueChangePorts] at hok ⊢
      cases hround : ((timerValueChangePort t q).run switchDev s).result with
      | error e =>
          rw [Prog.run_bind_error hround] at hok
          cases hok
      | ok _ =>
          rw [Prog.run_bind_ok hround] at hok ⊢
          have hsame := Prog.All.sameConfig (timerValueChangePort_all t q) s
          set u := ((timerValueChangePort t q).run switchDev s).final
          rcases List.mem_cons.mp hp with rfl | hp
          · obtain ⟨hwrites, hresult⟩ := run_timerValueChangePort s hgate htimer.symm
            have hnow : Retimed s p ((timerValueChangePort t p).run switchDev s).log := by
              refine ⟨_, List.mem_cons_self, hresult.mp hround, ?_⟩
              exact hwrites.symm ▸ List.infix_refl _
            exact hnow.extend (SameConfig.refl s) [] _
          · have hgate' : GateEnabled u p := (hsame.port p _ rfl).trans hgate
            have htimer' : timerOf u p = t := by rw [timerOf, hsame.port p _ rfl, ← htimer, timerOf]
            have hlater := (ih hp hok hgate' htimer').extend hsame
              ((timerValueChangePort t q).run switchDev s).log []
            rwa [List.append_nil] at hlater

/-- **A handler run that came to its end served the lowest flag.** -/
theorem served_of_lowest {r : ReqReg} (hlow : LowestFlag mask (cfg.flags r) i)
    (hok : ((handlerBody cfg r mask).run switchDev s).result = .ok ()) :
    Served cfg s ((handlerBody cfg r mask).run switchDev s).log i r := by
  cases r with
  | qbvConfigChangeReq => exact served_configChange hlow hok
  | qbvTimerChangeRequest => exact served_timerChange hlow hok
  | asTIntMask =>
      intro p hp hgate htimer
      rw [← LowestFlag.getIndexByMask_eq hlow] at htimer
      exact retimed_timerValueChangePorts hp hok hgate htimer

end Runs

end Axm57104.Switch
