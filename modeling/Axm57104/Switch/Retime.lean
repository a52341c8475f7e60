import Axm57104.Switch.Qbv

/-!
# What the handlers write to a port

The re-timing of a port is a function of a few of its registers, of its timer and of the base time
it starts from: `Timing` collects these, and `Timing.writes` lists what the port's registers are
given, in order. `run_retimePort` is the specification that the results about the handlers use.
-/

namespace Axm57104.Switch

open Common

/-- The registers of port `p` that a log shows written, with the values, in order. -/
def portWrites (p : UInt32) (log : List (Access × Resp)) : List (QbvReg × UInt32) :=
  log.filterMap fun x =>
    match x.1, x.2.cell with
    | .write _ v, .port i r => if i = p then some (r, v) else none
    | _, _ => none

theorem portWrites_append (p : UInt32) (l l' : List (Access × Resp)) :
    portWrites p (l ++ l') = portWrites p l ++ portWrites p l' :=
  List.filterMap_append

@[simp] theorem portWrites_nil (p : UInt32) : portWrites p [] = [] := rfl

@[simp] theorem portWrites_read (p : UInt32) (r : Reg) (resp : Resp) (l : List (Access × Resp)) :
    portWrites p ((.read r, resp) :: l) = portWrites p l := rfl

@[simp] theorem portWrites_write (p i : UInt32) (r : Reg) (q : QbvReg) (v old : UInt32)
    (l : List (Access × Resp)) :
    portWrites p ((.write r v, ⟨.port i q, old⟩) :: l) =
      if i = p then (q, v) :: portWrites p l else portWrites p l := by
  simp only [portWrites, List.filterMap_cons]
  split <;> simp_all

@[simp] theorem portWrites_selector (p : UInt32) (r : Reg) (v old : UInt32)
    (l : List (Access × Resp)) :
    portWrites p ((.write r v, ⟨.asTSelector, old⟩) :: l) = portWrites p l := rfl

@[simp] theorem portWrites_portSelector (p : UInt32) (r : Reg) (v old : UInt32)
    (l : List (Access × Resp)) :
    portWrites p ((.write r v, ⟨.qbvPortSelector, old⟩) :: l) = portWrites p l := rfl

/-! ## Re-timing -/

/-- What the re-timing of a port depends on besides the base time. -/
structure Timing where
  cycle : UInt32
  current : UInt64
  pending : Bool
  changeTime : UInt64

/-- The timing of port `p` in a state of the registers. -/
def timing (s : SwitchRegs) (p : UInt32) : Timing where
  cycle := s (.port p .operCycleTime)
  current := currentTime (s (.timer (s (.port p .timerDomainIndex) + 1) .valHi))
    (s (.timer (s (.port p .timerDomainIndex) + 1) .valLo))
  pending := s (.port p .configChangeState) = 1
  changeTime := time64 (s (.port p .configChangeTimeNsHi)) (s (.port p .configChangeTimeNsLo))

/-- The next cycle start from a base time; none on a division by zero. -/
def nextStart (current base : UInt64) (cycle : UInt32) : Option UInt64 :=
  if base ≥ current then some base
  else if cycle = 0 then none
  else some (base + ((current - base) / cycle.toUInt64 + 2) * cycle.toUInt64)

/-- The program that returns a value or divides by zero. -/
def ofNext : Option UInt64 → SwitchM UInt64
  | some start => .ret start
  | none => .fail .divideError

theorem getCycleStartTime_eq (current base : UInt64) (cycle : UInt32) :
    getCycleStartTime current base cycle = ofNext (nextStart current base cycle) := by
  rw [getCycleStartTime, nextStart, divU64]
  split
  · rfl
  · split <;> rfl

namespace Timing

/-- A configuration change is pending and due within ten cycles: the cycle start is left alone. -/
def tooSoon (t : Timing) : Bool := t.pending && t.changeTime ≤ t.current + (10 * t.cycle).toUInt64

/-- What the registers of the port are given once the times are read, in order. -/
def decision (t : Timing) (base : UInt64) : List (QbvReg × UInt32) :=
  if t.tooSoon then [(.configChangeCtrl, 1)]
  else
    match nextStart t.current base t.cycle with
    | none => []
    | some start =>
        [(.cycleStartTimeNsHi, hiWord start), (.cycleStartTimeNsLo, loWord start),
            (.cycleStartTimeCtrl, 1)] ++
          if t.pending then [(.configChangeCtrl, 1)] else []

/-- What the registers of the port are given, in order. -/
def writes (t : Timing) (base : UInt64) : List (QbvReg × UInt32) :=
  (.cycleStartTimeCtrl, 2) :: t.decision base

/-- The re-timing does not divide by zero. -/
def succeeds (t : Timing) (base : UInt64) : Bool :=
  t.tooSoon || (nextStart t.current base t.cycle).isSome

end Timing

/-- The base time of a port in two of its registers. -/
def baseTime (s : SwitchRegs) (p : UInt32) (hi lo : QbvReg) : UInt64 :=
  time64 (s (.port p hi)) (s (.port p lo))

/-! ## What re-timing leaves alone -/

/-- The registers of a port that re-timing writes. -/
def QbvReg.retimed : QbvReg → Bool
  | .cycleStartTimeCtrl | .cycleStartTimeNsHi | .cycleStartTimeNsLo | .configChangeCtrl => true
  | _ => false

/-- The accesses of the re-timing code: no request register, and only those writes. -/
def RetimeAccess : Access → Prop
  | .read (.req _) => False
  | .read _ => True
  | .write .asTSelector _ => True
  | .write .qbvPortSelector _ => True
  | .write (.qbv q) _ => q.retimed = true
  | .write _ _ => False

/-- The accesses of the re-timing of one port, which stays selected. -/
def SelectedAccess (a : Access) : Prop := RetimeAccess a ∧ a.reg ≠ .qbvPortSelector

/-- The accesses of the decision of a re-timing: the registers of the selected port. -/
def PortAccess : Access → Prop
  | .read (.qbv _) => True
  | .write (.qbv q) _ => q.retimed = true
  | _ => False

theorem SelectedAccess.retime {a : Access} (h : SelectedAccess a) : RetimeAccess a := h.1

theorem PortAccess.selected {a : Access} (h : PortAccess a) : SelectedAccess a := by
  cases a with
  | read r =>
      cases r with
      | qbv q => exact ⟨trivial, nofun⟩
      | _ => exact h.elim
  | write r v =>
      cases r with
      | qbv q => exact ⟨h, nofun⟩
      | _ => exact h.elim

/-- `u` has the timers and the port configurations of `s`. -/
structure SameConfig (s u : SwitchRegs) : Prop where
  timer : ∀ i r, u (.timer i r) = s (.timer i r)
  port : ∀ p q, QbvReg.retimed q = false → u (.port p q) = s (.port p q)

theorem SameConfig.refl (s : SwitchRegs) : SameConfig s s := ⟨fun _ _ => rfl, fun _ _ _ => rfl⟩

theorem SameConfig.timing_eq {s u : SwitchRegs} (h : SameConfig s u) (p : UInt32) :
    timing u p = timing s p := by
  simp only [timing, h.timer, h.port p .operCycleTime rfl, h.port p .timerDomainIndex rfl,
    h.port p .configChangeState rfl, h.port p .configChangeTimeNsHi rfl,
    h.port p .configChangeTimeNsLo rfl]

theorem SameConfig.step {s u : SwitchRegs} (h : SameConfig s u) {a : Access} (ha : RetimeAccess a) :
    SameConfig s (switchDev a u).2 := by
  cases a with
  | read r => exact h
  | write r v =>
      cases r with
      | asTSelector => exact ⟨h.timer, h.port⟩
      | qbvPortSelector => exact ⟨h.timer, h.port⟩
      | req r => exact ha.elim
      | timer r => exact ha.elim
      | qbv q =>
          refine ⟨h.timer, fun p' q' hq' => ?_⟩
          have hne : Cell.port p' q' ≠ Cell.port (u .qbvPortSelector) q := by
            rintro ⟨-, rfl⟩
            rw [ha] at hq'
            cases hq'
          exact (Function.update_of_ne hne _ _).trans (h.port p' q' hq')

theorem Prog.All.sameConfig {α : Type} {p : SwitchM α} (hp : Prog.All RetimeAccess p)
    (s : SwitchRegs) : SameConfig s (p.run switchDev s).final := by
  have hdev : ∀ a, RetimeAccess a → ∀ u, SameConfig s u → SameConfig s (switchDev a u).2 :=
    fun _ ha _ h => h.step ha
  exact Prog.All.invariant hdev hp (SameConfig.refl s)

theorem applyCycleStartTime_all (current base : UInt64) (cycle : UInt32) :
    (applyCycleStartTime current base cycle).All PortAccess := by
  rw [applyCycleStartTime, getCycleStartTime_eq]
  cases nextStart current base cycle with
  | none => trivial
  | some start =>
      refine (all_writeReg ?_).bind fun _ => (all_writeReg ?_).bind fun _ => all_writeReg ?_
      all_goals rfl

theorem retimeDecide_all (current base : UInt64) (cycle : UInt32) :
    (retimeDecide current base cycle).All PortAccess := by
  refine all_readReg trivial fun state => ?_
  split
  · refine all_readReg trivial fun cctHi => all_readReg trivial fun cctLo => ?_
    split
    · exact all_writeReg rfl
    · exact (applyCycleStartTime_all current base cycle).bind fun _ => all_writeReg rfl
  · exact applyCycleStartTime_all current base cycle

theorem readPortTime_all : readPortTime.All SelectedAccess := by
  refine all_readReg ⟨trivial, nofun⟩ fun domain => (all_writeReg ⟨trivial, nofun⟩).bind fun _ => ?_
  exact all_readReg ⟨trivial, nofun⟩ fun sec => all_readReg ⟨trivial, nofun⟩ fun nsec => trivial

theorem retimePort_all (hi lo : QbvReg) : (retimePort hi lo).All SelectedAccess := by
  refine (all_writeReg ⟨rfl, nofun⟩).bind fun _ => all_readReg ⟨trivial, nofun⟩ fun cycle => ?_
  refine all_readReg ⟨trivial, nofun⟩ fun hi => all_readReg ⟨trivial, nofun⟩ fun lo => ?_
  refine readPortTime_all.bind fun current => ?_
  exact (retimeDecide_all current _ _).mono fun _ => PortAccess.selected

/-! ## What re-timing writes -/

section Runs

variable {s : SwitchRegs} {p : UInt32}

/-- Reading the time of the selected port changes the timer selector only. -/
theorem run_readPortTime (hp : s .qbvPortSelector = p) {α : Type} (k : UInt64 → SwitchM α) :
    ∃ l, (∀ q, portWrites q l = []) ∧
      (readPortTime >>= k).run switchDev s =
        ((k (timing s p).current).run switchDev
          (Function.update s .asTSelector (s (.port p .timerDomainIndex) + 1))).prepend l := by
  set i := s (.port p .timerDomainIndex) + 1 with hi
  set u := Function.update s .asTSelector i with hu
  have hsel : u .asTSelector = i := Function.update_self _ _ _
  have htimer : ∀ r, u (.timer i r) = s (.timer i r) := fun r => Function.update_of_ne (by simp) _ _
  refine ⟨[(.read (.qbv .timerDomainIndex), ⟨.port p .timerDomainIndex, s (.port p .timerDomainIndex)⟩),
    (.write .asTSelector i, ⟨.asTSelector, s .asTSelector⟩),
    (.read (.timer .valHi), ⟨.timer i .valHi, s (.timer i .valHi)⟩),
    (.read (.timer .valLo), ⟨.timer i .valLo, s (.timer i .valLo)⟩)], fun q => rfl, ?_⟩
  simp only [readPortTime, Prog.bind_bind]
  rw [run_readQbv hp, run_selectTimer, ← hi, ← hu, run_readTimer hsel, run_readTimer hsel, htimer,
    htimer]
  rfl

/-- The writes of a new cycle start, if there is one. -/
theorem run_applyCycleStartTime (hp : s .qbvPortSelector = p) (current base : UInt64)
    (cycle : UInt32) (k : Unit → SwitchM Unit) :
    match nextStart current base cycle with
    | none =>
        (applyCycleStartTime current base cycle >>= k).run switchDev s = ⟨.error .divideError, s, []⟩
    | some start =>
        ∃ u l, u .qbvPortSelector = p ∧
          portWrites p l = [(.cycleStartTimeNsHi, hiWord start), (.cycleStartTimeNsLo, loWord start),
            (.cycleStartTimeCtrl, 1)] ∧
          (applyCycleStartTime current base cycle >>= k).run switchDev s =
            ((k ()).run switchDev u).prepend l := by
  simp only [applyCycleStartTime, getCycleStartTime_eq, Prog.bind_bind]
  cases nextStart current base cycle with
  | none => rfl
  | some start =>
      have hp₁ : Function.update s (.port p .cycleStartTimeNsHi) (hiWord start) .qbvPortSelector = p :=
        hp
      have hp₂ : Function.update (Function.update s (.port p .cycleStartTimeNsHi) (hiWord start))
          (.port p .cycleStartTimeNsLo) (loWord start) .qbvPortSelector = p := hp
      simp only [ofNext, Prog.ret_bind]
      rw [run_writeQbv hp, run_writeQbv hp₁, run_writeQbv hp₂]
      refine ⟨_, [_, _, _], ?_, ?_, rfl⟩
      · exact hp
      · simp

/-- A new cycle start, and then what there is to be done about a pending change. -/
theorem run_retimeApply (hp : s .qbvPortSelector = p) {t : Timing} (htoo : t.tooSoon = false)
    (base : UInt64) {k : Unit → SwitchM Unit}
    (hk : ∀ u : SwitchRegs, u .qbvPortSelector = p →
      portWrites p ((k ()).run switchDev u).log =
          (if t.pending then [(.configChangeCtrl, 1)] else []) ∧
        ((k ()).run switchDev u).result = .ok ()) :
    portWrites p ((applyCycleStartTime t.current base t.cycle >>= k).run switchDev s).log =
        t.decision base ∧
      (((applyCycleStartTime t.current base t.cycle >>= k).run switchDev s).result = .ok () ↔
        t.succeeds base = true) := by
  have happly := run_applyCycleStartTime hp t.current base t.cycle k
  cases hnext : nextStart t.current base t.cycle with
  | none =>
      simp only [hnext] at happly
      simp [happly, Timing.decision, Timing.succeeds, htoo, hnext]
  | some start =>
      simp only [hnext] at happly
      obtain ⟨u, l, hu, hwrites, hrun⟩ := happly
      obtain ⟨hlog, hresult⟩ := hk u hu
      simp [hrun, Outcome.prepend, portWrites_append, hwrites, hlog, hresult, Timing.decision,
        Timing.succeeds, htoo, hnext]

theorem run_retimeDecide (hp : s .qbvPortSelector = p) {t : Timing}
    (hpending : t.pending = decide (s (.port p .configChangeState) = 1))
    (hchange : t.changeTime =
      time64 (s (.port p .configChangeTimeNsHi)) (s (.port p .configChangeTimeNsLo)))
    (base : UInt64) :
    portWrites p ((retimeDecide t.current base t.cycle).run switchDev s).log = t.decision base ∧
      (((retimeDecide t.current base t.cycle).run switchDev s).result = .ok () ↔
        t.succeeds base = true) := by
  rw [retimeDecide, run_readQbv hp]
  by_cases hstate : s (.port p .configChangeState) = 1
  · have hpend : t.pending = true := by rw [hpending, decide_eq_true hstate]
    rw [if_pos hstate, run_readQbv hp, run_readQbv hp, ← hchange]
    by_cases hsoon : t.changeTime ≤ t.current + (10 * t.cycle).toUInt64
    · have htoo : t.tooSoon = true := by
        rw [Timing.tooSoon, hpend, decide_eq_true hsoon]
        rfl
      rw [if_pos hsoon, run_writeQbv_ret hp]
      simp [Outcome.cons, Timing.decision, Timing.succeeds, htoo]
    · have htoo : t.tooSoon = false := by
        rw [Timing.tooSoon, decide_eq_false hsoon, Bool.and_false]
      rw [if_neg hsoon]
      apply run_retimeApply hp htoo
      intro u hu
      rw [run_writeQbv_ret hu, hpend]
      simp
  · have hpend : t.pending = false := by rw [hpending, decide_eq_false hstate]
    have htoo : t.tooSoon = false := by rw [Timing.tooSoon, hpend, Bool.false_and]
    rw [if_neg hstate, ← Prog.bind_ret (applyCycleStartTime t.current base t.cycle)]
    apply run_retimeApply hp htoo
    intro u _
    rw [hpend]
    exact ⟨rfl, rfl⟩

theorem run_retimePort (hp : s .qbvPortSelector = p) {hi lo : QbvReg} (hhi : hi.retimed = false)
    (hlo : lo.retimed = false) :
    portWrites p ((retimePort hi lo).run switchDev s).log = (timing s p).writes (baseTime s p hi lo) ∧
      (((retimePort hi lo).run switchDev s).result = .ok () ↔
        (timing s p).succeeds (baseTime s p hi lo) = true) := by
  set u := Function.update s (.port p .cycleStartTimeCtrl) 2 with hu
  have hup : u .qbvPortSelector = p := hp
  have hsame : SameConfig s u := by
    refine ⟨fun _ _ => rfl, fun p' q hq => Function.update_of_ne ?_ _ _⟩
    rintro ⟨-, rfl⟩
    cases hq
  rw [retimePort, run_writeQbv hp, ← hu, run_readQbv hup, run_readQbv hup, run_readQbv hup,
    hsame.port p _ rfl, hsame.port p _ hhi, hsame.port p _ hlo]
  obtain ⟨l, hl, hrun⟩ := run_readPortTime hup fun current =>
    retimeDecide current (baseTime s p hi lo) (timing s p).cycle
  rw [hsame.timing_eq] at hrun
  set w := Function.update u .asTSelector (u (.port p .timerDomainIndex) + 1)
  have hw : SameConfig s w := ⟨hsame.timer, hsame.port⟩
  have hwp : w .qbvPortSelector = p := hp
  obtain ⟨hwrites, hresult⟩ := run_retimeDecide hwp (t := timing s p)
    (by rw [← hw.timing_eq]; rfl) (by rw [← hw.timing_eq]; rfl) (baseTime s p hi lo)
  have hrun' : (readPortTime >>= fun current => retimeDecide current
      (time64 (s (.port p hi)) (s (.port p lo))) (s (.port p .operCycleTime))).run switchDev u = _ :=
    hrun
  rw [hrun']
  simp only [Outcome.cons, Outcome.prepend, portWrites_write, portWrites_read, portWrites_append, hl,
    hwrites, if_true, List.nil_append]
  exact ⟨rfl, hresult⟩

/-- Reading and clearing the request register does not write to a port. -/
theorem portWrites_handler (q : UInt32) (r : ReqReg) (body : UInt32 → SwitchM Unit)
    (s : SwitchRegs) :
    portWrites q ((handler r body).run switchDev s).log =
      portWrites q ((body (s (.req r))).run switchDev s).log := by
  rw [handler, run_readReq, Outcome.cons, portWrites_read]
  cases hres : ((body (s (.req r))).run switchDev s).result with
  | ok _ =>
      rw [Prog.run_bind_ok hres, Outcome.prepend, portWrites_append]
      exact List.append_nil _
  | error e => rw [Prog.run_bind_error hres]

/-- Selecting a port keeps the timers and the port configurations. -/
theorem SameConfig.select (s : SwitchRegs) (p : UInt32) :
    SameConfig s (Function.update s .qbvPortSelector p) :=
  ⟨fun _ _ => rfl, fun _ _ _ => rfl⟩

/-- Once a port with enabled gates is selected, it is re-timed. -/
theorem run_select_retimePort (s : SwitchRegs) (p : UInt32) {hi lo : QbvReg}
    (hhi : hi.retimed = false) (hlo : lo.retimed = false) :
    let run := (retimePort hi lo).run switchDev (Function.update s .qbvPortSelector p)
    portWrites p run.log = (timing s p).writes (baseTime s p hi lo) ∧
      (run.result = .ok () ↔ (timing s p).succeeds (baseTime s p hi lo) = true) := by
  have hp : Function.update s .qbvPortSelector p .qbvPortSelector = p := Function.update_self _ _ _
  have h := run_retimePort hp hhi hlo
  rw [(SameConfig.select s p).timing_eq] at h
  exact h

/-- `ax_irq_timer_change` re-times the lowest flagged port from its administrative base time. -/
theorem run_timerChangeBody {cfg : SwitchConfig} {mask p : UInt32} (s : SwitchRegs)
    (hp : LowestFlag mask cfg.numberOfPorts p.toNat) (hgate : s (.port p .gateEnabled) = 1) :
    let run := (timerChangeBody cfg mask).run switchDev s
    let base := baseTime s p .adminBaseTimeNsHi .adminBaseTimeNsLo
    portWrites p run.log = (timing s p).writes base ∧
      (run.result = .ok () ↔ (timing s p).succeeds base = true) := by
  have hindex := hp.getIndexByMask_eq_self
  have hsome := hp.getIndexByMask_ne cfg.ports_le
  rw [hindex] at hsome
  have hsel : Function.update s .qbvPortSelector p .qbvPortSelector = p := Function.update_self _ _ _
  simp only [timerChangeBody, hindex]
  rw [if_pos hsome, run_selectPort, run_readQbv hsel, (SameConfig.select s p).port p _ rfl,
    if_pos hgate]
  simp only [Outcome.cons, portWrites_portSelector, portWrites_read]
  exact run_select_retimePort s p rfl rfl

/-- `ax_irq_timer_value_change` re-times a port that uses the timer from its operational base time. -/
theorem run_timerValueChangePort (s : SwitchRegs) {i p : UInt32}
    (hgate : s (.port p .gateEnabled) = 1) (hi : i = s (.port p .timerDomainIndex) + 1) :
    let run := (timerValueChangePort i p).run switchDev s
    let base := baseTime s p .operBaseTimeNsHi .operBaseTimeNsLo
    portWrites p run.log = (timing s p).writes base ∧
      (run.result = .ok () ↔ (timing s p).succeeds base = true) := by
  have hsel : Function.update s .qbvPortSelector p .qbvPortSelector = p := Function.update_self _ _ _
  simp only [timerValueChangePort]
  rw [run_selectPort, run_readQbv hsel, (SameConfig.select s p).port p _ rfl, if_pos hgate,
    run_readQbv hsel, (SameConfig.select s p).port p _ rfl, if_pos hi]
  simp only [Outcome.cons, portWrites_portSelector, portWrites_read]
  exact run_select_retimePort s p rfl rfl

end Runs

end Axm57104.Switch
