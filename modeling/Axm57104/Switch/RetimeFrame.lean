import Axm57104.Switch.Served
import Mathlib.Data.List.Nodup

/-!
# Which ports a re-timing touches

All the registers of the ports are behind `QBV_PORT_SELECTOR`, and the timers behind
`AS_T_SELECTOR`. This module follows the two selectors through the re-timing handlers. While a port
stays selected no other port is written; the port loop of `ax_irq_timer_value_change` visits every
port once, so what a port is given is what its own round gives it (`retime_writes`).

With this, whether a handler comes to its end is a question about each of its ports by itself
(`retime_ok_iff`): the only failure is a division by a cycle time of zero.
-/

namespace Axm57104.Switch

open Common

/-! ## The selected port -/

theorem SelectedAccess.keeps {a : Access} (h : SelectedAccess a) (s : SwitchRegs) :
    (switchDev a s).2 .qbvPortSelector = s .qbvPortSelector := by
  cases a with
  | read r => rfl
  | write r v =>
      apply switchDev_write_of_ne
      cases r with
      | qbvPortSelector => exact absurd rfl h.2
      | _ => exact nofun

/-- While a port stays selected, no other port is written. -/
theorem portWrites_of_selected {α : Type} {prog : SwitchM α} (hall : prog.All SelectedAccess)
    {s : SwitchRegs} {q : UInt32} (hq : s .qbvPortSelector ≠ q) :
    portWrites q (prog.run switchDev s).log = [] := by
  induction prog generalizing s with
  | ret a => rfl
  | fail e => rfl
  | op a k ih =>
      have hnext := ih (switchDev a s).1 (hall.2 _) (s := (switchDev a s).2)
        (by rw [hall.1.keeps]; exact hq)
      cases a with
      | read r => exact hnext
      | write r v =>
          cases r with
          | asTSelector => exact hnext
          | qbvPortSelector => exact absurd rfl hall.1.2
          | req r => exact hall.1.1.elim
          | timer r => exact hall.1.1.elim
          | qbv r =>
              show portWrites q ((.write (.qbv r) v, ⟨.port (s .qbvPortSelector) r, _⟩) :: _) = []
              rw [portWrites_write, if_neg hq]
              exact hnext

/-- A timer is read only while `AS_T_SELECTOR` is on the timer of the selected port. -/
def OwnTimer (s : SwitchRegs) (a : Access) : Prop :=
  ∀ r, a = .read (.timer r) → s .asTSelector = timerOf s (s .qbvPortSelector)

theorem PortAccess.ownTimer {a : Access} (h : PortAccess a) (s : SwitchRegs) : OwnTimer s a := by
  rintro r rfl
  exact h.elim

theorem ownTimer_write (s : SwitchRegs) (r : Reg) (v : UInt32) : OwnTimer s (.write r v) := by
  intro t h
  cases h

theorem ownTimer_readQbv (s : SwitchRegs) (r : QbvReg) : OwnTimer s (.read (.qbv r)) := by
  intro t h
  cases h

theorem ownTimer_readReq (s : SwitchRegs) (r : ReqReg) : OwnTimer s (.read (.req r)) := by
  intro t h
  cases h

theorem readPortTime_ownTimer (s : SwitchRegs) : readPortTime.Along switchDev OwnTimer s := by
  have hsel := Function.update_self (f := s) Cell.asTSelector (timerOf s (s .qbvPortSelector))
  exact ⟨ownTimer_readQbv _ _, ownTimer_write _ _ _, fun _ _ => hsel, fun _ _ => hsel, trivial⟩

theorem retimePort_ownTimer (hi lo : QbvReg) (s : SwitchRegs) :
    (retimePort hi lo).Along switchDev OwnTimer s := by
  refine ⟨ownTimer_write _ _ _, ownTimer_readQbv _ _, ownTimer_readQbv _ _, ownTimer_readQbv _ _,
    (readPortTime_ownTimer _).bind fun current _ => ?_⟩
  exact (retimeDecide_all _ _ _).along (I := fun _ => True) (fun _ _ _ _ => trivial)
    (fun _ ha s _ => ha.ownTimer s) trivial

/-! ## The port loop -/

/-- The port is to be re-timed when timer `i` has changed. -/
def Due (s : SwitchRegs) (i p : UInt32) : Prop := GateEnabled s p ∧ timerOf s p = i

theorem SameConfig.due_iff {s u : SwitchRegs} (h : SameConfig s u) (i p : UInt32) :
    Due u i p ↔ Due s i p := by
  rw [Due, Due, GateEnabled, GateEnabled, timerOf, timerOf, h.port p _ rfl, h.port p _ rfl]

theorem SameConfig.baseTime_eq {s u : SwitchRegs} (h : SameConfig s u) (p : UInt32) {hi lo : QbvReg}
    (hhi : hi.retimed = false) (hlo : lo.retimed = false) : baseTime u p hi lo = baseTime s p hi lo := by
  rw [baseTime, baseTime, h.port p _ hhi, h.port p _ hlo]

/-- The round of the port does not divide by zero. -/
def RoundOk (s : SwitchRegs) (i p : UInt32) : Prop :=
  Due s i p → (timing s p).succeeds (baseTime s p .operBaseTimeNsHi .operBaseTimeNsLo) = true

theorem SameConfig.roundOk_iff {s u : SwitchRegs} (h : SameConfig s u) (i p : UInt32) :
    RoundOk u i p ↔ RoundOk s i p := by
  rw [RoundOk, RoundOk, h.due_iff, h.timing_eq, h.baseTime_eq p rfl rfl]

/-- What a round of the loop does once it has selected the port. -/
theorem timerValueChangePort_eq (i p : UInt32) : ∃ rest : SwitchM Unit, rest.All SelectedAccess ∧
    timerValueChangePort i p = (writeReg .qbvPortSelector p >>= fun _ => rest) := by
  refine ⟨_, ?_, rfl⟩
  refine all_readReg ⟨trivial, nofun⟩ fun gate => ?_
  split
  · refine all_readReg ⟨trivial, nofun⟩ fun domain => ?_
    split
    · exact retimePort_all _ _
    · trivial
  · trivial

section Loop

variable {s : SwitchRegs} {i p q : UInt32}

theorem portWrites_round_other (s : SwitchRegs) (i : UInt32) (hq : p ≠ q) :
    portWrites q ((timerValueChangePort i p).run switchDev s).log = [] := by
  obtain ⟨rest, hall, heq⟩ := timerValueChangePort_eq i p
  have hsel : Function.update s .qbvPortSelector p .qbvPortSelector ≠ q := by
    rw [Function.update_self]
    exact hq
  rw [heq, run_selectPort, Outcome.log_cons, portWrites_portSelector]
  exact portWrites_of_selected hall hsel

theorem run_round_not_due (hdue : ¬ Due s i p) :
    ((timerValueChangePort i p).run switchDev s).result = .ok () ∧
      portWrites q ((timerValueChangePort i p).run switchDev s).log = [] := by
  have hsel : Function.update s .qbvPortSelector p .qbvPortSelector = p := Function.update_self _ _ _
  rw [timerValueChangePort, run_selectPort, run_readQbv hsel, (SameConfig.select s p).port p _ rfl]
  by_cases hgate : s (.port p .gateEnabled) = 1
  · have htimer : ¬ i = s (.port p .timerDomainIndex) + 1 := fun h => hdue ⟨hgate, h.symm⟩
    rw [if_pos hgate, run_readQbv hsel, (SameConfig.select s p).port p _ rfl, if_neg htimer]
    exact ⟨rfl, rfl⟩
  · rw [if_neg hgate]
    exact ⟨rfl, rfl⟩

theorem round_ok_iff :
    ((timerValueChangePort i p).run switchDev s).result = .ok () ↔ RoundOk s i p := by
  by_cases hdue : Due s i p
  · rw [(run_timerValueChangePort s hdue.1 hdue.2.symm).2]
    exact ⟨fun h _ => h, fun h => h hdue⟩
  · exact ⟨fun _ h => absurd h hdue, fun _ => (run_round_not_due (q := p) hdue).1⟩

/-- The loop comes to its end if no port that is due divides by zero. -/
theorem timerValueChangePorts_ok_iff {ports : List UInt32} :
    ((timerValueChangePorts i ports).run switchDev s).result = .ok () ↔
      ∀ p ∈ ports, RoundOk s i p := by
  induction ports generalizing s with
  | nil => exact ⟨fun _ _ hp => absurd hp List.not_mem_nil, fun _ => rfl⟩
  | cons p ports ih =>
      rw [List.forall_mem_cons, ← round_ok_iff, timerValueChangePorts]
      cases hres : ((timerValueChangePort i p).run switchDev s).result with
      | error e =>
          rw [Prog.run_bind_error hres]
          constructor
          · intro h
            cases h
          · rintro ⟨h, -⟩
            cases h
      | ok _ =>
          -- the round leaves the configuration to the rounds that follow
          have hsame := Prog.All.sameConfig (timerValueChangePort_all i p) s
          rw [Prog.run_bind_ok hres]
          refine (ih.trans ?_).trans (and_iff_right rfl).symm
          exact forall₂_congr fun p' _ => hsame.roundOk_iff i p'

/-- A round writes to a port if it is its own and the port is due. -/
theorem portWrites_round (s : SwitchRegs) (i p q : UInt32) :
    let log := ((timerValueChangePort i p).run switchDev s).log
    portWrites q log = [] ∨ q = p ∧ Due s i q ∧
      portWrites q log = (timing s q).writes (baseTime s q .operBaseTimeNsHi .operBaseTimeNsLo) := by
  by_cases hpq : p = q
  · subst hpq
    by_cases hdue : Due s i p
    · exact .inr ⟨rfl, hdue, (run_timerValueChangePort s hdue.1 hdue.2.symm).1⟩
    · exact .inl (run_round_not_due hdue).2
  · exact .inl (portWrites_round_other s i hpq)

/-- Each port is written in its own round, if that is reached. -/
theorem portWrites_timerValueChangePorts {ports : List UInt32} (hnodup : ports.Nodup) (q : UInt32) :
    let log := ((timerValueChangePorts i ports).run switchDev s).log
    portWrites q log = [] ∨ q ∈ ports ∧ Due s i q ∧
      portWrites q log = (timing s q).writes (baseTime s q .operBaseTimeNsHi .operBaseTimeNsLo) := by
  induction ports generalizing s with
  | nil => exact .inl rfl
  | cons p ports ih =>
      obtain ⟨hnot, hnodup⟩ := List.nodup_cons.mp hnodup
      have hround := portWrites_round s i p q
      dsimp only
      rw [timerValueChangePorts]
      cases hres : ((timerValueChangePort i p).run switchDev s).result with
      | error e =>
          rw [Prog.run_bind_error hres]
          rcases hround with hnone | ⟨rfl, hwrites⟩
          · exact .inl hnone
          · exact .inr ⟨List.mem_cons_self, hwrites⟩
      | ok _ =>
          have hsame := Prog.All.sameConfig (timerValueChangePort_all i p) s
          have hrest := ih (s := ((timerValueChangePort i p).run switchDev s).final) hnodup
          rw [Prog.run_bind_ok hres, Outcome.prepend, portWrites_append]
          dsimp only at hrest
          rw [hsame.due_iff, hsame.timing_eq, hsame.baseTime_eq q rfl rfl] at hrest
          rcases hround with hnone | ⟨rfl, hdue, hwrites⟩
          · rw [hnone, List.nil_append]
            exact hrest.imp_right fun h => ⟨List.mem_cons_of_mem _ h.1, h.2⟩
          · -- the port does not come again
            have hlater := hrest.resolve_right fun h => hnot h.1
            rw [hlater, hwrites, List.append_nil]
            exact .inr ⟨List.mem_cons_self, hdue, rfl⟩

end Loop

theorem timerValueChangePorts_ownTimer (i : UInt32) (ports : List UInt32) (s : SwitchRegs) :
    (timerValueChangePorts i ports).Along switchDev OwnTimer s := by
  induction ports generalizing s with
  | nil => trivial
  | cons p ports ih =>
      refine Prog.Along.bind (along_writeReg (ownTimer_write _ _ _)
        (along_readReg (ownTimer_readQbv _ _) ?_)) fun _ _ => ih _
      split
      · refine along_readReg (ownTimer_readQbv _ _) ?_
        split
        · exact retimePort_ownTimer _ _ _
        · trivial
      · trivial

/-! ## The handlers -/

theorem ports_nodup (cfg : SwitchConfig) : cfg.ports.Nodup := by
  refine List.Nodup.map_on (fun i hi j hj h => ?_) List.nodup_range
  have hnat := congrArg UInt32.toNat h
  rwa [toNat_ofNat_index (Nat.lt_of_lt_of_le (List.mem_range.mp hi) cfg.ports_le),
    toNat_ofNat_index (Nat.lt_of_lt_of_le (List.mem_range.mp hj) cfg.ports_le)] at hnat

/-- The base time that the handler of a register starts from. -/
def retimeBase (s : SwitchRegs) (p : UInt32) : ReqReg → UInt64
  | .asTIntMask => baseTime s p .operBaseTimeNsHi .operBaseTimeNsLo
  | _ => baseTime s p .adminBaseTimeNsHi .adminBaseTimeNsLo

/-- The ports that the re-timing handlers re-time. -/
def Retimes (cfg : SwitchConfig) (s : SwitchRegs) : ReqReg → UInt32 → Prop
  | .asTIntMask, p =>
      p ∈ cfg.ports ∧ Due s (getIndexByMask (s (.req .asTIntMask)) (cfg.numberOfDomains + 1)) p
  | .qbvTimerChangeRequest, p =>
      LowestFlag (s (.req .qbvTimerChangeRequest)) cfg.numberOfPorts p.toNat ∧ GateEnabled s p
  | .qbvConfigChangeReq, _ => False

section Handlers

variable {cfg : SwitchConfig} {s : SwitchRegs} {r : ReqReg} {p : UInt32}

/-- A handler comes to its end if the work between reading and clearing the register does. -/
theorem handler_ok_iff {body : UInt32 → SwitchM Unit} :
    ((handler r body).run switchDev s).result = .ok () ↔
      ((body (s (.req r))).run switchDev s).result = .ok () := by
  rw [handler, run_readReq, Outcome.result_cons]
  cases hres : ((body (s (.req r))).run switchDev s).result with
  | ok _ =>
      rw [Prog.run_bind_ok hres]
      exact ⟨fun _ => rfl, fun _ => rfl⟩
  | error e => rw [Prog.run_bind_error hres]

theorem LowestFlag.unique {mask p q : UInt32} {n : ℕ} (hp : LowestFlag mask n p.toNat)
    (hq : LowestFlag mask n q.toNat) : p = q := by
  apply UInt32.toNat_inj.mp
  rcases Nat.lt_trichotomy p.toNat q.toNat with hlt | heq | hlt
  · exact absurd hp.2.1 (hq.2.2 _ hlt)
  · exact heq
  · exact absurd hq.2.1 (hp.2.2 _ hlt)

/-- `ax_irq_timer_change` has no port to re-time and writes to none, or it has one and writes to no
other. -/
theorem timerChangeBody_cases (cfg : SwitchConfig) (s : SwitchRegs) :
    let run := (timerChangeBody cfg (s (.req .qbvTimerChangeRequest))).run switchDev s
    ((∀ p, ¬ Retimes cfg s .qbvTimerChangeRequest p) ∧ run.result = .ok () ∧
        ∀ q, portWrites q run.log = []) ∨
      ∃ p, Retimes cfg s .qbvTimerChangeRequest p ∧
        (∀ q, Retimes cfg s .qbvTimerChangeRequest q → q = p) ∧
        ∀ q, q ≠ p → portWrites q run.log = [] := by
  by_cases hindex : getIndexByMask (s (.req .qbvTimerChangeRequest)) cfg.numberOfPorts = NO_INDEX
  · refine .inl ⟨fun p hp => ?_, ?_⟩
    · exact hp.1.getIndexByMask_ne cfg.ports_le hindex
    · simp only [timerChangeBody]
      rw [if_neg (not_not.mpr hindex)]
      exact ⟨rfl, fun _ => rfl⟩
  · set p := getIndexByMask (s (.req .qbvTimerChangeRequest)) cfg.numberOfPorts with hp
    have hlow := (getIndexByMask_eq_iff cfg.ports_le hindex).mp hp.symm
    have hsel : Function.update s .qbvPortSelector p .qbvPortSelector = p :=
      Function.update_self _ _ _
    simp only [timerChangeBody, ← hp]
    rw [if_pos hindex, run_selectPort, run_readQbv hsel, (SameConfig.select s p).port p _ rfl]
    by_cases hgate : s (.port p .gateEnabled) = 1
    · rw [if_pos hgate]
      refine .inr ⟨p, ⟨hlow, hgate⟩, fun q hq => hq.1.unique hlow, fun q hq => ?_⟩
      rw [Outcome.log_cons, Outcome.log_cons, portWrites_portSelector, portWrites_read]
      exact portWrites_of_selected (retimePort_all _ _) (by rw [hsel]; exact hq.symm)
    · rw [if_neg hgate]
      refine .inl ⟨fun q hq => ?_, rfl, fun _ => rfl⟩
      have hgate' := hq.2
      rw [hq.1.unique hlow] at hgate'
      exact hgate hgate'

/-- **What a re-timing handler writes to a port**: nothing, or the writes of its re-timing. -/
theorem retime_writes (cfg : SwitchConfig) (s : SwitchRegs) (hr : r ≠ .qbvConfigChangeReq)
    (p : UInt32) :
    portWrites p ((handlerOf cfg r).run switchDev s).log = [] ∨ Retimes cfg s r p ∧
      portWrites p ((handlerOf cfg r).run switchDev s).log =
        (timing s p).writes (retimeBase s p r) := by
  rw [handlerOf_eq, portWrites_handler]
  cases r with
  | qbvConfigChangeReq => exact absurd rfl hr
  | asTIntMask =>
      rcases portWrites_timerValueChangePorts (s := s) (ports_nodup cfg) p with hnone | ⟨hp, hdue, hw⟩
      · exact .inl hnone
      · exact .inr ⟨⟨hp, hdue⟩, hw⟩
  | qbvTimerChangeRequest =>
      rcases timerChangeBody_cases cfg s with ⟨-, -, hnone⟩ | ⟨p', hp', -, hother⟩
      · exact .inl (hnone p)
      · by_cases hpp : p = p'
        · subst hpp
          exact .inr ⟨hp', (run_timerChangeBody s hp'.1 hp'.2).1⟩
        · exact .inl (hother p hpp)

theorem timerChangeBody_ok_iff :
    ((timerChangeBody cfg (s (.req .qbvTimerChangeRequest))).run switchDev s).result = .ok () ↔
      ∀ p, Retimes cfg s .qbvTimerChangeRequest p →
        (timing s p).succeeds (retimeBase s p .qbvTimerChangeRequest) = true := by
  rcases timerChangeBody_cases cfg s with ⟨hnone, hok, -⟩ | ⟨p, hp, hunique, -⟩
  · exact ⟨fun _ p hp => absurd hp (hnone p), fun _ => hok⟩
  · rw [(run_timerChangeBody s hp.1 hp.2).2]
    refine ⟨fun h q hq => ?_, fun h => h p hp⟩
    rw [hunique q hq]
    exact h

/-- A re-timing handler comes to its end if no port that it re-times divides by zero. -/
theorem retime_ok_iff (hr : r ≠ .qbvConfigChangeReq) :
    ((handlerOf cfg r).run switchDev s).result = .ok () ↔
      ∀ p, Retimes cfg s r p → (timing s p).succeeds (retimeBase s p r) = true := by
  rw [handlerOf_eq, handler_ok_iff]
  cases r with
  | qbvConfigChangeReq => exact absurd rfl hr
  | qbvTimerChangeRequest => exact timerChangeBody_ok_iff
  | asTIntMask =>
      refine timerValueChangePorts_ok_iff.trans ?_
      exact ⟨fun h p hp => h p hp.1 hp.2, fun h p hp hdue => h p ⟨hp, hdue⟩⟩

/-- A handler that came to its end has re-timed all its ports. -/
theorem retime_writes_of_ok (hr : r ≠ .qbvConfigChangeReq)
    (hok : ((handlerOf cfg r).run switchDev s).result = .ok ()) (hp : Retimes cfg s r p) :
    portWrites p ((handlerOf cfg r).run switchDev s).log =
      (timing s p).writes (retimeBase s p r) := by
  refine ((retime_writes cfg s hr p).resolve_left fun hnone => ?_).2
  rw [handlerOf_eq, portWrites_handler] at hnone
  rw [handlerOf_eq, handler_ok_iff] at hok
  have hretimed : Retimed s p ((handlerBody cfg r (s (.req r))).run switchDev s).log := by
    cases r with
    | qbvConfigChangeReq => exact absurd rfl hr
    | asTIntMask => exact retimed_timerValueChangePorts hp.1 hok hp.2.1 hp.2.2
    | qbvTimerChangeRequest =>
        have hwrites := (run_timerChangeBody s hp.1 hp.2).1
        exact absurd (hwrites.symm.trans hnone) (List.cons_ne_nil _ _)
  obtain ⟨base, -, -, hinfix⟩ := hretimed
  rw [hnone] at hinfix
  exact List.cons_ne_nil _ _ (List.infix_nil.mp hinfix)

end Handlers

theorem handlerOf_ownTimer {cfg : SwitchConfig} {s : SwitchRegs} {r : ReqReg}
    (hr : r ≠ .qbvConfigChangeReq) : (handlerOf cfg r).Along switchDev OwnTimer s := by
  rw [handlerOf_eq]
  refine along_readReg (ownTimer_readReq _ _) (Prog.Along.bind ?_ fun _ _ =>
    ⟨ownTimer_write _ _ _, trivial⟩)
  cases r with
  | qbvConfigChangeReq => exact absurd rfl hr
  | asTIntMask => exact timerValueChangePorts_ownTimer _ _ _
  | qbvTimerChangeRequest =>
      simp only [handlerBody, timerChangeBody]
      split
      · refine along_writeReg (ownTimer_write _ _ _) (along_readReg (ownTimer_readQbv _ _) ?_)
        split
        · exact retimePort_ownTimer _ _ _
        · trivial
      · trivial

/-! ## Division by zero -/

/-- The re-timing from a base time does not need the cycle time, or there is one: a pending
configuration change is due, or the base time is not behind. -/
def Timing.Safe (t : Timing) (base : UInt64) : Prop :=
  t.cycle ≠ 0 ∨ t.pending = true ∧ t.changeTime ≤ t.current ∨ t.current ≤ base

theorem nextStart_isSome_iff (current base : UInt64) (cycle : UInt32) :
    (nextStart current base cycle).isSome = true ↔ cycle ≠ 0 ∨ current ≤ base := by
  rw [nextStart]
  by_cases hb : base ≥ current
  · rw [if_pos hb]
    exact ⟨fun _ => .inr hb, fun _ => rfl⟩
  · rw [if_neg hb]
    by_cases hc : cycle = 0
    · rw [if_pos hc]
      exact iff_of_false Bool.false_ne_true (not_or.mpr ⟨not_not.mpr hc, hb⟩)
    · rw [if_neg hc]
      exact ⟨fun _ => .inl hc, fun _ => rfl⟩

/-- Ten cycles of length zero. -/
theorem add_ten_zero (current : UInt64) {cycle : UInt32} (hc : cycle = 0) :
    current + (10 * cycle).toUInt64 = current := by
  rw [hc]
  exact UInt64.add_zero _

theorem Timing.succeeds_iff (t : Timing) (base : UInt64) : t.succeeds base = true ↔ t.Safe base := by
  rw [Timing.succeeds, Bool.or_eq_true, nextStart_isSome_iff, Timing.Safe, Timing.tooSoon,
    Bool.and_eq_true, decide_eq_true_eq]
  by_cases hc : t.cycle = 0
  · rw [add_ten_zero _ hc]
    exact or_left_comm
  · exact ⟨fun _ => .inl hc, fun _ => .inr (.inl hc)⟩

theorem changeTimeOf_isSome_iff (s : SwitchRegs) (p : UInt32) :
    (changeTimeOf s p).isSome = true ↔ s (.port p .adminCycleTime) ≠ 0 ∨
      (timing s p).current ≤ baseTime s p .adminBaseTimeNsHi .adminBaseTimeNsLo := by
  rw [changeTimeOf, nextChange]
  by_cases hc : s (.port p .adminCycleTime) = 0
  · rw [add_ten_zero _ hc, if_pos hc]
    by_cases hb : baseTime s p .adminBaseTimeNsHi .adminBaseTimeNsLo ≥ (timing s p).current
    · rw [if_pos hb]
      exact ⟨fun _ => .inr hb, fun _ => rfl⟩
    · rw [if_neg hb]
      exact iff_of_false Bool.false_ne_true (not_or.mpr ⟨not_not.mpr hc, hb⟩)
  · rw [if_neg hc]
    refine ⟨fun _ => .inl hc, fun _ => ?_⟩
    split <;> rfl

theorem configChangeBody_ok_iff {cfg : SwitchConfig} {s : SwitchRegs} {mask : UInt32} :
    ((configChangeBody cfg mask).run switchDev s).result = .ok () ↔
      ∀ p, LowestFlag mask cfg.numberOfPorts p.toNat → (changeTimeOf s p).isSome = true := by
  by_cases hindex : getIndexByMask mask cfg.numberOfPorts = NO_INDEX
  · simp only [configChangeBody]
    rw [if_neg (not_not.mpr hindex)]
    exact ⟨fun _ p hp => absurd hindex (hp.getIndexByMask_ne cfg.ports_le), fun _ => rfl⟩
  · have hlow := (getIndexByMask_eq_iff cfg.ports_le hindex).mp rfl
    have hrun := run_configChangeBody (s := s) hlow
    cases hchange : changeTimeOf s (getIndexByMask mask cfg.numberOfPorts) with
    | none =>
        simp only [hchange] at hrun
        rw [hrun]
        refine iff_of_false (fun herr => by cases herr) fun h => ?_
        have hsome := h _ hlow
        rw [hchange] at hsome
        cases hsome
    | some t =>
        simp only [hchange] at hrun
        rw [hrun.1]
        refine ⟨fun _ p hp => ?_, fun _ => rfl⟩
        rw [hp.unique hlow, hchange]
        rfl

/-- No port that the handler works on makes it divide by a cycle time of zero. -/
def NeverZero (cfg : SwitchConfig) (s : SwitchRegs) : ReqReg → Prop
  | .qbvConfigChangeReq => ∀ p, LowestFlag (s (.req .qbvConfigChangeReq)) cfg.numberOfPorts p.toNat →
      s (.port p .adminCycleTime) ≠ 0 ∨
        (timing s p).current ≤ baseTime s p .adminBaseTimeNsHi .adminBaseTimeNsLo
  | r => ∀ p, Retimes cfg s r p → (timing s p).Safe (retimeBase s p r)

/-- **Division by zero.** A handler does not divide by zero exactly if every port that it works on
has a cycle time, or times for which none is needed. -/
theorem handlerOf_not_divideError_iff (cfg : SwitchConfig) (s : SwitchRegs) (r : ReqReg) :
    ((handlerOf cfg r).run switchDev s).result ≠ .error .divideError ↔ NeverZero cfg s r := by
  have hok : ((handlerOf cfg r).run switchDev s).result ≠ .error .divideError ↔
      ((handlerOf cfg r).run switchDev s).result = .ok () := by
    cases ((handlerOf cfg r).run switchDev s).result with
    | ok _ => exact ⟨fun _ => rfl, fun _ => nofun⟩
    | error e => exact ⟨fun h => absurd rfl h, nofun⟩
  rw [hok]
  cases r with
  | qbvConfigChangeReq =>
      rw [handlerOf_eq, handler_ok_iff]
      refine configChangeBody_ok_iff.trans (forall₂_congr fun p _ => ?_)
      exact changeTimeOf_isSome_iff s p
  | asTIntMask =>
      refine (retime_ok_iff (r := .asTIntMask) nofun).trans (forall₂_congr fun p _ => ?_)
      exact Timing.succeeds_iff _ _
  | qbvTimerChangeRequest =>
      refine (retime_ok_iff (r := .qbvTimerChangeRequest) nofun).trans (forall₂_congr fun p _ => ?_)
      exact Timing.succeeds_iff _ _

/-- Port 0 uses timer 1, which shows 100 ns, and its cycle times are zero. All three handlers are
due. -/
def zeroCycleRegs : SwitchRegs
  | .req .asTIntMask => 2
  | .req _ => 1
  | .port 0 .gateEnabled => 1
  | .timer 1 .valLo => 100
  | _ => 0

theorem handlerOf_divideError :
    ((axIrqConfigChange smallConfig).run switchDev zeroCycleRegs).result = .error .divideError ∧
      ((axIrqTimerChange smallConfig).run switchDev zeroCycleRegs).result = .error .divideError ∧
      ((axIrqTimerValueChange smallConfig).run switchDev zeroCycleRegs).result =
        .error .divideError :=
  ⟨rfl, rfl, rfl⟩

/-! ## No port is left in the safe state -/

/-- The writes that take a port out of the safe state: a complete new start time, a configuration
change, or both in this order. -/
def Restarted (writes : List (QbvReg × UInt32)) : Prop :=
  writes = [(.configChangeCtrl, 1)] ∨ ∃ hi lo,
    writes = [(.cycleStartTimeNsHi, hi), (.cycleStartTimeNsLo, lo), (.cycleStartTimeCtrl, 1)] ∨
    writes = [(.cycleStartTimeNsHi, hi), (.cycleStartTimeNsLo, lo), (.cycleStartTimeCtrl, 1),
      (.configChangeCtrl, 1)]

theorem Timing.decision_restarted {t : Timing} {base : UInt64} (h : t.succeeds base = true) :
    Restarted (t.decision base) := by
  rw [Timing.succeeds, Bool.or_eq_true] at h
  rw [Timing.decision]
  by_cases hsoon : t.tooSoon = true
  · rw [if_pos hsoon]
    exact .inl rfl
  · rw [if_neg hsoon]
    cases hnext : nextStart t.current base t.cycle with
    | none =>
        rw [hnext] at h
        cases h.resolve_left hsoon
    | some start =>
        refine .inr ⟨hiWord start, loWord start, ?_⟩
        cases t.pending with
        | true => exact .inr rfl
        | false => exact .inl rfl

/-- The ports that a re-timing handler is asked to re-time: those with enabled gates, on the lowest
flagged timer, or the lowest flagged port itself. -/
def Requested (cfg : SwitchConfig) (s : SwitchRegs) : ReqReg → UInt32 → Prop
  | .asTIntMask, p => p ∈ cfg.ports ∧ GateEnabled s p ∧
      LowestFlag (s (.req .asTIntMask)) (cfg.flags .asTIntMask) (timerOf s p).toNat
  | r, p => GateEnabled s p ∧ LowestFlag (s (.req r)) (cfg.flags r) p.toNat

theorem mem_ports {cfg : SwitchConfig} {p : UInt32} (hp : p.toNat < cfg.numberOfPorts) :
    p ∈ cfg.ports :=
  List.mem_map.mpr ⟨p.toNat, List.mem_range.mpr hp, UInt32.ofNat_toNat⟩

/-- With the timers of the ports among those of the domains, the ports that are re-timed are those
that are asked for. -/
theorem retimes_iff_requested {cfg : SwitchConfig} {s : SwitchRegs} {r : ReqReg}
    (hr : r ≠ .qbvConfigChangeReq)
    (hdomain : ∀ p ∈ cfg.ports, (s (.port p .timerDomainIndex)).toNat < cfg.numberOfDomains)
    (p : UInt32) : Retimes cfg s r p ↔ Requested cfg s r p := by
  cases r with
  | qbvConfigChangeReq => exact absurd rfl hr
  | qbvTimerChangeRequest => exact and_comm
  | asTIntMask =>
      refine and_congr_right fun hp => and_congr_right fun _ => ?_
      have hlt := cfg.domains_lt
      have hindex := hdomain p hp
      have htimer : (timerOf s p).toNat = (s (.port p .timerDomainIndex)).toNat + 1 := by
        rw [timerOf, UInt32.toNat_add]
        exact Nat.mod_eq_of_lt (by simp only [UInt32.reduceToNat]; omega)
      have hsome : timerOf s p ≠ NO_INDEX := by
        intro h
        rw [h] at htimer
        simp at htimer
        omega
      exact eq_comm.trans (getIndexByMask_eq_iff hlt hsome)

/-- **Re-timing leaves no port in the safe state and touches no other.** With timers and cycle times
set up, a re-timing handler comes to its end; it writes only to the ports it is asked to re-time,
puts each of them in the safe state and takes it out again, and reads the time of each from the
timer that the port uses. -/
theorem retime_restarts (cfg : SwitchConfig) (s : SwitchRegs) {r : ReqReg}
    (hr : r ≠ .qbvConfigChangeReq)
    (hdomain : ∀ p ∈ cfg.ports, (s (.port p .timerDomainIndex)).toNat < cfg.numberOfDomains)
    (hcycle : ∀ p ∈ cfg.ports, s (.port p .operCycleTime) ≠ 0) :
    let run := (handlerOf cfg r).run switchDev s
    run.result = .ok () ∧
      (∀ p, ¬ Requested cfg s r p → portWrites p run.log = []) ∧
      (∀ p, Requested cfg s r p → ∃ rest,
        portWrites p run.log = (.cycleStartTimeCtrl, 2) :: rest ∧ Restarted rest) ∧
      (handlerOf cfg r).Along switchDev OwnTimer s := by
  have hports : ∀ p, Retimes cfg s r p → p ∈ cfg.ports := by
    intro p hp
    cases r with
    | qbvConfigChangeReq => exact absurd rfl hr
    | asTIntMask => exact hp.1
    | qbvTimerChangeRequest => exact mem_ports hp.1.1
  have hsucceeds : ∀ p, Retimes cfg s r p → (timing s p).succeeds (retimeBase s p r) = true :=
    fun p hp => (Timing.succeeds_iff _ _).mpr (.inl (hcycle p (hports p hp)))
  have hok := (retime_ok_iff hr).mpr hsucceeds
  refine ⟨hok, fun p hp => ?_, fun p hp => ?_, handlerOf_ownTimer hr⟩
  · rw [← retimes_iff_requested hr hdomain] at hp
    exact (retime_writes cfg s hr p).resolve_right fun h => hp h.1
  · rw [← retimes_iff_requested hr hdomain] at hp
    exact ⟨_, retime_writes_of_ok hr hok hp, Timing.decision_restarted (hsucceeds p hp)⟩

/-- Ports 0 and 1 have enabled gates and use timers 1 and 2, of which timer 1 was set. -/
def twoPortRegs : SwitchRegs
  | .req .asTIntMask => 2
  | .port 0 .gateEnabled => 1
  | .port 1 .gateEnabled => 1
  | .port 1 .timerDomainIndex => 1
  | .port _ .operCycleTime => 10
  | .timer 1 .valLo => 100
  | _ => 0

/-- Port 0 is given the start time 120 ns, port 1 nothing. -/
theorem retime_restarts_two_ports :
    (∀ p ∈ smallConfig.ports, (twoPortRegs (.port p .timerDomainIndex)).toNat < 2) ∧
      (∀ p ∈ smallConfig.ports, twoPortRegs (.port p .operCycleTime) ≠ 0) ∧
      portWrites 1 ((handlerOf smallConfig .asTIntMask).run switchDev twoPortRegs).log = [] ∧
      ∃ rest, portWrites 0 ((handlerOf smallConfig .asTIntMask).run switchDev twoPortRegs).log =
        (.cycleStartTimeCtrl, 2) :: rest ∧ Restarted rest := by
  have hdomain : ∀ p ∈ smallConfig.ports, (twoPortRegs (.port p .timerDomainIndex)).toNat < 2 :=
    List.forall_iff_forall_mem.mp (by decide)
  have hcycle : ∀ p ∈ smallConfig.ports, twoPortRegs (.port p .operCycleTime) ≠ 0 :=
    List.forall_iff_forall_mem.mp (by decide)
  obtain ⟨-, hother, hport, -⟩ :=
    retime_restarts smallConfig twoPortRegs (r := .asTIntMask) nofun hdomain hcycle
  exact ⟨hdomain, hcycle, hother 1 (fun h => absurd h.2.2 (by decide)),
    hport 0 ⟨by decide, rfl, by decide⟩⟩

end Axm57104.Switch
