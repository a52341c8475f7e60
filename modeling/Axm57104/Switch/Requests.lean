import Axm57104.Common.Machine
import Axm57104.Switch.Served

/-!
# Requests over whole runs

The device may flag requests at any time, also while a handler runs; a handler reads its request
register, works on one flag and clears the whole register. The machine of this module interleaves
the two: a handler makes one access after the other, and requests arrive in between.

A request is lost when its flag is cleared by a handler run that did not find it, or that served
another one. This does not happen in runs in which every handler finds at most one flag that asks
for something, and none is added while it runs.
-/

namespace Axm57104.Switch

open Common

/-- A handler run between two of its accesses. -/
structure HandlerRun where
  /-- The request register of the handler. -/
  reg : ReqReg
  /-- The registers when the run began, which is with reading the request register. -/
  start : SwitchRegs
  log : List (Access × Resp)
  rest : SwitchM Unit

structure QbvState where
  dev : SwitchRegs
  running : Option HandlerRun

inductive QbvEvent
  | arrive (r : ReqReg) (bits : UInt32)
  | start (r : ReqReg)
  | step

/-- The next access of a handler, and its computation up to the one after it. -/
def HandlerRun.advance (h : HandlerRun) (dev : SwitchRegs) : Except SwitchFault QbvState :=
  match h.rest with
  | .ret _ => .ok ⟨dev, none⟩
  | .fail e => .error e
  | .op o k =>
      match k (switchDev o dev).1 with
      | .ret _ => .ok ⟨(switchDev o dev).2, none⟩
      | .fail e => .error e
      | .op o' k' =>
          .ok ⟨(switchDev o dev).2,
            some { h with log := h.log ++ [(o, (switchDev o dev).1)], rest := .op o' k' }⟩

/-- Requests arrive at any time; the handlers run one after the other. -/
def qbvMachine (cfg : SwitchConfig) : Machine QbvState QbvEvent SwitchFault where
  enabled t
    | .arrive _ _ => True
    | .start _ => t.running = none
    | .step => t.running.isSome
  exec t
    | .arrive r bits =>
        .ok { t with dev := Function.update t.dev (.req r) (t.dev (.req r) ||| bits) }
    | .start r => HandlerRun.advance ⟨r, t.dev, [], handlerOf cfg r⟩ t.dev
    | .step =>
        match t.running with
        | none => .ok t
        | some h => h.advance t.dev

/-- A flag that is cleared was set when the clearing run began, and that run has served it. -/
def NoneLost (cfg : SwitchConfig) (t u : QbvState) : Prop :=
  ∀ r i, i < cfg.flags r → Flagged (t.dev (.req r)) i → ¬ Flagged (u.dev (.req r)) i →
    ∃ h, t.running = some h ∧ Flagged (h.start (.req r)) i ∧ Served cfg h.start h.log i r

/-- Only the lowest flag of a register asks for something. -/
def OneAsks (cfg : SwitchConfig) (s : SwitchRegs) (r : ReqReg) : Prop :=
  ∀ i < cfg.flags r, Flagged (s (.req r)) i → (∃ j < i, Flagged (s (.req r)) j) → ¬ Asks cfg s i r

/-- A handler starts when only the lowest flag of its register asks for something, and no further
flag of that register is set while it runs. -/
def Unambiguous (cfg : SwitchConfig) (t : QbvState) : QbvEvent → Prop
  | .arrive r bits =>
      ∀ h, t.running = some h → h.reg = r → ∀ i < cfg.flags r, Flagged bits i →
        Flagged (t.dev (.req r)) i
  | .start r => OneAsks cfg t.dev r
  | .step => True

/-! ## Flags -/

theorem flagged_or {a b : UInt32} {i : ℕ} : Flagged (a ||| b) i ↔ Flagged a i ∨ Flagged b i := by
  have hdist : (a ||| b) &&& (1 <<< UInt32.ofNat i) =
      (a &&& (1 <<< UInt32.ofNat i)) ||| (b &&& (1 <<< UInt32.ofNat i)) :=
    UInt32.toBitVec_inj.mp BitVec.and_or_distrib_right
  rw [Flagged, hdist, ne_eq, UInt32.or_eq_zero_iff, not_and_or, Flagged, Flagged]

/-! ## Accesses beside the request registers -/

/-- Two states that differ in request registers only. -/
def SameButReq (s u : SwitchRegs) : Prop := ∀ c, (∀ r, c ≠ .req r) → s c = u c

section NoReq

variable {a : Access} {s u : SwitchRegs}

theorem NoReq.cell_ne (ha : NoReq a) (r : ReqReg) : a.reg.cell s ≠ .req r := by
  intro h
  cases a with
  | read q =>
      cases q with
      | req r' => exact ha
      | _ => cases h
  | write q v =>
      cases q with
      | req r' => exact ha
      | _ => cases h

theorem SameButReq.cell_eq (h : SameButReq s u) (r : Reg) : r.cell s = r.cell u := by
  apply Reg.cell_congr
  intro c hc
  apply h
  rintro r' rfl
  cases r <;> cases hc

/-- An access beside the request registers does not see them. -/
theorem NoReq.same (ha : NoReq a) (h : SameButReq s u) :
    (switchDev a s).1 = (switchDev a u).1 ∧ SameButReq (switchDev a s).2 (switchDev a u).2 := by
  have hcell := h.cell_eq a.reg
  have hold : s (a.reg.cell s) = u (a.reg.cell u) := by
    rw [h _ ha.cell_ne, hcell]
  cases a with
  | read r =>
      refine ⟨?_, h⟩
      change Resp.mk (r.cell s) _ = Resp.mk (r.cell u) _
      exact congrArg₂ Resp.mk hcell hold
  | write r v =>
      refine ⟨congrArg₂ Resp.mk hcell hold, fun c hc => ?_⟩
      change Function.update s (r.cell s) v c = Function.update u (r.cell u) v c
      have hr : r.cell s = r.cell u := hcell
      rw [hr]
      by_cases hcr : c = r.cell u
      · rw [hcr, Function.update_self, Function.update_self]
      · rw [Function.update_of_ne hcr, Function.update_of_ne hcr, h c hc]

/-- An access beside the request registers does not change them. -/
theorem NoReq.frame (ha : NoReq a) (s : SwitchRegs) (r : ReqReg) :
    (switchDev a s).2 (.req r) = s (.req r) := by
  cases a with
  | read q => rfl
  | write q v => exact Function.update_of_ne (ha.cell_ne r).symm _ _

end NoReq

/-! ## A handler run -/

/-- What is known of a handler run between two of its accesses: apart from the request registers,
which it does not see, it has gone as far as it would have gone alone from the start. -/
structure HandlerRun.Ok (cfg : SwitchConfig) (h : HandlerRun) (dev : SwitchRegs) : Prop where
  oneAsks : OneAsks cfg h.start h.reg
  flags : ∀ i < cfg.flags h.reg, Flagged (dev (.req h.reg)) i → Flagged (h.start (.req h.reg)) i
  alone : ∃ resp l b d, h.log = (.read (.req h.reg), resp) :: l ∧
    h.rest = (b >>= fun _ => writeReg (.req h.reg) 0) ∧ b.All NoReq ∧
    Prog.Follows (handlerBody cfg h.reg (h.start (.req h.reg))) l b ∧
    Prog.Exec switchDev h.start l d ∧ SameButReq dev d

section Advance

variable {cfg : SwitchConfig} {h : HandlerRun} {dev : SwitchRegs} {u : QbvState}

/-- A run whose next access is not its last goes on. -/
theorem HandlerRun.advance_ok {o : Access} {k : Resp → SwitchM Unit} (hrest : h.rest = .op o k)
    (hmore : ∀ a, k (switchDev o dev).1 ≠ .ret a) (hok : h.advance dev = .ok u) :
    u = ⟨(switchDev o dev).2, some { h with
      log := h.log ++ [(o, (switchDev o dev).1)], rest := k (switchDev o dev).1 }⟩ := by
  simp only [HandlerRun.advance, hrest] at hok
  cases hk : k (switchDev o dev).1 with
  | ret a => exact absurd hk (hmore a)
  | fail e =>
      rw [hk] at hok
      cases hok
  | op o' k' =>
      rw [hk] at hok
      cases hok
      rfl

/-- Before the register is cleared, the run is not over. -/
theorem bind_writeReg_ne_ret (b : SwitchM Unit) (r : Reg) (v : UInt32) (a : Unit) :
    (b >>= fun _ => writeReg r v) ≠ .ret a := by
  intro h
  cases b with
  | ret _ => cases h
  | fail e => cases h
  | op o k => cases h

/-- What the request was served with does not show the reading of a register. -/
theorem Served.cons_read {s : SwitchRegs} {l : List (Access × Resp)} {i : ℕ} {r : ReqReg}
    (hs : Served cfg s l i r) (q : Reg) (resp : Resp) :
    Served cfg s ((.read q, resp) :: l) i r := by
  cases r with
  | qbvConfigChangeReq => exact hs
  | qbvTimerChangeRequest => exact hs
  | asTIntMask => exact hs

/-- Every flag that a completed run has found is served. -/
theorem served_of_oneAsks {s d : SwitchRegs} {l : List (Access × Resp)} {r : ReqReg} {i : ℕ}
    (hone : OneAsks cfg s r) (hi : i < cfg.flags r) (hflag : Flagged (s (.req r)) i)
    (hrun : (handlerBody cfg r (s (.req r))).run switchDev s = ⟨.ok (), d, l⟩) :
    Served cfg s l i r := by
  by_cases hlower : ∃ j < i, Flagged (s (.req r)) j
  · exact served_of_not_asks (hone i hi hflag hlower) l
  · have hlow : LowestFlag (s (.req r)) (cfg.flags r) i :=
      ⟨hi, hflag, fun j hj hjflag => hlower ⟨j, hj, hjflag⟩⟩
    have hserved := served_of_lowest (s := s) hlow (by rw [hrun])
    rwa [hrun] at hserved

/-- One access of a handler run: what it clears is served, and the run stays what it should be. -/
theorem HandlerRun.Ok.advance (hinv : h.Ok cfg dev) (hok : h.advance dev = .ok u) :
    NoneLost cfg ⟨dev, some h⟩ u ∧ ∀ h', u.running = some h' → h'.Ok cfg u.dev := by
  obtain ⟨resp, l, b, d, hlog, hrest, hall, hfollows, hexec, hsame⟩ := hinv.alone
  cases b with
  | fail e =>
      simp only [HandlerRun.advance, hrest, Prog.fail_bind] at hok
      cases hok
  | ret a =>
      -- the register is cleared, and the run is over
      have hrun := hfollows.run_eq hexec rfl
      simp only [HandlerRun.advance, hrest, Prog.ret_bind, writeReg] at hok
      cases hok
      refine ⟨fun r i hi hflag hclear => ⟨h, rfl, ?_⟩, fun _ h' => by cases h'⟩
      by_cases hr : r = h.reg
      · subst hr
        have hstart := hinv.flags i hi hflag
        refine ⟨hstart, ?_⟩
        rw [hlog]
        exact (served_of_oneAsks hinv.oneAsks hi hstart hrun).cons_read _ _
      · have hne : Cell.req r ≠ Cell.req h.reg := fun heq => hr (Cell.req.inj heq)
        have hkeep : Function.update dev (.req h.reg) 0 (.req r) = dev (.req r) :=
          Function.update_of_ne hne _ _
        change ¬ Flagged (Function.update dev (.req h.reg) 0 (.req r)) i at hclear
        rw [hkeep] at hclear
        exact absurd hflag hclear
  | op o k =>
      obtain ⟨ho, hk⟩ := hall
      have hu := HandlerRun.advance_ok hrest (fun a => bind_writeReg_ne_ret _ _ _ a) hok
      obtain ⟨hv, hnext⟩ := ho.same hsame
      have hstep : switchDev o d = ((switchDev o dev).1, (switchDev o d).2) := by rw [hv]
      subst hu
      constructor
      · intro r i _ hflag hclear
        change ¬ Flagged ((switchDev o dev).2 (.req r)) i at hclear
        rw [ho.frame] at hclear
        exact absurd hflag hclear
      · intro h' hh'
        cases hh'
        refine ⟨hinv.oneAsks, fun i hi hflag => hinv.flags i hi ?_, ?_⟩
        · change Flagged ((switchDev o dev).2 (.req h.reg)) i at hflag
          rwa [ho.frame] at hflag
        · refine ⟨resp, l ++ [(o, (switchDev o dev).1)], k (switchDev o dev).1, (switchDev o d).2,
            ?_, rfl, hk _, hfollows.snoc _, hexec.snoc hstep, hnext⟩
          rw [hlog]
          rfl

/-- A handler run that begins. -/
theorem advance_start {r : ReqReg} (hone : OneAsks cfg dev r)
    (hok : HandlerRun.advance ⟨r, dev, [], handlerOf cfg r⟩ dev = .ok u) :
    u.dev = dev ∧ ∀ h', u.running = some h' → h'.Ok cfg u.dev := by
  have hrest : (HandlerRun.mk r dev [] (handlerOf cfg r)).rest = .op (.read (.req r))
      fun resp => handlerBody cfg r resp.old >>= fun _ => writeReg (.req r) 0 := by
    change handlerOf cfg r = _
    rw [handlerOf_eq]
    rfl
  have hu := HandlerRun.advance_ok hrest (fun a => bind_writeReg_ne_ret _ _ _ a) hok
  subst hu
  refine ⟨rfl, fun h' hh' => ?_⟩
  cases hh'
  refine ⟨hone, fun i _ hflag => hflag, ?_⟩
  exact ⟨_, [], _, dev, rfl, rfl, handlerBody_all cfg r _, .nil _, .nil dev, fun _ _ => rfl⟩

end Advance

/-! ## Runs -/

section Runs

variable {cfg : SwitchConfig}

def QbvState.Ok (cfg : SwitchConfig) (t : QbvState) : Prop :=
  ∀ h, t.running = some h → h.Ok cfg t.dev

/-- Arriving requests clear no flag, and change nothing else that a handler run depends on. -/
theorem QbvState.Ok.arrive {t : QbvState} (ht : t.Ok cfg) {r : ReqReg} {bits : UInt32}
    (hc : Unambiguous cfg t (.arrive r bits)) :
    let u : QbvState :=
      { t with dev := Function.update t.dev (.req r) (t.dev (.req r) ||| bits) }
    NoneLost cfg t u ∧ u.Ok cfg := by
  intro u
  have hreg : ∀ r' i, Flagged (u.dev (.req r')) i ↔
      Flagged (t.dev (.req r')) i ∨ r' = r ∧ Flagged bits i := by
    intro r' i
    by_cases hr : r' = r
    · subst hr
      have hself : u.dev (.req r') = t.dev (.req r') ||| bits := Function.update_self _ _ _
      rw [hself, flagged_or]
      simp
    · have hkeep : u.dev (.req r') = t.dev (.req r') :=
        Function.update_of_ne (fun heq => hr (Cell.req.inj heq)) _ _
      rw [hkeep]
      simp [hr]
  constructor
  · intro r' i _ hflag hclear
    exact absurd ((hreg r' i).mpr (Or.inl hflag)) hclear
  · intro h hh
    have hinv := ht h hh
    refine ⟨hinv.oneAsks, fun i hi hflag => hinv.flags i hi ?_, ?_⟩
    · rcases (hreg h.reg i).mp hflag with hold | ⟨hr, hnew⟩
      · exact hold
      · rw [hr]
        exact hc h hh hr i (hr ▸ hi) hnew
    · obtain ⟨resp, l, b, d, hlog, hrest, hall, hfollows, hexec, hsame⟩ := hinv.alone
      refine ⟨resp, l, b, d, hlog, hrest, hall, hfollows, hexec, fun c hcell => ?_⟩
      rw [← hsame c hcell]
      exact Function.update_of_ne (hcell r) _ _

/-- Every step of a run under the condition loses no request, and keeps the invariant. -/
theorem QbvState.Ok.step {t u : QbvState} {e : QbvEvent} (ht : t.Ok cfg)
    (hen : ((qbvMachine cfg).restrict (Unambiguous cfg)).enabled t e)
    (hex : ((qbvMachine cfg).restrict (Unambiguous cfg)).exec t e = .ok u) :
    NoneLost cfg t u ∧ u.Ok cfg := by
  obtain ⟨henabled, hc⟩ := hen
  cases e with
  | arrive r bits =>
      cases hex
      exact ht.arrive hc
  | start r =>
      obtain ⟨hdev, hok⟩ := advance_start hc hex
      refine ⟨fun r' i _ hflag hclear => ?_, hok⟩
      rw [hdev] at hclear
      exact absurd hflag hclear
  | step =>
      obtain ⟨dev, running⟩ := t
      cases running with
      | none => cases henabled
      | some h => exact (ht h rfl).advance hex

/-- **No request is lost** in a run in which every handler starts with at most one flag that asks for
something, the lowest, and in which no flag is added to its register while it runs. -/
theorem noneLost (s t u : QbvState) (es : List QbvEvent) (e : QbvEvent) (hs : s.running = none)
    (hrun : ((qbvMachine cfg).restrict (Unambiguous cfg)).Run s es t)
    (hen : ((qbvMachine cfg).restrict (Unambiguous cfg)).enabled t e)
    (hex : ((qbvMachine cfg).restrict (Unambiguous cfg)).exec t e = .ok u) :
    NoneLost cfg t u := by
  have hinit : s.Ok cfg := fun h hh => by
    rw [hs] at hh
    cases hh
  have ht : t.Ok cfg := hrun.invariant hinit fun h hen' hex' => (h.step hen' hex').2
  exact (ht.step hen hex).1

/-- Ports 0 and 1 both ask for a configuration change, with cycles of 10 ns. -/
def twoRequests (mask : UInt32) : QbvState where
  dev
    | .req .qbvConfigChangeReq => mask
    | .port _ .adminCycleTime => 10
    | _ => 0
  running := none

instance (t : QbvState) (e : QbvEvent) : Decidable ((qbvMachine cfg).enabled t e) :=
  match e with
  | .arrive _ _ => isTrue trivial
  | .start _ => inferInstanceAs (Decidable (t.running = none))
  | .step => inferInstanceAs (Decidable (t.running.isSome = true))

/-- The handler of a configuration change up to its last access. -/
def configChangeTrace : List QbvEvent := .start .qbvConfigChangeReq :: List.replicate 11 .step

/-- The state before the last access. -/
def beforeClear (mask : UInt32) : QbvState :=
  ((qbvMachine smallConfig).replay (twoRequests mask) configChangeTrace).getD (twoRequests mask)

/-- Of two requests the handler serves one, and clears both. -/
theorem qbvMachine_loses_request :
    ∃ u, (qbvMachine smallConfig).Run (twoRequests 3) configChangeTrace (beforeClear 3) ∧
      (qbvMachine smallConfig).enabled (beforeClear 3) .step ∧
      (qbvMachine smallConfig).exec (beforeClear 3) .step = .ok u ∧
      ¬ NoneLost smallConfig (beforeClear 3) u := by
  refine ⟨_, .of_isSome (by decide) _, by decide, rfl, fun hnone => ?_⟩
  obtain ⟨h, hrunning, -, t, -, hwrites⟩ :=
    hnone .qbvConfigChangeReq 1 (by decide) (by decide) (by decide)
  have hlog : (beforeClear 3).running.map (fun h => portWrites (UInt32.ofNat 1) h.log) = some [] := by
    decide
  rw [hrunning, Option.map_some, hwrites] at hlog
  cases hlog

/-- The state after a handler has read its request register. -/
def afterStart (mask : UInt32) : QbvState :=
  ((qbvMachine smallConfig).replay (twoRequests mask) [.start .qbvConfigChangeReq]).getD
    (twoRequests mask)

/-- With one request, the handler serves it before it clears the register. -/
theorem noneLost_one_request :
    ∃ t u, ((qbvMachine smallConfig).restrict (Unambiguous smallConfig)).Run (twoRequests 1)
        configChangeTrace t ∧
      (qbvMachine smallConfig).exec t .step = .ok u ∧ NoneLost smallConfig t u := by
  have honly : ∀ i < 5, Flagged 1 i → i = 0 := by decide
  have hone : OneAsks smallConfig (twoRequests 1).dev .qbvConfigChangeReq := by
    rintro i hi hflag ⟨j, hj, -⟩
    rw [honly i hi hflag] at hj
    exact absurd hj (Nat.not_lt_zero j)
  have hstart : ((qbvMachine smallConfig).restrict (Unambiguous smallConfig)).Run (twoRequests 1)
      [.start .qbvConfigChangeReq] (afterStart 1) := Machine.Run.single ⟨rfl, hone⟩ rfl
  have hsteps : (qbvMachine smallConfig).Run (afterStart 1) (List.replicate 11 .step) _ :=
    .of_isSome (by decide) (afterStart 1)
  have hrun := hstart.append (hsteps.restrict fun e he _ => by
    rw [List.eq_of_mem_replicate he]
    trivial)
  exact ⟨_, _, hrun, rfl, noneLost _ _ _ _ .step rfl hrun ⟨by decide, trivial⟩ rfl⟩

end Runs

end Axm57104.Switch
