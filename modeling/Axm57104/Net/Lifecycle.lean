import Axm57104.Net.RxSession
import Axm57104.Net.TxRing

/-!
# Starting engines over the life of an interface

`engine_start` has a `BUG_ON` for an engine that is already running. The driver starts engines in
four places: `ax_net_open` (C2H), `ax_net_start_xmit` on an idle channel (H2C), and the completion
interrupts, which stop the engine first. The first two rely on the state of the driver: an engine
of a closed interface, and an engine of an idle channel, are not running.

An interrupt may be handled long after the event that raised it, also after `ax_net_close`, and it
then restarts an engine behind the back of that state. `lifeCond` excludes exactly these
interrupts.
-/

namespace Axm57104.Net

open Common Xdma

/-! ## The system -/

inductive LifeEvent
  | ndoOpen
  | ndoStop
  | xmit (skb : TxSkb)
  | engine (c : Fin XDMA_CHANNEL_NUM_MAX)
  | h2cIrq (c : Fin XDMA_CHANNEL_NUM_MAX)
  | rx (ev : RxEvent)

/-- A pending interrupt may be handled at any time, whether or not the interface is up. -/
def lifeEnabled (d : NetDev) : LifeEvent → Prop
  | .ndoOpen => d.linkStart = false
  | .ndoStop => d.linkStart = true
  | .xmit _ => d.linkStart = true ∧ d.queueStopped = false
  | .engine c => (d.engineH2c c).hw.pc ≠ none
  | .h2cIrq c => intRequest (d.engineH2c c) = true
  | .rx ev => rxEnabled (rxStart d) ev

def lifeExec (d : NetDev) : LifeEvent → Except Fault NetDev
  | .ndoOpen => axNetOpen d
  | .ndoStop => .ok (axNetClose d)
  | .xmit skb => axNetStartXmit d skb
  | .engine c => h2cTransfer c d
  | .h2cIrq c => h2cIrq c (channelIntRequest d) d
  | .rx ev => do
      let r ← rxExec (rxStart d) ev
      .ok r.dev

theorem lifeExec_complete (d : NetDev) (f : RxFrame) :
    lifeExec d (.rx (.complete f)) = c2hTransfer f d := by
  show ((c2hTransfer f d >>= _) >>= _) = _
  cases c2hTransfer f d <;> rfl

theorem lifeExec_irq {d : NetDev} (hreq : intRequest d.engineC2h = true) :
    lifeExec d (.rx .irq) = serviceC2h d := by
  show ((xdmaChannelC2hIrq (channelIntRequest d) d >>= _) >>= _) = _
  rw [xdmaChannelC2hIrq_eq, if_pos hreq]
  cases serviceC2h d <;> rfl

theorem lifeExec_poll (d : NetDev) (budget : ℕ) :
    lifeExec d (.rx (.poll budget)) = .ok (axNetPoll allocOk d budget).1 := rfl

def lifeMachine : Machine NetDev LifeEvent Fault where
  enabled := lifeEnabled
  exec := lifeExec

/-- No interrupt that restarts an engine is handled while the interface is down. -/
def lifeCond (d : NetDev) : LifeEvent → Prop
  | .h2cIrq c => d.linkStart = true ∨ (d.txList c).curPktCount = 0
  | .rx .irq => d.linkStart = true ∨ restartsC2h d = false
  | _ => True

/-! ## The invariant -/

/-- Which engines are not running. -/
structure LifeInv (d : NetDev) : Prop where
  noTransfer : NoTransferYet d
  down : d.linkStart = false → d.engineC2h.running = false ∧ ∀ c, (d.engineH2c c).running = false
  idle : d.linkStart = true → ∀ c, (d.txList c).idle = 1 → (d.engineH2c c).running = false

/-- A device that has been probed and not yet opened. -/
structure Probed (d : NetDev) : Prop extends NoTransferYet d where
  down : d.linkStart = false
  c2hStopped : d.engineC2h.running = false
  h2cStopped : ∀ c, (d.engineH2c c).running = false

theorem Probed.lifeInv {d : NetDev} (h : Probed d) : LifeInv d := by
  refine ⟨h.toNoTransferYet, fun _ => ⟨h.c2hStopped, h.h2cStopped⟩, fun hup => ?_⟩
  rw [h.down] at hup
  cases hup

section Steps

variable {d d' : NetDev} {c : Fin XDMA_CHANNEL_NUM_MAX}

theorem LifeInv.ndoOpen (h : LifeInv d) (hex : axNetOpen d = .ok d') (hdown : d.linkStart = false) :
    LifeInv d' := by
  obtain ⟨hbase, htx, -⟩ := axNetOpen_spec hex h.noTransfer
  have hflag : d'.xdmaDescFlag = true := by
    rw [hbase]
    rfl
  have hup : d'.linkStart = true := by
    rw [hbase]
    rfl
  refine ⟨NoTransferYet.of_opened hflag, fun hdown' => ?_, fun _ c _ => ?_⟩
  · rw [hup] at hdown'
    cases hdown'
  · obtain ⟨desc, t, he, -⟩ := htx c
    rw [he]
    exact (h.down hdown).2 c

/-- Writing back a channel keeps the invariant, if the engine does not run when the channel is idle
or the interface down. -/
theorem LifeInv.writesBack {list : AxTxList} {e : XdmaEngine} {t : XdmaTransfer} (h : LifeInv d)
    (ht : (d.engineH2c c).transfer = some t) (hw : WritesBack c list e d d')
    (hidle : list.idle = 1 → e.running = false) (hdown : d.linkStart = false → e.running = false) :
    LifeInv d' := by
  have hself : (d'.txList c = list) ∧ d'.engineH2c c = e := by
    rw [hw.txList, hw.engineH2c]
    exact ⟨Function.update_self _ _ _, Function.update_self _ _ _⟩
  have hother : ∀ c', c' ≠ c →
      d'.txList c' = d.txList c' ∧ d'.engineH2c c' = d.engineH2c c' := by
    intro c' hne
    rw [hw.txList, hw.engineH2c]
    exact ⟨Function.update_of_ne hne _ _, Function.update_of_ne hne _ _⟩
  -- a device with a transfer has been opened
  have hflag : d.xdmaDescFlag = true := by
    by_contra hf
    rw [h.noTransfer.h2c (Bool.eq_false_iff.mpr hf) c] at ht
    cases ht
  refine ⟨NoTransferYet.of_opened (hw.xdmaDescFlag.trans hflag), fun hd => ?_, fun hu c' hi => ?_⟩
  · rw [hw.linkStart] at hd
    refine ⟨?_, fun c' => ?_⟩
    · rw [hw.engineC2h]
      exact (h.down hd).1
    · rcases eq_or_ne c' c with rfl | hne
      · rw [hself.2]
        exact hdown hd
      · rw [(hother c' hne).2]
        exact (h.down hd).2 c'
  · rw [hw.linkStart] at hu
    rcases eq_or_ne c' c with rfl | hne
    · rw [hself.1] at hi
      rw [hself.2]
      exact hidle hi
    · rw [(hother c' hne).1] at hi
      rw [(hother c' hne).2]
      exact h.idle hu c' hi

/-- The receive path does not touch the H2C side; it may change the C2H engine only while the
interface is up. -/
theorem LifeInv.rxFrame (h : LifeInv d) (hframe : RxFrameEq d d')
    (ht : d.engineC2h.transfer = none → d'.engineC2h.transfer = none)
    (hrun : d.linkStart = false → d'.engineC2h.running = d.engineC2h.running) : LifeInv d' := by
  refine ⟨h.noTransfer.of_frame hframe ht, fun hdown => ?_, fun hup c hidle => ?_⟩
  · rw [hframe.linkStart] at hdown
    rw [hrun hdown, hframe.engineH2c]
    exact h.down hdown
  · rw [hframe.linkStart] at hup
    rw [hframe.txList] at hidle
    rw [hframe.engineH2c]
    exact h.idle hup c hidle

/-- What a step may do: it does not reach the `BUG_ON` of `engine_start`, and it keeps the
invariant. -/
def KeepsLifeInv (r : Except Fault NetDev) : Prop :=
  r ≠ .error .engineRunning ∧ ∀ d', r = .ok d' → LifeInv d'

theorem KeepsLifeInv.error {f : Fault} (hf : f ≠ .engineRunning) : KeepsLifeInv (.error f) := by
  refine ⟨fun herr => hf (Except.error.inj herr), fun d' hex => ?_⟩
  cases hex

theorem LifeInv.keeps (h : LifeInv d') : KeepsLifeInv (.ok d') := by
  refine ⟨fun herr => ?_, fun d'' hex => ?_⟩
  · cases herr
  · cases hex
    exact h

theorem LifeInv.xmit (h : LifeInv d) (hup : d.linkStart = true) (skb : TxSkb) :
    KeepsLifeInv (axNetStartXmit d skb) := by
  cases hpad : padShort skb with
  | error f =>
      rw [axNetStartXmit_error hpad]
      exact .error nofun
  | ok frame =>
      rw [axNetStartXmit_eq hpad]
      refine ⟨fun herr => ?_, fun d' hex => ?_⟩
      · obtain ⟨hidle, hrun⟩ := xmitFrame_running herr
        rw [h.idle hup skb.index hidle] at hrun
        cases hrun
      · obtain ⟨t, list, e, ht, hw, hidle⟩ := xmitFrame_ok hex
        refine h.writesBack ht hw (fun hi => absurd hi hidle) fun hdown => ?_
        cases hdown.symm.trans hup

/-- The engine of a channel sends a frame. -/
theorem LifeInv.engine (h : LifeInv d) (c : Fin XDMA_CHANNEL_NUM_MAX) :
    KeepsLifeInv (h2cTransfer c d) := by
  rcases h2cTransfer_cases c d with herr | ⟨hw, hok⟩
  · rw [herr]
    exact .error nofun
  rw [hok]
  set e' : XdmaEngine := { d.engineH2c c with hw := hw }
  have hall : ∀ c', (Function.update d.engineH2c c e' c').running = (d.engineH2c c').running ∧
      (Function.update d.engineH2c c e' c').transfer = (d.engineH2c c').transfer := by
    intro c'
    rcases eq_or_ne c' c with rfl | hne
    · rw [Function.update_self]
      exact ⟨rfl, rfl⟩
    · rw [Function.update_of_ne hne]
      exact ⟨rfl, rfl⟩
  refine LifeInv.keeps ⟨⟨fun hf c' => ?_, h.noTransfer.c2h⟩, fun hdown => ?_, fun hup c' hidle => ?_⟩
  · exact (hall c').2.trans (h.noTransfer.h2c hf c')
  · exact ⟨(h.down hdown).1, fun c' => (hall c').1.trans ((h.down hdown).2 c')⟩
  · exact (hall c').1.trans (h.idle hup c' hidle)

theorem LifeInv.serviceH2c (h : LifeInv d)
    (hcond : d.linkStart = true ∨ (d.txList c).curPktCount = 0) :
    KeepsLifeInv (serviceH2c c d) := by
  rcases serviceH2c_ok (rfl : Net.serviceH2c c d = _) with
    herr | ⟨t, d', list, e, hok, ht, hw, hidle, hempty⟩
  · rw [herr]
    exact .error nofun
  · rw [hok]
    refine LifeInv.keeps (h.writesBack ht hw hidle fun hdown => ?_)
    rcases hcond with hup | hcount
    · cases hdown.symm.trans hup
    · exact hempty hcount

theorem LifeInv.serviceC2h (h : LifeInv d)
    (hcond : d.linkStart = true ∨ restartsC2h d = false) : KeepsLifeInv (serviceC2h d) := by
  rcases serviceC2h_keeps d with herr | ⟨d', hok, hframe, ht, hrun⟩
  · rw [herr]
    exact .error nofun
  · rw [hok]
    refine LifeInv.keeps (h.rxFrame hframe ht fun hdown => ?_)
    rcases hcond with hup | hno
    · cases hdown.symm.trans hup
    · exact hrun hno

/-- One step that meets the condition does not reach the `BUG_ON` of `engine_start`, and keeps the
invariant. -/
theorem LifeInv.step {ev : LifeEvent} (h : LifeInv d) (hen : lifeEnabled d ev)
    (hcond : lifeCond d ev) : KeepsLifeInv (lifeExec d ev) := by
  cases ev with
  | ndoOpen =>
      refine ⟨fun herr => ?_, fun d' hex => h.ndoOpen hex hen⟩
      have hrun := running_of_axNetOpen_error herr
      rw [(h.down hen).1] at hrun
      cases hrun
  | ndoStop =>
      have hquiet := (axNetClose_quiescent h.noTransfer).toNoTransferYet
      exact LifeInv.keeps ⟨hquiet, fun _ => ⟨rfl, fun _ => rfl⟩, nofun⟩
  | xmit skb => exact h.xmit hen.1 skb
  | engine c => exact h.engine c
  | h2cIrq c =>
      have hreq : intRequest (d.engineH2c c) = true := hen
      show KeepsLifeInv (h2cIrq c (channelIntRequest d) d)
      rw [h2cIrq_eq, if_pos hreq]
      exact h.serviceH2c hcond
  | rx ev =>
      cases ev with
      | complete f =>
          rw [lifeExec_complete]
          rcases c2hTransfer_cases f d with herr | ⟨d', hok, hframe, ht, hrun, -⟩
          · rw [herr]
            exact .error nofun
          · rw [hok]
            exact (h.rxFrame hframe (fun hnone => ht.trans hnone) fun _ => hrun).keeps
      | irq =>
          rw [lifeExec_irq (d := d) hen]
          exact h.serviceC2h hcond
      | poll budget =>
          rw [lifeExec_poll]
          obtain ⟨hframe, ht, hrun⟩ := axNetPoll_keeps allocOk d budget
          exact (h.rxFrame hframe (fun hnone => ht.trans hnone) fun _ => hrun).keeps

end Steps

/-! ## Whole runs -/

/-- The state lets no further step reach the `BUG_ON`: an idle channel's engine is not running, and
neither is the C2H engine when an open comes to start it. -/
structure EnginesSafe (d : NetDev) : Prop where
  idle : ∀ c, (d.txList c).idle = 1 → (d.engineH2c c).running = false
  c2h : lifeEnabled d .ndoOpen → d.engineC2h.running = false

theorem LifeInv.safe {d : NetDev} (h : LifeInv d) : EnginesSafe d := by
  refine ⟨fun c hidle => ?_, fun hdown => (h.down hdown).1⟩
  cases hup : d.linkStart with
  | true => exact h.idle hup c hidle
  | false => exact (h.down hup).2 c

/-- **Engines are started only while stopped.** As long as no interrupt restarts an engine while the
interface is down, no run of opens, closes, sends, receptions and interrupts, of any length and in
any order, reaches the `BUG_ON` of `engine_start`. -/
theorem lifeMachine_safe {d : NetDev} (h : Probed d) :
    (lifeMachine.restrict lifeCond).Unreachable d .engineRunning ∧
      ∀ es d', (lifeMachine.restrict lifeCond).Run d es d' → EnginesSafe d' := by
  have hinv : ∀ es d', (lifeMachine.restrict lifeCond).Run d es d' → LifeInv d' := by
    intro es d' hrun
    exact hrun.invariant h.lifeInv fun hu hen hex => (hu.step hen.1 hen.2).2 _ hex
  refine ⟨fun es d' ev hrun hen => ?_, fun es d' hrun => ?_⟩
  · exact ((hinv es d' hrun).step hen.1 hen.2).1
  · exact (hinv es d' hrun).safe

theorem probedDev_probed : Probed probedDev := by
  refine ⟨probedDev_quiescent.toNoTransferYet, rfl, rfl, fun c => ?_⟩
  obtain rfl | rfl := channel_cases c <;> rfl

/-- Receiving is a part of the life of an interface. -/
theorem lifeExec_rx {s t : RxSys} {ev : RxEvent} (hex : rxExec s ev = .ok t) :
    lifeExec s.dev (.rx ev) = .ok t.dev := by
  cases ev with
  | complete f =>
      rw [lifeExec_complete]
      obtain ⟨d, hd, ht⟩ := bind_eq_ok.mp hex
      cases ht
      exact hd
  | irq =>
      show (xdmaChannelC2hIrq (channelIntRequest s.dev) s.dev >>= _) >>= _ = _
      obtain ⟨d, hd, ht⟩ := bind_eq_ok.mp hex
      cases ht
      rw [hd]
      rfl
  | poll budget =>
      cases hex
      rfl

theorem lifeEnabled_rx {s : RxSys} {ev : RxEvent} (hen : rxEnabled s ev) :
    lifeEnabled s.dev (.rx ev) := by
  cases ev <;> exact hen

theorem lifeMachine_run_rx {s s' : RxSys} {es : List RxEvent} (h : rxMachine.Run s es s') :
    lifeMachine.Run s.dev (es.map .rx) s'.dev :=
  h.map RxSys.dev LifeEvent.rx (fun _ _ hen => lifeEnabled_rx hen) fun _ _ _ hex => lifeExec_rx hex

/-- An interrupt that is handled while the interface is up is no late one. -/
theorem lifeCond_rx {d : NetDev} (hup : d.linkStart = true) (ev : RxEvent) :
    lifeCond d (.rx ev) := by
  cases ev with
  | complete f => trivial
  | irq => exact .inl hup
  | poll budget => trivial

/-- Receiving leaves the interface up. -/
theorem lifeMachine_run_rx_up {s s' : RxSys} {es : List RxEvent} (h : rxMachine.Run s es s')
    (hup : s.dev.linkStart = true) :
    (lifeMachine.restrict lifeCond).Run s.dev (es.map .rx) s'.dev := by
  induction h with
  | nil => exact .nil
  | snoc hrun hen hex ih =>
      have hup' := (rxMachine_run_keeps hrun).linkStart.trans hup
      rw [List.map_append]
      exact ih.snoc ⟨lifeEnabled_rx hen, lifeCond_rx hup' _⟩ (lifeExec_rx hex)

/-- A probed device is such a device: it is opened, and a half is filled before the interrupt
restarts the engine. -/
theorem lifeMachine_safe_restart :
    (lifeMachine.restrict lifeCond).Unreachable probedDev .engineRunning ∧
      ∃ u d, (lifeMachine.restrict lifeCond).Run probedDev
          ([.ndoOpen] ++ (List.replicate 512 (.complete (frameOf 0))).map .rx) u ∧
        restartsC2h u = true ∧ (lifeMachine.restrict lifeCond).Run u
          [.rx .irq, .rx (.complete (frameOf 1)), .rx (.poll 64)] d ∧ EnginesSafe d := by
  obtain ⟨d', u, s, hopen, hfill, hyes, hrest⟩ := probedDev_restart
  have hopened : (lifeMachine.restrict lifeCond).Run probedDev [.ndoOpen] d' :=
    Machine.Run.single ⟨rfl, trivial⟩ hopen
  have hup : d'.linkStart = true := by
    rw [(axNetOpen_spec hopen probedDev_quiescent.toNoTransferYet).1]
    rfl
  have hup' := (rxMachine_run_keeps hfill.of_restrict).linkStart.trans hup
  have hrun₁ := hopened.append (lifeMachine_run_rx_up hfill.of_restrict hup)
  have hrun₂ := lifeMachine_run_rx_up hrest.of_restrict hup'
  have hsafe := lifeMachine_safe probedDev_probed
  exact ⟨hsafe.1, u.dev, s.dev, hrun₁, hyes, hrun₂, hsafe.2 _ _ (hrun₁.append hrun₂)⟩

/-! ## A late interrupt -/

/-- A half is filled, the interface is closed, and only then the interrupt is handled. -/
def lateIrqTrace : List LifeEvent :=
  [.ndoOpen] ++ (List.replicate 512 (.complete (frameOf 0))).map .rx ++ [.ndoStop, .rx .irq]

/-- **A late interrupt.** After `lateIrqTrace` the interface is down and its C2H engine is running;
the next `ax_net_open` ends in the `BUG_ON` of `engine_start`. -/
theorem lifeMachine_late_irq :
    ∃ d, lifeMachine.Run probedDev lateIrqTrace d ∧ lifeEnabled d .ndoOpen ∧
      lifeExec d .ndoOpen = .error .engineRunning := by
  obtain ⟨d₁, hopen⟩ := axNetOpen_probedDev
  have hnull := probedDev_quiescent.toNoTransferYet
  have hrun₁ : lifeMachine.Run probedDev [.ndoOpen] d₁ := Machine.Run.single rfl hopen
  obtain ⟨s, hrun, -, h, hpc⟩ := RxInv.run_half (s := rxStart d₁)
    (RxInv.start hnull probedDev_rxFresh hopen) (axNetOpen_pc_ne_none hopen hnull) rfl (frameOf 0)
    512 le_rfl
  obtain ⟨t, hr, hdone⟩ := h.halfDone (hpc.mpr rfl)
  have hframe : RxFrameEq d₁ s.dev := rxMachine_run_keeps hrun
  have hup : s.dev.linkStart = true := by
    rw [hframe.linkStart, (axNetOpen_spec hopen hnull).1]
    rfl
  have hclose : lifeMachine.Run s.dev [.ndoStop] (axNetClose s.dev) := Machine.Run.single hup rfl
  have hrun₂ := (hrun₁.append (lifeMachine_run_rx hrun)).append hclose
  -- the stop is still pending after the close, and the interrupt restarts the engine
  have hyes : restartsC2h (axNetClose s.dev) = true := h.restarts_iff.mpr ⟨t, hr, hdone⟩
  have hreq : intRequest (axNetClose s.dev).engineC2h = true := by
    show (s.dev.engineC2h.hw.descStopped || _) = true
    rw [hdone.stopped, Bool.true_or]
  have hservice := serviceC2h_restart (d := axNetClose s.dev) hr.transfer_eq hyes
  set d : NetDev := { axNetClose s.dev with
    engineC2h := restarted (axNetClose s.dev).engineC2h (turned t), napiScheduled := true }
  have hirq : lifeExec (axNetClose s.dev) (.rx .irq) = .ok d := by
    rw [lifeExec_irq hreq, hservice]
  have hlate : lifeMachine.Run (axNetClose s.dev) [.rx .irq] d := Machine.Run.single hreq hirq
  have hrun₃ : lifeMachine.Run probedDev lateIrqTrace d := by
    have hall := hrun₂.append hlate
    rwa [List.append_assoc _ [_] [_]] at hall
  have hopenable : Openable d :=
    ((probedDev_openable.opened hnull hopen).closed).of_frame
      ⟨rfl, hframe.xdmaDescFlag, hframe.offline, hframe.txList,
        congrArg (fun f c => (f c).xdmaEngineStop) hframe.engineH2c, rfl⟩ rfl ⟨turned t, rfl⟩
  exact ⟨d, hrun₃, rfl, axNetOpen_running hopenable rfl⟩

end Axm57104.Net
