import Axm57104.Net.Lifecycle
import Mathlib.Tactic.IntervalCases

/-!
# The data path across a reset

`axpci_reset_prepare` stops the engines through `xdma_device_offline`, and `axpci_reset_done` calls
`xdma_device_online`, which makes the engines ready again but starts none of them. Both work on
`engine->running` and on flags that neither `ax_net_start_xmit` nor the interrupt handlers look at.
So a frame that is sent on an idle channel starts its engine while the device is offline, and an
engine that was stopped at work stays stopped afterwards, unless one of its interrupts was already
pending.

The reset is one thread of steps. Sends, receptions and interrupts come between any two of them;
interrupts only as long as their lines are requested.
-/

namespace Axm57104.Net

open Common Xdma

/-! ## What an event does to the engines -/

/-- `tx_list[c].idle` and `engine_h2c[c].running` of both channels, and `engine_c2h[0].running`. -/
structure DataPath where
  h2c : Fin XDMA_CHANNEL_NUM_MAX → ℕ × Bool
  c2h : Bool

def NetDev.path (d : NetDev) : DataPath where
  h2c c := ((d.txList c).idle, (d.engineH2c c).running)
  c2h := d.engineC2h.running

/-- The data path after an event. -/
def pathAfter (d : NetDev) : LifeEvent → DataPath
  | .xmit skb =>
      if (d.txList skb.index).idle = 1 then
        { d.path with h2c := Function.update d.path.h2c skb.index (0, true) }
      else d.path
  | .h2cIrq c =>
      let served := if (d.txList c).curPktCount = 0 then (1, false) else (0, true)
      { d.path with h2c := Function.update d.path.h2c c served }
  | .rx .irq => if restartsC2h d then { d.path with c2h := true } else d.path
  | _ => d.path

/-- Traffic on an open interface. -/
def LifeEvent.isTraffic : LifeEvent → Bool
  | .ndoOpen | .ndoStop => false
  | _ => true

section Path

variable {d d' : NetDev} {c : Fin XDMA_CHANNEL_NUM_MAX}

theorem WritesBack.path {list : AxTxList} {e : XdmaEngine} (hw : WritesBack c list e d d') :
    d'.path = { d.path with h2c := Function.update d.path.h2c c (list.idle, e.running) } := by
  simp only [NetDev.path, hw.txList, hw.engineH2c, hw.engineC2h, NetDev.setTx, DataPath.mk.injEq,
    and_true]
  funext c'
  rcases eq_or_ne c' c with rfl | hne
  · simp only [Function.update_self]
  · simp only [Function.update_of_ne hne]

theorem axNetStartXmit_path {skb : TxSkb} (h : axNetStartXmit d skb = .ok d') :
    d'.path = pathAfter d (.xmit skb) := by
  cases hpad : padShort skb with
  | error f =>
      rw [axNetStartXmit_error hpad] at h
      cases h
  | ok frame =>
      rw [axNetStartXmit_eq hpad] at h
      obtain ⟨t, -, -, ht, -⟩ := xmitFrame_ok h
      by_cases hidle : (d.txList skb.index).idle = 1
      · have hrun : (d.engineH2c skb.index).running = false := by
          by_contra hrun
          rw [xmitFrame_bug _ ht hidle (Bool.of_not_eq_false hrun)] at h
          cases h
        rw [xmitFrame_idle _ ht hidle hrun] at h
        cases h
        rw [(WritesBack.setTx _ _ _ _).path, pathAfter, if_pos hidle]
        rfl
      · obtain ⟨d₁, hd₁, hw, -⟩ := xmitFrame_busy (length_padShort hpad) ht hidle
        obtain rfl := Except.ok.inj (hd₁.symm.trans h)
        rw [hw.path, pathAfter, if_neg hidle]
        exact congrArg (DataPath.mk · d.path.c2h) (Function.update_eq_self skb.index d.path.h2c)

theorem serviceH2c_path (h : serviceH2c c d = .ok d') : d'.path = pathAfter d (.h2cIrq c) := by
  rcases serviceH2c_ok h with herr | ⟨t, -, -, -, -, ht, -⟩
  · cases herr
  by_cases hcount : (d.txList c).curPktCount = 0
  · rw [serviceH2c_empty ht hcount] at h
    cases h
    rw [(WritesBack.wakeQueue _ _ _ _).path]
    simp only [pathAfter, if_pos hcount]
    rfl
  · rw [serviceH2c_launch ht hcount] at h
    cases h
    rw [(WritesBack.wakeQueue _ _ _ _).path]
    simp only [pathAfter, if_neg hcount]
    rfl

theorem h2cTransfer_path (h : h2cTransfer c d = .ok d') : d'.path = pathAfter d (.engine c) := by
  rcases h2cTransfer_cases c d with herr | ⟨hw, hok⟩
  · cases herr.symm.trans h
  cases hok.symm.trans h
  simp only [NetDev.path, pathAfter, DataPath.mk.injEq, and_true]
  funext c'
  rcases eq_or_ne c' c with rfl | hne
  · rw [Function.update_self]
  · rw [Function.update_of_ne hne]

theorem serviceC2h_path (h : serviceC2h d = .ok d') : d'.path = pathAfter d (.rx .irq) := by
  by_cases hyes : restartsC2h d = true
  · cases ht : d.engineC2h.transfer with
    | none =>
        have ht' : d.engineC2h.engineStatusRead.transfer = none := ht
        simp only [serviceC2h, if_pos hyes, ht'] at h
        cases h
    | some t =>
        rw [serviceC2h_restart ht hyes] at h
        cases h
        simp only [pathAfter, if_pos hyes]
        rfl
  · simp only [serviceC2h, if_neg hyes] at h
    cases h
    simp only [pathAfter, if_neg hyes]
    rfl

theorem RxFrameEq.path (h : RxFrameEq d d') (hrun : d'.engineC2h.running = d.engineC2h.running) :
    d'.path = d.path := by
  simp only [NetDev.path, h.txList, h.engineH2c, hrun]

/-- One lemma for all traffic. -/
theorem lifeExec_path {ev : LifeEvent} (hev : ev.isTraffic = true) (hen : lifeEnabled d ev)
    (hex : lifeExec d ev = .ok d') : d'.path = pathAfter d ev := by
  cases ev with
  | ndoOpen => cases hev
  | ndoStop => cases hev
  | xmit skb => exact axNetStartXmit_path hex
  | engine c => exact h2cTransfer_path hex
  | h2cIrq c =>
      have hreq : intRequest (d.engineH2c c) = true := hen
      have hex' : h2cIrq c (channelIntRequest d) d = .ok d' := hex
      rw [h2cIrq_eq, if_pos hreq] at hex'
      exact serviceH2c_path hex'
  | rx ev =>
      cases ev with
      | complete f =>
          rw [lifeExec_complete] at hex
          obtain ⟨hframe, -, hrun, -⟩ := c2hTransfer_keeps hex
          simp only [pathAfter]
          exact hframe.path hrun
      | irq =>
          rw [lifeExec_irq (d := d) hen] at hex
          exact serviceC2h_path hex
      | poll budget =>
          cases hex
          obtain ⟨hframe, -, hrun⟩ := axNetPoll_keeps allocOk d budget
          simp only [pathAfter]
          exact hframe.path hrun

end Path

/-! ## The reset -/

/-- How far the reset has come. -/
inductive ResetPc
  /-- `axpci_reset_prepare` has not been called. -/
  | up
  /-- `XDEV_FLAG_OFFLINE` is set. -/
  | flagged
  | h2c0Stopped
  | h2c1Stopped
  | c2hStopped
  /-- The interrupts are off, their lines are freed, and `xdma_device_offline` has returned. -/
  | offline
  /-- `axpci_reset_done` has called `xdma_device_online`. -/
  | called
  | h2c0Ready
  | h2c1Ready
  | c2hReady
  /-- The lines are requested again and the channel interrupts enabled. -/
  | enabled
  /-- `xdma_device_online` has returned. -/
  | online
  deriving DecidableEq

/-- The engine of channel `c` has been stopped, and `xdma_device_online` is still to come. -/
def ResetPc.stoppedH2c : ResetPc → Fin XDMA_CHANNEL_NUM_MAX → Bool
  | .h2c0Stopped, c => c = 0
  | .h2c1Stopped, _ | .c2hStopped, _ | .offline, _ => true
  | _, _ => false

def ResetPc.stoppedC2h : ResetPc → Bool
  | .c2hStopped | .offline => true
  | _ => false

/-- `xdma_device_online` has been called. -/
def ResetPc.comingUp : ResetPc → Bool
  | .called | .h2c0Ready | .h2c1Ready | .c2hReady | .enabled | .online => true
  | _ => false

/-- The lines of the channel interrupts are requested and enabled. -/
def ResetPc.irqOn : ResetPc → Bool
  | .up | .flagged | .h2c0Stopped | .h2c1Stopped | .c2hStopped | .enabled | .online => true
  | _ => false

/-- The device and the reset. `waitingH2c` and `waitingC2h` record, for a reader, which engines were
stopped at work and have not been served by an interrupt since. -/
structure ResetState where
  dev : NetDev
  pc : ResetPc
  waitingH2c : Fin XDMA_CHANNEL_NUM_MAX → Bool
  waitingC2h : Bool

def ResetState.start (d : NetDev) : ResetState := ⟨d, .up, fun _ => false, false⟩

/-- What `xdma_device_offline` does to an engine. -/
def stopEngine (e : XdmaEngine) : XdmaEngine := { e with shutdownRequest := true }.xdmaEngineStop

/-- What `xdma_device_online` does to an engine: `engine_init_regs` writes the registers that choose
the interrupts, and a shutdown is no longer requested. -/
def readyEngine (e : XdmaEngine) : XdmaEngine := { e with shutdownRequest := false }

def NetDev.setH2c (d : NetDev) (c : Fin XDMA_CHANNEL_NUM_MAX) (e : XdmaEngine) : NetDev :=
  { d with engineH2c := Function.update d.engineH2c c e }

/-- `xdma_device_offline` stops the engine of channel `c`. -/
def ResetState.stopH2c (s : ResetState) (c : Fin XDMA_CHANNEL_NUM_MAX) (pc : ResetPc) : ResetState :=
  { s with
    dev := s.dev.setH2c c (stopEngine (s.dev.engineH2c c))
    pc := pc
    waitingH2c := Function.update s.waitingH2c c ((s.dev.txList c).idle = 0) }

def ResetState.stopC2h (s : ResetState) : ResetState :=
  { s with
    dev := { s.dev with engineC2h := stopEngine s.dev.engineC2h }
    pc := .c2hStopped
    waitingC2h := true }

/-- The next step of the reset. -/
def resetStep (s : ResetState) : ResetState :=
  match s.pc with
  | .up => { s with dev := { s.dev with offline := true }, pc := .flagged }
  | .flagged => s.stopH2c 0 .h2c0Stopped
  | .h2c0Stopped => s.stopH2c 1 .h2c1Stopped
  | .h2c1Stopped => s.stopC2h
  | .c2hStopped => { s with pc := .offline }
  | .offline => { s with pc := .called }
  | .called => { s with dev := s.dev.setH2c 0 (readyEngine (s.dev.engineH2c 0)), pc := .h2c0Ready }
  | .h2c0Ready => { s with dev := s.dev.setH2c 1 (readyEngine (s.dev.engineH2c 1)), pc := .h2c1Ready }
  | .h2c1Ready =>
      { s with dev := { s.dev with engineC2h := readyEngine s.dev.engineC2h }, pc := .c2hReady }
  | .c2hReady => { s with pc := .enabled }
  | .enabled => { s with dev := { s.dev with offline := false }, pc := .online }
  | .online => s

/-! ## The system -/

inductive ResetEvent
  | life (ev : LifeEvent)
  | reset

def LifeEvent.isIrq : LifeEvent → Bool
  | .h2cIrq _ | .rx .irq => true
  | _ => false

/-- Traffic at any time, interrupts while they are on, and one reset. -/
def resetEnabled (s : ResetState) : ResetEvent → Prop
  | .life ev =>
      lifeEnabled s.dev ev ∧ ev.isTraffic = true ∧ (ev.isIrq = true → s.pc.irqOn = true)
  | .reset => s.pc ≠ .online

/-- Which engines still wait after an event. -/
def ResetState.serve (s : ResetState) (d : NetDev) : LifeEvent → ResetState
  | .h2cIrq c => { s with dev := d, waitingH2c := Function.update s.waitingH2c c false }
  | .rx .irq => { s with dev := d, waitingC2h := s.waitingC2h && !restartsC2h s.dev }
  | _ => { s with dev := d }

def resetExec (s : ResetState) : ResetEvent → Except Fault ResetState
  | .life ev => do
      let d ← lifeExec s.dev ev
      .ok (s.serve d ev)
  | .reset => .ok (resetStep s)

def resetMachine : Machine ResetState ResetEvent Fault where
  enabled := resetEnabled
  exec := resetExec

/-- Between the stop of an engine and the call of `xdma_device_online` nothing starts the engine: no
frame is sent on its channel while it is idle, and no interrupt finds work for it. When
`xdma_device_online` returns, every engine that was stopped at work has been served by an interrupt
that was pending. -/
def resetCond (s : ResetState) : ResetEvent → Prop
  | .life (.xmit skb) => s.pc.stoppedH2c skb.index = true → (s.dev.txList skb.index).idle ≠ 1
  | .life (.h2cIrq c) => s.pc.stoppedH2c c = true → (s.dev.txList c).curPktCount = 0
  | .life (.rx .irq) => s.pc.stoppedC2h = true → restartsC2h s.dev = false
  | .reset => s.pc = .enabled → s.waitingC2h = false ∧ ∀ c, s.waitingH2c c = false
  | _ => True

/-- No engine is running. -/
def Quiet (d : NetDev) : Prop :=
  d.engineC2h.running = false ∧ ∀ c, (d.engineH2c c).running = false

/-- The C2H engine is running, and so is the engine of every channel that is not idle. -/
def Restored (d : NetDev) : Prop :=
  d.engineC2h.running = true ∧ ∀ c, (d.txList c).idle = 0 → (d.engineH2c c).running = true

/-! ## The invariant -/

/-- What the reset knows of the data path. An engine that was stopped does not run before the device
comes up again, and from its stop on it waits exactly while it has work and does not run. -/
structure ResetInv (s : ResetState) : Prop where
  quietH2c : ∀ c, s.pc.stoppedH2c c = true → (s.dev.path.h2c c).2 = false
  quietC2h : s.pc.stoppedC2h = true → s.dev.path.c2h = false
  waitsH2c : ∀ c, (s.pc.stoppedH2c c || s.pc.comingUp) = true →
    (s.waitingH2c c = true ↔ s.dev.path.h2c c = (0, false))
  waitsC2h : (s.pc.stoppedC2h || s.pc.comingUp) = true →
    (s.waitingC2h = true ↔ s.dev.path.c2h = false)
  served : s.pc = .online → s.waitingC2h = false ∧ ∀ c, s.waitingH2c c = false

section Steps

variable {s : ResetState} {d : NetDev} {c : Fin XDMA_CHANNEL_NUM_MAX}

theorem ResetInv.start (d : NetDev) : ResetInv (.start d) :=
  ⟨nofun, nofun, nofun, nofun, nofun⟩

/-- An event that leaves the data path as it is. -/
theorem ResetInv.samePath (h : ResetInv s) (hpath : d.path = s.dev.path) :
    ResetInv { s with dev := d } := by
  refine ⟨?_, ?_, ?_, ?_, h.served⟩
  · rw [hpath]
    exact h.quietH2c
  · rw [hpath]
    exact h.quietC2h
  · rw [hpath]
    exact h.waitsH2c
  · rw [hpath]
    exact h.waitsC2h

/-- An event that changes the state of channel `c` to `p`. -/
theorem ResetInv.channel {p : ℕ × Bool} {w : Bool} (h : ResetInv s)
    (hh2c : d.path.h2c = Function.update s.dev.path.h2c c p) (hc2h : d.path.c2h = s.dev.path.c2h)
    (hquiet : s.pc.stoppedH2c c = true → p.2 = false)
    (hwaits : (s.pc.stoppedH2c c || s.pc.comingUp) = true → (w = true ↔ p = (0, false)))
    (hserved : s.pc = .online → w = false) :
    ResetInv { s with dev := d, waitingH2c := Function.update s.waitingH2c c w } := by
  refine ⟨fun c' hc' => ?_, fun hc' => ?_, fun c' hc' => ?_, fun hc' => ?_, fun hpc => ?_⟩
  · rw [hh2c]
    rcases eq_or_ne c' c with rfl | hne
    · rw [Function.update_self]
      exact hquiet hc'
    · rw [Function.update_of_ne hne]
      exact h.quietH2c c' hc'
  · rw [hc2h]
    exact h.quietC2h hc'
  · show Function.update s.waitingH2c c w c' = true ↔ _
    rw [hh2c]
    rcases eq_or_ne c' c with rfl | hne
    · rw [Function.update_self, Function.update_self]
      exact hwaits hc'
    · rw [Function.update_of_ne hne, Function.update_of_ne hne]
      exact h.waitsH2c c' hc'
  · rw [hc2h]
    exact h.waitsC2h hc'
  · refine ⟨(h.served hpc).1, fun c' => ?_⟩
    show Function.update s.waitingH2c c w c' = false
    rcases eq_or_ne c' c with rfl | hne
    · rw [Function.update_self]
      exact hserved hpc
    · rw [Function.update_of_ne hne]
      exact (h.served hpc).2 c'

/-- A frame is sent. On an idle channel it starts the engine, which did not wait. -/
theorem ResetInv.xmit {skb : TxSkb} (h : ResetInv s) (hcond : resetCond s (.life (.xmit skb)))
    (hpath : d.path = pathAfter s.dev (.xmit skb)) : ResetInv { s with dev := d } := by
  by_cases hidle : (s.dev.txList skb.index).idle = 1
  · simp only [pathAfter, if_pos hidle] at hpath
    rw [← Function.update_eq_self skb.index s.waitingH2c]
    refine h.channel (by rw [hpath]) (by rw [hpath]) (fun hc => ?_)
      (fun hc => ?_) fun hpc => (h.served hpc).2 _
    · exact absurd hidle (hcond hc)
    · have hnot : s.dev.path.h2c skb.index ≠ (0, false) := by
        intro heq
        have hzero : (s.dev.txList skb.index).idle = 0 := congrArg Prod.fst heq
        omega
      rw [h.waitsH2c _ hc]
      exact ⟨fun heq => absurd heq hnot, nofun⟩
  · rw [pathAfter, if_neg hidle] at hpath
    exact h.samePath hpath

/-- The interrupt of an H2C engine serves the engine. -/
theorem ResetInv.h2cIrq (h : ResetInv s) (hcond : resetCond s (.life (.h2cIrq c)))
    (hpath : d.path = pathAfter s.dev (.h2cIrq c)) :
    ResetInv { s with dev := d, waitingH2c := Function.update s.waitingH2c c false } := by
  simp only [pathAfter] at hpath
  refine h.channel (by rw [hpath]) (by rw [hpath]) (fun hc => ?_)
    (fun _ => ?_) fun _ => rfl
  · rw [if_pos (hcond hc)]
  · split <;> exact ⟨nofun, nofun⟩

/-- The interrupt of the C2H engine serves the engine if it restarts it. -/
theorem ResetInv.c2hIrq (h : ResetInv s) (hcond : resetCond s (.life (.rx .irq)))
    (hpath : d.path = pathAfter s.dev (.rx .irq)) :
    ResetInv { s with dev := d, waitingC2h := s.waitingC2h && !restartsC2h s.dev } := by
  cases hyes : restartsC2h s.dev with
  | false =>
      simp only [pathAfter, hyes, Bool.false_eq_true, if_false] at hpath
      rw [Bool.not_false, Bool.and_true]
      exact h.samePath hpath
  | true =>
      simp only [pathAfter, hyes, if_true] at hpath
      have hh2c : d.path.h2c = s.dev.path.h2c := by rw [hpath]
      have hc2h : d.path.c2h = true := by rw [hpath]
      rw [Bool.not_true, Bool.and_false]
      refine ⟨?_, fun hpc => ?_, ?_, fun _ => ?_, fun hpc => ⟨rfl, (h.served hpc).2⟩⟩
      · rw [hh2c]
        exact h.quietH2c
      · have hno := hcond hpc
        rw [hyes] at hno
        cases hno
      · rw [hh2c]
        exact h.waitsH2c
      · rw [hc2h]
        exact ⟨nofun, nofun⟩

/-- A step of the reset that leaves the data path as it is. -/
theorem ResetInv.advance {pc : ResetPc} (h : ResetInv s) (hpath : d.path = s.dev.path)
    (hstop : ∀ c, pc.stoppedH2c c = true → s.pc.stoppedH2c c = true)
    (hstop' : pc.stoppedC2h = true → s.pc.stoppedC2h = true)
    (hpast : ∀ c, (pc.stoppedH2c c || pc.comingUp) = true →
      (s.pc.stoppedH2c c || s.pc.comingUp) = true)
    (hpast' : (pc.stoppedC2h || pc.comingUp) = true → (s.pc.stoppedC2h || s.pc.comingUp) = true)
    (hserved : pc = .online → s.waitingC2h = false ∧ ∀ c, s.waitingH2c c = false) :
    ResetInv { s with dev := d, pc := pc } := by
  refine ⟨fun c hc => ?_, fun hc => ?_, fun c hc => ?_, fun hc => ?_, hserved⟩
  · rw [hpath]
    exact h.quietH2c c (hstop c hc)
  · rw [hpath]
    exact h.quietC2h (hstop' hc)
  · rw [hpath]
    exact h.waitsH2c c (hpast c hc)
  · rw [hpath]
    exact h.waitsC2h (hpast' hc)

theorem stopH2c_path (s : ResetState) (c : Fin XDMA_CHANNEL_NUM_MAX) (pc : ResetPc) :
    (s.stopH2c c pc).dev.path.h2c =
      Function.update s.dev.path.h2c c ((s.dev.txList c).idle, false) := by
  funext c'
  simp only [ResetState.stopH2c, NetDev.setH2c, NetDev.path]
  rcases eq_or_ne c' c with rfl | hne
  · rw [Function.update_self, Function.update_self]
    rfl
  · rw [Function.update_of_ne hne, Function.update_of_ne hne]

/-- A step of the reset that stops the engine of channel `c`. -/
theorem ResetInv.stopH2c {pc : ResetPc} (h : ResetInv s)
    (hnew : ∀ c', pc.stoppedH2c c' = true → c' = c ∨ s.pc.stoppedH2c c' = true)
    (hc2h : pc.stoppedC2h = false) (hup : pc.comingUp = false) : ResetInv (s.stopH2c c pc) := by
  refine ⟨fun c' hc' => ?_, fun hc' => ?_, fun c' hc' => ?_, fun hc' => ?_, fun hpc => ?_⟩
  · rw [stopH2c_path]
    rcases eq_or_ne c' c with rfl | hne
    · rw [Function.update_self]
    · rw [Function.update_of_ne hne]
      exact h.quietH2c c' ((hnew c' hc').resolve_left hne)
  · cases hc2h.symm.trans hc'
  · show Function.update s.waitingH2c c _ c' = true ↔ _
    rw [stopH2c_path]
    rcases eq_or_ne c' c with rfl | hne
    · rw [Function.update_self, Function.update_self, decide_eq_true_iff, Prod.mk.injEq]
      exact ⟨fun hidle => ⟨hidle, rfl⟩, fun heq => heq.1⟩
    · rw [Function.update_of_ne hne, Function.update_of_ne hne]
      have hc : (pc.stoppedH2c c' || pc.comingUp) = true := hc'
      rw [hup, Bool.or_false] at hc
      exact h.waitsH2c c' (by rw [(hnew c' hc).resolve_left hne, Bool.true_or])
  · have hc : (pc.stoppedC2h || pc.comingUp) = true := hc'
    rw [hup, hc2h] at hc
    cases hc
  · have hpc' : pc = .online := hpc
    rw [hpc'] at hup
    cases hup

theorem ResetInv.stopC2h (h : ResetInv s) (hstop : ∀ c, s.pc.stoppedH2c c = true) :
    ResetInv s.stopC2h := by
  refine ⟨fun c _ => h.quietH2c c (hstop c), fun _ => rfl, fun c _ => ?_, fun _ => ?_, nofun⟩
  · exact h.waitsH2c c (by rw [hstop c, Bool.true_or])
  · exact ⟨fun _ => rfl, fun _ => rfl⟩

theorem readyH2c_path (d : NetDev) (c : Fin XDMA_CHANNEL_NUM_MAX) :
    (d.setH2c c (readyEngine (d.engineH2c c))).path = d.path := by
  simp only [NetDev.path, NetDev.setH2c, DataPath.mk.injEq, and_true]
  funext c'
  rcases eq_or_ne c' c with rfl | hne
  · rw [Function.update_self]
    rfl
  · rw [Function.update_of_ne hne]

theorem ResetInv.reset (h : ResetInv s) (hcond : resetCond s .reset) : ResetInv (resetStep s) := by
  obtain ⟨dev, pc, waitingH2c, waitingC2h⟩ := s
  cases pc with
  | up => exact h.advance rfl nofun nofun nofun nofun nofun
  | flagged =>
      refine h.stopH2c (fun c hc => .inl ?_) rfl rfl
      exact of_decide_eq_true hc
  | h2c0Stopped =>
      refine h.stopH2c (fun c _ => ?_) rfl rfl
      obtain rfl | rfl := channel_cases c
      · exact .inr rfl
      · exact .inl rfl
  | h2c1Stopped => exact h.stopC2h fun _ => rfl
  | c2hStopped => exact h.advance rfl (fun _ _ => rfl) (fun _ => rfl) (fun _ _ => rfl) (fun _ => rfl) nofun
  | offline => exact h.advance rfl nofun nofun (fun _ _ => rfl) (fun _ => rfl) nofun
  | called =>
      exact h.advance (readyH2c_path dev 0) nofun nofun (fun _ _ => rfl) (fun _ => rfl) nofun
  | h2c0Ready =>
      exact h.advance (readyH2c_path dev 1) nofun nofun (fun _ _ => rfl) (fun _ => rfl) nofun
  | h2c1Ready => exact h.advance rfl nofun nofun (fun _ _ => rfl) (fun _ => rfl) nofun
  | c2hReady => exact h.advance rfl nofun nofun (fun _ _ => rfl) (fun _ => rfl) nofun
  | enabled =>
      exact h.advance rfl nofun nofun (fun _ _ => rfl) (fun _ => rfl) fun _ => hcond rfl
  | online => exact h

/-- One step that meets the condition keeps the invariant. -/
theorem ResetInv.step {s' : ResetState} {e : ResetEvent} (h : ResetInv s) (hen : resetEnabled s e)
    (hcond : resetCond s e) (hex : resetExec s e = .ok s') : ResetInv s' := by
  cases e with
  | reset =>
      cases hex
      exact h.reset hcond
  | life ev =>
      simp only [resetExec, bind_eq_ok] at hex
      obtain ⟨d, hd, hs'⟩ := hex
      cases hs'
      have hpath := lifeExec_path hen.2.1 hen.1 hd
      cases ev with
      | ndoOpen => cases hen.2.1
      | ndoStop => cases hen.2.1
      | xmit skb => exact h.xmit hcond hpath
      | engine c => exact h.samePath hpath
      | h2cIrq c => exact h.h2cIrq hcond hpath
      | rx ev =>
          cases ev with
          | irq => exact h.c2hIrq hcond hpath
          | complete f => exact h.samePath hpath
          | poll budget => exact h.samePath hpath

/-- What the invariant says of a device that is offline. -/
theorem ResetInv.quiet (h : ResetInv s) (hpc : s.pc = .offline) : Quiet s.dev := by
  constructor
  · exact h.quietC2h (by rw [hpc]; rfl)
  · exact fun c => h.quietH2c c (by rw [hpc]; rfl)

/-- Once the device comes up again, it is restored exactly if no engine waits. -/
theorem ResetInv.restored_iff (h : ResetInv s) (hpc : s.pc.comingUp = true) :
    Restored s.dev ↔ s.waitingC2h = false ∧ ∀ c, s.waitingH2c c = false := by
  have hc2h := h.waitsC2h (by rw [hpc, Bool.or_true])
  have hh2c := fun c => h.waitsH2c c (by rw [hpc, Bool.or_true])
  constructor
  · intro hres
    refine ⟨?_, fun c => ?_⟩
    · rw [Bool.eq_false_iff, ne_eq, hc2h]
      intro hstop
      cases hstop.symm.trans hres.1
    · rw [Bool.eq_false_iff, ne_eq, hh2c c]
      intro hwait
      have hrun := hres.2 c (congrArg Prod.fst hwait)
      cases hrun.symm.trans (congrArg Prod.snd hwait)
  · rintro ⟨hw, hw'⟩
    refine ⟨?_, fun c hidle => ?_⟩
    · rw [Bool.eq_false_iff, ne_eq, hc2h] at hw
      exact Bool.of_not_eq_false hw
    · have hno := hw' c
      rw [Bool.eq_false_iff, ne_eq, hh2c c] at hno
      by_contra hrun
      exact hno (Prod.ext hidle (Bool.eq_false_iff.mpr hrun))

/-- A frame that is sent while no engine runs starts one exactly if its channel is idle. -/
theorem quiet_axNetStartXmit_iff {skb : TxSkb} {d' : NetDev} (hq : Quiet d)
    (hex : axNetStartXmit d skb = .ok d') : Quiet d' ↔ (d.txList skb.index).idle ≠ 1 := by
  have hpath := axNetStartXmit_path hex
  constructor
  · intro hq' hidle
    simp only [pathAfter, if_pos hidle] at hpath
    have hrun : (d'.path.h2c skb.index).2 = false := hq'.2 _
    rw [hpath] at hrun
    simp only [Function.update_self] at hrun
    cases hrun
  · intro hidle
    rw [pathAfter, if_neg hidle] at hpath
    refine ⟨?_, fun c => ?_⟩
    · exact (congrArg DataPath.c2h hpath).trans hq.1
    · exact (congrArg (fun p => (p.h2c c).2) hpath).trans (hq.2 c)

end Steps

/-! ## Every run -/

/-- **Reset.** In every run that meets the condition no engine runs while the device is offline, and
the data path is restored when `xdma_device_online` has returned. The condition on the return and the
one on sending while the device is offline are the exact ones. -/
theorem resetMachine_restores {d : NetDev} {es : List ResetEvent} {s : ResetState}
    (hr : (resetMachine.restrict resetCond).Run (.start d) es s) :
    (s.pc = .offline → Quiet s.dev) ∧ (s.pc = .online → Restored s.dev) ∧
      (s.pc = .enabled → (Restored (resetStep s).dev ↔ resetCond s .reset)) ∧
      (s.pc = .offline → ∀ skb d', axNetStartXmit s.dev skb = .ok d' →
        (Quiet d' ↔ resetCond s (.life (.xmit skb)))) := by
  have hinv : ResetInv s := hr.invariant (.start d) fun h hen hex => h.step hen.1 hen.2 hex
  refine ⟨hinv.quiet, fun hpc => ?_, fun hpc => ?_, fun hpc skb d' hex => ?_⟩
  · rw [hinv.restored_iff (by rw [hpc]; rfl)]
    exact hinv.served hpc
  · have hres : Restored (resetStep s).dev ↔ Restored s.dev := by
      rw [resetStep, hpc]
      exact Iff.rfl
    rw [hres, hinv.restored_iff (by rw [hpc]; rfl)]
    exact ⟨fun h _ => h, fun h => h hpc⟩
  · rw [quiet_axNetStartXmit_iff (hinv.quiet hpc) hex, resetCond, hpc]
    exact ⟨fun h _ => h, fun h => h rfl⟩

/-! ## Two resets -/

/-- The `n`-th step of a reset with nothing in between. -/
def resetSteps (d : NetDev) : ℕ → ResetState
  | 0 => .start d
  | n + 1 => resetStep (resetSteps d n)

/-- The first ten steps need no condition. -/
theorem run_resetSteps (d : NetDev) {n : ℕ} (hn : n ≤ 10) :
    (resetMachine.restrict resetCond).Run (.start d) (List.replicate n .reset) (resetSteps d n) := by
  induction n with
  | zero => exact .nil
  | succ n ih =>
      rw [List.replicate_succ']
      have hpc : (resetSteps d n).pc ≠ .online ∧ (resetSteps d n).pc ≠ .enabled := by
        have hlt : n < 10 := hn
        interval_cases n <;> exact ⟨nofun, nofun⟩
      exact (ih (by omega)).snoc ⟨hpc.1, fun h => absurd h hpc.2⟩ rfl

/-- Ten steps leave the C2H engine and the lists as they were, up to the stop. -/
theorem resetSteps_enabled (d : NetDev) :
    (resetSteps d 10).pc = .enabled ∧
      (resetSteps d 10).dev.engineC2h = readyEngine (stopEngine d.engineC2h) ∧
      (resetSteps d 10).dev.txList = d.txList ∧
      ∀ c, (resetSteps d 10).waitingH2c c = decide ((d.txList c).idle = 0) := by
  refine ⟨rfl, rfl, rfl, fun c => ?_⟩
  obtain rfl | rfl := channel_cases c <;> rfl

/-- A half of the receive ring is filled, and the interrupt comes when `xdma_device_online` has
enabled it. -/
theorem resetMachine_restores_pending :
    ∃ d s, lifeMachine.Run probedDev
        ([.ndoOpen] ++ (List.replicate 512 (.complete (frameOf 0))).map .rx) d ∧
      (resetMachine.restrict resetCond).Run (.start d)
        (List.replicate 10 .reset ++ [.life (.rx .irq), .reset]) s ∧
      s.pc = .online ∧ Restored s.dev := by
  obtain ⟨d₁, hopen⟩ := axNetOpen_probedDev
  have hnull := probedDev_quiescent.toNoTransferYet
  obtain ⟨r, hrun, -, h, hpc⟩ := RxInv.run_half (s := rxStart d₁)
    (RxInv.start hnull probedDev_rxFresh hopen) (axNetOpen_pc_ne_none hopen hnull) rfl (frameOf 0)
    512 le_rfl
  obtain ⟨t, hring, hdone⟩ := h.halfDone (hpc.mpr rfl)
  have hreach := (Machine.Run.single rfl hopen : lifeMachine.Run probedDev [.ndoOpen] d₁).append
    (lifeMachine_run_rx hrun)
  have hidle : ∀ c, (r.dev.txList c).idle = 1 := by
    intro c
    rw [(rxMachine_run_keeps hrun).txList]
    show (d₁.txList c).idle = 1
    rw [(axNetOpen_spec hopen hnull).1]
    rfl
  obtain ⟨hpc₁, hengine, -, hwaits⟩ := resetSteps_enabled r.dev
  set s₁ := resetSteps r.dev 10
  -- the stop of the half is still pending
  have hreq : intRequest s₁.dev.engineC2h = true := by
    rw [hengine]
    show (r.dev.engineC2h.hw.descStopped || _) = true
    rw [hdone.stopped, Bool.true_or]
  have hyes : restartsC2h s₁.dev = true := by
    rw [restartsC2h, hengine]
    exact h.restarts_iff.mpr ⟨t, hring, hdone⟩
  have ht : s₁.dev.engineC2h.transfer = some t := by
    rw [hengine]
    exact hring.transfer_eq
  have hirq : lifeExec s₁.dev (.rx .irq) = .ok { s₁.dev with
      engineC2h := restarted s₁.dev.engineC2h (turned t), napiScheduled := true } := by
    rw [lifeExec_irq hreq, serviceC2h_restart ht hyes]
  set d₂ : NetDev := { s₁.dev with
    engineC2h := restarted s₁.dev.engineC2h (turned t), napiScheduled := true }
  have hserved : (resetMachine.restrict resetCond).Run s₁ [.life (.rx .irq), .reset]
      (resetStep (s₁.serve d₂ (.rx .irq))) := by
    refine .cons (t := s₁.serve d₂ (.rx .irq)) ⟨⟨hreq, rfl, fun _ => ?_⟩, fun hstop => ?_⟩ ?_ ?_
    · rw [hpc₁]
      rfl
    · rw [hpc₁] at hstop
      cases hstop
    · rw [Machine.restrict_exec]
      show (lifeExec s₁.dev (.rx .irq) >>= _) = _
      rw [hirq]
      rfl
    · refine .single ⟨?_, fun _ => ⟨?_, fun c => ?_⟩⟩ rfl
      · intro hpc
        rw [show (s₁.serve d₂ (.rx .irq)).pc = .enabled from hpc₁] at hpc
        cases hpc
      · show (s₁.waitingC2h && !restartsC2h s₁.dev) = false
        rw [hyes, Bool.not_true, Bool.and_false]
      · show s₁.waitingH2c c = false
        rw [hwaits c, hidle c]
        rfl
  have hall := (run_resetSteps r.dev le_rfl).append hserved
  have hpc₂ : (resetStep (s₁.serve d₂ (.rx .irq))).pc = .online := rfl
  exact ⟨r.dev, _, hreach, hall, hpc₂, (resetMachine_restores hall).2.1 hpc₂⟩

/-- A frame is sent on an idle channel. -/
theorem axNetStartXmit_idle {d : NetDev} {t : XdmaTransfer} (ht : (d.engineH2c 0).transfer = some t)
    (hidle : (d.txList 0).idle = 1) (hrun : (d.engineH2c 0).running = false) :
    ∃ d', axNetStartXmit d sampleSkb = .ok d' ∧ d'.path.h2c 0 = (0, true) := by
  have hx : axNetStartXmit d sampleSkb = _ := (axNetStartXmit_eq padShort_sampleSkb).trans
    (xmitFrame_idle (length_padShort padShort_sampleSkb) ht hidle hrun)
  refine ⟨_, hx, ?_⟩
  have hpath := axNetStartXmit_path hx
  have hidle' : (d.txList sampleSkb.index).idle = 1 := hidle
  simp only [pathAfter, if_pos hidle'] at hpath
  rw [hpath]
  exact Function.update_self sampleSkb.index (0, true) d.path.h2c

/-- Without a pending interrupt the C2H engine stays stopped, and so does the engine of a channel
that was sending. A frame that is sent while the device is offline starts an engine. -/
theorem resetMachine_not_restored :
    (∃ d s, lifeMachine.Run probedDev [.ndoOpen, .xmit sampleSkb] d ∧
      resetMachine.Run (.start d) (List.replicate 11 .reset) s ∧ s.pc = .online ∧
      s.dev.engineC2h.running = false ∧
      (s.dev.txList 0).idle = 0 ∧ (s.dev.engineH2c 0).running = false) ∧
    ∃ d s, lifeMachine.Run probedDev [.ndoOpen] d ∧
      resetMachine.Run (.start d) (List.replicate 5 .reset ++ [.life (.xmit sampleSkb)]) s ∧
      s.pc = .offline ∧ (s.dev.engineH2c 0).running = true := by
  obtain ⟨d₁, hopen⟩ := axNetOpen_probedDev
  obtain ⟨hbase, htx, -⟩ := axNetOpen_spec hopen probedDev_quiescent.toNoTransferYet
  obtain ⟨desc, t, he, hring, -⟩ := htx 0
  have hopened : lifeMachine.Run probedDev [.ndoOpen] d₁ := .single rfl hopen
  have hup : d₁.linkStart = true ∧ d₁.queueStopped = false := by
    rw [hbase]
    exact ⟨rfl, rfl⟩
  have hidle : (d₁.txList 0).idle = 1 := by
    rw [hbase]
    rfl
  have hstopped : (d₁.engineH2c 0).running = false := by
    rw [he]
    rfl
  constructor
  · obtain ⟨d₂, hxmit, hpath⟩ := axNetStartXmit_idle hring.transfer_eq hidle hstopped
    have hidle₂ : (d₂.txList 0).idle = 0 := congrArg Prod.fst hpath
    have hrun : resetMachine.Run (.start d₂) (List.replicate 11 .reset) (resetSteps d₂ 11) :=
      (run_resetSteps d₂ le_rfl).of_restrict.snoc nofun rfl
    exact ⟨d₂, _, hopened.snoc hup hxmit, hrun, rfl, rfl, hidle₂, rfl⟩
  · obtain ⟨d₂, hxmit, hpath⟩ := axNetStartXmit_idle (d := (resetSteps d₁ 5).dev) (t := t)
      hring.transfer_eq hidle rfl
    have hrun : resetMachine.Run (.start d₁) (List.replicate 5 .reset ++ [.life (.xmit sampleSkb)])
        { resetSteps d₁ 5 with dev := d₂ } := by
      refine (run_resetSteps d₁ (by omega)).of_restrict.snoc ⟨hup, rfl, nofun⟩ ?_
      show (axNetStartXmit (resetSteps d₁ 5).dev sampleSkb >>= _) = _
      rw [hxmit]
      rfl
    exact ⟨d₁, _, hopened, hrun, rfl, congrArg Prod.snd hpath⟩

end Axm57104.Net
