import Axm57104.Net.RxRing

/-!
# The receive ring across close and open

`ax_net_open` rebuilds the descriptors and puts `cur_rx` and `current_list` back to 0, but it does
not clear the marks in `cyclic_result`, and `ax_net_close` leaves a pending `DESC_STOPPED` to be
handled in the next session. Each open starts a new session; `received` and `base` are what the
device has received and what the stack had got when the session began.

A session is in order if it starts fresh (`RxFresh`) and the driver keeps up. It need not start
fresh: `axNetPoll_after_open` shows what the first poll does when entry 0 is still marked.
-/

namespace Axm57104.Net

open Common Xdma

/-! ## The system -/

structure RxSession where
  dev : NetDev
  received : List (List UInt8)
  base : List (List UInt8)

inductive SessionEvent
  | rx (ev : RxEvent)
  | ndoStop
  | ndoOpen

/-- The netdev core closes only an open interface and opens only a closed one. -/
def sessionEnabled (s : RxSession) : SessionEvent → Prop
  | .rx ev => rxEnabled { dev := s.dev, received := s.received } ev
  | .ndoStop => s.dev.linkStart = true
  | .ndoOpen => s.dev.linkStart = false

def sessionExec (s : RxSession) : SessionEvent → Except Fault RxSession
  | .rx ev => do
      let r ← rxExec { dev := s.dev, received := s.received } ev
      .ok { s with dev := r.dev, received := r.received }
  | .ndoStop => .ok { s with dev := axNetClose s.dev }
  | .ndoOpen => do
      let d ← axNetOpen s.dev
      .ok { dev := d, received := [], base := d.stack }

def sessionMachine : Machine RxSession SessionEvent Fault where
  enabled := sessionEnabled
  exec := sessionExec

/-- A session starts fresh, and while the interface is up the driver keeps up. -/
def sessionCond (s : RxSession) : SessionEvent → Prop
  | .rx ev => s.dev.linkStart = true → rxCond { dev := s.dev, received := s.received } ev
  | .ndoStop => True
  | .ndoOpen => RxFresh s.dev

/-- A device that is down, with nothing received. -/
def sessionStart (d : NetDev) : RxSession where
  dev := d
  received := []
  base := d.stack

/-! ## The invariant -/

/-- While the interface is up, the receive ring is in order for the current session. -/
structure SessionInv (s : RxSession) : Prop where
  noTransfer : NoTransferYet s.dev
  up : s.dev.linkStart = true → ∃ m, RxInv s.base s.received m s.dev

/-- What a receiving step keeps, whether or not the interface is up. -/
theorem rxExec_keeps {s s' : RxSys} {ev : RxEvent} (h : rxExec s ev = .ok s') :
    RxFrameEq s.dev s'.dev ∧
      (s.dev.engineC2h.transfer = none → s'.dev.engineC2h.transfer = none) := by
  cases ev with
  | complete f =>
      simp only [rxExec, bind_eq_ok] at h
      obtain ⟨d, hd, hs'⟩ := h
      cases hs'
      obtain ⟨hframe, ht, -⟩ := c2hTransfer_keeps hd
      exact ⟨hframe, fun hnone => ht.trans hnone⟩
  | irq =>
      simp only [rxExec, bind_eq_ok, xdmaChannelC2hIrq_eq] at h
      obtain ⟨d, hd, hs'⟩ := h
      cases hs'
      split at hd
      · rcases serviceC2h_keeps s.dev with herr | ⟨d', hd', hframe, ht, -⟩
        · cases herr.symm.trans hd
        · obtain rfl : d' = d := Except.ok.inj (hd'.symm.trans hd)
          exact ⟨hframe, ht⟩
      · cases hd
        exact ⟨RxFrameEq.refl _, id⟩
  | poll budget =>
      simp only [rxExec] at h
      cases h
      obtain ⟨hframe, ht, -⟩ := axNetPoll_keeps allocOk s.dev budget
      exact ⟨hframe, fun hnone => ht.trans hnone⟩

theorem rxMachine_run_keeps {s s' : RxSys} {es : List RxEvent} (h : rxMachine.Run s es s') :
    RxFrameEq s.dev s'.dev :=
  h.invariant (I := fun u => RxFrameEq s.dev u.dev) (RxFrameEq.refl _)
    fun hu _ hex => hu.trans (rxExec_keeps hex).1

theorem NoTransferYet.of_frame {d d' : NetDev} (h : NoTransferYet d) (hframe : RxFrameEq d d')
    (ht : d.engineC2h.transfer = none → d'.engineC2h.transfer = none) : NoTransferYet d' := by
  refine ⟨fun hf c => ?_, fun hf => ?_⟩
  · rw [hframe.engineH2c]
    exact h.h2c (hframe.xdmaDescFlag.symm.trans hf) c
  · exact ht (h.c2h (hframe.xdmaDescFlag.symm.trans hf))

/-- One step of the system keeps the invariant if it meets the condition. -/
theorem SessionInv.step {s s' : RxSession} {ev : SessionEvent} (h : SessionInv s)
    (hen : sessionEnabled s ev) (hcond : sessionCond s ev) (hex : sessionExec s ev = .ok s') :
    SessionInv s' := by
  cases ev with
  | rx ev =>
      simp only [sessionExec, bind_eq_ok] at hex
      obtain ⟨r, hr, hs'⟩ := hex
      cases hs'
      obtain ⟨hframe, ht⟩ := rxExec_keeps hr
      refine ⟨h.noTransfer.of_frame hframe ht, fun hup => ?_⟩
      have hup' : s.dev.linkStart = true := hframe.linkStart.symm.trans hup
      obtain ⟨m, hm⟩ := h.up hup'
      obtain ⟨r', m', hr', hm'⟩ := RxInv.step (s := { dev := s.dev, received := s.received }) hm hen
        (hcond hup')
      obtain rfl : r' = r := Except.ok.inj (hr'.symm.trans hr)
      exact ⟨m', hm'⟩
  | ndoStop =>
      simp only [sessionExec] at hex
      cases hex
      exact ⟨(axNetClose_quiescent h.noTransfer).toNoTransferYet, fun hup => by cases hup⟩
  | ndoOpen =>
      simp only [sessionExec, bind_eq_ok] at hex
      obtain ⟨d, hd, hs'⟩ := hex
      cases hs'
      obtain ⟨hbase, -⟩ := axNetOpen_spec hd h.noTransfer
      have hflag : d.xdmaDescFlag = true := by
        rw [hbase]
        rfl
      exact ⟨NoTransferYet.of_opened hflag, fun _ => ⟨0, RxInv.start h.noTransfer hcond hd⟩⟩

/-- The current session is in order. -/
structure SessionSafe (s : RxSession) : Prop where
  /-- What the stack got since the open is a prefix of what the device received since then. -/
  delivered : ∃ l, s.dev.stack = s.base ++ l ∧ l <+: s.received
  /-- When `ax_net_rx` waits, it waits on the entry that the engine completes next. -/
  waits : ∀ addr, s.dev.engineC2h.hw.pc = some addr →
    (s.dev.engineC2h.cyclicResult s.dev.curRx).isCompleted = false →
      addr = descAddr s.dev.engineC2h s.dev.curRx

/-- **Sessions.** If every session starts fresh and the driver keeps up, then in every session the
stack gets only frames of that session, in order, and `ax_net_rx` waits where the device is. -/
theorem sessionMachine_safe {d : NetDev} (hnull : NoTransferYet d) (hdown : d.linkStart = false)
    {es : List SessionEvent} {s : RxSession}
    (hrun : (sessionMachine.restrict sessionCond).Run (sessionStart d) es s)
    (hup : s.dev.linkStart = true) : SessionSafe s := by
  have hstart : SessionInv (sessionStart d) :=
    ⟨hnull, fun h => by cases hdown.symm.trans h⟩
  have hinv : SessionInv s :=
    hrun.invariant hstart fun hu hen hex => hu.step hen.1 hen.2 hex
  obtain ⟨m, hm⟩ := hinv.up hup
  refine ⟨⟨s.received.take m, hm.stack, List.take_prefix _ _⟩, fun addr hpc hwait => ?_⟩
  obtain ⟨t, hr, hrec | hdone⟩ := hm.phase
  · rw [hrec.pc] at hpc
    cases hpc
    -- an unmarked entry at the cursor means that everything received has been passed on
    have hle := hm.le
    have hmeq : m = s.received.length := by
      by_contra hne
      have hlt : m < s.received.length := by omega
      rw [hm.curRx, (hm.full m _ le_rfl (List.getElem?_eq_getElem hlt)).marked] at hwait
      cases hwait
    rw [hm.curRx, hmeq]
  · rw [hdone.pc] at hpc
    cases hpc

/-- A probed device can be opened and then receives a frame into entry 0. -/
theorem probedDev_receive :
    ∃ d₁ d₂, axNetOpen probedDev = .ok d₁ ∧ c2hTransfer (frameOf 0) d₁ = .ok d₂ ∧
      d₁.engineC2h.hw.pc ≠ none ∧ d₁.linkStart = true ∧
      RxInv d₁.stack [List.replicate 60 0] 0 d₂ := by
  obtain ⟨d₁, hopen⟩ := axNetOpen_probedDev
  have hnull := probedDev_quiescent.toNoTransferYet
  have hpc := axNetOpen_pc_ne_none hopen hnull
  have hup : d₁.linkStart = true := by
    rw [(axNetOpen_spec hopen hnull).1]
    rfl
  obtain ⟨d₂, hd₂, -, h₂⟩ := (RxInv.start hnull probedDev_rxFresh hopen).complete hpc (frameOf 0)
  exact ⟨d₁, d₂, hopen, hd₂, hpc, hup, h₂⟩

theorem sessionExec_ndoOpen {s : RxSession} {d : NetDev} (h : axNetOpen s.dev = .ok d) :
    sessionExec s .ndoOpen = .ok { dev := d, received := [], base := d.stack } := by
  simp only [sessionExec, h]
  rfl

theorem sessionExec_complete {s : RxSession} {d : NetDev} {f : RxFrame}
    (h : c2hTransfer f s.dev = .ok d) : sessionExec s (.rx (.complete f)) =
      .ok { s with dev := d, received := s.received ++ [f.bytes] } := by
  simp only [sessionExec, rxExec, h]
  rfl

/-- Within a session the system is the receive ring. -/
theorem sessionMachine_run_rx {s s' : RxSys} {es : List RxEvent} (base : List (List UInt8))
    (h : (rxMachine.restrict rxCond).Run s es s') :
    (sessionMachine.restrict sessionCond).Run { dev := s.dev, received := s.received, base := base }
      (es.map .rx) { dev := s'.dev, received := s'.received, base := base } := by
  refine h.map (fun u : RxSys => (⟨u.dev, u.received, base⟩ : RxSession)) SessionEvent.rx
    (fun u ev (hen : rxEnabled u ev ∧ rxCond u ev) => ⟨hen.1, fun _ => hen.2⟩) ?_
  intro u ev v (hex : rxExec u ev = .ok v)
  show sessionExec ⟨u.dev, u.received, base⟩ (.rx ev) = .ok ⟨v.dev, v.received, base⟩
  simp only [sessionExec, hex]
  rfl

/-- A session in which the engine is restarted is in order. -/
theorem sessionMachine_safe_restart :
    ∃ u s, (sessionMachine.restrict sessionCond).Run (sessionStart probedDev)
        ([.ndoOpen] ++ (List.replicate 512 (.complete (frameOf 0))).map .rx) u ∧
      restartsC2h u.dev = true ∧ (sessionMachine.restrict sessionCond).Run u
        [.rx .irq, .rx (.complete (frameOf 1)), .rx (.poll 64)] s ∧
      s.dev.linkStart = true ∧ SessionSafe s := by
  obtain ⟨d', u, s, hopen, hfill, hyes, hrest⟩ := probedDev_restart
  have hnull := probedDev_quiescent.toNoTransferYet
  have hopened : (sessionMachine.restrict sessionCond).Run (sessionStart probedDev) [.ndoOpen]
      { dev := d', received := [], base := d'.stack } :=
    Machine.Run.single ⟨rfl, probedDev_rxFresh⟩ (sessionExec_ndoOpen hopen)
  have hrun₁ := hopened.append (sessionMachine_run_rx d'.stack hfill)
  have hrun₂ := sessionMachine_run_rx d'.stack hrest
  have hup : s.dev.linkStart = true := by
    rw [(rxMachine_run_keeps (hfill.append hrest).of_restrict).linkStart]
    show d'.linkStart = true
    rw [(axNetOpen_spec hopen hnull).1]
    rfl
  exact ⟨_, _, hrun₁, hyes, hrun₂, hup, sessionMachine_safe hnull rfl (hrun₁.append hrun₂) hup⟩

/-! ## Stale entries -/

/-- After an open that finds entry 0 marked, the first poll passes on what is in that entry. -/
theorem axNetPoll_after_open {d d' : NetDev} (hnull : NoTransferYet d)
    (hopen : axNetOpen d = .ok d') (hmark : (d.engineC2h.cyclicResult 0).isCompleted = true) :
    (axNetPoll allocOk d' 1).1.stack =
      d'.stack ++ [d.engineC2h.rxBytes 0 (d.engineC2h.cyclicResult 0).length] := by
  obtain ⟨hbase, -, -, desc, t, he, -⟩ := axNetOpen_spec hopen hnull
  have hcur : d'.curRx = 0 := by
    rw [hbase]
    rfl
  have hres : d'.engineC2h.cyclicResult = d.engineC2h.cyclicResult := by
    rw [he]
    rfl
  have hbuf : d'.engineC2h.rxBuff = d.engineC2h.rxBuff := by
    rw [he]
    rfl
  rw [axNetPoll_one (by rw [hcur, hres]; exact hmark), hcur, hres, XdmaEngine.rxBytes,
    XdmaEngine.rxBytes, hbuf]

/-- Receiving does not touch what an open depends on, apart from the C2H engine. -/
theorem Openable.of_frame {d d' : NetDev} (h : Openable d) (hframe : RxFrameEq d d')
    (hshut : d'.engineC2h.shutdownRequest = false) (ht : ∃ t, d'.engineC2h.transfer = some t) :
    Openable d' := by
  refine ⟨hframe.offline.trans h.online, ?_, hshut, fun hf => ?_, fun _ => ht⟩
  · rw [hframe.engineH2c]
    exact h.h2c
  · rw [hframe.engineH2c]
    exact h.h2cTransfer (hframe.xdmaDescFlag.symm.trans hf)

/-- **A stale frame.** A frame is received and not polled before the interface is closed; after the
next open it is passed to the stack, although the device has received nothing since. -/
theorem sessionMachine_stale :
    ∃ s, sessionMachine.Run (sessionStart probedDev)
        [.ndoOpen, .rx (.complete (frameOf 0)), .ndoStop, .ndoOpen, .rx (.poll 1)] s ∧
      s.dev.linkStart = true ∧ s.received = [] ∧
      s.dev.stack = s.base ++ [List.replicate 60 0] := by
  obtain ⟨d₁, d₂, hopen, hd₂, hpc, hup, h₂⟩ := probedDev_receive
  have hnull := probedDev_quiescent.toNoTransferYet
  have hbase := (axNetOpen_spec hopen hnull).1
  obtain ⟨hframe, -, -, hshut⟩ := c2hTransfer_keeps hd₂
  have hopened := probedDev_openable.opened hnull hopen
  obtain ⟨t, hr, -⟩ := h₂.phase
  have hopenable := hopened.of_frame hframe (hshut.trans hopened.c2h) ⟨t, hr.transfer_eq⟩
  obtain ⟨d₄, hopen₄⟩ := axNetOpen_ok hopenable.closed rfl
  have hflag : d₂.xdmaDescFlag = true := by
    rw [hframe.xdmaDescFlag, hbase]
    rfl
  have hnull₃ : NoTransferYet (axNetClose d₂) := NoTransferYet.of_opened hflag
  have hbase₄ := (axNetOpen_spec hopen₄ hnull₃).1
  have hstale := h₂.full 0 _ le_rfl rfl
  have hrun₁ : sessionMachine.Run (sessionStart probedDev) [.ndoOpen]
      { dev := d₁, received := [], base := d₁.stack } :=
    Machine.Run.single rfl (sessionExec_ndoOpen hopen)
  have hrun₂ : sessionMachine.Run (sessionStart probedDev) [.ndoOpen, .rx (.complete (frameOf 0))]
      { dev := d₂, received := [List.replicate 60 0], base := d₁.stack } :=
    hrun₁.snoc hpc (sessionExec_complete hd₂)
  have hrun₃ : sessionMachine.Run (sessionStart probedDev)
      [.ndoOpen, .rx (.complete (frameOf 0)), .ndoStop]
      { dev := axNetClose d₂, received := [List.replicate 60 0], base := d₁.stack } :=
    hrun₂.snoc (hframe.linkStart.trans hup) rfl
  have hrun₄ : sessionMachine.Run (sessionStart probedDev)
      [.ndoOpen, .rx (.complete (frameOf 0)), .ndoStop, .ndoOpen]
      { dev := d₄, received := [], base := d₄.stack } :=
    hrun₃.snoc rfl (sessionExec_ndoOpen hopen₄)
  have hnapi : d₄.napiEnabled = true := by
    rw [hbase₄]
    rfl
  refine ⟨{ dev := (axNetPoll allocOk d₄ 1).1, received := [], base := d₄.stack },
    hrun₄.snoc hnapi rfl, ?_, rfl, ?_⟩
  · show (axNetPoll allocOk d₄ 1).1.linkStart = true
    rw [(axNetPoll_keeps allocOk d₄ 1).1.linkStart, hbase₄]
    rfl
  · show (axNetPoll allocOk d₄ 1).1.stack = d₄.stack ++ _
    rw [axNetPoll_after_open hnull₃ hopen₄ hstale.marked]
    exact congrArg (fun f => d₄.stack ++ [f]) hstale.rxBytes

end Axm57104.Net
