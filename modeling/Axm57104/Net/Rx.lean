import Axm57104.Net.State

/-!
# The receive path

The device writes each frame into the buffer of the next entry and marks the entry in
`cyclic_result`. The C2H interrupt restarts the engine on the other half of the ring once it has
stopped, and schedules NAPI; `ax_net_rx` takes marked entries from `cur_rx` on, hands a copy of each
frame to the stack and clears the mark. Nothing else couples the two sides.
-/

namespace Axm57104.Net

open Common Xdma

/-! ## `ax_net_rx` -/

/-- The body of the loop of `ax_net_rx` once the `skb` is allocated. -/
def axNetRxFrame (d : NetDev) (entry : ℕ) : NetDev :=
  let length := (d.engineC2h.cyclicResult entry).length
  { d with
    stack := d.stack ++ [d.engineC2h.rxBytes entry length]
    rxBytes := d.rxBytes + UInt64.ofNat length
    rxPackets := d.rxPackets + 1
    curRxPktCount := d.curRxPktCount + 1
    engineC2h := { d.engineC2h with
      cyclicResult := Function.update d.engineC2h.cyclicResult entry { status := 0, length := 0 } } }

/-- The loop of `ax_net_rx` with `rest` iterations of the budget left. `alloc i` says whether
`napi_alloc_skb` succeeds for the `i`-th frame of this call. -/
def axNetRxLoop (alloc : ℕ → Bool) : (rest : ℕ) → NetDev → (entry workDone : ℕ) → NetDev × ℕ
  | 0, d, entry, workDone => ({ d with curRx := entry }, workDone)
  | rest + 1, d, entry, workDone =>
      if (d.engineC2h.cyclicResult entry).isCompleted ∧ alloc workDone then
        axNetRxLoop alloc rest (axNetRxFrame d entry) ((entry + 1) % RX_DESC_NUM) (workDone + 1)
      else ({ d with curRx := entry }, workDone)

/-- `ax_net_rx`; the second component is `*work_done` on return. -/
def axNetRx (alloc : ℕ → Bool) (d : NetDev) (workDone budget : ℕ) : NetDev × ℕ :=
  axNetRxLoop alloc (budget - workDone) d d.curRx workDone

/-- `ax_net_poll`. -/
def axNetPoll (alloc : ℕ → Bool) (d : NetDev) (budget : ℕ) : NetDev × ℕ :=
  let r := axNetRx alloc d 0 budget
  ({ r.1 with napiScheduled := if r.2 < budget then false else r.1.napiScheduled }, r.2)

/-! ## The C2H interrupt -/

/-- The branch of `xdma_channel_C2H_irq` that restarts the engine is taken. -/
def restartsC2h (d : NetDev) : Bool :=
  d.engineC2h.statusStopped ||
    RX_DESC_NUM / DESC_LIST_NUM == d.engineC2h.hw.completedDescCount

/-- What `xdma_channel_C2H_irq` does once it has found that the engine's interrupt fired. -/
def serviceC2h (d : NetDev) : Except Fault NetDev :=
  let e := d.engineC2h.engineStatusRead
  if restartsC2h d then
    match e.transfer with
    | none => .error .nullTransfer
    | some t =>
        let t := { t with currentList := (t.currentList + 1) % DESC_LIST_NUM }
        match ({ e.xdmaEngineStop with transfer := some t } : XdmaEngine).engineStart with
        | .error f => .error f
        | .ok e => .ok { d with engineC2h := e, napiScheduled := true }
  else .ok { d with engineC2h := e, napiScheduled := true }

/-- `xdma_channel_C2H_irq`. -/
def xdmaChannelC2hIrq (chIrq : ℕ) (d : NetDev) : Except Fault NetDev :=
  let mask := chIrq &&& maskIrqC2h
  if mask = 0 then .ok d
  else if irqBitmaskC2h &&& mask ≠ 0 then serviceC2h d
  else .ok d

/-- The handler services the engine exactly when the engine requests an interrupt. -/
theorem xdmaChannelC2hIrq_eq (d : NetDev) :
    xdmaChannelC2hIrq (channelIntRequest d) d =
      if intRequest d.engineC2h then serviceC2h d else .ok d := by
  have hbit := (channelIntRequest_and d).2.2
  simp only [xdmaChannelC2hIrq]
  by_cases hreq : intRequest d.engineC2h = true
  · have hne := hbit.mpr hreq
    have hmask : channelIntRequest d &&& maskIrqC2h ≠ 0 := by
      intro h0
      rw [h0, Nat.and_zero] at hne
      exact hne rfl
    rw [if_neg hmask, if_pos hne, if_pos hreq]
  · have heq : irqBitmaskC2h &&& (channelIntRequest d &&& maskIrqC2h) = 0 := by
      by_contra hne
      exact hreq (hbit.mp hne)
    rw [if_neg hreq, heq, if_neg (not_not.mpr rfl), ite_self]

/-- The device receives `f`. -/
def c2hTransfer (f : RxFrame) (d : NetDev) : Except Fault NetDev :=
  match d.engineC2h.c2hStep f with
  | .error fault => .error fault
  | .ok e => .ok { d with engineC2h := e }

/-! ## What stays as it is -/

/-- The part of a device that the receive path does not write. -/
structure RxFrameEq (d d' : NetDev) : Prop where
  linkStart : d'.linkStart = d.linkStart
  xdmaDescFlag : d'.xdmaDescFlag = d.xdmaDescFlag
  offline : d'.offline = d.offline
  txList : d'.txList = d.txList
  engineH2c : d'.engineH2c = d.engineH2c
  queueStopped : d'.queueStopped = d.queueStopped

theorem RxFrameEq.refl (d : NetDev) : RxFrameEq d d := ⟨rfl, rfl, rfl, rfl, rfl, rfl⟩

theorem RxFrameEq.trans {d₁ d₂ d₃ : NetDev} (h : RxFrameEq d₁ d₂) (h' : RxFrameEq d₂ d₃) :
    RxFrameEq d₁ d₃ :=
  ⟨h'.linkStart.trans h.linkStart, h'.xdmaDescFlag.trans h.xdmaDescFlag, h'.offline.trans h.offline,
    h'.txList.trans h.txList, h'.engineH2c.trans h.engineH2c, h'.queueStopped.trans h.queueStopped⟩

theorem c2hTransfer_cases (f : RxFrame) (d : NetDev) :
    c2hTransfer f d = .error .badFetch ∨ ∃ d', c2hTransfer f d = .ok d' ∧ RxFrameEq d d' ∧
      d'.engineC2h.transfer = d.engineC2h.transfer ∧
      d'.engineC2h.running = d.engineC2h.running ∧
      d'.engineC2h.shutdownRequest = d.engineC2h.shutdownRequest := by
  unfold c2hTransfer
  rcases d.engineC2h.c2hStep_cases f with herr | ⟨rxBuff, result, hw, hok⟩
  · rw [herr]
    exact .inl rfl
  · rw [hok]
    exact .inr ⟨_, rfl, ⟨rfl, rfl, rfl, rfl, rfl, rfl⟩, rfl, rfl, rfl⟩

theorem c2hTransfer_keeps {d d' : NetDev} {f : RxFrame} (h : c2hTransfer f d = .ok d') :
    RxFrameEq d d' ∧ d'.engineC2h.transfer = d.engineC2h.transfer ∧
      d'.engineC2h.running = d.engineC2h.running ∧
      d'.engineC2h.shutdownRequest = d.engineC2h.shutdownRequest := by
  rcases c2hTransfer_cases f d with herr | ⟨d₁, hok, hkeeps⟩
  · cases herr.symm.trans h
  · cases hok.symm.trans h
    exact hkeeps

theorem axNetRxLoop_keeps (alloc : ℕ → Bool) (rest : ℕ) :
    ∀ d entry workDone, RxFrameEq d (axNetRxLoop alloc rest d entry workDone).1 ∧
      (axNetRxLoop alloc rest d entry workDone).1.engineC2h.transfer = d.engineC2h.transfer ∧
      (axNetRxLoop alloc rest d entry workDone).1.engineC2h.running = d.engineC2h.running := by
  induction rest with
  | zero => exact fun d entry workDone => ⟨⟨rfl, rfl, rfl, rfl, rfl, rfl⟩, rfl, rfl⟩
  | succ rest ih =>
      intro d entry workDone
      unfold axNetRxLoop
      split
      · obtain ⟨hframe, hkeep⟩ :=
          ih (axNetRxFrame d entry) ((entry + 1) % RX_DESC_NUM) (workDone + 1)
        exact ⟨⟨hframe.linkStart, hframe.xdmaDescFlag, hframe.offline, hframe.txList,
          hframe.engineH2c, hframe.queueStopped⟩, hkeep⟩
      · exact ⟨⟨rfl, rfl, rfl, rfl, rfl, rfl⟩, rfl, rfl⟩

theorem axNetPoll_keeps (alloc : ℕ → Bool) (d : NetDev) (budget : ℕ) :
    RxFrameEq d (axNetPoll alloc d budget).1 ∧
      (axNetPoll alloc d budget).1.engineC2h.transfer = d.engineC2h.transfer ∧
      (axNetPoll alloc d budget).1.engineC2h.running = d.engineC2h.running := by
  obtain ⟨hframe, hkeep⟩ := axNetRxLoop_keeps alloc (budget - 0) d d.curRx 0
  exact ⟨⟨hframe.linkStart, hframe.xdmaDescFlag, hframe.offline, hframe.txList,
    hframe.engineH2c, hframe.queueStopped⟩, hkeep⟩

/-- The interrupt stops the engine before it starts it, and starts only an engine with a
transfer. -/
theorem serviceC2h_keeps (d : NetDev) :
    serviceC2h d = .error .nullTransfer ∨ ∃ d', serviceC2h d = .ok d' ∧ RxFrameEq d d' ∧
      (d.engineC2h.transfer = none → d'.engineC2h.transfer = none) ∧
      (restartsC2h d = false → d'.engineC2h.running = d.engineC2h.running) := by
  unfold serviceC2h
  cases hyes : restartsC2h d with
  | true =>
      cases ht : d.engineC2h.transfer with
      | none =>
          have ht' : d.engineC2h.engineStatusRead.transfer = none := ht
          simp only [if_true, ht', true_or]
      | some t =>
          have ht' : d.engineC2h.engineStatusRead.transfer = some t := ht
          obtain ⟨e', he'⟩ := XdmaEngine.engineStart_ok
            (e := { d.engineC2h.engineStatusRead.xdmaEngineStop with
              transfer := some { t with currentList := (t.currentList + 1) % DESC_LIST_NUM } }) rfl
          right
          simp only [if_true, ht', he', Except.ok.injEq, exists_eq_left']
          exact ⟨⟨rfl, rfl, rfl, rfl, rfl, rfl⟩, nofun, nofun⟩
  | false =>
      right
      simp only [Bool.false_eq_true, if_false, Except.ok.injEq, exists_eq_left']
      exact ⟨⟨rfl, rfl, rfl, rfl, rfl, rfl⟩, id, fun _ => rfl⟩

end Axm57104.Net
