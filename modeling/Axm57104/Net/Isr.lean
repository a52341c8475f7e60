import Axm57104.Common.Words
import Axm57104.Net.Tx

/-!
# The transmit part of `xdma_isr`

With MSI-X each H2C channel has a handler of its own; with one vector, `xdma_isr` serves both
channels in a loop over the requests it has read. The step of a channel is written out in each of
the three functions. Here the loop is translated as it stands and compared with the two handlers.

The loop keeps the requests not yet served in `mask` and ends when none is left. Serving a channel
clears its own bit only, so that the channels are served as the bits read at the start say.
-/

namespace Axm57104.Net

open Common Xdma

/-- The body of the loop for a channel whose interrupt fired. The source also reads
`completed_desc_count` here, and uses the value nowhere. -/
def isrServeH2c (channel : Fin XDMA_CHANNEL_NUM_MAX) (d : NetDev) : Except Fault NetDev :=
  let list := d.txList channel
  let engine := (d.engineH2c channel).engineStatusRead.xdmaEngineStop
  match engine.transfer with
  | none => .error .nullTransfer
  | some transfer => do
      let (list, engine) ←
        if list.curPktCount ≠ 0 then do
          let stopDesc := if list.cur = 0 then RX_DESC_NUM - 1 else list.cur - 1
          let engine := setControl engine stopDesc (DESC_MAGIC ||| XDMA_DESC_EOP ||| XDMA_DESC_STOPPED)
          let engine ← engine.engineStart
          let transfer :=
            { transfer with currentList := (transfer.currentList + 1) % DESC_LIST_NUM }
          let list := { list with cur := transfer.currentList * (TX_DESC_NUM / DESC_LIST_NUM) }
          let list := { list with curPktCount := 0 }
          let list := { list with idle := 0 }
          .ok (list, { engine with transfer := some transfer })
        else .ok ({ list with idle := 1 }, engine)
      let d := d.setTx channel list engine
      if d.stopQueueChannel = channel.val then
        let d := if d.queueStopped then { d with queueStopped := false } else d
        .ok { d with stopQueueChannel := 0xFF }
      else .ok d

/-- The loop of `xdma_isr` over the given H2C channels; `mask` are the requests left. -/
def isrH2cLoop : List (Fin XDMA_CHANNEL_NUM_MAX) → (mask : ℕ) → NetDev → Except Fault NetDev
  | [], _, d => .ok d
  | channel :: channels, mask, d =>
      if mask = 0 then .ok d
      else if irqBitmaskH2c channel &&& mask ≠ 0 then do
        let d ← isrServeH2c channel d
        isrH2cLoop channels (Nat.ldiff mask (irqBitmaskH2c channel)) d
      else isrH2cLoop channels mask d

/-- The H2C part of `xdma_isr`, for the value `chIrq` of `channel_int_request`. -/
def xdmaIsrH2c (chIrq : ℕ) (d : NetDev) : Except Fault NetDev :=
  let mask := chIrq &&& maskIrqH2c
  if mask = 0 then .ok d else isrH2cLoop (List.finRange XDMA_CHANNEL_NUM_MAX) mask d

/-! ## One channel -/

/-- The loop's body is the step of the handlers. -/
theorem isrServeH2c_eq (c : Fin XDMA_CHANNEL_NUM_MAX) (d : NetDev) :
    isrServeH2c c d = serviceH2c c d := by
  have hwake : ∀ d : NetDev, (if d.stopQueueChannel = c.val then
      (.ok { (if d.queueStopped then { d with queueStopped := false } else d) with
        stopQueueChannel := 0xFF } : Except Fault NetDev) else .ok d) = .ok (wakeQueue c d) := by
    intro d
    unfold wakeQueue
    split
    · cases hq : d.queueStopped
      · rw [if_neg Bool.false_ne_true, ← hq]
      · rw [if_pos rfl]
    · rfl
  cases ht : (d.engineH2c c).transfer with
  | none =>
      have ht' : (d.engineH2c c).engineStatusRead.xdmaEngineStop.transfer = none := ht
      simp only [isrServeH2c, serviceH2c, ht']
  | some t =>
      have ht' : (d.engineH2c c).engineStatusRead.xdmaEngineStop.transfer = some t := ht
      by_cases hcount : (d.txList c).curPktCount = 0
      · rw [serviceH2c_empty ht hcount]
        simp only [isrServeH2c, ht', hcount, ne_eq, not_true_eq_false, if_false]
        exact hwake _
      · have hrun : (d.engineH2c c).engineStatusRead.xdmaEngineStop.running = false := rfl
        rw [serviceH2c_launch ht hcount]
        simp only [isrServeH2c, ht', ne_eq, hcount, not_false_eq_true, if_true,
          engineStart_setControl ht', hrun, Bool.false_eq_true, if_false]
        exact hwake _

/-- The test of a channel's bit. -/
theorem irqBitmaskH2c_and_ne_zero_iff (c : Fin XDMA_CHANNEL_NUM_MAX) (mask : ℕ) :
    irqBitmaskH2c c &&& mask ≠ 0 ↔ mask.testBit c.val = true := by
  rw [irqBitmaskH2c, Nat.and_comm]
  exact and_two_pow_ne_zero_iff mask c.val

theorem testBit_and_maskIrqH2c (chIrq : ℕ) (c : Fin XDMA_CHANNEL_NUM_MAX) :
    (chIrq &&& maskIrqH2c).testBit c.val = chIrq.testBit c.val := by
  have hbit : maskIrqH2c.testBit c.val = true := by
    obtain rfl | rfl := channel_cases c <;> decide
  rw [Nat.testBit_and, hbit, Bool.and_true]

/-- Channel `c` is served if its bit is set. -/
def serveIf (mask : ℕ) (c : Fin XDMA_CHANNEL_NUM_MAX) (d : NetDev) : Except Fault NetDev :=
  if mask.testBit c.val then serviceH2c c d else .ok d

theorem serveIf_congr {mask mask' : ℕ} {c : Fin XDMA_CHANNEL_NUM_MAX} (d : NetDev)
    (h : mask.testBit c.val = mask'.testBit c.val) : serveIf mask c d = serveIf mask' c d := by
  rw [serveIf, serveIf, h]

/-- The handlers test the same bit, whatever else they have read. -/
theorem handleH2c_eq_serveIf (c : Fin XDMA_CHANNEL_NUM_MAX) (chIrq : ℕ) (d : NetDev) :
    handleH2c c chIrq d = serveIf chIrq c d := by
  have hbit := irqBitmaskH2c_and_ne_zero_iff c (chIrq &&& maskIrqH2c)
  rw [testBit_and_maskIrqH2c] at hbit
  simp only [handleH2c, serveIf]
  by_cases h : chIrq.testBit c.val = true
  · have hne : chIrq &&& maskIrqH2c ≠ 0 := by
      intro h0
      rw [h0, Nat.and_zero] at hbit
      exact hbit.mpr h rfl
    rw [if_neg hne, if_pos (hbit.mpr h), if_pos h]
  · rw [if_neg h, if_neg (mt hbit.mp h), ite_self]

/-! ## The loop -/

/-- No request is left: nothing more is served. -/
theorem foldlM_serveIf_zero (cs : List (Fin XDMA_CHANNEL_NUM_MAX)) (d : NetDev) :
    cs.foldlM (fun d c => serveIf 0 c d) d = .ok d := by
  induction cs with
  | nil => rfl
  | cons c cs ih =>
      have hnone : serveIf 0 c d = .ok d := by
        rw [serveIf, Nat.zero_testBit, if_neg Bool.false_ne_true]
      rw [List.foldlM_cons, hnone]
      exact ih

/-- A bit that is cleared is not tested again. -/
theorem foldlM_serveIf_congr {mask mask' : ℕ} {cs : List (Fin XDMA_CHANNEL_NUM_MAX)}
    (h : ∀ c ∈ cs, mask.testBit c.val = mask'.testBit c.val) (d : NetDev) :
    cs.foldlM (fun d c => serveIf mask c d) d = cs.foldlM (fun d c => serveIf mask' c d) d := by
  induction cs generalizing d with
  | nil => rfl
  | cons c cs ih =>
      rw [List.foldlM_cons, List.foldlM_cons, serveIf_congr d (h c List.mem_cons_self)]
      exact congrArg _ (funext fun d' => ih (fun c' hc' => h c' (List.mem_cons_of_mem _ hc')) d')

/-- The loop serves each channel as its bit in the first mask says. -/
theorem isrH2cLoop_eq {cs : List (Fin XDMA_CHANNEL_NUM_MAX)} (hcs : cs.Nodup) (mask : ℕ)
    (d : NetDev) : isrH2cLoop cs mask d = cs.foldlM (fun d c => serveIf mask c d) d := by
  induction cs generalizing mask d with
  | nil => rfl
  | cons c cs ih =>
      obtain ⟨hc, hcs⟩ := List.nodup_cons.mp hcs
      simp only [isrH2cLoop, List.foldlM_cons]
      by_cases hmask : mask = 0
      · subst hmask
        rw [if_pos rfl]
        exact (foldlM_serveIf_zero (c :: cs) d).symm
      rw [if_neg hmask]
      by_cases hbit : irqBitmaskH2c c &&& mask ≠ 0
      · have htest := (irqBitmaskH2c_and_ne_zero_iff c mask).mp hbit
        rw [if_pos hbit, serveIf, if_pos htest, isrServeH2c_eq]
        refine congrArg _ (funext fun d' => ?_)
        rw [ih hcs]
        refine foldlM_serveIf_congr (fun c' hc' => ?_) d'
        exact testBit_ldiff_two_pow fun h => hc (Fin.ext h ▸ hc')
      · rw [if_neg hbit, serveIf, if_neg (mt (irqBitmaskH2c_and_ne_zero_iff c mask).mpr hbit), ih hcs]
        rfl

/-- The two channels one after the other. -/
theorem xdmaIsrH2c_eq_serveIf (chIrq : ℕ) (d : NetDev) :
    xdmaIsrH2c chIrq d = (do let d ← serveIf chIrq 0 d; serveIf chIrq 1 d) := by
  have hfold : xdmaIsrH2c chIrq d = (List.finRange XDMA_CHANNEL_NUM_MAX).foldlM
      (fun d c => serveIf (chIrq &&& maskIrqH2c) c d) d := by
    simp only [xdmaIsrH2c]
    split
    · rename_i hmask
      rw [hmask, foldlM_serveIf_zero]
    · exact isrH2cLoop_eq (List.nodup_finRange _) _ d
  rw [hfold, foldlM_serveIf_congr fun c _ => testBit_and_maskIrqH2c chIrq c]
  show (serveIf chIrq 0 d >>= fun d => serveIf chIrq 1 d >>= fun d => pure d) = _
  simp only [bind_pure]

/-- Serving channel 0 leaves the request line of channel 1 as it is. -/
theorem testBit_one_of_serveIf {chIrq : ℕ} {d d' : NetDev} (h : serveIf chIrq 0 d = .ok d') :
    (channelIntRequest d').testBit 1 = (channelIntRequest d).testBit 1 := by
  have hbit : ∀ d : NetDev, (channelIntRequest d).testBit 1 = intRequest (d.engineH2c 1) := by
    intro d
    unfold channelIntRequest
    cases intRequest (d.engineH2c 0) <;> cases intRequest (d.engineH2c 1) <;>
      cases intRequest d.engineC2h <;> decide
  have hsame : d'.engineH2c 1 = d.engineH2c 1 := by
    rw [serveIf] at h
    split at h
    · obtain herr | ⟨t, d'', list, e, hok, -, hw, -⟩ := serviceH2c_ok h
      · cases herr
      · cases hok
        have hne : (1 : Fin XDMA_CHANNEL_NUM_MAX) ≠ 0 := by decide
        simp only [hw.engineH2c, NetDev.setTx, Function.update_of_ne hne]
    · cases h
      rfl
  rw [hbit, hbit, hsame]

/-- **One vector or several.** For every state of the rings and every value of
`channel_int_request`, the H2C part of `xdma_isr` does what `xdma_channel_H2C_irq` and then
`xdma_channel_H2C_PTP_irq` do, each run if its channel's bit is set; also when each of them reads the
requests again. -/
theorem xdmaIsrH2c_eq_handlers (chIrq : ℕ) (d : NetDev) :
    xdmaIsrH2c chIrq d =
        ((if chIrq.testBit 0 then xdmaChannelH2cIrq chIrq d else .ok d) >>= fun d =>
          if chIrq.testBit 1 then xdmaChannelH2cPtpIrq chIrq d else .ok d) ∧
      xdmaIsrH2c (channelIntRequest d) d =
        (xdmaChannelH2cIrq (channelIntRequest d) d >>= fun d =>
          xdmaChannelH2cPtpIrq (channelIntRequest d) d) := by
  have hrun : ∀ (c : Fin XDMA_CHANNEL_NUM_MAX) (chIrq : ℕ) (d : NetDev),
      (if chIrq.testBit c.val then handleH2c c chIrq d else .ok d) = serveIf chIrq c d := by
    intro c chIrq d
    rw [handleH2c_eq_serveIf, serveIf]
    split <;> rfl
  constructor
  · rw [xdmaIsrH2c_eq_serveIf, ← hrun 0]
    simp only [← hrun 1]
    rfl
  · rw [xdmaIsrH2c_eq_serveIf]
    simp only [xdmaChannelH2cIrq, xdmaChannelH2cPtpIrq, handleH2c_eq_serveIf]
    cases h : serveIf (channelIntRequest d) 0 d with
    | error f => rfl
    | ok d' => exact (serveIf_congr d' (testBit_one_of_serveIf h)).symm

end Axm57104.Net
