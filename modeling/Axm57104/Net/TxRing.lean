import Axm57104.Common.Machine
import Axm57104.Net.TxChannel

/-!
# The transmit ring over whole runs

The stack, the two H2C engines and the two completion interrupts act on the transmit rings in any
order: `txMachine`. The channels share only the netdev queue and the record of who stopped it, so
the invariant of the system is the invariant of each channel, and that a channel whose half is full
has stopped the queue.
-/

namespace Axm57104.Net

open Common Xdma

/-! ## The system -/

structure TxSys where
  dev : NetDev
  log : Fin XDMA_CHANNEL_NUM_MAX → TxLog

/-- Channel `c` accepts `frame`. -/
def TxSys.accept (s : TxSys) (c : Fin XDMA_CHANNEL_NUM_MAX) (frame : List UInt8) : TxSys :=
  { s with log := Function.update s.log c ((s.log c).accept frame) }

/-- The system after a step of the device or the driver to `d`. -/
def TxSys.observe (s : TxSys) (d : NetDev) : TxSys where
  dev := d
  log c := (s.log c).observe (s.dev.engineH2c c) (d.engineH2c c)

inductive TxEvent
  | xmit (skb : TxSkb)
  | engine (c : Fin XDMA_CHANNEL_NUM_MAX)
  | irq (c : Fin XDMA_CHANNEL_NUM_MAX)

/-- The stack sends only while the queue is not stopped; an engine works only while it runs; an
interrupt comes only after the engine has stopped by itself. -/
def txEnabled (s : TxSys) : TxEvent → Prop
  | .xmit _ => s.dev.queueStopped = false
  | .engine c => (s.dev.engineH2c c).hw.pc ≠ none
  | .irq c => lastRunStopped (s.dev.engineH2c c)

def txExec (s : TxSys) : TxEvent → Except Fault TxSys
  | .xmit skb => do
      let frame ← padShort skb
      let d ← axNetStartXmit s.dev skb
      .ok ((s.accept skb.index frame).observe d)
  | .engine c => do
      let d ← h2cTransfer c s.dev
      .ok (s.observe d)
  | .irq c => do
      let d ← h2cIrq c (channelIntRequest s.dev) s.dev
      .ok (s.observe d)

def txMachine : Machine TxSys TxEvent Fault where
  enabled := txEnabled
  exec := txExec

/-- The system right after `ax_net_open` has left the device in `d`. -/
def txStart (d : NetDev) : TxSys where
  dev := d
  log _ := { accepted := [], batches := [], fresh := [] }

/-! ## The system invariant -/

/-- Both channels are in order, and a channel whose half is full has stopped the queue. -/
structure TxInv (old : Fin XDMA_CHANNEL_NUM_MAX → List HwRun) (s : TxSys) : Prop where
  chan : ∀ c, ChanInv (old c) (s.dev.txList c) (s.dev.engineH2c c) (s.log c)
  full : ∀ c, (s.log c).fresh.length = 512 →
    s.dev.queueStopped = true ∧ s.dev.stopQueueChannel = c.val

section System

variable {old : Fin XDMA_CHANNEL_NUM_MAX → List HwRun} {s : TxSys} {d : NetDev}
  {c : Fin XDMA_CHANNEL_NUM_MAX} {list : AxTxList} {e : XdmaEngine} {t : XdmaTransfer}

/-- A step that writes back channel `c`, and the queue state with it, keeps the invariant if it
keeps the channel's own part and does not wake a queue that the other channel has stopped. -/
theorem TxInv.write (hinv : TxInv old s) (g : TxLog)
    (hlist : d.txList = (s.dev.setTx c list e).txList)
    (hengine : d.engineH2c = (s.dev.setTx c list e).engineH2c)
    (hchan : ChanInv (old c) list e (g.observe (s.dev.engineH2c c) e))
    (hfull : (g.observe (s.dev.engineH2c c) e).fresh.length = 512 →
      d.queueStopped = true ∧ d.stopQueueChannel = c.val)
    (hother : ∀ c', c' ≠ c → (s.log c').fresh.length = 512 →
      d.queueStopped = true ∧ d.stopQueueChannel = c'.val) :
    TxInv old (({ s with log := Function.update s.log c g } : TxSys).observe d) := by
  have hc : d.engineH2c c = e := by
    rw [hengine]
    exact Function.update_self _ _ _
  have hlogc : (({ s with log := Function.update s.log c g } : TxSys).observe d).log c =
      g.observe (s.dev.engineH2c c) e := by
    simp only [TxSys.observe, hc, Function.update_self]
  have hlog' : ∀ c', c' ≠ c →
      (({ s with log := Function.update s.log c g } : TxSys).observe d).log c' = s.log c' := by
    intro c' hne
    have hsame : d.engineH2c c' = s.dev.engineH2c c' := by
      rw [hengine]
      exact Function.update_of_ne hne _ _
    simp only [TxSys.observe, hsame, Function.update_of_ne hne]
    exact TxLog.observe_eq _ rfl
  refine ⟨fun c' => ?_, fun c' hlen => ?_⟩
  · show ChanInv (old c') (d.txList c') (d.engineH2c c') _
    rcases eq_or_ne c' c with rfl | hne
    · rw [hlogc, hc, hlist]
      simpa only [NetDev.setTx, Function.update_self] using hchan
    · rw [hlog' c' hne, hlist, hengine]
      simpa only [NetDev.setTx, Function.update_of_ne hne] using hinv.chan c'
  · rcases eq_or_ne c' c with rfl | hne
    · rw [hlogc] at hlen
      exact hfull hlen
    · rw [hlog' c' hne] at hlen
      exact hother c' hne hlen

/-- The same for a step that accepts no frame. -/
theorem TxInv.write' (hinv : TxInv old s)
    (hlist : d.txList = (s.dev.setTx c list e).txList)
    (hengine : d.engineH2c = (s.dev.setTx c list e).engineH2c)
    (hchan : ChanInv (old c) list e ((s.log c).observe (s.dev.engineH2c c) e))
    (hfull : ((s.log c).observe (s.dev.engineH2c c) e).fresh.length = 512 →
      d.queueStopped = true ∧ d.stopQueueChannel = c.val)
    (hother : ∀ c', c' ≠ c → (s.log c').fresh.length = 512 →
      d.queueStopped = true ∧ d.stopQueueChannel = c'.val) : TxInv old (s.observe d) := by
  have hwrite := hinv.write (s.log c) hlist hengine hchan hfull hother
  rwa [Function.update_eq_self] at hwrite

/-- The engine of a channel sends a frame. -/
theorem TxInv.engine (hinv : TxInv old s) (hpc : (s.dev.engineH2c c).hw.pc ≠ none) :
    ∃ s', txExec s (.engine c) = .ok s' ∧ TxInv old s' := by
  obtain ⟨hw, hstep, hlen, hchan⟩ := (hinv.chan c).engine hpc
  set e' : XdmaEngine := { s.dev.engineH2c c with hw := hw }
  have hsame : (s.log c).observe (s.dev.engineH2c c) e' = s.log c := TxLog.observe_eq _ hlen
  refine ⟨s.observe { s.dev with engineH2c := Function.update s.dev.engineH2c c e' }, ?_,
    hinv.write' (Function.update_eq_self c s.dev.txList).symm rfl ?_ ?_ ?_⟩
  · simp only [txExec, h2cTransfer, hstep]
    rfl
  · rw [hsame]
    exact hchan
  · rw [hsame]
    exact hinv.full c
  · exact fun c' _ => hinv.full c'

/-- The completion interrupt of a channel whose engine has stopped. -/
theorem TxInv.irq (hinv : TxInv old s) (hstop : lastRunStopped (s.dev.engineH2c c)) :
    ∃ s', txExec s (.irq c) = .ok s' ∧ TxInv old s' := by
  have hexec : ∀ d, h2cIrq c (channelIntRequest s.dev) s.dev = .ok d →
      txExec s (.irq c) = .ok (s.observe d) := by
    intro d hd
    simp only [txExec, hd]
    rfl
  rw [h2cIrq_eq] at hexec
  by_cases hreq : intRequest (s.dev.engineH2c c) = true
  · rw [if_pos hreq] at hexec
    obtain ⟨t, hr, -⟩ := hinv.chan c
    have hother : ∀ list e c', c' ≠ c → (s.log c').fresh.length = 512 →
        (wakeQueue c (s.dev.setTx c list e)).queueStopped = true ∧
          (wakeQueue c (s.dev.setTx c list e)).stopQueueChannel = c'.val :=
      fun list e c' hne hlen => wakeQueue_other hne (hinv.full c' hlen)
    by_cases hcount : (s.dev.txList c).curPktCount = 0
    · have hsame : (s.log c).observe (s.dev.engineH2c c)
          (s.dev.engineH2c c).engineStatusRead.xdmaEngineStop = s.log c := TxLog.observe_eq _ rfl
      refine ⟨_, hexec _ (serviceH2c_empty hr.transfer_eq hcount), hinv.write'
        (WritesBack.wakeQueue _ _ _ _).txList (WritesBack.wakeQueue _ _ _ _).engineH2c ?_ ?_ (hother _ _)⟩
      · rw [hsame]
        exact (hinv.chan c).irq_empty hstop hcount
      · -- a channel with nothing stored is not full
        rw [hsame]
        intro hlen
        obtain ⟨t', -, -, -, hi | hb⟩ := hinv.chan c
        · rw [hi.fresh] at hlen
          cases hlen
        · rw [hb.count, hlen] at hcount
          cases hcount
    · refine ⟨_, hexec _ (serviceH2c_launch hr.transfer_eq hcount), hinv.write'
        (WritesBack.wakeQueue _ _ _ _).txList (WritesBack.wakeQueue _ _ _ _).engineH2c
        ((hinv.chan c).irq_launch hstop hcount hr.transfer_eq) ?_ (hother _ _)⟩
      rw [TxLog.observe_launched _ (s.dev.engineH2c c)
        (setControl (s.dev.engineH2c c).engineStatusRead.xdmaEngineStop _ _) _ rfl]
      intro hlen
      cases hlen
  · rw [if_neg hreq] at hexec
    refine ⟨_, hexec _ rfl, ?_⟩
    have hsame : s.observe s.dev = s := by
      simp only [TxSys.observe, TxLog.observe_eq _ rfl]
    rwa [hsame]

/-! ### `ax_net_start_xmit` -/

theorem txExec_xmit {skb : TxSkb} {frame : List UInt8} (hpad : padShort skb = .ok frame)
    (hd : xmitFrame s.dev skb.index frame (length_padShort hpad) = .ok d) :
    txExec s (.xmit skb) = .ok ((s.accept skb.index frame).observe d) := by
  simp only [txExec, hpad, axNetStartXmit_eq hpad]
  simp only [bind, Except.bind, hd]

/-- The stack sends a frame. -/
theorem TxInv.xmit (hinv : TxInv old s) {skb : TxSkb} {frame : List UInt8}
    (hq : s.dev.queueStopped = false) (hpad : padShort skb = .ok frame) :
    ∃ s', txExec s (.xmit skb) = .ok s' ∧ TxInv old s' := by
  have hnotFull : ∀ c', (s.log c').fresh.length ≠ 512 := by
    intro c' hlen
    rw [(hinv.full c' hlen).1] at hq
    cases hq
  obtain ⟨t, hr, hcur, hacc, hi | hb⟩ := hinv.chan skb.index
  · refine ⟨_, txExec_xmit hpad (xmitFrame_idle _ hr.transfer_eq hi.idle hi.running),
      hinv.write _ rfl rfl (hi.xmit hcur hr hacc _) ?_ (fun c' _ hlen => absurd hlen (hnotFull c'))⟩
    rw [TxLog.observe_launched _ (s.dev.engineH2c skb.index)
      (setControl (storeEntry (s.dev.engineH2c skb.index) _ _ _) _ _) _ rfl]
    intro hlen
    cases hlen
  · have hlt : (s.log skb.index).fresh.length < 512 :=
      lt_of_le_of_ne hb.le (hnotFull skb.index)
    obtain ⟨d', hd', hw, hstop⟩ :=
      xmitFrame_busy (length_padShort hpad) hr.transfer_eq (by rw [hb.idle]; omega)
    have hsame : ((s.log skb.index).accept frame).observe (s.dev.engineH2c skb.index)
        (setControl (storeEntry (s.dev.engineH2c skb.index) (s.dev.txList skb.index).cur frame
          (length_padShort hpad)) (s.dev.txList skb.index).cur DESC_MAGIC) =
        (s.log skb.index).accept frame := TxLog.observe_eq _ rfl
    refine ⟨_, txExec_xmit hpad hd', hinv.write _ hw.txList hw.engineH2c ?_ ?_
      (fun c' _ hlen => absurd hlen (hnotFull c'))⟩
    · rw [hsame]
      exact hb.xmit hcur hr hacc hlt _
    · rw [hsame]
      intro hlen
      refine hstop ?_
      rw [TxLog.accept, List.length_append, List.length_singleton] at hlen
      rw [hb.cur_eq hcur hlt]
      omega

/-! ### From one batch to the next -/

/-- A frame for a busy channel is stored, and the engine is left alone. -/
theorem TxInv.exec_busy (hinv : TxInv old s) {skb : TxSkb} {frame : List UInt8}
    (hpad : padShort skb = .ok frame) (hbusy : (s.dev.txList skb.index).idle ≠ 1) :
    ∃ s', txExec s (.xmit skb) = .ok s' ∧ s'.log skb.index = (s.log skb.index).accept frame ∧
      (s'.dev.engineH2c skb.index).hw = (s.dev.engineH2c skb.index).hw := by
  obtain ⟨t, hr, -⟩ := hinv.chan skb.index
  obtain ⟨d, hd, hw, -⟩ := xmitFrame_busy (length_padShort hpad) hr.transfer_eq hbusy
  have hhw : (d.engineH2c skb.index).hw = (s.dev.engineH2c skb.index).hw := by
    rw [hw.engineH2c]
    simp only [NetDev.setTx, Function.update_self]
    rfl
  refine ⟨_, txExec_xmit hpad hd, ?_, hhw⟩
  refine (TxLog.observe_eq _ (congrArg (fun hw => hw.runs.length) hhw)).trans ?_
  exact Function.update_self _ _ _

/-- The engine sends the only frame of its batch, and requests the interrupt. -/
theorem TxInv.exec_single (hinv : TxInv old s) {f : List UInt8} {bs : List (List (List UInt8))}
    (hpc : (s.dev.engineH2c c).hw.pc ≠ none) (hg : (s.log c).batches = [f] :: bs) :
    ∃ s', txExec s (.engine c) = .ok s' ∧ s'.log c = s.log c ∧
      lastRunStopped (s'.dev.engineH2c c) ∧ intRequest (s'.dev.engineH2c c) = true := by
  obtain ⟨hw, hstep, hlen, hstop, hreq⟩ := (hinv.chan c).engine_single hpc hg
  set e : XdmaEngine := { s.dev.engineH2c c with hw := hw }
  have hself : Function.update s.dev.engineH2c c e c = e := Function.update_self _ _ _
  refine ⟨s.observe { s.dev with engineH2c := Function.update s.dev.engineH2c c e }, ?_,
    TxLog.observe_eq _ ((congrArg (fun e => e.hw.runs.length) hself).trans hlen), ?_, ?_⟩
  · simp only [txExec, h2cTransfer, hstep]
    rfl
  · show lastRunStopped (Function.update s.dev.engineH2c c e c)
    rwa [hself]
  · show intRequest (Function.update s.dev.engineH2c c e c) = true
    rwa [hself]

/-- The interrupt restarts the engine on what has been stored since. -/
theorem TxInv.exec_restart (hinv : TxInv old s) (hreq : intRequest (s.dev.engineH2c c) = true)
    (hfresh : (s.log c).fresh ≠ []) :
    ∃ s', txExec s (.irq c) = .ok s' ∧
      s'.log c = { s.log c with batches := (s.log c).fresh :: (s.log c).batches, fresh := [] } := by
  obtain ⟨t, hr, -, -, hi | hb⟩ := hinv.chan c
  · exact absurd hi.fresh hfresh
  have hcount : (s.dev.txList c).curPktCount ≠ 0 := by
    rw [hb.count]
    exact fun h0 => hfresh (List.length_eq_zero_iff.mp h0)
  have hservice := serviceH2c_launch (d := s.dev) (c := c) hr.transfer_eq hcount
  set e := setControl (s.dev.engineH2c c).engineStatusRead.xdmaEngineStop
    (if (s.dev.txList c).cur = 0 then RX_DESC_NUM - 1 else (s.dev.txList c).cur - 1) lastControl
  set d := wakeQueue c (s.dev.setTx c (turnHalf t).2 (launched e t)) with hd
  have he : d.engineH2c c = launched e t := by
    rw [hd, (WritesBack.wakeQueue _ _ _ _).engineH2c]
    exact Function.update_self _ _ _
  refine ⟨s.observe d, ?_, ?_⟩
  · show (h2cIrq c (channelIntRequest s.dev) s.dev >>= _) = _
    rw [h2cIrq_eq, if_pos hreq, hservice]
    rfl
  · show (s.log c).observe (s.dev.engineH2c c) (d.engineH2c c) = _
    rw [he]
    exact TxLog.observe_launched _ _ e t rfl

/-! ### Whole runs -/

/-- `ax_net_start_xmit` does not write to the half that an engine has. -/
theorem TxInv.xmit_frame (hinv : TxInv old s) {skb : TxSkb} {d' : NetDev}
    (hq : s.dev.queueStopped = false) (hx : axNetStartXmit s.dev skb = .ok d')
    {k i : ℕ} (hk : runningHalf (s.dev.engineH2c c) = some k) (hi : i / 512 = k) :
    (d'.engineH2c c).txBuff i = (s.dev.engineH2c c).txBuff i ∧
      (d'.engineH2c c).desc i = (s.dev.engineH2c c).desc i := by
  obtain ⟨frame, hpad⟩ : ∃ frame, padShort skb = .ok frame := by
    cases hpad : padShort skb with
    | error f => cases (axNetStartXmit_error hpad).symm.trans hx
    | ok frame => exact ⟨frame, rfl⟩
  rw [axNetStartXmit_eq hpad] at hx
  obtain ⟨t, hr, hcur, -, hidle | hb⟩ := hinv.chan skb.index
  · rw [xmitFrame_idle _ hr.transfer_eq hidle.idle hidle.running] at hx
    cases hx
    have hne : c ≠ skb.index := by
      rintro rfl
      rw [Net.runningHalf, hidle.running] at hk
      cases hk
    simp only [NetDev.setTx, Function.update_of_ne hne, and_self]
  · obtain ⟨d'', hd'', hw, -⟩ :=
      xmitFrame_busy (length_padShort hpad) hr.transfer_eq (by rw [hb.idle]; omega)
    rw [hx] at hd''
    cases hd''
    rw [hw.engineH2c]
    rcases eq_or_ne c skb.index with rfl | hne
    · have hlt : (s.log skb.index).fresh.length < 512 := by
        refine lt_of_le_of_ne hb.le fun hlen => ?_
        rw [(hinv.full _ hlen).1] at hq
        cases hq
      obtain ⟨t', -, -, hb', hcur', hk', -⟩ := (hinv.chan skb.index).runningHalf hk
      have hentry := hb'.cur_eq hcur' hlt
      have hne : i ≠ (s.dev.txList skb.index).cur := by
        simp only [DESC_LIST_NUM] at hcur' hk'
        omega
      simp only [NetDev.setTx, Function.update_self]
      exact ⟨storeEntry_txBuff_of_ne hne,
        (setControl_desc_of_ne hne).trans (storeEntry_desc_of_ne hne)⟩
    · simp only [NetDev.setTx, Function.update_of_ne hne, and_self]

/-- One step of the system: the only fault is the panic of `skb_put`. -/
theorem TxInv.step (hinv : TxInv old s) {ev : TxEvent} (hen : txEnabled s ev) :
    (∃ s', txExec s ev = .ok s' ∧ TxInv old s') ∨ txExec s ev = .error .skbOverPanic := by
  cases ev with
  | engine c => exact Or.inl (hinv.engine hen)
  | irq c => exact Or.inl (hinv.irq hen)
  | xmit skb =>
      cases hpad : padShort skb with
      | ok frame => exact Or.inl (hinv.xmit hen hpad)
      | error f =>
          right
          simp only [txExec, hpad, padShort_error hpad]
          rfl

/-- An open leaves both channels idle. -/
theorem TxInv.start {d d' : NetDev} (hquiet : Quiescent d) (hopen : axNetOpen d = .ok d') :
    TxInv (fun c => (d'.engineH2c c).hw.runs) (txStart d') := by
  obtain ⟨hbase, htx, -⟩ := axNetOpen_spec hopen hquiet.toNoTransferYet
  refine ⟨fun c => ?_, fun c hlen => absurd hlen (by simp [txStart])⟩
  obtain ⟨desc, t, he, hring, hcur⟩ := htx c
  have hlist : d'.txList c = { idle := 1, cur := 0, curPktCount := 0 } := by
    rw [hbase]
    rfl
  refine ⟨t, hring, by rw [hcur]; decide, rfl, Or.inl ⟨?_, ?_, ?_, rfl, ?_, ?_, [], rfl, .nil⟩⟩
  · exact congrArg AxTxList.idle hlist
  · rw [hcur, Nat.zero_mul]
    exact congrArg AxTxList.cur hlist
  · exact congrArg AxTxList.curPktCount hlist
  · show (d'.engineH2c c).running = false
    rw [he]
    exact hquiet.running c
  · show (d'.engineH2c c).hw.pc = none
    rw [he]
    exact hquiet.pc c

/-- The invariant holds along every run. -/
theorem TxInv.run {s' : TxSys} {es : List TxEvent} (hrun : txMachine.Run s es s')
    (hinv : TxInv old s) : TxInv old s' := by
  refine hrun.invariant hinv fun {u e v} hu hen hex => ?_
  rcases hu.step hen with ⟨v', hv', hinv'⟩ | herr
  · obtain rfl : v' = v := Except.ok.inj (hv'.symm.trans hex)
    exact hinv'
  · have hcontra := herr.symm.trans hex
    cases hcontra

end System

/-- The transmit rings are in order in the state `s`, reached after an open that left `d'`. -/
structure TxSafe (d' : NetDev) (s : TxSys) : Prop where
  /-- A send writes no entry of the half that the engine of a channel has. -/
  owned : ∀ skb s', txEnabled s (.xmit skb) → txExec s (.xmit skb) = .ok s' → ∀ c k i,
    runningHalf (s.dev.engineH2c c) = some k → i / 512 = k →
      (s'.dev.engineH2c c).txBuff i = (s.dev.engineH2c c).txBuff i ∧
        (s'.dev.engineH2c c).desc i = (s.dev.engineH2c c).desc i
  /-- The half that an engine has holds the frames stored before its start, the last of them, and
  no other, marked with `XDMA_DESC_STOPPED`. -/
  loaded : ∀ c k, runningHalf (s.dev.engineH2c c) = some k → ∃ b bs, (s.log c).batches = b :: bs ∧
    Loaded (s.dev.engineH2c c) (k * 512) b
  /-- Every accepted frame is in exactly one batch, or waits for the next start. -/
  batched : ∀ c, (s.log c).accepted = (s.log c).batches.reverse.flatten ++ (s.log c).fresh
  /-- Each run starts at a half, sends the frames of its batch and stops exactly when it has sent
  them all; every run but the latest has stopped. What the runs have sent is a prefix of what was
  accepted. -/
  sent : ∀ c, ∃ runs, (s.dev.engineH2c c).hw.runs = runs ++ (d'.engineH2c c).hw.runs ∧
    List.Forall₂ (RunOf (s.dev.engineH2c c).descBus.bus) runs (s.log c).batches ∧
    (∀ r ∈ runs.tail, r.stopped = true) ∧
    (runs.reverse.map HwRun.moved).flatten <+: (s.log c).accepted
  /-- No step faults, except when `skb_put` finds too little tailroom. -/
  noFault : ∀ ev f, txEnabled s ev → txExec s ev = .error f → f = .skbOverPanic

theorem TxInv.safe {d' : NetDev} {s : TxSys}
    (hinv : TxInv (fun c => (d'.engineH2c c).hw.runs) s) : TxSafe d' s where
  owned skb s' hen hex c k i hk hi := by
    simp only [txExec, bind_eq_ok] at hex
    obtain ⟨frame, -, d'', hd'', hs'⟩ := hex
    cases hs'
    exact hinv.xmit_frame hen hd'' hk hi
  loaded c k hk := by
    obtain ⟨-, b, bs, -, -, -, hbs, hload⟩ := (hinv.chan c).runningHalf hk
    exact ⟨b, bs, hbs, hload⟩
  batched c := by
    obtain ⟨t, -, -, hacc, -⟩ := hinv.chan c
    exact hacc
  sent c := (hinv.chan c).runs
  noFault ev f hen herr := by
    rcases hinv.step hen with ⟨s', hs', -⟩ | hpanic
    · rw [hs'] at herr
      cases herr
    · exact (Except.error.inj (hpanic.symm.trans herr)).symm

/-- **The transmit rings.** After an open, any order of sends, engine steps and completion
interrupts keeps the rings in order. -/
theorem txMachine_safe {d d' : NetDev} (hquiet : Quiescent d) (hopen : axNetOpen d = .ok d')
    {es : List TxEvent} {s : TxSys} (hrun : txMachine.Run (txStart d') es s) : TxSafe d' s :=
  (TxInv.run hrun (TxInv.start hquiet hopen)).safe

/-- The first frame after an open of a probed device. -/
theorem txMachine_first_frame :
    ∃ d' s, axNetOpen probedDev = .ok d' ∧ txMachine.Run (txStart d') [.xmit sampleSkb] s ∧
      s.dev.queueStopped = false ∧ (s.dev.txList 0).idle ≠ 1 ∧ (s.dev.engineH2c 0).hw.pc ≠ none ∧
      s.log 0 = ⟨[List.replicate 60 0], [[List.replicate 60 0]], []⟩ := by
  obtain ⟨d', hopen⟩ := axNetOpen_probedDev
  obtain ⟨hbase, htx, -⟩ := axNetOpen_spec hopen probedDev_quiescent.toNoTransferYet
  have hq : (txStart d').dev.queueStopped = false := by
    show d'.queueStopped = false
    rw [hbase]
    rfl
  have hidle : ((txStart d').dev.txList 0).idle = 1 := by
    show (d'.txList 0).idle = 1
    rw [hbase]
    rfl
  obtain ⟨desc, t, he, hring, -⟩ := htx 0
  have hstopped : ((txStart d').dev.engineH2c 0).running = false := by
    show (d'.engineH2c 0).running = false
    rw [he]
    rfl
  have hxmit := txExec_xmit (s := txStart d') padShort_sampleSkb (xmitFrame_idle (c := 0)
    (length_padShort padShort_sampleSkb) hring.transfer_eq hidle hstopped)
  set s₁ := ((txStart d').accept sampleSkb.index (List.replicate 60 0)).observe _ with hs₁
  refine ⟨d', s₁, hopen, Machine.Run.single hq hxmit, hq, ?_, ?_, ?_⟩
  · simp [s₁, TxSys.observe, NetDev.setTx, turnHalf]
  · simp [s₁, TxSys.observe, NetDev.setTx, launched, XdmaEngine.started]
  · simp only [hs₁, TxSys.observe, NetDev.setTx, Function.update_self]
    exact TxLog.observe_launched _ _ _ _ rfl

/-- The second of two frames waits until the engine has sent the first one, and the completion
interrupt restarts the engine on it. -/
theorem txMachine_safe_two_batches :
    ∃ d' s, axNetOpen probedDev = .ok d' ∧
      txMachine.Run (txStart d') [.xmit sampleSkb, .xmit sampleSkb, .engine 0, .irq 0] s ∧
      (s.log 0).batches = [[List.replicate 60 0], [List.replicate 60 0]] ∧ TxSafe d' s := by
  obtain ⟨d', s₁, hopen, hrun₁, hq, hbusy, hpc, hlog₁⟩ := txMachine_first_frame
  have hinv := TxInv.start probedDev_quiescent hopen
  -- the second frame is stored
  obtain ⟨s₂, hs₂, hlog₂, hhw₂⟩ := (TxInv.run hrun₁ hinv).exec_busy padShort_sampleSkb hbusy
  have hrun₂ := hrun₁.snoc (show txMachine.enabled s₁ (.xmit sampleSkb) from hq) hs₂
  rw [show sampleSkb.index = 0 from rfl, hlog₁] at hlog₂
  have hpc₂ : (s₂.dev.engineH2c 0).hw.pc ≠ none := fun hnone => hpc (hhw₂ ▸ hnone)
  -- the engine sends the first one
  obtain ⟨s₃, hs₃, hlog₃, hstop, hreq⟩ :=
    (TxInv.run hrun₂ hinv).exec_single hpc₂ (congrArg TxLog.batches hlog₂)
  have hrun₃ := hrun₂.snoc (show txMachine.enabled s₂ (.engine 0) from hpc₂) hs₃
  rw [hlog₂] at hlog₃
  -- and the interrupt starts it again
  obtain ⟨s, hs, hlog⟩ := (TxInv.run hrun₃ hinv).exec_restart hreq (by
    rw [hlog₃]
    exact List.cons_ne_nil _ _)
  have hrun := hrun₃.snoc (show txMachine.enabled s₃ (.irq 0) from hstop) hs
  refine ⟨d', s, hopen, hrun, ?_, txMachine_safe probedDev_quiescent hopen hrun⟩
  rw [hlog, hlog₃]
  rfl

end Axm57104.Net
