import Axm57104.Net.State

/-!
# The transmit path

`ax_net_start_xmit` stores a frame in the half of the ring that the engine is not running, and
starts the engine itself when the channel is idle. The completion interrupt closes the half that
was being filled, starts the engine on it and turns to the other half; it also wakes the netdev
queue when this channel had stopped it. Both run under `ax_local->lock`, so each is one step.
-/

namespace Axm57104.Net

open Common Xdma

/-! ## Frames to send -/

/-- A frame the stack hands to `ax_net_start_xmit`: its bytes, the memory of its tailroom, and
whether `SKBTX_HW_TSTAMP` is set. `ax_net_change_mtu` keeps the MTU at 1500 or below, so that a
frame with its link-layer headers and its `nic_tx_header` fits one `packet_buff`. -/
structure TxSkb where
  data : List UInt8
  tailroom : List UInt8
  hwTstamp : Bool
  fits : data.length + NIC_TX_HEADER_SIZE ≤ DMA_PACKET_SIZE

/-- The padding of a short frame. `skb_put` takes the bytes of the tailroom as they are, and
panics when there are too few. -/
def padShort (skb : TxSkb) : Except Fault (List UInt8) :=
  if skb.data.length < 60 ∧ skb.tailroom ≠ [] then
    if skb.tailroom.length < 60 - skb.data.length then .error .skbOverPanic
    else .ok (skb.data ++ skb.tailroom.take (60 - skb.data.length))
  else .ok skb.data

theorem length_padShort {skb : TxSkb} {frame : List UInt8} (h : padShort skb = .ok frame) :
    frame.length + NIC_TX_HEADER_SIZE ≤ DMA_PACKET_SIZE := by
  have hfits := skb.fits
  simp only [padShort] at h
  split at h
  · split at h
    · cases h
    · cases h
      simp only [List.length_append, List.length_take, NIC_TX_HEADER_SIZE, DMA_PACKET_SIZE]
      omega
  · cases h
    exact hfits

theorem padShort_error {skb : TxSkb} {f : Fault} (h : padShort skb = .error f) :
    f = .skbOverPanic := by
  simp only [padShort] at h
  split at h
  · split at h
    · exact (Except.error.inj h).symm
    · cases h
  · cases h

/-- A frame of 60 zero bytes. -/
def sampleSkb : TxSkb where
  data := List.replicate 60 0
  tailroom := []
  hwTstamp := false
  fits := by simp only [List.length_replicate, NIC_TX_HEADER_SIZE, DMA_PACKET_SIZE]; omega

theorem padShort_sampleSkb : padShort sampleSkb = .ok (List.replicate 60 0) := by
  rw [padShort, if_neg (by simp [sampleSkb])]
  rfl

/-- `ALIGN_8_BYTES`. -/
def align8Bytes (x : ℕ) : ℕ := (x + 7) / 8 * 8

/-- A packet buffer after the header length and the frame have been copied into it. The other
bytes of the header and the bytes behind the frame keep their old contents. -/
def PacketBuff.store (b : PacketBuff) (frame : List UInt8)
    (h : frame.length + NIC_TX_HEADER_SIZE ≤ DMA_PACKET_SIZE) : PacketBuff where
  data := overwrite (overwrite b.data 0 (le16 (frame.length % 2 ^ 16))) NIC_TX_HEADER_SIZE frame
  length_eq := by
    have hb := b.length_eq
    simp only [NIC_TX_HEADER_SIZE, DMA_PACKET_SIZE] at h hb ⊢
    have h1 : (overwrite b.data 0 (le16 (frame.length % 2 ^ 16))).length = 2048 := by
      rw [length_overwrite (by rw [length_le16, hb]; omega), hb]
    rw [length_overwrite (by rw [h1]; omega), h1]

/-- The descriptor's byte count covers the header and the frame, so that the device puts exactly
the stored frame on the wire. -/
theorem wireFrame_store (b : PacketBuff) (frame : List UInt8)
    (h : frame.length + NIC_TX_HEADER_SIZE ≤ DMA_PACKET_SIZE) :
    wireFrame ((PacketBuff.store b frame h).data.take
      (align8Bytes (frame.length + NIC_TX_HEADER_SIZE))) = frame := by
  have hb := b.length_eq
  simp only [NIC_TX_HEADER_SIZE, DMA_PACKET_SIZE] at h hb
  set hdr := overwrite b.data 0 (le16 (frame.length % 2 ^ 16)) with hhdr
  have hlen : hdr.length = 2048 := by
    rw [hhdr, length_overwrite (by rw [length_le16, hb]; omega), hb]
  have halign : frame.length + 8 ≤ align8Bytes (frame.length + NIC_TX_HEADER_SIZE) := by
    simp only [align8Bytes, NIC_TX_HEADER_SIZE]
    omega
  -- a read below the byte count does not see the cut
  have hcut : ∀ i n, i + n ≤ frame.length + 8 →
      slice ((overwrite hdr 8 frame).take (align8Bytes (frame.length + NIC_TX_HEADER_SIZE))) i n
        = slice (overwrite hdr 8 frame) i n := by
    intro i n hin
    simp only [slice, List.drop_take, List.take_take]
    congr 1
    omega
  have hfield : slice (overwrite hdr 8 frame) 0 2 = le16 (frame.length % 2 ^ 16) := by
    rw [slice_overwrite_before (by omega) (by omega), hhdr]
    exact slice_overwrite_self rfl (by rw [hb]; omega)
  have hmod : frame.length % 2 ^ 16 = frame.length := Nat.mod_eq_of_lt (by omega)
  show wireFrame ((overwrite hdr 8 frame).take _) = frame
  rw [wireFrame, hcut 0 2 (by omega), hfield, hmod, ofLe16_le16 (by omega),
    hcut 8 frame.length (by omega)]
  exact slice_overwrite_self rfl (by rw [hlen]; omega)

/-! ## `ax_net_start_xmit` -/

/-- The channel a frame is sent on: 1 for frames that want a hardware timestamp. -/
def TxSkb.index (skb : TxSkb) : Fin XDMA_CHANNEL_NUM_MAX := if skb.hwTstamp then 1 else 0

/-- The control word `ax_net_start_xmit` and the completion interrupt give the last descriptor of
a run. -/
def lastControl : ℕ := DESC_MAGIC ||| XDMA_DESC_EOP ||| XDMA_DESC_STOPPED

/-- Store a frame in entry `entry`: the packet buffer and the descriptor's byte count. -/
def storeEntry (e : XdmaEngine) (entry : ℕ) (frame : List UInt8)
    (h : frame.length + NIC_TX_HEADER_SIZE ≤ DMA_PACKET_SIZE) : XdmaEngine :=
  { e with
    txBuff := Function.update e.txBuff entry (PacketBuff.store (e.txBuff entry) frame h)
    desc := Function.update e.desc entry
      { e.desc entry with bytes := align8Bytes (frame.length + NIC_TX_HEADER_SIZE) } }

/-- Set the control word of descriptor `i`. -/
def setControl (e : XdmaEngine) (i control : ℕ) : XdmaEngine :=
  { e with desc := Function.update e.desc i { e.desc i with control := control } }

/-- Turn to the other half of the ring: `transfer->current_list` is advanced, `list->cur` moves to
the half's first entry and `list->cur_pkt_count` is reset. -/
def turnHalf (t : XdmaTransfer) : XdmaTransfer × AxTxList :=
  let currentList := (t.currentList + 1) % DESC_LIST_NUM
  ({ t with currentList := currentList },
    { idle := 0, cur := currentList * (TX_DESC_NUM / DESC_LIST_NUM), curPktCount := 0 })

/-- Write channel `c`'s list and engine back. -/
def NetDev.setTx (d : NetDev) (c : Fin XDMA_CHANNEL_NUM_MAX) (list : AxTxList) (e : XdmaEngine) :
    NetDev :=
  { d with
    txList := Function.update d.txList c list
    engineH2c := Function.update d.engineH2c c e }

/-- The locked section of `ax_net_start_xmit` on channel `c`, for a frame that is already padded.
The timestamp queue and the statistics are not part of the ring and are left out. -/
def xmitFrame (d : NetDev) (c : Fin XDMA_CHANNEL_NUM_MAX) (frame : List UInt8)
    (h : frame.length + NIC_TX_HEADER_SIZE ≤ DMA_PACKET_SIZE) : Except Fault NetDev :=
  let list := d.txList c
  let entry := list.cur
  match (d.engineH2c c).transfer with
  | none => .error .nullTransfer
  | some t =>
      let e := storeEntry (d.engineH2c c) entry frame h
      if list.idle = 1 then
        match (setControl e entry lastControl).engineStart with
        | .error f => .error f
        | .ok e => .ok (d.setTx c (turnHalf t).2 { e with transfer := some (turnHalf t).1 })
      else
        let cur := (entry + 1) % TX_DESC_NUM
        let d := d.setTx c
          { list with cur := cur, curPktCount := (list.curPktCount + 1) % 2 ^ 32 }
          (setControl e entry DESC_MAGIC)
        if cur = 0 ∨ cur = TX_DESC_NUM / DESC_LIST_NUM then
          .ok { d with queueStopped := true, stopQueueChannel := c.val }
        else .ok d

/-- `ax_net_start_xmit`. -/
def axNetStartXmit (d : NetDev) (skb : TxSkb) : Except Fault NetDev :=
  match h : padShort skb with
  | .error f => .error f
  | .ok frame => xmitFrame d skb.index frame (length_padShort h)

/-! ## Completion interrupts -/

/-- Channel `c` wakes the netdev queue if it had stopped it. -/
def wakeQueue (c : Fin XDMA_CHANNEL_NUM_MAX) (d : NetDev) : NetDev :=
  if d.stopQueueChannel = c.val then { d with queueStopped := false, stopQueueChannel := 0xFF }
  else d

/-- What both H2C handlers do once they have found that the interrupt of channel `c` fired. -/
def serviceH2c (c : Fin XDMA_CHANNEL_NUM_MAX) (d : NetDev) : Except Fault NetDev :=
  let list := d.txList c
  let e := (d.engineH2c c).engineStatusRead.xdmaEngineStop
  match e.transfer with
  | none => .error .nullTransfer
  | some t =>
      if list.curPktCount ≠ 0 then
        let stopDesc := if list.cur = 0 then RX_DESC_NUM - 1 else list.cur - 1
        match (setControl e stopDesc lastControl).engineStart with
        | .error f => .error f
        | .ok e => .ok (wakeQueue c (d.setTx c (turnHalf t).2
            { e with transfer := some (turnHalf t).1 }))
      else .ok (wakeQueue c (d.setTx c { list with idle := 1 } e))

/-- The common frame of the two H2C handlers: nothing happens unless the channel's own bit is among
the H2C requests that were read. The handlers also mask the engine's interrupts on entry and unmask
them on return. -/
def handleH2c (c : Fin XDMA_CHANNEL_NUM_MAX) (chIrq : ℕ) (d : NetDev) : Except Fault NetDev :=
  let mask := chIrq &&& maskIrqH2c
  if mask = 0 then .ok d
  else if irqBitmaskH2c c &&& mask ≠ 0 then serviceH2c c d
  else .ok d

/-- `xdma_channel_H2C_irq`, registered for `engine_h2c[0]`. -/
def xdmaChannelH2cIrq (chIrq : ℕ) (d : NetDev) : Except Fault NetDev := handleH2c 0 chIrq d

/-- `xdma_channel_H2C_PTP_irq`, registered for `engine_h2c[1]`. It also schedules `tasklet_ptp`. -/
def xdmaChannelH2cPtpIrq (chIrq : ℕ) (d : NetDev) : Except Fault NetDev := handleH2c 1 chIrq d

/-- The handler registered for H2C channel `c`. -/
def h2cIrq (c : Fin XDMA_CHANNEL_NUM_MAX) (chIrq : ℕ) (d : NetDev) : Except Fault NetDev :=
  if c = 0 then xdmaChannelH2cIrq chIrq d else xdmaChannelH2cPtpIrq chIrq d

/-- The handler of channel `c` services the engine exactly when the engine requests an interrupt. -/
theorem h2cIrq_eq (c : Fin XDMA_CHANNEL_NUM_MAX) (d : NetDev) :
    h2cIrq c (channelIntRequest d) d =
      if intRequest (d.engineH2c c) then serviceH2c c d else .ok d := by
  have hbit : irqBitmaskH2c c &&& (channelIntRequest d &&& maskIrqH2c) ≠ 0 ↔
      intRequest (d.engineH2c c) = true := by
    obtain rfl | rfl := channel_cases c
    · exact (channelIntRequest_and d).1
    · exact (channelIntRequest_and d).2.1
  have hc : h2cIrq c (channelIntRequest d) d = handleH2c c (channelIntRequest d) d := by
    obtain rfl | rfl := channel_cases c <;> rfl
  simp only [hc, handleH2c]
  by_cases hreq : intRequest (d.engineH2c c) = true
  · have hne := hbit.mpr hreq
    have hmask : channelIntRequest d &&& maskIrqH2c ≠ 0 := by
      intro h0
      rw [h0, Nat.and_zero] at hne
      exact hne rfl
    rw [if_neg hmask, if_pos hne, if_pos hreq]
  · have heq : irqBitmaskH2c c &&& (channelIntRequest d &&& maskIrqH2c) = 0 := by
      by_contra hne
      exact hreq (hbit.mp hne)
    rw [if_neg hreq, heq, if_neg (not_not.mpr rfl), ite_self]

/-- Channel `c`'s engine moves the frame of its next descriptor. -/
def h2cTransfer (c : Fin XDMA_CHANNEL_NUM_MAX) (d : NetDev) : Except Fault NetDev :=
  match (d.engineH2c c).h2cStep with
  | .error f => .error f
  | .ok e => .ok { d with engineH2c := Function.update d.engineH2c c e }

theorem h2cTransfer_cases (c : Fin XDMA_CHANNEL_NUM_MAX) (d : NetDev) :
    h2cTransfer c d = .error .badFetch ∨ ∃ hw, h2cTransfer c d =
      .ok { d with engineH2c := Function.update d.engineH2c c { d.engineH2c c with hw := hw } } := by
  unfold h2cTransfer
  rcases (d.engineH2c c).h2cStep_cases with herr | ⟨hw, hok⟩
  · rw [herr]
    exact .inl rfl
  · rw [hok]
    exact .inr ⟨hw, rfl⟩

/-! ## The cases of the two functions -/

/-- The engine after a start on `t`, which is then turned to the other half. -/
def launched (e : XdmaEngine) (t : XdmaTransfer) : XdmaEngine :=
  { e.started (t.listDesc t.currentList) with transfer := some (turnHalf t).1 }

/-- `d'` is `d` with channel `c` written back, up to the state of the netdev queue. -/
structure WritesBack (c : Fin XDMA_CHANNEL_NUM_MAX) (list : AxTxList) (e : XdmaEngine)
    (d d' : NetDev) : Prop where
  txList : d'.txList = (d.setTx c list e).txList
  engineH2c : d'.engineH2c = (d.setTx c list e).engineH2c
  engineC2h : d'.engineC2h = d.engineC2h
  linkStart : d'.linkStart = d.linkStart
  xdmaDescFlag : d'.xdmaDescFlag = d.xdmaDescFlag

section Cases

variable {d : NetDev} {c : Fin XDMA_CHANNEL_NUM_MAX} {e : XdmaEngine} {t : XdmaTransfer}

theorem WritesBack.setTx (c : Fin XDMA_CHANNEL_NUM_MAX) (list : AxTxList) (e : XdmaEngine)
    (d : NetDev) : WritesBack c list e d (d.setTx c list e) := ⟨rfl, rfl, rfl, rfl, rfl⟩

theorem WritesBack.wakeQueue (c : Fin XDMA_CHANNEL_NUM_MAX) (list : AxTxList) (e : XdmaEngine)
    (d : NetDev) : WritesBack c list e d (wakeQueue c (d.setTx c list e)) := by
  unfold Net.wakeQueue
  split <;> exact ⟨rfl, rfl, rfl, rfl, rfl⟩

/-- A queue that another channel has stopped stays stopped. -/
theorem wakeQueue_other {c' : Fin XDMA_CHANNEL_NUM_MAX} (hne : c' ≠ c)
    (h : d.queueStopped = true ∧ d.stopQueueChannel = c'.val) :
    (wakeQueue c d).queueStopped = true ∧ (wakeQueue c d).stopQueueChannel = c'.val := by
  have hc : d.stopQueueChannel ≠ c.val := by
    rw [h.2]
    exact fun heq => hne (Fin.ext heq)
  rw [wakeQueue, if_neg hc]
  exact h

theorem engineStart_setControl (ht : e.transfer = some t) {i control : ℕ} :
    (setControl e i control).engineStart = if e.running then .error .engineRunning
      else .ok ((setControl e i control).started (t.listDesc t.currentList)) :=
  XdmaEngine.engineStart_eq ht

/-- `serviceH2c` with nothing stored. -/
theorem serviceH2c_empty (ht : (d.engineH2c c).transfer = some t)
    (hcount : (d.txList c).curPktCount = 0) :
    serviceH2c c d = .ok (wakeQueue c (d.setTx c { d.txList c with idle := 1 }
      (d.engineH2c c).engineStatusRead.xdmaEngineStop)) := by
  have ht' : (d.engineH2c c).engineStatusRead.xdmaEngineStop.transfer = some t := ht
  simp only [serviceH2c, ht', hcount, ne_eq, not_true_eq_false, if_false]

/-- `serviceH2c` with frames stored. -/
theorem serviceH2c_launch (ht : (d.engineH2c c).transfer = some t)
    (hcount : (d.txList c).curPktCount ≠ 0) :
    serviceH2c c d = .ok (wakeQueue c (d.setTx c (turnHalf t).2
      (launched (setControl (d.engineH2c c).engineStatusRead.xdmaEngineStop
        (if (d.txList c).cur = 0 then RX_DESC_NUM - 1 else (d.txList c).cur - 1) lastControl) t))) := by
  have ht' : (d.engineH2c c).engineStatusRead.xdmaEngineStop.transfer = some t := ht
  have hrun : (d.engineH2c c).engineStatusRead.xdmaEngineStop.running = false := rfl
  simp only [serviceH2c, ht', ne_eq, hcount, not_false_eq_true, if_true, engineStart_setControl ht',
    hrun, Bool.false_eq_true, if_false]
  rfl

theorem axNetStartXmit_eq {skb : TxSkb} {frame : List UInt8} (h : padShort skb = .ok frame) :
    axNetStartXmit d skb = xmitFrame d skb.index frame (length_padShort h) := by
  unfold axNetStartXmit
  split
  · rename_i f hf
    rw [h] at hf
    cases hf
  · rename_i frame' hf
    obtain rfl : frame' = frame := Except.ok.inj (hf.symm.trans h)
    rfl

theorem axNetStartXmit_error {skb : TxSkb} {f : Fault} (h : padShort skb = .error f) :
    axNetStartXmit d skb = .error .skbOverPanic := by
  unfold axNetStartXmit
  split
  · rename_i f' hf'
    rw [padShort_error hf']
  · rename_i frame hf'
    cases h.symm.trans hf'

/-- `ax_net_start_xmit` on an idle channel. -/
theorem xmitFrame_idle {frame : List UInt8}
    (h : frame.length + NIC_TX_HEADER_SIZE ≤ DMA_PACKET_SIZE)
    (ht : (d.engineH2c c).transfer = some t) (hidle : (d.txList c).idle = 1)
    (hrun : (d.engineH2c c).running = false) :
    xmitFrame d c frame h = .ok (d.setTx c (turnHalf t).2
      (launched (setControl (storeEntry (d.engineH2c c) (d.txList c).cur frame h)
        (d.txList c).cur lastControl) t)) := by
  have ht' : (storeEntry (d.engineH2c c) (d.txList c).cur frame h).transfer = some t := ht
  have hrun' : (storeEntry (d.engineH2c c) (d.txList c).cur frame h).running = false := hrun
  simp only [xmitFrame, ht, hidle, if_true, engineStart_setControl ht', hrun', Bool.false_eq_true,
    if_false]
  rfl

/-- `ax_net_start_xmit` on an idle channel whose engine is running. -/
theorem xmitFrame_bug {frame : List UInt8}
    (h : frame.length + NIC_TX_HEADER_SIZE ≤ DMA_PACKET_SIZE)
    (ht : (d.engineH2c c).transfer = some t) (hidle : (d.txList c).idle = 1)
    (hrun : (d.engineH2c c).running = true) :
    xmitFrame d c frame h = .error .engineRunning := by
  have ht' : (storeEntry (d.engineH2c c) (d.txList c).cur frame h).transfer = some t := ht
  have hrun' : (storeEntry (d.engineH2c c) (d.txList c).cur frame h).running = true := hrun
  simp only [xmitFrame, ht, hidle, if_true, engineStart_setControl ht', hrun']

/-- The list of a busy channel after one more frame. -/
def advanced (list : AxTxList) : AxTxList :=
  { list with
    cur := (list.cur + 1) % TX_DESC_NUM, curPktCount := (list.curPktCount + 1) % 2 ^ 32 }

/-- `ax_net_start_xmit` on a busy channel. -/
theorem xmitFrame_busy {frame : List UInt8}
    (h : frame.length + NIC_TX_HEADER_SIZE ≤ DMA_PACKET_SIZE)
    (ht : (d.engineH2c c).transfer = some t) (hidle : (d.txList c).idle ≠ 1) :
    ∃ d', xmitFrame d c frame h = .ok d' ∧
      WritesBack c (advanced (d.txList c)) (setControl
        (storeEntry (d.engineH2c c) (d.txList c).cur frame h) (d.txList c).cur DESC_MAGIC) d d' ∧
      (((d.txList c).cur + 1) % 512 = 0 → d'.queueStopped = true ∧ d'.stopQueueChannel = c.val) := by
  simp only [xmitFrame, ht, hidle, if_false]
  by_cases hfull : ((d.txList c).cur + 1) % TX_DESC_NUM = 0 ∨
      ((d.txList c).cur + 1) % TX_DESC_NUM = TX_DESC_NUM / DESC_LIST_NUM
  · rw [if_pos hfull]
    exact ⟨_, rfl, ⟨rfl, rfl, rfl, rfl, rfl⟩, fun _ => ⟨rfl, rfl⟩⟩
  · rw [if_neg hfull]
    refine ⟨_, rfl, ⟨rfl, rfl, rfl, rfl, rfl⟩, fun h0 => absurd ?_ hfull⟩
    simp only [TX_DESC_NUM, RX_DESC_NUM, DESC_LIST_NUM]
    omega

/-- `ax_net_start_xmit` starts only the engine of an idle channel, and meets the `BUG_ON` of
`engine_start` only if that engine is running. -/
theorem xmitFrame_running {frame : List UInt8}
    {h : frame.length + NIC_TX_HEADER_SIZE ≤ DMA_PACKET_SIZE}
    (hx : xmitFrame d c frame h = .error .engineRunning) :
    (d.txList c).idle = 1 ∧ (d.engineH2c c).running = true := by
  cases ht : (d.engineH2c c).transfer with
  | none =>
      simp only [xmitFrame, ht] at hx
      cases hx
  | some t =>
      by_cases hidle : (d.txList c).idle = 1
      · refine ⟨hidle, ?_⟩
        by_contra hrun
        rw [xmitFrame_idle h ht hidle (Bool.eq_false_iff.mpr hrun)] at hx
        cases hx
      · obtain ⟨d', hd', -⟩ := xmitFrame_busy h ht hidle
        rw [hd'] at hx
        cases hx

/-- After `ax_net_start_xmit` the channel of the frame is not idle. -/
theorem xmitFrame_ok {d' : NetDev} {frame : List UInt8}
    {h : frame.length + NIC_TX_HEADER_SIZE ≤ DMA_PACKET_SIZE}
    (hx : xmitFrame d c frame h = .ok d') :
    ∃ t list e, (d.engineH2c c).transfer = some t ∧ WritesBack c list e d d' ∧ list.idle ≠ 1 := by
  cases ht : (d.engineH2c c).transfer with
  | none =>
      simp only [xmitFrame, ht] at hx
      cases hx
  | some t =>
      by_cases hidle : (d.txList c).idle = 1
      · by_cases hrun : (d.engineH2c c).running = true
        · rw [xmitFrame_bug h ht hidle hrun] at hx
          cases hx
        · rw [xmitFrame_idle h ht hidle (Bool.eq_false_iff.mpr hrun)] at hx
          cases hx
          exact ⟨t, _, _, rfl, WritesBack.setTx _ _ _ _, Nat.zero_ne_one⟩
      · obtain ⟨d'', hd'', hw, -⟩ := xmitFrame_busy h ht hidle
        obtain rfl : d'' = d' := Except.ok.inj (hd''.symm.trans hx)
        exact ⟨t, _, _, rfl, hw, hidle⟩

/-- A completion interrupt does not meet the `BUG_ON`, since it stops the engine first; it leaves
the engine stopped if the channel is then idle, or if there was nothing stored. -/
theorem serviceH2c_ok {r : Except Fault NetDev} (hr : serviceH2c c d = r) :
    r = .error .nullTransfer ∨ ∃ t d' list e, r = .ok d' ∧ (d.engineH2c c).transfer = some t ∧
      WritesBack c list e d d' ∧ (list.idle = 1 → e.running = false) ∧
      ((d.txList c).curPktCount = 0 → e.running = false) := by
  cases ht : (d.engineH2c c).transfer with
  | none =>
      left
      have ht' : (d.engineH2c c).engineStatusRead.xdmaEngineStop.transfer = none := ht
      rw [← hr]
      simp only [serviceH2c, ht']
  | some t =>
      right
      by_cases hcount : (d.txList c).curPktCount = 0
      · rw [serviceH2c_empty ht hcount] at hr
        exact ⟨t, _, _, _, hr.symm, rfl, WritesBack.wakeQueue _ _ _ _, fun _ => rfl, fun _ => rfl⟩
      · rw [serviceH2c_launch ht hcount] at hr
        refine ⟨t, _, _, _, hr.symm, rfl, WritesBack.wakeQueue _ _ _ _, fun hidle => ?_,
          fun h0 => absurd h0 hcount⟩
        cases hidle

end Cases

end Axm57104.Net
