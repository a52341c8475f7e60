import Axm57104.Net.TxRing

/-!
# The padding of short frames

`ax_net_start_xmit` extends a frame of less than 60 bytes with `skb_put`, which takes the bytes of
the tailroom as they are. It tests whether there is any tailroom, not whether there is enough, and
does not clear what it takes. So what goes on the wire is the frame and zeros exactly if the tailroom
begins with as many zeros as are missing.
-/

namespace Axm57104.Net

open Common Xdma

/-- The frame with zeros up to the shortest length of an Ethernet frame. -/
def TxSkb.padded (skb : TxSkb) : List UInt8 :=
  skb.data ++ List.replicate (60 - skb.data.length) 0

/-- The tailroom begins with the zeros that the frame is short of; no condition on a frame of 60
bytes or more. -/
def TxSkb.ZeroTailroom (skb : TxSkb) : Prop :=
  List.replicate (60 - skb.data.length) 0 <+: skb.tailroom

theorem TxSkb.zeroTailroom_iff (skb : TxSkb) : skb.ZeroTailroom ↔
    60 - skb.data.length ≤ skb.tailroom.length ∧
      skb.tailroom.take (60 - skb.data.length) = List.replicate (60 - skb.data.length) 0 := by
  rw [TxSkb.ZeroTailroom, List.prefix_iff_eq_take, List.length_replicate]
  refine ⟨fun h => ⟨?_, h.symm⟩, fun h => h.2.symm⟩
  have hlen := congrArg List.length h
  rw [List.length_replicate, List.length_take] at hlen
  omega

/-- The padding is right exactly with such a tailroom. -/
theorem padShort_eq_padded_iff (skb : TxSkb) :
    padShort skb = .ok skb.padded ↔ skb.ZeroTailroom := by
  rw [skb.zeroTailroom_iff, padShort, TxSkb.padded]
  by_cases hshort : skb.data.length < 60
  · by_cases hnil : skb.tailroom = []
    · -- no tailroom: the frame goes out as it is
      rw [if_neg (fun h => h.2 hnil), hnil]
      constructor
      · intro h
        have hlen := congrArg List.length (Except.ok.inj h)
        rw [List.length_append, List.length_replicate] at hlen
        omega
      · rintro ⟨hle, -⟩
        rw [List.length_nil] at hle
        omega
    · rw [if_pos ⟨hshort, hnil⟩]
      by_cases hroom : skb.tailroom.length < 60 - skb.data.length
      · rw [if_pos hroom]
        refine ⟨fun h => ?_, fun h => absurd h.1 (Nat.not_le.mpr hroom)⟩
        cases h
      · rw [if_neg hroom]
        refine ⟨fun h => ⟨Nat.not_lt.mp hroom, ?_⟩, fun h => by rw [h.2]⟩
        exact List.append_cancel_left (Except.ok.inj h)
  · have hzero : 60 - skb.data.length = 0 := by omega
    rw [if_neg (fun h => hshort h.1), hzero]
    simp

/-! ## What goes on the wire -/

/-- What the device sends for entry `entry` of channel `c`. -/
def NetDev.sentFrame (d : NetDev) (c : Fin XDMA_CHANNEL_NUM_MAX) (entry : ℕ) : List UInt8 :=
  wireFrame (((d.engineH2c c).txBuff entry).data.take ((d.engineH2c c).desc entry).bytes)

/-- Channel `c` has its ring, and its engine does not run while it is idle. -/
structure NetDev.CanXmit (d : NetDev) (c : Fin XDMA_CHANNEL_NUM_MAX) : Prop where
  transfer : ∃ t, (d.engineH2c c).transfer = some t
  running : (d.txList c).idle = 1 → (d.engineH2c c).running = false

/-- So it is in every state of the transmit rings. -/
theorem TxInv.canXmit {old : Fin XDMA_CHANNEL_NUM_MAX → List HwRun} {s : TxSys} (h : TxInv old s)
    (c : Fin XDMA_CHANNEL_NUM_MAX) : s.dev.CanXmit c := by
  obtain ⟨t, hr, -, -, hi | hb⟩ := h.chan c
  · exact ⟨⟨t, hr.transfer_eq⟩, fun _ => hi.running⟩
  · refine ⟨⟨t, hr.transfer_eq⟩, fun hidle => ?_⟩
    rw [hb.idle] at hidle
    cases hidle

/-- A stored frame is what the device sends for its entry. -/
theorem sentFrame_of_writesBack {d d' : NetDev} {c : Fin XDMA_CHANNEL_NUM_MAX} {list : AxTxList}
    {e : XdmaEngine} {entry : ℕ} {frame : List UInt8}
    {h : frame.length + NIC_TX_HEADER_SIZE ≤ DMA_PACKET_SIZE} (hw : WritesBack c list e d d')
    (hbuff : e.txBuff entry = PacketBuff.store ((d.engineH2c c).txBuff entry) frame h)
    (hbytes : (e.desc entry).bytes = align8Bytes (frame.length + NIC_TX_HEADER_SIZE)) :
    d'.sentFrame c entry = frame := by
  have he : d'.engineH2c c = e := by
    rw [hw.engineH2c, NetDev.setTx]
    exact Function.update_self _ _ _
  rw [NetDev.sentFrame, he, hbuff, hbytes]
  exact wireFrame_store _ _ _

theorem xmitFrame_sentFrame {d : NetDev} {c : Fin XDMA_CHANNEL_NUM_MAX} (hd : d.CanXmit c)
    {frame : List UInt8} (h : frame.length + NIC_TX_HEADER_SIZE ≤ DMA_PACKET_SIZE) :
    ∃ d', xmitFrame d c frame h = .ok d' ∧ d'.sentFrame c (d.txList c).cur = frame := by
  obtain ⟨t, ht⟩ := hd.transfer
  by_cases hidle : (d.txList c).idle = 1
  · refine ⟨_, xmitFrame_idle h ht hidle (hd.running hidle),
      sentFrame_of_writesBack (h := h) (WritesBack.setTx _ _ _ _) ?_ ?_⟩
    · exact Function.update_self _ _ _
    · simp only [launched, XdmaEngine.started, setControl, storeEntry, Function.update_self]
  · obtain ⟨d', hd', hw, -⟩ := xmitFrame_busy h ht hidle
    refine ⟨d', hd', sentFrame_of_writesBack (h := h) hw ?_ ?_⟩
    · exact Function.update_self _ _ _
    · simp only [setControl, storeEntry, Function.update_self]

/-- `ax_net_start_xmit` does not extend the frame beyond its tailroom, and the device sends the
frame's bytes and zeros up to 60 bytes. -/
def SendsPadded (d : NetDev) (skb : TxSkb) : Prop :=
  ∃ d', axNetStartXmit d skb = .ok d' ∧
    d'.sentFrame skb.index (d.txList skb.index).cur = skb.padded

theorem axNetStartXmit_sentFrame {d : NetDev} {skb : TxSkb} (hd : d.CanXmit skb.index)
    {frame : List UInt8} (h : padShort skb = .ok frame) :
    ∃ d', axNetStartXmit d skb = .ok d' ∧
      d'.sentFrame skb.index (d.txList skb.index).cur = frame := by
  rw [axNetStartXmit_eq h]
  exact xmitFrame_sentFrame hd _

theorem sendsPadded_iff {d : NetDev} {skb : TxSkb} (hd : d.CanXmit skb.index) :
    SendsPadded d skb ↔ skb.ZeroTailroom := by
  rw [← padShort_eq_padded_iff]
  constructor
  · rintro ⟨d', hok, hsent⟩
    cases hpad : padShort skb with
    | error f => cases (axNetStartXmit_error hpad).symm.trans hok
    | ok frame =>
        obtain ⟨d'', hok', hsent'⟩ := axNetStartXmit_sentFrame hd hpad
        obtain rfl := Except.ok.inj (hok.symm.trans hok')
        rw [← hsent, hsent']
  · exact axNetStartXmit_sentFrame hd

/-- **Transmitted bytes.** `ax_net_start_xmit` sends the frame's own bytes and zeros exactly if the
tailroom begins with the zeros; and two such frames with equal bytes are equal on the wire, whatever
the buffers and the rest of the tailroom held. -/
theorem axNetStartXmit_padded_iff {d₁ d₂ : NetDev} {skb₁ skb₂ : TxSkb}
    (h₁ : d₁.CanXmit skb₁.index) (h₂ : d₂.CanXmit skb₂.index) :
    (SendsPadded d₁ skb₁ ↔ skb₁.ZeroTailroom) ∧
      (skb₁.ZeroTailroom → skb₂.ZeroTailroom → skb₁.data = skb₂.data →
        ∃ d₁' d₂', axNetStartXmit d₁ skb₁ = .ok d₁' ∧ axNetStartXmit d₂ skb₂ = .ok d₂' ∧
          d₁'.sentFrame skb₁.index (d₁.txList skb₁.index).cur =
            d₂'.sentFrame skb₂.index (d₂.txList skb₂.index).cur) := by
  refine ⟨sendsPadded_iff h₁, fun hz₁ hz₂ hdata => ?_⟩
  obtain ⟨d₁', hok₁, hsent₁⟩ := (sendsPadded_iff h₁).mpr hz₁
  obtain ⟨d₂', hok₂, hsent₂⟩ := (sendsPadded_iff h₂).mpr hz₂
  refine ⟨d₁', d₂', hok₁, hok₂, ?_⟩
  rw [hsent₁, hsent₂, TxSkb.padded, TxSkb.padded, hdata]

/-! ## Short frames -/

/-- A frame of 42 bytes, as of an ARP request, with some tailroom. -/
def shortSkb (tailroom : List UInt8) : TxSkb where
  data := List.replicate 42 1
  tailroom := tailroom
  hwTstamp := false
  fits := by simp only [List.length_replicate, NIC_TX_HEADER_SIZE, DMA_PACKET_SIZE]; omega

/-- A probed device is opened. -/
theorem exists_opened_canXmit :
    ∃ d, axNetOpen probedDev = .ok d ∧ ∀ c, d.CanXmit c := by
  obtain ⟨d, hopen⟩ := axNetOpen_probedDev
  exact ⟨d, hopen, (TxInv.start probedDev_quiescent hopen).canXmit⟩

/-- The zeros of a cleared tailroom are sent, and what follows them makes no difference. -/
theorem axNetStartXmit_padded_short :
    ∃ d, axNetOpen probedDev = .ok d ∧
      SendsPadded d (shortSkb (List.replicate 18 0 ++ [0xAA])) ∧
      ∃ d₁ d₂, axNetStartXmit d (shortSkb (List.replicate 18 0 ++ [0xAA])) = .ok d₁ ∧
        axNetStartXmit d (shortSkb (List.replicate 18 0)) = .ok d₂ ∧
        d₁.sentFrame 0 (d.txList 0).cur = d₂.sentFrame 0 (d.txList 0).cur := by
  obtain ⟨d, hopen, hd⟩ := exists_opened_canXmit
  have hzero₁ : (shortSkb (List.replicate 18 0 ++ [0xAA])).ZeroTailroom := ⟨[0xAA], rfl⟩
  have hzero₂ : (shortSkb (List.replicate 18 0)).ZeroTailroom := ⟨[], rfl⟩
  obtain ⟨hiff, htwo⟩ := axNetStartXmit_padded_iff
    (hd (shortSkb (List.replicate 18 0 ++ [0xAA])).index) (hd (shortSkb (List.replicate 18 0)).index)
  exact ⟨d, hopen, hiff.mpr hzero₁, htwo hzero₁ hzero₂ rfl⟩

/-- A tailroom of one byte is overrun, a short frame without tailroom stays short, and what a frame
has behind it is sent. -/
theorem axNetStartXmit_pads_stale :
    ∃ d, axNetOpen probedDev = .ok d ∧
      axNetStartXmit d (shortSkb [0]) = .error .skbOverPanic ∧
      ¬ SendsPadded d (shortSkb []) ∧
      ∃ d', axNetStartXmit d (shortSkb (List.replicate 18 0xAA)) = .ok d' ∧
        d'.sentFrame 0 (d.txList 0).cur = List.replicate 42 1 ++ List.replicate 18 0xAA := by
  obtain ⟨d, hopen, hd⟩ := exists_opened_canXmit
  refine ⟨d, hopen, axNetStartXmit_error (f := .skbOverPanic) rfl, ?_,
    axNetStartXmit_sentFrame (hd _) rfl⟩
  rw [sendsPadded_iff (hd _)]
  rintro ⟨_, h⟩
  cases h

end Axm57104.Net
