import Axm57104.Common.Prog
import Axm57104.Switch.Hwtstamp

/-!
# What the timestamp parsers read

`ax_rx_check_timestamp` and `ax_tx_check_timestamp` go by type fields at fixed offsets and never
look at the length of the frame. Behind the end of a short frame they read whatever the buffer held
before, type fields included.

Here the parsers are programs over the memory of a frame, one access for each
`skb_copy_from_linear_data_offset`. They decide as `rxTstamp` and `txTstamp` do
(`run_axRxCheckReads`, `run_axTxCheckReads`), and stay inside a frame exactly if it is
`RxLongEnough` or `TxLongEnough`.
-/

namespace Axm57104.Switch

open Common Net

/-! ## The memory of a frame -/

/-- A copy of `len` bytes from offset `off`, counted from the start of the frame. -/
structure SkbRead where
  off : ℕ
  len : ℕ
  deriving DecidableEq, Repr

/-- The memory from the start of a frame on. What lies behind the frame is not erased. -/
abbrev FrameMem : Type := ℕ → UInt8

def frameDev : Device FrameMem SkbRead (List UInt8) :=
  fun r m => ((List.range r.len).map fun i => m (r.off + i), m)

abbrev ReadM (α : Type) : Type := Prog SkbRead (List UInt8) Empty α

/-- The 16-bit field at an offset, in network byte order. -/
def memBe16 (m : FrameMem) (off : ℕ) : ℕ := (m off).toNat * 256 + (m (off + 1)).toNat

/-- `skb_copy_from_linear_data_offset`. -/
def skbCopy (off len : ℕ) : ReadM (List UInt8) := .op ⟨off, len⟩ .ret

def skbCopy16 (off : ℕ) : ReadM ℕ := do
  let tmp ← skbCopy off 2
  pure (be16 tmp 0)

def skbCopy8 (off : ℕ) : ReadM UInt8 := do
  let tmp ← skbCopy off 1
  pure (byteAt tmp 0)

/-! ## The parsers -/

/-- What becomes of a frame: no timestamp, the current time, or a look-up with the key in the PTP
header at `off`. -/
inductive Stamp
  | none
  | netLatency
  | lookup (off : ℕ) (key : UInt8 × UInt8 × UInt16 × UInt8)
  deriving DecidableEq, Repr

/-- The beginning of `ax_tsn_rx_hwtstamp` and of `ax_tsn_tx_hwtstamp`. -/
def readPtpHeader (portTag off : ℕ) : ReadM Stamp := do
  let ptpHeader ← skbCopy off PTP_HDR_SIZE
  pure (.lookup off (ptpKey portTag ptpHeader PTP_MSG_TYPE_OFFSET))

/-- `ax_rx_check_timestamp`, for a frame with this `skb->protocol` and with `skb->data` this far
behind the start of the frame. -/
def axRxCheckReads (protocol data : ℕ) : ReadM Stamp :=
  if protocol = ETH_P_XDSA then do
    let rxEthertype ← skbCopy16 (2 * ETH_ALEN)
    if rxEthertype = AX_SDSA then do
      let tmp ← skbCopy16 (data + (AX_RX_PTPHDR_OFFSET_L2 + 2))
      let rxEthertype ← skbCopy16 (data + (AX_RX_PTPHDR_OFFSET_L2 + AX_SDSA_TAG_LENGTH_RX))
      if rxEthertype = ETH_P_1588 then do
        let msgType ← skbCopy8 (data + (AX_RX_PTPHDR_OFFSET_L2 + AX_SDSA_TAG_LENGTH_RX + 2))
        if msgType &&& 0xf ≤ 7 then
          readPtpHeader (tagPort tmp) (data + (AX_RX_PTPHDR_OFFSET_L2 + AX_SDSA_TAG_LENGTH_RX + 2))
        else pure .none
      else if rxEthertype = ETH_P_NET_LATENCY then pure .netLatency
      else if rxEthertype = ETH_P_IP then do
        let transportProto ← skbCopy8 (data + (AX_IP_PROTO_OFFSET + AX_SDSA_TAG_LENGTH_RX + 2))
        if transportProto = IPPROTO_UDP then do
          let dstPort ← skbCopy16 (data + (AX_UDP_PORT_OFFSET + AX_SDSA_TAG_LENGTH_RX + 2))
          if dstPort = AX_PTP_EVENT_PORT_NUM then
            readPtpHeader (tagPort tmp)
              (data + (AX_RX_PTPHDR_OFFSET_L3 + AX_SDSA_TAG_LENGTH_RX + 2))
          else pure .none
        else pure .none
      else pure .none
    else pure .none
  else pure .none

/-- `ax_tx_check_timestamp`, for a frame with or without `SKBTX_HW_TSTAMP`. -/
def axTxCheckReads (hwTstamp : Bool) : ReadM Stamp :=
  if hwTstamp then do
    let txEthertype ← skbCopy16 AX_ETHTYPE_OFFSET
    if txEthertype = AX_SDSA then do
      let tmp ← skbCopy16 (AX_ETHTYPE_OFFSET + 4)
      let txEthertype ← skbCopy16 (AX_ETHTYPE_OFFSET + AX_SDSA_TAG_LENGTH_TX)
      if txEthertype = ETH_P_1588 then do
        let msgType ← skbCopy8 (AX_ETHTYPE_OFFSET + AX_SDSA_TAG_LENGTH_TX + 2)
        if msgType &&& 0xF ≤ 7 then
          readPtpHeader (tagPort tmp) (AX_TX_PTPHDR_OFFSET_L2 + AX_SDSA_TAG_LENGTH_TX)
        else pure .none
      else if txEthertype = ETH_P_IP then
        readPtpHeader (tagPort tmp) (AX_TX_PTPHDR_OFFSET_L3 + AX_SDSA_TAG_LENGTH_TX)
      else pure .none
    else pure .none
  else pure .none

/-! ## The accesses of a parser -/

section Accesses

variable {α : Type} {m : FrameMem}

theorem run_skbCopy16 (off : ℕ) (k : ℕ → ReadM α) :
    ((skbCopy16 off >>= k).run frameDev m).result = ((k (memBe16 m off)).run frameDev m).result :=
  rfl

theorem run_skbCopy8 (off : ℕ) (k : UInt8 → ReadM α) :
    ((skbCopy8 off >>= k).run frameDev m).result = ((k (m off)).run frameDev m).result :=
  rfl

/-- The key in a PTP header does not depend on where the header was copied to. -/
theorem run_readPtpHeader (portTag off : ℕ) : ((readPtpHeader portTag off).run frameDev m).result =
    .ok (.lookup off (UInt8.ofNat portTag, m off &&& 0x0F, UInt16.ofNat (memBe16 m (off + 30)),
      m (off + 4))) :=
  rfl

end Accesses

/-! ## The parsers decide as before -/

/-- What the parser in `ax_rx_check_timestamp` has decided, for `skb->data` at offset `data`. -/
def RxTstamp.stamp (tsD : CaptureData) (data : ℕ) : RxTstamp → Stamp
  | .none => .none
  | .netLatency => .netLatency
  | .ptp msg => .lookup (data + msg.ptpMsgOffset) (tstampQuery msg tsD).key

/-- The memory of the frame of an `skb`, from offset `start` of its buffer on. -/
def frameMem (skb : SkBuff) (start : ℕ) : FrameMem := fun i => byteAt skb.buf (start + i)

theorem memBe16_frameMem (skb : SkBuff) (start off : ℕ) :
    memBe16 (frameMem skb start) off = be16 skb.buf (start + off) :=
  rfl

/-- A look-up reads the key of its query. -/
theorem run_readPtpHeader_mem (msg : SkbTstampMsg) (tsD : CaptureData) {start data : ℕ}
    (hdata : msg.skb.data = start + data) :
    ((readPtpHeader msg.portTag (data + msg.ptpMsgOffset)).run frameDev
        (frameMem msg.skb start)).result =
      .ok (.lookup (data + msg.ptpMsgOffset) (tstampQuery msg tsD).key) := by
  rw [run_readPtpHeader, key_tstampQuery, ptpKey, memBe16_frameMem, SkBuff.bytes, hdata]
  simp only [frameMem, byteAt_drop, be16_drop, Nat.add_assoc]

/-- `ax_rx_check_timestamp` reads what it decides on. -/
theorem run_axRxCheckReads (skb : SkBuff) (tsD : CaptureData) {data : ℕ}
    (hdata : skb.data = skb.macHeader + data) :
    ((axRxCheckReads skb.protocol data).run frameDev (frameMem skb skb.macHeader)).result =
      .ok ((rxTstamp skb).stamp tsD data) := by
  have hbe16 : ∀ i, be16 skb.bytes i = memBe16 (frameMem skb skb.macHeader) (data + i) := by
    intro i
    rw [memBe16_frameMem, SkBuff.bytes, be16_drop, hdata, Nat.add_assoc]
  have hbyte : ∀ i, byteAt skb.bytes i = frameMem skb skb.macHeader (data + i) := by
    intro i
    rw [frameMem, SkBuff.bytes, byteAt_drop, hdata, Nat.add_assoc]
  rw [axRxCheckReads, rxTstamp]
  by_cases hproto : skb.protocol = ETH_P_XDSA
  swap
  · rw [if_neg hproto, if_neg fun h => hproto h.1]
    rfl
  rw [if_pos hproto, run_skbCopy16, memBe16_frameMem]
  by_cases hsdsa : be16 skb.buf (skb.macHeader + 2 * ETH_ALEN) = AX_SDSA
  swap
  · rw [if_neg hsdsa, if_neg fun h => hsdsa h.2]
    rfl
  rw [if_pos hsdsa, if_pos ⟨hproto, hsdsa⟩, run_skbCopy16, run_skbCopy16]
  simp only [hbe16, hbyte]
  split
  · rw [run_skbCopy8]
    split
    · exact run_readPtpHeader_mem ⟨skb, _, _⟩ tsD hdata
    · rfl
  · split
    · rfl
    · split
      · rw [run_skbCopy8]
        split
        · rename_i hudp
          rw [run_skbCopy16]
          split
          · rename_i hport
            rw [if_pos ⟨hudp, hport⟩]
            exact run_readPtpHeader_mem ⟨skb, _, _⟩ tsD hdata
          · rename_i hport
            rw [if_neg fun h => hport h.2]
            rfl
        · rename_i hudp
          rw [if_neg fun h => hudp h.1]
          rfl
      · rfl

/-- `ax_tx_check_timestamp` reads what it decides on. -/
theorem run_axTxCheckReads (skb : SkBuff) (tsD : CaptureData) :
    ((axTxCheckReads skb.hwTstamp).run frameDev (frameMem skb skb.data)).result =
      .ok (((txTstamp skb).map fun msg =>
        Stamp.lookup msg.ptpMsgOffset (tstampQuery msg tsD).key).getD .none) := by
  have hbe16 : ∀ i, be16 skb.bytes i = memBe16 (frameMem skb skb.data) i := by
    intro i
    rw [memBe16_frameMem, SkBuff.bytes, be16_drop]
  have hbyte : ∀ i, byteAt skb.bytes i = frameMem skb skb.data i := by
    intro i
    rw [frameMem, SkBuff.bytes, byteAt_drop]
  have hheader : ∀ msg : SkbTstampMsg, msg.skb = skb →
      ((readPtpHeader msg.portTag msg.ptpMsgOffset).run frameDev (frameMem skb skb.data)).result =
        .ok (.lookup msg.ptpMsgOffset (tstampQuery msg tsD).key) := by
    rintro msg rfl
    have h := run_readPtpHeader_mem msg tsD (Nat.add_zero msg.skb.data).symm
    rwa [Nat.zero_add] at h
  rw [axTxCheckReads, txTstamp]
  simp only [hbe16, hbyte]
  by_cases hflag : skb.hwTstamp = true
  swap
  · rw [if_neg hflag, if_neg fun h => hflag h.1]
    rfl
  rw [if_pos hflag, run_skbCopy16]
  by_cases hsdsa : memBe16 (frameMem skb skb.data) AX_ETHTYPE_OFFSET = AX_SDSA
  swap
  · rw [if_neg hsdsa, if_neg fun h => hsdsa h.2]
    rfl
  rw [if_pos hsdsa, if_pos ⟨hflag, hsdsa⟩, run_skbCopy16, run_skbCopy16]
  split
  · rw [run_skbCopy8]
    split
    · exact hheader ⟨skb, _, _⟩ rfl
    · rfl
  · split
    · exact hheader ⟨skb, _, _⟩ rfl
    · rfl

/-! ## Reading inside the frame -/

/-- A parser stays inside a frame of `n` bytes: it reads nothing behind it, and looks up no header
that is not wholly in it. -/
structure ParsesInside (n : ℕ) (prog : ReadM Stamp) (m : FrameMem) : Prop where
  inside : ∀ x ∈ (prog.run frameDev m).log, x.1.off + x.1.len ≤ n
  notShort : ∀ off key, (prog.run frameDev m).result = .ok (.lookup off key) →
    off + PTP_HDR_SIZE ≤ n

section Inside

variable {n : ℕ} {m : FrameMem}

theorem parsesInside_ret {a : Stamp} (h : ∀ off key, a ≠ .lookup off key) :
    ParsesInside n (pure a) m := by
  refine ⟨fun x hx => absurd hx List.not_mem_nil, fun off key hres => ?_⟩
  exact absurd (Except.ok.inj hres) (h off key)

theorem parsesInside_none : ParsesInside n (pure .none) m := by
  apply parsesInside_ret
  simp

theorem parsesInside_netLatency : ParsesInside n (pure .netLatency) m := by
  apply parsesInside_ret
  simp

theorem parsesInside_readPtpHeader {portTag off : ℕ} :
    ParsesInside n (readPtpHeader portTag off) m ↔ off + PTP_HDR_SIZE ≤ n := by
  constructor
  · intro h
    exact h.notShort off _ rfl
  · intro h
    refine ⟨fun x hx => ?_, fun off' key hres => ?_⟩
    · rw [List.mem_singleton.mp hx]
      exact h
    · cases hres
      exact h

theorem parsesInside_ite {c : Prop} [Decidable c] {prog prog' : ReadM Stamp} :
    ParsesInside n (if c then prog else prog') m ↔
      (c → ParsesInside n prog m) ∧ (¬ c → ParsesInside n prog' m) := by
  by_cases hc : c
  · rw [if_pos hc]
    exact ⟨fun h => ⟨fun _ => h, fun h' => absurd hc h'⟩, fun h => h.1 hc⟩
  · rw [if_neg hc]
    exact ⟨fun h => ⟨fun h' => absurd h' hc, fun _ => h⟩, fun h => h.2 hc⟩

theorem parsesInside_skbCopy {off len : ℕ} {k : List UInt8 → ReadM Stamp} :
    ParsesInside n (skbCopy off len >>= k) m ↔
      off + len ≤ n ∧ ParsesInside n (k ((List.range len).map fun i => m (off + i))) m := by
  constructor
  · intro h
    obtain ⟨hfirst, hrest⟩ := List.forall_mem_cons.mp h.inside
    exact ⟨hfirst, hrest, h.notShort⟩
  · rintro ⟨hfirst, hrest⟩
    exact ⟨List.forall_mem_cons.mpr ⟨hfirst, hrest.inside⟩, hrest.notShort⟩

theorem parsesInside_skbCopy16 {off : ℕ} {k : ℕ → ReadM Stamp} :
    ParsesInside n (skbCopy16 off >>= k) m ↔
      off + 2 ≤ n ∧ ParsesInside n (k (memBe16 m off)) m :=
  parsesInside_skbCopy

theorem parsesInside_skbCopy8 {off : ℕ} {k : UInt8 → ReadM Stamp} :
    ParsesInside n (skbCopy8 off >>= k) m ↔ off + 1 ≤ n ∧ ParsesInside n (k (m off)) m :=
  parsesInside_skbCopy

/-- The port in the tag and the type field behind it. -/
theorem tag_fields {p : Prop} : 18 ≤ n ∧ 22 ≤ n ∧ p ↔ 22 ≤ n ∧ p :=
  ⟨fun h => h.2, fun h => ⟨Nat.le_trans (by decide) h.1, h⟩⟩

end Inside

/-! ## Received frames -/

/-- `ax_rx_check_timestamp` for a received frame of `n` bytes, behind `ax_eth_type_trans`: that
reads the type field whether or not the frame has one, and leaves `skb->data` at the start of a
frame that is too short for an Ethernet header. -/
def rxReads (netdev : RxDev) (n : ℕ) (m : FrameMem) : ReadM Stamp :=
  axRxCheckReads (rxProtocol netdev ((List.range (max n ETH_HLEN)).map m))
    (if n < ETH_HLEN then 0 else ETH_HLEN)

/-- The frame has all the bytes that its fields make `ax_rx_check_timestamp` read. -/
def RxLongEnough (netdev : RxDev) (n : ℕ) (m : FrameMem) : Prop :=
  netdev.usesDsa = true → memBe16 m 12 = AX_SDSA → 22 ≤ n ∧
    (memBe16 m 20 = ETH_P_1588 → 23 ≤ n ∧ (m 22 &&& 0xf ≤ 7 → 56 ≤ n)) ∧
    (memBe16 m 20 = ETH_P_IP → 32 ≤ n ∧
      (m 31 = IPPROTO_UDP → 46 ≤ n ∧ (memBe16 m 44 = AX_PTP_EVENT_PORT_NUM → 84 ≤ n)))

theorem be16_map_range {k off : ℕ} (m : FrameMem) (h : off + 2 ≤ k) :
    be16 ((List.range k).map m) off = memBe16 m off := by
  have hbyte : ∀ i < k, byteAt ((List.range k).map m) i = m i := by
    intro i hi
    rw [byteAt, List.getElem?_map, List.getElem?_range hi]
    rfl
  rw [be16, hbyte off (by omega), hbyte (off + 1) (by omega), memBe16]

theorem rxProtocol_eq_xdsa_iff (netdev : RxDev) (n : ℕ) (m : FrameMem) :
    rxProtocol netdev ((List.range (max n ETH_HLEN)).map m) = ETH_P_XDSA ↔
      netdev.usesDsa = true ∧ memBe16 m 12 = AX_SDSA := by
  have htype : etherType ((List.range (max n ETH_HLEN)).map m) = memBe16 m 12 :=
    be16_map_range m (Nat.le_max_right n ETH_HLEN)
  rw [rxProtocol, htype]
  split
  · rename_i hdsa
    exact iff_of_true rfl hdsa
  · rename_i hdsa
    refine iff_of_false ?_ hdsa
    simp only [ETH_P_802_3_MIN, ETH_P_XDSA, ETH_P_802_3, ETH_P_802_2]
    split
    · omega
    · split <;> decide

/-- The parser of a received frame decides as `rxTstamp` does. -/
theorem run_rxReads (netdev : RxDev) (reserved frame : List UInt8) (tsD : CaptureData) :
    let skb := axEthTypeTrans netdev (skbReceived reserved frame)
    let m := frameMem skb skb.macHeader
    ((rxReads netdev frame.length m).run frameDev m).result =
      .ok ((rxTstamp skb).stamp tsD (if frame.length < ETH_HLEN then 0 else ETH_HLEN)) := by
  intro skb m
  have hframe : (skbReceived reserved frame).bytes = frame := List.drop_left
  have hbuf : skb.buf = reserved ++ frame := by
    simp only [skb, axEthTypeTrans, skbPullInline]
    split <;> rfl
  have hdata : skb.data = skb.macHeader + (if frame.length < ETH_HLEN then 0 else ETH_HLEN) := by
    simp only [skb, axEthTypeTrans, skbPullInline, hframe]
    split <;> rfl
  have hbyte : ∀ i, m i = byteAt frame i := by
    intro i
    have hdrop := byteAt_drop (reserved ++ frame) reserved.length i
    rw [List.drop_left] at hdrop
    rw [hdrop, ← hbuf]
    rfl
  have hproto :
      skb.protocol = rxProtocol netdev ((List.range (max frame.length ETH_HLEN)).map m) := by
    have hbe16 : ∀ i, memBe16 m i = be16 frame i := fun i => by
      rw [memBe16, hbyte, hbyte, be16]
    have htype : etherType ((List.range (max frame.length ETH_HLEN)).map m) = etherType frame :=
      (be16_map_range m (Nat.le_max_right _ _)).trans (hbe16 _)
    have hlength : ETH_HLEN + 2 ≤ max frame.length ETH_HLEN ↔ ETH_HLEN + 2 ≤ frame.length := by
      simp only [ETH_HLEN]
      omega
    have hprotocol : skb.protocol = rxProtocol netdev frame := congrArg (rxProtocol netdev) hframe
    rw [hprotocol, rxProtocol, rxProtocol, htype, List.length_map, List.length_range]
    simp only [hlength]
    by_cases hlong : ETH_HLEN + 2 ≤ frame.length
    · rw [be16_map_range m (hlength.mpr hlong), hbe16]
    · simp only [hlong, false_and]
  rw [rxReads, ← hproto]
  exact run_axRxCheckReads skb tsD hdata

theorem rxReads_inside_iff (netdev : RxDev) (n : ℕ) (m : FrameMem) :
    ParsesInside n (rxReads netdev n m) m ↔ RxLongEnough netdev n m := by
  rw [rxReads, axRxCheckReads]
  by_cases hdsa : netdev.usesDsa = true ∧ memBe16 m 12 = AX_SDSA
  swap
  · rw [if_neg (mt (rxProtocol_eq_xdsa_iff netdev n m).mp hdsa)]
    exact iff_of_true parsesInside_none fun h₁ h₂ => absurd ⟨h₁, h₂⟩ hdsa
  rw [if_pos ((rxProtocol_eq_xdsa_iff netdev n m).mpr hdsa), parsesInside_skbCopy16]
  by_cases hn : n < ETH_HLEN
  · -- too short for the type field
    simp only [ETH_HLEN] at hn
    refine iff_of_false (fun h => ?_) fun h => ?_
    · have hfield := h.1
      simp only [ETH_ALEN] at hfield
      omega
    · have hlong := (h hdsa.1 hdsa.2).1
      omega
  have hip : memBe16 m 20 = ETH_P_IP →
      ¬ memBe16 m 20 = ETH_P_1588 ∧ ¬ memBe16 m 20 = ETH_P_NET_LATENCY := by
    intro h
    rw [h]
    decide
  have hhead : 14 ≤ n := Nat.not_lt.mp hn
  rw [if_neg hn, RxLongEnough]
  simp only [ETH_ALEN, ETH_HLEN, AX_RX_PTPHDR_OFFSET_L2, AX_RX_PTPHDR_OFFSET_L3,
    AX_SDSA_TAG_LENGTH_RX, AX_IP_PROTO_OFFSET, AX_UDP_PORT_OFFSET, PTP_HDR_SIZE, Nat.reduceMul,
    Nat.reduceAdd, hdsa, hhead, true_imp_iff, not_true_eq_false, true_and, and_true,
    implies_true, parsesInside_skbCopy16, parsesInside_skbCopy8, parsesInside_ite,
    parsesInside_none, parsesInside_netLatency, parsesInside_readPtpHeader, tag_fields]
  refine and_congr_right fun _ => and_congr_right fun _ => ?_
  exact ⟨fun h h' => h (hip h').1 (hip h').2 h', fun h _ _ h' => h h'⟩

/-! ## Transmitted frames -/

/-- The frame has all the bytes that its fields make `ax_tx_check_timestamp` read. A frame of type
IP is taken to have a PTP header without a look at its protocol and port. -/
def TxLongEnough (n : ℕ) (m : FrameMem) : Prop :=
  14 ≤ n ∧ (memBe16 m 12 = AX_SDSA → 22 ≤ n ∧
    (memBe16 m 20 = ETH_P_1588 → 23 ≤ n ∧ (m 22 &&& 0xf ≤ 7 → 56 ≤ n)) ∧
    (memBe16 m 20 = ETH_P_IP → 84 ≤ n))

theorem txReads_inside_iff (n : ℕ) (m : FrameMem) :
    ParsesInside n (axTxCheckReads true) m ↔ TxLongEnough n m := by
  have hip : memBe16 m 20 = ETH_P_IP → ¬ memBe16 m 20 = ETH_P_1588 := by
    intro h
    rw [h]
    decide
  rw [axTxCheckReads, TxLongEnough]
  simp only [if_true, AX_ETHTYPE_OFFSET, AX_SDSA_TAG_LENGTH_TX, AX_TX_PTPHDR_OFFSET_L2,
    AX_TX_PTPHDR_OFFSET_L3, PTP_HDR_SIZE, Nat.reduceAdd, and_true, implies_true,
    parsesInside_skbCopy16, parsesInside_skbCopy8, parsesInside_ite, parsesInside_none,
    parsesInside_readPtpHeader, tag_fields]
  refine and_congr_right fun _ => forall_congr' fun _ => and_congr_right fun _ =>
    and_congr_right fun _ => ?_
  exact ⟨fun h h' => h (hip h') h', fun h _ h' => h h'⟩

/-! ## Both directions -/

/-- **Reading inside the frame.** For every length and contents of a frame and of the memory behind
it, the timestamp parsers stay inside the frame exactly if it has all the fields that the fields
before them announce. -/
theorem tstampReads_inside_iff (netdev : RxDev) (n : ℕ) (m : FrameMem) :
    (ParsesInside n (rxReads netdev n m) m ↔ RxLongEnough netdev n m) ∧
      (ParsesInside n (axTxCheckReads true) m ↔ TxLongEnough n m) :=
  ⟨rxReads_inside_iff netdev n m, txReads_inside_iff n m⟩

/-- An SDSA frame of type IP with UDP port 319, and zeroes elsewhere. -/
def udpMem : FrameMem
  | 12 => 0xDC
  | 13 => 0xDC
  | 20 => 0x08
  | 31 => 17
  | 44 => 0x01
  | 45 => 0x3F
  | _ => 0

/-- In a frame of 60 bytes, both parsers read the PTP header up to byte 83. -/
theorem tstampReads_outside :
    ((rxReads ⟨1, [], [], true⟩ 60 udpMem).run frameDev udpMem).result =
        .ok (.lookup 50 (0, 0, 0, 0)) ∧
      ¬ ParsesInside 60 (rxReads ⟨1, [], [], true⟩ 60 udpMem) udpMem ∧
      ¬ ParsesInside 60 (axTxCheckReads true) udpMem := by
  have hrx : ((rxReads ⟨1, [], [], true⟩ 60 udpMem).run frameDev udpMem).result =
      .ok (.lookup 50 (0, 0, 0, 0)) := by decide
  have htx : ((axTxCheckReads true).run frameDev udpMem).result =
      .ok (.lookup 50 (0, 0, 0, 0)) := by decide
  refine ⟨hrx, fun h => ?_, fun h => ?_⟩
  · exact absurd (h.notShort 50 _ hrx) (by decide)
  · exact absurd (h.notShort 50 _ htx) (by decide)

end Axm57104.Switch
