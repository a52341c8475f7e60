import Axm57104.Dsa.TagAsix
import Axm57104.Switch.Capture

/-!
# Looking up the timestamp of a PTP frame

Four pieces of code know the layout of a tagged PTP frame: the tagger, which puts the port into the
tag; `ax_tx_check_timestamp`, which parses a frame on its way out; `ax_rx_check_timestamp`, which
parses one on its way in, with the data pointer behind the Ethernet header; and the switch, which
packs the message type, the domain and the sequence number into its capture record. The look-up in
the timestamp queue works because all four arrive at the same key.

`ptpKey` is that key, taken from the untagged frame's own PTP header.
-/

namespace Axm57104.Switch

open Common Net Dsa

@[simp] abbrev AX_TX_PTPHDR_OFFSET_L3 : ℕ := 42
@[simp] abbrev AX_RX_PTPHDR_OFFSET_L3 : ℕ := 28
@[simp] abbrev AX_TX_PTPHDR_OFFSET_L2 : ℕ := 14
@[simp] abbrev AX_RX_PTPHDR_OFFSET_L2 : ℕ := 0
@[simp] abbrev AX_ETHTYPE_OFFSET : ℕ := 12
@[simp] abbrev AX_IP_PROTO_OFFSET : ℕ := 9
@[simp] abbrev AX_UDP_PORT_OFFSET : ℕ := 22
@[simp] abbrev AX_PTP_EVENT_PORT_NUM : ℕ := 0x13F
@[simp] abbrev AX_SDSA : ℕ := 0xDCDC
@[simp] abbrev AX_SDSA_TAG_LENGTH_TX : ℕ := 8
@[simp] abbrev AX_SDSA_TAG_LENGTH_RX : ℕ := 6

@[simp] abbrev PTP_SEQ_ID_OFFSET : ℕ := 30
@[simp] abbrev PTP_MSG_TYPE_OFFSET : ℕ := 0
@[simp] abbrev PTP_SUBDOMAIN_OFFSET : ℕ := 4
@[simp] abbrev PTP_HDR_SIZE : ℕ := 34

@[simp] abbrev ETH_P_1588 : ℕ := 0x88F7
@[simp] abbrev ETH_P_IP : ℕ := 0x0800
@[simp] abbrev ETH_P_NET_LATENCY : ℕ := 0x808
@[simp] abbrev IPPROTO_UDP : UInt8 := 17

@[simp] abbrev TX_TIMESTAMP_RETRIES : ℕ := 21

/-! ## Parsing -/

/-- `SKB_TSTAMP_MSG`; `ptp_vlan_id` is always 0 and nothing reads it. -/
structure SkbTstampMsg where
  skb : SkBuff
  ptpMsgOffset : ℕ
  portTag : ℕ

/-- What `ax_rx_check_timestamp` decides to do with a frame. -/
inductive RxTstamp
  | none
  | netLatency
  | ptp (msg : SkbTstampMsg)

/-- The port in a tag: `(ntohs(tmp) & 0x1FF8) >> 3`. -/
def tagPort (tmp : ℕ) : ℕ := (tmp &&& 0x1FF8) >>> 3

/-- The parser in `ax_rx_check_timestamp`; offsets count from `skb->data`. -/
def rxTstamp (skb : SkBuff) : RxTstamp :=
  if skb.protocol = ETH_P_XDSA ∧ be16 skb.buf (skb.macHeader + 2 * ETH_ALEN) = AX_SDSA then
    let data := skb.bytes
    let sourcePort := tagPort (be16 data (AX_RX_PTPHDR_OFFSET_L2 + 2))
    let rxEthertype := be16 data (AX_RX_PTPHDR_OFFSET_L2 + AX_SDSA_TAG_LENGTH_RX)
    if rxEthertype = ETH_P_1588 then
      let msgType := byteAt data (AX_RX_PTPHDR_OFFSET_L2 + AX_SDSA_TAG_LENGTH_RX + 2)
      if msgType &&& 0xf ≤ 7 then
        .ptp ⟨skb, AX_RX_PTPHDR_OFFSET_L2 + AX_SDSA_TAG_LENGTH_RX + 2, sourcePort⟩
      else .none
    else if rxEthertype = ETH_P_NET_LATENCY then .netLatency
    else if rxEthertype = ETH_P_IP then
      if byteAt data (AX_IP_PROTO_OFFSET + AX_SDSA_TAG_LENGTH_RX + 2) = IPPROTO_UDP ∧
          be16 data (AX_UDP_PORT_OFFSET + AX_SDSA_TAG_LENGTH_RX + 2) = AX_PTP_EVENT_PORT_NUM then
        .ptp ⟨skb, AX_RX_PTPHDR_OFFSET_L3 + AX_SDSA_TAG_LENGTH_RX + 2, sourcePort⟩
      else .none
    else .none
  else .none

/-- The parser in `ax_tx_check_timestamp`; offsets count from the start of the frame. -/
def txTstamp (skb : SkBuff) : Option SkbTstampMsg :=
  if skb.hwTstamp ∧ be16 skb.bytes AX_ETHTYPE_OFFSET = AX_SDSA then
    let portId := tagPort (be16 skb.bytes (AX_ETHTYPE_OFFSET + 4))
    let txEthertype := be16 skb.bytes (AX_ETHTYPE_OFFSET + AX_SDSA_TAG_LENGTH_TX)
    if txEthertype = ETH_P_1588 then
      let msgType := byteAt skb.bytes (AX_ETHTYPE_OFFSET + AX_SDSA_TAG_LENGTH_TX + 2)
      if msgType &&& 0xF ≤ 7 then
        some ⟨skb, AX_TX_PTPHDR_OFFSET_L2 + AX_SDSA_TAG_LENGTH_TX, portId⟩
      else none
    else if txEthertype = ETH_P_IP then
      some ⟨skb, AX_TX_PTPHDR_OFFSET_L3 + AX_SDSA_TAG_LENGTH_TX, portId⟩
    else none
  else none

/-- The query that `ax_tsn_rx_hwtstamp` and `ax_tsn_tx_hwtstamp` build in their local `ts_d`. -/
def tstampQuery (msg : SkbTstampMsg) (tsD : CaptureData) : CaptureData :=
  let ptpHeader := slice msg.skb.bytes msg.ptpMsgOffset PTP_HDR_SIZE
  { tsD with
    msgType := byteAt ptpHeader PTP_MSG_TYPE_OFFSET &&& 0x0F
    sequenceId := UInt16.ofNat (be16 ptpHeader PTP_SEQ_ID_OFFSET)
    domainNumber := byteAt ptpHeader PTP_SUBDOMAIN_OFFSET &&& 0xFF
    portId := UInt8.ofNat msg.portTag }

/-! ## The look-ups -/

/-- `(sec * NS_PER_SEC) + nsec`, in 64 bits. -/
def tstampNs (sec nsec : UInt32) : UInt64 := sec.toUInt64 * 1000000000 + nsec.toUInt64

/-- The time a record gives in a PTP working mode: the free-running timer's for 802.1AS, the first
domain's for 1588, none for any other mode. -/
def tstampTime (ptpMode : ℤ) (tsD : CaptureData) : Option UInt64 :=
  if ptpMode = 0 then some (tstampNs (tsD.timestampH.get 0) (tsD.timestampL.get 0))
  else if ptpMode = 1 then some (tstampNs (tsD.timestampH.get 1) (tsD.timestampL.get 1))
  else none

variable {cap : Dir → ℕ}

/-- `ax_tsn_rx_hwtstamp` for the query `tsD`: the new hardware timestamp of the `skb`, if any. -/
def rxLookup (ptpMode : ℤ) (tsD : CaptureData) (s : AxSwitch cap) : Option UInt64 :=
  match axTsqFindItem1 (s.queue .rx) tsD with
  | (.success, tsD) => tstampTime ptpMode tsD
  | _ => none

/-- `ax_tsn_rx_hwtstamp`. -/
def axTsnRxHwtstamp (ptpMode : ℤ) (msg : SkbTstampMsg) (tsD : CaptureData) (s : AxSwitch cap) :
    Option UInt64 :=
  rxLookup ptpMode (tstampQuery msg tsD) s

/-- The retries of `ax_tsn_tx_hwtstamp` for the query `tsD`. The list holds, for each try, the
records captured since the one before it and what the drain's local `ts` holds on entry. -/
def txLookup (ptpMode : ℤ) (tsD : CaptureData) :
    List (List (Dir × HwRecord) × CaptureData) → AxSwitch cap → AxSwitch cap × Option UInt64
  | [], s => (s, none)
  | (captured, ts) :: tries, s =>
      let s := captured.foldl (fun s c => (s.step (.capture c.1 c.2)).1) s
      let s := (axRetrieveHwTimestamps ts s).1
      match axTsqFindItem1 (s.queue .tx) tsD with
      | (.success, tsD) => (s, tstampTime ptpMode tsD)
      | _ => txLookup ptpMode tsD tries s

/-- `ax_tsn_tx_hwtstamp`, with what happens before each of its tries. -/
def axTsnTxHwtstamp (ptpMode : ℤ) (msg : SkbTstampMsg) (tsD : CaptureData)
    (tries : Vector (List (Dir × HwRecord) × CaptureData) TX_TIMESTAMP_RETRIES) (s : AxSwitch cap) :
    AxSwitch cap × Option UInt64 :=
  txLookup ptpMode (tstampQuery msg tsD) tries.toList s

/-- `ax_rx_check_timestamp`. `regSec` and `regNsec` are the registers a net-latency frame reads;
`ts` and `tsD` are the locals of the drain and of the look-up on entry. -/
def axRxCheckTimestamp (ptpMode : ℤ) (regSec regNsec : UInt32) (ts tsD : CaptureData) (skb : SkBuff)
    (s : AxSwitch cap) : AxSwitch cap × Option UInt64 :=
  match rxTstamp skb with
  | .none => (s, none)
  | .netLatency => (s, some (tstampNs regSec regNsec))
  | .ptp msg =>
      let s := axRetrieveRxHwTimestamps ts s
      (s, axTsnRxHwtstamp ptpMode msg tsD s)

/-- `ax_tx_check_timestamp`. -/
def axTxCheckTimestamp (ptpMode : ℤ) (tsD : CaptureData)
    (tries : Vector (List (Dir × HwRecord) × CaptureData) TX_TIMESTAMP_RETRIES) (skb : SkBuff)
    (s : AxSwitch cap) : AxSwitch cap × Option UInt64 :=
  match txTstamp skb with
  | none => (s, none)
  | some msg => axTsnTxHwtstamp ptpMode msg tsD tries s

/-! ## PTP event frames -/

/-- The length of the 802.1Q tag of a frame. -/
def vlanLen (frame : List UInt8) : ℕ := if etherType frame = ETH_P_8021Q then 4 else 0

/-- `IsPtpEvent frame off`: a PTP event message whose header begins at `off`, over Ethernet or over
UDP in IPv4 without options, with at most one 802.1Q tag. -/
inductive IsPtpEvent (frame : List UInt8) : ℕ → Prop
  | l2 (htype : be16 frame (12 + vlanLen frame) = ETH_P_1588)
      (hmsg : byteAt frame (14 + vlanLen frame) &&& 0xf ≤ 7)
      (hlong : 14 + vlanLen frame + PTP_HDR_SIZE ≤ frame.length) :
      IsPtpEvent frame (14 + vlanLen frame)
  | l3 (htype : be16 frame (12 + vlanLen frame) = ETH_P_IP)
      (hihl : byteAt frame (14 + vlanLen frame) = 0x45)
      (hudp : byteAt frame (14 + 9 + vlanLen frame) = IPPROTO_UDP)
      (hport : be16 frame (14 + 20 + 2 + vlanLen frame) = 319)
      (hlong : 42 + vlanLen frame + PTP_HDR_SIZE ≤ frame.length) :
      IsPtpEvent frame (42 + vlanLen frame)

/-- The port `p` together with the type, the sequence number and the domain in the PTP header at
`off`. -/
def ptpKey (p : ℕ) (frame : List UInt8) (off : ℕ) : UInt8 × UInt8 × UInt16 × UInt8 :=
  (UInt8.ofNat p, byteAt frame off &&& 0x0F, UInt16.ofNat (be16 frame (off + 30)),
    byteAt frame (off + 4))

section TagFrame

variable {frame : List UInt8} {b₀ b₁ : UInt8} {off : ℕ}

/-- What follows the tag is the frame from its (inner) type field on. -/
theorem drop_tagFrame_vlanLen (h : 12 ≤ frame.length) :
    (tagFrame b₀ b₁ frame).drop 20 = frame.drop (12 + vlanLen frame) := by
  rw [drop_tagFrame_tag h, vlanLen]
  split <;> rfl

theorem byteAt_tagFrame_rest (h : 12 ≤ frame.length) (i : ℕ) :
    byteAt (tagFrame b₀ b₁ frame) (20 + i) = byteAt frame (12 + i + vlanLen frame) := by
  rw [← byteAt_drop, drop_tagFrame_vlanLen h, byteAt_drop, Nat.add_right_comm]

theorem be16_tagFrame_rest (h : 12 ≤ frame.length) (i : ℕ) :
    be16 (tagFrame b₀ b₁ frame) (20 + i) = be16 frame (12 + i + vlanLen frame) := by
  rw [← be16_drop, drop_tagFrame_vlanLen h, be16_drop, Nat.add_right_comm]

theorem etherType_tagFrame (h : 12 ≤ frame.length) :
    etherType (tagFrame b₀ b₁ frame) = AX_SDSA := by
  have h0 : byteAt (tagFrame b₀ b₁ frame) 12 = 0xDC := byteAt_tagFrame h 0
  have h1 : byteAt (tagFrame b₀ b₁ frame) 13 = 0xDC := byteAt_tagFrame h 1
  simp only [etherType, be16, ETH_ALEN, Nat.reduceMul, Nat.reduceAdd, h0, h1]
  rfl

theorem tagPort_tagFrame (h : 12 ≤ frame.length) {p : ℕ} (hp : p < 32)
    (hb : b₀ ∈ [0x60, 0x40, 0x20, 0x00]) :
    tagPort (be16 (tagFrame b₀ (UInt8.ofNat (p <<< 3)) frame) 16) = p := by
  have h0 : byteAt (tagFrame b₀ (UInt8.ofNat (p <<< 3)) frame) 16 = b₀ := byteAt_tagFrame h 4
  have h1 : byteAt (tagFrame b₀ (UInt8.ofNat (p <<< 3)) frame) 17 = UInt8.ofNat (p <<< 3) :=
    byteAt_tagFrame h 5
  rw [tagPort, be16, h0, h1]
  simp only [List.mem_cons, List.not_mem_nil, or_false] at hb
  rcases hb with rfl | rfl | rfl | rfl <;> interval_cases p <;> rfl

theorem IsPtpEvent.length_le (h : IsPtpEvent frame off) : 48 ≤ frame.length := by
  cases h with
  | l2 _ _ hlong => simp only [PTP_HDR_SIZE] at hlong; omega
  | l3 _ _ _ _ hlong => simp only [PTP_HDR_SIZE] at hlong; omega

/-- The key a look-up uses, from the place of the PTP header and the port. -/
theorem key_tstampQuery (msg : SkbTstampMsg) (tsD : CaptureData) :
    (tstampQuery msg tsD).key = ptpKey msg.portTag msg.skb.bytes msg.ptpMsgOffset := by
  simp only [tstampQuery, CaptureData.key, ptpKey, PTP_HDR_SIZE, PTP_MSG_TYPE_OFFSET,
    PTP_SEQ_ID_OFFSET, PTP_SUBDOMAIN_OFFSET]
  rw [byteAt_slice _ _ (by omega), byteAt_slice _ _ (by omega), be16_slice _ _ (by omega),
    Nat.add_zero]
  have hmask : byteAt msg.skb.bytes (msg.ptpMsgOffset + 4) &&& 0xFF =
      byteAt msg.skb.bytes (msg.ptpMsgOffset + 4) := by
    apply UInt8.toNat_inj.mp
    rw [UInt8.toNat_and]
    exact Nat.and_two_pow_sub_one_of_lt_two_pow (UInt8.toNat_lt _)
  rw [hmask]

theorem ptpKey_drop (p : ℕ) (l : List UInt8) (n i : ℕ) :
    ptpKey p (l.drop n) i = ptpKey p l (n + i) := by
  simp only [ptpKey, byteAt_drop, be16_drop, Nat.add_assoc]

/-- A key taken from behind the tag is the key of the frame itself. -/
theorem ptpKey_tagFrame (h : 12 ≤ frame.length) (p i : ℕ) :
    ptpKey p (tagFrame b₀ b₁ frame) (20 + i) = ptpKey p frame (12 + i + vlanLen frame) := by
  have hfield : ∀ j, 12 + (i + j) + vlanLen frame = 12 + i + vlanLen frame + j := by
    intro j
    omega
  simp only [ptpKey, Nat.add_assoc 20, byteAt_tagFrame_rest h, be16_tagFrame_rest h, hfield]

/-- `ax_tx_check_timestamp` finds the PTP header and the port of a tagged event frame. -/
theorem txTstamp_tagFrame (h : IsPtpEvent frame off) {p : ℕ} (hp : p < 32)
    (hb : b₀ ∈ [0x60, 0x40, 0x20, 0x00]) {out : SkBuff} (hflag : out.hwTstamp = true)
    (hout : out.bytes = tagFrame b₀ (UInt8.ofNat (p <<< 3)) frame) (tsD : CaptureData) :
    ∃ msg, txTstamp out = some msg ∧ (tstampQuery msg tsD).key = ptpKey p frame off := by
  have h12 : 12 ≤ frame.length := Nat.le_trans (by decide) h.length_le
  have hport := tagPort_tagFrame h12 hp hb
  set tagged := tagFrame b₀ (UInt8.ofNat (p <<< 3)) frame
  have hsdsa : be16 tagged 12 = AX_SDSA := etherType_tagFrame h12
  have hinner : be16 tagged 20 = be16 frame (12 + vlanLen frame) := be16_tagFrame_rest h12 0
  have hfirst : byteAt tagged 22 = byteAt frame (14 + vlanLen frame) := byteAt_tagFrame_rest h12 2
  rw [txTstamp, hout, if_pos ⟨hflag, hsdsa⟩]
  simp only [AX_ETHTYPE_OFFSET, AX_SDSA_TAG_LENGTH_TX, AX_TX_PTPHDR_OFFSET_L2,
    AX_TX_PTPHDR_OFFSET_L3, Nat.reduceAdd, hinner, hfirst, hport]
  cases h with
  | l2 htype hmsg _ =>
      rw [if_pos htype, if_pos hmsg]
      refine ⟨_, rfl, ?_⟩
      rw [key_tstampQuery, hout]
      exact ptpKey_tagFrame h12 p 2
  | l3 htype _ _ _ _ =>
      rw [if_neg (by rw [htype]; decide), if_pos htype]
      refine ⟨_, rfl, ?_⟩
      rw [key_tstampQuery, hout]
      exact ptpKey_tagFrame h12 p 30

/-- `ax_rx_check_timestamp` finds them in a received frame, 14 bytes behind its start. -/
theorem rxTstamp_tagFrame (h : IsPtpEvent frame off) {p : ℕ} (hp : p < 32)
    (hb : b₀ ∈ [0x60, 0x40, 0x20, 0x00]) {netdev : RxDev} (hdsa : netdev.usesDsa = true)
    (reserved : List UInt8) (tsD : CaptureData) :
    ∃ msg, rxTstamp (axEthTypeTrans netdev
        (skbReceived reserved (tagFrame b₀ (UInt8.ofNat (p <<< 3)) frame))) = .ptp msg ∧
      (tstampQuery msg tsD).key = ptpKey p frame off := by
  have h12 : 12 ≤ frame.length := Nat.le_trans (by decide) h.length_le
  have hport := tagPort_tagFrame h12 hp hb
  set tagged := tagFrame b₀ (UInt8.ofNat (p <<< 3)) frame
  set rx := axEthTypeTrans netdev (skbReceived reserved tagged) with hrx
  have hsdsa : etherType tagged = AX_SDSA := etherType_tagFrame h12
  have hframe : (skbReceived reserved tagged).bytes = tagged := List.drop_left
  have hlong : ETH_HLEN ≤ (skbReceived reserved tagged).bytes.length := by
    rw [hframe]
    exact Nat.le_of_add_right_le (length_tagFrame (Nat.le_trans (by decide) h.length_le) fun _ =>
      Nat.le_trans (by decide) h.length_le)
  rw [axEthTypeTrans_of_le netdev hlong] at hrx
  have hdata : rx.bytes = tagged.drop 14 := by
    rw [← hframe, hrx, SkBuff.bytes, SkBuff.bytes, List.drop_drop]
  have hproto : rx.protocol = ETH_P_XDSA := by
    rw [hrx, hframe, rxProtocol, if_pos ⟨hdsa, hsdsa⟩]
  have hmac : be16 rx.buf (rx.macHeader + 2 * ETH_ALEN) = AX_SDSA := by
    rw [← hsdsa, etherType, ← hframe, hrx, SkBuff.bytes, be16_drop]
  have hinner : be16 tagged 20 = be16 frame (12 + vlanLen frame) := be16_tagFrame_rest h12 0
  have hfirst : byteAt tagged 22 = byteAt frame (14 + vlanLen frame) := byteAt_tagFrame_rest h12 2
  have hproto' : byteAt tagged 31 = byteAt frame (14 + 9 + vlanLen frame) :=
    byteAt_tagFrame_rest h12 11
  have hdst : be16 tagged 44 = be16 frame (14 + 20 + 2 + vlanLen frame) := be16_tagFrame_rest h12 24
  rw [rxTstamp, if_pos ⟨hproto, hmac⟩, hdata]
  simp only [AX_RX_PTPHDR_OFFSET_L2, AX_RX_PTPHDR_OFFSET_L3, AX_SDSA_TAG_LENGTH_RX,
    AX_IP_PROTO_OFFSET, AX_UDP_PORT_OFFSET, Nat.reduceAdd, be16_drop, byteAt_drop, hinner, hport,
    hfirst, hproto', hdst]
  cases h with
  | l2 htype hmsg _ =>
      rw [if_pos htype, if_pos hmsg]
      refine ⟨_, rfl, ?_⟩
      rw [key_tstampQuery, hdata, ptpKey_drop]
      exact ptpKey_tagFrame h12 p 2
  | l3 htype _ hudp hdport _ =>
      rw [if_neg (by rw [htype]; decide), if_neg (by rw [htype]; decide), if_pos htype,
        if_pos ⟨hudp, hdport⟩]
      refine ⟨_, rfl, ?_⟩
      rw [key_tstampQuery, hdata, ptpKey_drop]
      exact ptpKey_tagFrame h12 p 30

end TagFrame

/-- Byte 4 of the tag for a port of switch 0, as `sdsa_xmit` writes it. -/
theorem fromCpuKind_mem (frame : List UInt8) :
    UInt8.ofNat (fromCpuKind frame ||| ((0 &&& 0x3e0) >>> 5)) ∈
      ([0x60, 0x40, 0x20, 0x00] : List UInt8) := by
  rw [fromCpuKind]
  split <;> decide

/-- The same byte in the TO_CPU form. -/
theorem toCpuKind_mem (frame : List UInt8) :
    UInt8.ofNat (fromCpuKind frame ||| ((0 &&& 0x3e0) >>> 5)) &&& 0x3f ∈
      ([0x60, 0x40, 0x20, 0x00] : List UInt8) := by
  rw [toCpu_fromCpuKind]
  split <;> decide

/-! ## Hardware records -/

/-- The message info the switch captures for a type, a domain and a sequence number. -/
def packInfo (msgType domain : UInt8) (seq : UInt16) : UInt32 :=
  msgType.toUInt32 ||| domain.toUInt32 <<< 4 ||| seq.toUInt32 <<< 12

theorem toNat_packInfo {msgType : UInt8} (h : msgType < 16) (domain : UInt8) (seq : UInt16) :
    (packInfo msgType domain seq).toNat =
      msgType.toNat + 16 * domain.toNat + 4096 * seq.toNat := by
  have htype : msgType.toNat < 2 ^ 4 := h
  have hdomain := domain.toNat_lt
  have hseq := seq.toNat_lt
  have hsmall : domain.toNat <<< 4 + msgType.toNat < 2 ^ 12 := by
    rw [Nat.shiftLeft_eq]
    omega
  -- the three fields do not overlap, so the disjunction is a sum
  have hlow : msgType.toNat ||| domain.toNat <<< 4 = domain.toNat <<< 4 + msgType.toNat :=
    (Nat.or_comm _ _).trans (Nat.shiftLeft_add_eq_or_of_lt htype _).symm
  have hall : (domain.toNat <<< 4 + msgType.toNat) ||| seq.toNat <<< 12 =
      seq.toNat <<< 12 + (domain.toNat <<< 4 + msgType.toNat) :=
    (Nat.or_comm _ _).trans (Nat.shiftLeft_add_eq_or_of_lt hsmall _).symm
  have hdshift : (domain.toUInt32 <<< 4).toNat = domain.toNat <<< 4 := by
    rw [UInt32.toNat_shiftLeft, UInt8.toNat_toUInt32]
    refine Nat.mod_eq_of_lt ?_
    rw [Nat.shiftLeft_eq]
    have : (4 : UInt32).toNat % 32 = 4 := rfl
    rw [this]
    omega
  have hsshift : (seq.toUInt32 <<< 12).toNat = seq.toNat <<< 12 := by
    rw [UInt32.toNat_shiftLeft, UInt16.toNat_toUInt32]
    refine Nat.mod_eq_of_lt ?_
    rw [Nat.shiftLeft_eq]
    have : (12 : UInt32).toNat % 32 = 12 := rfl
    rw [this]
    omega
  rw [packInfo, UInt32.toNat_or, UInt32.toNat_or, hdshift, hsshift, UInt8.toNat_toUInt32, hlow, hall,
    Nat.shiftLeft_eq, Nat.shiftLeft_eq]
  omega

/-- The key of a record is what the switch packed into it. -/
theorem key_decode {msgType : UInt8} (h : msgType < 16) (domain : UInt8) (seq : UInt16) (port : UInt8)
    {r : HwRecord} (hport : r.port = port.toUInt32) (hinfo : r.messageInfo = packInfo msgType domain seq)
    (numberOfDomains : ℕ) (ts : CaptureData) :
    (r.decode numberOfDomains ts).key = (port, msgType, seq, domain) := by
  have hnat := toNat_packInfo h domain seq
  have htype : msgType.toNat < 16 := h
  have hdomain := domain.toNat_lt
  have hseq := seq.toNat_lt
  simp only [HwRecord.decode, CaptureData.key, Prod.mk.injEq]
  refine ⟨?_, ?_, ?_, ?_⟩
  · rw [hport]
    simp
  · apply UInt8.toNat_inj.mp
    rw [UInt8.toNat_ofBitVec, BitVec.toNat_setWidth, BitVec.extractLsb_toNat, UInt32.toNat_toBitVec,
      hinfo, hnat, Nat.shiftRight_eq_div_pow]
    omega
  · apply UInt16.toNat_inj.mp
    rw [UInt16.toNat_ofBitVec, BitVec.extractLsb_toNat, UInt32.toNat_toBitVec, hinfo, hnat,
      Nat.shiftRight_eq_div_pow]
    omega
  · apply UInt8.toNat_inj.mp
    rw [UInt8.toNat_ofBitVec, BitVec.extractLsb_toNat, UInt32.toNat_toBitVec, hinfo, hnat,
      Nat.shiftRight_eq_div_pow]
    omega

/-! ## Agreement -/

/-- **One key.** For a PTP event frame sent to or received from a port, the transmit and the receive
path look up the key of the frame's own header, and the record the switch captures for exactly that
header and port matches it. -/
theorem ptpKeys_agree {dp : DsaPort} (hds : dp.dsIndex = 0) (hport : dp.index < 32) (pad : SkbPad)
    {skb : SkBuff} (hproto : skb.protocol = etherType skb.bytes) (hflag : skb.hwTstamp = true)
    {off : ℕ} (hevent : IsPtpEvent skb.bytes off) {netdev : RxDev} (hdsa : netdev.usesDsa = true)
    (reserved : List UInt8) {cap : Dir → ℕ} (s : AxSwitch cap) (ptpMode : ℤ)
    (regSec regNsec : UInt32) (ts tsD : CaptureData)
    (tries : Vector (List (Dir × HwRecord) × CaptureData) TX_TIMESTAMP_RETRIES) :
    ∃ out, sdsaXmit (some pad) dp skb = some out ∧
      (∃ query, axTxCheckTimestamp ptpMode tsD tries out s =
          txLookup ptpMode query tries.toList s ∧
        query.key = ptpKey dp.index skb.bytes off) ∧
      (∃ query, axRxCheckTimestamp ptpMode regSec regNsec ts tsD
            (axEthTypeTrans netdev (skbReceived reserved (toCpu out.bytes))) s =
          (axRetrieveRxHwTimestamps ts s, rxLookup ptpMode query (axRetrieveRxHwTimestamps ts s)) ∧
        query.key = ptpKey dp.index skb.bytes off) ∧
      ∀ (query : CaptureData), query.key = ptpKey dp.index skb.bytes off →
        ∀ (port msgType domain : UInt8) (seq : UInt16) (r : HwRecord), msgType < 16 →
          r.port = port.toUInt32 → r.messageInfo = packInfo msgType domain seq →
            (axTsqCheckItem1 (r.decode s.numberOfDomains ts) query = true ↔
              (port, msgType, seq, domain) = ptpKey dp.index skb.bytes off) := by
  have h12 : 12 ≤ skb.bytes.length := Nat.le_trans (by decide) hevent.length_le
  obtain ⟨out, hxmit, hout⟩ :=
    sdsaXmit_bytes pad dp hproto (Nat.le_trans (by decide) hevent.length_le)
  rw [hds] at hout
  refine ⟨out, hxmit, ?_, ?_, ?_⟩
  · obtain ⟨msg, hmsg, hkey⟩ := txTstamp_tagFrame hevent hport (fromCpuKind_mem skb.bytes)
      ((sdsaXmit_hwTstamp hxmit).trans hflag) hout tsD
    refine ⟨_, ?_, hkey⟩
    rw [axTxCheckTimestamp, hmsg]
    rfl
  · obtain ⟨msg, hmsg, hkey⟩ := rxTstamp_tagFrame hevent hport (toCpuKind_mem skb.bytes) hdsa
      reserved tsD
    refine ⟨_, ?_, hkey⟩
    rw [hout, toCpu_tagFrame h12, axRxCheckTimestamp, hmsg]
    rfl
  · intro query hquery port msgType domain seq r htype hrport hinfo
    rw [axTsqCheckItem1_iff, key_decode htype domain seq port hrport hinfo, hquery]

/-- A Sync message in domain 5 with sequence number 0x0102, sent to port 3. -/
theorem ptpKeys_agree_sync :
    let header : List UInt8 := [0, 2, 0, 44, 5] ++ List.replicate 25 0 ++ [1, 2, 0, 0]
    let frame := List.replicate 12 0 ++ [0x88, 0xF7] ++ header
    let skb : SkBuff := ⟨frame, 0, 0x88F7, 0, .host, none, false, true⟩
    let stack : CaptureData := ⟨0, .replicate 3 0, .replicate 3 0, 0, 0, 0⟩
    let s : AxSwitch fun _ => 1 :=
      AxSwitch.init (fun _ => Nat.one_pos) (fun _ => #v[stack]) ⟨2, le_rfl⟩ ⟨fun _ => []⟩
    let tries := Vector.replicate TX_TIMESTAMP_RETRIES (([] : List (Dir × HwRecord)), stack)
    ∃ out, sdsaXmit (some ⟨List.replicate 32 0, by decide⟩) ⟨0, 3, .user, some 7⟩ skb = some out ∧
      ∃ query, axTxCheckTimestamp 0 stack tries out s = txLookup 0 query tries.toList s ∧
        query.key = (3, 0, 0x0102, 5) := by
  intro header frame skb stack s tries
  have hproto : skb.protocol = etherType skb.bytes := by decide
  have hevent : IsPtpEvent skb.bytes (14 + vlanLen skb.bytes) :=
    IsPtpEvent.l2 (by decide) (by decide) (by decide)
  have hdsa : (⟨1, [], [], true⟩ : RxDev).usesDsa = true := rfl
  have hds : (⟨0, 3, .user, some 7⟩ : DsaPort).dsIndex = 0 := rfl
  obtain ⟨out, hxmit, ⟨query, hlookup, hkey⟩, -⟩ := ptpKeys_agree hds (by decide)
    ⟨List.replicate 32 0, by decide⟩ hproto rfl hevent hdsa [] s 0 0 0 stack stack tries
  exact ⟨out, hxmit, query, hlookup, hkey.trans (by decide)⟩

end Axm57104.Switch
