import Axm57104.Common.Bytes

/-!
# Socket buffers

The linear buffer of a `struct sk_buff`, with the kernel's operations on it that the driver uses.
`data` is an offset into the buffer, so that code may write in front of it, as the tagger does.
Two-byte fields are big-endian on the wire; `protocol` and `be16` hold them as numbers.
-/

namespace Axm57104.Net

open Common

@[simp] abbrev ETH_ALEN : ℕ := 6

@[simp] abbrev ETH_HLEN : ℕ := 14

@[simp] abbrev ETH_P_8021Q : ℕ := 0x8100

/-- The protocol under which the DSA core takes frames. -/
@[simp] abbrev ETH_P_XDSA : ℕ := 0x00F8

@[simp] abbrev ETH_P_802_3 : ℕ := 0x0001

@[simp] abbrev ETH_P_802_2 : ℕ := 0x0004

@[simp] abbrev ETH_P_802_3_MIN : ℕ := 0x0600

/-- `skb->pkt_type`. -/
inductive PktType
  | host
  | broadcast
  | multicast
  | otherhost
  deriving DecidableEq, Repr

/-- The network devices a frame can belong to. -/
abbrev NetDevice : Type := ℕ

/-- `struct sk_buff`. -/
structure SkBuff where
  /-- The buffer from `skb->head` on. -/
  buf : List UInt8
  /-- The offset of `skb->data`. -/
  data : ℕ
  protocol : ℕ
  macHeader : ℕ
  pktType : PktType
  dev : Option NetDevice
  offloadFwdMark : Bool
  hwTstamp : Bool
  deriving DecidableEq

/-- The frame: what `skb->data` points to. -/
def SkBuff.bytes (skb : SkBuff) : List UInt8 := skb.buf.drop skb.data

/-- `skb_pull`. -/
def skbPull (skb : SkBuff) (n : ℕ) : SkBuff := { skb with data := skb.data + n }

/-- `skb_pull_inline`: a frame that is too short is left as it is. -/
def skbPullInline (skb : SkBuff) (n : ℕ) : SkBuff :=
  if skb.bytes.length < n then skb else skbPull skb n

/-- `skb_push`, for a buffer with `n` bytes of headroom. -/
def skbPush (skb : SkBuff) (n : ℕ) : SkBuff := { skb with data := skb.data - n }

/-- What `pskb_expand_head` puts in front of a buffer: at least `NET_SKB_PAD` bytes. -/
abbrev SkbPad : Type := {pad : List UInt8 // 32 ≤ pad.length}

/-- `skb_cow_head`: makes `n` bytes of headroom. `alloc` is the new headroom, `none` if there is no
memory. -/
def skbCowHead (alloc : Option SkbPad) (skb : SkBuff) (n : ℕ) : Option SkBuff :=
  if n ≤ skb.data then some skb
  else alloc.map fun pad => { skb with buf := pad.1 ++ skb.buf, data := pad.1.length + skb.data }

/-- `memmove` inside the buffer: the ranges may overlap. -/
def SkBuff.memmove (skb : SkBuff) (dst src n : ℕ) : SkBuff :=
  { skb with buf := overwrite skb.buf dst (slice skb.buf src n) }

/-- `memcpy` into the buffer. -/
def SkBuff.store (skb : SkBuff) (dst : ℕ) (bs : List UInt8) : SkBuff :=
  { skb with buf := overwrite skb.buf dst bs }

/-- The byte at offset `i`. -/
def byteAt (l : List UInt8) (i : ℕ) : UInt8 := l[i]?.getD 0

/-- The big-endian 16-bit number at offset `i`. -/
def be16 (l : List UInt8) (i : ℕ) : ℕ := (byteAt l i).toNat * 256 + (byteAt l (i + 1)).toNat

/-- The type field of an Ethernet frame. -/
def etherType (frame : List UInt8) : ℕ := be16 frame (2 * ETH_ALEN)

theorem byteAt_drop (l : List UInt8) (n i : ℕ) : byteAt (l.drop n) i = byteAt l (n + i) := by
  rw [byteAt, byteAt, List.getElem?_drop]

theorem be16_drop (l : List UInt8) (n i : ℕ) : be16 (l.drop n) i = be16 l (n + i) := by
  rw [be16, be16, byteAt_drop, byteAt_drop, Nat.add_assoc]

theorem byteAt_slice (l : List UInt8) (off : ℕ) {n i : ℕ} (h : i < n) :
    byteAt (slice l off n) i = byteAt l (off + i) := by
  rw [byteAt, byteAt, slice, List.getElem?_take_of_lt h, List.getElem?_drop]

theorem be16_slice (l : List UInt8) (off : ℕ) {n i : ℕ} (h : i + 1 < n) :
    be16 (slice l off n) i = be16 l (off + i) := by
  rw [be16, be16, byteAt_slice l off (by omega), byteAt_slice l off h, Nat.add_assoc]

theorem drop_eq_byteAt_cons {l : List UInt8} {i : ℕ} (h : i < l.length) :
    l.drop i = byteAt l i :: l.drop (i + 1) := by
  rw [List.drop_eq_getElem_cons h, byteAt, List.getElem?_eq_getElem h, Option.getD_some]

/-- A two-byte field determines its bytes. -/
theorem byteAt_of_be16 {l : List UInt8} {i n : ℕ} (h : be16 l i = n) :
    byteAt l i = UInt8.ofNat (n / 256) ∧ byteAt l (i + 1) = UInt8.ofNat (n % 256) := by
  have hhi := (byteAt l i).toNat_lt
  have hlo := (byteAt l (i + 1)).toNat_lt
  rw [be16] at h
  constructor
  · apply UInt8.toNat_inj.mp
    rw [UInt8.toNat_ofNat']
    omega
  · apply UInt8.toNat_inj.mp
    rw [UInt8.toNat_ofNat']
    omega

/-- After `skb_cow_head` there is headroom, and the frame is the same. -/
theorem skbCowHead_some (pad : SkbPad) (skb : SkBuff) {n : ℕ} (hn : n ≤ 32) :
    ∃ skb', skbCowHead (some pad) skb n = some skb' ∧ n ≤ skb'.data ∧ skb'.bytes = skb.bytes := by
  rw [skbCowHead]
  split
  · exact ⟨skb, rfl, by assumption, rfl⟩
  · refine ⟨_, rfl, Nat.le_trans (Nat.le_trans hn pad.2) (Nat.le_add_right _ _), ?_⟩
    exact List.drop_length_add_append _

/-! ## Reception -/

/-- What `ax_eth_type_trans` looks at in `ax_local->dev`. -/
structure RxDev where
  dev : NetDevice
  devAddr : List UInt8
  broadcast : List UInt8
  usesDsa : Bool

/-- The `skb` that `ax_net_rx` fills: two reserved bytes, then the frame. -/
def skbReceived (reserved frame : List UInt8) : SkBuff where
  buf := reserved ++ frame
  data := reserved.length
  protocol := 0
  macHeader := 0
  pktType := .host
  dev := none
  offloadFwdMark := false
  hwTstamp := false

/-- `is_multicast_ether_addr_64bits`. -/
def isMulticastEtherAddr (addr : List UInt8) : Bool := byteAt addr 0 &&& 1 != 0

/-- The packet type that `ax_eth_type_trans` derives from the destination address. -/
def rxPktType (netdev : RxDev) (pktType : PktType) (hDest : List UInt8) : PktType :=
  if hDest ≠ netdev.devAddr then
    if isMulticastEtherAddr hDest then
      if hDest = netdev.broadcast then .broadcast else .multicast
    else .otherhost
  else pktType

/-- The protocol that `ax_eth_type_trans` returns for a frame. -/
def rxProtocol (netdev : RxDev) (frame : List UInt8) : ℕ :=
  if netdev.usesDsa ∧ etherType frame = 0xDCDC then ETH_P_XDSA
  else if ETH_P_802_3_MIN ≤ etherType frame then etherType frame
  else if ETH_HLEN + 2 ≤ frame.length ∧ be16 frame ETH_HLEN = 0xFFFF then ETH_P_802_3
  else ETH_P_802_2

/-- `ax_eth_type_trans`, with the store of its result to `skb->protocol`. -/
def axEthTypeTrans (netdev : RxDev) (skb : SkBuff) : SkBuff :=
  { skbPullInline skb ETH_HLEN with
    dev := some netdev.dev
    macHeader := skb.data
    pktType := rxPktType netdev skb.pktType (skb.bytes.take ETH_ALEN)
    protocol := rxProtocol netdev skb.bytes }

/-- A frame with a whole Ethernet header. -/
theorem axEthTypeTrans_of_le (netdev : RxDev) {skb : SkBuff} (h : ETH_HLEN ≤ skb.bytes.length) :
    axEthTypeTrans netdev skb =
      { skb with
        data := skb.data + ETH_HLEN
        dev := some netdev.dev
        macHeader := skb.data
        pktType := rxPktType netdev skb.pktType (skb.bytes.take ETH_ALEN)
        protocol := rxProtocol netdev skb.bytes } := by
  rw [axEthTypeTrans, skbPullInline, if_neg (Nat.not_lt.mpr h), skbPull]

end Axm57104.Net
