import Axm57104.Net.SkBuff
import Mathlib.Tactic.IntervalCases

/-!
# The SDSA tag

Frames between the CPU and a user port of the switch carry an eight-byte tag behind the addresses:
the type `ETH_P_SDSA`, two zero bytes, two bytes with the frame kind and the port, and the VLAN tag
control information. `sdsa_xmit` inserts the tag, converting an 802.1Q tag if there is one;
`sdsa_rcv` takes it out again and finds the user device by the port in it.

The specifications of both are equations about the bytes of the frame, `sdsaXmit_bytes` and
`sdsaRcv_bytes`; the round trip composes them.
-/

namespace Axm57104.Dsa

open Common Net

@[simp] abbrev DSA_HLEN : ℕ := 4

@[simp] abbrev SDSA_HLEN : ℕ := 8

@[simp] abbrev ETH_P_SDSA : ℕ := 0xDCDC

@[simp] abbrev DSA_MAX_PORTS : ℕ := 12

/-- `enum dsa_port_type`. -/
inductive DsaPortType
  | unused
  | cpu
  | dsa
  | user
  deriving DecidableEq, Repr

/-- `struct dsa_port`, with the index of its switch. -/
structure DsaPort where
  dsIndex : ℕ
  index : ℕ
  type : DsaPortType
  user : Option NetDevice
  deriving DecidableEq

/-- `struct dsa_switch_tree`. `dsa_port_touch` adds a port only if its switch has none of that
index. -/
structure DsaSwitchTree where
  ports : List DsaPort
  unique : ports.Pairwise fun a b => ¬(a.dsIndex = b.dsIndex ∧ a.index = b.index)

/-- `dsa_conduit_find_user`. -/
def dsaConduitFindUser (dst : DsaSwitchTree) (device port : ℕ) : Option NetDevice :=
  (dst.ports.find? fun dp =>
    dp.dsIndex = device ∧ dp.index = port ∧ dp.type = .user).bind DsaPort.user

/-- The bytes of the tag that name the frame kind and the port. -/
def fromCpuTag (kind : ℕ) (dp : DsaPort) : List UInt8 :=
  [UInt8.ofNat (kind ||| ((dp.dsIndex &&& 0x3e0) >>> 5)), UInt8.ofNat (dp.index <<< 3)]

/-- The first four bytes of the tag. -/
def sdsaEtherType : List UInt8 :=
  [UInt8.ofNat ((ETH_P_SDSA >>> 8) &&& 0xff), UInt8.ofNat (ETH_P_SDSA &&& 0xff), 0x00, 0x00]

/-- The body of both branches of `sdsa_xmit`: `hlen` more bytes in front, the addresses moved there,
and `header` written behind them. -/
def insertHeader (alloc : Option SkbPad) (hlen : ℕ) (header : List UInt8) (skb : SkBuff) :
    Option SkBuff :=
  (skbCowHead alloc skb hlen).map fun skb =>
    let skb := skbPush skb hlen
    let skb := skb.memmove skb.data (skb.data + hlen) (2 * ETH_ALEN)
    skb.store (skb.data + 2 * ETH_ALEN) header

/-- `sdsa_xmit`. A frame with an 802.1Q tag gives up its type field for the SDSA tag. -/
def sdsaXmit (alloc : Option SkbPad) (dp : DsaPort) (skb : SkBuff) : Option SkBuff :=
  if skb.protocol = ETH_P_8021Q then
    insertHeader alloc DSA_HLEN (sdsaEtherType ++ fromCpuTag 0x60 dp) skb
  else
    insertHeader alloc SDSA_HLEN (sdsaEtherType ++ fromCpuTag 0x40 dp ++ [0x00, 0x00]) skb

/-- The port number that `sdsa_rcv` reads out of two bytes of a tag. -/
def sourcePort (b₀ b₁ : UInt8) : ℕ := ((b₀ &&& 0x1f).toNat <<< 5) + ((b₁ &&& 0xF8).toNat >>> 3)

/-- The end of `sdsa_rcv`: a tag with the 'tagged' bit becomes an 802.1Q tag, any other tag is
deleted. Checksums are left out: the driver never sets `CHECKSUM_COMPLETE`. -/
def sdsaUntag (skb : SkBuff) : SkBuff :=
  let sdsaHeader := skb.data + 2
  let h := skb.buf.drop sdsaHeader
  if byteAt h 0 &&& 0x20 ≠ 0 then
    let newHeader := [UInt8.ofNat ((ETH_P_8021Q >>> 8) &&& 0xff),
      UInt8.ofNat (ETH_P_8021Q &&& 0xff), byteAt h 2, byteAt h 3]
    let skb := skbPull skb DSA_HLEN
    let skb := skb.store sdsaHeader newHeader
    skb.memmove (skb.data - ETH_HLEN) (skb.data - ETH_HLEN - DSA_HLEN) (2 * ETH_ALEN)
  else
    let skb := skbPull skb SDSA_HLEN
    skb.memmove (skb.data - ETH_HLEN) (skb.data - ETH_HLEN - SDSA_HLEN) (2 * ETH_ALEN)

/-- `sdsa_rcv`. -/
def sdsaRcv (dst : DsaSwitchTree) (skb : SkBuff) : Option SkBuff :=
  if skb.bytes.length < SDSA_HLEN then none
  else
    let h := skb.buf.drop (skb.data + 2)
    -- only TO_CPU frames
    if byteAt h 0 &&& 0xc0 ≠ 0x00 then none
    else
      let sourceDevice := 0
      match dsaConduitFindUser dst sourceDevice (sourcePort (byteAt h 0) (byteAt h 1)) with
      | none => none
      | some dev => some { sdsaUntag { skb with dev := some dev } with offloadFwdMark := true }

/-! ## Transmission -/

/-- The frame with `header` between its addresses and what follows the first `skip` bytes of its
type field. -/
theorem insertHeader_bytes (pad : SkbPad) (hlen skip : ℕ) {header : List UInt8} {skb : SkBuff}
    (hheader : header.length = hlen + skip) (hhlen : hlen ≤ 8)
    (hlong : 2 * ETH_ALEN + skip ≤ skb.bytes.length) :
    ∃ out, insertHeader (some pad) hlen header skb = some out ∧
      out.bytes =
        skb.bytes.take (2 * ETH_ALEN) ++ (header ++ skb.bytes.drop (2 * ETH_ALEN + skip)) := by
  obtain ⟨cow, hcow, hroom, hbytes⟩ := skbCowHead_some pad skb (show hlen ≤ 32 by omega)
  refine ⟨_, by rw [insertHeader, hcow]; rfl, ?_⟩
  rw [← hbytes] at hlong ⊢
  -- `off` is where the tagged frame begins; the addresses come from `hlen` bytes further on.
  obtain ⟨off, hoff⟩ : ∃ off, cow.data = off + hlen := ⟨cow.data - hlen, by omega⟩
  have hbuf : off + hlen + (12 + skip) ≤ cow.buf.length := by
    rw [SkBuff.bytes, List.length_drop] at hlong
    simp only [ETH_ALEN] at hlong
    omega
  have haddr : (slice cow.buf (off + hlen) 12).length = 12 := length_slice (by omega)
  have hmoved : (overwrite cow.buf off (slice cow.buf (off + hlen) 12)).length = cow.buf.length :=
    length_overwrite (by omega)
  have hread : slice (overwrite cow.buf off (slice cow.buf (off + hlen) 12)) off 12 =
      slice cow.buf (off + hlen) 12 :=
    slice_overwrite_self haddr (by omega)
  simp only [SkBuff.bytes, skbPush, SkBuff.memmove, SkBuff.store, hoff, Nat.add_sub_cancel,
    ETH_ALEN, Nat.reduceMul]
  rw [← slice_append_drop _ off 12, slice_overwrite_before (Nat.le_refl _) (by omega), hread,
    drop_overwrite_self (by omega), drop_overwrite_after (by omega) (by omega), List.drop_drop,
    hheader]
  have hend : off + 12 + (hlen + skip) = off + hlen + (12 + skip) := by omega
  rw [hend]
  rfl

/-- The frame `frame` with a tag whose bytes 4 and 5 are `b₀` and `b₁`. An 802.1Q type field is
overwritten by these, and its control information is the tag's. -/
def tagFrame (b₀ b₁ : UInt8) (frame : List UInt8) : List UInt8 :=
  frame.take 12 ++ (sdsaEtherType ++ [b₀, b₁]) ++
    if etherType frame = ETH_P_8021Q then frame.drop 14 else [0x00, 0x00] ++ frame.drop 12

/-- The frame kind that `sdsa_xmit` writes: FROM_CPU, with or without the 'tagged' bit. -/
def fromCpuKind (frame : List UInt8) : ℕ := if etherType frame = ETH_P_8021Q then 0x60 else 0x40

/-- `sdsa_xmit` produces the tagged frame, whatever headroom it finds. -/
theorem sdsaXmit_bytes (pad : SkbPad) (dp : DsaPort) {skb : SkBuff}
    (hproto : skb.protocol = etherType skb.bytes) (hlong : ETH_HLEN ≤ skb.bytes.length) :
    ∃ out, sdsaXmit (some pad) dp skb = some out ∧
      out.bytes = tagFrame (UInt8.ofNat (fromCpuKind skb.bytes ||| ((dp.dsIndex &&& 0x3e0) >>> 5)))
        (UInt8.ofNat (dp.index <<< 3)) skb.bytes := by
  simp only [ETH_HLEN] at hlong
  rw [sdsaXmit, hproto, fromCpuKind, tagFrame]
  split
  · have hheader : (sdsaEtherType ++ fromCpuTag 0x60 dp).length = DSA_HLEN + 2 := rfl
    obtain ⟨out, hout, hbytes⟩ := insertHeader_bytes pad DSA_HLEN 2 hheader (by decide) hlong
    refine ⟨out, hout, hbytes.trans ?_⟩
    simp only [fromCpuTag, List.append_assoc, ETH_ALEN, Nat.reduceMul, Nat.reduceAdd]
  · have hheader : (sdsaEtherType ++ fromCpuTag 0x40 dp ++ [0x00, 0x00]).length = SDSA_HLEN + 0 := rfl
    obtain ⟨out, hout, hbytes⟩ := insertHeader_bytes pad SDSA_HLEN 0 hheader (by decide)
      (show 12 + 0 ≤ skb.bytes.length by omega)
    refine ⟨out, hout, hbytes.trans ?_⟩
    simp only [fromCpuTag, List.append_assoc, ETH_ALEN, Nat.reduceMul, Nat.add_zero]

theorem sdsaXmit_hwTstamp {alloc : Option SkbPad} {dp : DsaPort} {skb out : SkBuff}
    (h : sdsaXmit alloc dp skb = some out) : out.hwTstamp = skb.hwTstamp := by
  have hcow : ∀ {n : ℕ} {cow : SkBuff}, skbCowHead alloc skb n = some cow →
      cow.hwTstamp = skb.hwTstamp := by
    intro n cow hcow
    rw [skbCowHead] at hcow
    split at hcow
    · cases hcow
      rfl
    · obtain ⟨pad, -, rfl⟩ := Option.map_eq_some_iff.mp hcow
      rfl
  rw [sdsaXmit] at h
  split at h
  all_goals
    obtain ⟨cow, hc, rfl⟩ := Option.map_eq_some_iff.mp h
    have heq := hcow hc
    exact heq

/-! ## Reception -/

/-- What `sdsa_rcv` puts in place of the tag: an 802.1Q tag, if the frame had one. -/
def restoredTag (frame : List UInt8) : List UInt8 :=
  if byteAt frame 16 &&& 0x20 ≠ 0 then [0x81, 0x00, byteAt frame 18, byteAt frame 19] else []

section Rcv

variable {skb : SkBuff} {off : ℕ} {frame : List UInt8}

theorem byteAt_header (hdata : skb.data = off + ETH_HLEN) (hframe : skb.buf.drop off = frame)
    (i : ℕ) : byteAt (skb.buf.drop (skb.data + 2)) i = byteAt frame (16 + i) := by
  rw [← hframe, byteAt_drop, byteAt_drop, hdata]
  congr 1
  simp only [ETH_HLEN]
  omega

theorem sdsaUntag_bytes (hdata : skb.data = off + ETH_HLEN) (hframe : skb.buf.drop off = frame)
    (hlong : ETH_HLEN + SDSA_HLEN ≤ frame.length) :
    (sdsaUntag skb).buf.drop ((sdsaUntag skb).data - ETH_HLEN) =
      frame.take 12 ++ (restoredTag frame ++ frame.drop 20) := by
  have hbuf : off + 22 ≤ skb.buf.length := by
    rw [← hframe, List.length_drop] at hlong
    simp only [ETH_HLEN, SDSA_HLEN] at hlong
    omega
  have htake : frame.take 12 = slice skb.buf off 12 := by rw [← hframe, slice]
  have hdrop : frame.drop 20 = skb.buf.drop (off + 20) := by rw [← hframe, List.drop_drop]
  have hhi : UInt8.ofNat ((ETH_P_8021Q >>> 8) &&& 0xff) = 0x81 := rfl
  have hlo : UInt8.ofNat (ETH_P_8021Q &&& 0xff) = 0x00 := rfl
  simp only [sdsaUntag, restoredTag, byteAt_header hdata hframe, Nat.add_zero, Nat.reduceAdd, hhi,
    hlo]
  rw [htake, hdrop]
  split
  · -- four bytes are pulled; the four behind the null bytes become the 802.1Q tag
    simp only [skbPull, SkBuff.store, SkBuff.memmove, hdata, ETH_HLEN, DSA_HLEN, ETH_ALEN,
      show off + 14 + 4 - 14 = off + 4 by omega, Nat.add_sub_cancel, Nat.add_assoc,
      Nat.reduceAdd, Nat.reduceMul]
    set tag : List UInt8 := [0x81, 0x00, byteAt frame 18, byteAt frame 19] with htag
    have hlen : tag.length = 4 := rfl
    have hstored : (overwrite skb.buf (off + 16) tag).length = skb.buf.length :=
      length_overwrite (by omega)
    rw [drop_overwrite_self (by omega), length_slice (by omega),
      slice_overwrite_before (by omega) (by omega), drop_overwrite_self (by omega), hlen]
  · -- eight bytes are pulled
    simp only [skbPull, SkBuff.memmove, hdata, ETH_HLEN, SDSA_HLEN, ETH_ALEN,
      show off + 14 + 8 - 14 = off + 8 by omega, Nat.add_sub_cancel, Nat.reduceMul]
    rw [drop_overwrite_self (by omega), length_slice (by omega), List.nil_append]

/-- A TO_CPU frame from a known port is accepted; the frame that begins `ETH_HLEN` bytes before the
new data pointer is the old one with its tag undone. -/
theorem sdsaRcv_bytes {dst : DsaSwitchTree} {dev : NetDevice} (hdata : skb.data = off + ETH_HLEN)
    (hframe : skb.buf.drop off = frame) (hlong : ETH_HLEN + SDSA_HLEN ≤ frame.length)
    (hkind : byteAt frame 16 &&& 0xc0 = 0x00)
    (hfind : dsaConduitFindUser dst 0 (sourcePort (byteAt frame 16) (byteAt frame 17)) = some dev) :
    ∃ res, sdsaRcv dst skb = some res ∧ res.dev = some dev ∧
      res.buf.drop (res.data - ETH_HLEN) = frame.take 12 ++ (restoredTag frame ++ frame.drop 20) := by
  have hmay : ¬ skb.bytes.length < SDSA_HLEN := by
    rw [← hframe, List.length_drop] at hlong
    rw [SkBuff.bytes, List.length_drop, hdata]
    simp only [ETH_HLEN, SDSA_HLEN] at hlong ⊢
    omega
  rw [sdsaRcv, if_neg hmay]
  simp only [byteAt_header hdata hframe, Nat.add_zero, Nat.reduceAdd, hkind, ne_eq,
    not_true_eq_false, if_false, hfind]
  refine ⟨_, rfl, ?_, ?_⟩
  · simp only [sdsaUntag]
    split <;> rfl
  · exact sdsaUntag_bytes hdata hframe hlong

end Rcv

/-! ## The round trip -/

theorem dsaConduitFindUser_eq {dst : DsaSwitchTree} {dp : DsaPort} (hdp : dp ∈ dst.ports)
    (huser : dp.type = .user) : dsaConduitFindUser dst dp.dsIndex dp.index = dp.user := by
  have hfind : dst.ports.find? (fun dp' =>
      dp'.dsIndex = dp.dsIndex ∧ dp'.index = dp.index ∧ dp'.type = .user) = some dp := by
    rw [List.find?_eq_some_iff_append]
    obtain ⟨before, after, hports⟩ := List.append_of_mem hdp
    refine ⟨by simp [huser], before, after, hports, ?_⟩
    intro other hother
    have hne := (List.pairwise_append.mp (hports ▸ dst.unique)).2.2 other hother dp
      (List.mem_cons_self ..)
    simp only [Bool.not_eq_true', decide_eq_false_iff_not]
    exact fun heq => hne ⟨heq.1, heq.2.1⟩
  rw [dsaConduitFindUser, hfind]
  rfl

/-- The TO_CPU form of a tagged frame: the switch clears the two FROM_CPU bits. -/
def toCpu (frame : List UInt8) : List UInt8 := overwrite frame 16 [byteAt frame 16 &&& 0x3f]

section TagFrame

variable {frame : List UInt8} {b₀ b₁ : UInt8}

theorem tagFrame_of_untagged (htype : etherType frame ≠ ETH_P_8021Q) :
    tagFrame b₀ b₁ frame =
      frame.take 12 ++ ([0xDC, 0xDC, 0x00, 0x00, b₀, b₁, 0x00, 0x00] ++ frame.drop 12) := by
  rw [tagFrame, if_neg htype, List.append_assoc]
  rfl

theorem tagFrame_of_vlan (htype : etherType frame = ETH_P_8021Q) :
    tagFrame b₀ b₁ frame =
      frame.take 12 ++ ([0xDC, 0xDC, 0x00, 0x00, b₀, b₁] ++ frame.drop 14) := by
  rw [tagFrame, if_pos htype, List.append_assoc]
  rfl

theorem drop_tagFrame (h : 12 ≤ frame.length) :
    (tagFrame b₀ b₁ frame).drop 12 = sdsaEtherType ++ [b₀, b₁] ++
      if etherType frame = ETH_P_8021Q then frame.drop 14 else [0x00, 0x00] ++ frame.drop 12 := by
  rw [tagFrame, List.append_assoc]
  exact List.drop_left' (by rw [List.length_take]; omega)

theorem take_tagFrame (h : 12 ≤ frame.length) : (tagFrame b₀ b₁ frame).take 12 = frame.take 12 := by
  rw [tagFrame, List.append_assoc]
  exact List.take_left' (by rw [List.length_take]; omega)

theorem byteAt_tagFrame (h : 12 ≤ frame.length) (i : ℕ) :
    byteAt (tagFrame b₀ b₁ frame) (12 + i) = byteAt (sdsaEtherType ++ [b₀, b₁] ++
      if etherType frame = ETH_P_8021Q then frame.drop 14 else [0x00, 0x00] ++ frame.drop 12) i := by
  rw [← drop_tagFrame h, byteAt_drop]

theorem toCpu_tagFrame (h : 12 ≤ frame.length) :
    toCpu (tagFrame b₀ b₁ frame) = tagFrame (b₀ &&& 0x3f) b₁ frame := by
  have hbyte : byteAt (tagFrame b₀ b₁ frame) 16 = b₀ := byteAt_tagFrame h 4
  have hhead : (frame.take 12 ++ sdsaEtherType).length = 16 := by
    rw [List.length_append, List.length_take, Nat.min_eq_left h]
    rfl
  rw [toCpu, hbyte]
  simp only [tagFrame, overwrite]
  rw [← List.append_assoc (frame.take 12), List.append_assoc (frame.take 12 ++ sdsaEtherType),
    List.take_left' hhead, List.length_singleton, ← List.drop_drop, List.drop_left' hhead]
  simp

theorem length_tagFrame (h : ETH_HLEN ≤ frame.length)
    (hvlan : etherType frame = ETH_P_8021Q → 18 ≤ frame.length) :
    ETH_HLEN + SDSA_HLEN ≤ (tagFrame b₀ b₁ frame).length := by
  have hfixed : sdsaEtherType.length = 4 := rfl
  simp only [ETH_HLEN, SDSA_HLEN, tagFrame, List.length_append, List.length_take, hfixed,
    List.length_cons, List.length_nil] at h ⊢
  split
  · have := hvlan (by assumption)
    rw [List.length_drop]
    omega
  · simp only [List.length_append, List.length_cons, List.length_nil, List.length_drop]
    omega

theorem drop_tagFrame_tag (h : 12 ≤ frame.length) :
    (tagFrame b₀ b₁ frame).drop 20 =
      if etherType frame = ETH_P_8021Q then frame.drop 16 else frame.drop 12 := by
  have hdrop : (tagFrame b₀ b₁ frame).drop 20 = ((tagFrame b₀ b₁ frame).drop 12).drop 8 := by
    rw [List.drop_drop]
  rw [hdrop, drop_tagFrame h]
  split
  · exact List.drop_drop
  · rfl

/-- Taking the tag out of a frame puts the type field back. -/
theorem restoredTag_tagFrame (h : ETH_HLEN ≤ frame.length)
    (hvlan : etherType frame = ETH_P_8021Q → 18 ≤ frame.length)
    (hkind : b₀ &&& 0x20 ≠ 0 ↔ etherType frame = ETH_P_8021Q) :
    frame.take 12 ++ (restoredTag (tagFrame b₀ b₁ frame) ++ (tagFrame b₀ b₁ frame).drop 20) =
      frame := by
  have h12 : 12 ≤ frame.length := by simp only [ETH_HLEN] at h; omega
  have hbyte : byteAt (tagFrame b₀ b₁ frame) 16 = b₀ := byteAt_tagFrame h12 4
  rw [drop_tagFrame_tag h12, restoredTag, hbyte]
  by_cases htype : etherType frame = ETH_P_8021Q
  · have h18 : byteAt (tagFrame b₀ b₁ frame) 18 = byteAt frame 14 := by
      refine (byteAt_tagFrame h12 6).trans ?_
      rw [if_pos htype]
      exact byteAt_drop frame 14 0
    have h19 : byteAt (tagFrame b₀ b₁ frame) 19 = byteAt frame 15 := by
      refine (byteAt_tagFrame h12 7).trans ?_
      rw [if_pos htype]
      exact byteAt_drop frame 14 1
    have hhi : byteAt frame 12 = 0x81 := (byteAt_of_be16 htype).1
    have hlo : byteAt frame 13 = 0x00 := (byteAt_of_be16 htype).2
    have hlong := hvlan htype
    rw [if_pos (hkind.mpr htype), if_pos htype, h18, h19]
    calc frame.take 12 ++ ([0x81, 0x00, byteAt frame 14, byteAt frame 15] ++ frame.drop 16)
        = frame.take 12 ++ frame.drop 12 := by
          rw [drop_eq_byteAt_cons (show 12 < frame.length by omega),
            drop_eq_byteAt_cons (show 13 < frame.length by omega),
            drop_eq_byteAt_cons (show 14 < frame.length by omega),
            drop_eq_byteAt_cons (show 15 < frame.length by omega), hhi, hlo]
          rfl
      _ = frame := List.take_append_drop 12 frame
  · rw [if_neg (mt hkind.mp htype), if_neg htype, List.nil_append, List.take_append_drop]

end TagFrame

/-- Byte 4 of the tag for a port of switch 0, in the TO_CPU form. -/
theorem toCpu_fromCpuKind (frame : List UInt8) :
    UInt8.ofNat (fromCpuKind frame ||| ((0 &&& 0x3e0) >>> 5)) &&& 0x3f =
      if etherType frame = ETH_P_8021Q then 0x20 else 0x00 := by
  rw [fromCpuKind]
  split <;> rfl

/-- The port number in the tag, read back. -/
theorem sourcePort_eq {b₀ : UInt8} {p : ℕ} (hb : b₀ = 0x20 ∨ b₀ = 0x00) (hp : p < 32) :
    sourcePort b₀ (UInt8.ofNat (p <<< 3)) = p := by
  rcases hb with rfl | rfl <;> interval_cases p <;> rfl

/-- `sdsa_rcv` takes the TO_CPU form of the tag out of a frame, and finds the device of the port. -/
theorem sdsaRcv_tagFrame {dst : DsaSwitchTree} {dp : DsaPort} {dev : NetDevice}
    (hdp : dp ∈ dst.ports) (huser : dp.type = .user) (hdev : dp.user = some dev)
    (hds : dp.dsIndex = 0) (hport : dp.index < DSA_MAX_PORTS) {b₀ : UInt8} {frame : List UInt8}
    (hb : b₀ = 0x20 ∨ b₀ = 0x00) (hkind : b₀ &&& 0x20 ≠ 0 ↔ etherType frame = ETH_P_8021Q)
    (hlong : ETH_HLEN ≤ frame.length) (hvlan : etherType frame = ETH_P_8021Q → 18 ≤ frame.length)
    (netdev : RxDev) (reserved : List UInt8) :
    ∃ res, sdsaRcv dst (axEthTypeTrans netdev
        (skbReceived reserved (tagFrame b₀ (UInt8.ofNat (dp.index <<< 3)) frame))) = some res ∧
      res.dev = some dev ∧ res.buf.drop (res.data - ETH_HLEN) = frame := by
  have h12 : 12 ≤ frame.length := by simp only [ETH_HLEN] at hlong; omega
  set b₁ := UInt8.ofNat (dp.index <<< 3)
  have hlength : ETH_HLEN + SDSA_HLEN ≤ (tagFrame b₀ b₁ frame).length := length_tagFrame hlong hvlan
  have hreceived : (skbReceived reserved (tagFrame b₀ b₁ frame)).bytes = tagFrame b₀ b₁ frame :=
    List.drop_left
  set rx := axEthTypeTrans netdev (skbReceived reserved (tagFrame b₀ b₁ frame)) with hrx
  rw [axEthTypeTrans_of_le netdev (by rw [hreceived]; exact Nat.le_of_add_right_le hlength)] at hrx
  have hdata : rx.data = reserved.length + ETH_HLEN := by
    rw [hrx]
    rfl
  have hframe : rx.buf.drop reserved.length = tagFrame b₀ b₁ frame := by
    rw [hrx]
    exact hreceived
  have hbyte₀ : byteAt (tagFrame b₀ b₁ frame) 16 = b₀ := byteAt_tagFrame h12 4
  have hbyte₁ : byteAt (tagFrame b₀ b₁ frame) 17 = b₁ := byteAt_tagFrame h12 5
  have htoCpu : byteAt (tagFrame b₀ b₁ frame) 16 &&& 0xc0 = 0x00 := by
    rw [hbyte₀]
    rcases hb with h | h <;> rw [h] <;> rfl
  have hfind : dsaConduitFindUser dst 0 (sourcePort (byteAt (tagFrame b₀ b₁ frame) 16)
      (byteAt (tagFrame b₀ b₁ frame) 17)) = some dev := by
    simp only [DSA_MAX_PORTS] at hport
    rw [hbyte₀, hbyte₁, sourcePort_eq hb (by omega), ← hds, dsaConduitFindUser_eq hdp huser, hdev]
  obtain ⟨res, hrcv, hresdev, hres⟩ := sdsaRcv_bytes hdata hframe hlength htoCpu hfind
  refine ⟨res, hrcv, hresdev, ?_⟩
  rw [hres, take_tagFrame h12, restoredTag_tagFrame hlong hvlan hkind]

/-- **SDSA round trip.** `sdsa_xmit` inserts the eight bytes of the tag behind the addresses of an
untagged frame; of an 802.1Q frame it overwrites the type, inserts four bytes, and keeps the control
information and the inner type. The TO_CPU form of either comes out of `sdsa_rcv` as the same frame, on
the device of the same port. -/
theorem sdsaRcv_sdsaXmit {dst : DsaSwitchTree} {dp : DsaPort} {dev : NetDevice}
    (hdp : dp ∈ dst.ports) (huser : dp.type = .user) (hdev : dp.user = some dev)
    (hds : dp.dsIndex = 0) (hport : dp.index < DSA_MAX_PORTS) (pad : SkbPad) {skb : SkBuff}
    (hproto : skb.protocol = etherType skb.bytes) (hlong : ETH_HLEN ≤ skb.bytes.length)
    (hvlan : etherType skb.bytes = ETH_P_8021Q → 18 ≤ skb.bytes.length) (netdev : RxDev)
    (reserved : List UInt8) :
    ∃ out, sdsaXmit (some pad) dp skb = some out ∧
      (etherType skb.bytes ≠ ETH_P_8021Q → out.bytes = skb.bytes.take 12 ++
        ([0xDC, 0xDC, 0x00, 0x00, 0x40, UInt8.ofNat (dp.index <<< 3), 0x00, 0x00] ++
          skb.bytes.drop 12)) ∧
      (etherType skb.bytes = ETH_P_8021Q → out.bytes = skb.bytes.take 12 ++
        ([0xDC, 0xDC, 0x00, 0x00, 0x60, UInt8.ofNat (dp.index <<< 3)] ++ skb.bytes.drop 14)) ∧
      ∃ res, sdsaRcv dst (axEthTypeTrans netdev (skbReceived reserved (toCpu out.bytes))) =
          some res ∧
        res.dev = some dev ∧ res.buf.drop (res.data - ETH_HLEN) = skb.bytes := by
  obtain ⟨out, hxmit, hout⟩ := sdsaXmit_bytes pad dp hproto hlong
  rw [hds] at hout
  refine ⟨out, hxmit, fun htype => ?_, fun htype => ?_, ?_⟩
  · rw [hout, fromCpuKind, if_neg htype, tagFrame_of_untagged htype]
    rfl
  · rw [hout, fromCpuKind, if_pos htype, tagFrame_of_vlan htype]
    rfl
  · have h12 : 12 ≤ skb.bytes.length := by simp only [ETH_HLEN] at hlong; omega
    rw [hout, toCpu_tagFrame h12, toCpu_fromCpuKind]
    exact sdsaRcv_tagFrame hdp huser hdev hds hport (by split <;> simp) (by split <;> simp_all) hlong
      hvlan netdev reserved

/-- Switch 0 with its CPU port and user port 2, whose device is 7. -/
def onePortTree : DsaSwitchTree := ⟨[⟨0, 0, .cpu, none⟩, ⟨0, 2, .user, some 7⟩], by decide⟩

/-- A frame to be sent, without any headroom. -/
def frameToSend (proto : ℕ) (frame : List UInt8) : SkBuff :=
  ⟨frame, 0, proto, 0, .host, none, false, false⟩

/-- An untagged frame and a VLAN frame sent to port 2 come back on its device. -/
theorem sdsaRcv_sdsaXmit_vlan :
    let addrs : List UInt8 := List.replicate 12 1
    let sent := sdsaXmit (some ⟨List.replicate 32 0, by decide⟩) ⟨0, 2, .user, some 7⟩
    let comesBack (frame tagged : List UInt8) : Prop :=
      ∃ res, sdsaRcv onePortTree (axEthTypeTrans ⟨1, [], [], true⟩
          (skbReceived [0, 0] (toCpu tagged))) = some res ∧
        res.dev = some 7 ∧ res.buf.drop (res.data - ETH_HLEN) = frame
    (∃ out, sent (frameToSend 0x0800 (addrs ++ [0x08, 0x00, 0x45])) = some out ∧
      out.bytes = addrs ++ [0xDC, 0xDC, 0x00, 0x00, 0x40, 0x10, 0x00, 0x00, 0x08, 0x00, 0x45] ∧
      comesBack (addrs ++ [0x08, 0x00, 0x45]) out.bytes) ∧
    ∃ out, sent (frameToSend 0x8100 (addrs ++ [0x81, 0x00, 0x20, 0x05, 0x08, 0x00])) = some out ∧
      out.bytes = addrs ++ [0xDC, 0xDC, 0x00, 0x00, 0x60, 0x10, 0x20, 0x05, 0x08, 0x00] ∧
      comesBack (addrs ++ [0x81, 0x00, 0x20, 0x05, 0x08, 0x00]) out.bytes := by
  intro addrs sent comesBack
  have hdp : (⟨0, 2, .user, some 7⟩ : DsaPort) ∈ onePortTree.ports :=
    List.mem_cons_of_mem _ (List.mem_cons_self ..)
  constructor
  · obtain ⟨out, hxmit, huntagged, -, hrcv⟩ := @sdsaRcv_sdsaXmit _ _ _ hdp rfl rfl rfl (by decide)
      ⟨List.replicate 32 0, by decide⟩ (frameToSend 0x0800 (addrs ++ [0x08, 0x00, 0x45]))
      (by decide) (by decide) (fun h => absurd h (by decide)) ⟨1, [], [], true⟩ [0, 0]
    exact ⟨out, hxmit, huntagged (by decide), hrcv⟩
  · obtain ⟨out, hxmit, -, htagged, hrcv⟩ := @sdsaRcv_sdsaXmit _ _ _ hdp rfl rfl rfl (by decide)
      ⟨List.replicate 32 0, by decide⟩
      (frameToSend 0x8100 (addrs ++ [0x81, 0x00, 0x20, 0x05, 0x08, 0x00]))
      (by decide) (by decide) (fun _ => by decide) ⟨1, [], [], true⟩ [0, 0]
    exact ⟨out, hxmit, htagged (by decide), hrcv⟩

end Axm57104.Dsa
