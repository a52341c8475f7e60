import Axm57104.Common.Words
import Axm57104.Net.SkBuff
import Mathlib.Logic.Function.Basic

/-!
# Multicast filtering

`ax_net_set_multicast` chooses what the MAC receives besides its own address and broadcasts: every
frame, every multicast frame, or the multicast frames whose hash has its bit in a filter of 64 bits.
The filter is built in eight bytes, one bit for each listed address, and is then loaded as the two
words of `MULTI_FILTER_ARR_0` and `MULTI_FILTER_ARR_1`.

The hash is `ether_crc`, of the kernel; nothing here depends on which function it is.
-/

namespace Axm57104.Net

open Common

/-! ## Registers and constants -/

@[simp] abbrev AX_RX_CTL_PRO : UInt32 := 0x1
@[simp] abbrev AX_RX_CTL_AB : UInt32 := 0x2
@[simp] abbrev AX_RX_CTL_AM : UInt32 := 0x4
@[simp] abbrev AX_RX_CTL_AMALL : UInt32 := 0x8

@[simp] abbrev AX_MCAST_FILTER_SIZE : ℕ := 8
@[simp] abbrev AX_MAX_MCAST : ℕ := 64

@[simp] abbrev IFF_PROMISC : UInt32 := 0x100
@[simp] abbrev IFF_ALLMULTI : UInt32 := 0x200

/-- An Ethernet address. -/
abbrev EthAddr : Type := Fin ETH_ALEN → UInt8

/-- The registers of BAR 0 that `ax_net_set_multicast` writes. -/
structure RxFilterRegs where
  rxCtrl : UInt32
  multiFilterArr0 : UInt32
  multiFilterArr1 : UInt32
  deriving DecidableEq, Repr

/-- `multi_filter`. -/
abbrev MultiFilter : Type := Fin AX_MCAST_FILTER_SIZE → UInt8

section Filter

variable (etherCrc : EthAddr → UInt32)

/-! ## `ax_net_set_multicast` -/

/-- `crc_bits` of an address. -/
def crcBits (addr : EthAddr) : UInt32 := etherCrc addr >>> 26

theorem crcBits_lt (addr : EthAddr) : (crcBits etherCrc addr).toNat < 64 := by
  have h := (etherCrc addr).toNat_lt
  rw [crcBits, UInt32.toNat_shiftRight, Nat.shiftRight_eq_div_pow]
  show _ / 2 ^ 26 < 64
  omega

/-- The byte of the filter. -/
theorem toNat_crcBits_shift (bits : UInt32) : (bits >>> 3).toNat = bits.toNat / 8 := by
  rw [UInt32.toNat_shiftRight, Nat.shiftRight_eq_div_pow]
  rfl

theorem crcBits_shift_lt (addr : EthAddr) :
    (crcBits etherCrc addr >>> 3).toNat < AX_MCAST_FILTER_SIZE := by
  have h := crcBits_lt etherCrc addr
  rw [toNat_crcBits_shift, AX_MCAST_FILTER_SIZE]
  omega

/-- One iteration of the loop over the addresses. -/
def multiFilterStep (f : MultiFilter) (addr : EthAddr) : MultiFilter :=
  let bits := crcBits etherCrc addr
  let i : Fin AX_MCAST_FILTER_SIZE := ⟨(bits >>> 3).toNat, crcBits_shift_lt etherCrc addr⟩
  Function.update f i (f i ||| 1 <<< (bits &&& 7).toUInt8)

/-- `multi_filter` after the loop. -/
def multiFilter (mc : List EthAddr) : MultiFilter :=
  mc.foldl (multiFilterStep etherCrc) fun _ => 0

/-- `ax_net_set_multicast`, with the list of addresses `mc` of the device. -/
def axNetSetMulticast (flags : UInt32) (mc : List EthAddr) (r : RxFilterRegs) : RxFilterRegs :=
  let rxCtl := AX_RX_CTL_AB
  let mcCount := mc.length
  if flags &&& IFF_PROMISC ≠ 0 then { r with rxCtrl := rxCtl ||| AX_RX_CTL_PRO }
  else if flags &&& IFF_ALLMULTI ≠ 0 ∨ AX_MAX_MCAST < mcCount then
    { r with rxCtrl := rxCtl ||| AX_RX_CTL_AMALL }
  else if mcCount = 0 then { r with rxCtrl := rxCtl }
  else
    let f := multiFilter etherCrc mc
    { multiFilterArr0 := ofLe32 fun k => f (Fin.castAdd 4 k)
      multiFilterArr1 := ofLe32 fun k => f (Fin.natAdd 4 k)
      rxCtrl := rxCtl ||| AX_RX_CTL_AM }

/-! ## What the MAC receives -/

def RxFilterRegs.Promiscuous (r : RxFilterRegs) : Prop := r.rxCtrl &&& AX_RX_CTL_PRO ≠ 0

def RxFilterRegs.AllMulticast (r : RxFilterRegs) : Prop := r.rxCtrl &&& AX_RX_CTL_AMALL ≠ 0

def RxFilterRegs.HashMode (r : RxFilterRegs) : Prop := r.rxCtrl &&& AX_RX_CTL_AM ≠ 0

/-- Bit `b` of the filter `MULTI_FILTER_ARR_1:MULTI_FILTER_ARR_0`. -/
def RxFilterRegs.filterBit (r : RxFilterRegs) (b : ℕ) : Bool :=
  (r.multiFilterArr1.toNat * 2 ^ 32 + r.multiFilterArr0.toNat).testBit b

/-- The MAC receives a frame that is sent to the multicast address `addr`. -/
def RxFilterRegs.Accepts (r : RxFilterRegs) (addr : EthAddr) : Prop :=
  r.Promiscuous ∨ r.AllMulticast ∨ r.HashMode ∧ r.filterBit (etherCrc addr >>> 26).toNat = true

/-! ## The filter -/

/-- Bit `b` of the eight bytes. -/
def MultiFilter.bit (f : MultiFilter) (b : Fin 64) : Bool :=
  (f ⟨b.val / 8, by simp only [AX_MCAST_FILTER_SIZE]; omega⟩).toNat.testBit (b.val % 8)

/-- The byte that an address adds a bit to has bit `crc_bits & 7` set. -/
theorem testBit_crcBit (bits : UInt32) {i : ℕ} (hi : i < 8) :
    ((1 : UInt8) <<< (bits &&& 7).toUInt8).toNat.testBit i = decide (bits.toNat % 8 = i) := by
  have hand : (bits &&& 7).toNat = bits.toNat % 8 := by
    rw [UInt32.toNat_and]
    exact Nat.and_two_pow_sub_one_eq_mod _ 3
  have hlow : (bits &&& 7).toUInt8.toNat % 8 = bits.toNat % 8 := by
    rw [UInt32.toNat_toUInt8, hand]
    omega
  rw [UInt8.toNat_shiftLeft, hlow, Nat.testBit_mod_two_pow, decide_eq_true hi, Bool.true_and]
  show (1 <<< (bits.toNat % 8)).testBit i = _
  rw [Nat.one_shiftLeft, Nat.testBit_two_pow]

/-- An iteration adds the bit of its address and no other. -/
theorem bit_multiFilterStep (f : MultiFilter) (addr : EthAddr) (b : Fin 64) :
    (multiFilterStep etherCrc f addr).bit b = true ↔
      f.bit b = true ∨ (crcBits etherCrc addr).toNat = b.val := by
  set bits := crcBits etherCrc addr with hbits
  have hlt : bits.toNat < 64 := crcBits_lt etherCrc addr
  simp only [multiFilterStep, MultiFilter.bit, ← hbits, toNat_crcBits_shift]
  by_cases hbyte : b.val / 8 = bits.toNat / 8
  · simp only [hbyte, Function.update_self, UInt8.toNat_or, Nat.testBit_or, Bool.or_eq_true,
      testBit_crcBit bits (Nat.mod_lt b.val (by decide)), decide_eq_true_eq]
    refine or_congr Iff.rfl ?_
    omega
  · rw [Function.update_of_ne (fun h => hbyte (Fin.mk.inj h))]
    refine ⟨Or.inl, ?_⟩
    rintro (h | h)
    · exact h
    · exact absurd (by rw [h]) hbyte

/-- The bits of the filter after the loop are the hashes of the addresses. -/
theorem bit_multiFilter (mc : List EthAddr) (b : Fin 64) :
    (multiFilter etherCrc mc).bit b = true ↔
      ∃ addr ∈ mc, (crcBits etherCrc addr).toNat = b.val := by
  have hloop : ∀ f : MultiFilter, (mc.foldl (multiFilterStep etherCrc) f).bit b = true ↔
      f.bit b = true ∨ ∃ addr ∈ mc, (crcBits etherCrc addr).toNat = b.val := by
    induction mc with
    | nil => simp
    | cons addr mc ih =>
        intro f
        rw [List.foldl_cons, ih, bit_multiFilterStep, or_assoc]
        simp only [List.mem_cons, exists_eq_or_imp]
  rw [multiFilter, hloop]
  refine or_iff_right ?_
  simp [MultiFilter.bit]

/-- The two registers hold the eight bytes in order. -/
theorem filterBit_ofLe32 (f : MultiFilter) (ctrl : UInt32) (b : Fin 64) :
    RxFilterRegs.filterBit
      { rxCtrl := ctrl
        multiFilterArr0 := ofLe32 fun k => f (Fin.castAdd 4 k)
        multiFilterArr1 := ofLe32 fun k => f (Fin.natAdd 4 k) } b.val = f.bit b := by
  have hlow : (ofLe32 fun k => f (Fin.castAdd 4 k)).toNat < 2 ^ 32 := UInt32.toNat_lt _
  rw [RxFilterRegs.filterBit, MultiFilter.bit, Nat.mul_comm, Nat.testBit_two_pow_mul_add _ hlow]
  by_cases hb : b.val < 32
  · rw [if_pos hb, testBit_ofLe32 _ (by omega)]
    rfl
  · rw [if_neg hb, testBit_ofLe32 _ (by omega)]
    have hbyte : Fin.natAdd 4 (⟨(b.val - 32) / 8, by omega⟩ : Fin 4) =
        (⟨b.val / 8, by simp only [AX_MCAST_FILTER_SIZE]; omega⟩ : Fin AX_MCAST_FILTER_SIZE) :=
      Fin.ext (by simp only [Fin.val_natAdd]; omega)
    rw [hbyte]
    congr 1
    omega

/-! ## The modes -/

/-- What `ax_net_set_multicast` leaves in `RX_CTRL`, and under which condition. -/
theorem axNetSetMulticast_cases (flags : UInt32) (mc : List EthAddr) (r : RxFilterRegs) :
    (axNetSetMulticast etherCrc flags mc r).rxCtrl = AX_RX_CTL_AB ||| AX_RX_CTL_PRO ∨
      ((axNetSetMulticast etherCrc flags mc r).rxCtrl = AX_RX_CTL_AB ||| AX_RX_CTL_AMALL ∧
        (flags &&& IFF_ALLMULTI ≠ 0 ∨ mc ≠ [])) ∨
      ((axNetSetMulticast etherCrc flags mc r).rxCtrl = AX_RX_CTL_AB ∧ mc = []) ∨
      ((axNetSetMulticast etherCrc flags mc r).rxCtrl = AX_RX_CTL_AB ||| AX_RX_CTL_AM ∧ mc ≠ [] ∧
        ∀ b : Fin 64, (axNetSetMulticast etherCrc flags mc r).filterBit b.val =
          (multiFilter etherCrc mc).bit b) := by
  simp only [axNetSetMulticast]
  by_cases hpro : flags &&& IFF_PROMISC ≠ 0
  · rw [if_pos hpro]
    exact .inl rfl
  rw [if_neg hpro]
  by_cases hall : flags &&& IFF_ALLMULTI ≠ 0 ∨ AX_MAX_MCAST < mc.length
  · rw [if_pos hall]
    refine .inr (.inl ⟨rfl, hall.imp_right fun hlen => ?_⟩)
    rintro rfl
    exact absurd hlen (Nat.not_lt_zero _)
  rw [if_neg hall]
  by_cases hnil : mc.length = 0
  · rw [if_pos hnil]
    exact .inr (.inr (.inl ⟨rfl, List.length_eq_zero_iff.mp hnil⟩))
  · rw [if_neg hnil]
    exact .inr (.inr (.inr ⟨rfl, fun h => hnil (List.length_eq_zero_iff.mpr h),
      filterBit_ofLe32 _ _⟩))

/-- **Multicast filtering.** For every combination of flags and every list of addresses, the MAC
receives what is sent to a listed address; in hash mode a bit of the filter is set exactly if a
listed address has this hash; and for an empty list neither multicast mode is selected, unless
`IFF_ALLMULTI` asks for it. -/
theorem axNetSetMulticast_filters (flags : UInt32) (mc : List EthAddr) (r : RxFilterRegs) :
    let r' := axNetSetMulticast etherCrc flags mc r
    (∀ addr ∈ mc, r'.Accepts etherCrc addr) ∧
      (r'.HashMode → ∀ b : Fin 64, r'.filterBit b.val = true ↔
        ∃ addr ∈ mc, (etherCrc addr >>> 26).toNat = b.val) ∧
      (mc = [] → flags &&& IFF_ALLMULTI = 0 → ¬ r'.HashMode ∧ ¬ r'.AllMulticast) := by
  intro r'
  have hcases := axNetSetMulticast_cases etherCrc flags mc r
  simp only [RxFilterRegs.Accepts, RxFilterRegs.Promiscuous, RxFilterRegs.AllMulticast,
    RxFilterRegs.HashMode]
  rcases hcases with hctl | ⟨hctl, hall⟩ | ⟨hctl, hnil⟩ | ⟨hctl, hne, hbits⟩ <;> rw [hctl]
  · exact ⟨fun _ _ => .inl (by decide), fun h => absurd h (by decide), fun _ _ => by decide⟩
  · refine ⟨fun _ _ => .inr (.inl (by decide)), fun h => absurd h (by decide), fun hnil hflag => ?_⟩
    rcases hall with h | h
    · exact absurd hflag h
    · exact absurd hnil h
  · refine ⟨fun addr haddr => ?_, fun h => absurd h (by decide), fun _ _ => by decide⟩
    rw [hnil] at haddr
    cases haddr
  · have hfilter : ∀ b : Fin 64, r'.filterBit b.val = true ↔
        ∃ addr ∈ mc, (crcBits etherCrc addr).toNat = b.val := fun b => by
      rw [hbits b, bit_multiFilter]
    refine ⟨fun addr haddr => .inr (.inr ⟨by decide, ?_⟩), fun _ => hfilter,
      fun hnil => absurd hnil hne⟩
    exact (hfilter ⟨_, crcBits_lt etherCrc addr⟩).mpr ⟨addr, haddr, rfl⟩

end Filter

end Axm57104.Net
