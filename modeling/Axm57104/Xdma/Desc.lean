import Mathlib.Algebra.GroupWithZero.Nat
import Mathlib.Data.List.Basic
import Mathlib.Data.List.Range
import Mathlib.Data.Nat.Notation
import Mathlib.Logic.Function.Basic
import Mathlib.Tactic.Common

/-!
# Descriptor rings

The driver gives each engine one ring of `xdma_desc` records, cut by `transfer_desc_init` into
`DESC_LIST_NUM = 2` chains of equal length. An engine run starts at `list_desc[k]` and follows the
`next` pointers until a descriptor that carries `XDMA_DESC_STOPPED`.

Addresses and descriptor words are natural numbers with the truncation of the source written out:
`dma_addr_t` is 64 bits wide, a descriptor word 32. `transferDescInit_spec` is the closed form of
the initialisation loop that everything above uses.
-/

namespace Axm57104.Xdma

/-! ## Constants of `libxdma.h` -/

/-- Largest number of descriptors of one transfer. -/
@[simp] abbrev XDMA_TRANSFER_MAX_DESC : ℕ := 2048

@[simp] abbrev RX_DESC_NUM : ℕ := 1024

@[simp] abbrev TX_DESC_NUM : ℕ := RX_DESC_NUM

@[simp] abbrev DESC_LIST_NUM : ℕ := 2

/-- `sizeof(struct xdma_desc)`: eight 32-bit words. -/
@[simp] abbrev XDMA_DESC_SIZE : ℕ := 32

/-- `sizeof(struct xdma_result)`: eight 32-bit words. -/
@[simp] abbrev XDMA_RESULT_SIZE : ℕ := 32

@[simp] abbrev DMA_PACKET_SIZE : ℕ := 2048

@[simp] abbrev PKT_BUF_LEN : ℕ := 2048

def XDMA_DESC_STOPPED : ℕ := 0x1
def XDMA_DESC_COMPLETED : ℕ := 0x2
def XDMA_DESC_EOP : ℕ := 0x10
def DESC_MAGIC : ℕ := 0xAD4B0000

/-- The 32 most significant bits of an address. -/
def pciDmaH (addr : ℕ) : ℕ := addr / 2 ^ 16 / 2 ^ 16

/-- The 32 least significant bits of an address. -/
def pciDmaL (addr : ℕ) : ℕ := addr % 2 ^ 32

/-- The address behind a `hi:lo` pair of descriptor or register words. -/
def dmaAddr (hi lo : ℕ) : ℕ := hi * 2 ^ 32 + lo

theorem dmaAddr_pciDma (addr : ℕ) : dmaAddr (pciDmaH addr) (pciDmaL addr) = addr := by
  simp only [dmaAddr, pciDmaH, pciDmaL]
  omega

/-! ## Descriptors and transfers -/

/-- `struct xdma_desc`. -/
structure XdmaDesc where
  control : ℕ
  bytes : ℕ
  srcAddrLo : ℕ
  srcAddrHi : ℕ
  dstAddrLo : ℕ
  dstAddrHi : ℕ
  nextLo : ℕ
  nextHi : ℕ

/-- The engine stops after this descriptor. -/
def XdmaDesc.isStopped (d : XdmaDesc) : Bool := d.control &&& XDMA_DESC_STOPPED != 0

/-- The engine reports the completion of this descriptor. -/
def XdmaDesc.isCompleted (d : XdmaDesc) : Bool := d.control &&& XDMA_DESC_COMPLETED != 0

/-- The bus address in the `next` words. -/
def XdmaDesc.next (d : XdmaDesc) : ℕ := dmaAddr d.nextHi d.nextLo

/-- The bus address in the `src_addr` words. -/
def XdmaDesc.src (d : XdmaDesc) : ℕ := dmaAddr d.srcAddrHi d.srcAddrLo

/-- The bus address in the `dst_addr` words. -/
def XdmaDesc.dst (d : XdmaDesc) : ℕ := dmaAddr d.dstAddrHi d.dstAddrLo

/-- A block of `size` bytes of coherent DMA memory, by its bus address. The allocator returns
blocks that lie inside the 64-bit address space. -/
structure DmaRegion (size : ℕ) where
  bus : ℕ
  fits : bus + size ≤ 2 ^ 64

/-- `struct xdma_transfer`, less `desc_virt`: the descriptor memory it points to is the engine's. -/
structure XdmaTransfer where
  descBus : ℕ
  listDesc : ℕ → ℕ
  currentList : ℕ

/-! ## `transfer_desc_init` -/

/-- The variables of the loop of `transfer_desc_init`. -/
structure DescInit where
  descVirt : ℕ → XdmaDesc
  descBus : ℕ
  listDesc : ℕ → ℕ
  listCount : ℕ

/-- One iteration of the loop of `transfer_desc_init`. -/
def transferDescInitStep (tempCount : ℕ) (st : DescInit) (i : ℕ) : DescInit :=
  let magic := DESC_MAGIC ||| XDMA_DESC_COMPLETED ||| XDMA_DESC_EOP
  let descBus := (st.descBus + XDMA_DESC_SIZE) % 2 ^ 64
  if i % tempCount = tempCount - 1 then
    { descVirt := Function.update st.descVirt i
        { st.descVirt i with
          nextLo := 0, nextHi := 0, bytes := 0, control := magic ||| XDMA_DESC_STOPPED }
      descBus := descBus
      listDesc := if st.listCount < DESC_LIST_NUM then
          Function.update st.listDesc st.listCount descBus else st.listDesc
      listCount := if st.listCount < DESC_LIST_NUM then st.listCount + 1 else st.listCount }
  else
    { st with
      descVirt := Function.update st.descVirt i
        { st.descVirt i with
          nextLo := pciDmaL descBus, nextHi := pciDmaH descBus, bytes := 0, control := magic }
      descBus := descBus }

/-- The state of the loop of `transfer_desc_init` before its first iteration. -/
def transferDescInitStart (desc : ℕ → XdmaDesc) (t : XdmaTransfer) : DescInit where
  descVirt := desc
  descBus := t.descBus
  listDesc := Function.update t.listDesc 0 t.descBus
  listCount := 1

/-- `transfer_desc_init`, on the descriptor memory and the transfer; `none` is the `BUG_ON`. -/
def transferDescInit (desc : ℕ → XdmaDesc) (t : XdmaTransfer) (count : ℕ) :
    Option ((ℕ → XdmaDesc) × XdmaTransfer) :=
  if XDMA_TRANSFER_MAX_DESC < count then none
  else
    let tempCount := if count / DESC_LIST_NUM = 0 then 1 else count / DESC_LIST_NUM
    let st := (List.range count).foldl (transferDescInitStep tempCount) (transferDescInitStart desc t)
    some (st.descVirt, { t with listDesc := st.listDesc })

/-- What `transfer_desc_init` leaves in descriptor `i` of a ring cut into chains of `half`. -/
def initDesc (bus half : ℕ) (desc : ℕ → XdmaDesc) (i : ℕ) : XdmaDesc :=
  let magic := DESC_MAGIC ||| XDMA_DESC_COMPLETED ||| XDMA_DESC_EOP
  if i % half = half - 1 then
    { desc i with nextLo := 0, nextHi := 0, bytes := 0, control := magic ||| XDMA_DESC_STOPPED }
  else
    { desc i with
      nextLo := pciDmaL (bus + XDMA_DESC_SIZE * (i + 1))
      nextHi := pciDmaH (bus + XDMA_DESC_SIZE * (i + 1))
      bytes := 0, control := magic }

theorem initDesc_next {bus half : ℕ} {desc : ℕ → XdmaDesc} {i : ℕ} (h : i % half ≠ half - 1) :
    (initDesc bus half desc i).next = bus + XDMA_DESC_SIZE * (i + 1) := by
  rw [initDesc, if_neg h]
  exact dmaAddr_pciDma _

theorem initDesc_isStopped (bus half : ℕ) (desc : ℕ → XdmaDesc) (i : ℕ) :
    (initDesc bus half desc i).isStopped = decide (i % half = half - 1) := by
  rw [initDesc]
  by_cases h : i % half = half - 1
  · rw [if_pos h, decide_eq_true h]
    show ((DESC_MAGIC ||| XDMA_DESC_COMPLETED ||| XDMA_DESC_EOP ||| XDMA_DESC_STOPPED) &&&
      XDMA_DESC_STOPPED != 0) = true
    decide
  · rw [if_neg h, decide_eq_false h]
    show ((DESC_MAGIC ||| XDMA_DESC_COMPLETED ||| XDMA_DESC_EOP) &&& XDMA_DESC_STOPPED != 0) = false
    decide

/-- The loop invariant of `transfer_desc_init` after `n` iterations. -/
structure DescInit.Inv (desc : ℕ → XdmaDesc) (bus half n : ℕ) (st : DescInit) : Prop where
  done : ∀ i < n, st.descVirt i = initDesc bus half desc i
  rest : ∀ i, n ≤ i → st.descVirt i = desc i
  bus_eq : st.descBus = (bus + XDMA_DESC_SIZE * n) % 2 ^ 64
  first : st.listDesc 0 = bus
  second : half ≤ n → st.listDesc 1 = bus + XDMA_DESC_SIZE * half
  count_eq : st.listCount = if half ≤ n then 2 else 1

/-- The two chains end at the descriptors `half - 1` and `2 * half - 1`. -/
theorem last_of_chain_iff {half n : ℕ} (hhalf : 0 < half) (hn : n < 2 * half) :
    n % half = half - 1 ↔ n + 1 = half ∨ n + 1 = 2 * half := by
  rcases Nat.lt_or_ge n half with hlt | hge
  · rw [Nat.mod_eq_of_lt hlt]
    omega
  · rw [Nat.mod_eq_sub_mod hge, Nat.mod_eq_of_lt (by omega)]
    omega

section Step

variable {desc : ℕ → XdmaDesc} {bus half n : ℕ} {st : DescInit}

/-- An iteration that writes descriptor `n` as it is to be. -/
theorem DescInit.Inv.done_update (h : st.Inv desc bus half n) {x : XdmaDesc}
    (hx : x = initDesc bus half desc n) :
    ∀ i < n + 1, Function.update st.descVirt n x i = initDesc bus half desc i := by
  intro i hi
  rcases Nat.lt_succ_iff_lt_or_eq.mp hi with hlt | rfl
  · rw [Function.update_of_ne (Nat.ne_of_lt hlt)]
    exact h.done i hlt
  · rw [Function.update_self, hx]

theorem DescInit.Inv.rest_update (h : st.Inv desc bus half n) (x : XdmaDesc) :
    ∀ i, n + 1 ≤ i → Function.update st.descVirt n x i = desc i := by
  intro i hi
  rw [Function.update_of_ne (by omega)]
  exact h.rest i (by omega)

/-- The bus address of the next descriptor. -/
theorem DescInit.Inv.bus_step (h : st.Inv desc bus half n) :
    (st.descBus + XDMA_DESC_SIZE) % 2 ^ 64 = (bus + XDMA_DESC_SIZE * (n + 1)) % 2 ^ 64 := by
  rw [h.bus_eq]
  simp only [XDMA_DESC_SIZE]
  omega

/-- The last descriptor of a chain; behind the first chain, the address of the second is noted. -/
theorem DescInit.Inv.step_last (h : st.Inv desc bus half n) (hlast : n % half = half - 1)
    (hhalf : 0 < half) (hn : n < 2 * half) (hfits : bus + XDMA_DESC_SIZE * (2 * half) ≤ 2 ^ 64) :
    (transferDescInitStep half st n).Inv desc bus half (n + 1) := by
  have hpos := (last_of_chain_iff hhalf hn).mp hlast
  simp only [transferDescInitStep, hlast, if_true, h.bus_step]
  by_cases hc : half ≤ n
  · simp only [h.count_eq, if_pos hc, DESC_LIST_NUM, Nat.lt_irrefl, if_false]
    refine ⟨h.done_update ?_, h.rest_update _, rfl, h.first, fun _ => h.second hc, ?_⟩
    · rw [h.rest n le_rfl, initDesc, if_pos hlast]
    · rw [if_pos (by omega)]
  · simp only [h.count_eq, if_neg hc, DESC_LIST_NUM, Nat.one_lt_two, if_true]
    refine ⟨h.done_update ?_, h.rest_update _, rfl, ?_, fun _ => ?_, ?_⟩
    · rw [h.rest n le_rfl, initDesc, if_pos hlast]
    · dsimp only
      rw [Function.update_of_ne Nat.zero_ne_one]
      exact h.first
    · have hn' : n + 1 = half := by omega
      dsimp only
      rw [Function.update_self, hn']
      simp only [XDMA_DESC_SIZE] at hfits ⊢
      omega
    · rw [if_pos (by omega)]

/-- A descriptor with a next one. -/
theorem DescInit.Inv.step_linked (h : st.Inv desc bus half n) (hlinked : n % half ≠ half - 1)
    (hhalf : 0 < half) (hn : n < 2 * half) (hfits : bus + XDMA_DESC_SIZE * (2 * half) ≤ 2 ^ 64) :
    (transferDescInitStep half st n).Inv desc bus half (n + 1) := by
  have hpos := mt (last_of_chain_iff hhalf hn).mpr hlinked
  have hlt : (bus + XDMA_DESC_SIZE * (n + 1)) % 2 ^ 64 = bus + XDMA_DESC_SIZE * (n + 1) := by
    simp only [XDMA_DESC_SIZE] at hfits ⊢
    omega
  simp only [transferDescInitStep, hlinked, if_false, h.bus_step, hlt]
  refine ⟨h.done_update ?_, h.rest_update _, hlt.symm, h.first, fun hle => h.second (by omega), ?_⟩
  · rw [h.rest n le_rfl, initDesc, if_neg hlinked]
  · show st.listCount = _
    rw [h.count_eq]
    by_cases hc : half ≤ n
    · rw [if_pos hc, if_pos (by omega)]
    · rw [if_neg hc, if_neg (by omega)]

/-- One iteration extends the loop invariant, as long as the ring stays below `2 ^ 64`. -/
theorem DescInit.Inv.step (h : st.Inv desc bus half n) (hhalf : 0 < half) (hn : n < 2 * half)
    (hfits : bus + XDMA_DESC_SIZE * (2 * half) ≤ 2 ^ 64) :
    (transferDescInitStep half st n).Inv desc bus half (n + 1) := by
  by_cases hlast : n % half = half - 1
  · exact h.step_last hlast hhalf hn hfits
  · exact h.step_linked hlast hhalf hn hfits

end Step

/-- The loop invariant holds after every number of iterations up to the ring's length. -/
theorem transferDescInit_loop (desc : ℕ → XdmaDesc) (t : XdmaTransfer) {half : ℕ}
    (hhalf : 0 < half) (hfits : t.descBus + XDMA_DESC_SIZE * (2 * half) ≤ 2 ^ 64) :
    ∀ n ≤ 2 * half, DescInit.Inv desc t.descBus half n
      ((List.range n).foldl (transferDescInitStep half) (transferDescInitStart desc t)) := by
  intro n hn
  induction n with
  | zero =>
      simp only [XDMA_DESC_SIZE] at hfits
      refine ⟨by simp, fun _ _ => rfl, ?_, ?_, ?_, ?_⟩
      · simp only [List.range_zero, List.foldl_nil, transferDescInitStart]
        omega
      · simp [transferDescInitStart]
      · omega
      · simp only [List.range_zero, List.foldl_nil, transferDescInitStart]
        rw [if_neg (by omega)]
  | succ n ih =>
      rw [List.range_succ, List.foldl_append, List.foldl_cons, List.foldl_nil]
      exact (ih (by omega)).step hhalf (by omega) hfits

/-- **Closed form of `transfer_desc_init`** on a ring of two chains of `half` descriptors. -/
theorem transferDescInit_spec (desc : ℕ → XdmaDesc) (t : XdmaTransfer) {half : ℕ} (hhalf : 0 < half)
    (hmax : 2 * half ≤ XDMA_TRANSFER_MAX_DESC)
    (hfits : t.descBus + XDMA_DESC_SIZE * (2 * half) ≤ 2 ^ 64) :
    ∃ desc' t', transferDescInit desc t (2 * half) = some (desc', t') ∧
      (∀ i < 2 * half, desc' i = initDesc t.descBus half desc i) ∧
      (∀ i, 2 * half ≤ i → desc' i = desc i) ∧
      t'.descBus = t.descBus ∧ t'.currentList = t.currentList ∧
      t'.listDesc 0 = t.descBus ∧ t'.listDesc 1 = t.descBus + XDMA_DESC_SIZE * half := by
  have hdiv : 2 * half / DESC_LIST_NUM = half := by
    simp only [DESC_LIST_NUM]
    omega
  have hinv := transferDescInit_loop desc t hhalf hfits (2 * half) le_rfl
  set st := (List.range (2 * half)).foldl (transferDescInitStep half) (transferDescInitStart desc t)
    with hst
  refine ⟨st.descVirt, { t with listDesc := st.listDesc }, ?_, hinv.done, hinv.rest, rfl, rfl,
    hinv.first, hinv.second (by omega)⟩
  simp only [transferDescInit, if_neg (not_lt.mpr hmax), hdiv, if_neg hhalf.ne', ← hst]

end Axm57104.Xdma
