import Axm57104.Common.Machine
import Axm57104.Net.State
import Mathlib.Logic.Function.Iterate

/-!
# Opening and closing the interface

`ax_net_open` rebuilds the three descriptor rings, resets the driver's cursors and starts the C2H
engine; `ax_net_close` stops the engines. `axNetOpen_spec` states what an open leaves, in terms of
`Ring`: the shape of a ring that `transfer_desc_init` and `ax_net_init_ring` have built.

Neither function touches `cyclic_result` or `stop_queue_channel`, and `ax_net_close` leaves the
interrupt status of the engines as it is.
-/

namespace Axm57104.Net

open Common Xdma

/-! ## `xdma_desc_setup` -/

/-- `kzalloc` of a `struct xdma_transfer`. -/
def zeroTransfer : XdmaTransfer where
  descBus := 0
  listDesc := fun _ => 0
  currentList := 0

/-- `transfer_queue`: an engine that is offline or shutting down takes no transfer. -/
def transferQueue (offline : Bool) (e : XdmaEngine) (t : XdmaTransfer) : XdmaEngine :=
  if offline || e.shutdownRequest then e else { e with transfer := some t }

/-- `xdma_desc_setup`. With `xdma_desc_flag` set the transfer is the engine's own and is changed in
place. -/
def xdmaDescSetup (offline xdmaDescFlag : Bool) (e : XdmaEngine) : Except Fault XdmaEngine :=
  match if xdmaDescFlag then e.transfer else some zeroTransfer with
  | none => .error .nullTransfer
  | some t =>
      match transferDescInit e.desc { t with descBus := e.descBus.bus, currentList := 0 }
        RX_DESC_NUM with
      | none => .error .tooManyDesc
      | some (desc, t) =>
          let e := { e with desc := desc }
          let e := if xdmaDescFlag then { e with transfer := some t } else e
          .ok (transferQueue offline e t)

/-! ## `ax_net_init_ring` -/

/-- One iteration of the loops of `ax_net_init_ring`: entry `i` is written for the bus addresses
reached, and these advance. -/
def initRingStep {β : Type} (write : XdmaDesc → β → XdmaDesc) (advance : β → β)
    (st : (ℕ → XdmaDesc) × β) (i : ℕ) : (ℕ → XdmaDesc) × β :=
  (Function.update st.1 i (write (st.1 i) st.2), advance st.2)

/-- What the C2H loop writes; the addresses are `rx_buff_bus` and `result_bus`. -/
def writeRxDesc (d : XdmaDesc) (bus : ℕ × ℕ) : XdmaDesc :=
  { d with
    dstAddrLo := pciDmaL bus.1, dstAddrHi := pciDmaH bus.1
    srcAddrLo := pciDmaL bus.2, srcAddrHi := pciDmaH bus.2
    bytes := PKT_BUF_LEN }

def advanceRx (bus : ℕ × ℕ) : ℕ × ℕ :=
  ((bus.1 + DMA_PACKET_SIZE) % 2 ^ 64, (bus.2 + XDMA_RESULT_SIZE) % 2 ^ 64)

/-- What the H2C loop writes; the address is `tx_buff_bus`. -/
def writeTxDesc (d : XdmaDesc) (bus : ℕ) : XdmaDesc :=
  { d with srcAddrLo := pciDmaL bus, srcAddrHi := pciDmaH bus, bytes := PKT_BUF_LEN }

def advanceTx (bus : ℕ) : ℕ := (bus + DMA_PACKET_SIZE) % 2 ^ 64

/-- The C2H half of `ax_net_init_ring`. -/
def initRingRx (e : XdmaEngine) : Except Fault XdmaEngine :=
  match e.transfer with
  | none => .error .nullTransfer
  | some _ => .ok { e with desc := ((List.range RX_DESC_NUM).foldl (initRingStep writeRxDesc advanceRx)
      (e.desc, (e.rxBuffBus.bus, e.cyclicResultBus.bus))).1 }

/-- One iteration of the outer H2C loop of `ax_net_init_ring`. -/
def initRingTx (e : XdmaEngine) : Except Fault XdmaEngine :=
  match e.transfer with
  | none => .error .nullTransfer
  | some _ => .ok { e with desc := ((List.range TX_DESC_NUM).foldl (initRingStep writeTxDesc advanceTx)
      (e.desc, e.txBuffBus.bus)).1 }

/-! ## `ax_net_open` and `ax_net_close` -/

/-- The fields `ax_net_open` sets, given the engines it has prepared. -/
def openedBase (d : NetDev) (engineH2c : Fin XDMA_CHANNEL_NUM_MAX → XdmaEngine)
    (engineC2h : XdmaEngine) : NetDev :=
  { d with
    xdmaDescFlag := true
    engineH2c := engineH2c
    engineC2h := engineC2h
    txList := fun _ => { idle := 1, cur := 0, curPktCount := 0 }
    curRx := 0
    curRxPktCount := 0
    linkStart := true
    queueStopped := false
    napiEnabled := true }

/-- `ax_net_open`. With `RX_SKB_COPY` the ring needs no allocation, so that `ax_net_init_ring` does
not fail. -/
def axNetOpen (d : NetDev) : Except Fault NetDev := do
  let h2c0 ← xdmaDescSetup d.offline d.xdmaDescFlag (d.engineH2c 0)
  let h2c1 ← xdmaDescSetup d.offline d.xdmaDescFlag (d.engineH2c 1)
  let c2h ← xdmaDescSetup d.offline d.xdmaDescFlag d.engineC2h
  let c2h ← initRingRx c2h
  let h2c0 ← initRingTx h2c0
  let h2c1 ← initRingTx h2c1
  let c2h ← c2h.engineStart
  .ok (openedBase d (fun c => if c = 0 then h2c0 else h2c1) c2h)

/-- `ax_net_close`. -/
def axNetClose (d : NetDev) : NetDev :=
  { d with
    napiEnabled := false
    napiScheduled := false
    queueStopped := true
    engineC2h := d.engineC2h.xdmaEngineStop
    engineH2c := fun c => (d.engineH2c c).xdmaEngineStop
    linkStart := false }

/-! ## The rings that an open leaves -/

/-- The bus address of descriptor `i`. -/
def descAddr (e : XdmaEngine) (i : ℕ) : ℕ := e.descBus.bus + XDMA_DESC_SIZE * i

/-- Descriptor `i` ends one of the two halves. -/
def lastOfHalf (i : ℕ) : Prop := i % 512 = 511

instance (i : ℕ) : Decidable (lastOfHalf i) := inferInstanceAs (Decidable (_ = _))

/-- The engine's transfer is `t`, and the descriptors form two chains of 512 that start at
`list_desc[0]` and `list_desc[1]`. -/
structure Ring (e : XdmaEngine) (t : XdmaTransfer) : Prop where
  transfer_eq : e.transfer = some t
  list : ∀ k < DESC_LIST_NUM, t.listDesc k = descAddr e (k * 512)
  next : ∀ i < RX_DESC_NUM, ¬ lastOfHalf i → (e.desc i).next = descAddr e (i + 1)

/-- A ring whose entry `i` sends transmit buffer `i`. -/
structure TxRing (e : XdmaEngine) (t : XdmaTransfer) : Prop extends Ring e t where
  src : ∀ i < TX_DESC_NUM, (e.desc i).src = e.txBuffBus.bus + DMA_PACKET_SIZE * i

/-- A ring whose entry `i` receives into buffer `i`, reports in result record `i`, and ends the run
exactly at the end of a half. -/
structure RxRing (e : XdmaEngine) (t : XdmaTransfer) : Prop extends Ring e t where
  dst : ∀ i < RX_DESC_NUM, (e.desc i).dst = e.rxBuffBus.bus + DMA_PACKET_SIZE * i
  src : ∀ i < RX_DESC_NUM, (e.desc i).src = e.cyclicResultBus.bus + XDMA_RESULT_SIZE * i
  stopped : ∀ i < RX_DESC_NUM, (e.desc i).isStopped = decide (lastOfHalf i)

/-- A loop of `ax_net_init_ring` writes each entry once, from the address it has then reached. -/
theorem foldl_initRingStep {β : Type} (write : XdmaDesc → β → XdmaDesc) (advance : β → β)
    (desc : ℕ → XdmaDesc) (b : β) (n : ℕ) :
    (List.range n).foldl (initRingStep write advance) (desc, b) =
      (fun i => if i < n then write (desc i) (advance^[i] b) else desc i, advance^[n] b) := by
  induction n with
  | zero => simp
  | succ n ih =>
      rw [List.range_succ, List.foldl_append, ih, List.foldl_cons, List.foldl_nil, initRingStep]
      refine Prod.ext ?_ (Function.iterate_succ_apply' _ _ _).symm
      funext i
      dsimp only
      rcases lt_trichotomy i n with hlt | rfl | hgt
      · rw [Function.update_of_ne (by omega), if_pos hlt, if_pos (by omega)]
      · rw [Function.update_self, if_neg (lt_irrefl _), if_pos (by omega)]
      · rw [Function.update_of_ne (by omega), if_neg (by omega), if_neg (by omega)]

/-- The address after `i` advances of `stride` bytes inside the 64-bit address space. -/
theorem advance_iterate {stride : ℕ} {bus : ℕ} (hbus : bus < 2 ^ 64) (i : ℕ) :
    (fun b => (b + stride) % 2 ^ 64)^[i] bus = (bus + stride * i) % 2 ^ 64 := by
  induction i with
  | zero =>
      rw [Function.iterate_zero_apply, Nat.mul_zero, Nat.add_zero, Nat.mod_eq_of_lt hbus]
  | succ i ih =>
      rw [Function.iterate_succ_apply', ih, Nat.mod_add_mod, Nat.mul_succ, Nat.add_assoc]

theorem advanceRx_iterate (bus : ℕ × ℕ) (i : ℕ) :
    advanceRx^[i] bus = ((fun b => (b + DMA_PACKET_SIZE) % 2 ^ 64)^[i] bus.1,
      (fun b => (b + XDMA_RESULT_SIZE) % 2 ^ 64)^[i] bus.2) := by
  induction i with
  | zero => rfl
  | succ i ih =>
      rw [Function.iterate_succ_apply', ih, Function.iterate_succ_apply',
        Function.iterate_succ_apply']
      rfl

/-- `xdma_desc_setup` rebuilds the chains in the engine's descriptor memory. An engine that takes no
transfer and had none is left without one. -/
theorem xdmaDescSetup_spec {offline flag : Bool} {e e' : XdmaEngine}
    (h : xdmaDescSetup offline flag e = .ok e') (hnull : flag = false → e.transfer = none) :
    e'.transfer = none ∨ ∃ desc t, e' = { e with desc := desc, transfer := some t } ∧ Ring e' t ∧
      t.currentList = 0 ∧ ∀ i < RX_DESC_NUM, (desc i).isStopped = decide (lastOfHalf i) := by
  unfold xdmaDescSetup at h
  split at h
  · cases h
  rename_i t₀ ht₀
  have hfits : e.descBus.bus + 2048 * 32 ≤ 2 ^ 64 := e.descBus.fits
  obtain ⟨desc, t, hinit, hdesc, -, -, hcur, hlist0, hlist1⟩ :=
    transferDescInit_spec e.desc
      { t₀ with descBus := e.descBus.bus, currentList := 0 } (show 0 < 512 by omega) (by decide)
      (by simp only [XDMA_DESC_SIZE]; omega)
  rw [show (2 : ℕ) * 512 = RX_DESC_NUM from rfl] at hinit hdesc
  simp only [hinit] at h
  have hring : ∀ e'', e'' = { e with desc := desc, transfer := some t } → Ring e'' t := by
    rintro e'' rfl
    refine ⟨rfl, fun k hk => ?_, fun i hi hlast => ?_⟩
    · obtain rfl | rfl : k = 0 ∨ k = 1 := by
        simp only [DESC_LIST_NUM] at hk
        omega
      · rw [hlist0, descAddr, Nat.zero_mul, Nat.mul_zero, Nat.add_zero]
      · rw [hlist1, descAddr, Nat.one_mul]
    · show (desc i).next = _
      rw [hdesc i hi]
      exact initDesc_next hlast
  have hstop : ∀ i < RX_DESC_NUM, (desc i).isStopped = decide (lastOfHalf i) := by
    intro i hi
    rw [hdesc i hi]
    exact initDesc_isStopped _ _ _ _
  by_cases htaken : e' = { e with desc := desc, transfer := some t }
  · exact Or.inr ⟨desc, t, htaken, hring e' htaken, hcur, hstop⟩
  · left
    unfold transferQueue at h
    cases flag with
    | true =>
        simp only [if_true, ite_self, Except.ok.injEq] at h
        exact absurd h.symm htaken
    | false =>
        simp only [Bool.false_eq_true, if_false] at h
        split at h
        · cases h
          exact hnull rfl
        · cases h
          exact absurd rfl htaken

/-- `ax_net_init_ring` gives every entry of an H2C ring its buffer. -/
theorem initRingTx_spec {e e' : XdmaEngine} {t : XdmaTransfer} (h : initRingTx e = .ok e')
    (hr : Ring e t) : ∃ desc, e' = { e with desc := desc } ∧ TxRing e' t := by
  have hfits := e.txBuffBus.fits
  simp only [XDMA_TRANSFER_MAX_DESC, DMA_PACKET_SIZE] at hfits
  simp only [initRingTx, hr.transfer_eq, foldl_initRingStep, Except.ok.injEq] at h
  rw [← hr.transfer_eq] at h
  refine ⟨_, h.symm, ?_⟩
  subst h
  refine ⟨⟨hr.transfer_eq, hr.list, fun i hi hlast => ?_⟩, fun i hi => ?_⟩
  · simp only [if_pos hi]
    exact hr.next i hi hlast
  · simp only [if_pos hi, XdmaDesc.src, writeTxDesc, dmaAddr_pciDma]
    have hadv : advanceTx^[i] e.txBuffBus.bus = _ := advance_iterate (by omega) i
    rw [hadv, Nat.mod_eq_of_lt]
    simp only [DMA_PACKET_SIZE, RX_DESC_NUM, TX_DESC_NUM] at hi ⊢
    omega

/-- `ax_net_init_ring` gives every entry of the C2H ring its buffer and its result record. -/
theorem initRingRx_spec {e e' : XdmaEngine} {t : XdmaTransfer} (h : initRingRx e = .ok e')
    (hr : Ring e t) (hstop : ∀ i < RX_DESC_NUM, (e.desc i).isStopped = decide (lastOfHalf i)) :
    ∃ desc, e' = { e with desc := desc } ∧ RxRing e' t := by
  have hfits := e.rxBuffBus.fits
  have hfits' := e.cyclicResultBus.fits
  simp only [XDMA_TRANSFER_MAX_DESC, DMA_PACKET_SIZE, RX_DESC_NUM, XDMA_RESULT_SIZE]
    at hfits hfits'
  simp only [initRingRx, hr.transfer_eq, foldl_initRingStep, Except.ok.injEq] at h
  rw [← hr.transfer_eq] at h
  refine ⟨_, h.symm, ?_⟩
  subst h
  have hbus : ∀ i < RX_DESC_NUM, advanceRx^[i] (e.rxBuffBus.bus, e.cyclicResultBus.bus) =
      (e.rxBuffBus.bus + DMA_PACKET_SIZE * i, e.cyclicResultBus.bus + XDMA_RESULT_SIZE * i) := by
    intro i hi
    simp only [RX_DESC_NUM] at hi
    rw [advanceRx_iterate, advance_iterate (by omega), advance_iterate (by omega)]
    simp only [DMA_PACKET_SIZE, XDMA_RESULT_SIZE]
    rw [Nat.mod_eq_of_lt (by omega), Nat.mod_eq_of_lt (by omega)]
  refine ⟨⟨hr.transfer_eq, hr.list, fun i hi hlast => ?_⟩, fun i hi => ?_, fun i hi => ?_,
    fun i hi => ?_⟩
  · simp only [if_pos hi]
    exact hr.next i hi hlast
  · simp only [if_pos hi, XdmaDesc.dst, writeRxDesc, dmaAddr_pciDma, hbus i hi]
  · simp only [if_pos hi, XdmaDesc.src, writeRxDesc, dmaAddr_pciDma, hbus i hi]
  · simp only [if_pos hi]
    exact hstop i hi

/-- Before the first open no engine has a transfer. -/
structure NoTransferYet (d : NetDev) : Prop where
  h2c : d.xdmaDescFlag = false → ∀ c, (d.engineH2c c).transfer = none
  c2h : d.xdmaDescFlag = false → d.engineC2h.transfer = none

theorem NoTransferYet.of_opened {d : NetDev} (h : d.xdmaDescFlag = true) : NoTransferYet d := by
  refine ⟨fun hf => ?_, fun hf => ?_⟩ <;>
  · rw [h] at hf
    cases hf

theorem setupTx_spec {offline flag : Bool} {e e₁ e₂ : XdmaEngine}
    (h₁ : xdmaDescSetup offline flag e = .ok e₁) (h₂ : initRingTx e₁ = .ok e₂)
    (hnull : flag = false → e.transfer = none) :
    ∃ desc t, e₂ = { e with desc := desc, transfer := some t } ∧ TxRing e₂ t ∧
      t.currentList = 0 := by
  rcases xdmaDescSetup_spec h₁ hnull with hnone | ⟨desc, t, rfl, hring, hcur, -⟩
  · simp only [initRingTx, hnone] at h₂
    cases h₂
  · obtain ⟨desc', rfl, htx⟩ := initRingTx_spec h₂ hring
    exact ⟨desc', t, rfl, htx, hcur⟩

theorem setupRx_spec {offline flag : Bool} {e e₁ e₂ : XdmaEngine}
    (h₁ : xdmaDescSetup offline flag e = .ok e₁) (h₂ : initRingRx e₁ = .ok e₂)
    (hnull : flag = false → e.transfer = none) :
    ∃ desc t, e₂ = { e with desc := desc, transfer := some t } ∧ RxRing e₂ t ∧
      t.currentList = 0 := by
  rcases xdmaDescSetup_spec h₁ hnull with hnone | ⟨desc, t, rfl, hring, hcur, hstop⟩
  · simp only [initRingRx, hnone] at h₂
    cases h₂
  · obtain ⟨desc', rfl, hrx⟩ := initRingRx_spec h₂ hring hstop
    exact ⟨desc', t, rfl, hrx, hcur⟩

/-- **What an open leaves.** The H2C engines have fresh rings and are otherwise untouched; the C2H
engine, which was not running, has a fresh ring and has been started on its first half. -/
theorem axNetOpen_spec {d d' : NetDev} (h : axNetOpen d = .ok d') (hnull : NoTransferYet d) :
    d' = openedBase d d'.engineH2c d'.engineC2h ∧
      (∀ c, ∃ desc t, d'.engineH2c c = { d.engineH2c c with desc := desc, transfer := some t } ∧
        TxRing (d'.engineH2c c) t ∧ t.currentList = 0) ∧
      d.engineC2h.running = false ∧
      ∃ desc t, d'.engineC2h =
          ({ d.engineC2h with desc := desc, transfer := some t } : XdmaEngine).started
            (descAddr d.engineC2h 0) ∧
        RxRing d'.engineC2h t ∧ t.currentList = 0 := by
  simp only [axNetOpen, bind_eq_ok] at h
  obtain ⟨a₀, ha₀, a₁, ha₁, b, hb, b', hb', a₀', ha₀', a₁', ha₁', b'', hb'', hd'⟩ := h
  obtain ⟨desc, t, hbeq, hrx, hcur⟩ := setupRx_spec hb hb' hnull.c2h
  have hstart : b'.transfer = some t := hrx.transfer_eq
  rw [XdmaEngine.engineStart_eq hstart] at hb''
  split at hb''
  · cases hb''
  rename_i hrun
  have hlist : t.listDesc t.currentList = descAddr d.engineC2h 0 := by
    rw [hcur, hrx.list 0 (by decide), hbeq, Nat.zero_mul]
    rfl
  cases hb''
  cases hd'
  refine ⟨rfl, fun c => ?_, ?_, desc, t, ?_, ?_, hcur⟩
  · obtain rfl | rfl := channel_cases c
    · exact setupTx_spec ha₀ ha₀' fun hf => hnull.h2c hf 0
    · exact setupTx_spec ha₁ ha₁' fun hf => hnull.h2c hf 1
  · rw [hbeq] at hrun
    exact Bool.eq_false_iff.mpr hrun
  · rw [hlist, hbeq]
    rfl
  · exact ⟨⟨hrx.transfer_eq, hrx.list, hrx.next⟩, hrx.dst, hrx.src, hrx.stopped⟩

/-- No H2C engine runs: the state a probe or an `ax_net_close` leaves. -/
structure Quiescent (d : NetDev) : Prop extends NoTransferYet d where
  running : ∀ c, (d.engineH2c c).running = false
  pc : ∀ c, (d.engineH2c c).hw.pc = none

theorem axNetClose_quiescent {d : NetDev} (h : NoTransferYet d) : Quiescent (axNetClose d) :=
  ⟨⟨fun hf c => h.h2c hf c, fun hf => h.c2h hf⟩, fun _ => rfl, fun _ => rfl⟩

/-! ## The fault of `engine_start` in an open -/

theorem transferQueue_running (offline : Bool) (e : XdmaEngine) (t : XdmaTransfer) :
    (transferQueue offline e t).running = e.running := by
  unfold transferQueue
  split <;> rfl

theorem xdmaDescSetup_running {offline flag : Bool} {e : XdmaEngine} :
    xdmaDescSetup offline flag e ≠ .error .engineRunning ∧
      ∀ e', xdmaDescSetup offline flag e = .ok e' → e'.running = e.running := by
  unfold xdmaDescSetup
  split
  · exact ⟨by simp, by simp⟩
  · split
    · exact ⟨by simp, by simp⟩
    · refine ⟨by simp, fun e' h => ?_⟩
      cases h
      rw [transferQueue_running]
      cases flag <;> rfl

theorem initRingTx_noFault {e : XdmaEngine} : initRingTx e ≠ .error .engineRunning := by
  unfold initRingTx
  split <;> simp

theorem initRingRx_running {e : XdmaEngine} :
    initRingRx e ≠ .error .engineRunning ∧ ∀ e', initRingRx e = .ok e' → e'.running = e.running := by
  unfold initRingRx
  split
  · exact ⟨by simp, by simp⟩
  · refine ⟨by simp, fun e' h => ?_⟩
    cases h
    rfl

/-- `ax_net_open` meets the `BUG_ON` of `engine_start` only if the C2H engine is running. -/
theorem running_of_axNetOpen_error {d : NetDev} (h : axNetOpen d = .error .engineRunning) :
    d.engineC2h.running = true := by
  simp only [axNetOpen, bind_eq_error, xdmaDescSetup_running.1, initRingTx_noFault,
    initRingRx_running.1, false_or, reduceCtorEq, and_false, exists_false, or_false] at h
  obtain ⟨-, -, -, -, b, hb, b', hb', -, -, -, -, hstart⟩ := h
  have hrun := XdmaEngine.running_of_engineStart_error hstart
  rwa [initRingRx_running.2 b' hb', xdmaDescSetup_running.2 b hb] at hrun

/-! ## A probed device -/

theorem xdmaDescSetup_ok {flag : Bool} {e : XdmaEngine} (hshut : e.shutdownRequest = false)
    (ht : flag = true → ∃ t, e.transfer = some t) :
    ∃ desc t, xdmaDescSetup false flag e = .ok { e with desc := desc, transfer := some t } := by
  have hfits : e.descBus.bus + 2048 * 32 ≤ 2 ^ 64 := e.descBus.fits
  obtain ⟨t₀, ht₀⟩ : ∃ t₀, (if flag then e.transfer else some zeroTransfer) = some t₀ := by
    cases flag with
    | true => exact ht rfl
    | false => exact ⟨_, rfl⟩
  obtain ⟨desc, t, hinit, -⟩ := transferDescInit_spec e.desc
    { t₀ with descBus := e.descBus.bus, currentList := 0 } (show 0 < 512 by omega) (by decide)
    (by simp only [XDMA_DESC_SIZE]; omega)
  refine ⟨desc, t, ?_⟩
  rw [show (2 : ℕ) * 512 = RX_DESC_NUM from rfl] at hinit
  simp only [xdmaDescSetup, ht₀, hinit, transferQueue]
  cases flag <;> simp [hshut]

/-- A device that takes transfers: the engines are neither offline nor shutting down, and have a
transfer if the interface has been opened before. -/
structure Openable (d : NetDev) : Prop where
  online : d.offline = false
  h2c : ∀ c, (d.engineH2c c).shutdownRequest = false
  c2h : d.engineC2h.shutdownRequest = false
  h2cTransfer : d.xdmaDescFlag = true → ∀ c, ∃ t, (d.engineH2c c).transfer = some t
  c2hTransfer : d.xdmaDescFlag = true → ∃ t, d.engineC2h.transfer = some t

/-- Opening such a device comes to the start of the C2H engine. -/
theorem axNetOpen_eq_start {d : NetDev} (h : Openable d) :
    ∃ h2c desc t, axNetOpen d =
      (({ d.engineC2h with desc := desc, transfer := some t } : XdmaEngine).engineStart >>=
        fun e => .ok (openedBase d h2c e)) := by
  obtain ⟨desc₀, t₀, h₀⟩ := xdmaDescSetup_ok (h.h2c 0) (fun hf => h.h2cTransfer hf 0)
  obtain ⟨desc₁, t₁, h₁⟩ := xdmaDescSetup_ok (h.h2c 1) (fun hf => h.h2cTransfer hf 1)
  obtain ⟨desc₂, t₂, h₂⟩ := xdmaDescSetup_ok h.c2h h.c2hTransfer
  simp only [axNetOpen, h.online, h₀, h₁, h₂, initRingTx, initRingRx]
  exact ⟨_, _, t₂, rfl⟩

/-- A device whose C2H engine is stopped can be opened. -/
theorem axNetOpen_ok {d : NetDev} (h : Openable d) (hrun : d.engineC2h.running = false) :
    ∃ d', axNetOpen d = .ok d' := by
  obtain ⟨h2c, desc, t, heq⟩ := axNetOpen_eq_start h
  have hstart : ∃ e', XdmaEngine.engineStart
      { d.engineC2h with desc := desc, transfer := some t } = .ok e' :=
    XdmaEngine.engineStart_ok hrun
  obtain ⟨e', he'⟩ := hstart
  rw [heq, he']
  exact ⟨_, rfl⟩

/-- A device whose C2H engine is running cannot. -/
theorem axNetOpen_running {d : NetDev} (h : Openable d) (hrun : d.engineC2h.running = true) :
    axNetOpen d = .error .engineRunning := by
  obtain ⟨h2c, desc, t, heq⟩ := axNetOpen_eq_start h
  have hstart : XdmaEngine.engineStart
      { d.engineC2h with desc := desc, transfer := some t } = .error .engineRunning := by
    simp only [XdmaEngine.engineStart, hrun, if_true]
  rw [heq, hstart]
  rfl

/-- An empty packet buffer. -/
def zeroBuff : PacketBuff where
  data := List.replicate DMA_PACKET_SIZE 0
  length_eq := List.length_replicate

/-- An engine as `engine_alloc_resource` leaves it, with its coherent memory at `bus`. -/
def probedEngine (bus : ℕ) (h : bus < 2 ^ 32) : XdmaEngine where
  running := false
  shutdownRequest := false
  transfer := none
  desc _ := ⟨0, 0, 0, 0, 0, 0, 0, 0⟩
  descBus := ⟨bus, by simp only [XDMA_TRANSFER_MAX_DESC, XDMA_DESC_SIZE]; omega⟩
  cyclicResult _ := ⟨0, 0⟩
  cyclicResultBus := ⟨bus + 0x100000, by simp only [RX_DESC_NUM, XDMA_RESULT_SIZE]; omega⟩
  rxBuff _ := zeroBuff
  rxBuffBus := ⟨bus + 0x200000, by simp only [XDMA_TRANSFER_MAX_DESC, DMA_PACKET_SIZE]; omega⟩
  txBuff _ := zeroBuff
  txBuffBus := ⟨bus + 0x800000, by simp only [XDMA_TRANSFER_MAX_DESC, DMA_PACKET_SIZE]; omega⟩
  hw :=
    { firstDescLo := 0, firstDescHi := 0, pc := none, descStopped := false, descCompleted := false
      completedDescCount := 0, runs := [] }

/-- A device that has been probed and never opened. -/
def probedDev : NetDev where
  txList _ := { idle := 0, cur := 0, curPktCount := 0 }
  engineH2c c := if c = 0 then probedEngine 0x10000000 (by decide)
    else probedEngine 0x20000000 (by decide)
  engineC2h := probedEngine 0x30000000 (by decide)
  stopQueueChannel := 0
  queueStopped := true
  curRx := 0
  curRxPktCount := 0
  rxPackets := 0
  rxBytes := 0
  napiEnabled := false
  napiScheduled := false
  linkStart := false
  offline := false
  xdmaDescFlag := false
  stack := []

theorem probedDev_quiescent : Quiescent probedDev := by
  refine ⟨⟨fun _ c => ?_, fun _ => rfl⟩, fun c => ?_, fun c => ?_⟩ <;>
    obtain rfl | rfl := channel_cases c <;> rfl

theorem probedDev_openable : Openable probedDev := by
  refine ⟨rfl, fun c => ?_, rfl, nofun, nofun⟩
  obtain rfl | rfl := channel_cases c <;> rfl

theorem axNetOpen_probedDev : ∃ d', axNetOpen probedDev = .ok d' :=
  axNetOpen_ok probedDev_openable rfl

/-- An opened device can be opened again, once it is closed. -/
theorem Openable.opened {d d' : NetDev} (h : Openable d) (hnull : NoTransferYet d)
    (hopen : axNetOpen d = .ok d') : Openable d' := by
  obtain ⟨hbase, htx, -, desc, t, he, -⟩ := axNetOpen_spec hopen hnull
  refine ⟨?_, fun c => ?_, ?_, fun _ c => ?_, fun _ => ⟨t, ?_⟩⟩
  · rw [hbase]
    exact h.online
  · obtain ⟨desc', t', he', -⟩ := htx c
    rw [he']
    exact h.h2c c
  · rw [he]
    rfl
  · obtain ⟨desc', t', he', -⟩ := htx c
    rw [he']
    exact ⟨t', rfl⟩
  · rw [he]
    rfl

theorem Openable.closed {d : NetDev} (h : Openable d) : Openable (axNetClose d) :=
  ⟨h.online, h.h2c, h.c2h, h.h2cTransfer, h.c2hTransfer⟩

end Axm57104.Net
