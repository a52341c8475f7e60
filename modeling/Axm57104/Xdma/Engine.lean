import Axm57104.Common.Bytes
import Axm57104.Xdma.Desc

/-!
# SG DMA engines

`XdmaEngine` is the driver's book-keeping of one engine together with the coherent memory it shares
with the device; `HwEngine` is the device's side, as far as the driver can see or influence it.

The device works descriptor by descriptor. Writing the control register with the run bit starts a
run at the address in `first_desc`; each `h2cStep` or `c2hStep` then moves one frame and follows the
`next` pointer; a descriptor with `XDMA_DESC_STOPPED` ends the run and raises `DESC_STOPPED`. What
the device did is kept in `HwEngine.runs`, so that results can speak about it.
-/

namespace Axm57104.Xdma

open Common

/-- How the driver can fail: a `BUG_ON`, a null dereference, `skb_over_panic`, or an engine that is
sent to an address that holds no descriptor or no buffer. -/
inductive Fault
  | engineRunning
  | nullTransfer
  | tooManyDesc
  | skbOverPanic
  | badFetch
  deriving DecidableEq, Repr

/-! ## Shared memory -/

/-- `struct packet_buff`. -/
structure PacketBuff where
  data : List UInt8
  length_eq : data.length = DMA_PACKET_SIZE

/-- `struct xdma_result`, the record the device writes back for a received frame. -/
structure XdmaResult where
  status : ℕ
  length : ℕ

/-- The index of the block of `size` bytes at `addr`, in an array of blocks at `bus`. -/
def blockIndex (bus size addr : ℕ) : Option ℕ :=
  if bus ≤ addr ∧ (addr - bus) % size = 0 then some ((addr - bus) / size) else none

theorem blockIndex_add (bus i : ℕ) {size : ℕ} (hsize : 0 < size) :
    blockIndex bus size (bus + size * i) = some i := by
  rw [blockIndex, if_pos]
  · rw [Nat.add_sub_cancel_left, Nat.mul_div_cancel_left i hsize]
  · exact ⟨Nat.le_add_right _ _, by rw [Nat.add_sub_cancel_left, Nat.mul_mod_right]⟩

/-! ## The device's side -/

/-- One run of an engine: where it started, the frames it moved so far (oldest first), and whether
it has reached a descriptor with `XDMA_DESC_STOPPED`. -/
structure HwRun where
  first : ℕ
  moved : List (List UInt8)
  stopped : Bool

/-- The registers of an engine and the runs it made, the latest first. `pc` is the address of the
next descriptor to fetch while the engine runs. -/
structure HwEngine where
  firstDescLo : ℕ
  firstDescHi : ℕ
  pc : Option ℕ
  descStopped : Bool
  descCompleted : Bool
  completedDescCount : ℕ
  runs : List HwRun

namespace HwEngine

/-- The control register is written with the run bit set. -/
def start (hw : HwEngine) : HwEngine :=
  let first := dmaAddr hw.firstDescHi hw.firstDescLo
  { hw with
    pc := some first
    completedDescCount := 0
    runs := { first := first, moved := [], stopped := false } :: hw.runs }

/-- The control register is written with the run bit clear. -/
def halt (hw : HwEngine) : HwEngine := { hw with pc := none }

/-- The engine has moved `frame` under the descriptor `d`. -/
def finish (hw : HwEngine) (d : XdmaDesc) (frame : List UInt8) : HwEngine :=
  { hw with
    pc := if d.isStopped then none else some d.next
    descStopped := hw.descStopped || d.isStopped
    descCompleted := hw.descCompleted || d.isCompleted
    completedDescCount := hw.completedDescCount + 1
    runs := match hw.runs with
      | [] => []
      | r :: rs => { r with moved := r.moved ++ [frame], stopped := d.isStopped } :: rs }

end HwEngine

/-! ## Engines -/

/-- `struct xdma_engine`, with the memory behind its pointers. `desc` is the memory of both
`engine->desc` and `transfer->desc_virt`. -/
structure XdmaEngine where
  running : Bool
  shutdownRequest : Bool
  transfer : Option XdmaTransfer
  desc : ℕ → XdmaDesc
  descBus : DmaRegion (XDMA_TRANSFER_MAX_DESC * XDMA_DESC_SIZE)
  cyclicResult : ℕ → XdmaResult
  cyclicResultBus : DmaRegion (RX_DESC_NUM * XDMA_RESULT_SIZE)
  rxBuff : ℕ → PacketBuff
  rxBuffBus : DmaRegion (XDMA_TRANSFER_MAX_DESC * DMA_PACKET_SIZE)
  txBuff : ℕ → PacketBuff
  txBuffBus : DmaRegion (XDMA_TRANSFER_MAX_DESC * DMA_PACKET_SIZE)
  hw : HwEngine

namespace XdmaEngine

/-- `engine_start`. Without a transfer it returns at once; `BUG_ON(engine->running)` is a fault. -/
def engineStart (e : XdmaEngine) : Except Fault XdmaEngine :=
  match e.transfer with
  | none => .ok e
  | some t =>
      if e.running then .error .engineRunning
      else
        let descBus := t.listDesc t.currentList
        let hw := { e.hw with firstDescLo := pciDmaL descBus, firstDescHi := pciDmaH descBus }
        .ok { e with shutdownRequest := false, hw := hw.start, running := true }

/-- The engine after a start at the descriptor at `addr`. -/
def started (e : XdmaEngine) (addr : ℕ) : XdmaEngine :=
  { e with
    shutdownRequest := false
    hw := { e.hw with
      firstDescLo := pciDmaL addr
      firstDescHi := pciDmaH addr
      pc := some addr
      completedDescCount := 0
      runs := { first := addr, moved := [], stopped := false } :: e.hw.runs }
    running := true }

theorem engineStart_eq {e : XdmaEngine} {t : XdmaTransfer} (h : e.transfer = some t) :
    e.engineStart =
      if e.running then .error .engineRunning else .ok (e.started (t.listDesc t.currentList)) := by
  simp only [engineStart, h, HwEngine.start, dmaAddr_pciDma, started]

/-- The only fault of `engine_start` is that of a running engine. -/
theorem running_of_engineStart_error {e : XdmaEngine} {f : Fault} (h : e.engineStart = .error f) :
    e.running = true := by
  unfold engineStart at h
  split at h
  · cases h
  · split at h
    · assumption
    · cases h

/-- An engine that is not running can be started. -/
theorem engineStart_ok {e : XdmaEngine} (h : e.running = false) : ∃ e', e.engineStart = .ok e' := by
  unfold engineStart
  split
  · exact ⟨e, rfl⟩
  · rw [if_neg (by rw [h]; exact Bool.false_ne_true)]
    exact ⟨_, rfl⟩

/-- `xdma_engine_stop`. -/
def xdmaEngineStop (e : XdmaEngine) : XdmaEngine :=
  { e with hw := e.hw.halt, running := false }

/-- The `DESC_STOPPED` bit that `engine_status_read(engine, 1, 0)` returns. -/
def statusStopped (e : XdmaEngine) : Bool := e.hw.descStopped

/-- The effect of `engine_status_read(engine, 1, 0)`: the bits that were read are written back,
which clears them. -/
def engineStatusRead (e : XdmaEngine) : XdmaEngine :=
  { e with hw := { e.hw with descStopped := false, descCompleted := false } }

/-- The descriptor the device is about to process, with its index. -/
def fetch (e : XdmaEngine) : Option (ℕ × XdmaDesc) :=
  e.hw.pc.bind fun pc => (blockIndex e.descBus.bus XDMA_DESC_SIZE pc).map fun i => (i, e.desc i)

end XdmaEngine

/-! ## What one descriptor does -/

/-- `sizeof(struct nic_tx_header)`. -/
@[simp] abbrev NIC_TX_HEADER_SIZE : ℕ := 8

/-- The frame the device puts on the wire from the bytes of one H2C descriptor: `header.length`
bytes behind the `nic_tx_header`. -/
def wireFrame (bytes : List UInt8) : List UInt8 :=
  slice bytes NIC_TX_HEADER_SIZE (ofLe16 (slice bytes 0 2))

/-- An H2C engine transfers the frame of its next descriptor. -/
def XdmaEngine.h2cStep (e : XdmaEngine) : Except Fault XdmaEngine :=
  match e.fetch with
  | none => .error .badFetch
  | some (_, d) =>
      match blockIndex e.txBuffBus.bus DMA_PACKET_SIZE d.src with
      | none => .error .badFetch
      | some j => .ok { e with hw := e.hw.finish d (wireFrame ((e.txBuff j).data.take d.bytes)) }

theorem XdmaEngine.h2cStep_cases (e : XdmaEngine) :
    e.h2cStep = .error .badFetch ∨ ∃ hw, e.h2cStep = .ok { e with hw := hw } := by
  unfold h2cStep
  split
  · exact .inl rfl
  · split
    · exact .inl rfl
    · exact .inr ⟨_, rfl⟩

@[simp] abbrev C2H_WB : ℕ := 0x52B40000

/-- The test of `ax_net_rx` on the status word: the device has written this record. -/
def XdmaResult.isCompleted (r : XdmaResult) : Bool := r.status &&& 0xFFFF0000 == C2H_WB

/-- The `length` bytes from the start of receive buffer `entry` on. The buffers lie one behind the
other, so that a length above the size of one reads on in the next. -/
def XdmaEngine.rxBytes (e : XdmaEngine) (entry length : ℕ) : List UInt8 :=
  (List.range length).map fun i =>
    (e.rxBuff (entry + i / DMA_PACKET_SIZE)).data.getD (i % DMA_PACKET_SIZE) 0

theorem XdmaEngine.rxBytes_of_le (e : XdmaEngine) (entry : ℕ) {length : ℕ}
    (h : length ≤ DMA_PACKET_SIZE) :
    e.rxBytes entry length = (e.rxBuff entry).data.take length := by
  have hlen := (e.rxBuff entry).length_eq
  simp only [DMA_PACKET_SIZE] at h hlen
  apply List.ext_getElem
  · rw [rxBytes, List.length_map, List.length_range, List.length_take, hlen, Nat.min_eq_left h]
  · intro i hi _
    rw [rxBytes, List.length_map, List.length_range] at hi
    have hquot : i / 2048 = 0 := by omega
    have hrem : i % 2048 = i := by omega
    simp only [rxBytes, List.getElem_map, List.getElem_range, DMA_PACKET_SIZE, hquot, hrem,
      Nat.add_zero, List.getElem_take]
    exact (List.getElem_eq_getD 0).symm

/-- A frame the device can receive into one buffer, with the low 16 bits of the write-back status
it reports for it. -/
structure RxFrame where
  bytes : List UInt8
  flags : ℕ
  fits : bytes.length ≤ PKT_BUF_LEN
  flags_lt : flags < 2 ^ 16

/-- The contents of a packet buffer after the device has written `bytes` to its start. -/
def PacketBuff.receive (b : PacketBuff) (bytes : List UInt8) (h : bytes.length ≤ PKT_BUF_LEN) :
    PacketBuff where
  data := overwrite b.data 0 bytes
  length_eq := by
    rw [length_overwrite (by rw [b.length_eq, Nat.zero_add]; exact h), b.length_eq]

/-- A C2H engine receives `f` under its next descriptor: the frame goes to the buffer the
descriptor names, the status and length to the result record it names. -/
def XdmaEngine.c2hStep (e : XdmaEngine) (f : RxFrame) : Except Fault XdmaEngine :=
  match e.fetch with
  | none => .error .badFetch
  | some (_, d) =>
      match blockIndex e.rxBuffBus.bus DMA_PACKET_SIZE d.dst,
        blockIndex e.cyclicResultBus.bus XDMA_RESULT_SIZE d.src with
      | some j, some k =>
          .ok { e with
            rxBuff := Function.update e.rxBuff j ((e.rxBuff j).receive f.bytes f.fits)
            cyclicResult := Function.update e.cyclicResult k
              { status := C2H_WB + f.flags, length := f.bytes.length }
            hw := e.hw.finish d f.bytes }
      | _, _ => .error .badFetch

theorem XdmaEngine.c2hStep_cases (e : XdmaEngine) (f : RxFrame) :
    e.c2hStep f = .error .badFetch ∨ ∃ rxBuff result hw,
      e.c2hStep f = .ok { e with rxBuff := rxBuff, cyclicResult := result, hw := hw } := by
  unfold c2hStep
  split
  · exact .inl rfl
  · split
    · exact .inr ⟨_, _, _, rfl⟩
    · exact .inl rfl

end Axm57104.Xdma
