import Axm57104.Xdma.Engine

/-!
# The network device

`NetDev` joins the parts of `ax_private`, `xdma_dev` and `net_device` that the data path reads and
writes: the transmit lists, the three engines, the receive cursor and the state of the netdev queue.
`stack` is what the driver has passed to the network stack, oldest first.
-/

namespace Axm57104.Net

open Xdma

@[simp] abbrev XDMA_CHANNEL_NUM_MAX : ℕ := 2

instance channelNumMax_neZero : NeZero XDMA_CHANNEL_NUM_MAX := ⟨Nat.succ_ne_zero 1⟩

theorem channel_cases (c : Fin XDMA_CHANNEL_NUM_MAX) : c = 0 ∨ c = 1 := by
  have hc : c.val < 2 := c.isLt
  simp only [Fin.ext_iff, Fin.val_zero, Fin.val_one]
  omega

/-- `struct ax_tx_list`. -/
structure AxTxList where
  idle : ℕ
  cur : ℕ
  curPktCount : ℕ

/-- The state of the data path. `curRxPktCount` is a `u32`; `rxPackets` and `rxBytes` are the
`unsigned long` counters of `net_stats`, of 64 bits. `linkStart` is `__LINK_STATE_START`, `offline` the flag
`XDEV_FLAG_OFFLINE`, `xdmaDescFlag` the module's static of that name. -/
structure NetDev where
  txList : Fin XDMA_CHANNEL_NUM_MAX → AxTxList
  engineH2c : Fin XDMA_CHANNEL_NUM_MAX → XdmaEngine
  engineC2h : XdmaEngine
  stopQueueChannel : ℕ
  queueStopped : Bool
  curRx : ℕ
  curRxPktCount : UInt32
  rxPackets : UInt64
  rxBytes : UInt64
  napiEnabled : Bool
  napiScheduled : Bool
  linkStart : Bool
  offline : Bool
  xdmaDescFlag : Bool
  stack : List (List UInt8)

/-- `engine->irq_bitmask` of H2C engine `c`: `engine_init` numbers the engines in probe order. -/
def irqBitmaskH2c (c : Fin XDMA_CHANNEL_NUM_MAX) : ℕ := 2 ^ c.val

/-- `engine->irq_bitmask` of the C2H engine, probed after the two H2C engines. -/
def irqBitmaskC2h : ℕ := 2 ^ 2

/-- `xdev->mask_irq_h2c`. -/
def maskIrqH2c : ℕ := irqBitmaskH2c 0 ||| irqBitmaskH2c 1

/-- `xdev->mask_irq_c2h`. -/
def maskIrqC2h : ℕ := irqBitmaskC2h

/-- The engine asserts its interrupt request line. -/
def intRequest (e : XdmaEngine) : Bool := e.hw.descStopped || e.hw.descCompleted

/-- What a read of `channel_int_request` returns. -/
def channelIntRequest (d : NetDev) : ℕ :=
  (if intRequest (d.engineH2c 0) then irqBitmaskH2c 0 else 0) +
    (if intRequest (d.engineH2c 1) then irqBitmaskH2c 1 else 0) +
    (if intRequest d.engineC2h then irqBitmaskC2h else 0)

/-- The bits of `channel_int_request` are the request lines of the engines. -/
theorem channelIntRequest_and (d : NetDev) :
    (irqBitmaskH2c 0 &&& (channelIntRequest d &&& maskIrqH2c) ≠ 0 ↔
        intRequest (d.engineH2c 0) = true) ∧
      (irqBitmaskH2c 1 &&& (channelIntRequest d &&& maskIrqH2c) ≠ 0 ↔
        intRequest (d.engineH2c 1) = true) ∧
      (irqBitmaskC2h &&& (channelIntRequest d &&& maskIrqC2h) ≠ 0 ↔
        intRequest d.engineC2h = true) := by
  unfold channelIntRequest
  cases intRequest (d.engineH2c 0) <;> cases intRequest (d.engineH2c 1) <;>
    cases intRequest d.engineC2h <;> decide

end Axm57104.Net
