import Axm57104.Common.Prog
import Mathlib.Data.List.Basic
import Mathlib.Data.Nat.Notation
import Mathlib.Logic.Function.Basic

/-!
# The private ioctl

User space sends an `IOCTL` record with an opcode, which `ax_net_privioctl` looks up in
`ioctl_fun_table`. The opcodes are in `ioctl.h`, where `AX_IOCTL_CLEAN_FIFO` is 5; the table has its
function at 4 and ends there, and the test of the opcode lets the length of the table through. The
opcodes from `AX_IOCTL_TIME_SLOT` on do not get what `ioctl.h` has for them.

The handlers are programs over the mapped BARs, for any device behind them.
-/

namespace Axm57104.Net

open Common

/-! ## The record -/

/-- The 20 bytes of `AX_CMD_DATA`, as the fields of `AX_MEM_REG`. -/
structure AxCmdData where
  offset : UInt64
  value : UInt64
  bar : UInt32
  deriving DecidableEq, Repr

/-- `bar` of the `AX_BAR_BASE` in the union: the four bytes behind `bar_base_addr`, which lies over
`offset`. -/
def AxCmdData.barOfBase (cmd : AxCmdData) : UInt32 := cmd.value.toUInt32

/-- `IOCTL`. -/
structure Ioctl where
  gid : List UInt8
  opcode : UInt64
  status : ℤ
  cmdData : AxCmdData
  deriving DecidableEq, Repr

@[simp] abbrev AX_STATUS_SUCCESS : ℤ := 0
@[simp] abbrev AX_STATUS_FAILURE : ℤ := -1
@[simp] abbrev AX_STATUS_NOT_SUPPORT : ℤ := -2

@[simp] abbrev EFAULT : ℤ := 14
@[simp] abbrev EINVAL : ℤ := 22

def ASIX_GID : List UInt8 := [0x41, 0x53, 0x49, 0x58, 0x58, 0x49, 0x53, 0x41]

@[simp] abbrev XDMA_BAR_NUM : ℕ := 3

/-- What the handlers use of `ax_private` and `xdma_dev`. -/
structure IoctlDev where
  phyBar : Fin XDMA_BAR_NUM → UInt64
  dsaMac : ℕ → ℕ → UInt8

/-! ## Accesses to the BARs -/

/-- `ioread32` and `iowrite32`. -/
inductive IoAccess
  | read (bar : Fin XDMA_BAR_NUM) (offset : UInt64)
  | write (bar : Fin XDMA_BAR_NUM) (offset : UInt64) (value : UInt32)
  deriving DecidableEq, Repr

/-- An entry behind the end of `ioctl_fun_table` is looked up, to be tested and called; or a loop has
not ended in the iterations it was given. -/
inductive IoctlFault
  | tableOverrun
  | outOfFuel
  deriving DecidableEq, Repr

abbrev IoctlM : Type → Type := Prog IoAccess UInt32 IoctlFault

def ioread32 (bar : Fin XDMA_BAR_NUM) (offset : UInt64) : IoctlM UInt32 :=
  .op (.read bar offset) .ret

def iowrite32 (bar : Fin XDMA_BAR_NUM) (offset : UInt64) (value : UInt32) : IoctlM Unit :=
  .op (.write bar offset value) fun _ => .ret ()

@[simp] abbrev DSA_OFFSET : UInt64 := 0x0C00
@[simp] abbrev PTP_TIMESTAMP_CTRL : UInt64 := 0x3110
@[simp] abbrev PTP_RX_MESSAGE_INFO : UInt64 := 0x3140

/-! ## The handlers -/

/-- The BAR that a `MMAP_BAR` selects. -/
def barOf (bar : UInt32) : Option (Fin XDMA_BAR_NUM) :=
  if h : bar.toNat < XDMA_BAR_NUM then some ⟨bar.toNat, h⟩ else none

/-- `ioctl_signature`. -/
def ioctlSignature (ioctl : Ioctl) : IoctlM Ioctl :=
  pure { ioctl with gid := ASIX_GID, status := AX_STATUS_SUCCESS }

/-- `ioctl_read_reg`. -/
def ioctlReadReg (ioctl : Ioctl) : IoctlM Ioctl :=
  match barOf ioctl.cmdData.bar with
  | none => pure { ioctl with status := AX_STATUS_FAILURE }
  | some bar => do
      let value ← ioread32 bar ioctl.cmdData.offset
      pure { ioctl with
        status := AX_STATUS_SUCCESS
        cmdData := { ioctl.cmdData with value := value.toUInt64 } }

/-- One iteration of `ax_get_dsa_mac`: register `2 * t` has the first two bytes of address `t`,
register `2 * t + 1` the other four. -/
def dsaMacStep (dsaMac : ℕ → ℕ → UInt8) (i : ℕ) (value : UInt32) : ℕ → ℕ → UInt8 :=
  let temp := i / 2
  let mac := dsaMac temp
  Function.update dsaMac temp <|
    if i % 2 = 0 then
      Function.update (Function.update mac 1 value.toUInt8) 0 (value >>> 8).toUInt8
    else
      Function.update (Function.update (Function.update (Function.update mac 5 value.toUInt8)
        4 (value >>> 8).toUInt8) 3 (value >>> 16).toUInt8) 2 (value >>> 24).toUInt8

/-- The loop of `ax_get_dsa_mac` over the given registers. -/
def axGetDsaMacFrom : List ℕ → (ℕ → ℕ → UInt8) → IoctlM (ℕ → ℕ → UInt8)
  | [], dsaMac => pure dsaMac
  | i :: is, dsaMac => do
      let value ← ioread32 2 (DSA_OFFSET + UInt64.ofNat (i * 4))
      axGetDsaMacFrom is (dsaMacStep dsaMac i value)

/-- `ax_get_dsa_mac`. -/
def axGetDsaMac (ax : IoctlDev) : IoctlM IoctlDev := do
  let dsaMac ← axGetDsaMacFrom (List.range 8) ax.dsaMac
  pure { ax with dsaMac := dsaMac }

/-- `ioctl_write_reg`. -/
def ioctlWriteReg (ax : IoctlDev) (ioctl : Ioctl) : IoctlM (IoctlDev × Ioctl) :=
  match barOf ioctl.cmdData.bar with
  | none => pure (ax, { ioctl with status := AX_STATUS_FAILURE })
  | some bar => do
      iowrite32 bar ioctl.cmdData.offset ioctl.cmdData.value.toUInt32
      let ioctl := { ioctl with status := AX_STATUS_SUCCESS }
      if ioctl.cmdData.bar = 2 ∧ ioctl.cmdData.offset &&& 0x0F00 = DSA_OFFSET then do
        let ax ← axGetDsaMac ax
        pure (ax, ioctl)
      else pure (ax, ioctl)

/-- `ioctl_get_bar_base_addr`. -/
def ioctlGetBarBaseAddr (ax : IoctlDev) (ioctl : Ioctl) : IoctlM Ioctl :=
  match barOf ioctl.cmdData.barOfBase with
  | none => pure { ioctl with
      status := AX_STATUS_FAILURE
      cmdData := { ioctl.cmdData with offset := 0xFFFFFFFF } }
  | some bar => pure { ioctl with
      status := AX_STATUS_SUCCESS
      cmdData := { ioctl.cmdData with offset := ax.phyBar bar } }

/-- The loop of `ioctl_clean_FIFO`. -/
def cleanFifoLoop : (fuel : ℕ) → IoctlM Unit
  | 0 => .fail .outOfFuel
  | fuel + 1 => do
      let ctrl ← ioread32 2 PTP_TIMESTAMP_CTRL
      if ctrl &&& 0x1 ≠ 0 then do
        let _ ← ioread32 2 PTP_RX_MESSAGE_INFO
        cleanFifoLoop fuel
      else pure ()

/-- `ioctl_clean_FIFO`. -/
def ioctlCleanFifo (fuel : ℕ) (ioctl : Ioctl) : IoctlM Ioctl := do
  cleanFifoLoop fuel
  pure { ioctl with status := AX_STATUS_SUCCESS }

/-! ## The dispatch -/

/-- The functions behind `ioctl_fun_table`. -/
inductive IoctlFun
  | signature
  | readReg
  | writeReg
  | getBarBaseAddr
  | cleanFifo
  deriving DecidableEq, Repr

/-- A handler is called. -/
def IoctlFun.exec (fuel : ℕ) (ax : IoctlDev) (ioctl : Ioctl) : IoctlFun → IoctlM (IoctlDev × Ioctl)
  | signature => (ax, ·) <$> ioctlSignature ioctl
  | readReg => (ax, ·) <$> ioctlReadReg ioctl
  | writeReg => ioctlWriteReg ax ioctl
  | getBarBaseAddr => (ax, ·) <$> ioctlGetBarBaseAddr ax ioctl
  | cleanFifo => (ax, ·) <$> ioctlCleanFifo fuel ioctl

/-- `ioctl_fun_table`; an entry could be `NULL`. -/
def ioctlFunTable : List (Option IoctlFun) :=
  [some .signature, some .readReg, some .writeReg, some .getBarBaseAddr, some .cleanFifo]

/-- The look-up in `ax_net_privioctl`. -/
def ioctlDispatch (fuel : ℕ) (ax : IoctlDev) (ioctl : Ioctl) : IoctlM (IoctlDev × Ioctl) :=
  if ioctlFunTable.length < ioctl.opcode.toNat then
    pure (ax, { ioctl with status := AX_STATUS_NOT_SUPPORT })
  else
    match ioctlFunTable[ioctl.opcode.toNat]? with
    | none => .fail .tableOverrun
    | some none => pure (ax, { ioctl with status := AX_STATUS_NOT_SUPPORT })
    | some (some f) => f.exec fuel ax ioctl

/-- What a call leaves: its return value, the driver's data and the record in user space, if that
was written. -/
structure PrivioctlResult where
  rc : ℤ
  ax : IoctlDev
  user : Option Ioctl

/-- The end of `ax_net_privioctl`: `copyTo` is whether `copy_to_user` succeeds. -/
def copyBack (copyTo : Bool) (r : IoctlDev × Ioctl) : PrivioctlResult :=
  if copyTo then ⟨0, r.1, some r.2⟩ else ⟨-EFAULT, r.1, none⟩

/-- `ax_net_privioctl` for `IOCTL_SEND_CMD`. `running` is `netif_running`, `copyFrom` what
`copy_from_user` gets. -/
def axNetPrivioctl (fuel : ℕ) (running : Bool) (copyFrom : Option Ioctl) (copyTo : Bool)
    (ax : IoctlDev) : IoctlM PrivioctlResult :=
  if running then
    match copyFrom with
    | none => pure ⟨-EFAULT, ax, none⟩
    | some ioctl => copyBack copyTo <$> ioctlDispatch fuel ax ioctl
  else pure ⟨-EINVAL, ax, none⟩

/-! ## Which opcodes are served as published -/

@[simp] abbrev AX_IOCTL_SIGNATURE : UInt64 := 0
@[simp] abbrev AX_IOCTL_READ_REG : UInt64 := 1
@[simp] abbrev AX_IOCTL_WRITE_REG : UInt64 := 2
@[simp] abbrev AX_IOCTL_GET_BAR_BASE : UInt64 := 3
@[simp] abbrev AX_IOCTL_TIME_SLOT : UInt64 := 4
@[simp] abbrev AX_IOCTL_CLEAN_FIFO : UInt64 := 5

/-- The opcode that `ioctl.h` gives to a function. No function is for `AX_IOCTL_TIME_SLOT`. -/
def IoctlFun.opcode : IoctlFun → UInt64
  | signature => AX_IOCTL_SIGNATURE
  | readReg => AX_IOCTL_READ_REG
  | writeReg => AX_IOCTL_WRITE_REG
  | getBarBaseAddr => AX_IOCTL_GET_BAR_BASE
  | cleanFifo => AX_IOCTL_CLEAN_FIFO

section Dispatch

variable {σ : Type} (dev : Device σ IoAccess UInt32) (s : σ) (fuel : ℕ) (copyTo : Bool)
  (ax : IoctlDev) (ioctl : Ioctl)

/-- The published function is called, out of an entry of the table. -/
def CallsPublished : Prop :=
  ∃ f : IoctlFun, f.opcode = ioctl.opcode ∧ ioctl.opcode.toNat < ioctlFunTable.length ∧
    (axNetPrivioctl fuel true (some ioctl) copyTo ax).run dev s =
      (copyBack copyTo <$> f.exec fuel ax ioctl).run dev s

/-- The command is refused: no function is called and nothing is accessed. -/
def Refused : Prop :=
  (axNetPrivioctl fuel true (some ioctl) copyTo ax).run dev s =
    ⟨.ok (copyBack copyTo (ax, { ioctl with status := AX_STATUS_NOT_SUPPORT })), s, []⟩

/-- An opcode with an entry in the table. -/
theorem callsPublished_of_table {f : IoctlFun}
    (hf : ioctlFunTable[f.opcode.toNat]? = some (some f)) (hop : f.opcode = ioctl.opcode) :
    CallsPublished dev s fuel copyTo ax ioctl := by
  obtain ⟨hlt, -⟩ := List.getElem?_eq_some_iff.mp hf
  rw [hop] at hf hlt
  refine ⟨f, hop, hlt, ?_⟩
  rw [axNetPrivioctl, if_pos rfl]
  simp only [ioctlDispatch, if_neg (Nat.not_lt.mpr (Nat.le_of_lt hlt)), hf]

/-- An opcode above the length of the table. -/
theorem refused_of_lt (h : ioctlFunTable.length < ioctl.opcode.toNat) :
    Refused dev s fuel copyTo ax ioctl := by
  rw [Refused, axNetPrivioctl, if_pos rfl]
  simp only [ioctlDispatch, if_pos h]
  rfl

/-- `AX_IOCTL_TIME_SLOT` gets to `ioctl_clean_FIFO`. -/
theorem run_timeSlot (h : ioctl.opcode = AX_IOCTL_TIME_SLOT) :
    axNetPrivioctl fuel true (some ioctl) copyTo ax =
      copyBack copyTo <$> IoctlFun.cleanFifo.exec fuel ax ioctl := by
  rw [axNetPrivioctl, if_pos rfl]
  simp only [ioctlDispatch, h]
  rfl

/-- `AX_IOCTL_CLEAN_FIFO` gets behind the table. -/
theorem run_cleanFifo (h : ioctl.opcode = AX_IOCTL_CLEAN_FIFO) :
    axNetPrivioctl fuel true (some ioctl) copyTo ax = .fail .tableOverrun := by
  rw [axNetPrivioctl, if_pos rfl]
  simp only [ioctlDispatch, h]
  rfl

/-- `ioctl_clean_FIFO` is not a refusal: it reads the control register, or has no iteration. -/
theorem not_refused_timeSlot (h : ioctl.opcode = AX_IOCTL_TIME_SLOT) :
    ¬ Refused dev s fuel copyTo ax ioctl := by
  rw [Refused, run_timeSlot fuel copyTo ax ioctl h]
  intro hrun
  cases fuel with
  | zero =>
      have hresult := congrArg Outcome.result hrun
      cases hresult
  | succ fuel =>
      have hlog := congrArg Outcome.log hrun
      cases hlog

/-- `AX_IOCTL_TIME_SLOT` is neither served nor refused. -/
theorem not_dispatches_timeSlot (h : ioctl.opcode = AX_IOCTL_TIME_SLOT) :
    ¬ (CallsPublished dev s fuel copyTo ax ioctl ∨ Refused dev s fuel copyTo ax ioctl) := by
  rintro (⟨f, hf, -⟩ | hrefused)
  · rw [h] at hf
    cases f <;> exact absurd hf (by decide)
  · exact not_refused_timeSlot dev s fuel copyTo ax ioctl h hrefused

/-- Nor is `AX_IOCTL_CLEAN_FIFO`. -/
theorem not_dispatches_cleanFifo (h : ioctl.opcode = AX_IOCTL_CLEAN_FIFO) :
    ¬ (CallsPublished dev s fuel copyTo ax ioctl ∨ Refused dev s fuel copyTo ax ioctl) := by
  rintro (⟨-, -, hlt, -⟩ | hrefused)
  · rw [h] at hlt
    exact absurd hlt (by decide)
  · rw [Refused, run_cleanFifo fuel copyTo ax ioctl h] at hrefused
    cases congrArg Outcome.result hrefused

/-- **The dispatch.** For every opcode, every payload and every device, `ax_net_privioctl` calls the
function that `ioctl.h` has for the opcode, out of the table, or refuses the command, exactly if the
opcode is neither `AX_IOCTL_TIME_SLOT` nor `AX_IOCTL_CLEAN_FIFO`. -/
theorem axNetPrivioctl_dispatches_iff :
    CallsPublished dev s fuel copyTo ax ioctl ∨ Refused dev s fuel copyTo ax ioctl ↔
      ioctl.opcode ≠ AX_IOCTL_TIME_SLOT ∧ ioctl.opcode ≠ AX_IOCTL_CLEAN_FIFO := by
  constructor
  · intro h
    exact ⟨fun hop => not_dispatches_timeSlot dev s fuel copyTo ax ioctl hop h,
      fun hop => not_dispatches_cleanFifo dev s fuel copyTo ax ioctl hop h⟩
  · rintro ⟨htime, hclean⟩
    by_cases hlarge : ioctlFunTable.length < ioctl.opcode.toNat
    · exact .inr (refused_of_lt dev s fuel copyTo ax ioctl hlarge)
    have hle : ioctl.opcode.toNat ≤ 5 := Nat.not_lt.mp hlarge
    have htime' : ioctl.opcode.toNat ≠ 4 := fun h => htime (UInt64.toNat_inj.mp h)
    have hclean' : ioctl.opcode.toNat ≠ 5 := fun h => hclean (UInt64.toNat_inj.mp h)
    have hop : ∀ {f : IoctlFun}, ioctl.opcode.toNat = f.opcode.toNat → f.opcode = ioctl.opcode :=
      fun h => (UInt64.toNat_inj.mp h).symm
    -- the first four entries of the table are in the order of `ioctl.h`
    left
    rcases (by omega : ioctl.opcode.toNat = 0 ∨ ioctl.opcode.toNat = 1 ∨ ioctl.opcode.toNat = 2 ∨
      ioctl.opcode.toNat = 3) with h | h | h | h
    · exact callsPublished_of_table (f := .signature) dev s fuel copyTo ax ioctl rfl (hop h)
    · exact callsPublished_of_table (f := .readReg) dev s fuel copyTo ax ioctl rfl (hop h)
    · exact callsPublished_of_table (f := .writeReg) dev s fuel copyTo ax ioctl rfl (hop h)
    · exact callsPublished_of_table (f := .getBarBaseAddr) dev s fuel copyTo ax ioctl rfl (hop h)

end Dispatch

/-- A device whose registers are all zero. -/
def zeroDev : Device Unit IoAccess UInt32 := fun _ u => (0, u)

/-- A command with nothing but an opcode. -/
def commandOf (opcode : UInt64) : Ioctl := ⟨[], opcode, 0, ⟨0, 0, 0⟩⟩

def zeroIoctlDev : IoctlDev := ⟨fun _ => 0, fun _ _ => 0⟩

/-- `AX_IOCTL_TIME_SLOT` reads the control register of the FIFOs, and `AX_IOCTL_CLEAN_FIFO` calls
what lies behind the table. -/
theorem axNetPrivioctl_misdispatches :
    ((axNetPrivioctl 1 true (some (commandOf AX_IOCTL_TIME_SLOT)) true zeroIoctlDev).run
        zeroDev ()).log = [(.read 2 PTP_TIMESTAMP_CTRL, 0)] ∧
      ((axNetPrivioctl 1 true (some (commandOf AX_IOCTL_CLEAN_FIFO)) true zeroIoctlDev).run
        zeroDev ()).result = .error .tableOverrun ∧
      ¬ (CallsPublished zeroDev () 1 true zeroIoctlDev (commandOf AX_IOCTL_TIME_SLOT) ∨
        Refused zeroDev () 1 true zeroIoctlDev (commandOf AX_IOCTL_TIME_SLOT)) ∧
      ¬ (CallsPublished zeroDev () 1 true zeroIoctlDev (commandOf AX_IOCTL_CLEAN_FIFO) ∨
        Refused zeroDev () 1 true zeroIoctlDev (commandOf AX_IOCTL_CLEAN_FIFO)) :=
  ⟨rfl, rfl, not_dispatches_timeSlot _ _ _ _ _ _ rfl, not_dispatches_cleanFifo _ _ _ _ _ _ rfl⟩

/-! ## `ioctl_clean_FIFO` ends -/

/-- The receive FIFO of the switch behind BAR 2, with `count` records: the control register shows
whether there is one, and reading the message information takes one out. -/
structure RxFifoDev {σ : Type} (dev : Device σ IoAccess UInt32) (count : σ → ℕ) : Prop where
  keeps : ∀ s, (dev (.read 2 PTP_TIMESTAMP_CTRL) s).2 = s
  shows : ∀ s, (dev (.read 2 PTP_TIMESTAMP_CTRL) s).1 &&& 0x1 ≠ 0 ↔ 0 < count s
  pops : ∀ s, count (dev (.read 2 PTP_RX_MESSAGE_INFO) s).2 = count s - 1

/-- The loop takes one iteration more than there are records, and leaves none. -/
theorem cleanFifoLoop_drains {σ : Type} {dev : Device σ IoAccess UInt32} {count : σ → ℕ}
    (h : RxFifoDev dev count) (fuel : ℕ) :
    ∀ {s}, count s < fuel → ((cleanFifoLoop fuel).run dev s).result = .ok () ∧
      count ((cleanFifoLoop fuel).run dev s).final = 0 := by
  induction fuel with
  | zero => exact fun hlt => absurd hlt (Nat.not_lt_zero _)
  | succ fuel ih =>
      intro s hlt
      simp only [cleanFifoLoop, ioread32, Prog.op_bind, Prog.ret_bind, Prog.run, h.keeps,
        Outcome.cons]
      by_cases hmore : 0 < count s
      · have hless : count (dev (.read 2 PTP_RX_MESSAGE_INFO) s).2 < fuel := by
          rw [h.pops]
          omega
        rw [if_pos ((h.shows s).mpr hmore)]
        exact ih hless
      · rw [if_neg (mt (h.shows s).mp hmore)]
        exact ⟨rfl, Nat.eq_zero_of_not_pos hmore⟩

end Axm57104.Net
