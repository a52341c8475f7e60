import Axm57104.Common.Prog
import Axm57104.Common.Words
import Mathlib.Data.List.Induction
import Mathlib.Logic.Function.Basic

/-!
# The MDIO bus

A transaction on the bus is a control word, written without and then with its start bit, and at most
ten polls for the start bit to clear. `ax_mdio_read` and `ax_mdio_write` make the registers of the
PHYs a register file as long as every transaction completes (`mdioCalls_read`). The callbacks of the
`mii_bus` are another matter: `ax_mdio_bus_write` fills in a transfer and returns without it, and
neither callback has a result for a transaction that does not complete. `busCalls_faithful_iff` says
which sequences of callbacks do not see the difference.

The PHYs are storage. How many polls find a transaction busy is given with each call.
-/

namespace Axm57104.Net

open Common

/-! ## The driver -/

/-- The registers of the MDIO master in BAR 2. -/
inductive MdioReg
  | ctrl
  | writeData
  | readData
  deriving DecidableEq, Repr

/-- `ax_read_register` and `ax_write_register`. -/
inductive MdioAccess
  | read (reg : MdioReg)
  | write (reg : MdioReg) (value : UInt32)
  deriving DecidableEq, Repr

abbrev MdioM : Type → Type := Prog MdioAccess UInt32 Empty

def axReadRegister (reg : MdioReg) : MdioM UInt32 := .op (.read reg) .ret

def axWriteRegister (value : UInt32) (reg : MdioReg) : MdioM Unit :=
  .op (.write reg value) fun _ => .ret ()

/-- `struct mdio_transfer`; an `int` is its 32 bits. -/
structure MdioTransfer where
  phyId : UInt32
  regnum : UInt32
  val : UInt16
  mdioBus : UInt8
  deriving DecidableEq, Repr

@[simp] abbrev PHY_ID_SHIFT : UInt32 := 0x01

/-- `1 << 20`, which starts a transaction and clears when it is done. -/
def MDIO_START : UInt32 := (1 : UInt32) <<< 20

/-- `1 << 21`, which makes it a read. -/
def MDIO_OP_READ : UInt32 := (1 : UInt32) <<< 21

/-- At most `n` polls of the control register: `done` when the start bit is seen clear. -/
def mdioPoll {α : Type} (done : MdioM α) (timeout : α) : (n : ℕ) → MdioM α
  | 0 => pure timeout
  | n + 1 => do
      let ctrl ← axReadRegister .ctrl
      if ctrl &&& MDIO_START = 0 then done
      else mdioPoll done timeout n

/-- `ax_mdio_read`. -/
def axMdioRead (data : MdioTransfer) : MdioM ℤ := do
  let ctrl := (data.phyId <<< 27) ||| (data.regnum <<< 22) ||| MDIO_OP_READ |||
    (data.mdioBus.toUInt32 &&& 0x7F)
  axWriteRegister ctrl .ctrl
  axWriteRegister (ctrl ||| MDIO_START) .ctrl
  -- `value` is 0 unless a poll sees the transaction done
  let value ← mdioPoll (axReadRegister .readData) 0 10
  pure (value &&& 0xFFFF).toNat

/-- `ax_mdio_write`. -/
def axMdioWrite (data : MdioTransfer) : MdioM ℤ := do
  let ctrl := (data.phyId <<< 27) ||| (data.regnum <<< 22) ||| (data.mdioBus.toUInt32 &&& 0x7F)
  axWriteRegister data.val.toUInt32 .writeData
  axWriteRegister ctrl .ctrl
  axWriteRegister (ctrl ||| MDIO_START) .ctrl
  mdioPoll (pure ()) () 10
  pure 0

/-- `ax_mdio_bus_read`. -/
def axMdioBusRead (phyId regnum : UInt32) : MdioM ℤ :=
  axMdioRead ⟨phyId + PHY_ID_SHIFT, regnum, 0, 0⟩

/-- `ax_mdio_bus_write`: the transfer is made up and `ax_mdio_write` is not called. -/
def axMdioBusWrite (phyId regnum : UInt32) (val : UInt16) : MdioM ℤ :=
  let _data : MdioTransfer := ⟨phyId + PHY_ID_SHIFT, regnum, val, 0⟩
  pure 0

/-- The counters of `dsa_loop_port` for the accesses to its PHY. -/
structure PhyMib where
  readOk : ℕ
  readErr : ℕ
  writeOk : ℕ
  writeErr : ℕ
  deriving DecidableEq, Repr

/-- `dsa_loop_phy_read`; `mdiobus_read_nested` calls the callback of the bus. -/
def dsaLoopPhyRead (portBase port regnum : UInt32) (mib : PhyMib) : MdioM (ℤ × PhyMib) := do
  let ret ← axMdioBusRead (portBase + port) (if regnum = 0x12 then 0x1a else regnum)
  pure (ret, if ret < 0 then { mib with readErr := mib.readErr + 1 }
    else { mib with readOk := mib.readOk + 1 })

/-- `dsa_loop_phy_write`. -/
def dsaLoopPhyWrite (portBase port regnum : UInt32) (value : UInt16) (mib : PhyMib) :
    MdioM (ℤ × PhyMib) := do
  let ret ← axMdioBusWrite (portBase + port) regnum value
  pure (ret, if ret < 0 then { mib with writeErr := mib.writeErr + 1 }
    else { mib with writeOk := mib.writeOk + 1 })

/-! ## The master and the PHYs -/

/-- The registers of the master and of the PHYs. `latency` is how many polls find a transaction busy
that is started next, `busy` how many will of the one in progress. -/
structure MdioDev where
  phys : ℕ → ℕ → UInt16
  ctrl : UInt32
  writeData : UInt32
  readData : UInt16
  latency : ℕ
  busy : ℕ

/-- The address of the PHY in a control word. -/
def phyOf (ctrl : UInt32) : ℕ := (ctrl >>> 27).toNat

/-- The register in a control word. -/
def regOf (ctrl : UInt32) : ℕ := ((ctrl >>> 22) &&& 0x1F).toNat

/-- The transaction in the control word takes place, and its start bit clears. -/
def MdioDev.complete (s : MdioDev) : MdioDev :=
  let phy := phyOf s.ctrl
  let reg := regOf s.ctrl
  { s with
    ctrl := s.ctrl &&& ~~~MDIO_START
    readData := if s.ctrl &&& MDIO_OP_READ ≠ 0 then s.phys phy reg else s.readData
    phys := if s.ctrl &&& MDIO_OP_READ ≠ 0 then s.phys
      else Function.update s.phys phy (Function.update (s.phys phy) reg s.writeData.toUInt16) }

def mdioDev : Device MdioDev MdioAccess UInt32
  | .read .ctrl, s =>
      if s.ctrl &&& MDIO_START = 0 then (s.ctrl, s)
      else if s.busy = 0 then (s.complete.ctrl, s.complete)
      else (s.ctrl, { s with busy := s.busy - 1 })
  | .read .writeData, s => (s.writeData, s)
  | .read .readData, s => (s.readData.toUInt32, s)
  | .write .ctrl v, s =>
      if v &&& MDIO_START = 0 then (0, { s with ctrl := v })
      else (0, { s with ctrl := v, busy := s.latency })
  | .write .writeData v, s => (0, { s with writeData := v })
  | .write .readData _, s => (0, s)

/-! ## A transaction -/

/-- A control word: the PHY, the register and the 22 bits below. -/
def ctrlWord (phy reg low : UInt32) : UInt32 := (phy <<< 27) ||| (reg <<< 22) ||| low

section ControlWord

variable {phy reg low : UInt32}

theorem toNat_ctrlWord (hphy : phy.toNat < 32) (hreg : reg.toNat < 32) (hlow : low.toNat < 2 ^ 22) :
    (ctrlWord phy reg low).toNat = 2 ^ 22 * (2 ^ 5 * phy.toNat + reg.toNat) + low.toNat := by
  have hphy' : (phy <<< 27).toNat = 2 ^ 27 * phy.toNat := by
    rw [UInt32.toNat_shiftLeft, Nat.shiftLeft_eq]
    show phy.toNat * 2 ^ 27 % 2 ^ 32 = _
    omega
  have hreg' : (reg <<< 22).toNat = 2 ^ 22 * reg.toNat := by
    rw [UInt32.toNat_shiftLeft, Nat.shiftLeft_eq]
    show reg.toNat * 2 ^ 22 % 2 ^ 32 = _
    omega
  have hlt : 2 ^ 22 * reg.toNat < 2 ^ 27 := by omega
  rw [ctrlWord, UInt32.toNat_or, UInt32.toNat_or, hphy', hreg', ← Nat.two_pow_add_eq_or_of_lt hlt]
  rw [show 2 ^ 27 * phy.toNat + 2 ^ 22 * reg.toNat = 2 ^ 22 * (2 ^ 5 * phy.toNat + reg.toNat) by
    omega, ← Nat.two_pow_add_eq_or_of_lt hlow]

theorem phyOf_ctrlWord (hphy : phy.toNat < 32) (hreg : reg.toNat < 32)
    (hlow : low.toNat < 2 ^ 22) : phyOf (ctrlWord phy reg low) = phy.toNat := by
  rw [phyOf, UInt32.toNat_shiftRight, toNat_ctrlWord hphy hreg hlow, Nat.shiftRight_eq_div_pow]
  show _ / 2 ^ 27 = _
  omega

theorem regOf_ctrlWord (hphy : phy.toNat < 32) (hreg : reg.toNat < 32)
    (hlow : low.toNat < 2 ^ 22) : regOf (ctrlWord phy reg low) = reg.toNat := by
  rw [regOf, UInt32.toNat_and, UInt32.toNat_shiftRight, toNat_ctrlWord hphy hreg hlow,
    Nat.shiftRight_eq_div_pow]
  show _ / 2 ^ 22 &&& 2 ^ 5 - 1 = _
  rw [Nat.and_two_pow_sub_one_eq_mod]
  omega

/-- A flag among the low bits of a control word. -/
theorem ctrlWord_and_eq_zero_iff (hphy : phy.toNat < 32) (hreg : reg.toNat < 32)
    (hlow : low.toNat < 2 ^ 22) {flag : UInt32} {k : ℕ} (hflag : flag.toNat = 2 ^ k) (hk : k < 22) :
    ctrlWord phy reg low &&& flag = 0 ↔ low.toNat.testBit k = false := by
  rw [← UInt32.toNat_inj, UInt32.toNat_and, toNat_ctrlWord hphy hreg hlow, hflag]
  show _ &&& _ = 0 ↔ _
  rw [← not_iff_not, ← ne_eq, and_two_pow_ne_zero_iff, Nat.testBit_two_pow_mul_add _ hlow,
    if_pos hk, Bool.not_eq_false]

end ControlWord

/-- The low bits of a word that starts a transaction: the operation, the bus and the start bit. -/
def startBits (operation mdioBus : UInt32) : UInt32 :=
  operation ||| (mdioBus &&& 0x7F) ||| MDIO_START

theorem startBits_lt {operation : UInt32} (hop : operation.toNat < 2 ^ 22) (mdioBus : UInt32) :
    (startBits operation mdioBus).toNat < 2 ^ 22 := by
  have hbus : (mdioBus &&& 0x7F).toNat < 2 ^ 22 := by
    rw [UInt32.toNat_and]
    exact lt_of_le_of_lt Nat.and_le_right (by decide)
  rw [startBits, UInt32.toNat_or, UInt32.toNat_or]
  exact Nat.or_lt_two_pow (Nat.or_lt_two_pow hop hbus) (by decide)

theorem testBit_startBits (operation mdioBus : UInt32) :
    (startBits operation mdioBus).toNat.testBit 20 = true ∧
      (startBits operation mdioBus).toNat.testBit 21 = operation.toNat.testBit 21 := by
  have hstart : MDIO_START.toNat = 2 ^ 20 := rfl
  have hbus : (mdioBus.toNat &&& 0x7F).testBit 21 = false := by
    apply Nat.testBit_lt_two_pow
    exact lt_of_le_of_lt Nat.and_le_right (by decide)
  rw [startBits, UInt32.toNat_or, UInt32.toNat_or, UInt32.toNat_and, hstart]
  constructor
  · rw [Nat.testBit_or, Nat.testBit_two_pow_self, Bool.or_true]
  · rw [Nat.testBit_or, Nat.testBit_or, Nat.testBit_two_pow_of_ne (by omega), Bool.or_false]
    exact (congrArg _ hbus).trans (Bool.or_false _)

theorem start_complete (s : MdioDev) : s.complete.ctrl &&& MDIO_START = 0 := by
  show s.ctrl &&& ~~~MDIO_START &&& MDIO_START = 0
  rw [UInt32.and_assoc]
  exact UInt32.and_zero

/-- A poll of a transaction in progress. -/
theorem mdioDev_poll {s : MdioDev} (hstart : s.ctrl &&& MDIO_START ≠ 0) :
    mdioDev (.read .ctrl) s =
      if s.busy = 0 then (s.complete.ctrl, s.complete)
      else (s.ctrl, { s with busy := s.busy - 1 }) := by
  simp only [mdioDev, if_neg hstart]

/-- The polls end as `done` does after the transaction, or time out. -/
theorem mdioPoll_run {α : Type} (done : MdioM α) (timeout : α) (n : ℕ) {s : MdioDev}
    (hstart : s.ctrl &&& MDIO_START ≠ 0) :
    let o := (mdioPoll done timeout n).run mdioDev s
    let d := done.run mdioDev { s with busy := 0 }.complete
    o.result = (if s.busy < n then d.result else .ok timeout) ∧
      o.final.phys = if s.busy < n then d.final.phys else s.phys := by
  induction n generalizing s with
  | zero => exact ⟨rfl, rfl⟩
  | succ n ih =>
      simp only [mdioPoll, axReadRegister, Prog.op_bind, Prog.ret_bind, Prog.run,
        mdioDev_poll hstart]
      by_cases hbusy : s.busy = 0
      · have hlt : s.busy < n + 1 := by omega
        have hs : { s with busy := 0 } = s := by rw [← hbusy]
        simp only [hs, if_pos hbusy, if_pos hlt, if_pos (start_complete s)]
        exact ⟨rfl, rfl⟩
      · -- one poll less, and one less that will find the transaction busy
        have hlt : s.busy - 1 < n ↔ s.busy < n + 1 := by omega
        simp only [if_neg hbusy, if_neg hstart]
        obtain ⟨hresult, hphys⟩ := ih (s := { s with busy := s.busy - 1 }) hstart
        simp only [hlt] at hresult hphys
        exact ⟨hresult, hphys⟩

/-- The state in which a transaction is polled. -/
def started (s : MdioDev) (phy reg operation mdioBus : UInt32) : MdioDev :=
  { s with ctrl := ctrlWord phy reg (startBits operation mdioBus), busy := s.latency }

section Transaction

variable (data : MdioTransfer) {phy reg : UInt32} (s : MdioDev)

theorem started_start (hphy : phy.toNat < 32) (hreg : reg.toNat < 32) {operation : UInt32}
    (hop : operation.toNat < 2 ^ 22) (mdioBus : UInt32) :
    (started s phy reg operation mdioBus).ctrl &&& MDIO_START ≠ 0 := by
  intro hzero
  have hbit := (ctrlWord_and_eq_zero_iff hphy hreg (startBits_lt hop mdioBus) (k := 20) rfl
    (by omega)).mp hzero
  rw [(testBit_startBits operation mdioBus).1] at hbit
  cases hbit

/-- A transaction is started: a word without and then one with the start bit. -/
theorem mdioDev_start (w : UInt32) (hphy : phy.toNat < 32) (hreg : reg.toNat < 32)
    {operation : UInt32} (hop : operation.toNat < 2 ^ 22) (mdioBus : UInt32) :
    (mdioDev (.write .ctrl (ctrlWord phy reg (startBits operation mdioBus)))
      (mdioDev (.write .ctrl w) s).2).2 = started s phy reg operation mdioBus := by
  have hstart := started_start s hphy hreg hop mdioBus
  unfold started at hstart ⊢
  simp only [mdioDev, if_neg hstart]
  split <;> rfl

/-- What a transaction does when it completes. -/
theorem started_complete (hphy : phy.toNat < 32) (hreg : reg.toNat < 32) {operation : UInt32}
    (hop : operation.toNat < 2 ^ 22) (mdioBus : UInt32) :
    let c := { started s phy reg operation mdioBus with busy := 0 }.complete
    let isRead := operation.toNat.testBit 21 = true
    c.readData = (if isRead then s.phys phy.toNat reg.toNat else s.readData) ∧
      c.phys = if isRead then s.phys else Function.update s.phys phy.toNat
        (Function.update (s.phys phy.toNat) reg.toNat s.writeData.toUInt16) := by
  have hlow := startBits_lt hop mdioBus
  have hread : ctrlWord phy reg (startBits operation mdioBus) &&& MDIO_OP_READ ≠ 0 ↔
      operation.toNat.testBit 21 = true := by
    rw [ne_eq, ctrlWord_and_eq_zero_iff hphy hreg hlow (k := 21) rfl (by omega),
      (testBit_startBits operation mdioBus).2, Bool.not_eq_false]
  unfold MdioDev.complete started
  constructor
  · simp only [phyOf_ctrlWord hphy hreg hlow, regOf_ctrlWord hphy hreg hlow, hread]
  · simp only [phyOf_ctrlWord hphy hreg hlow, regOf_ctrlWord hphy hreg hlow, hread]

theorem toNat_and_ffff (v : UInt16) : (v.toUInt32 &&& 0xFFFF).toNat = v.toNat := by
  rw [UInt32.toNat_and, UInt16.toNat_toUInt32]
  show v.toNat &&& 2 ^ 16 - 1 = _
  rw [Nat.and_two_pow_sub_one_eq_mod, Nat.mod_eq_of_lt v.toNat_lt]

/-- The polls of a read: the register of the PHY, or 0 after ten polls. -/
theorem readPoll_run (hphy : phy.toNat < 32) (hreg : reg.toNat < 32) (mdioBus : UInt32) :
    let o := (mdioPoll (axReadRegister .readData) 0 10).run mdioDev
      (started s phy reg MDIO_OP_READ mdioBus)
    o.result = .ok (if s.latency < 10 then (s.phys phy.toNat reg.toNat).toUInt32 else 0) ∧
      o.final.phys = s.phys := by
  have hop : MDIO_OP_READ.toNat < 2 ^ 22 := by decide
  have hread : MDIO_OP_READ.toNat.testBit 21 = true := by decide
  obtain ⟨hdata, hphys⟩ := started_complete s hphy hreg hop mdioBus
  rw [if_pos hread] at hdata hphys
  obtain ⟨hresult, hfinal⟩ :=
    mdioPoll_run (axReadRegister .readData) 0 10 (started_start s hphy hreg hop mdioBus)
  constructor
  · rw [hresult, apply_ite Except.ok, ← hdata]
    rfl
  · rw [hfinal]
    split
    · exact hphys
    · rfl

/-- A read of a register of a PHY: what is there, or 0 if the transaction is still busy after ten
polls. -/
theorem axMdioRead_run (hphy : data.phyId.toNat < 32) (hreg : data.regnum.toNat < 32) :
    let o := (axMdioRead data).run mdioDev s
    o.result = .ok (if s.latency < 10 then (s.phys data.phyId.toNat data.regnum.toNat).toNat else 0) ∧
      o.final.phys = s.phys := by
  have hop : MDIO_OP_READ.toNat < 2 ^ 22 := by decide
  have hword : (data.phyId <<< 27) ||| (data.regnum <<< 22) ||| MDIO_OP_READ |||
      (data.mdioBus.toUInt32 &&& 0x7F) ||| MDIO_START =
        ctrlWord data.phyId data.regnum (startBits MDIO_OP_READ data.mdioBus.toUInt32) := by
    unfold ctrlWord startBits
    simp only [UInt32.or_assoc]
  obtain ⟨hresult, hphys⟩ := readPoll_run s hphy hreg data.mdioBus.toUInt32
  unfold axMdioRead
  simp only [axWriteRegister, Prog.op_bind, Prog.ret_bind, Prog.run, hword,
    mdioDev_start s _ hphy hreg hop]
  rw [Prog.run_bind_ok hresult]
  refine ⟨?_, hphys⟩
  simp only [Outcome.prepend, Outcome.result_cons, Prog.pure_eq_ret, Prog.run]
  split
  · rw [toNat_and_ffff]
  · rfl

/-- A write to a register of a PHY. -/
theorem axMdioWrite_run (hphy : data.phyId.toNat < 32) (hreg : data.regnum.toNat < 32) :
    let o := (axMdioWrite data).run mdioDev s
    o.result = .ok 0 ∧ o.final.phys = if s.latency < 10 then
      Function.update s.phys data.phyId.toNat
        (Function.update (s.phys data.phyId.toNat) data.regnum.toNat data.val) else s.phys := by
  have hop : (0 : UInt32).toNat < 2 ^ 22 := by decide
  obtain ⟨s', hs'⟩ : ∃ s', { s with writeData := data.val.toUInt32 } = s' := ⟨_, rfl⟩
  have hstart := started_start s' hphy hreg hop data.mdioBus.toUInt32
  obtain ⟨-, hphys⟩ := started_complete s' hphy hreg hop data.mdioBus.toUInt32
  have hread : ¬ (0 : UInt32).toNat.testBit 21 = true := by decide
  rw [if_neg hread] at hphys
  have hword : (data.phyId <<< 27) ||| (data.regnum <<< 22) |||
      (data.mdioBus.toUInt32 &&& 0x7F) ||| MDIO_START =
        ctrlWord data.phyId data.regnum (startBits 0 data.mdioBus.toUInt32) := by
    unfold ctrlWord startBits
    simp only [UInt32.or_assoc, UInt32.zero_or]
  obtain ⟨hresult, hfinal⟩ := mdioPoll_run (pure ()) () 10 hstart
  have hpoll : ((mdioPoll (pure ()) () 10).run mdioDev
      (started s' data.phyId data.regnum 0 data.mdioBus.toUInt32)).result = .ok () := by
    rw [hresult]
    exact ite_self _
  have hdev : (mdioDev (.write .writeData data.val.toUInt32) s).2 = s' := hs'
  unfold axMdioWrite
  simp only [axWriteRegister, Prog.op_bind, Prog.ret_bind, Prog.run, hword, hdev,
    mdioDev_start s' _ hphy hreg hop]
  rw [Prog.run_bind_ok hpoll]
  refine ⟨rfl, hfinal.trans ?_⟩
  subst hs'
  rw [show data.val.toUInt32.toUInt16 = data.val from UInt16.toUInt16_toUInt32 _] at hphys
  exact if_congr Iff.rfl hphys rfl

end Transaction

/-! ## Sequences of calls -/

/-- An access to register `reg` of PHY `phy`. -/
inductive MdioCall
  | read (phy reg : UInt32)
  | write (phy reg : UInt32) (val : UInt16)
  deriving DecidableEq, Repr

/-- The address, shifted as the callbacks do or not, and the register are on the bus. -/
def MdioCall.Valid (shift : ℕ) : MdioCall → Prop
  | read phy reg => phy.toNat + shift < 32 ∧ reg.toNat < 32
  | write phy reg _ => phy.toNat + shift < 32 ∧ reg.toNat < 32

/-- What a call writes to the register. -/
def MdioCall.writes (phy reg : UInt32) : MdioCall → Option UInt16
  | read _ _ => none
  | write phy' reg' val => if phy' = phy ∧ reg' = reg then some val else none

/-- The call made by the driver itself, as its timers and the set-up of the PHYs do. -/
def MdioCall.direct : MdioCall → MdioM ℤ
  | read phy reg => axMdioRead ⟨phy, reg, 0, 0⟩
  | write phy reg val => axMdioWrite ⟨phy, reg, val, 0⟩

/-- The call made through the `mii_bus`. -/
def MdioCall.bus : MdioCall → MdioM ℤ
  | read phy reg => axMdioBusRead phy reg
  | write phy reg val => axMdioBusWrite phy reg val

/-- A call that would find its transaction busy for `latency` polls. -/
def callRun (prog : MdioM ℤ) (latency : ℕ) (s : MdioDev) : Outcome MdioDev MdioAccess UInt32 Empty ℤ :=
  prog.run mdioDev { s with latency := latency }

/-- The state after calls, each with its latency. -/
def callsState (prog : MdioCall → MdioM ℤ) (s : MdioDev) (calls : List (MdioCall × ℕ)) : MdioDev :=
  calls.foldl (fun s c => (callRun (prog c.1) c.2 s).final) s

/-- The last value written to a register. -/
def lastWrite (calls : List (MdioCall × ℕ)) (phy reg : UInt32) : Option UInt16 :=
  calls.reverse.findSome? fun c => c.1.writes phy reg

theorem lastWrite_concat (calls : List (MdioCall × ℕ)) (c : MdioCall × ℕ) (phy reg : UInt32) :
    lastWrite (calls ++ [c]) phy reg = (c.1.writes phy reg).or (lastWrite calls phy reg) := by
  unfold lastWrite
  rw [List.reverse_append, List.reverse_singleton, List.singleton_append, List.findSome?_cons]
  cases c.1.writes phy reg <;> rfl

/-- A call of the driver that completes: the storage with the value written. -/
theorem direct_phys {c : MdioCall} (hvalid : c.Valid 0) {latency : ℕ} (hlatency : latency < 10)
    (s : MdioDev) (phy reg : UInt32) :
    (callRun c.direct latency s).final.phys phy.toNat reg.toNat =
      (c.writes phy reg).getD (s.phys phy.toNat reg.toNat) := by
  cases c with
  | read phy' reg' =>
      have hrun := axMdioRead_run ⟨phy', reg', 0, 0⟩ { s with latency := latency } hvalid.1
        hvalid.2
      exact congrFun (congrFun hrun.2 _) _
  | write phy' reg' val =>
      have hrun := axMdioWrite_run ⟨phy', reg', val, 0⟩ { s with latency := latency }
        hvalid.1 hvalid.2
      rw [callRun, MdioCall.direct, hrun.2, if_pos hlatency, MdioCall.writes]
      by_cases hphy : phy' = phy
      · subst hphy
        rw [Function.update_self]
        by_cases hreg : reg' = reg
        · subst hreg
          rw [Function.update_self, if_pos ⟨rfl, rfl⟩, Option.getD_some]
        · rw [Function.update_of_ne fun h => hreg (UInt32.toNat_inj.mp h).symm,
            if_neg fun h => hreg h.2, Option.getD_none]
      · rw [Function.update_of_ne fun h => hphy (UInt32.toNat_inj.mp h).symm,
          if_neg fun h => hphy h.1, Option.getD_none]

/-- The PHYs are a register file under the driver's own calls, as long as they complete. -/
theorem callsState_direct_phys (s : MdioDev) {calls : List (MdioCall × ℕ)}
    (hcalls : ∀ c ∈ calls, c.1.Valid 0 ∧ c.2 < 10) (phy reg : UInt32) :
    (callsState MdioCall.direct s calls).phys phy.toNat reg.toNat =
      (lastWrite calls phy reg).getD (s.phys phy.toNat reg.toNat) := by
  induction calls using List.reverseRecOn with
  | nil => rfl
  | append_singleton calls c ih =>
      -- from the newest call, as `lastWrite` is
      have hc := hcalls c (by simp)
      rw [callsState, List.foldl_append, List.foldl_cons, List.foldl_nil, direct_phys hc.1 hc.2,
        lastWrite_concat]
      have hih := ih fun c hc => hcalls c (List.mem_append_left _ hc)
      rw [callsState] at hih
      rw [hih]
      cases c.1.writes phy reg <;> rfl

/-- **The driver's own reads.** After any calls of `ax_mdio_read` and `ax_mdio_write` that all
completed, a read that completes returns the last value written, or the initial one. -/
theorem mdioCalls_read (s : MdioDev) {calls : List (MdioCall × ℕ)}
    (hcalls : ∀ c ∈ calls, c.1.Valid 0 ∧ c.2 < 10) {phy reg : UInt32} (hphy : phy.toNat < 32)
    (hreg : reg.toNat < 32) {latency : ℕ} (hlatency : latency < 10) :
    (callRun (MdioCall.read phy reg).direct latency (callsState MdioCall.direct s calls)).result =
      .ok ((lastWrite calls phy reg).getD (s.phys phy.toNat reg.toNat)).toNat := by
  have hrun := axMdioRead_run ⟨phy, reg, 0, 0⟩
    { callsState MdioCall.direct s calls with latency := latency } hphy hreg
  rw [callRun, MdioCall.direct, hrun.1, if_pos hlatency]
  simp only
  rw [callsState_direct_phys s hcalls]

/-! ## The callbacks of the bus -/

/-- A callback of the bus changes no PHY; a read returns what is there if its transaction completes,
and everything else is 0. -/
theorem bus_run {c : MdioCall} (hvalid : c.Valid 1) (latency : ℕ) (s : MdioDev) :
    (callRun c.bus latency s).final.phys = s.phys ∧
      (10 ≤ latency → (callRun c.bus latency s).result = .ok 0) ∧
      ∀ phy reg, c = .read phy reg → latency < 10 →
        (callRun c.bus latency s).result = .ok (s.phys (phy.toNat + 1) reg.toNat).toNat := by
  cases c with
  | read phy reg =>
      have hshift : (phy + PHY_ID_SHIFT).toNat = phy.toNat + 1 := by
        have hlt := hvalid.1
        rw [UInt32.toNat_add]
        show (phy.toNat + 1) % 2 ^ 32 = _
        omega
      have hphy : (phy + PHY_ID_SHIFT).toNat < 32 := by
        rw [hshift]
        exact hvalid.1
      obtain ⟨hresult, hphys⟩ := axMdioRead_run ⟨phy + PHY_ID_SHIFT, reg, 0, 0⟩
        { s with latency := latency } hphy hvalid.2
      rw [hshift] at hresult
      refine ⟨hphys, fun hlatency => ?_, fun phy' reg' heq hlatency => ?_⟩
      · exact hresult.trans (congrArg Except.ok (if_neg (Nat.not_lt.mpr hlatency)))
      · cases heq
        exact hresult.trans (congrArg Except.ok (if_pos hlatency))
  | write phy reg val =>
      refine ⟨rfl, fun _ => rfl, fun phy' reg' heq => ?_⟩
      cases heq

theorem callsState_bus_phys (s : MdioDev) {calls : List (MdioCall × ℕ)}
    (hvalid : ∀ c ∈ calls, c.1.Valid 1) : (callsState MdioCall.bus s calls).phys = s.phys := by
  induction calls generalizing s with
  | nil => rfl
  | cons c calls ih =>
      obtain ⟨hc, hcalls⟩ := List.forall_mem_cons.mp hvalid
      rw [callsState, List.foldl_cons]
      exact (ih _ hcalls).trans (bus_run hc c.2 s).1

/-- How a call should be answered after others: a read that completes returns the last value written
to the register, or the initial one, and a call that does not complete fails. -/
def BusAnswers (s : MdioDev) (before : List (MdioCall × ℕ)) (call : MdioCall) (latency : ℕ) : Prop :=
  let result := (callRun call.bus latency (callsState MdioCall.bus s before)).result
  (latency < 10 → ∀ phy reg, call = .read phy reg →
    result = .ok ((lastWrite before phy reg).getD (s.phys (phy.toNat + 1) reg.toNat)).toNat) ∧
  (10 ≤ latency → ∃ e : ℤ, e < 0 ∧ result = .ok e)

/-- The call completes, and a register it reads was last written with what it held at first. -/
def Unaffected (s : MdioDev) (before : List (MdioCall × ℕ)) (call : MdioCall) (latency : ℕ) : Prop :=
  latency < 10 ∧ ∀ phy reg v, call = .read phy reg → lastWrite before phy reg = some v →
    v = s.phys (phy.toNat + 1) reg.toNat

theorem getD_eq_iff {α : Type} (o : Option α) (a : α) : o.getD a = a ↔ ∀ v, o = some v → v = a := by
  cases o <;> simp

theorem busAnswers_iff (s : MdioDev) {before : List (MdioCall × ℕ)}
    (hbefore : ∀ c ∈ before, c.1.Valid 1) {call : MdioCall} (hcall : call.Valid 1) (latency : ℕ) :
    BusAnswers s before call latency ↔ Unaffected s before call latency := by
  obtain ⟨-, htimeout, hread⟩ := bus_run hcall latency (callsState MdioCall.bus s before)
  unfold BusAnswers Unaffected
  by_cases hlatency : latency < 10
  · have hdone : ∀ phy reg, call = .read phy reg →
        ((callRun call.bus latency (callsState MdioCall.bus s before)).result =
            .ok ((lastWrite before phy reg).getD (s.phys (phy.toNat + 1) reg.toNat)).toNat ↔
          ∀ v, lastWrite before phy reg = some v → v = s.phys (phy.toNat + 1) reg.toNat) := by
      intro phy reg heq
      rw [hread phy reg heq hlatency, callsState_bus_phys s hbefore, ← getD_eq_iff, Except.ok.injEq,
        Int.ofNat_inj, UInt16.toNat_inj]
      exact eq_comm
    constructor
    · rintro ⟨hanswer, -⟩
      exact ⟨hlatency, fun phy reg v heq => (hdone phy reg heq).mp (hanswer hlatency phy reg heq) v⟩
    · rintro ⟨-, hsame⟩
      refine ⟨fun _ phy reg heq => (hdone phy reg heq).mpr fun v => hsame phy reg v heq, ?_⟩
      exact fun hge => absurd hlatency (Nat.not_lt.mpr hge)
  · -- a result of 0 is no failure
    have hge := Nat.not_lt.mp hlatency
    constructor
    · rintro ⟨-, hfail⟩
      obtain ⟨e, hneg, he⟩ := hfail hge
      rw [htimeout hge] at he
      cases he
      exact absurd hneg (Int.lt_irrefl 0)
    · exact fun h => absurd h.1 hlatency

/-- **The bus as a register file.** For any sequence of callbacks with addresses on the bus, every
read that completes returns the last value written and every call that does not complete fails,
exactly if all calls complete and no read is of a register that was last written with another value
than its initial one: what is written never gets there, and no failure is seen. -/
theorem busCalls_faithful_iff (s : MdioDev) (calls : List (MdioCall × ℕ))
    (hvalid : ∀ c ∈ calls, c.1.Valid 1) :
    (∀ before call latency after, calls = before ++ (call, latency) :: after →
        BusAnswers s before call latency) ↔
      ∀ before call latency after, calls = before ++ (call, latency) :: after →
        Unaffected s before call latency := by
  refine forall₄_congr fun before call latency after => forall_congr' fun heq => ?_
  subst heq
  apply busAnswers_iff
  · exact fun c hc => hvalid c (List.mem_append_left _ hc)
  · exact hvalid (call, latency) (List.mem_append_right _ List.mem_cons_self)

/-- All registers zero. -/
def zeroMdioDev : MdioDev := ⟨fun _ _ => 0, 0, 0, 0, 0, 0⟩

/-- A write of what is there and a read of it. -/
theorem busCalls_faithful_rewrite :
    BusAnswers zeroMdioDev [(.write 0 4 0, 3)] (.read 0 4) 9 := by
  have hvalid : ∀ c ∈ [(MdioCall.write 0 4 0, 3), (MdioCall.read 0 4, 9)], c.1.Valid 1 := by
    simp [MdioCall.Valid]
  apply (busCalls_faithful_iff zeroMdioDev _ hvalid).mpr _ [(.write 0 4 0, 3)] (.read 0 4) 9 [] rfl
  intro before call latency after heq
  rcases before with _ | ⟨c, _ | ⟨c', before⟩⟩
  · cases heq
    exact ⟨by omega, fun phy reg v hread => absurd hread (by simp)⟩
  · cases heq
    refine ⟨by omega, fun phy reg v hread hlast => ?_⟩
    cases hread
    cases hlast
    rfl
  · simp at heq

/-- A value that is written is not read back, and neither a write nor a read that does not complete
fails. -/
theorem busCalls_lose :
    ¬ BusAnswers zeroMdioDev [(.write 0 4 0x01E1, 0)] (.read 0 4) 0 ∧
      ¬ BusAnswers zeroMdioDev [] (.read 0 4) 10 ∧ ¬ BusAnswers zeroMdioDev [] (.write 0 4 0) 10 := by
  have hread : (MdioCall.read 0 4).Valid 1 := ⟨by decide, by decide⟩
  have hwrite (v : UInt16) : (MdioCall.write 0 4 v).Valid 1 := ⟨by decide, by decide⟩
  refine ⟨?_, ?_, ?_⟩
  · rw [busAnswers_iff zeroMdioDev (List.forall_mem_singleton.mpr (hwrite _)) hread]
    intro h
    have hsame := h.2 0 4 0x01E1 rfl rfl
    exact absurd hsame (by decide)
  · rw [busAnswers_iff zeroMdioDev (List.forall_mem_nil _) hread]
    exact fun h => absurd h.1 (Nat.lt_irrefl 10)
  · rw [busAnswers_iff zeroMdioDev (List.forall_mem_nil _) (hwrite _)]
    exact fun h => absurd h.1 (Nat.lt_irrefl 10)

/-! ## The callers -/

/-- Whatever the device answers, the result of a transaction is a 16-bit value. -/
theorem axMdioRead_range (data : MdioTransfer) :
    (axMdioRead data).Returns fun r => 0 ≤ r ∧ r < 2 ^ 16 := by
  unfold axMdioRead axWriteRegister
  intro _ _
  refine (Prog.returns_of_isEmpty (mdioPoll (axReadRegister .readData) 0 10)).bind ?_
  intro value _
  have hlt : (value &&& 0xFFFF).toNat < 2 ^ 16 := by
    rw [UInt32.toNat_and]
    exact lt_of_le_of_lt Nat.and_le_right (by decide)
  exact ⟨Int.natCast_nonneg _, by exact_mod_cast hlt⟩

/-- The error counters of a port never count. -/
theorem dsaLoopPhy_errors (portBase port regnum : UInt32) (value : UInt16) (mib : PhyMib) :
    (dsaLoopPhyRead portBase port regnum mib).Returns (fun r => r.2.readErr = mib.readErr) ∧
      (dsaLoopPhyWrite portBase port regnum value mib).Returns
        (fun r => r.2.writeErr = mib.writeErr) := by
  constructor
  · unfold dsaLoopPhyRead axMdioBusRead
    apply (axMdioRead_range _).bind
    intro ret hret
    rw [if_neg (Int.not_lt.mpr hret.1)]
    rfl
  · rfl

end Axm57104.Net
