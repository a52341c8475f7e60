import Axm57104.Common.Ledger

/-!
# Probing and removing the device

`axm57104_probe` and `axm57104_remove` are lists of operations. Which operations a probe makes, and
what it returns, depends on which of its external calls succeed. `axm57104_probe` has two labels for
its failures. `err_out` gives back the PCI regions and disables the device, which `xpdev_free` does
once more; it does not look whether the netdev was registered; and it reads `ax_private` after
`free_netdev`, or without there being one. The variable `rv` is still 0 at most of the jumps.
-/

namespace Axm57104.Pci

open Common

/-! ## Operations -/

/-- The procfs entries. -/
inductive ProcEntry
  | dir
  | ifnameOld
  | ifnameNew
  | coreVersion
  deriving DecidableEq

/-- The operations of `axm57104_probe` and `axm57104_remove` that take or give back something, that
decide which interrupts can come, or that set what the interrupt handlers follow. `axPrivate` is an
access to a field of `ax_private`. -/
inductive PciOp
  | pcidevAlloc
  | pcidevFree
  | allocDevInstance
  | freeDevInstance
  | pciEnableDevice
  | pciDisableDevice
  | pciRequestRegions
  | pciReleaseRegions
  | irqSetup
  | irqTeardown
  | channelInterruptsEnable (mask : BitVec 32)
  | channelInterruptsDisable (mask : BitVec 32)
  | userInterruptsEnable (mask : BitVec 32)
  | userInterruptsDisable (mask : BitVec 32)
  | xdmaUserIsrRegister
  | allocEtherdev
  | freeNetdev
  | registerNetdev
  | unregisterNetdev
  | setDrvdata
  | clearDrvdata
  | setAxNetdevPriv
  | axPrivate
  | procCreate (p : ProcEntry)
  | procRemove (p : ProcEntry)
  deriving DecidableEq

/-- `xdma_device_open`, when it succeeds. -/
def xdmaDeviceOpenOps : List PciOp :=
  [.allocDevInstance, .pciEnableDevice, .pciRequestRegions,
    .channelInterruptsDisable (BitVec.allOnes 32), .userInterruptsDisable (BitVec.allOnes 32),
    .irqSetup, .channelInterruptsEnable (BitVec.allOnes 32)]

/-- `xdma_device_close`. -/
def xdmaDeviceCloseOps : List PciOp :=
  [.channelInterruptsDisable (BitVec.allOnes 32), .userInterruptsDisable (BitVec.allOnes 32),
    .irqTeardown, .pciReleaseRegions, .pciDisableDevice, .freeDevInstance]

/-- `xpdev_free`. -/
def xpdevFree : List PciOp := xdmaDeviceCloseOps ++ [.pcidevFree]

/-! ## `axm57104_probe` -/

/-- The external calls of `axm57104_probe` that may fail. -/
inductive ProbeCall
  | pcidevAlloc
  | allocEtherdev
  | rxQueueAlloc
  | txQueueAlloc
  | isValidEtherAddr
  | registerNetdev
  | procMkdir
  | procIfnameOld
  | procIfnameNew
  | procCoreVersion
  deriving DecidableEq

@[simp] abbrev ENOMEM : ℤ := 12

@[simp] abbrev ENODEV : ℤ := 19

@[simp] abbrev EINVAL : ℤ := 22

/-- `if (ax_local->p) proc_remove(ax_local->p)`, where `procs` are the entries there are. -/
def procRemoveIf (procs : List ProcEntry) (p : ProcEntry) : List PciOp :=
  .axPrivate :: if p ∈ procs then [.procRemove p] else []

/-- From the label `err_out` on; `dev` says whether `ax_local->dev` is set. -/
def errOut (dev : Bool) (procs : List ProcEntry) : List PciOp :=
  [.pciReleaseRegions, .pciDisableDevice] ++ xpdevFree ++
    [.axPrivate] ++ (if dev then [.freeNetdev] else []) ++
    procRemoveIf procs .dir ++ procRemoveIf procs .ifnameNew ++ procRemoveIf procs .ifnameOld ++
    procRemoveIf procs .coreVersion

/-- From the label `err_out1` on: `netif_napi_del` comes first. -/
def errOut1 (procs : List ProcEntry) : List PciOp := .axPrivate :: errOut true procs

/-- Up to the allocation of the netdev. Bit 0 is left out of the mask `(1 << 17) - 1`. -/
def probeOpen : List PciOp :=
  .pcidevAlloc :: xdmaDeviceOpenOps ++ [.userInterruptsEnable 0xFFFE]

/-- Up to the result of `ax_tsn_init_switch`. -/
def probeNetdev : List PciOp := [.allocEtherdev, .setDrvdata, .axPrivate]

/-- Up to the check of the MAC address. -/
def probePublish : List PciOp := [.axPrivate, .setAxNetdevPriv, .axPrivate]

/-- From `register_netdev` up to the first procfs entry. -/
def probeRegister : List PciOp :=
  [.registerNetdev, .axPrivate, .xdmaUserIsrRegister, .userInterruptsEnable 0xFE, .axPrivate]

/-- `axm57104_probe`: the operations it makes, and what it returns. -/
def axm57104Probe (ok : ProbeCall → Bool) : List PciOp × ℤ :=
  if ok .pcidevAlloc = false then ([], -ENOMEM)
  else if ok .allocEtherdev = false then (probeOpen ++ errOut false [], 0)
  else if ok .rxQueueAlloc = false ∨ ok .txQueueAlloc = false then
    (probeOpen ++ probeNetdev ++ errOut false [], 0)
  else if ok .isValidEtherAddr = false then
    (probeOpen ++ probeNetdev ++ probePublish ++ errOut true [], 0)
  else if ok .registerNetdev = false then
    (probeOpen ++ probeNetdev ++ probePublish ++ .axPrivate :: errOut1 [], 0)
  else
    let ops := probeOpen ++ probeNetdev ++ probePublish ++ .axPrivate :: probeRegister
    if ok .procMkdir = false then (ops ++ errOut1 [], -ENODEV)
    else if ok .procIfnameOld = false then
      (ops ++ .procCreate .dir :: errOut1 [.dir], -EINVAL)
    else if ok .procIfnameNew = false then
      (ops ++ .procCreate .dir :: .procCreate .ifnameOld :: errOut1 [.dir, .ifnameOld], -EINVAL)
    else if ok .procCoreVersion = false then
      (ops ++ .procCreate .dir :: .procCreate .ifnameOld :: .procCreate .ifnameNew ::
        errOut1 [.dir, .ifnameOld, .ifnameNew], -EINVAL)
    else
      (ops ++ [.procCreate .dir, .procCreate .ifnameOld, .procCreate .ifnameNew,
        .procCreate .coreVersion], 0)

/-- `axm57104_remove`, of a device with all its procfs entries. The mask of `xdma_user_isr_disable`
leaves out the interrupts 8 to 15. -/
def axm57104Remove : List PciOp :=
  let procs := [.dir, .ifnameOld, .ifnameNew, .coreVersion]
  .axPrivate :: procRemoveIf procs .ifnameNew ++ procRemoveIf procs .ifnameOld ++
    procRemoveIf procs .coreVersion ++ procRemoveIf procs .dir ++
    [.axPrivate, .userInterruptsDisable 0xFE, .axPrivate, .unregisterNetdev, .axPrivate, .freeNetdev] ++
    xpdevFree ++ [.clearDrvdata]

/-! ## Resources -/

inductive Resource
  | pcidev
  | xdmaDevice
  | pciEnable
  | pciRegions
  | interrupts
  | netdev
  | registration
  | proc (p : ProcEntry)
  deriving DecidableEq

/-- What an operation takes, gives back or uses. -/
def PciOp.acts : PciOp → List (Act Resource)
  | .pcidevAlloc => [.take .pcidev]
  | .pcidevFree => [.give .pcidev]
  | .allocDevInstance => [.take .xdmaDevice]
  | .freeDevInstance => [.give .xdmaDevice]
  | .pciEnableDevice => [.take .pciEnable]
  | .pciDisableDevice => [.give .pciEnable]
  | .pciRequestRegions => [.take .pciRegions]
  | .pciReleaseRegions => [.give .pciRegions]
  | .irqSetup => [.take .interrupts]
  | .irqTeardown => [.give .interrupts]
  | .allocEtherdev => [.take .netdev]
  | .freeNetdev => [.give .netdev]
  | .registerNetdev => [.take .registration]
  | .unregisterNetdev => [.give .registration]
  | .axPrivate => [.use .netdev]
  | .procCreate p => [.take (.proc p)]
  | .procRemove p => [.give (.proc p)]
  | _ => []

/-- Book the operations of a function. -/
def settleOps (ops : List PciOp) (held : Finset Resource) :
    Except (LedgerFault Resource) (Finset Resource) :=
  settle (ops.flatMap PciOp.acts) held

/-! ## The system -/

inductive DriverEvent
  | probe (ok : ProbeCall → Bool)
  | remove

/-- Whether the driver core has bound the driver to the device, and what the driver holds. -/
structure DriverState where
  bound : Bool
  held : Finset Resource

/-- The driver is bound when `axm57104_probe` returns 0, and only then removed. -/
def driverEnabled (s : DriverState) : DriverEvent → Prop
  | .probe _ => s.bound = false
  | .remove => s.bound = true

def driverExec (s : DriverState) : DriverEvent → Except (LedgerFault Resource) DriverState
  | .probe ok => do
      let held ← settleOps (axm57104Probe ok).1 s.held
      .ok ⟨(axm57104Probe ok).2 = 0, held⟩
  | .remove => do
      let held ← settleOps axm57104Remove s.held
      .ok ⟨false, held⟩

def driverMachine : Machine DriverState DriverEvent (LedgerFault Resource) where
  enabled := driverEnabled
  exec := driverExec

/-- No external call fails, except the first, before which nothing is taken. -/
def driverCond (_ : DriverState) : DriverEvent → Prop
  | .probe ok => (∀ c, ok c = true) ∨ ok .pcidevAlloc = false
  | .remove => True

/-- A probe is all or nothing: it returns 0 if every call succeeds, and otherwise a negative error,
with everything given back that it took; nothing is given back that is not held, and `ax_private` is
used only while there is one. -/
def AllOrNothing (s : DriverState) (ok : ProbeCall → Bool) : Prop :=
  ∃ t, driverExec s (.probe ok) = .ok t ∧ ((axm57104Probe ok).2 = 0 ↔ ∀ c, ok c = true) ∧
    ((∃ c, ok c = false) → (axm57104Probe ok).2 < 0 ∧ t.held = s.held)

section Steps

variable {s : DriverState} {ok : ProbeCall → Bool}

/-- What a bound driver holds. -/
def allHeld : Finset Resource :=
  {.proc .coreVersion, .proc .ifnameNew, .proc .ifnameOld, .proc .dir, .registration, .netdev,
    .interrupts, .pciRegions, .pciEnable, .xdmaDevice, .pcidev}

theorem settleOps_probe (hok : ∀ c, ok c = true) :
    settleOps (axm57104Probe ok).1 ∅ = .ok allHeld ∧ (axm57104Probe ok).2 = 0 := by
  obtain rfl : ok = fun _ => true := funext hok
  exact ⟨rfl, rfl⟩

theorem settleOps_remove : settleOps axm57104Remove allHeld = .ok ∅ := rfl

/-- After `xdma_device_open` every failure ends in a fault. -/
theorem settleOps_probe_failed (halloc : ok .pcidevAlloc = true) (hfail : ∃ c, ok c = false) :
    (settleOps (axm57104Probe ok).1 ∅).isOk = false := by
  unfold axm57104Probe
  rw [if_neg (by rw [halloc]; exact Bool.noConfusion)]
  split_ifs with h₁ h₂ h₃ h₄ h₅ h₆ h₇ h₈
  · decide +kernel
  · decide +kernel
  · decide +kernel
  · decide +kernel
  · decide +kernel
  · decide +kernel
  · decide +kernel
  · decide +kernel
  · obtain ⟨c, hc⟩ := hfail
    cases c <;> simp_all

/-- A bound driver holds everything, an unbound one nothing. -/
def DriverInv (s : DriverState) : Prop := s.held = if s.bound then allHeld else ∅

theorem driverExec_probe (h : DriverInv s) (hbound : s.bound = false) (hok : ∀ c, ok c = true) :
    driverExec s (.probe ok) = .ok ⟨true, allHeld⟩ := by
  obtain ⟨hset, hrv⟩ := settleOps_probe hok
  rw [DriverInv, hbound, if_neg Bool.false_ne_true] at h
  simp only [driverExec, h, hset, hrv]
  rfl

theorem driverExec_probe_noMem (halloc : ok .pcidevAlloc = false) :
    driverExec s (.probe ok) = .ok ⟨false, s.held⟩ ∧ (axm57104Probe ok).2 = -ENOMEM := by
  have hprobe : axm57104Probe ok = ([], -ENOMEM) := by rw [axm57104Probe, if_pos halloc]
  constructor
  · simp only [driverExec, hprobe]
    rfl
  · rw [hprobe]

theorem driverExec_remove (h : DriverInv s) (hbound : s.bound = true) :
    driverExec s .remove = .ok ⟨false, ∅⟩ := by
  rw [DriverInv, hbound, if_pos rfl] at h
  simp only [driverExec, h, settleOps_remove]
  rfl

theorem DriverInv.step {t : DriverState} {e : DriverEvent} (h : DriverInv s)
    (hen : driverEnabled s e) (hcond : driverCond s e) (hex : driverExec s e = .ok t) :
    DriverInv t := by
  cases e with
  | probe ok =>
      rcases hcond with hok | halloc
      · rw [driverExec_probe h hen hok] at hex
        cases hex
        rfl
      · rw [(driverExec_probe_noMem halloc).1] at hex
        cases hex
        have hbound : s.bound = false := hen
        rwa [DriverInv, hbound] at h
  | remove =>
      rw [driverExec_remove h hen] at hex
      cases hex
      rfl

/-- A probe of an unbound device is all or nothing exactly if it meets the condition. -/
theorem allOrNothing_iff (h : DriverInv s) (hbound : s.bound = false) :
    AllOrNothing s ok ↔ driverCond s (.probe ok) := by
  constructor
  · rintro ⟨t, hex, -, -⟩
    by_contra hcond
    have halloc : ok .pcidevAlloc = true := Bool.of_not_eq_false fun hf => hcond (.inr hf)
    have hfail : ∃ c, ok c = false := by
      by_contra hnone
      exact hcond (.inl fun c => Bool.of_not_eq_false fun hc => hnone ⟨c, hc⟩)
    have hfault := settleOps_probe_failed halloc hfail
    have hempty : s.held = ∅ := by rw [h, hbound, if_neg Bool.false_ne_true]
    simp only [driverExec, hempty, bind_eq_ok] at hex
    obtain ⟨held, hset, -⟩ := hex
    rw [hset] at hfault
    cases hfault
  · rintro (hok | halloc)
    · refine ⟨_, driverExec_probe h hbound hok, ⟨fun _ => hok, fun _ => (settleOps_probe hok).2⟩, ?_⟩
      rintro ⟨c, hc⟩
      cases (hok c).symm.trans hc
    · obtain ⟨hex, hrv⟩ := driverExec_probe_noMem (s := s) halloc
      refine ⟨_, hex, ⟨fun hzero => ?_, fun hok => ?_⟩, fun _ => ⟨?_, rfl⟩⟩
      · cases hrv.symm.trans hzero
      · cases (hok _).symm.trans halloc
      · rw [hrv]
        decide

end Steps

/-! ## Every run -/

/-- In every run of probes and removals in which no call of a probe fails after `pcidev_alloc`, the
driver holds everything while it is bound and nothing else, and a removal gives everything back; and
in each of its states a probe is all or nothing if and only if no such call fails. -/
theorem driverMachine_allOrNothing {es : List DriverEvent} {s : DriverState}
    (hr : (driverMachine.restrict driverCond).Run ⟨false, ∅⟩ es s) :
    (s.held = if s.bound then allHeld else ∅) ∧
      (s.bound = true → driverExec s .remove = .ok ⟨false, ∅⟩) ∧
      (s.bound = false → ∀ ok, AllOrNothing s ok ↔ driverCond s (.probe ok)) := by
  have hinv : DriverInv s := hr.invariant rfl fun h hen hex => h.step hen.1 hen.2 hex
  exact ⟨hinv, driverExec_remove hinv, fun hbound ok => allOrNothing_iff hinv hbound⟩

/-- A probe, a removal and a probe that finds no memory. -/
theorem driverMachine_allOrNothing_twice :
    (driverMachine.restrict driverCond).Run ⟨false, ∅⟩
        [.probe fun _ => true, .remove, .probe fun _ => false] ⟨false, ∅⟩ ∧
      AllOrNothing ⟨false, ∅⟩ fun _ => true := by
  have hrun : (driverMachine.restrict driverCond).Run ⟨false, ∅⟩
      [.probe fun _ => true, .remove, .probe fun _ => false] ⟨false, ∅⟩ := by
    refine .cons (t := ⟨true, allHeld⟩) ⟨rfl, .inl fun _ => rfl⟩ rfl ?_
    refine .cons (t := ⟨false, ∅⟩) ⟨rfl, trivial⟩ rfl ?_
    exact .single ⟨rfl, .inr rfl⟩ rfl
  exact ⟨hrun, ((driverMachine_allOrNothing hrun).2.2 rfl _).mpr (.inl fun _ => rfl)⟩

/-- Only `c` fails. -/
def onlyFails (c : ProbeCall) : ProbeCall → Bool := fun c' => c' ≠ c

/-- Without a netdev, and when the netdev cannot be registered, the probe returns 0; there and when a
procfs entry cannot be created, it gives back or uses what it does not hold. -/
theorem axm57104Probe_not_allOrNothing :
    (axm57104Probe (onlyFails .allocEtherdev)).2 = 0 ∧
      (driverExec ⟨false, ∅⟩ (.probe (onlyFails .allocEtherdev))).isOk = false ∧
      (axm57104Probe (onlyFails .registerNetdev)).2 = 0 ∧
      (driverExec ⟨false, ∅⟩ (.probe (onlyFails .registerNetdev))).isOk = false ∧
      (driverExec ⟨false, ∅⟩ (.probe (onlyFails .procIfnameNew))).isOk = false := by
  decide +kernel

end Axm57104.Pci
