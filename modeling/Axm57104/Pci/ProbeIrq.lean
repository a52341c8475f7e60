import Axm57104.Pci.IrqLines
import Axm57104.Pci.Probe

/-!
# Interrupts while the device is probed and removed

The handlers of the channel interrupts, and those of the user interrupts 8 to 10, go from the PCI
device to the driver data, from there to `ax_netdev_priv`, and use it; the latter also call
`user_irq->handler`. All of these pointers are set by `axm57104_probe` after the interrupts are
enabled, and `axm57104_remove` frees the netdev before they are disabled.

Each operation is one step, and an interrupt may be handled between any two, as long as its line is
requested and its bit is set in the enable register. Handlers leave the enable registers as they
are: what they disable they enable again.
-/

namespace Axm57104.Pci

open Common Net

/-! ## What the handlers follow -/

inductive Pointer
  | unset
  | live
  | dangling
  deriving DecidableEq

/-- The target of a pointer is freed. -/
def Pointer.free : Pointer → Pointer
  | .live => .dangling
  | p => p

/-- What decides which interrupts can come and what their handlers find. `drvdata` is the driver data
of the PCI device, `axNetdevPriv` the field of the `xdma_pci_dev`, and `handlers` says whether
`user_irq[i].handler` is set for the interrupts 8 to 10. -/
structure IrqWorld where
  linesRequested : Bool
  channelIntEnable : BitVec 32
  userIntEnable : BitVec 32
  drvdata : Pointer
  axNetdevPriv : Pointer
  handlers : Bool
  deriving DecidableEq

/-- What an operation does to it. The memory of `pcidev_alloc` is not initialised, that of
`alloc_dev_instance` is zero. -/
def PciOp.apply (w : IrqWorld) : PciOp → IrqWorld
  | .pcidevAlloc => { w with axNetdevPriv := .unset }
  | .pcidevFree => { w with drvdata := w.drvdata.free }
  | .allocDevInstance => { w with handlers := false }
  | .irqSetup => { w with linesRequested := true }
  | .irqTeardown => { w with linesRequested := false }
  | .channelInterruptsEnable mask => { w with channelIntEnable := w.channelIntEnable ||| mask }
  | .channelInterruptsDisable mask => { w with channelIntEnable := w.channelIntEnable &&& ~~~mask }
  | .userInterruptsEnable mask => { w with userIntEnable := w.userIntEnable ||| mask }
  | .userInterruptsDisable mask => { w with userIntEnable := w.userIntEnable &&& ~~~mask }
  | .xdmaUserIsrRegister => { w with handlers := true }
  | .freeNetdev => { w with axNetdevPriv := w.axNetdevPriv.free }
  | .setDrvdata => { w with drvdata := .live }
  | .clearDrvdata => { w with drvdata := .unset }
  | .setAxNetdevPriv => { w with axNetdevPriv := .live }
  | _ => w

inductive IrqSource
  | h2c (c : Fin XDMA_CHANNEL_NUM_MAX)
  | c2h
  | user (i : Fin MAX_USER_IRQ)
  deriving DecidableEq

/-- The line is requested and the bit is set: bits 0 and 1 of the channel register are those of the
H2C engines, bit 2 that of the C2H engine. -/
def IrqWorld.canFire (w : IrqWorld) : IrqSource → Bool
  | .h2c c => w.linesRequested && w.channelIntEnable.getLsbD c.val
  | .c2h => w.linesRequested && w.channelIntEnable.getLsbD 2
  | .user i => w.linesRequested && w.userIntEnable.getLsbD i.val

def IrqSource.handler : IrqSource → Option IrqHandler
  | .h2c c => h2cHandler c.val
  | .c2h => c2hHandler 0
  | .user i => userHandler i.val

/-- The pointer that a handler followed. -/
inductive PointerFault
  | drvdata
  | axNetdevPriv
  | userHandler
  deriving DecidableEq

/-- `xpdev = dev_get_drvdata(&pdev->dev)`, `ax_local = xpdev->ax_netdev_priv`, and a use of
`ax_local`. -/
def followDrvdata (w : IrqWorld) : Except PointerFault Unit :=
  if w.drvdata ≠ .live then .error .drvdata
  else if w.axNetdevPriv ≠ .live then .error .axNetdevPriv
  else .ok ()

/-- What a handler follows. `xdma_user_irq` follows none of the pointers. -/
def runHandler (w : IrqWorld) : IrqHandler → Except PointerFault Unit
  | .xdmaChannelH2cIrq | .xdmaChannelH2cPtpIrq | .xdmaChannelC2hIrq => followDrvdata w
  | .xdmaUserIrq => .ok ()
  | .xdmaUserIrqConfigChange | .xdmaUserIrqTimerChange | .xdmaUserIrqTimerValueChange =>
      if w.handlers then followDrvdata w else .error .userHandler

/-! ## The system -/

/-- `done` are the operations made since the probe began, `rest` those that the current call has
still to make, and `bound` says whether the probe returns 0. -/
structure ProbeState where
  world : IrqWorld
  bound : Bool
  done : List PciOp
  rest : List PciOp

inductive ProbeEvent
  | probe (ok : ProbeCall → Bool)
  | remove
  | step
  | irq (src : IrqSource)

def probeEnabled (s : ProbeState) : ProbeEvent → Prop
  | .probe _ => s.rest = [] ∧ s.bound = false
  | .remove => s.rest = [] ∧ s.bound = true
  | .step => s.rest ≠ []
  | .irq src => s.world.canFire src = true

/-- `axm57104_remove` returns at once when there is no driver data. -/
def probeExec (s : ProbeState) : ProbeEvent → Except PointerFault ProbeState
  | .probe ok =>
      .ok { s with bound := (axm57104Probe ok).2 = 0, done := [], rest := (axm57104Probe ok).1 }
  | .remove =>
      .ok { s with bound := false, rest := if s.world.drvdata = .unset then [] else axm57104Remove }
  | .step =>
      match s.rest with
      | [] => .ok s
      | op :: rest => .ok { s with world := op.apply s.world, done := s.done ++ [op], rest := rest }
  | .irq src =>
      match src.handler with
      | none => .ok s
      | some h => do
          let _ ← runHandler s.world h
          .ok s

def probeMachine : Machine ProbeState ProbeEvent PointerFault where
  enabled := probeEnabled
  exec := probeExec

def ProbeState.init (w : IrqWorld) : ProbeState := ⟨w, false, [], []⟩

/-- `pcidev->ax_netdev_priv` has been set, and the netdev has not been freed. -/
def ProbeState.published (s : ProbeState) : Prop := .setAxNetdevPriv ∈ s.done ∧ .freeNetdev ∉ s.done

/-- A channel interrupt comes after `ax_netdev_priv` is set and before the netdev is freed; a user
interrupt 8 to 10 moreover after `xdma_user_isr_register`. -/
def irqCond (s : ProbeState) : ProbeEvent → Prop
  | .irq (.h2c _) | .irq .c2h => s.published
  | .irq (.user i) =>
      i.val = 8 ∨ i.val = 9 ∨ i.val = 10 → .xdmaUserIsrRegister ∈ s.done ∧ s.published
  | _ => True

instance probeEnabled_decidable (s : ProbeState) : (e : ProbeEvent) → Decidable (probeEnabled s e)
  | .probe _ => inferInstanceAs (Decidable (s.rest = [] ∧ s.bound = false))
  | .remove => inferInstanceAs (Decidable (s.rest = [] ∧ s.bound = true))
  | .step => inferInstanceAs (Decidable (s.rest ≠ []))
  | .irq src => inferInstanceAs (Decidable (s.world.canFire src = true))

instance probeMachine_decidable (s : ProbeState) (e : ProbeEvent) :
    Decidable (probeMachine.enabled s e) :=
  probeEnabled_decidable s e

instance irqCond_decidable (s : ProbeState) : (e : ProbeEvent) → Decidable (irqCond s e)
  | .irq (.h2c _) | .irq .c2h =>
      inferInstanceAs (Decidable (.setAxNetdevPriv ∈ s.done ∧ .freeNetdev ∉ s.done))
  | .irq (.user i) =>
      inferInstanceAs (Decidable (i.val = 8 ∨ i.val = 9 ∨ i.val = 10 →
        .xdmaUserIsrRegister ∈ s.done ∧ .setAxNetdevPriv ∈ s.done ∧ .freeNetdev ∉ s.done))
  | .probe _ | .remove | .step => inferInstanceAs (Decidable True)

/-! ## The order of the operations -/

/-- What must, or must not, have been done before an operation. -/
def allowed (done : List PciOp) : PciOp → Bool
  | .pcidevAlloc => .setAxNetdevPriv ∉ done
  | .allocDevInstance => .xdmaUserIsrRegister ∉ done
  | .irqSetup => .pcidevAlloc ∈ done && .allocDevInstance ∈ done && .irqTeardown ∉ done
  | .setAxNetdevPriv => .setDrvdata ∈ done && .freeNetdev ∉ done
  | .pcidevFree | .clearDrvdata => .irqTeardown ∈ done
  | _ => true

def wellOrdered : List PciOp → List PciOp → Bool
  | _, [] => true
  | done, op :: rest => allowed done op && wellOrdered (done ++ [op]) rest

/-- A probe is well ordered. If it returns 0, the removal is well ordered after it, and it has set the
driver data or closed the device again; otherwise it has closed the device or not opened it. -/
def programOk (p : List PciOp × ℤ) : Bool :=
  wellOrdered [] p.1 &&
    if p.2 = 0 then wellOrdered p.1 axm57104Remove && (.irqTeardown ∈ p.1 || .setDrvdata ∈ p.1)
    else .irqTeardown ∈ p.1 || .irqSetup ∉ p.1

theorem programOk_probe (ok : ProbeCall → Bool) : programOk (axm57104Probe ok) = true := by
  unfold axm57104Probe
  split_ifs <;> decide +kernel

/-! ## The invariant -/

/-- What the operations made so far say about the pointers. -/
structure WorldInv (w : IrqWorld) (done : List PciOp) : Prop where
  lines : w.linesRequested = true → .irqSetup ∈ done ∧ .irqTeardown ∉ done
  opened : .irqSetup ∈ done → .pcidevAlloc ∈ done ∧ .allocDevInstance ∈ done
  drvdata : .setDrvdata ∈ done → .irqTeardown ∉ done → w.drvdata = .live
  published : .setAxNetdevPriv ∈ done → .setDrvdata ∈ done
  priv : .pcidevAlloc ∈ done →
    (w.axNetdevPriv = .live ↔ .setAxNetdevPriv ∈ done ∧ .freeNetdev ∉ done)
  handlers : .allocDevInstance ∈ done → (w.handlers = true ↔ .xdmaUserIsrRegister ∈ done)

section Steps

variable {w : IrqWorld} {done : List PciOp} {op : PciOp} {s : ProbeState}

theorem Pointer.free_ne_live (p : Pointer) : p.free ≠ .live := by
  cases p <;> exact nofun

theorem mem_done_append {op' : PciOp} : op' ∈ done ++ [op] ↔ op' ∈ done ∨ op' = op := by
  rw [List.mem_append, List.mem_singleton]

theorem notMem_done_append {op' : PciOp} : op' ∉ done ++ [op] ↔ op' ∉ done ∧ op' ≠ op := by
  rw [mem_done_append, not_or]

theorem apply_linesRequested (h : (op.apply w).linesRequested = true) :
    op = .irqSetup ∨ w.linesRequested = true ∧ op ≠ .irqTeardown := by
  cases op with
  | irqSetup => exact .inl rfl
  | irqTeardown => cases h
  | _ => exact .inr ⟨h, nofun⟩

/-- The driver data stays as it is, or is set, unless the device is freed or removed. -/
theorem apply_drvdata (hfree : op ≠ .pcidevFree) (hclear : op ≠ .clearDrvdata) :
    (op.apply w).drvdata = if op = .setDrvdata then .live else w.drvdata := by
  cases op with
  | pcidevFree => exact absurd rfl hfree
  | clearDrvdata => exact absurd rfl hclear
  | setDrvdata => rfl
  | _ => rfl

theorem apply_axNetdevPriv :
    (op.apply w).axNetdevPriv = .live ↔
      op = .setAxNetdevPriv ∨ w.axNetdevPriv = .live ∧ op ≠ .pcidevAlloc ∧ op ≠ .freeNetdev := by
  cases op with
  | setAxNetdevPriv => exact ⟨fun _ => .inl rfl, fun _ => rfl⟩
  | pcidevAlloc => exact ⟨nofun, fun h => by simp at h⟩
  | freeNetdev =>
      refine ⟨fun h => absurd h (Pointer.free_ne_live _), fun h => ?_⟩
      simp at h
  | _ => exact ⟨fun h => .inr ⟨h, nofun, nofun⟩, fun h => (h.resolve_left nofun).1⟩

theorem apply_handlers :
    (op.apply w).handlers = true ↔
      op = .xdmaUserIsrRegister ∨ w.handlers = true ∧ op ≠ .allocDevInstance := by
  cases op with
  | xdmaUserIsrRegister => exact ⟨fun _ => .inl rfl, fun _ => rfl⟩
  | allocDevInstance => exact ⟨nofun, fun h => by simp at h⟩
  | _ => exact ⟨fun h => .inr ⟨h, nofun⟩, fun h => (h.resolve_left nofun).1⟩

theorem WorldInv.step_priv (h : WorldInv w done) (ha : allowed done op = true)
    (halloc : .pcidevAlloc ∈ done ++ [op]) :
    (op.apply w).axNetdevPriv = .live ↔
      .setAxNetdevPriv ∈ done ++ [op] ∧ .freeNetdev ∉ done ++ [op] := by
  rw [apply_axNetdevPriv, mem_done_append, notMem_done_append]
  by_cases hset : op = .setAxNetdevPriv
  · subst hset
    simp only [allowed, Bool.and_eq_true, decide_eq_true_eq] at ha
    exact ⟨fun _ => ⟨.inr rfl, ha.2, nofun⟩, fun _ => .inl rfl⟩
  by_cases hfresh : op = .pcidevAlloc
  · subst hfresh
    have hnot : .setAxNetdevPriv ∉ done := of_decide_eq_true ha
    refine ⟨fun h => absurd rfl (h.resolve_left nofun).2.1, fun h => ?_⟩
    exact absurd (h.1.resolve_right nofun) hnot
  have hpriv := h.priv ((mem_done_append.mp halloc).resolve_right (Ne.symm hfresh))
  constructor
  · rintro (heq | ⟨hlive, -, hfree⟩)
    · exact absurd heq hset
    · exact ⟨.inl (hpriv.mp hlive).1, (hpriv.mp hlive).2, Ne.symm hfree⟩
  · rintro ⟨hin | heq, hnot, hfree⟩
    · exact .inr ⟨hpriv.mpr ⟨hin, hnot⟩, hfresh, Ne.symm hfree⟩
    · exact absurd heq.symm hset

theorem WorldInv.step_handlers (h : WorldInv w done) (ha : allowed done op = true)
    (halloc : .allocDevInstance ∈ done ++ [op]) :
    (op.apply w).handlers = true ↔ .xdmaUserIsrRegister ∈ done ++ [op] := by
  rw [apply_handlers, mem_done_append]
  by_cases hfresh : op = .allocDevInstance
  · subst hfresh
    have hnot : .xdmaUserIsrRegister ∉ done := of_decide_eq_true ha
    refine ⟨fun h => absurd rfl (h.resolve_left nofun).2, fun h => ?_⟩
    exact absurd (h.resolve_right nofun) hnot
  have hhandlers := h.handlers ((mem_done_append.mp halloc).resolve_right (Ne.symm hfresh))
  constructor
  · rintro (heq | ⟨hset, -⟩)
    · exact .inr heq.symm
    · exact .inl (hhandlers.mp hset)
  · rintro (hin | heq)
    · exact .inr ⟨hhandlers.mpr hin, hfresh⟩
    · exact .inl heq.symm

/-- One operation that is allowed keeps the invariant. -/
theorem WorldInv.step (h : WorldInv w done) (ha : allowed done op = true) :
    WorldInv (op.apply w) (done ++ [op]) := by
  refine ⟨fun hreq => ?_, fun hsetup => ?_, fun hset hdown => ?_, fun hset => ?_, h.step_priv ha,
    h.step_handlers ha⟩
  · rw [mem_done_append, notMem_done_append]
    rcases apply_linesRequested hreq with rfl | ⟨hreq, hdown⟩
    · simp only [allowed, Bool.and_eq_true, decide_eq_true_eq] at ha
      exact ⟨.inr rfl, ha.2, nofun⟩
    · exact ⟨.inl (h.lines hreq).1, (h.lines hreq).2, Ne.symm hdown⟩
  · rw [mem_done_append, mem_done_append]
    rcases mem_done_append.mp hsetup with hin | rfl
    · exact ⟨.inl (h.opened hin).1, .inl (h.opened hin).2⟩
    · simp only [allowed, Bool.and_eq_true, decide_eq_true_eq] at ha
      exact ⟨.inl ha.1.1, .inl ha.1.2⟩
  · have hnot := (notMem_done_append.mp hdown).1
    have hfree : op ≠ .pcidevFree := by
      rintro rfl
      exact hnot (of_decide_eq_true ha)
    have hclear : op ≠ .clearDrvdata := by
      rintro rfl
      exact hnot (of_decide_eq_true ha)
    rw [apply_drvdata hfree hclear]
    split_ifs with hop
    · rfl
    · exact h.drvdata ((mem_done_append.mp hset).resolve_right (Ne.symm hop)) hnot
  · rw [mem_done_append]
    rcases mem_done_append.mp hset with hin | rfl
    · exact .inl (h.published hin)
    · simp only [allowed, Bool.and_eq_true, decide_eq_true_eq] at ha
      exact .inl ha.1

/-- The handlers find the pointers exactly between the publication and the free. -/
theorem WorldInv.follow_iff (h : WorldInv w done) (hreq : w.linesRequested = true) :
    followDrvdata w = .ok () ↔ .setAxNetdevPriv ∈ done ∧ .freeNetdev ∉ done := by
  obtain ⟨hsetup, hdown⟩ := h.lines hreq
  have hpriv := h.priv (h.opened hsetup).1
  unfold followDrvdata
  split_ifs with hdrv hlive
  · refine ⟨nofun, fun hpub => ?_⟩
    exact absurd (h.drvdata (h.published hpub.1) hdown) hdrv
  · exact ⟨nofun, fun hpub => absurd (hpriv.mpr hpub) hlive⟩
  · exact ⟨fun _ => hpriv.mp (not_not.mp hlive), fun _ => rfl⟩

/-- The current call goes on in order, the device can be removed in order if it stays bound, and it
is closed in the end if it does not. -/
structure ProbeInv (s : ProbeState) : Prop where
  world : WorldInv s.world s.done
  ordered : wellOrdered s.done s.rest = true
  bound : s.bound = true → wellOrdered (s.done ++ s.rest) axm57104Remove = true ∧
    (.irqTeardown ∈ s.done ++ s.rest ∨ .setDrvdata ∈ s.done ++ s.rest)
  unbound : s.bound = false → .irqTeardown ∈ s.done ++ s.rest ∨ .irqSetup ∉ s.done ++ s.rest

theorem ProbeInv.init (hclosed : w.linesRequested = false) : ProbeInv (.init w) := by
  refine ⟨⟨fun hreq => ?_, nofun, nofun, nofun, nofun, nofun⟩, rfl, nofun, fun _ => .inr nofun⟩
  cases hclosed.symm.trans hreq

theorem ProbeInv.probe (h : ProbeInv s) (hrest : s.rest = []) (hbound : s.bound = false)
    (ok : ProbeCall → Bool) :
    ProbeInv { s with bound := (axm57104Probe ok).2 = 0, done := [], rest := (axm57104Probe ok).1 } := by
  have hprogram := programOk_probe ok
  rw [programOk, Bool.and_eq_true] at hprogram
  obtain ⟨hordered, hend⟩ := hprogram
  -- the device is closed when a probe begins
  have hclosed : s.world.linesRequested = false := by
    by_contra hreq
    obtain ⟨hsetup, hdown⟩ := h.world.lines (Bool.of_not_eq_false hreq)
    have hun := h.unbound hbound
    rw [hrest, List.append_nil] at hun
    exact hun.elim hdown fun hno => hno hsetup
  refine ⟨(ProbeInv.init hclosed).world, hordered, fun hb => ?_, fun hb => ?_⟩
  · rw [if_pos (of_decide_eq_true hb), Bool.and_eq_true, Bool.or_eq_true, decide_eq_true_eq,
      decide_eq_true_eq] at hend
    exact hend
  · rw [if_neg (of_decide_eq_false hb), Bool.or_eq_true, decide_eq_true_eq, decide_eq_true_eq] at hend
    exact hend

theorem ProbeInv.remove (h : ProbeInv s) (hrest : s.rest = []) (hbound : s.bound = true) :
    ProbeInv { s with
      bound := false, rest := if s.world.drvdata = .unset then [] else axm57104Remove } := by
  obtain ⟨hordered, hend⟩ := h.bound hbound
  rw [hrest, List.append_nil] at hordered hend
  refine ⟨h.world, ?_, nofun, fun _ => ?_⟩
  · show wellOrdered s.done (if _ then _ else _) = true
    split_ifs
    · rfl
    · exact hordered
  · show _ ∈ s.done ++ (if _ then _ else _) ∨ _
    split_ifs with hunset
    · rw [List.append_nil]
      by_cases hdown : .irqTeardown ∈ s.done
      · exact .inl hdown
      · cases (h.world.drvdata (hend.resolve_left hdown) hdown).symm.trans hunset
    · exact .inl (List.mem_append_right _ (by decide +kernel))

theorem ProbeInv.next {rest : List PciOp} (h : ProbeInv s) (hrest : s.rest = op :: rest) :
    ProbeInv { s with world := op.apply s.world, done := s.done ++ [op], rest := rest } := by
  have hordered := h.ordered
  rw [hrest, wellOrdered, Bool.and_eq_true] at hordered
  have happend : s.done ++ s.rest = (s.done ++ [op]) ++ rest := by rw [hrest, List.append_cons]
  have hbound := h.bound
  have hunbound := h.unbound
  rw [happend] at hbound hunbound
  exact ⟨h.world.step hordered.1, hordered.2, hbound, hunbound⟩

/-- One event keeps the invariant. -/
theorem ProbeInv.step {t : ProbeState} {e : ProbeEvent} (h : ProbeInv s) (hen : probeEnabled s e)
    (hex : probeExec s e = .ok t) : ProbeInv t := by
  cases e with
  | probe ok =>
      cases hex
      exact h.probe hen.1 hen.2 ok
  | remove =>
      cases hex
      exact h.remove hen.1 hen.2
  | step =>
      simp only [probeExec] at hex
      split at hex
      · cases hex
        exact h
      · rename_i op rest hrest
        cases hex
        exact h.next hrest
  | irq src =>
      simp only [probeExec] at hex
      split at hex
      · cases hex
        exact h
      · simp only [bind_eq_ok] at hex
        obtain ⟨-, -, hs⟩ := hex
        cases hs
        exact h

theorem canFire_linesRequested {src : IrqSource} (h : w.canFire src = true) :
    w.linesRequested = true := by
  cases src <;> exact (Bool.and_eq_true_iff.mp h).1

theorem probeExec_irq {src : IrqSource} {hd : IrqHandler} (hsrc : src.handler = some hd) :
    (∃ t, probeExec s (.irq src) = .ok t) ↔ runHandler s.world hd = .ok () := by
  simp only [probeExec, hsrc, bind_eq_ok]
  constructor
  · rintro ⟨t, ⟨⟩, hrun, -⟩
    exact hrun
  · exact fun hrun => ⟨s, (), hrun, rfl⟩

theorem channel_handler {src : IrqSource} (h : src = .c2h ∨ ∃ c, src = .h2c c) :
    ∃ hd, src.handler = some hd ∧ runHandler w hd = followDrvdata w := by
  rcases h with rfl | ⟨c, rfl⟩
  · exact ⟨_, rfl, rfl⟩
  · obtain rfl | rfl := channel_cases c
    · exact ⟨_, rfl, rfl⟩
    · exact ⟨_, rfl, rfl⟩

theorem user_handler (i : Fin MAX_USER_IRQ) :
    ∃ hd, (IrqSource.user i).handler = some hd ∧ runHandler w hd =
      if i.val = 8 ∨ i.val = 9 ∨ i.val = 10 then
        if w.handlers then followDrvdata w else .error .userHandler
      else .ok () := by
  have hlt : i.val < 16 := i.isLt
  by_cases hi : i.val = 8 ∨ i.val = 9 ∨ i.val = 10
  · rw [if_pos hi]
    rcases hi with hi | hi | hi
    · exact ⟨.xdmaUserIrqConfigChange, by rw [IrqSource.handler, hi]; rfl, rfl⟩
    · exact ⟨.xdmaUserIrqTimerChange, by rw [IrqSource.handler, hi]; rfl, rfl⟩
    · exact ⟨.xdmaUserIrqTimerValueChange, by rw [IrqSource.handler, hi]; rfl, rfl⟩
  · rw [if_neg hi]
    refine ⟨.xdmaUserIrq, ?_, rfl⟩
    rw [IrqSource.handler, userHandler, if_neg (by omega), if_neg (by omega), if_neg (by omega),
      if_pos hlt]

/-- An interrupt that can fire is handled without a bad pointer exactly if it meets the condition. -/
theorem ProbeInv.irq_iff {src : IrqSource} (h : ProbeInv s) (hen : s.world.canFire src = true) :
    (∃ t, probeExec s (.irq src) = .ok t) ↔ irqCond s (.irq src) := by
  have hreq := canFire_linesRequested hen
  have hfollow := h.world.follow_iff hreq
  cases src with
  | h2c c =>
      obtain ⟨hd, hsrc, hrun⟩ := channel_handler (w := s.world) (.inr ⟨c, rfl⟩)
      rw [probeExec_irq hsrc, hrun, hfollow]
      exact Iff.rfl
  | c2h =>
      obtain ⟨hd, hsrc, hrun⟩ := channel_handler (w := s.world) (.inl rfl)
      rw [probeExec_irq hsrc, hrun, hfollow]
      exact Iff.rfl
  | user i =>
      obtain ⟨hd, hsrc, hrun⟩ := user_handler (w := s.world) i
      have hset := h.world.handlers (h.world.opened (h.world.lines hreq).1).2
      rw [probeExec_irq hsrc, hrun, irqCond, ProbeState.published, ← hfollow, ← hset]
      split_ifs with hi hhandlers
      · exact ⟨fun hok _ => ⟨hhandlers, hok⟩, fun hcond => (hcond hi).2⟩
      · exact ⟨nofun, fun hcond => absurd (hcond hi).1 hhandlers⟩
      · exact ⟨fun _ hi' => absurd hi' hi, fun _ => rfl⟩

end Steps

/-! ## Every run -/

/-- In every run of probes and removals, of which any external call may fail, with interrupts at any
step that meet the condition, no handler follows a bad pointer; and in each of its states an
interrupt that can fire is handled well if and only if it meets the condition. -/
theorem probeMachine_pointers {w : IrqWorld} (hclosed : w.linesRequested = false)
    {es : List ProbeEvent} {s : ProbeState}
    (hr : (probeMachine.restrict irqCond).Run (.init w) es s) {e : ProbeEvent}
    (hen : probeEnabled s e) : (∃ t, probeExec s e = .ok t) ↔ irqCond s e := by
  have hinv : ProbeInv s := hr.invariant (.init hclosed) fun h hen hex => h.step hen.1 hex
  cases e with
  | probe ok => exact ⟨fun _ => trivial, fun _ => ⟨_, rfl⟩⟩
  | remove => exact ⟨fun _ => trivial, fun _ => ⟨_, rfl⟩⟩
  | step =>
      refine ⟨fun _ => trivial, fun _ => ?_⟩
      simp only [probeExec]
      split
      · exact ⟨_, rfl⟩
      · exact ⟨_, rfl⟩
  | irq src => exact hinv.irq_iff hen

/-- The interrupts are off, as before the first probe. -/
def quietWorld : IrqWorld := ⟨false, 0, 0, .unset, .unset, false⟩

/-- A probe, a few interrupts, and the removal up to the first of its steps. -/
def servedTrace : List ProbeEvent :=
  .probe (fun _ => true) :: List.replicate 25 .step ++
    [.irq (.h2c 0), .irq .c2h, .irq (.user 8), .remove, .step, .irq (.h2c 1)]

theorem probeMachine_pointers_served :
    ∃ s, (probeMachine.restrict irqCond).Run (.init quietWorld) servedTrace s ∧
      probeEnabled s (.irq (.user 10)) ∧ ∃ t, probeExec s (.irq (.user 10)) = .ok t := by
  have hsome : ((probeMachine.restrict irqCond).replay (.init quietWorld) servedTrace).isSome = true := by
    decide +kernel
  have hrun := Machine.Run.of_isSome hsome (.init quietWorld)
  refine ⟨_, hrun, ?_, (probeMachine_pointers rfl hrun ?_).mpr ?_⟩
  · decide +kernel
  · decide +kernel
  · decide +kernel

/-- The handlers of a channel and of a user interrupt run before what they follow is set, and after it
is freed. -/
theorem probeMachine_bad_pointers :
    (∃ s, probeMachine.Run (.init quietWorld)
        (.probe (fun _ => true) :: List.replicate 8 .step) s ∧
      probeEnabled s (.irq .c2h) ∧ (probeExec s (.irq .c2h)).isOk = false) ∧
    (∃ s, probeMachine.Run (.init quietWorld)
        (.probe (fun _ => true) :: List.replicate 15 .step) s ∧
      probeEnabled s (.irq (.user 8)) ∧ (probeExec s (.irq (.user 8))).isOk = false) ∧
    ∃ s, probeMachine.Run (.init quietWorld)
        (.probe (fun _ => true) :: List.replicate 25 .step ++ .remove :: List.replicate 15 .step) s ∧
      probeEnabled s (.irq (.user 9)) ∧ (probeExec s (.irq (.user 9))).isOk = false ∧
      probeEnabled s (.irq (.h2c 0)) ∧ (probeExec s (.irq (.h2c 0))).isOk = false := by
  refine ⟨?_, ?_, ?_⟩
  · have hsome : (probeMachine.replay (.init quietWorld)
        (.probe (fun _ => true) :: List.replicate 8 .step)).isSome = true := by decide +kernel
    refine ⟨_, .of_isSome hsome (.init quietWorld), ?_, ?_⟩
    · decide +kernel
    · decide +kernel
  · have hsome : (probeMachine.replay (.init quietWorld)
        (.probe (fun _ => true) :: List.replicate 15 .step)).isSome = true := by decide +kernel
    refine ⟨_, .of_isSome hsome (.init quietWorld), ?_, ?_⟩
    · decide +kernel
    · decide +kernel
  · have hsome : (probeMachine.replay (.init quietWorld) (.probe (fun _ => true) ::
        List.replicate 25 .step ++ .remove :: List.replicate 15 .step)).isSome = true := by
      decide +kernel
    refine ⟨_, .of_isSome hsome (.init quietWorld), ?_, ?_, ?_, ?_⟩
    · decide +kernel
    · decide +kernel
    · decide +kernel
    · decide +kernel

end Axm57104.Pci
