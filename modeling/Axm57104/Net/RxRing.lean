import Axm57104.Common.Machine
import Axm57104.Net.Open
import Axm57104.Net.Rx
import Mathlib.Data.List.Infix

/-!
# The receive ring over whole runs

The device, the C2H interrupt and NAPI act on the receive ring in any order: `rxMachine`. If `n`
frames have been received and `m` of them passed to the stack, the device is at entry `n % 1024` and
`cur_rx` is `m % 1024`; the entries of the frames in between are marked, the others are not.

Nothing keeps the device from lapping the driver. The interrupt restarts the engine on the other
half whether or not `ax_net_rx` has been there, so that frames are delivered in order exactly as
long as the driver keeps up (`KeepsUp`): when the engine has finished a half, `cur_rx` is in that
half, or everything received has been consumed.
-/

namespace Axm57104.Net

open Common Xdma

/-! ## The system -/

/-- The device and the frames it has received since the open, oldest first. -/
structure RxSys where
  dev : NetDev
  received : List (List UInt8)

inductive RxEvent
  | complete (f : RxFrame)
  | irq
  | poll (budget : ℕ)

/-- The device receives while the engine runs, interrupts while the engine requests it, and NAPI
polls while it is enabled. -/
def rxEnabled (s : RxSys) : RxEvent → Prop
  | .complete _ => s.dev.engineC2h.hw.pc ≠ none
  | .irq => intRequest s.dev.engineC2h = true
  | .poll _ => s.dev.napiEnabled = true

/-- Every allocation of an `skb` succeeds. -/
def allocOk : ℕ → Bool := fun _ => true

def rxExec (s : RxSys) : RxEvent → Except Fault RxSys
  | .complete f => do
      let d ← c2hTransfer f s.dev
      .ok { dev := d, received := s.received ++ [f.bytes] }
  | .irq => do
      let d ← xdmaChannelC2hIrq (channelIntRequest s.dev) s.dev
      .ok { s with dev := d }
  | .poll budget => .ok { s with dev := (axNetPoll allocOk s.dev budget).1 }

def rxMachine : Machine RxSys RxEvent Fault where
  enabled := rxEnabled
  exec := rxExec

def rxStart (d : NetDev) : RxSys where
  dev := d
  received := []

/-- The half the C2H engine was last started on. -/
def currentHalf (e : XdmaEngine) : ℕ := (e.transfer.map XdmaTransfer.currentList).getD 0

/-- The driver keeps up with the device: `cur_rx` is in the half the engine was last started on, or
there is nothing to consume. -/
def KeepsUp (d : NetDev) : Prop :=
  d.curRx / 512 = currentHalf d.engineC2h ∨
    (d.engineC2h.cyclicResult d.curRx).isCompleted = false

/-- The condition on a step: an interrupt that restarts the engine finds the driver keeping up. -/
def rxCond (s : RxSys) (ev : RxEvent) : Prop :=
  ev = .irq → restartsC2h s.dev = true → KeepsUp s.dev

/-! ## The ring invariant -/

/-- Entry `i` holds the frame `f`. -/
structure HoldsFrame (e : XdmaEngine) (i : ℕ) (f : List UInt8) : Prop where
  marked : (e.cyclicResult i).isCompleted = true
  fits : (e.cyclicResult i).length ≤ DMA_PACKET_SIZE
  frame : (e.rxBuff i).data.take (e.cyclicResult i).length = f

theorem HoldsFrame.rxBytes {e : XdmaEngine} {i : ℕ} {f : List UInt8} (h : HoldsFrame e i f) :
    e.rxBytes i (e.cyclicResult i).length = f := by
  rw [e.rxBytes_of_le i h.fits, h.frame]

/-- The engine is about to receive frame `n`, and `ax_net_rx` is through with the half it uses. -/
structure Receiving (t : XdmaTransfer) (e : XdmaEngine) (n m : ℕ) : Prop where
  pc : e.hw.pc = some (descAddr e (n % 1024))
  count : e.hw.completedDescCount = n % 512
  stopped : e.hw.descStopped = false
  list : t.currentList = n / 512 % 2
  room : n ≤ m + 512 + n % 512

/-- The engine has stopped at the end of a half. -/
structure HalfDone (t : XdmaTransfer) (e : XdmaEngine) (n : ℕ) : Prop where
  pc : e.hw.pc = none
  stopped : e.hw.descStopped = true
  boundary : n % 512 = 0
  list : t.currentList = (n / 512 + 1) % 2

/-- The invariant with `m` frames passed on, less `cur_rx`; `base` is what the stack had before. -/
structure RxCore (base received : List (List UInt8)) (m : ℕ) (d : NetDev) : Prop where
  stack : d.stack = base ++ received.take m
  le : m ≤ received.length
  bound : received.length ≤ m + 1024
  phase : ∃ t, RxRing d.engineC2h t ∧
    (Receiving t d.engineC2h received.length m ∨ HalfDone t d.engineC2h received.length)
  full : ∀ k f, m ≤ k → received[k]? = some f → HoldsFrame d.engineC2h (k % 1024) f
  empty : ∀ k, received.length ≤ k → k < m + 1024 →
    (d.engineC2h.cyclicResult (k % 1024)).isCompleted = false
  napi : d.napiEnabled = true

/-- The invariant of the receive ring. -/
structure RxInv (base received : List (List UInt8)) (m : ℕ) (d : NetDev) : Prop extends
    RxCore base received m d where
  curRx : d.curRx = m % 1024

/-- The engine after it has received `f` into entry `i`. -/
def landed (e : XdmaEngine) (i : ℕ) (f : RxFrame) : XdmaEngine :=
  { e with
    rxBuff := Function.update e.rxBuff i ((e.rxBuff i).receive f.bytes f.fits)
    cyclicResult := Function.update e.cyclicResult i
      { status := C2H_WB + f.flags, length := f.bytes.length }
    hw := e.hw.finish (e.desc i) f.bytes }

section Ring

variable {base received : List (List UInt8)} {m n : ℕ} {d : NetDev} {e : XdmaEngine}
  {t : XdmaTransfer}

/-- The status the device writes back passes the test of `ax_net_rx`. -/
theorem isCompleted_writeBack {flags : ℕ} (h : flags < 2 ^ 16) (len : ℕ) :
    XdmaResult.isCompleted { status := C2H_WB + flags, length := len } = true := by
  have hor : C2H_WB + flags = C2H_WB ||| flags := Nat.two_pow_add_eq_or_of_lt h 0x52B4
  have hlow : flags &&& 0xFFFF0000 = 0 := by
    apply Nat.eq_of_testBit_eq
    intro i
    rw [Nat.testBit_and, Nat.zero_testBit, show (0xFFFF0000 : ℕ) = 2 ^ 16 * 0xFFFF from rfl,
      Nat.testBit_two_pow_mul]
    rcases Nat.lt_or_ge i 16 with hi | hi
    · simp [Nat.not_le.mpr hi]
    · rw [Nat.testBit_lt_two_pow (lt_of_lt_of_le h (Nat.pow_le_pow_right (by decide) hi)),
        Bool.false_and]
  rw [XdmaResult.isCompleted, hor, Nat.and_or_distrib_right, hlow, Nat.or_zero]
  decide

/-- The entry that a frame was received into holds it. -/
theorem holdsFrame_landed (e : XdmaEngine) (i : ℕ) (f : RxFrame) :
    HoldsFrame (landed e i f) i f.bytes := by
  refine ⟨?_, ?_, ?_⟩ <;> simp only [landed, Function.update_self]
  · exact isCompleted_writeBack f.flags_lt _
  · exact f.fits
  · simp [PacketBuff.receive, overwrite]

/-- A marked entry at the cursor belongs to a frame that has been received. -/
theorem RxCore.lt_of_marked (h : RxCore base received m d)
    (hm : (d.engineC2h.cyclicResult (m % 1024)).isCompleted = true) : m < received.length := by
  by_contra hge
  have hempty := h.empty m (not_lt.mp hge) (by omega)
  rw [hm] at hempty
  cases hempty

/-- One iteration of `ax_net_rx` passes on the next frame. -/
theorem RxCore.frame (h : RxCore base received m d)
    (hm : (d.engineC2h.cyclicResult (m % 1024)).isCompleted = true) :
    RxCore base received (m + 1) (axNetRxFrame d (m % 1024)) := by
  have hlt := h.lt_of_marked hm
  have hbound := h.bound
  obtain ⟨t, hr, hphase⟩ := h.phase
  refine ⟨?_, hlt, by omega, ⟨t, ⟨⟨hr.transfer_eq, hr.list, hr.next⟩, hr.dst, hr.src, hr.stopped⟩,
    ?_⟩, fun k f hk hf => ?_, fun k hk hk' => ?_, h.napi⟩
  · show d.stack ++ [_] = _
    rw [h.stack, (h.full m _ le_rfl (List.getElem?_eq_getElem hlt)).rxBytes, List.append_assoc,
      List.take_concat_get']
  · rcases hphase with hrec | hdone
    · have hroom := hrec.room
      exact Or.inl ⟨hrec.pc, hrec.count, hrec.stopped, hrec.list, by omega⟩
    · exact Or.inr ⟨hdone.pc, hdone.stopped, hdone.boundary, hdone.list⟩
  · obtain ⟨hkn, -⟩ := List.getElem?_eq_some_iff.mp hf
    have hne : k % 1024 ≠ m % 1024 := by omega
    have hold := h.full k f (by omega) hf
    refine ⟨?_, ?_, ?_⟩ <;> simp only [axNetRxFrame, Function.update_of_ne hne]
    · exact hold.marked
    · exact hold.fits
    · exact hold.frame
  · rcases eq_or_ne (k % 1024) (m % 1024) with heq | hne
    · simp only [axNetRxFrame, heq, Function.update_self]
      decide
    · simp only [axNetRxFrame, Function.update_of_ne hne]
      exact h.empty k hk (by omega)

/-- `ax_net_rx` passes on some further frames. -/
theorem RxCore.loop (alloc : ℕ → Bool) (rest : ℕ) :
    ∀ {d m workDone}, RxCore base received m d →
      ∃ m', RxInv base received m' (axNetRxLoop alloc rest d (m % 1024) workDone).1 := by
  induction rest with
  | zero =>
      intro d m workDone h
      exact ⟨m, ⟨h.stack, h.le, h.bound, h.phase, h.full, h.empty, h.napi⟩, rfl⟩
  | succ rest ih =>
      intro d m workDone h
      unfold axNetRxLoop
      split
      · rename_i hmark
        rw [show (m % 1024 + 1) % RX_DESC_NUM = (m + 1) % 1024 by
          simp only [RX_DESC_NUM]; omega]
        exact ih (h.frame hmark.1)
      · exact ⟨m, ⟨h.stack, h.le, h.bound, h.phase, h.full, h.empty, h.napi⟩, rfl⟩

/-- `ax_net_poll` passes on some further frames. -/
theorem RxInv.poll (h : RxInv base received m d) (alloc : ℕ → Bool) (budget : ℕ) :
    ∃ m', RxInv base received m' (axNetPoll alloc d budget).1 := by
  have hloop : ∃ m', RxInv base received m' (axNetRx alloc d 0 budget).1 := by
    rw [axNetRx, h.curRx]
    exact h.toRxCore.loop alloc _
  obtain ⟨m', h'⟩ := hloop
  exact ⟨m', ⟨h'.stack, h'.le, h'.bound, h'.phase, h'.full, h'.empty, h'.napi⟩, h'.curRx⟩

/-- The engine writes a frame into entry `i` and its result record. -/
theorem c2hStep_eq (hr : RxRing e t) {i : ℕ} (hi : i < 1024) (hpc : e.hw.pc = some (descAddr e i))
    (f : RxFrame) : e.c2hStep f = .ok (landed e i f) := by
  have hfetch : e.fetch = some (i, e.desc i) := by
    rw [XdmaEngine.fetch, hpc, Option.bind_some, descAddr, blockIndex_add _ _ (by decide),
      Option.map_some]
  have hdst : blockIndex e.rxBuffBus.bus DMA_PACKET_SIZE (e.desc i).dst = some i := by
    rw [hr.dst i hi, blockIndex_add _ _ (by decide)]
  have hsrc : blockIndex e.cyclicResultBus.bus XDMA_RESULT_SIZE (e.desc i).src = some i := by
    rw [hr.src i hi, blockIndex_add _ _ (by decide)]
  simp only [XdmaEngine.c2hStep, hfetch, hdst, hsrc, landed]

/-- An entry other than the one written keeps its frame. -/
theorem HoldsFrame.landed {i k : ℕ} {g : List UInt8} (h : HoldsFrame e k g) (hne : k ≠ i)
    (f : RxFrame) : HoldsFrame (landed e i f) k g := by
  refine ⟨?_, ?_, ?_⟩ <;> simp only [Net.landed, Function.update_of_ne hne]
  · exact h.marked
  · exact h.fits
  · exact h.frame

theorem RxRing.landed (hr : RxRing e t) (i : ℕ) (f : RxFrame) : RxRing (landed e i f) t :=
  ⟨⟨hr.transfer_eq, hr.list, hr.next⟩, hr.dst, hr.src, hr.stopped⟩

/-- The engine stops behind the last entry of a half. -/
theorem pc_landed_iff (hr : RxRing e t) {i : ℕ} (hi : i < 1024) (f : RxFrame) :
    (landed e i f).hw.pc = none ↔ lastOfHalf i := by
  have hstop := hr.stopped i hi
  by_cases hlast : lastOfHalf i
  · rw [decide_eq_true hlast] at hstop
    simp only [landed, HwEngine.finish, hstop, if_true, hlast]
  · rw [decide_eq_false hlast] at hstop
    simp only [landed, HwEngine.finish, hstop, Bool.false_eq_true, if_false, hlast, reduceCtorEq]

/-- The engine goes on to the next frame, or has stopped at the end of the half. -/
theorem Receiving.landed (h : Receiving t e n m) (hr : RxRing e t) (f : RxFrame) :
    Receiving t (landed e (n % 1024) f) (n + 1) m ∨ HalfDone t (landed e (n % 1024) f) (n + 1) := by
  have hidx : n % 1024 < 1024 := Nat.mod_lt _ (by decide)
  have hstop := hr.stopped _ hidx
  have hlist := h.list
  have hroom := h.room
  by_cases hlast : lastOfHalf (n % 1024)
  · rw [decide_eq_true hlast] at hstop
    simp only [lastOfHalf] at hlast
    refine Or.inr ⟨?_, ?_, by omega, by omega⟩
    · simp only [Net.landed, HwEngine.finish, hstop, if_true]
    · simp only [Net.landed, HwEngine.finish, hstop, Bool.or_true]
  · rw [decide_eq_false hlast] at hstop
    have hnext := hr.next _ hidx hlast
    simp only [lastOfHalf] at hlast
    refine Or.inl ⟨?_, ?_, ?_, by omega, by omega⟩
    · simp only [Net.landed, HwEngine.finish, hstop, Bool.false_eq_true, if_false, hnext]
      rw [show n % 1024 + 1 = (n + 1) % 1024 by omega]
      rfl
    · simp only [Net.landed, HwEngine.finish, h.count]
      omega
    · simp only [Net.landed, HwEngine.finish, h.stopped, hstop, Bool.or_false]

/-- The device receives a frame. -/
theorem RxInv.complete (h : RxInv base received m d) (hpc : d.engineC2h.hw.pc ≠ none)
    (f : RxFrame) : ∃ d', c2hTransfer f d = .ok d' ∧
      (d'.engineC2h.hw.pc = none ↔ received.length % 512 = 511) ∧
      RxInv base (received ++ [f.bytes]) m d' := by
  obtain ⟨t, hr, hrec | hdone⟩ := h.phase
  swap
  · exact absurd hdone.pc hpc
  set n := received.length with hn
  have hle := h.le
  have hroom := hrec.room
  have hidx : n % 1024 < 1024 := Nat.mod_lt _ (by decide)
  have hlen : (received ++ [f.bytes]).length = n + 1 := by
    rw [List.length_append, List.length_singleton]
  have hstep := c2hStep_eq hr hidx hrec.pc f
  refine ⟨{ d with engineC2h := landed d.engineC2h (n % 1024) f }, by simp only [c2hTransfer, hstep],
    ?_, ⟨?_, ?_, ?_, ⟨t, hr.landed _ f, ?_⟩, ?_, ?_, h.napi⟩, h.curRx⟩
  · rw [pc_landed_iff hr hidx f, lastOfHalf]
    omega
  · show d.stack = _
    rw [h.stack, List.take_append_of_le_length hle]
  · omega
  · omega
  · rw [hlen]
    exact hrec.landed hr f
  · intro k g hk hg
    rcases Nat.lt_or_ge k n with hlt | hge
    · -- an entry that was marked before is not the one written now
      rw [List.getElem?_append_left hlt] at hg
      exact (h.full k g hk hg).landed (by omega) f
    · rw [List.getElem?_append_right hge] at hg
      obtain ⟨hlt, rfl⟩ := List.getElem?_eq_some_iff.mp hg
      have hk' : k = n := by
        simp only [List.length_singleton] at hlt
        omega
      subst hk'
      simp only [← hn, Nat.sub_self, List.getElem_cons_zero]
      exact holdsFrame_landed d.engineC2h (n % 1024) f
  · intro k hk hk'
    rw [hlen] at hk
    have hne : k % 1024 ≠ n % 1024 := by omega
    simp only [landed, Function.update_of_ne hne]
    exact h.empty k (by omega) hk'

/-- When a half is done, the driver keeps up exactly if it is through with the other half. -/
theorem RxInv.keepsUp_iff (h : RxInv base received m d) (hr : RxRing d.engineC2h t)
    (hdone : HalfDone t d.engineC2h received.length) :
    KeepsUp d ↔ received.length ≤ m + 512 := by
  have hle := h.le
  have hbound := h.bound
  have hboundary := hdone.boundary
  have hlist := hdone.list
  have hhalf : currentHalf d.engineC2h = t.currentList := by
    rw [currentHalf, hr.transfer_eq]
    rfl
  rw [KeepsUp, hhalf, h.curRx]
  constructor
  · rintro (hcur | hempty)
    · omega
    · -- nothing to consume: everything received has been passed on
      by_contra hgt
      have hm : m < received.length := by omega
      rw [(h.full m _ le_rfl (List.getElem?_eq_getElem hm)).marked] at hempty
      cases hempty
  · intro hroom
    rcases eq_or_ne m received.length with heq | hne
    · exact Or.inr (h.empty m (by omega) (by omega))
    · exact Or.inl (by omega)

theorem RxInv.restarts_iff (h : RxInv base received m d) :
    restartsC2h d = true ↔ ∃ t, RxRing d.engineC2h t ∧ HalfDone t d.engineC2h received.length := by
  obtain ⟨t, hr, hrec | hdone⟩ := h.phase
  · have hfalse : restartsC2h d = false := by
      have hne : RX_DESC_NUM / DESC_LIST_NUM ≠ received.length % 512 := by
        simp only [RX_DESC_NUM, DESC_LIST_NUM]
        omega
      rw [restartsC2h, XdmaEngine.statusStopped, hrec.stopped, hrec.count, Bool.false_or]
      exact beq_eq_false_iff_ne.mpr hne
    rw [hfalse]
    constructor
    · intro hf
      cases hf
    · rintro ⟨t', -, hdone⟩
      have hcontra := hdone.pc.symm.trans hrec.pc
      cases hcontra
  · refine ⟨fun _ => ⟨t, hr, hdone⟩, fun _ => ?_⟩
    rw [restartsC2h, XdmaEngine.statusStopped, hdone.stopped, Bool.true_or]

/-- The engine after the interrupt has restarted it with the transfer `t` turned to the other
half. -/
def restarted (e : XdmaEngine) (t : XdmaTransfer) : XdmaEngine :=
  ({ e.engineStatusRead.xdmaEngineStop with transfer := some t } : XdmaEngine).started
    (t.listDesc t.currentList)

/-- The transfer turned to the other half. -/
def turned (t : XdmaTransfer) : XdmaTransfer :=
  { t with currentList := (t.currentList + 1) % DESC_LIST_NUM }

theorem serviceC2h_restart (ht : d.engineC2h.transfer = some t) (hyes : restartsC2h d = true) :
    serviceC2h d = .ok { d with
      engineC2h := restarted d.engineC2h (turned t), napiScheduled := true } := by
  have ht' : d.engineC2h.engineStatusRead.transfer = some t := ht
  have hstart : ({ d.engineC2h.engineStatusRead.xdmaEngineStop with
      transfer := some (turned t) } : XdmaEngine).engineStart =
        .ok (restarted d.engineC2h (turned t)) := by
    simp only [XdmaEngine.engineStart, HwEngine.start, dmaAddr_pciDma]
    rfl
  simp only [turned] at hstart ⊢
  simp only [serviceC2h, if_pos hyes, ht', hstart]

/-- A restart keeps the ring and sends the engine to the half after the one it has finished. -/
theorem HalfDone.restarted (hdone : HalfDone t d.engineC2h n) (hr : RxRing d.engineC2h t) :
    RxRing (restarted d.engineC2h (turned t)) (turned t) ∧
      (turned t).currentList = n / 512 % 2 ∧
      (restarted d.engineC2h (turned t)).hw.pc = some (descAddr d.engineC2h (n % 1024)) := by
  have hboundary := hdone.boundary
  have hlist := hdone.list
  have hcur : (turned t).currentList = n / 512 % 2 := by
    simp only [turned, DESC_LIST_NUM]
    omega
  have haddr : (turned t).listDesc (turned t).currentList = descAddr d.engineC2h (n % 1024) := by
    have hl := hr.list (turned t).currentList (by rw [hcur]; exact Nat.mod_lt _ (by decide))
    rw [hcur, show n / 512 % 2 * 512 = n % 1024 by omega] at hl
    rw [hcur]
    exact hl
  exact ⟨⟨⟨rfl, hr.list, hr.next⟩, hr.dst, hr.src, hr.stopped⟩, hcur, congrArg some haddr⟩

/-- The interrupt, with the driver keeping up if it restarts the engine. -/
theorem RxInv.irq (h : RxInv base received m d) (hcond : restartsC2h d = true → KeepsUp d) :
    ∃ d', serviceC2h d = .ok d' ∧ RxInv base received m d' := by
  obtain ⟨t, hr, hrec | hdone⟩ := h.phase
  · have hno : ¬ restartsC2h d = true := by
      rw [h.restarts_iff]
      rintro ⟨t', -, hdone⟩
      have hcontra := hdone.pc.symm.trans hrec.pc
      cases hcontra
    refine ⟨{ d with engineC2h := d.engineC2h.engineStatusRead, napiScheduled := true },
      by simp only [serviceC2h, if_neg hno], ⟨h.stack, h.le, h.bound, ⟨t, ?_, Or.inl ?_⟩, ?_, h.empty, h.napi⟩,
      h.curRx⟩
    · exact ⟨⟨hr.transfer_eq, hr.list, hr.next⟩, hr.dst, hr.src, hr.stopped⟩
    · exact ⟨hrec.pc, hrec.count, rfl, hrec.list, hrec.room⟩
    · exact fun k f hk hf =>
        ⟨(h.full k f hk hf).marked, (h.full k f hk hf).fits, (h.full k f hk hf).frame⟩
  · have hyes : restartsC2h d = true := h.restarts_iff.mpr ⟨t, hr, hdone⟩
    have hroom := (h.keepsUp_iff hr hdone).mp (hcond hyes)
    obtain ⟨hr', hcur, hpc⟩ := hdone.restarted hr
    refine ⟨_, serviceC2h_restart hr.transfer_eq hyes, ⟨h.stack, h.le, h.bound,
      ⟨turned t, hr', Or.inl ⟨hpc, hdone.boundary.symm, rfl, hcur, by omega⟩⟩, ?_, h.empty, h.napi⟩,
      h.curRx⟩
    exact fun k f hk hf =>
      ⟨(h.full k f hk hf).marked, (h.full k f hk hf).fits, (h.full k f hk hf).frame⟩

end Ring

/-! ## Whole runs -/

/-- No result record is marked and no stop of an earlier session is pending. -/
structure RxFresh (d : NetDev) : Prop where
  clear : ∀ i < 1024, (d.engineC2h.cyclicResult i).isCompleted = false
  stopped : d.engineC2h.hw.descStopped = false

/-- An open of a fresh device starts with nothing received. -/
theorem RxInv.start {d d' : NetDev} (hnull : NoTransferYet d) (hfresh : RxFresh d)
    (hopen : axNetOpen d = .ok d') : RxInv d'.stack [] 0 d' := by
  obtain ⟨hbase, -, -, desc, t, he, hr, hcur⟩ := axNetOpen_spec hopen hnull
  refine ⟨⟨?_, le_rfl, by decide, ⟨t, hr, Or.inl ⟨?_, ?_, ?_, hcur, by decide⟩⟩, by simp, ?_, ?_⟩, ?_⟩
  · rw [List.take_nil, List.append_nil]
  · rw [he]
    rfl
  · rw [he]
    rfl
  · rw [he]
    exact hfresh.stopped
  · intro k _ hk
    rw [he]
    exact hfresh.clear (k % 1024) (Nat.mod_lt _ (by decide))
  · rw [hbase]
    rfl
  · rw [hbase]
    rfl

/-- One step of the receiving system, with the driver keeping up. -/
theorem RxInv.step {base : List (List UInt8)} {s : RxSys} {m : ℕ} {ev : RxEvent}
    (h : RxInv base s.received m s.dev) (hen : rxEnabled s ev) (hcond : rxCond s ev) :
    ∃ s' m', rxExec s ev = .ok s' ∧ RxInv base s'.received m' s'.dev := by
  cases ev with
  | complete f =>
      obtain ⟨d', hd', -, h'⟩ := h.complete hen f
      exact ⟨_, m, by simp only [rxExec, hd']; rfl, h'⟩
  | irq =>
      obtain ⟨d', hd', h'⟩ := h.irq (hcond rfl)
      have hreq : intRequest s.dev.engineC2h = true := hen
      have hirq : xdmaChannelC2hIrq (channelIntRequest s.dev) s.dev = .ok d' := by
        rw [xdmaChannelC2hIrq_eq, if_pos hreq]
        exact hd'
      exact ⟨{ s with dev := d' }, m, by simp only [rxExec, hirq]; rfl, h'⟩
  | poll budget =>
      obtain ⟨m', h'⟩ := h.poll allocOk budget
      exact ⟨_, m', rfl, h'⟩

/-- The receive ring is in order in the state `s`, reached after an open that left `d'`. -/
structure RxSafe (d' : NetDev) (s : RxSys) : Prop where
  /-- What the stack got since the open is a prefix of what the device received. -/
  delivered : ∃ l, s.dev.stack = d'.stack ++ l ∧ l <+: s.received
  /-- The engine is restarted only on a half without an unconsumed frame. -/
  restart : rxEnabled s .irq → rxCond s .irq → restartsC2h s.dev = true →
    ∀ i, i / 512 = (currentHalf s.dev.engineC2h + 1) % DESC_LIST_NUM →
      (s.dev.engineC2h.cyclicResult i).isCompleted = false
  /-- No step faults. -/
  noFault : ∀ ev f, rxEnabled s ev → rxCond s ev → rxExec s ev ≠ .error f

theorem RxInv.safe {d' : NetDev} {s : RxSys} {m : ℕ} (h : RxInv d'.stack s.received m s.dev) :
    RxSafe d' s where
  delivered := ⟨s.received.take m, h.stack, List.take_prefix _ _⟩
  restart _ hcond hyes i hi := by
    obtain ⟨t, hr, hdone⟩ := h.restarts_iff.mp hyes
    have hroom := (h.keepsUp_iff hr hdone).mp (hcond rfl hyes)
    have hhalf : currentHalf s.dev.engineC2h = t.currentList := by
      rw [currentHalf, hr.transfer_eq]
      rfl
    have hle := h.le
    have hboundary := hdone.boundary
    have hlist := hdone.list
    rw [hhalf] at hi
    simp only [DESC_LIST_NUM] at hi
    -- the half is that of the frames `n .. n + 511`, which are still to come
    have hempty := h.empty (s.received.length + i % 512) (by omega) (by omega)
    rwa [show (s.received.length + i % 512) % 1024 = i by omega] at hempty
  noFault ev f hen hcond := by
    obtain ⟨s', m', hs', -⟩ := h.step hen hcond
    rw [hs']
    exact fun hf => by cases hf

/-- **The receive ring.** After an open of a fresh device, as long as the driver keeps up at every
restart of the engine, any order of receptions, interrupts and polls delivers the frames in order,
each once. -/
theorem rxMachine_safe {d d' : NetDev} (hnull : NoTransferYet d) (hfresh : RxFresh d)
    (hopen : axNetOpen d = .ok d') {es : List RxEvent} {s : RxSys}
    (hrun : (rxMachine.restrict rxCond).Run (rxStart d') es s) : RxSafe d' s := by
  have hinv : ∃ m, RxInv d'.stack s.received m s.dev := by
    refine hrun.invariant (I := fun s => ∃ m, RxInv d'.stack s.received m s.dev)
      ⟨0, RxInv.start hnull hfresh hopen⟩ fun {u ev v} hu hen hex => ?_
    obtain ⟨m, hm⟩ := hu
    obtain ⟨v', m', hv', h'⟩ := hm.step hen.1 hen.2
    obtain rfl : v' = v := Except.ok.inj (hv'.symm.trans hex)
    exact ⟨m', h'⟩
  obtain ⟨m, hm⟩ := hinv
  exact hm.safe

/-- A frame of 60 equal bytes. -/
def frameOf (b : UInt8) : RxFrame where
  bytes := List.replicate 60 b
  flags := 0
  fits := by simp only [List.length_replicate, PKT_BUF_LEN]; omega
  flags_lt := by decide

theorem probedDev_rxFresh : RxFresh probedDev := by
  refine ⟨fun i _ => ?_, rfl⟩
  show XdmaResult.isCompleted { status := 0, length := 0 } = false
  decide

/-- An open leaves the C2H engine running. -/
theorem axNetOpen_pc_ne_none {d d' : NetDev} (hopen : axNetOpen d = .ok d')
    (hnull : NoTransferYet d) : d'.engineC2h.hw.pc ≠ none := by
  obtain ⟨-, -, -, desc, t, he, -⟩ := axNetOpen_spec hopen hnull
  rw [he]
  exact Option.some_ne_none _

/-! ## A restart -/

theorem rxExec_complete {s : RxSys} {d : NetDev} {f : RxFrame} (h : c2hTransfer f s.dev = .ok d) :
    rxExec s (.complete f) = .ok { dev := d, received := s.received ++ [f.bytes] } := by
  simp only [rxExec, h]
  rfl

/-- The device fills a half. -/
theorem RxInv.run_half {base : List (List UInt8)} {s : RxSys} {m : ℕ}
    (h : RxInv base s.received m s.dev) (hpc : s.dev.engineC2h.hw.pc ≠ none)
    (hn : s.received.length % 512 = 0) (f : RxFrame) (j : ℕ) (hj : j ≤ 512) :
    ∃ s', rxMachine.Run s (List.replicate j (.complete f)) s' ∧
      s'.received = s.received ++ List.replicate j f.bytes ∧
      RxInv base s'.received m s'.dev ∧ (s'.dev.engineC2h.hw.pc = none ↔ j = 512) := by
  induction j with
  | zero =>
      refine ⟨s, .nil, by simp, h, ?_⟩
      exact ⟨fun hnone => absurd hnone hpc, fun h0 => by omega⟩
  | succ j ih =>
      obtain ⟨s', hrun, hrecv, h', hpc'⟩ := ih (by omega)
      have hne : s'.dev.engineC2h.hw.pc ≠ none := fun hnone => by
        have := hpc'.mp hnone
        omega
      obtain ⟨d, hd, hpcd, hd'⟩ := h'.complete hne f
      refine ⟨{ dev := d, received := s'.received ++ [f.bytes] }, ?_, ?_, hd', ?_⟩
      · rw [List.replicate_succ']
        exact hrun.snoc hne (rxExec_complete hd)
      · simp only [hrecv, List.replicate_succ', List.append_assoc]
      · rw [hpcd, hrecv, List.length_append, List.length_replicate]
        omega

/-- An engine that has no descriptor to process has finished a half. -/
theorem RxInv.halfDone {base received : List (List UInt8)} {m : ℕ} {d : NetDev}
    (h : RxInv base received m d) (hpc : d.engineC2h.hw.pc = none) :
    ∃ t, RxRing d.engineC2h t ∧ HalfDone t d.engineC2h received.length := by
  obtain ⟨t, hr, hrec | hdone⟩ := h.phase
  · cases hrec.pc.symm.trans hpc
  · exact ⟨t, hr, hdone⟩

/-- The interrupt at the end of a half, as a step of the system. -/
theorem RxInv.exec_irq {base : List (List UInt8)} {s : RxSys} {m : ℕ} {t : XdmaTransfer}
    (h : RxInv base s.received m s.dev) (hr : RxRing s.dev.engineC2h t)
    (hdone : HalfDone t s.dev.engineC2h s.received.length) :
    rxEnabled s .irq ∧ rxExec s .irq = .ok { s with dev := { s.dev with
      engineC2h := restarted s.dev.engineC2h (turned t), napiScheduled := true } } := by
  have hreq : intRequest s.dev.engineC2h = true := by
    rw [intRequest, hdone.stopped, Bool.true_or]
  refine ⟨hreq, ?_⟩
  have hservice := serviceC2h_restart hr.transfer_eq (h.restarts_iff.mpr ⟨t, hr, hdone⟩)
  simp only [rxExec, xdmaChannelC2hIrq_eq, if_pos hreq, hservice]
  rfl

/-- A half is filled, and the interrupt restarts the engine while the driver keeps up. -/
theorem RxInv.run_restart {base : List (List UInt8)} {s : RxSys} {m : ℕ}
    (h : RxInv base s.received m s.dev) (hpc : s.dev.engineC2h.hw.pc ≠ none)
    (hn : s.received.length % 512 = 0) (hm : s.received.length ≤ m) (f : RxFrame) :
    ∃ u s', (rxMachine.restrict rxCond).Run s (List.replicate 512 (.complete f)) u ∧
      restartsC2h u.dev = true ∧ (rxMachine.restrict rxCond).Run u [.irq] s' ∧
      s'.received = s.received ++ List.replicate 512 f.bytes ∧ RxInv base s'.received m s'.dev ∧
      s'.dev.engineC2h.hw.pc ≠ none := by
  obtain ⟨u, hrun, hrecv, hu, hpcu⟩ := h.run_half hpc hn f 512 le_rfl
  obtain ⟨t, hr, hdone⟩ := hu.halfDone (hpcu.mpr rfl)
  have hyes : restartsC2h u.dev = true := hu.restarts_iff.mpr ⟨t, hr, hdone⟩
  have hkeeps : KeepsUp u.dev := by
    rw [hu.keepsUp_iff hr hdone, hrecv, List.length_append, List.length_replicate]
    omega
  obtain ⟨d, hd, h'⟩ := hu.irq fun _ => hkeeps
  rw [serviceC2h_restart hr.transfer_eq hyes] at hd
  obtain rfl := Except.ok.inj hd
  obtain ⟨hen, hex⟩ := hu.exec_irq hr hdone
  refine ⟨u, _, hrun.restrict fun ev hev v hirq => ?_, hyes,
    Machine.Run.single ⟨hen, fun _ _ => hkeeps⟩ hex, hrecv, h', Option.some_ne_none _⟩
  rw [List.eq_of_mem_replicate hev] at hirq
  cases hirq

/-- A half is filled, the engine is restarted, and one frame more is received before the poll. -/
theorem probedDev_restart :
    ∃ d' u s, axNetOpen probedDev = .ok d' ∧
      (rxMachine.restrict rxCond).Run (rxStart d') (List.replicate 512 (.complete (frameOf 0))) u ∧
      restartsC2h u.dev = true ∧
      (rxMachine.restrict rxCond).Run u [.irq, .complete (frameOf 1), .poll 64] s := by
  obtain ⟨d', hopen⟩ := axNetOpen_probedDev
  have hnull := probedDev_quiescent.toNoTransferYet
  obtain ⟨u, v, hrun, hyes, hirq, -, hv, hpc⟩ := RxInv.run_restart (s := rxStart d')
    (RxInv.start hnull probedDev_rxFresh hopen) (axNetOpen_pc_ne_none hopen hnull) rfl le_rfl
    (frameOf 0)
  obtain ⟨d, hd, -, hw⟩ := hv.complete hpc (frameOf 1)
  have hframe : (rxMachine.restrict rxCond).Run u [.irq, .complete (frameOf 1)]
      { dev := d, received := v.received ++ [(frameOf 1).bytes] } :=
    hirq.snoc ⟨hpc, fun hf => by cases hf⟩ (rxExec_complete hd)
  exact ⟨d', u, _, hopen, hrun, hyes, hframe.snoc ⟨hw.napi, fun hf => by cases hf⟩ rfl⟩

/-- The receive ring is in order along a run with a restart. -/
theorem rxMachine_safe_restart :
    ∃ d' u s, axNetOpen probedDev = .ok d' ∧
      (rxMachine.restrict rxCond).Run (rxStart d') (List.replicate 512 (.complete (frameOf 0))) u ∧
      restartsC2h u.dev = true ∧
      (rxMachine.restrict rxCond).Run u [.irq, .complete (frameOf 1), .poll 64] s ∧
      RxSafe d' s := by
  obtain ⟨d', u, s, hopen, hrun, hyes, hrun'⟩ := probedDev_restart
  exact ⟨d', u, s, hopen, hrun, hyes, hrun', rxMachine_safe probedDev_quiescent.toNoTransferYet
    probedDev_rxFresh hopen (hrun.append hrun')⟩

/-! ## Falling behind -/

/-- Two halves are filled and the engine is restarted on the first of them before the first poll. -/
def overrunTrace : List RxEvent :=
  List.replicate 512 (.complete (frameOf 0)) ++ [.irq] ++
    List.replicate 512 (.complete (frameOf 0)) ++ [.irq, .complete (frameOf 1), .poll 1]

/-- A poll with budget 1 that finds a marked entry. -/
theorem axNetPoll_one {d : NetDev} (h : (d.engineC2h.cyclicResult d.curRx).isCompleted = true) :
    (axNetPoll allocOk d 1).1.stack = d.stack ++
      [d.engineC2h.rxBytes d.curRx (d.engineC2h.cyclicResult d.curRx).length] := by
  simp only [axNetPoll, axNetRx, axNetRxLoop, h, allocOk, and_self, if_true, lt_irrefl, if_false]
  rfl

/-- A driver that is a whole lap behind when the engine is restarted gets the next frame in the
place of the oldest. -/
theorem RxInv.lapped {base : List (List UInt8)} {s : RxSys} {m : ℕ} {t : XdmaTransfer}
    (h : RxInv base s.received m s.dev) (hr : RxRing s.dev.engineC2h t)
    (hdone : HalfDone t s.dev.engineC2h s.received.length) (hlap : s.received.length = m + 1024)
    (f : RxFrame) :
    ∃ s', rxMachine.Run s [.irq, .complete f, .poll 1] s' ∧
      s'.dev.stack = s.dev.stack ++ [f.bytes] ∧ s'.received = s.received ++ [f.bytes] := by
  obtain ⟨hr', -, hpc'⟩ := hdone.restarted hr
  have hidx : s.received.length % 1024 = s.dev.curRx := by
    rw [h.curRx]
    omega
  rw [hidx] at hpc'
  have hcur : s.dev.curRx < 1024 := by
    rw [h.curRx]
    exact Nat.mod_lt _ (by decide)
  have hstep := c2hStep_eq hr' hcur hpc' f
  set e := restarted s.dev.engineC2h (turned t)
  set d₁ : NetDev := { s.dev with engineC2h := e, napiScheduled := true }
  set d₂ : NetDev := { d₁ with engineC2h := landed e s.dev.curRx f }
  obtain ⟨hen, hex⟩ := h.exec_irq hr hdone
  have hirq : rxMachine.Run s [.irq] { s with dev := d₁ } := Machine.Run.single hen hex
  have hrecv : rxMachine.Run s [.irq, .complete f]
      { dev := d₂, received := s.received ++ [f.bytes] } := by
    refine hirq.snoc (show e.hw.pc ≠ none from Option.some_ne_none _) ?_
    refine rxExec_complete (s := { s with dev := d₁ }) (d := d₂) ?_
    simp only [c2hTransfer, show d₁.engineC2h.c2hStep f = _ from hstep]
    rfl
  refine ⟨_, hrecv.snoc (show d₂.napiEnabled = true from h.napi) rfl, ?_, rfl⟩
  have hheld : HoldsFrame d₂.engineC2h d₂.curRx f.bytes := holdsFrame_landed e s.dev.curRx f
  show (axNetPoll allocOk d₂ 1).1.stack = _
  rw [axNetPoll_one hheld.marked, hheld.rxBytes]

/-- **Overrun.** The run `overrunTrace` of a freshly opened device passes the 1025th frame to the
stack first: the first 1024 frames have been overwritten or skipped. -/
theorem rxMachine_overrun :
    ∃ d' s, axNetOpen probedDev = .ok d' ∧ rxMachine.Run (rxStart d') overrunTrace s ∧
      s.dev.stack = d'.stack ++ [List.replicate 60 1] ∧
      ¬ [List.replicate 60 1] <+: s.received := by
  obtain ⟨d', hopen⟩ := axNetOpen_probedDev
  have hnull := probedDev_quiescent.toNoTransferYet
  have h₀ := RxInv.start hnull probedDev_rxFresh hopen
  -- the first half, and a restart with the driver still in step
  obtain ⟨s₁, s₂, hrun₁, -, hirq, hrecv₂, h₂, hpc₂⟩ := RxInv.run_restart (s := rxStart d') h₀
    (axNetOpen_pc_ne_none hopen hnull) rfl le_rfl (frameOf 0)
  have hrun₂ : rxMachine.Run (rxStart d') (_ ++ [.irq]) s₂ := (hrun₁.append hirq).of_restrict
  -- the second half, with nothing consumed
  have hlen₂ : s₂.received.length = 0 + 512 := by
    rw [hrecv₂, List.length_append, List.length_replicate]
    congr 1
  obtain ⟨s₃, hrun₃, hrecv₃, h₃, hpc₃⟩ := h₂.run_half hpc₂ (by rw [hlen₂]) (frameOf 0) 512 le_rfl
  have hall : s₃.received = List.replicate 1024 (List.replicate 60 0) := by
    rw [hrecv₃, hrecv₂]
    show [] ++ List.replicate 512 _ ++ List.replicate 512 _ = _
    rw [List.nil_append, ← List.replicate_add]
    rfl
  obtain ⟨t₃, hr₃, hdone₃⟩ := h₃.halfDone (hpc₃.mpr rfl)
  obtain ⟨s, hrun₄, hstack, hrecv⟩ := h₃.lapped hr₃ hdone₃ (by rw [hall, List.length_replicate])
    (frameOf 1)
  refine ⟨d', s, hopen, (hrun₂.append hrun₃).append hrun₄, ?_, ?_⟩
  · rw [hstack, h₃.stack, List.take_zero, List.append_nil]
    rfl
  · rw [hrecv, hall]
    rintro ⟨r, hr⟩
    rw [show (1024 : ℕ) = 1023 + 1 from rfl, List.replicate_succ] at hr
    have hhead : List.replicate 60 (1 : UInt8) = List.replicate 60 0 := (List.cons.inj hr).1
    exact absurd hhead (by decide)

end Axm57104.Net
