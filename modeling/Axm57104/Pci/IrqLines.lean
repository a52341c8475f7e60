import Mathlib.Data.List.Nodup
import Mathlib.Data.List.Range
import Mathlib.Data.List.TakeWhile
import Axm57104.Common.Ledger
import Axm57104.Net.State

/-!
# Interrupt lines over the life of a device

In MSI-X mode `irq_setup` requests one interrupt line per channel and per user interrupt, and
`irq_teardown` frees them. `xdma_device_open`, `xdma_device_offline`, `xdma_device_online` and
`xdma_device_close` call the two without asking in which state the lines are: going offline twice,
or closing a device that is offline, frees lines that are not requested. A line that is refused
makes `xdma_device_open` free lines it never got.

A line is a pair of a vector and a `dev_id`. `settle` books the calls of each function against the
set of the lines that are requested.
-/

namespace Axm57104.Pci

open Common Net

@[simp] abbrev MAX_USER_IRQ : ℕ := 16

instance maxUserIrq_neZero : NeZero MAX_USER_IRQ := ⟨Nat.succ_ne_zero 15⟩

/-! ## Lines -/

/-- The `dev_id` a line is requested with: the address of an engine or of a `user_irq`. -/
inductive IrqDevId
  | engineH2c (i : ℕ)
  | engineC2h (i : ℕ)
  | userIrq (i : ℕ)
  deriving DecidableEq

/-- A vector and a `dev_id`. -/
abbrev IrqLine := ℕ × IrqDevId

/-- The Linux interrupt numbers of the vectors of a device. Number 0 is not the number of a vector:
the driver uses it for a line that was not requested. -/
structure IrqVectors where
  pciIrqVector : ℕ → ℕ
  ne_zero : ∀ j, pciIrqVector j ≠ 0

/-- The parts of `xdma_dev` that `irq_setup` and `irq_teardown` use. `h2cLine` and `c2hLine` are the
fields `msix_irq_line` of the engines, `offline` is the flag `XDEV_FLAG_OFFLINE`. -/
structure IrqDev where
  h2cChannelMax : ℕ
  c2hChannelMax : ℕ
  userMax : ℕ
  h2cLine : ℕ → ℕ
  c2hLine : ℕ → ℕ
  offline : Bool
  h2c_le : h2cChannelMax ≤ XDMA_CHANNEL_NUM_MAX
  c2h_le : c2hChannelMax ≤ XDMA_CHANNEL_NUM_MAX
  userMax_pos : 0 < userMax
  user_le : userMax ≤ MAX_USER_IRQ

/-- The functions that serve the lines. -/
inductive IrqHandler
  | xdmaChannelH2cIrq
  | xdmaChannelH2cPtpIrq
  | xdmaChannelC2hIrq
  | xdmaUserIrq
  | xdmaUserIrqConfigChange
  | xdmaUserIrqTimerChange
  | xdmaUserIrqTimerValueChange
  deriving DecidableEq

/-- The handler of H2C channel `i`; the line of another channel is not requested. -/
def h2cHandler : ℕ → Option IrqHandler
  | 0 => some .xdmaChannelH2cIrq
  | 1 => some .xdmaChannelH2cPtpIrq
  | _ => none

def c2hHandler (_ : ℕ) : Option IrqHandler := some .xdmaChannelC2hIrq

/-- The handler of user interrupt `i`. -/
def userHandler (i : ℕ) : Option IrqHandler :=
  if i = 8 then some .xdmaUserIrqConfigChange
  else if i = 9 then some .xdmaUserIrqTimerChange
  else if i = 10 then some .xdmaUserIrqTimerValueChange
  else if i < 16 then some .xdmaUserIrq
  else none

section Calls

variable (v : IrqVectors) (refused : ℕ → Bool) (d : IrqDev)

def h2cIrqLine (i : ℕ) : IrqLine := (v.pciIrqVector i, .engineH2c i)

def c2hIrqLine (i : ℕ) : IrqLine := (v.pciIrqVector (d.h2cChannelMax + i), .engineC2h i)

def userIrqLine (i : ℕ) : IrqLine :=
  (v.pciIrqVector (d.h2cChannelMax + d.c2hChannelMax + i), .userIrq i)

/-- The indices below `n` that a loop over the vectors from `base` on gets through, before the first
one that `request_irq` refuses. -/
def granted (handler : ℕ → Option IrqHandler) (base n : ℕ) : List ℕ :=
  (List.range n).takeWhile fun i => !((handler i).isSome && refused (base + i))

/-- The loop was not left early. -/
def allGranted (handler : ℕ → Option IrqHandler) (base n : ℕ) : Bool :=
  (granted refused handler base n).length = n

/-- The calls of a loop, the line of `i` being requested if there is a handler for it. -/
def requestCalls (handler : ℕ → Option IrqHandler) (line : ℕ → IrqLine) (is : List ℕ) :
    List (Act IrqLine) :=
  (is.filter fun i => (handler i).isSome).map fun i => .take (line i)

/-! ## `irq_setup` and `irq_teardown` -/

/-- The H2C loop of `irq_msix_channel_setup`. -/
def irqMsixH2cSetup : List (Act IrqLine) × IrqDev × Bool :=
  let is := granted refused h2cHandler 0 d.h2cChannelMax
  (requestCalls h2cHandler (h2cIrqLine v) is,
    { d with h2cLine := fun i => if i ∈ is then v.pciIrqVector i else d.h2cLine i },
    allGranted refused h2cHandler 0 d.h2cChannelMax)

/-- The C2H loop of `irq_msix_channel_setup`. -/
def irqMsixC2hSetup : List (Act IrqLine) × IrqDev × Bool :=
  let is := granted refused c2hHandler d.h2cChannelMax d.c2hChannelMax
  (requestCalls c2hHandler (c2hIrqLine v d) is,
    { d with c2hLine := fun i =>
        if i ∈ is then v.pciIrqVector (d.h2cChannelMax + i) else d.c2hLine i },
    allGranted refused c2hHandler d.h2cChannelMax d.c2hChannelMax)

def irqMsixChannelSetup : List (Act IrqLine) × IrqDev × Bool :=
  match irqMsixH2cSetup v refused d with
  | (calls, d, false) => (calls, d, false)
  | (calls, d, true) =>
      let (calls', d, ok) := irqMsixC2hSetup v refused d
      (calls ++ calls', d, ok)

/-- The lines are given back, last first, if one is refused. -/
def irqMsixUserSetup : List (Act IrqLine) × Bool :=
  let base := d.h2cChannelMax + d.c2hChannelMax
  let is := granted refused userHandler base d.userMax
  let calls := requestCalls userHandler (userIrqLine v d) is
  if allGranted refused userHandler base d.userMax then (calls, true)
  else (calls ++ is.reverse.map fun i => .give (userIrqLine v d i), false)

/-- Each loop ends at the first engine whose `msix_irq_line` is 0. The field is never cleared. -/
def irqMsixChannelTeardown : List (Act IrqLine) :=
  (((List.range d.h2cChannelMax).takeWhile fun i => d.h2cLine i ≠ 0).map fun i =>
      .give (d.h2cLine i, .engineH2c i)) ++
    ((List.range d.c2hChannelMax).takeWhile fun i => d.c2hLine i ≠ 0).map fun i =>
      .give (d.c2hLine i, .engineC2h i)

def irqMsixUserTeardown : List (Act IrqLine) :=
  (List.range d.userMax).map fun i => .give (userIrqLine v d i)

def irqTeardown : List (Act IrqLine) := irqMsixChannelTeardown d ++ irqMsixUserTeardown v d

def irqSetup : List (Act IrqLine) × IrqDev × Bool :=
  match irqMsixChannelSetup v refused d with
  | (calls, d, false) => (calls, d, false)
  | (calls, d, true) =>
      let (calls', ok) := irqMsixUserSetup v refused d
      (calls ++ calls', d, ok)

end Calls

section Loops

variable {refused : ℕ → Bool} {handler : ℕ → Option IrqHandler} {line : ℕ → IrqLine} {base n i : ℕ}

theorem granted_of_allGranted (h : allGranted refused handler base n = true) :
    granted refused handler base n = List.range n := by
  refine (List.takeWhile_prefix _).eq_of_length ?_
  rw [List.length_range]
  exact of_decide_eq_true h

/-- A loop whose vectors all have a handler gets through exactly if none of them is refused. -/
theorem allGranted_iff (hh : ∀ i < n, (handler i).isSome) :
    allGranted refused handler base n = true ↔ ∀ i < n, refused (base + i) = false := by
  constructor
  · intro h i hi
    have hmem : i ∈ granted refused handler base n := by
      rw [granted_of_allGranted h]
      exact List.mem_range.mpr hi
    have hpass := List.mem_takeWhile_imp hmem
    rwa [hh i hi, Bool.true_and, Bool.not_eq_true'] at hpass
  · intro h
    refine decide_eq_true ?_
    have hall : granted refused handler base n = List.range n := by
      refine List.takeWhile_eq_self_iff.mpr fun i hi => ?_
      rw [h i (List.mem_range.mp hi), Bool.and_false, Bool.not_false]
    rw [hall, List.length_range]

theorem notMem_granted (hi : (handler i).isSome) (hr : refused (base + i) = true) :
    i ∉ granted refused handler base n := by
  intro hmem
  have hpass := List.mem_takeWhile_imp hmem
  rw [hi, hr] at hpass
  cases hpass

theorem requestCalls_range (hh : ∀ i < n, (handler i).isSome) :
    requestCalls handler line (List.range n) = ((List.range n).map line).map .take := by
  rw [requestCalls, List.filter_eq_self.mpr fun i hi => hh i (List.mem_range.mp hi), List.map_map]
  rfl

/-- A loop requests lines of its own only. -/
theorem line_of_mem_requestCalls {is : List ℕ} {k : IrqLine}
    (h : .take k ∈ requestCalls handler line is) : ∃ i ∈ is, line i = k := by
  obtain ⟨i, hi, heq⟩ := List.mem_map.mp h
  exact ⟨i, List.mem_of_mem_filter hi, Act.take.inj heq⟩

theorem h2cHandler_isSome (h : i < XDMA_CHANNEL_NUM_MAX) : (h2cHandler i).isSome := by
  match i, h with
  | 0, _ => rfl
  | 1, _ => rfl

theorem userHandler_isSome (h : i < MAX_USER_IRQ) : (userHandler i).isSome := by
  unfold userHandler
  split_ifs <;> rfl

end Loops

/-! ## What `irq_setup` and `irq_teardown` do -/

section Lines

variable (v : IrqVectors) (d : IrqDev)

def channelLines : List IrqLine :=
  (List.range d.h2cChannelMax).map (h2cIrqLine v) ++ (List.range d.c2hChannelMax).map (c2hIrqLine v d)

/-- The lines of a device. -/
def irqLines : List IrqLine := channelLines v d ++ (List.range d.userMax).map (userIrqLine v d)

/-- The number of vectors of a device. -/
def vectorCount : ℕ := d.h2cChannelMax + d.c2hChannelMax + d.userMax

/-- The engines know their lines. -/
structure LinesSet : Prop where
  h2c : ∀ i < d.h2cChannelMax, d.h2cLine i = v.pciIrqVector i
  c2h : ∀ i < d.c2hChannelMax, d.c2hLine i = v.pciIrqVector (d.h2cChannelMax + i)

theorem irqLines_nodup : (irqLines v d).Nodup := by
  refine List.Nodup.of_map Prod.snd ?_
  simp only [irqLines, channelLines, List.map_append, List.map_map]
  refine List.Nodup.append (List.Nodup.append ?_ ?_ ?_) ?_ ?_
  · exact List.nodup_range.map fun _ _ h => IrqDevId.engineH2c.inj h
  · exact List.nodup_range.map fun _ _ h => IrqDevId.engineC2h.inj h
  · intro a ha hb
    obtain ⟨_, _, rfl⟩ := List.mem_map.mp ha
    obtain ⟨_, _, h⟩ := List.mem_map.mp hb
    cases h
  · exact List.nodup_range.map fun _ _ h => IrqDevId.userIrq.inj h
  · intro a ha hb
    obtain ⟨_, _, rfl⟩ := List.mem_map.mp hb
    rcases List.mem_append.mp ha with ha | ha
    · obtain ⟨_, _, h⟩ := List.mem_map.mp ha
      cases h
    · obtain ⟨_, _, h⟩ := List.mem_map.mp ha
      cases h

variable {v d} {refused : ℕ → Bool}

theorem userIrqLine_mem {i : ℕ} (hi : i < d.userMax) : userIrqLine v d i ∈ irqLines v d :=
  List.mem_append_right _ (List.mem_map_of_mem (List.mem_range.mpr hi))

/-- `irq_teardown` frees every line, whether it is requested or not. -/
theorem give_mem_irqTeardown {i : ℕ} (hi : i < d.userMax) :
    .give (userIrqLine v d i) ∈ irqTeardown v d := by
  refine List.mem_append_right _ ?_
  exact List.mem_map_of_mem (f := fun i => Act.give (userIrqLine v d i)) (List.mem_range.mpr hi)

theorem take_notMem_irqTeardown {k : IrqLine} : .take k ∉ irqTeardown v d := by
  simp [irqTeardown, irqMsixChannelTeardown, irqMsixUserTeardown]

theorem irqTeardown_of_linesSet (h : LinesSet v d) :
    irqTeardown v d = (irqLines v d).map .give := by
  have hh2c : ((List.range d.h2cChannelMax).takeWhile fun i => d.h2cLine i ≠ 0) =
      List.range d.h2cChannelMax := by
    refine List.takeWhile_eq_self_iff.mpr fun i hi => ?_
    rw [h.h2c i (List.mem_range.mp hi)]
    exact decide_eq_true (v.ne_zero _)
  have hc2h : ((List.range d.c2hChannelMax).takeWhile fun i => d.c2hLine i ≠ 0) =
      List.range d.c2hChannelMax := by
    refine List.takeWhile_eq_self_iff.mpr fun i hi => ?_
    rw [h.c2h i (List.mem_range.mp hi)]
    exact decide_eq_true (v.ne_zero _)
  rw [irqTeardown, irqMsixChannelTeardown, hh2c, hc2h, irqLines, channelLines, irqMsixUserTeardown,
    List.map_append, List.map_append, List.map_map, List.map_map, List.map_map]
  congr 1
  congr 1
  · refine List.map_congr_left fun i hi => ?_
    rw [h.h2c i (List.mem_range.mp hi)]
    rfl
  · refine List.map_congr_left fun i hi => ?_
    rw [h.c2h i (List.mem_range.mp hi)]
    rfl

/-- The device after a successful `irq_setup`. -/
def withLines (v : IrqVectors) (d : IrqDev) : IrqDev :=
  { d with
    h2cLine := fun i => if i ∈ List.range d.h2cChannelMax then v.pciIrqVector i else d.h2cLine i
    c2hLine := fun i =>
      if i ∈ List.range d.c2hChannelMax then v.pciIrqVector (d.h2cChannelMax + i) else d.c2hLine i }

theorem withLines_linesSet : LinesSet v (withLines v d) :=
  ⟨fun _ hi => if_pos (List.mem_range.mpr hi), fun _ hi => if_pos (List.mem_range.mpr hi)⟩

/-- If no vector is refused, `irq_setup` requests every line, and the engines know theirs. -/
theorem irqSetup_of_accepted (h : ∀ j < vectorCount d, refused j = false) :
    irqSetup v refused d = ((irqLines v d).map .take, withLines v d, true) := by
  unfold vectorCount at h
  have hh2c : ∀ i < d.h2cChannelMax, (h2cHandler i).isSome := fun i hi =>
    h2cHandler_isSome (hi.trans_le d.h2c_le)
  have huser : ∀ i < d.userMax, (userHandler i).isSome := fun i hi =>
    userHandler_isSome (hi.trans_le d.user_le)
  have hg₁ : allGranted refused h2cHandler 0 d.h2cChannelMax = true :=
    (allGranted_iff hh2c).mpr fun i hi => h _ (by omega)
  have hg₂ : allGranted refused c2hHandler d.h2cChannelMax d.c2hChannelMax = true :=
    (allGranted_iff fun _ _ => rfl).mpr fun i hi => h _ (by omega)
  have hg₃ : allGranted refused userHandler (d.h2cChannelMax + d.c2hChannelMax) d.userMax = true :=
    (allGranted_iff huser).mpr fun i hi => h _ (by omega)
  have hchannel : irqMsixChannelSetup v refused d =
      ((channelLines v d).map .take, withLines v d, true) := by
    simp only [irqMsixChannelSetup, irqMsixH2cSetup, irqMsixC2hSetup, hg₁, hg₂,
      granted_of_allGranted hg₁, granted_of_allGranted hg₂]
    rw [requestCalls_range hh2c, requestCalls_range fun _ _ => rfl, channelLines, List.map_append]
    rfl
  have hloop : irqMsixUserSetup v refused (withLines v d) =
      (((List.range d.userMax).map (userIrqLine v d)).map .take, true) := by
    rw [← requestCalls_range huser, ← granted_of_allGranted hg₃]
    exact if_pos hg₃
  rw [irqSetup, hchannel]
  simp only [hloop]
  rw [irqLines, List.map_append]

/-- The loops over the channels request no user line. -/
theorem userIrq_notMem_channelSetup (v : IrqVectors) (refused : ℕ → Bool) (d : IrqDev) (k i : ℕ) :
    .take (k, .userIrq i) ∉ (irqMsixChannelSetup v refused d).1 := by
  have hh2c : ∀ is, .take (k, .userIrq i) ∉ requestCalls h2cHandler (h2cIrqLine v) is := by
    intro is h
    obtain ⟨_, _, heq⟩ := line_of_mem_requestCalls h
    cases heq
  have hc2h : ∀ d is, .take (k, .userIrq i) ∉ requestCalls c2hHandler (c2hIrqLine v d) is := by
    intro d is h
    obtain ⟨_, _, heq⟩ := line_of_mem_requestCalls h
    cases heq
  simp only [irqMsixChannelSetup, irqMsixH2cSetup]
  cases allGranted refused h2cHandler 0 d.h2cChannelMax with
  | false => exact hh2c _
  | true =>
      intro h
      rcases List.mem_append.mp h with h | h
      · exact hh2c _ h
      · exact hc2h _ _ h

/-- They leave the numbers of vectors as they are. -/
theorem irqMsixChannelSetup_counts (v : IrqVectors) (refused : ℕ → Bool) (d : IrqDev) :
    (irqMsixChannelSetup v refused d).2.1.h2cChannelMax = d.h2cChannelMax ∧
      (irqMsixChannelSetup v refused d).2.1.c2hChannelMax = d.c2hChannelMax ∧
      (irqMsixChannelSetup v refused d).2.1.userMax = d.userMax := by
  simp only [irqMsixChannelSetup, irqMsixH2cSetup]
  cases allGranted refused h2cHandler 0 d.h2cChannelMax with
  | false => exact ⟨rfl, rfl, rfl⟩
  | true => exact ⟨rfl, rfl, rfl⟩

/-- They get through only if no vector of a channel is refused. -/
theorem not_refused_of_channelSetup {j : ℕ} (h : (irqMsixChannelSetup v refused d).2.2 = true)
    (hj : j < d.h2cChannelMax + d.c2hChannelMax) : refused j = false := by
  have hh2c : ∀ i < d.h2cChannelMax, (h2cHandler i).isSome := fun i hi =>
    h2cHandler_isSome (hi.trans_le d.h2c_le)
  simp only [irqMsixChannelSetup, irqMsixH2cSetup] at h
  cases hg : allGranted refused h2cHandler 0 d.h2cChannelMax with
  | false =>
      rw [hg] at h
      cases h
  | true =>
      rw [hg] at h
      rcases Nat.lt_or_ge j d.h2cChannelMax with hlt | hge
      · have hok := (allGranted_iff hh2c).mp hg j hlt
        rwa [Nat.zero_add] at hok
      · have hok := (allGranted_iff fun _ _ => rfl).mp h (j - d.h2cChannelMax) (by
          show j - d.h2cChannelMax < d.c2hChannelMax
          omega)
        rwa [show d.h2cChannelMax + (j - d.h2cChannelMax) = j by omega] at hok

/-- The loop over the user interrupts fails at one that is refused, and does not request its line. -/
theorem irqMsixUserSetup_of_refused {i : ℕ} (hi : i < d.userMax)
    (hr : refused (d.h2cChannelMax + d.c2hChannelMax + i) = true) :
    (irqMsixUserSetup v refused d).2 = false ∧
      .take (userIrqLine v d i) ∉ (irqMsixUserSetup v refused d).1 := by
  have hnot : i ∉ granted refused userHandler (d.h2cChannelMax + d.c2hChannelMax) d.userMax :=
    notMem_granted (userHandler_isSome (hi.trans_le d.user_le)) hr
  have hg : ¬ allGranted refused userHandler (d.h2cChannelMax + d.c2hChannelMax) d.userMax = true := by
    intro hall
    rw [granted_of_allGranted hall] at hnot
    exact hnot (List.mem_range.mpr hi)
  rw [irqMsixUserSetup, if_neg hg]
  refine ⟨rfl, fun h => ?_⟩
  rcases List.mem_append.mp h with h | h
  · obtain ⟨k, hk, heq⟩ := line_of_mem_requestCalls h
    obtain rfl := IrqDevId.userIrq.inj (congrArg Prod.snd heq)
    exact hnot hk
  · obtain ⟨_, _, heq⟩ := List.mem_map.mp h
    cases heq

/-- A refused vector makes `irq_setup` fail, without one of the user lines. -/
theorem irqSetup_of_refused {j : ℕ} (hj : j < vectorCount d) (hr : refused j = true) :
    ∃ calls d' i, irqSetup v refused d = (calls, d', false) ∧ i < d'.userMax ∧
      .take (userIrqLine v d' i) ∉ calls := by
  obtain ⟨hh2c, hc2h, huser⟩ := irqMsixChannelSetup_counts v refused d
  have hnot := userIrq_notMem_channelSetup v refused d
  have hthrough : (irqMsixChannelSetup v refused d).2.2 = true →
      j < d.h2cChannelMax + d.c2hChannelMax → refused j = false := not_refused_of_channelSetup
  rw [irqSetup]
  generalize irqMsixChannelSetup v refused d = r at *
  obtain ⟨calls, d', ok⟩ := r
  simp only at hh2c hc2h huser
  cases ok with
  | false =>
      refine ⟨calls, d', 0, rfl, ?_, hnot _ _⟩
      rw [huser]
      exact d.userMax_pos
  | true =>
      -- the vector that is refused is the one of a user interrupt
      have hge : d.h2cChannelMax + d.c2hChannelMax ≤ j := by
        by_contra hlt
        rw [hthrough rfl (Nat.lt_of_not_le hlt)] at hr
        cases hr
      obtain ⟨i, rfl⟩ := Nat.exists_eq_add_of_le hge
      have hi : i < d'.userMax := by
        rw [vectorCount] at hj
        omega
      rw [← hh2c, ← hc2h] at hr
      obtain ⟨hfails, hnotUser⟩ := irqMsixUserSetup_of_refused (v := v) hi hr
      refine ⟨calls ++ (irqMsixUserSetup v refused d').1, d', i, ?_, hi, fun h => ?_⟩
      · simp only [hfails]
      · rcases List.mem_append.mp h with h | h
        · exact hnot _ _ h
        · exact hnotUser h

end Lines

/-! ## The operations on a device -/

/-- What `xdma_device_open` is called with, how many engines of each direction `probe_engines` then
finds, and which vectors `request_irq` refuses. -/
structure OpenArgs where
  userMax : ℕ
  h2cChannelMax : ℕ
  c2hChannelMax : ℕ
  h2cFound : ℕ
  c2hFound : ℕ
  refused : ℕ → Bool

/-- A number that is 0 or above the limit becomes the limit. -/
def limited (n max : ℕ) : ℕ := if n = 0 ∨ max < n then max else n

theorem limited_le (n max : ℕ) : limited n max ≤ max := by
  unfold limited
  split <;> omega

/-- The device when `xdma_device_open` comes to `irq_setup`. -/
def allocDevInstance (a : OpenArgs) : IrqDev where
  h2cChannelMax := min (limited a.h2cChannelMax XDMA_CHANNEL_NUM_MAX) a.h2cFound
  c2hChannelMax := min (limited a.c2hChannelMax XDMA_CHANNEL_NUM_MAX) a.c2hFound
  userMax := limited a.userMax MAX_USER_IRQ
  h2cLine _ := 0
  c2hLine _ := 0
  offline := true
  h2c_le := (min_le_left _ _).trans (limited_le _ _)
  c2h_le := (min_le_left _ _).trans (limited_le _ _)
  userMax_pos := by
    simp only [limited, MAX_USER_IRQ]
    split <;> omega
  user_le := limited_le _ _

section Operations

variable (v : IrqVectors)

/-- From `irq_setup` on. A failure unwinds through `irq_teardown`. -/
def xdmaDeviceOpen (a : OpenArgs) : List (Act IrqLine) × Option IrqDev :=
  match irqSetup v a.refused (allocDevInstance a) with
  | (calls, d, true) => (calls, some { d with offline := false })
  | (calls, d, false) => (calls ++ irqTeardown v d, none)

def xdmaDeviceClose (d : IrqDev) : List (Act IrqLine) := irqTeardown v d

def xdmaDeviceOffline (d : IrqDev) : List (Act IrqLine) × IrqDev :=
  (irqTeardown v d, { d with offline := true })

/-- The result of `irq_setup` is not looked at; no request is refused here. -/
def xdmaDeviceOnline (d : IrqDev) : List (Act IrqLine) × IrqDev :=
  let (calls, d, _) := irqSetup v (fun _ => false) d
  (calls, { d with offline := false })

/-! ## The system -/

/-- `pci_channel_state_t`. -/
inductive PciChannelState
  | ioNormal
  | ioFrozen
  | ioPermFailure

inductive PciEvent
  | probe (a : OpenArgs)
  | errorDetected (state : PciChannelState)
  | slotReset (enabled : Bool)
  | resetPrepare
  | resetDone
  | remove

/-- The open device, if there is one, and the lines that are requested. -/
structure PciState where
  dev : Option IrqDev
  held : Finset IrqLine

/-- What each callback of the PCI core does with the lines, for a device that is open. -/
def pciCalls (d : IrqDev) : PciEvent → List (Act IrqLine) × Option IrqDev
  | .probe _ => ([], some d)
  | .errorDetected .ioFrozen => (xdmaDeviceOffline v d).map id some
  | .errorDetected _ => ([], some d)
  | .slotReset true => (xdmaDeviceOnline v d).map id some
  | .slotReset false => ([], some d)
  | .resetPrepare => (xdmaDeviceOffline v d).map id some
  | .resetDone => (xdmaDeviceOnline v d).map id some
  | .remove => (xdmaDeviceClose v d, none)

def pciStep : Option IrqDev → PciEvent → List (Act IrqLine) × Option IrqDev
  | none, .probe a => xdmaDeviceOpen v a
  | none, _ => ([], none)
  | some d, e => pciCalls v d e

def pciExec (s : PciState) (e : PciEvent) : Except (LedgerFault IrqLine) PciState := do
  let held ← settle (pciStep v s.dev e).1 s.held
  .ok ⟨(pciStep v s.dev e).2, held⟩

/-- A device is probed when it is not open, the other callbacks are for an open device. -/
def pciEnabled (s : PciState) : PciEvent → Prop
  | .probe _ => s.dev = none
  | _ => s.dev.isSome

def pciMachine : Machine PciState PciEvent (LedgerFault IrqLine) where
  enabled := pciEnabled
  exec := pciExec v

/-- None of the vectors is refused when the device is opened, it goes offline and is removed while
it is online, and it comes online while it is offline. -/
def pciCond (s : PciState) : PciEvent → Prop
  | .probe a => ∀ j < vectorCount (allocDevInstance a), a.refused j = false
  | .errorDetected .ioFrozen | .resetPrepare | .remove => ∀ d ∈ s.dev, d.offline = false
  | .slotReset true | .resetDone => ∀ d ∈ s.dev, d.offline = true
  | _ => True

instance pciEnabled_decidable (s : PciState) :
    (e : PciEvent) → Decidable ((pciMachine v).enabled s e)
  | .probe _ => inferInstanceAs (Decidable (s.dev = none))
  | .errorDetected _ | .slotReset _ | .resetPrepare | .resetDone | .remove =>
      inferInstanceAs (Decidable (s.dev.isSome = true))

instance pciCond_decidable (s : PciState) : (e : PciEvent) → Decidable (pciCond s e)
  | .probe a =>
      inferInstanceAs (Decidable (∀ j < vectorCount (allocDevInstance a), a.refused j = false))
  | .errorDetected .ioFrozen | .resetPrepare | .remove =>
      inferInstanceAs (Decidable (∀ d ∈ s.dev, d.offline = false))
  | .slotReset true | .resetDone => inferInstanceAs (Decidable (∀ d ∈ s.dev, d.offline = true))
  | .errorDetected .ioNormal | .errorDetected .ioPermFailure | .slotReset false =>
      inferInstanceAs (Decidable True)

/-! ## The invariant -/

/-- The lines of an open device are requested unless it is offline, and no other line is. -/
structure PciInv (s : PciState) : Prop where
  closed : s.dev = none → s.held = ∅
  linesSet : ∀ d ∈ s.dev, LinesSet v d
  held : ∀ d ∈ s.dev, s.held = if d.offline then ∅ else (irqLines v d).toFinset

end Operations

section Steps

variable {v : IrqVectors} {s : PciState} {d : IrqDev} {held : Finset IrqLine} {e : PciEvent}

/-- Tearing down is balanced exactly if the device is online. -/
theorem settle_irqTeardown (hl : LinesSet v d)
    (hheld : held = if d.offline then ∅ else (irqLines v d).toFinset) :
    (d.offline = false → settle (irqTeardown v d) held = .ok ∅) ∧
      (d.offline = true → ∀ held', settle (irqTeardown v d) held ≠ .ok held') := by
  rw [irqTeardown_of_linesSet hl]
  constructor
  · intro hon
    rw [hheld, hon, if_neg Bool.false_ne_true, settle_gives (irqLines_nodup v d), Finset.sdiff_self]
    exact fun k hk => List.mem_toFinset.mpr hk
  · intro hoff held' h
    rw [hheld, hoff, if_pos rfl] at h
    have hk := userIrqLine_mem (v := v) d.userMax_pos
    rcases held_of_give h (List.mem_map_of_mem hk) with hmem | htake
    · exact Finset.notMem_empty _ hmem
    · obtain ⟨_, _, heq⟩ := List.mem_map.mp htake
      cases heq

/-- Setting up is balanced exactly if the device is offline. -/
theorem settle_irqLines_take (hheld : held = if d.offline then ∅ else (irqLines v d).toFinset) :
    (d.offline = true →
        settle ((irqLines v d).map .take) held = .ok (irqLines v d).toFinset) ∧
      (d.offline = false → ∀ held', settle ((irqLines v d).map .take) held ≠ .ok held') := by
  constructor
  · intro hoff
    rw [hheld, hoff, if_pos rfl, settle_takes (irqLines_nodup v d), Finset.empty_union]
    exact fun k _ => Finset.notMem_empty k
  · intro hon held' h
    rw [hheld, hon, if_neg Bool.false_ne_true] at h
    have hk := userIrqLine_mem (v := v) d.userMax_pos
    rcases free_of_take h (List.mem_map_of_mem hk) with hfree | hgive
    · exact hfree (List.mem_toFinset.mpr hk)
    · obtain ⟨_, _, heq⟩ := List.mem_map.mp hgive
      cases heq

/-- The device after `xdma_device_open` or `xdma_device_online`. -/
def online (v : IrqVectors) (d : IrqDev) : IrqDev := { withLines v d with offline := false }

theorem online_linesSet : LinesSet v (online v d) :=
  ⟨(withLines_linesSet (d := d)).h2c, (withLines_linesSet (d := d)).c2h⟩

theorem xdmaDeviceOnline_eq :
    xdmaDeviceOnline v d = ((irqLines v d).map .take, online v d) := by
  rw [xdmaDeviceOnline, irqSetup_of_accepted fun _ _ => rfl]
  rfl

/-- A step is balanced exactly if it meets the condition, and it keeps the invariant then. -/
def StepsWhen (v : IrqVectors) (s : PciState) (e : PciEvent) : Prop :=
  (pciCond s e ∧ ∃ t, pciExec v s e = .ok t ∧ PciInv v t) ∨
    (¬ pciCond s e ∧ ∀ t, pciExec v s e ≠ .ok t)

theorem pciExec_of_settle {calls : List (Act IrqLine)} {dev : Option IrqDev} {held' : Finset IrqLine}
    (hstep : pciStep v s.dev e = (calls, dev)) (h : settle calls s.held = .ok held') :
    pciExec v s e = .ok ⟨dev, held'⟩ := by
  rw [pciExec, hstep, h]
  rfl

theorem pciExec_ne_ok {calls : List (Act IrqLine)} {dev : Option IrqDev}
    (hstep : pciStep v s.dev e = (calls, dev)) (h : ∀ held', settle calls s.held ≠ .ok held')
    (t : PciState) : pciExec v s e ≠ .ok t := by
  intro hex
  rw [pciExec, hstep, bind_eq_ok] at hex
  obtain ⟨held', hheld, -⟩ := hex
  exact h held' hheld

theorem PciInv.opened (hl : LinesSet v d)
    (hheld : held = if d.offline then ∅ else (irqLines v d).toFinset) :
    PciInv v ⟨some d, held⟩ := by
  refine ⟨nofun, ?_, ?_⟩
  · rintro _ ⟨⟩
    exact hl
  · rintro _ ⟨⟩
    exact hheld

theorem PciInv.empty : PciInv v ⟨none, ∅⟩ :=
  ⟨fun _ => rfl, nofun, nofun⟩

theorem stepsWhen_probe {a : OpenArgs} (h : PciInv v s) (hdev : s.dev = none) :
    StepsWhen v s (.probe a) := by
  have hempty := h.closed hdev
  by_cases hcond : pciCond s (.probe a)
  · refine .inl ⟨hcond, ⟨some (online v (allocDevInstance a)),
      (irqLines v (allocDevInstance a)).toFinset⟩, ?_, .opened online_linesSet rfl⟩
    have hstep : pciStep v s.dev (.probe a) = ((irqLines v (allocDevInstance a)).map .take,
        some (online v (allocDevInstance a))) := by
      rw [hdev, pciStep, xdmaDeviceOpen, irqSetup_of_accepted hcond]
      rfl
    exact pciExec_of_settle hstep ((settle_irqLines_take hempty).1 rfl)
  · refine .inr ⟨hcond, ?_⟩
    obtain ⟨j, hj, hr⟩ : ∃ j < vectorCount (allocDevInstance a), a.refused j = true := by
      by_contra hnone
      refine hcond fun j hj => ?_
      by_contra hr
      exact hnone ⟨j, hj, Bool.of_not_eq_false hr⟩
    obtain ⟨calls, d', i, hsetup, hi, hnot⟩ := irqSetup_of_refused (v := v) hj hr
    have hstep : pciStep v s.dev (.probe a) = (calls ++ irqTeardown v d', none) := by
      rw [hdev, pciStep, xdmaDeviceOpen, hsetup]
    refine pciExec_ne_ok hstep fun held' hset => ?_
    rw [hempty] at hset
    rcases held_of_give hset (List.mem_append_right _ (give_mem_irqTeardown hi)) with hmem | htake
    · exact Finset.notMem_empty _ hmem
    · rcases List.mem_append.mp htake with htake | htake
      · exact hnot htake
      · exact take_notMem_irqTeardown htake

/-- Going offline, in either way. -/
theorem stepsWhen_offline (h : PciInv v s) (hdev : s.dev = some d)
    (hstep : pciStep v s.dev e = (irqTeardown v d, some { d with offline := true }))
    (hcond : pciCond s e ↔ d.offline = false) : StepsWhen v s e := by
  have hset := settle_irqTeardown (h.linesSet d hdev) (h.held d hdev)
  cases hoff : d.offline with
  | false =>
      refine .inl ⟨hcond.mpr hoff, _, pciExec_of_settle hstep (hset.1 hoff), .opened ?_ rfl⟩
      exact ⟨(h.linesSet d hdev).h2c, (h.linesSet d hdev).c2h⟩
  | true =>
      refine .inr ⟨fun hc => ?_, pciExec_ne_ok hstep (hset.2 hoff)⟩
      rw [hcond, hoff] at hc
      cases hc

/-- Coming online, in either way. -/
theorem stepsWhen_online (h : PciInv v s) (hdev : s.dev = some d)
    (hstep : pciStep v s.dev e = ((irqLines v d).map .take, some (online v d)))
    (hcond : pciCond s e ↔ d.offline = true) : StepsWhen v s e := by
  have hset := settle_irqLines_take (h.held d hdev)
  cases hoff : d.offline with
  | true =>
      exact .inl ⟨hcond.mpr hoff, _, pciExec_of_settle hstep (hset.1 hoff),
        .opened online_linesSet rfl⟩
  | false =>
      refine .inr ⟨fun hc => ?_, pciExec_ne_ok hstep (hset.2 hoff)⟩
      rw [hcond, hoff] at hc
      cases hc

theorem stepsWhen_remove (h : PciInv v s) (hdev : s.dev = some d) : StepsWhen v s .remove := by
  have hset := settle_irqTeardown (h.linesSet d hdev) (h.held d hdev)
  have hstep : pciStep v s.dev .remove = (irqTeardown v d, none) := by
    rw [hdev]
    rfl
  cases hoff : d.offline with
  | false =>
      refine .inl ⟨?_, _, pciExec_of_settle hstep (hset.1 hoff), .empty⟩
      intro d' hd'
      rw [hdev] at hd'
      cases hd'
      exact hoff
  | true =>
      refine .inr ⟨fun hc => ?_, pciExec_ne_ok hstep (hset.2 hoff)⟩
      have hon := hc d hdev
      rw [hoff] at hon
      cases hon

/-- A callback that leaves the lines alone. -/
theorem stepsWhen_nop (h : PciInv v s) (hstep : pciStep v s.dev e = ([], s.dev)) (hcond : pciCond s e) :
    StepsWhen v s e :=
  .inl ⟨hcond, s, pciExec_of_settle hstep rfl, h⟩

theorem stepsWhen (h : PciInv v s) (hen : pciEnabled s e) : StepsWhen v s e := by
  cases hdev : s.dev with
  | none =>
      cases e with
      | probe a => exact stepsWhen_probe h hdev
      | _ =>
          have hopen : s.dev.isSome := hen
          rw [hdev] at hopen
          cases hopen
  | some d =>
      have hall : ∀ b, (∀ d' ∈ s.dev, d'.offline = b) ↔ d.offline = b := by
        intro b
        constructor
        · exact fun h => h d hdev
        · intro h d' hd'
          rw [hdev] at hd'
          cases hd'
          exact h
      cases e with
      | probe a =>
          rw [pciEnabled, hdev] at hen
          cases hen
      | errorDetected state =>
          cases state with
          | ioFrozen =>
              refine stepsWhen_offline h hdev ?_ (hall false)
              rw [hdev]
              rfl
          | ioNormal =>
              refine stepsWhen_nop h ?_ trivial
              rw [hdev]
              rfl
          | ioPermFailure =>
              refine stepsWhen_nop h ?_ trivial
              rw [hdev]
              rfl
      | slotReset enabled =>
          cases enabled with
          | true =>
              refine stepsWhen_online h hdev ?_ (hall true)
              rw [hdev, pciStep, pciCalls, xdmaDeviceOnline_eq]
              rfl
          | false =>
              refine stepsWhen_nop h ?_ trivial
              rw [hdev]
              rfl
      | resetPrepare =>
          refine stepsWhen_offline h hdev ?_ (hall false)
          rw [hdev]
          rfl
      | resetDone =>
          refine stepsWhen_online h hdev ?_ (hall true)
          rw [hdev, pciStep, pciCalls, xdmaDeviceOnline_eq]
          rfl
      | remove => exact stepsWhen_remove h hdev

end Steps

/-! ## Every run -/

/-- In every run in which no line is refused and the device goes offline, comes online and is removed
in turn, a device that is not open has no line; and in each of its states a callback is balanced if
and only if it keeps to this. -/
theorem pciMachine_balanced (v : IrqVectors) {es : List PciEvent} {s : PciState}
    (hr : ((pciMachine v).restrict pciCond).Run ⟨none, ∅⟩ es s) :
    (s.dev = none → s.held = ∅) ∧
      ∀ e, pciEnabled s e → ((∃ t, pciExec v s e = .ok t) ↔ pciCond s e) := by
  have hinv : PciInv v s := by
    refine hr.invariant .empty fun h hen hex => ?_
    rcases stepsWhen h hen.1 with ⟨-, t, ht, hinv⟩ | ⟨-, hfault⟩
    · rw [Machine.restrict_exec] at hex
      obtain rfl := Except.ok.inj (ht.symm.trans hex)
      exact hinv
    · exact absurd hex (hfault _)
  refine ⟨hinv.closed, fun e hen => ?_⟩
  rcases stepsWhen hinv hen with ⟨hcond, t, ht, -⟩ | ⟨hcond, hfault⟩
  · exact ⟨fun _ => hcond, fun _ => ⟨t, ht⟩⟩
  · exact ⟨fun ⟨t, ht⟩ => absurd ht (hfault t), fun hc => absurd hc hcond⟩

/-- Vectors numbered from 1 on. -/
def someVectors : IrqVectors := ⟨fun j => j + 1, fun _ => Nat.succ_ne_zero _⟩

/-- What `axm57104_probe` passes to `xdma_device_open`, on a card with all its engines. -/
def probeArgs (refused : ℕ → Bool) : OpenArgs := ⟨MAX_USER_IRQ, 2, 1, 2, 1, refused⟩

/-- A reset, an error that is recovered from, and the removal of the card. -/
def recovered : List PciEvent :=
  [.probe (probeArgs fun _ => false), .resetPrepare, .resetDone, .errorDetected .ioFrozen,
    .slotReset true, .remove]

theorem pciMachine_balanced_recovered :
    ∃ s, ((pciMachine someVectors).restrict pciCond).Run ⟨none, ∅⟩ recovered s ∧ s.dev = none ∧
      s.held = ∅ := by
  have hsome : (((pciMachine someVectors).restrict pciCond).replay ⟨none, ∅⟩ recovered).isSome =
      true := by decide +kernel
  have hrun := Machine.Run.of_isSome hsome ⟨none, ∅⟩
  have hdev : ((((pciMachine someVectors).restrict pciCond).replay ⟨none, ∅⟩ recovered).getD
      ⟨none, ∅⟩).dev = none := by decide +kernel
  exact ⟨_, hrun, hdev, (pciMachine_balanced someVectors hrun).1 hdev⟩

/-- The slot could not be enabled again after an error. -/
def notRecovered : List PciEvent :=
  [.probe (probeArgs fun _ => false), .errorDetected .ioFrozen, .slotReset false]

/-- The removal of a card that was not recovered frees lines that are not requested, and so does a
probe in which the vector of a channel, or of a user interrupt, is refused. -/
theorem pciMachine_unbalanced :
    (∃ s, (pciMachine someVectors).Run ⟨none, ∅⟩ notRecovered s ∧
      (pciMachine someVectors).enabled s .remove ∧
      (pciExec someVectors s .remove).isOk = false) ∧
    (pciExec someVectors ⟨none, ∅⟩ (.probe (probeArgs fun j => j = 1))).isOk = false ∧
    (pciExec someVectors ⟨none, ∅⟩ (.probe (probeArgs fun j => j = 8))).isOk = false := by
  have hsome : ((pciMachine someVectors).replay ⟨none, ∅⟩ notRecovered).isSome = true := by
    decide +kernel
  refine ⟨⟨_, Machine.Run.of_isSome hsome ⟨none, ∅⟩, ?_, ?_⟩, ?_, ?_⟩
  · decide +kernel
  · decide +kernel
  · decide +kernel
  · decide +kernel

end Axm57104.Pci
