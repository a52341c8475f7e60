import Axm57104.Common.Leading
import Axm57104.Net.Open
import Axm57104.Net.Rx

/-!
# What one call of `ax_net_rx` does

The loop of `ax_net_rx` stops at the first entry that is not marked, at the budget, or at the first
`skb` that cannot be allocated. Clearing an entry is also what ends the loop on a ring that is
marked all around. `axNetRxLoop_delivers` says what a call has then done. `ax_net_poll` stops
polling if the budget is not used up; that may also come from an `skb` that could not be allocated
(`PollDrains`).
-/

namespace Axm57104.Net

open Common Xdma

/-! ## The loop as it is written -/

/-- The variables of the loop of `ax_net_rx`. -/
structure RxLoop where
  dev : NetDev
  entry : ℕ
  workDone : ℕ

/-- One iteration of the `while` loop of `ax_net_rx`: it goes on, or the function returns. -/
def axNetRxIter (alloc : ℕ → Bool) (budget : ℕ) (s : RxLoop) : RxLoop ⊕ NetDev × ℕ :=
  if (s.dev.engineC2h.cyclicResult s.entry).isCompleted ∧ budget ≠ 0 then
    if budget ≤ s.workDone then .inr ({ s.dev with curRx := s.entry }, s.workDone)
    else if alloc s.workDone = false then
      -- the early return stores the cursor itself
      .inr ({ s.dev with curRx := s.entry }, s.workDone)
    else
      .inl ⟨axNetRxFrame s.dev s.entry, (s.entry + 1) % RX_DESC_NUM, s.workDone + 1⟩
  else .inr ({ s.dev with curRx := s.entry }, s.workDone)

/-- At most `fuel` iterations of the loop; `none` if it has not returned by then. -/
def axNetRxWhile (alloc : ℕ → Bool) (budget : ℕ) : ℕ → RxLoop → Option (NetDev × ℕ)
  | 0, _ => none
  | fuel + 1, s =>
      match axNetRxIter alloc budget s with
      | .inl s' => axNetRxWhile alloc budget fuel s'
      | .inr r => some r

/-- The loop returns, with what `ax_net_rx` leaves, after at most one iteration more than the budget
has left. -/
theorem axNetRxWhile_eq (alloc : ℕ → Bool) {budget : ℕ} (fuel : ℕ) :
    ∀ {s : RxLoop}, budget - s.workDone < fuel → axNetRxWhile alloc budget fuel s =
      some (axNetRxLoop alloc (budget - s.workDone) s.dev s.entry s.workDone) := by
  induction fuel with
  | zero => exact fun h => absurd h (Nat.not_lt_zero _)
  | succ fuel ih =>
      intro s hfuel
      rw [axNetRxWhile]
      cases hrest : budget - s.workDone with
      | zero =>
          have hiter : axNetRxIter alloc budget s =
              .inr ({ s.dev with curRx := s.entry }, s.workDone) := by
            rw [axNetRxIter, if_pos (show budget ≤ s.workDone by omega), ite_self]
          rw [hiter]
          rfl
      | succ rest =>
          have hbudget : budget ≠ 0 := by omega
          have hgo : ¬ budget ≤ s.workDone := by omega
          rw [axNetRxLoop]
          by_cases hmark : (s.dev.engineC2h.cyclicResult s.entry).isCompleted = true
          · cases halloc : alloc s.workDone with
            | false =>
                simp only [axNetRxIter, hmark, hbudget, hgo, halloc, ne_eq, not_false_eq_true,
                  and_self, if_true, if_false, Bool.false_eq_true, and_false]
            | true =>
                have hiter : axNetRxIter alloc budget s = .inl ⟨axNetRxFrame s.dev s.entry,
                    (s.entry + 1) % RX_DESC_NUM, s.workDone + 1⟩ := by
                  simp only [axNetRxIter, hmark, hbudget, hgo, halloc, ne_eq, not_false_eq_true,
                    and_self, if_true, if_false, Bool.true_eq_false]
                have hrest' : budget - (s.workDone + 1) = rest := by omega
                rw [hiter, if_pos ⟨hmark, rfl⟩]
                simp only
                rw [ih (by simp only; omega), hrest']
          · rw [axNetRxIter, if_neg fun h => hmark h.1, if_neg fun h => hmark h.1]

/-! ## What the loop has done -/

/-- The length of the circular run of marked entries from `entry` on. -/
def runLength (e : XdmaEngine) (entry : ℕ) : ℕ :=
  leading (fun j => (e.cyclicResult ((entry + j) % RX_DESC_NUM)).isCompleted) RX_DESC_NUM

/-- The number of allocations that succeed before the first one fails, of the first `n` from the
`workDone`-th on. -/
def allocsBefore (alloc : ℕ → Bool) (workDone n : ℕ) : ℕ :=
  leading (fun i => alloc (workDone + i)) n

/-- The number of frames that `ax_net_rx` passes on. -/
def rxCount (alloc : ℕ → Bool) (e : XdmaEngine) (entry workDone rest : ℕ) : ℕ :=
  min rest (min (runLength e entry) (allocsBefore alloc workDone rest))

/-- The `m` entries from `entry` on have been passed on, entry `i` as the frame `frame i`, and
nothing else has changed but the cursor. The counters wrap around at their widths. -/
structure RxDelivers (frame : ℕ → List UInt8) (d : NetDev) (entry m : ℕ) (d' : NetDev) : Prop where
  stack : d'.stack = d.stack ++ (List.range m).map fun j => frame ((entry + j) % RX_DESC_NUM)
  cleared : ∀ j < m,
    d'.engineC2h.cyclicResult ((entry + j) % RX_DESC_NUM) = { status := 0, length := 0 }
  untouched : ∀ i, (∀ j < m, i ≠ (entry + j) % RX_DESC_NUM) →
    d'.engineC2h.cyclicResult i = d.engineC2h.cyclicResult i
  rxPackets : d'.rxPackets = d.rxPackets + UInt64.ofNat m
  curRxPktCount : d'.curRxPktCount = d.curRxPktCount + UInt32.ofNat m
  rxBytes : d'.rxBytes = d.rxBytes + UInt64.ofNat
    ((List.range m).map fun j => (d.engineC2h.cyclicResult ((entry + j) % RX_DESC_NUM)).length).sum
  others : d' = { d with
    stack := d'.stack
    rxPackets := d'.rxPackets
    curRxPktCount := d'.curRxPktCount
    rxBytes := d'.rxBytes
    curRx := d'.curRx
    engineC2h := { d.engineC2h with cyclicResult := d'.engineC2h.cyclicResult } }

/-- The bytes that `ax_net_rx` copies for an entry. -/
def copied (e : XdmaEngine) (i : ℕ) : List UInt8 := e.rxBytes i (e.cyclicResult i).length

section Loop

variable {d d' : NetDev} {entry m : ℕ} {alloc : ℕ → Bool} {workDone : ℕ}

theorem next_add (entry j : ℕ) :
    ((entry + 1) % RX_DESC_NUM + j) % RX_DESC_NUM = (entry + (j + 1)) % RX_DESC_NUM := by
  simp only [RX_DESC_NUM]
  omega

theorem first_entry (hentry : entry < RX_DESC_NUM) : (entry + 0) % RX_DESC_NUM = entry :=
  Nat.mod_eq_of_lt hentry

/-- An iteration leaves the other entries as they are. -/
theorem cyclicResult_axNetRxFrame {i : ℕ} (hi : i ≠ entry) :
    (axNetRxFrame d entry).engineC2h.cyclicResult i = d.engineC2h.cyclicResult i :=
  Function.update_of_ne hi _ _

theorem copied_axNetRxFrame {i : ℕ} (hi : i ≠ entry) :
    copied (axNetRxFrame d entry).engineC2h i = copied d.engineC2h i := by
  rw [copied, cyclicResult_axNetRxFrame hi]
  rfl

/-- No entry has been passed on. -/
theorem RxDelivers.none (d : NetDev) (entry cur : ℕ) :
    RxDelivers (copied d.engineC2h) d entry 0 { d with curRx := cur } :=
  ⟨(List.append_nil _).symm, fun _ hj => absurd hj (Nat.not_lt_zero _), fun _ _ => rfl,
    (UInt64.add_zero _).symm, (UInt32.add_zero _).symm, (UInt64.add_zero _).symm, rfl⟩

/-- The first iteration, and what the others have done after it. -/
theorem RxDelivers.cons (hentry : entry < RX_DESC_NUM) (hm : m < RX_DESC_NUM)
    (h : RxDelivers (copied (axNetRxFrame d entry).engineC2h) (axNetRxFrame d entry)
      ((entry + 1) % RX_DESC_NUM) m d') :
    RxDelivers (copied d.engineC2h) d entry (m + 1) d' := by
  have hfirst := first_entry hentry
  -- the later entries are not the one that is cleared first
  have hne : ∀ j ∈ List.range m, (entry + (j + 1)) % RX_DESC_NUM ≠ entry := by
    intro j hj
    rw [List.mem_range] at hj
    simp only [RX_DESC_NUM] at hentry hm ⊢
    omega
  refine ⟨?_, fun j hj => ?_, fun i hi => ?_, ?_, ?_, ?_, h.others⟩
  · rw [h.stack, List.range_succ_eq_map, List.map_cons, List.map_map, hfirst]
    simp only [next_add]
    rw [List.map_congr_left fun j hj => copied_axNetRxFrame (hne j hj)]
    exact List.append_assoc _ _ _
  · cases j with
    | zero =>
        rw [hfirst, h.untouched entry]
        · exact Function.update_self _ _ _
        · intro j hj
          rw [next_add]
          exact (hne j (List.mem_range.mpr hj)).symm
    | succ j =>
        have hlater := h.cleared j (Nat.lt_of_succ_lt_succ hj)
        rwa [next_add] at hlater
  · rw [h.untouched i, cyclicResult_axNetRxFrame]
    · have hi0 := hi 0 (Nat.succ_pos m)
      rwa [hfirst] at hi0
    · intro j hj
      rw [next_add]
      exact hi (j + 1) (Nat.succ_lt_succ hj)
  · rw [h.rxPackets, UInt64.ofNat_add, UInt64.add_comm (UInt64.ofNat m)]
    exact UInt64.add_assoc _ _ _
  · rw [h.curRxPktCount, UInt32.ofNat_add, UInt32.add_comm (UInt32.ofNat m)]
    exact UInt32.add_assoc _ _ _
  · rw [h.rxBytes, List.range_succ_eq_map, List.map_cons, List.map_map, List.sum_cons, hfirst]
    simp only [next_add]
    rw [List.map_congr_left fun j hj => congrArg XdmaResult.length
      (cyclicResult_axNetRxFrame (d := d) (hne j hj))]
    rw [UInt64.ofNat_add]
    exact UInt64.add_assoc _ _ _

/-- After an iteration the run is one entry shorter: the entry that was cleared ends it. -/
theorem runLength_axNetRxFrame (hentry : entry < RX_DESC_NUM)
    (hmark : (d.engineC2h.cyclicResult entry).isCompleted = true) :
    runLength d.engineC2h entry =
      runLength (axNetRxFrame d entry).engineC2h ((entry + 1) % RX_DESC_NUM) + 1 := by
  have hlast : ((entry + 1) % RX_DESC_NUM + 1023) % RX_DESC_NUM = entry := by
    simp only [RX_DESC_NUM] at hentry ⊢
    omega
  have hcleared : ((axNetRxFrame d entry).engineC2h.cyclicResult entry).isCompleted = false := by
    rw [show (axNetRxFrame d entry).engineC2h.cyclicResult entry = ⟨0, 0⟩ from
      Function.update_self _ _ _]
    decide
  have hrun : runLength d.engineC2h entry = leading (fun j =>
      (d.engineC2h.cyclicResult ((entry + (j + 1)) % RX_DESC_NUM)).isCompleted) 1023 + 1 := by
    apply leading_succ (n := 1023)
    rw [first_entry hentry]
    exact hmark
  have hrest : runLength (axNetRxFrame d entry).engineC2h ((entry + 1) % RX_DESC_NUM) =
      leading (fun j => ((axNetRxFrame d entry).engineC2h.cyclicResult
        (((entry + 1) % RX_DESC_NUM + j) % RX_DESC_NUM)).isCompleted) 1023 := by
    apply leading_succ_of_last_false (n := 1023)
    rw [hlast]
    exact hcleared
  rw [hrun, hrest]
  refine congrArg (· + 1) (leading_congr fun j hj => ?_)
  rw [next_add, cyclicResult_axNetRxFrame]
  simp only [RX_DESC_NUM] at hentry ⊢
  omega

theorem runLength_of_unmarked (hentry : entry < RX_DESC_NUM)
    (hmark : (d.engineC2h.cyclicResult entry).isCompleted = false) :
    runLength d.engineC2h entry = 0 := by
  apply leading_of_false
  rw [first_entry hentry]
  exact hmark

theorem runLength_le (e : XdmaEngine) (entry : ℕ) : runLength e entry ≤ RX_DESC_NUM :=
  leading_le _ _

theorem allocsBefore_succ (halloc : alloc workDone = true) (rest : ℕ) :
    allocsBefore alloc workDone (rest + 1) = allocsBefore alloc (workDone + 1) rest + 1 := by
  rw [allocsBefore, leading_succ halloc, allocsBefore]
  refine congrArg (· + 1) (leading_congr fun j _ => ?_)
  rw [Nat.add_right_comm, Nat.add_assoc]

/-- An iteration passes one frame on. -/
theorem rxCount_axNetRxFrame (hentry : entry < RX_DESC_NUM)
    (hmark : (d.engineC2h.cyclicResult entry).isCompleted = true) (halloc : alloc workDone = true)
    (rest : ℕ) : rxCount alloc d.engineC2h entry workDone (rest + 1) =
      rxCount alloc (axNetRxFrame d entry).engineC2h ((entry + 1) % RX_DESC_NUM) (workDone + 1) rest +
        1 := by
  rw [rxCount, runLength_axNetRxFrame hentry hmark, allocsBefore_succ halloc, rxCount]
  omega

/-- Nothing is passed on if the first entry is not marked or has no `skb`. -/
theorem rxCount_eq_zero (hentry : entry < RX_DESC_NUM)
    (hstop : ¬ ((d.engineC2h.cyclicResult entry).isCompleted = true ∧ alloc workDone = true))
    (rest : ℕ) : rxCount alloc d.engineC2h entry workDone rest = 0 := by
  rw [rxCount]
  rcases not_and_or.mp hstop with hmark | halloc
  · rw [runLength_of_unmarked hentry (Bool.eq_false_iff.mpr hmark)]
    omega
  · rw [allocsBefore, leading_of_false (Bool.eq_false_iff.mpr halloc)]
    omega

/-- **The loop of `ax_net_rx`**, by induction on what the budget has left. -/
theorem axNetRxLoop_delivers (alloc : ℕ → Bool) (rest : ℕ) :
    ∀ d entry workDone, entry < RX_DESC_NUM →
      let m := rxCount alloc d.engineC2h entry workDone rest
      let r := axNetRxLoop alloc rest d entry workDone
      r.2 = workDone + m ∧ r.1.curRx = (entry + m) % RX_DESC_NUM ∧
        RxDelivers (copied d.engineC2h) d entry m r.1 := by
  induction rest with
  | zero =>
      intro d entry workDone hentry m r
      have hm : m = 0 := Nat.zero_min _
      rw [hm]
      exact ⟨rfl, (first_entry hentry).symm, RxDelivers.none d entry entry⟩
  | succ rest ih =>
      intro d entry workDone hentry m r
      by_cases hgo : (d.engineC2h.cyclicResult entry).isCompleted ∧ alloc workDone
      · obtain ⟨hmark, halloc⟩ := hgo
        have hr : r = axNetRxLoop alloc rest (axNetRxFrame d entry) ((entry + 1) % RX_DESC_NUM)
            (workDone + 1) := by
          simp only [r, axNetRxLoop, if_pos (And.intro hmark halloc)]
        have hm := rxCount_axNetRxFrame hentry hmark halloc rest
        -- the run after the iteration is shorter than the ring
        have hlt := runLength_le d.engineC2h entry
        rw [runLength_axNetRxFrame hentry hmark] at hlt
        obtain ⟨hwork, hcur, hdel⟩ := ih (axNetRxFrame d entry) ((entry + 1) % RX_DESC_NUM)
          (workDone + 1) (Nat.mod_lt _ (Nat.succ_pos _))
        rw [hr, show m = _ from hm]
        refine ⟨?_, ?_, RxDelivers.cons hentry ?_ hdel⟩
        · rw [hwork]
          omega
        · rw [hcur, next_add]
        · rw [rxCount]
          omega
      · have hr : r = ({ d with curRx := entry }, workDone) := by
          simp only [r, axNetRxLoop, if_neg hgo]
        rw [hr, show m = 0 from rxCount_eq_zero hentry hgo _]
        exact ⟨rfl, (first_entry hentry).symm, RxDelivers.none d entry entry⟩

end Loop

/-! ## `ax_net_rx` -/

/-- The frame in the buffer of an entry. -/
def ownBytes (e : XdmaEngine) (i : ℕ) : List UInt8 :=
  (e.rxBuff i).data.take (e.cyclicResult i).length

/-- **One call of `ax_net_rx`.** On every ring, for every budget and every pattern of allocation
failures, the loop returns and has passed on the first `m` entries of the run from `cur_rx` on, in
ring order, where `m` is the least of the budget, the length of the run and the allocations before
the first failure, if their lengths are such as the device writes for a buffer of `PKT_BUF_LEN`
bytes. -/
theorem axNetRx_delivers (alloc : ℕ → Bool) (d : NetDev) (workDone budget : ℕ)
    (hcur : d.curRx < RX_DESC_NUM) :
    let m := rxCount alloc d.engineC2h d.curRx workDone (budget - workDone)
    (∀ j < m, (d.engineC2h.cyclicResult ((d.curRx + j) % RX_DESC_NUM)).length ≤ PKT_BUF_LEN) →
      ∃ d', (∀ fuel, budget - workDone < fuel →
          axNetRxWhile alloc budget fuel ⟨d, d.curRx, workDone⟩ = some (d', workDone + m)) ∧
        axNetRx alloc d workDone budget = (d', workDone + m) ∧
        d'.curRx = (d.curRx + m) % RX_DESC_NUM ∧
        RxDelivers (ownBytes d.engineC2h) d d.curRx m d' := by
  intro m hlen
  obtain ⟨hwork, hcur', hdel⟩ :=
    axNetRxLoop_delivers alloc (budget - workDone) d d.curRx workDone hcur
  have hrx : axNetRx alloc d workDone budget =
      ((axNetRx alloc d workDone budget).1, workDone + m) := Prod.ext rfl hwork
  refine ⟨(axNetRx alloc d workDone budget).1, fun fuel hfuel => ?_, hrx, hcur', ?_⟩
  · rw [axNetRxWhile_eq alloc fuel hfuel, ← hrx]
    rfl
  · refine { hdel with stack := hdel.stack.trans ?_ }
    congr 1
    apply List.map_congr_left
    intro j hj
    exact d.engineC2h.rxBytes_of_le _ (hlen j (List.mem_range.mp hj))

/-- The entries from 1022 to 2 are marked, with lengths from 60 on; the `u32` counter is at its
last value. -/
def wrappingDev : NetDev :=
  { probedDev with
    curRx := 1022
    curRxPktCount := 0xFFFFFFFF
    engineC2h := { probedDev.engineC2h with
      cyclicResult := fun i =>
        if (i + 2) % RX_DESC_NUM < 5 then { status := C2H_WB, length := 60 + (i + 2) % RX_DESC_NUM }
        else { status := 0, length := 0 } } }

theorem rxCount_wrappingDev :
    rxCount (· ≠ 3) wrappingDev.engineC2h wrappingDev.curRx 0 64 = 3 := by
  decide

/-- Five entries are marked, around the end of the ring, and the fourth allocation fails: three frames
are passed on, and the fourth is left where it is. -/
theorem axNetRx_delivers_wrapping :
    ∃ d', (∀ fuel, 64 < fuel →
        axNetRxWhile (· ≠ 3) 64 fuel ⟨wrappingDev, 1022, 0⟩ = some (d', 3)) ∧
      axNetRx (· ≠ 3) wrappingDev 0 64 = (d', 3) ∧ d'.curRx = 1 ∧
      RxDelivers (ownBytes wrappingDev.engineC2h) wrappingDev 1022 3 d' ∧
      d'.engineC2h.cyclicResult 1 = { status := C2H_WB, length := 63 } ∧
      d'.curRxPktCount = 2 ∧ d'.rxBytes = 183 := by
  have h := axNetRx_delivers (· ≠ 3) wrappingDev 0 64 (by decide)
  simp only [Nat.sub_zero, rxCount_wrappingDev] at h
  obtain ⟨d', hfuel, hrx, hcur, hdel⟩ := h (by decide)
  refine ⟨d', hfuel, hrx, hcur, hdel, ?_, hdel.curRxPktCount.trans rfl, hdel.rxBytes.trans rfl⟩
  exact (hdel.untouched 1 (by decide)).trans rfl

/-- A device with one marked entry, of the given length. -/
def markedDev (length : ℕ) : NetDev :=
  { probedDev with
    engineC2h := { probedDev.engineC2h with
      cyclicResult := Function.update probedDev.engineC2h.cyclicResult 0
        { status := C2H_WB, length := length } } }

theorem runLength_markedDev (length : ℕ) :
    runLength (markedDev length).engineC2h (markedDev length).curRx = 1 := by
  have hmark : ((markedDev length).engineC2h.cyclicResult 0).isCompleted = true := by
    simp only [markedDev, Function.update_self]
    exact (by decide : (C2H_WB &&& 0xFFFF0000 == C2H_WB) = true)
  have hnext : ((markedDev length).engineC2h.cyclicResult 1).isCompleted = false := by
    simp only [markedDev, Function.update_of_ne Nat.one_ne_zero]
    decide
  have hrun : runLength (markedDev length).engineC2h (markedDev length).curRx =
      leading (fun j => ((markedDev length).engineC2h.cyclicResult
        ((0 + (j + 1)) % RX_DESC_NUM)).isCompleted) 1023 + 1 :=
    leading_succ (n := 1023) (by exact hmark)
  rw [hrun, leading_of_false (by exact hnext)]

theorem rxCount_markedDev (length : ℕ) :
    rxCount (fun _ => true) (markedDev length).engineC2h (markedDev length).curRx 0 1 = 1 := by
  rw [rxCount, runLength_markedDev]
  rfl

/-- A length of one more than the size of a buffer: the frame has a byte of the next buffer. -/
theorem axNetRx_reads_on :
    rxCount (fun _ => true) (markedDev 2049).engineC2h (markedDev 2049).curRx 0 1 = 1 ∧
      ¬ RxDelivers (ownBytes (markedDev 2049).engineC2h) (markedDev 2049) (markedDev 2049).curRx 1
        (axNetRx (fun _ => true) (markedDev 2049) 0 1).1 := by
  refine ⟨rxCount_markedDev 2049, fun h => ?_⟩
  have hdel := (axNetRxLoop_delivers (fun _ => true) 1 (markedDev 2049) 0 0 (by decide)).2.2
  rw [show rxCount (fun _ => true) (markedDev 2049).engineC2h 0 0 1 = 1 from
    rxCount_markedDev 2049] at hdel
  have hframe : copied (markedDev 2049).engineC2h 0 = ownBytes (markedDev 2049).engineC2h 0 :=
    (List.cons.inj (List.append_cancel_left (hdel.stack.symm.trans h.stack))).1
  have hlength := congrArg List.length hframe
  rw [copied, ownBytes, XdmaEngine.rxBytes, List.length_map, List.length_range, List.length_take,
    PacketBuff.length_eq] at hlength
  exact absurd hlength (by decide)

/-! ## `ax_net_poll` -/

/-- No frame is left waiting with polling switched off: if `ax_net_poll` calls `napi_complete`,
which it does if the budget is not used up, the entry at `cur_rx` is not marked. -/
def PollDrains (alloc : ℕ → Bool) (d : NetDev) (budget : ℕ) : Prop :=
  let r := axNetPoll alloc d budget
  r.2 < budget → (r.1.engineC2h.cyclicResult r.1.curRx).isCompleted = false

section Poll

variable {d d' : NetDev} {frame : ℕ → List UInt8} {m : ℕ}

/-- The entry at which the loop has stopped is marked exactly if it belongs to the run. -/
theorem RxDelivers.isCompleted_iff {entry : ℕ} (h : RxDelivers frame d entry m d')
    (hm : m ≤ runLength d.engineC2h entry) :
    (d'.engineC2h.cyclicResult ((entry + m) % RX_DESC_NUM)).isCompleted = true ↔
      m < runLength d.engineC2h entry := by
  have hle : runLength d.engineC2h entry ≤ RX_DESC_NUM := leading_le _ _
  -- short of a whole round, the entry is not one of those passed on
  have hkept : m < RX_DESC_NUM → d'.engineC2h.cyclicResult ((entry + m) % RX_DESC_NUM) =
      d.engineC2h.cyclicResult ((entry + m) % RX_DESC_NUM) := by
    intro hlt
    apply h.untouched
    intro j hj
    simp only [RX_DESC_NUM] at hlt ⊢
    omega
  rcases Nat.lt_or_eq_of_le hm with hlt | heq
  · rw [hkept (Nat.lt_of_lt_of_le hlt hle)]
    have hmark := of_lt_leading hlt
    exact iff_of_true hmark hlt
  · refine iff_of_false ?_ (by omega)
    rw [Bool.not_eq_true]
    rcases Nat.lt_or_eq_of_le hle with hshort | hround
    · rw [hkept (heq ▸ hshort), heq]
      exact eq_false_of_leading_lt hshort
    · rw [heq, hround, Nat.add_mod_right, ← Nat.add_zero entry,
        h.cleared 0 (by rw [heq, hround]; decide)]
      decide

/-- **When polling stops with the ring drained.** For every ring, budget and pattern of allocation
failures, a poll that switches polling off leaves no marked entry at `cur_rx` if and only if the
allocations succeed for all the entries of the run that the budget admits. -/
theorem axNetPoll_drains_iff (alloc : ℕ → Bool) (d : NetDev) (budget : ℕ)
    (hcur : d.curRx < RX_DESC_NUM) :
    PollDrains alloc d budget ↔
      min budget (runLength d.engineC2h d.curRx) ≤ allocsBefore alloc 0 budget := by
  obtain ⟨hwork, hcur', hdel⟩ := axNetRxLoop_delivers alloc budget d d.curRx 0 hcur
  have hiff := hdel.isCompleted_iff (le_trans (Nat.min_le_right _ _) (Nat.min_le_left _ _))
  rw [← hcur'] at hiff
  have hdrains : PollDrains alloc d budget ↔
      ((axNetRxLoop alloc budget d d.curRx 0).2 < budget →
        ((axNetRxLoop alloc budget d d.curRx 0).1.engineC2h.cyclicResult
          (axNetRxLoop alloc budget d d.curRx 0).1.curRx).isCompleted = false) := Iff.rfl
  rw [hdrains, ← Bool.not_eq_true, hiff, hwork, rxCount]
  omega

end Poll

/-- With enough memory, a poll drains the ring. -/
theorem axNetPoll_drains_frame : PollDrains (fun _ => true) (markedDev 60) 64 :=
  (axNetPoll_drains_iff _ _ _ (by decide)).mpr (by
    rw [runLength_markedDev]
    decide)

/-- Without memory, it switches polling off with a frame in the ring. -/
theorem axNetPoll_leaves_frame :
    (axNetPoll (fun _ => false) (markedDev 60) 64).2 < 64 ∧
      ¬ PollDrains (fun _ => false) (markedDev 60) 64 := by
  refine ⟨by decide, fun h => ?_⟩
  have hleft := h (by decide)
  exact absurd hleft (by decide)

end Axm57104.Net
