import Axm57104.Net.Open
import Axm57104.Net.Tx
import Mathlib.Data.List.Forall2
import Mathlib.Data.List.Infix

/-!
# One transmit channel

The invariant of a channel (`ChanInv`) has two phases. An idle channel has no frame in flight and
its cursor stands at the start of the half `current_list`. A busy channel fills the half
`current_list` while the engine runs the other one, which holds the last batch with
`XDMA_DESC_STOPPED` on its last entry only. `ChanInv.launch` is the common step of the two functions
that start an engine.

The log of a channel records the frames accepted and the frames stored between one start of the
engine and the next. Logging a start only looks at the device.
-/

namespace Axm57104.Net

open Common Xdma

/-! ## The log -/

/-- What happened on one channel: the frames accepted (oldest first), the frames handed to each
engine run (latest run first), and the frames stored since the last start. -/
structure TxLog where
  accepted : List (List UInt8)
  batches : List (List (List UInt8))
  fresh : List (List UInt8)

def TxLog.accept (g : TxLog) (frame : List UInt8) : TxLog :=
  { g with accepted := g.accepted ++ [frame], fresh := g.fresh ++ [frame] }

/-- If the engine was started between the two states, the frames stored so far are its batch. -/
def TxLog.observe (g : TxLog) (before after : XdmaEngine) : TxLog :=
  if before.hw.runs.length < after.hw.runs.length then
    { g with batches := g.fresh :: g.batches, fresh := [] }
  else g

/-- The latest run of the engine has reached a descriptor with `XDMA_DESC_STOPPED`. -/
def lastRunStopped (e : XdmaEngine) : Prop := ∃ r rs, e.hw.runs = r :: rs ∧ r.stopped = true

/-! ## What the ring holds -/

/-- The frame the device would send from entry `i`. -/
def slotFrame (e : XdmaEngine) (i : ℕ) : List UInt8 :=
  wireFrame ((e.txBuff i).data.take (e.desc i).bytes)

/-- The entries from `base` on hold the frames `fs`, and exactly those in `stops` end a run. -/
structure Stored (e : XdmaEngine) (base : ℕ) (fs : List (List UInt8)) (stops : ℕ → Prop) : Prop where
  frame : ∀ i f, fs[i]? = some f → slotFrame e (base + i) = f
  stop : ∀ i < fs.length, ((e.desc (base + i)).isStopped = true ↔ stops i)

/-- A half that is being filled. -/
def Filling (e : XdmaEngine) (base : ℕ) (fs : List (List UInt8)) : Prop :=
  Stored e base fs fun _ => False

/-- A half that is ready to run: exactly the last of its entries ends the run. -/
def Loaded (e : XdmaEngine) (base : ℕ) (fs : List (List UInt8)) : Prop :=
  Stored e base fs fun i => i + 1 = fs.length

/-- The run `r` started at the first entry of a half and has sent frames of `b` in order; it has
stopped exactly when it has sent them all. -/
structure RunOf (bus : ℕ) (r : HwRun) (b : List (List UInt8)) : Prop where
  first : ∃ k < DESC_LIST_NUM, r.first = bus + XDMA_DESC_SIZE * (k * 512)
  filled : b ≠ []
  moved : r.moved <+: b
  stopped : r.stopped = true ↔ r.moved = b

/-- A run that has stopped. -/
def Complete (bus : ℕ) (r : HwRun) (b : List (List UInt8)) : Prop :=
  RunOf bus r b ∧ r.stopped = true

section Entries

variable {e e' : XdmaEngine} {t : XdmaTransfer} {base entry control : ℕ}
  {fs : List (List UInt8)} {frame : List UInt8} {stops : ℕ → Prop}

/-- Entries outside the range do not matter. -/
theorem Stored.congr (h : Stored e base fs stops)
    (hbuf : ∀ i < fs.length, e'.txBuff (base + i) = e.txBuff (base + i))
    (hdesc : ∀ i < fs.length, e'.desc (base + i) = e.desc (base + i)) :
    Stored e' base fs stops := by
  refine ⟨fun i f hf => ?_, fun i hi => ?_⟩
  · obtain ⟨hi, -⟩ := List.getElem?_eq_some_iff.mp hf
    rw [slotFrame, hbuf i hi, hdesc i hi]
    exact h.frame i f hf
  · rw [hdesc i hi]
    exact h.stop i hi

theorem setControl_setControl (e : XdmaEngine) (i a b : ℕ) :
    setControl (setControl e i a) i b = setControl e i b := by
  simp only [setControl, Function.update_idem, Function.update_self]

theorem setControl_desc_of_ne {i j : ℕ} (h : j ≠ i) : (setControl e i control).desc j = e.desc j :=
  Function.update_of_ne h _ _

theorem setControl_isStopped (e : XdmaEngine) (i control : ℕ) :
    ((setControl e i control).desc i).isStopped = (control &&& XDMA_DESC_STOPPED != 0) := by
  simp only [setControl, Function.update_self, XdmaDesc.isStopped]

theorem storeEntry_desc_of_ne {j : ℕ} {h : frame.length + NIC_TX_HEADER_SIZE ≤ DMA_PACKET_SIZE}
    (hj : j ≠ entry) : (storeEntry e entry frame h).desc j = e.desc j :=
  Function.update_of_ne hj _ _

theorem storeEntry_txBuff_of_ne {j : ℕ} {h : frame.length + NIC_TX_HEADER_SIZE ≤ DMA_PACKET_SIZE}
    (hj : j ≠ entry) : (storeEntry e entry frame h).txBuff j = e.txBuff j :=
  Function.update_of_ne hj _ _

/-- A control word does not take part in what an entry sends, nor in the links of the ring. -/
theorem TxRing.setControl (hr : TxRing e t) (i control : ℕ) : TxRing (setControl e i control) t := by
  refine ⟨⟨hr.transfer_eq, hr.list, fun j hj hlast => ?_⟩, fun j hj => ?_⟩
  · rcases eq_or_ne j i with rfl | hne
    · simp only [Net.setControl, Function.update_self]
      exact hr.next j hj hlast
    · rw [setControl_desc_of_ne hne]
      exact hr.next j hj hlast
  · rcases eq_or_ne j i with rfl | hne
    · simp only [Net.setControl, Function.update_self]
      exact hr.src j hj
    · rw [setControl_desc_of_ne hne]
      exact hr.src j hj

theorem TxRing.storeEntry (hr : TxRing e t) (entry : ℕ)
    (h : frame.length + NIC_TX_HEADER_SIZE ≤ DMA_PACKET_SIZE) :
    TxRing (storeEntry e entry frame h) t := by
  refine ⟨⟨hr.transfer_eq, hr.list, fun j hj hlast => ?_⟩, fun j hj => ?_⟩
  · rcases eq_or_ne j entry with rfl | hne
    · simp only [Net.storeEntry, Function.update_self]
      exact hr.next j hj hlast
    · rw [storeEntry_desc_of_ne hne]
      exact hr.next j hj hlast
  · rcases eq_or_ne j entry with rfl | hne
    · simp only [Net.storeEntry, Function.update_self]
      exact hr.src j hj
    · rw [storeEntry_desc_of_ne hne]
      exact hr.src j hj

theorem slotFrame_setControl (e : XdmaEngine) (i control j : ℕ) :
    slotFrame (setControl e i control) j = slotFrame e j := by
  rcases eq_or_ne j i with rfl | hne
  · simp only [slotFrame, setControl, Function.update_self]
  · rw [slotFrame, setControl_desc_of_ne hne]
    rfl

theorem slotFrame_storeEntry (e : XdmaEngine) (entry : ℕ)
    (h : frame.length + NIC_TX_HEADER_SIZE ≤ DMA_PACKET_SIZE) :
    slotFrame (storeEntry e entry frame h) entry = frame := by
  simp only [slotFrame, storeEntry, Function.update_self]
  exact wireFrame_store _ _ _

/-- `ax_net_start_xmit` appends a frame to a half that is being filled. -/
theorem Filling.store (hf : Filling e base fs)
    (h : frame.length + NIC_TX_HEADER_SIZE ≤ DMA_PACKET_SIZE) :
    Filling (setControl (storeEntry e (base + fs.length) frame h) (base + fs.length) DESC_MAGIC) base
      (fs ++ [frame]) := by
  have hold : Filling (setControl (storeEntry e (base + fs.length) frame h) (base + fs.length)
      DESC_MAGIC) base fs := by
    refine Stored.congr hf (fun i hi => ?_) (fun i hi => ?_)
    · exact storeEntry_txBuff_of_ne (by omega)
    · rw [setControl_desc_of_ne (by omega), storeEntry_desc_of_ne (by omega)]
  refine ⟨fun i f hi => ?_, fun i hi => ?_⟩
  · rcases Nat.lt_or_ge i fs.length with hlt | hge
    · rw [List.getElem?_append_left hlt] at hi
      exact hold.frame i f hi
    · rw [List.getElem?_append_right hge] at hi
      obtain ⟨hlt, rfl⟩ := List.getElem?_eq_some_iff.mp hi
      have heq : i = fs.length := by
        simp only [List.length_singleton] at hlt
        omega
      subst heq
      rw [slotFrame_setControl, slotFrame_storeEntry]
      simp
  · rw [List.length_append, List.length_singleton] at hi
    rcases Nat.lt_succ_iff_lt_or_eq.mp hi with hlt | rfl
    · exact hold.stop i hlt
    · rw [setControl_isStopped]
      decide

/-- Marking the last entry of a filled half makes it ready to run. -/
theorem Filling.mark (hf : Filling e base fs) (hne : fs ≠ []) :
    Loaded (setControl e (base + (fs.length - 1)) lastControl) base fs := by
  have hpos : 0 < fs.length := List.length_pos_of_ne_nil hne
  refine ⟨fun i f hi => ?_, fun i hi => ?_⟩
  · rw [slotFrame_setControl]
    exact hf.frame i f hi
  · rcases eq_or_ne i (fs.length - 1) with rfl | hi'
    · rw [setControl_isStopped]
      exact ⟨fun _ => by omega, fun _ => by decide⟩
    · rw [setControl_desc_of_ne (by omega)]
      refine (hf.stop i hi).trans ⟨False.elim, fun h => ?_⟩
      omega

end Entries

/-! ## The channel invariant -/

/-- The engine has been started on the half `half` with the batch `b`, and has sent `m` of its
frames. -/
structure InFlight (old : List HwRun) (e : XdmaEngine) (half : ℕ) (batches : List (List (List UInt8)))
    (b : List (List UInt8)) (m : ℕ) : Prop where
  loaded : Loaded e (half * 512) b
  filled : b ≠ []
  le : b.length ≤ 512
  sent : m ≤ b.length
  pc : e.hw.pc = if m < b.length then some (descAddr e (half * 512 + m)) else none
  runs : ∃ rs bs, batches = b :: bs ∧ List.Forall₂ (Complete e.descBus.bus) rs bs ∧
    e.hw.runs = { first := descAddr e (half * 512), moved := b.take m, stopped := m == b.length } ::
      (rs ++ old)

/-- Nothing is in flight and the cursor stands at the start of the half to be filled next. -/
structure Idle (old : List HwRun) (t : XdmaTransfer) (list : AxTxList) (e : XdmaEngine) (g : TxLog) :
    Prop where
  idle : list.idle = 1
  cur : list.cur = t.currentList * 512
  count : list.curPktCount = 0
  fresh : g.fresh = []
  running : e.running = false
  pc : e.hw.pc = none
  runs : ∃ rs, e.hw.runs = rs ++ old ∧ List.Forall₂ (Complete e.descBus.bus) rs g.batches

/-- The engine has one half, the other is being filled. -/
structure Busy (old : List HwRun) (t : XdmaTransfer) (list : AxTxList) (e : XdmaEngine) (g : TxLog) :
    Prop where
  idle : list.idle = 0
  running : e.running = true
  count : list.curPktCount = g.fresh.length
  le : g.fresh.length ≤ 512
  cur : list.cur = (t.currentList * 512 + g.fresh.length) % TX_DESC_NUM
  filling : Filling e (t.currentList * 512) g.fresh
  flight : ∃ b m, InFlight old e ((t.currentList + 1) % DESC_LIST_NUM) g.batches b m

/-- The invariant of a channel; `old` are the engine's runs before the open. -/
def ChanInv (old : List HwRun) (list : AxTxList) (e : XdmaEngine) (g : TxLog) : Prop :=
  ∃ t, TxRing e t ∧ t.currentList < DESC_LIST_NUM ∧
    g.accepted = g.batches.reverse.flatten ++ g.fresh ∧
    (Idle old t list e g ∨ Busy old t list e g)

section Phases

variable {old : List HwRun} {t : XdmaTransfer} {list : AxTxList} {e e' : XdmaEngine} {g : TxLog}
  {half m : ℕ} {batches : List (List (List UInt8))} {b : List (List UInt8)}

/-- The engine's current run, as a run of its batch. -/
theorem InFlight.runOf (h : InFlight old e half batches b m) (hhalf : half < DESC_LIST_NUM) :
    RunOf e.descBus.bus
      { first := descAddr e (half * 512), moved := b.take m, stopped := m == b.length } b := by
  refine ⟨⟨half, hhalf, rfl⟩, h.filled, List.take_prefix _ _, ?_⟩
  have hsent := h.sent
  simp only [beq_iff_eq]
  refine ⟨fun heq => ?_, fun heq => ?_⟩
  · rw [heq, List.take_length]
  · have hlen := congrArg List.length heq
    rw [List.length_take] at hlen
    omega

/-- Once the engine has stopped by itself, all its runs are complete. -/
theorem InFlight.complete (h : InFlight old e half batches b m) (hhalf : half < DESC_LIST_NUM)
    (hstop : lastRunStopped e) :
    ∃ rs, e.hw.runs = rs ++ old ∧ List.Forall₂ (Complete e.descBus.bus) rs batches := by
  obtain ⟨rs, bs, rfl, hdone, hruns⟩ := h.runs
  refine ⟨_ :: rs, hruns, List.Forall₂.cons ⟨h.runOf hhalf, ?_⟩ hdone⟩
  obtain ⟨r, rs', hruns', hr⟩ := hstop
  rw [hruns] at hruns'
  obtain ⟨rfl, -⟩ := List.cons.inj hruns'
  exact hr

/-- What the driver does to the other half does not reach the engine. -/
theorem InFlight.congr (h : InFlight old e half batches b m) (hhw : e'.hw = e.hw)
    (hbus : e'.descBus = e.descBus)
    (hbuf : ∀ i, half * 512 ≤ i → i < half * 512 + 512 → e'.txBuff i = e.txBuff i)
    (hdesc : ∀ i, half * 512 ≤ i → i < half * 512 + 512 → e'.desc i = e.desc i) :
    InFlight old e' half batches b m := by
  have hle := h.le
  refine ⟨h.loaded.congr (fun i hi => ?_) (fun i hi => ?_), h.filled, h.le, h.sent, ?_, ?_⟩
  · exact hbuf _ (by omega) (by omega)
  · exact hdesc _ (by omega) (by omega)
  · rw [hhw, h.pc, descAddr, descAddr, hbus]
  · rw [hhw, hbus, descAddr, hbus]
    exact h.runs

/-- One step of the engine sends the next frame of its batch. -/
theorem InFlight.step (h : InFlight old e half batches b m) (hr : TxRing e t)
    (hhalf : half < DESC_LIST_NUM) (hpc : e.hw.pc ≠ none) :
    ∃ hw, e.h2cStep = .ok { e with hw := hw } ∧ hw.runs.length = e.hw.runs.length ∧
      InFlight old { e with hw := hw } half batches b (m + 1) := by
  have hm : m < b.length := by
    by_contra hge
    rw [h.pc, if_neg hge] at hpc
    exact hpc rfl
  have hle := h.le
  have hidx : half * 512 + m < 1024 := by
    simp only [DESC_LIST_NUM] at hhalf
    omega
  have hfetch : e.fetch = some (half * 512 + m, e.desc (half * 512 + m)) := by
    rw [XdmaEngine.fetch, h.pc, if_pos hm, Option.bind_some, descAddr,
      blockIndex_add _ _ (by decide), Option.map_some]
  have hsrc : blockIndex e.txBuffBus.bus DMA_PACKET_SIZE (e.desc (half * 512 + m)).src =
      some (half * 512 + m) := by
    rw [hr.src _ hidx, blockIndex_add _ _ (by decide)]
  have hframe : wireFrame ((e.txBuff (half * 512 + m)).data.take (e.desc (half * 512 + m)).bytes) =
      b[m] := h.loaded.frame m b[m] (List.getElem?_eq_getElem hm)
  have hstop : (e.desc (half * 512 + m)).isStopped = (m + 1 == b.length) := by
    rw [Bool.eq_iff_iff, h.loaded.stop m hm, beq_iff_eq]
  obtain ⟨rs, bs, hbs, hdone, hruns⟩ := h.runs
  refine ⟨e.hw.finish (e.desc (half * 512 + m)) b[m], ?_, ?_, ?_⟩
  · simp only [XdmaEngine.h2cStep, hfetch, hsrc, hframe]
  · simp only [HwEngine.finish, hruns, List.length_cons]
  · refine ⟨h.loaded.congr (fun _ _ => rfl) (fun _ _ => rfl), h.filled, h.le, hm, ?_,
      rs, bs, hbs, hdone, ?_⟩
    · simp only [HwEngine.finish, hstop, beq_iff_eq]
      rcases eq_or_ne (m + 1) b.length with heq | hne
      · rw [if_pos heq, if_neg (by omega)]
      · rw [if_neg hne, if_pos (by omega), hr.next _ hidx (by simp only [lastOfHalf]; omega),
          Nat.add_assoc]
        rfl
    · simp only [HwEngine.finish, hruns, hstop, List.take_concat_get', descAddr]

/-- **Launch.** Starting the engine on a loaded half and turning to the other half makes the channel
busy with nothing stored. -/
theorem Busy.launch (hcur : t.currentList < DESC_LIST_NUM) (hr : TxRing e t) {rs : List HwRun}
    (hruns : e.hw.runs = rs ++ old)
    (hdone : List.Forall₂ (Complete e.descBus.bus) rs batches)
    (hload : Loaded e (t.currentList * 512) b) (hne : b ≠ []) (hle : b.length ≤ 512)
    (accepted : List (List UInt8)) :
    Busy old (turnHalf t).1 (turnHalf t).2 (launched e t)
      { accepted := accepted, batches := b :: batches, fresh := [] } := by
  have hlist := hr.list t.currentList hcur
  have hpos : 0 < b.length := List.length_pos_of_ne_nil hne
  have hback : ((turnHalf t).1.currentList + 1) % DESC_LIST_NUM = t.currentList := by
    simp only [turnHalf, DESC_LIST_NUM] at hcur ⊢
    omega
  refine ⟨rfl, rfl, rfl, Nat.zero_le _, ?_, ⟨by simp, by simp⟩, b, 0, ?_⟩
  · simp only [turnHalf, DESC_LIST_NUM, TX_DESC_NUM, RX_DESC_NUM, List.length_nil]
    omega
  · rw [hback]
    refine ⟨hload.congr (fun _ _ => rfl) (fun _ _ => rfl), hne, hle, Nat.zero_le _, ?_,
      rs, batches, rfl, hdone, ?_⟩
    · rw [if_pos hpos, Nat.add_zero]
      exact congrArg some hlist
    · have h0 : (0 == b.length) = false := by
        simp only [beq_eq_false_iff_ne]
        omega
      simp only [launched, XdmaEngine.started, hruns, hlist, List.take_zero, h0]
      rfl

theorem TxLog.observe_eq (g : TxLog) (h : e'.hw.runs.length = e.hw.runs.length) :
    g.observe e e' = g := by
  rw [TxLog.observe, if_neg (by omega)]

theorem TxLog.observe_launched (g : TxLog) (e e' : XdmaEngine) (t : XdmaTransfer)
    (h : e'.hw.runs = e.hw.runs) :
    g.observe e (launched e' t) = { g with batches := g.fresh :: g.batches, fresh := [] } := by
  rw [TxLog.observe, if_pos]
  simp only [launched, XdmaEngine.started, List.length_cons, h]
  omega

/-- A start closes the batch of the frames stored so far. -/
theorem ChanInv.launch (hcur : t.currentList < DESC_LIST_NUM) (hr : TxRing e t) {rs : List HwRun}
    (hruns : e.hw.runs = rs ++ old)
    (hdone : List.Forall₂ (Complete e.descBus.bus) rs g.batches)
    (hacc : g.accepted = g.batches.reverse.flatten ++ g.fresh)
    (hload : Loaded e (t.currentList * 512) g.fresh) (hne : g.fresh ≠ [])
    (hle : g.fresh.length ≤ 512) :
    ChanInv old (turnHalf t).2 (launched e t)
      { g with batches := g.fresh :: g.batches, fresh := [] } := by
  refine ⟨(turnHalf t).1, ⟨⟨rfl, hr.list, hr.next⟩, hr.src⟩, Nat.mod_lt _ (by decide), ?_,
    Or.inr (Busy.launch hcur hr hruns hdone hload hne hle _)⟩
  rw [hacc, List.reverse_cons, List.flatten_append, List.flatten_singleton, List.append_nil]

/-- `ax_net_start_xmit` on an idle channel. -/
theorem Idle.xmit (hi : Idle old t list e g) (hcur : t.currentList < DESC_LIST_NUM)
    (hr : TxRing e t) (hacc : g.accepted = g.batches.reverse.flatten ++ g.fresh)
    {frame : List UInt8} (h : frame.length + NIC_TX_HEADER_SIZE ≤ DMA_PACKET_SIZE) :
    ChanInv old (turnHalf t).2
      (launched (setControl (storeEntry e list.cur frame h) list.cur lastControl) t)
      ((g.accept frame).observe e
        (launched (setControl (storeEntry e list.cur frame h) list.cur lastControl) t)) := by
  obtain ⟨rs, hruns, hdone⟩ := hi.runs
  have hfresh : (g.accept frame).fresh = [frame] := by
    rw [TxLog.accept, hi.fresh, List.nil_append]
  -- the entry is filled as a first frame and marked at once
  have hfill : Filling (setControl (storeEntry e list.cur frame h) list.cur DESC_MAGIC) list.cur
      [frame] := by
    have hempty : Filling e list.cur [] := ⟨by simp, by simp⟩
    have hstore := hempty.store h
    rwa [List.length_nil, Nat.add_zero, List.nil_append] at hstore
  have hload : Loaded (setControl (storeEntry e list.cur frame h) list.cur lastControl)
      (t.currentList * 512) [frame] := by
    have hmark := hfill.mark (List.cons_ne_nil _ _)
    rw [List.length_singleton, Nat.sub_self, Nat.add_zero, setControl_setControl] at hmark
    rwa [← hi.cur]
  rw [TxLog.observe_launched _ e (setControl (storeEntry e list.cur frame h) _ _) _ rfl]
  refine ChanInv.launch hcur ((hr.storeEntry _ h).setControl _ _) hruns hdone ?_ ?_ ?_ ?_
  · rw [TxLog.accept, hacc, List.append_assoc]
  · rwa [hfresh]
  · rw [hfresh]
    exact List.cons_ne_nil _ _
  · rw [hfresh, List.length_singleton]
    decide

/-- The entry a busy channel stores the next frame in. -/
theorem Busy.cur_eq (hb : Busy old t list e g) (hcur : t.currentList < DESC_LIST_NUM)
    (hlt : g.fresh.length < 512) : list.cur = t.currentList * 512 + g.fresh.length := by
  rw [hb.cur]
  simp only [DESC_LIST_NUM, TX_DESC_NUM, RX_DESC_NUM] at hcur ⊢
  omega

/-- `ax_net_start_xmit` on a busy channel. -/
theorem Busy.xmit (hb : Busy old t list e g) (hcur : t.currentList < DESC_LIST_NUM)
    (hr : TxRing e t) (hacc : g.accepted = g.batches.reverse.flatten ++ g.fresh)
    (hlt : g.fresh.length < 512)
    {frame : List UInt8} (h : frame.length + NIC_TX_HEADER_SIZE ≤ DMA_PACKET_SIZE) :
    ChanInv old
      { list with
        cur := (list.cur + 1) % TX_DESC_NUM, curPktCount := (list.curPktCount + 1) % 2 ^ 32 }
      (setControl (storeEntry e list.cur frame h) list.cur DESC_MAGIC) (g.accept frame) := by
  have hentry := hb.cur_eq hcur hlt
  have hlen : (g.accept frame).fresh.length = g.fresh.length + 1 := by
    rw [TxLog.accept, List.length_append, List.length_singleton]
  refine ⟨t, (hr.storeEntry _ h).setControl _ _, hcur, ?_, Or.inr ⟨hb.idle, hb.running, ?_, ?_, ?_,
    ?_, ?_⟩⟩
  · rw [TxLog.accept, hacc, List.append_assoc]
  · show (list.curPktCount + 1) % 2 ^ 32 = _
    rw [hb.count, hlen]
    omega
  · omega
  · show (list.cur + 1) % TX_DESC_NUM = _
    rw [hentry, hlen, Nat.add_assoc]
  · rw [hentry]
    exact Filling.store hb.filling h
  · obtain ⟨b, m, hfl⟩ := hb.flight
    -- the entry written lies in the half that is not the engine's
    have hother : ∀ i, (t.currentList + 1) % DESC_LIST_NUM * 512 ≤ i →
        i < (t.currentList + 1) % DESC_LIST_NUM * 512 + 512 → i ≠ list.cur := by
      intro i hi hi'
      simp only [DESC_LIST_NUM] at hcur hi hi'
      omega
    refine ⟨b, m, hfl.congr rfl rfl (fun i hi hi' => ?_) (fun i hi hi' => ?_)⟩
    · exact storeEntry_txBuff_of_ne (hother i hi hi')
    · rw [setControl_desc_of_ne (hother i hi hi'), storeEntry_desc_of_ne (hother i hi hi')]

/-- The engine sends a frame. -/
theorem ChanInv.engine (hinv : ChanInv old list e g) (hpc : e.hw.pc ≠ none) :
    ∃ hw, e.h2cStep = .ok { e with hw := hw } ∧ hw.runs.length = e.hw.runs.length ∧
      ChanInv old list { e with hw := hw } g := by
  obtain ⟨t, hr, hcur, hacc, hi | hb⟩ := hinv
  · exact absurd hi.pc hpc
  · obtain ⟨b, m, hfl⟩ := hb.flight
    obtain ⟨hw, hstep, hlen, hfl'⟩ := hfl.step hr (Nat.mod_lt _ (by decide)) hpc
    refine ⟨hw, hstep, hlen, ?_⟩
    exact ⟨t, ⟨⟨hr.transfer_eq, hr.list, hr.next⟩, hr.src⟩, hcur, hacc, Or.inr ⟨hb.idle, hb.running,
      hb.count, hb.le, hb.cur, hb.filling.congr (fun _ _ => rfl) (fun _ _ => rfl), b, m + 1, hfl'⟩⟩

/-- An engine that stops its run requests the interrupt. -/
theorem h2cStep_descStopped {hw : HwEngine} (hstep : e.h2cStep = .ok { e with hw := hw })
    (hstop : lastRunStopped { e with hw := hw }) : hw.descStopped = true := by
  simp only [XdmaEngine.h2cStep] at hstep
  split at hstep
  · cases hstep
  split at hstep
  · cases hstep
  obtain rfl := congrArg XdmaEngine.hw (Except.ok.inj hstep)
  obtain ⟨r, rs, hruns, hr⟩ := hstop
  simp only [HwEngine.finish] at hruns ⊢
  split at hruns
  · cases hruns
  · obtain ⟨rfl, -⟩ := List.cons.inj hruns
    simp only at hr
    rw [hr, Bool.or_true]

/-- The engine stops with the only frame of its batch. -/
theorem ChanInv.engine_single {f : List UInt8} {bs : List (List (List UInt8))}
    (hinv : ChanInv old list e g) (hpc : e.hw.pc ≠ none) (hg : g.batches = [f] :: bs) :
    ∃ hw, e.h2cStep = .ok { e with hw := hw } ∧ hw.runs.length = e.hw.runs.length ∧
      lastRunStopped { e with hw := hw } ∧ intRequest { e with hw := hw } = true := by
  obtain ⟨t, hr, hcur, -, hi | hb⟩ := hinv
  · exact absurd hi.pc hpc
  obtain ⟨b, m, hfl⟩ := hb.flight
  obtain ⟨hw, hstep, hlen, hfl'⟩ := hfl.step hr (Nat.mod_lt _ (by decide)) hpc
  obtain ⟨rs, bs', hbatch, -, hruns⟩ := hfl'.runs
  obtain ⟨rfl, -⟩ := List.cons.inj (hg.symm.trans hbatch)
  have hm : m = 0 := by
    have := hfl'.sent
    simpa using this
  have hstop : lastRunStopped { e with hw := hw } := ⟨_, _, hruns, by simp [hm]⟩
  refine ⟨hw, hstep, hlen, hstop, ?_⟩
  rw [intRequest, h2cStep_descStopped hstep hstop, Bool.true_or]

/-- A completion with nothing stored leaves the channel idle. -/
theorem ChanInv.irq_empty (hinv : ChanInv old list e g) (hstop : lastRunStopped e)
    (hcount : list.curPktCount = 0) :
    ChanInv old { list with idle := 1 } e.engineStatusRead.xdmaEngineStop g := by
  obtain ⟨t, hr, hcur, hacc, hi | hb⟩ := hinv
  · exact ⟨t, ⟨⟨hr.transfer_eq, hr.list, hr.next⟩, hr.src⟩, hcur, hacc,
      Or.inl ⟨rfl, hi.cur, hi.count, hi.fresh, rfl, rfl, hi.runs⟩⟩
  · have hfresh : g.fresh = [] := by
      rw [← List.length_eq_zero_iff, ← hb.count, hcount]
    obtain ⟨b, m, hfl⟩ := hb.flight
    refine ⟨t, ⟨⟨hr.transfer_eq, hr.list, hr.next⟩, hr.src⟩, hcur, hacc,
      Or.inl ⟨rfl, ?_, hcount, hfresh, rfl, rfl, hfl.complete (Nat.mod_lt _ (by decide)) hstop⟩⟩
    show list.cur = _
    rw [hb.cur_eq hcur (by rw [hfresh]; decide), hfresh, List.length_nil, Nat.add_zero]

/-- A completion with frames stored starts the engine on them. -/
theorem ChanInv.irq_launch (hinv : ChanInv old list e g) (hstop : lastRunStopped e)
    (hcount : list.curPktCount ≠ 0) (ht : e.transfer = some t) :
    let stopDesc := if list.cur = 0 then RX_DESC_NUM - 1 else list.cur - 1
    let e' := setControl e.engineStatusRead.xdmaEngineStop stopDesc lastControl
    ChanInv old (turnHalf t).2 (launched e' t) (g.observe e (launched e' t)) := by
  obtain ⟨t', hr, hcur, hacc, hi | hb⟩ := hinv
  · exact absurd hi.count hcount
  obtain rfl : t' = t := Option.some.inj (hr.transfer_eq.symm.trans ht)
  have hpos : 0 < g.fresh.length := by
    rw [← hb.count]
    omega
  have hle := hb.le
  have hdesc : (if list.cur = 0 then RX_DESC_NUM - 1 else list.cur - 1) =
      t'.currentList * 512 + (g.fresh.length - 1) := by
    -- the cursor wraps to 0 exactly when the second half is full
    have hlcur := hb.cur
    simp only [DESC_LIST_NUM, TX_DESC_NUM, RX_DESC_NUM] at hcur hlcur ⊢
    split <;> omega
  simp only [hdesc]
  have hstopped : TxRing e.engineStatusRead.xdmaEngineStop t' :=
    ⟨⟨hr.transfer_eq, hr.list, hr.next⟩, hr.src⟩
  have hfill : Filling e.engineStatusRead.xdmaEngineStop (t'.currentList * 512) g.fresh :=
    hb.filling.congr (fun _ _ => rfl) (fun _ _ => rfl)
  obtain ⟨b, m, hfl⟩ := hb.flight
  obtain ⟨rs, hrs, hdone⟩ := hfl.complete (Nat.mod_lt _ (by decide)) hstop
  have hne : g.fresh ≠ [] := List.ne_nil_of_length_pos hpos
  rw [TxLog.observe_launched _ e (setControl e.engineStatusRead.xdmaEngineStop _ _) _ rfl]
  exact ChanInv.launch hcur (hstopped.setControl _ _) hrs hdone hacc
    (hfill.mark hne) hne hle

end Phases

/-! ## What a channel has sent -/

section Sent

variable {list : AxTxList} {e : XdmaEngine}

/-- The half the engine was last started on, while the driver counts the engine as running. -/
def runningHalf (e : XdmaEngine) : Option ℕ :=
  if e.running then
    e.hw.runs.head?.bind fun r => (blockIndex e.descBus.bus XDMA_DESC_SIZE r.first).map (· / 512)
  else none

/-- An engine that counts as running has the half that is not being filled, with the last batch. -/
theorem ChanInv.runningHalf {old : List HwRun} {g : TxLog} (hinv : ChanInv old list e g) {k : ℕ}
    (hk : runningHalf e = some k) :
    ∃ t b bs, Busy old t list e g ∧ t.currentList < DESC_LIST_NUM ∧
      k = (t.currentList + 1) % DESC_LIST_NUM ∧ g.batches = b :: bs ∧ Loaded e (k * 512) b := by
  obtain ⟨t, -, hcur, -, hi | hb⟩ := hinv
  · rw [Net.runningHalf, hi.running] at hk
    cases hk
  · obtain ⟨b, m, hfl⟩ := hb.flight
    obtain ⟨rs, bs, hbs, -, hruns⟩ := hfl.runs
    have hkeq : (t.currentList + 1) % DESC_LIST_NUM * 512 / 512 = k := by
      simpa only [Net.runningHalf, hb.running, hruns, if_true, List.head?_cons, Option.bind_some,
        descAddr, blockIndex_add _ _ (show 0 < XDMA_DESC_SIZE by decide), Option.map_some,
        Option.some.injEq] using hk
    rw [Nat.mul_div_cancel _ (by decide)] at hkeq
    subst hkeq
    exact ⟨t, b, bs, hb, hcur, rfl, hbs, hfl.loaded⟩

/-- Complete runs have sent their batches. -/
theorem map_moved_of_complete {bus : ℕ} {rs : List HwRun} {bs : List (List (List UInt8))}
    (h : List.Forall₂ (Complete bus) rs bs) : rs.map HwRun.moved = bs := by
  induction h with
  | nil => rfl
  | cons hr _ ih => rw [List.map_cons, ih, hr.1.stopped.mp hr.2]

/-- What the runs of a channel have sent is a prefix of what the channel has accepted. -/
theorem ChanInv.runs {old : List HwRun} {g : TxLog} (hinv : ChanInv old list e g) :
    ∃ runs, e.hw.runs = runs ++ old ∧ List.Forall₂ (RunOf e.descBus.bus) runs g.batches ∧
      (∀ r ∈ runs.tail, r.stopped = true) ∧
      (runs.reverse.map HwRun.moved).flatten <+: g.accepted := by
  have hweak : ∀ {rs bs}, List.Forall₂ (Complete e.descBus.bus) rs bs →
      List.Forall₂ (RunOf e.descBus.bus) rs bs := fun h => h.imp fun _ _ hc => hc.1
  have hstopped : ∀ {rs bs}, List.Forall₂ (Complete e.descBus.bus) rs bs →
      ∀ r ∈ rs, r.stopped = true := by
    intro rs bs h
    induction h with
    | nil => simp
    | cons hr _ ih =>
        intro r hmem
        rcases List.mem_cons.mp hmem with rfl | hmem
        · exact hr.2
        · exact ih r hmem
  obtain ⟨t, -, hcur, hacc, hi | hb⟩ := hinv
  · obtain ⟨rs, hruns, hdone⟩ := hi.runs
    refine ⟨rs, hruns, hweak hdone, fun r hmem => hstopped hdone r (List.mem_of_mem_tail hmem), ?_⟩
    rw [List.map_reverse, map_moved_of_complete hdone, hacc]
    exact List.prefix_append _ _
  · obtain ⟨b, m, hfl⟩ := hb.flight
    obtain ⟨rs, bs, hbs, hdone, hruns⟩ := hfl.runs
    refine ⟨_ :: rs, hruns, ?_, hstopped hdone, ?_⟩
    · rw [hbs]
      exact (hweak hdone).cons (hfl.runOf (Nat.mod_lt _ (by decide)))
    · -- all runs but the current one are complete; the current one has sent a part of its batch
      rw [hacc, hbs, List.map_reverse, List.map_cons, map_moved_of_complete hdone,
        List.reverse_cons, List.reverse_cons, List.flatten_append, List.flatten_append,
        List.flatten_singleton, List.flatten_singleton, List.append_assoc]
      exact (List.prefix_append_right_inj _).mpr
        ((List.take_prefix _ _).trans (List.prefix_append _ _))

end Sent

end Axm57104.Net
