import Axm57104.Switch.Capture

/-!
# Concurrent drains of the capture FIFOs

Four pieces of driver code read the capture registers: the receive path and the transmit look-up,
under `txrx_timestamp_lock`, and the PTP interrupt and the `ioctl` that cleans the receive FIFO,
without it. Each reads a record in up to eight accesses, of which the last, to the message info, pops
the record for everybody.

`drainMachine` runs any number of such callers, one register access at a time. A record is whole when
all accesses that filled it showed the same record of the device.
-/

namespace Axm57104.Switch

open Common

/-- Who drains: `ax_rx_check_timestamp`, `ax_tsn_tx_hwtstamp`, `ax_tsn_irq_ptp`,
`ioctl_clean_FIFO`. -/
inductive Caller
  | rxCheckTimestamp
  | txHwtstamp
  | irqPtp
  | cleanFifo
  deriving DecidableEq, Repr

/-- The next access of a caller. -/
inductive DrainPc
  | idle
  | lock
  | status (dir : Dir)
  | port (dir : Dir)
  | lo (dir : Dir) (i : ℕ)
  | hi (dir : Dir) (i : ℕ)
  | info (dir : Dir)
  | insert (dir : Dir)
  | unlock
  deriving DecidableEq, Repr

namespace Caller

/-- The callers that hold `txrx_timestamp_lock` while they drain. -/
def locks : Caller → Bool
  | .rxCheckTimestamp | .txHwtstamp => true
  | .irqPtp | .cleanFifo => false

/-- Where a call begins. -/
def entry (c : Caller) : DrainPc := if c.locks then .lock else .status .rx

/-- What follows the status bit that says the FIFO is not empty. -/
def firstRead : Caller → Dir → DrainPc
  | .cleanFifo, dir => .info dir
  | _, dir => .port dir

/-- What follows the status bit that says the FIFO is empty. -/
def nextFifo : Caller → Dir → DrainPc
  | .rxCheckTimestamp, _ => .unlock
  | .txHwtstamp, .rx => .status .tx
  | .txHwtstamp, .tx => .unlock
  | .irqPtp, .rx => .status .tx
  | .irqPtp, .tx => .idle
  | .cleanFifo, _ => .idle

/-- How a caller inserts. -/
def insertItem {maxNumItems : ℕ} : Caller → TsQueue maxNumItems → CaptureData → TsQueue maxNumItems
  | .rxCheckTimestamp => tsnTsqInsertItem
  | _ => axInsertItems

end Caller

/-- A caller with its local `ts`, and the number of the record that each access to the present `ts`
showed (none for a read of an empty FIFO). -/
structure Drainer where
  caller : Caller
  pc : DrainPc
  ts : CaptureData
  sources : List (Option ℕ)

/-- One inserted `CAPTURE_DATA`, and where its parts come from. -/
structure Insertion where
  ts : CaptureData
  sources : List (Option ℕ)

variable {cap : Dir → ℕ} {n : ℕ}

/-- What the callers share. The records of each FIFO are numbered in the order of their capture;
`popped` counts those that have left it. -/
structure DrainShared (cap : Dir → ℕ) (n : ℕ) where
  sw : AxSwitch cap
  owner : Option (Fin n)
  captured : Dir → List HwRecord
  popped : Dir → ℕ
  inserted : Dir → List Insertion

/-- `n` callers. -/
structure DrainState (cap : Dir → ℕ) (n : ℕ) where
  shared : DrainShared cap n
  thread : Fin n → Drainer

/-- The message info of an empty FIFO was read. -/
inductive DrainFault
  | emptyRead (dir : Dir)
  deriving DecidableEq

inductive DrainEvent (n : ℕ)
  | capture (dir : Dir) (r : HwRecord)
  | call (t : Fin n) (caller : Caller) (ts : CaptureData)
  | step (t : Fin n)

namespace DrainShared

/-- The number of the record that the registers of a FIFO show. -/
def source (s : DrainShared cap n) (dir : Dir) : Option ℕ :=
  if s.sw.dev.fifo dir = [] then none else some (s.popped dir)

/-- A read of the register at `addr`. -/
def read (s : DrainShared cap n) (addr : ℕ) : UInt32 × DrainShared cap n :=
  let (v, dev) := s.sw.dev.read addr
  (v, { s with sw := { s.sw with dev := dev } })

/-- The device captures a record. -/
def capture (s : DrainShared cap n) (dir : Dir) (r : HwRecord) : DrainShared cap n :=
  { s with
    sw := (s.sw.step (.capture dir r)).1
    captured := Function.update s.captured dir (s.captured dir ++ [r]) }

/-- `ts` goes into a queue. -/
def insert (s : DrainShared cap n) (dir : Dir) (d : Drainer) : DrainShared cap n :=
  { s with
    sw := { s.sw with
      queue := Function.update s.sw.queue dir (d.caller.insertItem (s.sw.queue dir) d.ts) }
    inserted := Function.update s.inserted dir (⟨d.ts, d.sources⟩ :: s.inserted dir) }

end DrainShared

/-- The message info in the local `ts`; `ioctl_clean_FIFO` throws it away. -/
def Drainer.withInfo (d : Drainer) (dir : Dir) (source : Option ℕ) (msgInfo : UInt32) : Drainer :=
  match d.caller with
  | .cleanFifo => { d with pc := .status dir }
  | _ =>
      { d with
        pc := .insert dir
        ts := { d.ts with
          msgType := (msgInfo &&& 0xF).toUInt8
          sequenceId := ((msgInfo >>> 12) &&& 0xFFFF).toUInt16
          domainNumber := ((msgInfo >>> 4) &&& 0xFF).toUInt8 }
        sources := d.sources ++ [source] }

/-- One access of a caller. -/
def Drainer.step (me : Fin n) (s : DrainShared cap n) (d : Drainer) :
    Except DrainFault (DrainShared cap n × Drainer) :=
  match d.pc with
  | .idle => .ok (s, d)
  | .lock => .ok ({ s with owner := some me }, { d with pc := .status .rx })
  | .status dir =>
      let (v, s) := s.read PTP_TIMESTAMP_CTRL
      .ok (s, { d with
        pc := if v &&& ptpFifoStatus dir ≠ 0 then d.caller.firstRead dir else d.caller.nextFifo dir })
  | .port dir =>
      let (v, s') := s.read (ptpPort dir)
      .ok (s', { d with
        pc := .lo dir 0
        ts := { d.ts with portId := v.toUInt8 }
        sources := [s.source dir] })
  | .lo dir i =>
      let (v, s') := s.read (ptpFrTimestampLo dir + 4 * (i * 2))
      .ok (s', { d with
        pc := .hi dir i
        ts := { d.ts with timestampL := d.ts.timestampL.setIfInBounds i v }
        sources := d.sources ++ [s.source dir] })
  | .hi dir i =>
      let (v, s') := s.read (ptpFrTimestampHi dir + 4 * (i * 2))
      .ok (s', { d with
        pc := if i + 1 < s.sw.numberOfDomains + 1 then .lo dir (i + 1) else .info dir
        ts := { d.ts with timestampH := d.ts.timestampH.setIfInBounds i v }
        sources := d.sources ++ [s.source dir] })
  | .info dir =>
      if s.sw.dev.fifo dir = [] then .error (.emptyRead dir)
      else
        let (v, s') := s.read (ptpMessageInfo dir)
        .ok ({ s' with popped := Function.update s.popped dir (s.popped dir + 1) },
          d.withInfo dir (s.source dir) v)
  | .insert dir => .ok (s.insert dir d, { d with pc := .status dir })
  | .unlock => .ok ({ s with owner := none }, { d with pc := .idle })

/-- Captures, calls and accesses in any order; the lock is free when it is taken. -/
def drainMachine (cap : Dir → ℕ) (n : ℕ) : Machine (DrainState cap n) (DrainEvent n) DrainFault where
  enabled s
    | .capture _ _ => True
    | .call t _ _ => (s.thread t).pc = .idle
    | .step t => (s.thread t).pc ≠ .idle ∧ ((s.thread t).pc = .lock → s.shared.owner = none)
  exec s
    | .capture dir r => .ok { s with shared := s.shared.capture dir r }
    | .call t caller ts =>
        .ok { s with thread := Function.update s.thread t ⟨caller, caller.entry, ts, []⟩ }
    | .step t => do
        let (shared, d) ← (s.thread t).step t s.shared
        .ok ⟨shared, Function.update s.thread t d⟩

/-- All parts of an inserted record were read from one record of the device. -/
def DrainShared.Whole (s : DrainShared cap n) (dir : Dir) (x : Insertion) : Prop :=
  ∃ k r ts, (s.captured dir)[k]? = some r ∧ (∀ source ∈ x.sources, source = some k) ∧
    x.ts = r.decode s.sw.numberOfDomains ts

/-- The caller has read a part of the oldest record of a FIFO, and has more of it to read. -/
def Drainer.Within (d : Drainer) (dir : Dir) : Prop :=
  match d.pc with
  | .lo dir' _ | .hi dir' _ => dir' = dir
  | .info dir' => dir' = dir ∧ d.caller ≠ .cleanFifo
  | _ => False

/-- The caller has seen that a FIFO is not empty, and has not read its oldest record yet. -/
def Drainer.Before (d : Drainer) (dir : Dir) : Prop :=
  match d.pc with
  | .port dir' => dir' = dir
  | .info dir' => dir' = dir ∧ d.caller = .cleanFifo
  | _ => False

/-- A caller pops a record only when no other one is within it, and leaves a record behind for those
that have seen the FIFO not empty. Callers that both take the lock need not be told apart. -/
def PopsAlone (s : DrainState cap n) : DrainEvent n → Prop
  | .step t =>
      ∀ dir, (s.thread t).pc = .info dir → ∀ t', t' ≠ t →
        ((s.thread t).caller.locks && (s.thread t').caller.locks) = false →
          ¬ (s.thread t').Within dir ∧
            ((s.thread t').Before dir → 2 ≤ (s.shared.sw.dev.fifo dir).length)
  | _ => True

/-! ## One caller -/

/-- The registers show the oldest record that is left, and what was inserted is whole. -/
structure DrainShared.Consistent (s : DrainShared cap n) : Prop where
  fifo_eq : ∀ dir, s.sw.dev.fifo dir = (s.captured dir).drop (s.popped dir)
  popped_le : ∀ dir, s.popped dir ≤ (s.captured dir).length
  whole : ∀ dir, ∀ x ∈ s.inserted dir, s.Whole dir x

/-- The local `ts` holds the port, the first `lo` low words and the first `hi` high words of the
record `r`, which has the number `k`. -/
structure Drainer.Holds (d : Drainer) (r : HwRecord) (k lo hi : ℕ) : Prop where
  sources : ∀ source ∈ d.sources, source = some k
  port : d.ts.portId = r.port.toUInt8
  low : ∀ j : Fin (MAX_NUM_DOMAINS + 1), j.val < lo → d.ts.timestampL.get j = r.timestamp[j].1
  high : ∀ j : Fin (MAX_NUM_DOMAINS + 1), j.val < hi → d.ts.timestampH.get j = r.timestamp[j].2

/-- What a caller knows at each of its accesses, for the records `captured` of which the first
`popped` are gone. -/
def Drainer.Ok (numberOfDomains : ℕ) (captured : Dir → List HwRecord) (popped : Dir → ℕ)
    (d : Drainer) : Prop :=
  match d.pc with
  | .idle | .status _ => True
  | .lock | .unlock => d.caller.locks = true
  | .port dir => popped dir < (captured dir).length
  | .lo dir i => i ≤ numberOfDomains ∧
      ∃ r, (captured dir)[popped dir]? = some r ∧ d.Holds r (popped dir) i i
  | .hi dir i => i ≤ numberOfDomains ∧
      ∃ r, (captured dir)[popped dir]? = some r ∧ d.Holds r (popped dir) (i + 1) i
  | .info dir => popped dir < (captured dir).length ∧ (d.caller ≠ .cleanFifo →
      ∃ r, (captured dir)[popped dir]? = some r ∧
        d.Holds r (popped dir) (numberOfDomains + 1) (numberOfDomains + 1))
  | .insert dir => ∃ k r ts, (captured dir)[k]? = some r ∧
      (∀ source ∈ d.sources, source = some k) ∧ d.ts = r.decode numberOfDomains ts

/-- Between taking the lock and releasing it. -/
def Drainer.Critical (d : Drainer) : Prop := d.caller.locks = true ∧ d.pc ≠ .idle ∧ d.pc ≠ .lock

section Frame

variable {numberOfDomains : ℕ} {captured captured' : Dir → List HwRecord} {popped popped' : Dir → ℕ}
  {d : Drainer}

/-- A caller is left alone by captures, and by pops of records it is not within. -/
theorem Drainer.Ok.frame (h : d.Ok numberOfDomains captured popped)
    (hcaptured : ∀ dir, captured dir <+: captured' dir)
    (hwithin : ∀ dir, d.Within dir → popped' dir = popped dir)
    (hbefore : ∀ dir, d.Before dir → popped' dir < (captured' dir).length) :
    d.Ok numberOfDomains captured' popped' := by
  have hkept : ∀ {dir : Dir} {k : ℕ} {r : HwRecord}, (captured dir)[k]? = some r →
      (captured' dir)[k]? = some r := by
    intro dir k r hr
    obtain ⟨rest, hrest⟩ := hcaptured dir
    rw [← hrest, List.getElem?_append_left (List.getElem?_eq_some_iff.mp hr).1]
    exact hr
  obtain ⟨caller, pc, ts, sources⟩ := d
  cases pc with
  | idle | status => trivial
  | lock | unlock => exact h
  | port dir => exact hbefore dir rfl
  | lo dir i =>
      obtain ⟨hi, r, hr, hholds⟩ := h
      have hsame := hwithin dir rfl
      refine ⟨hi, r, ?_, ?_⟩
      · rw [hsame]
        exact hkept hr
      · rw [hsame]
        exact hholds
  | hi dir i =>
      obtain ⟨hi, r, hr, hholds⟩ := h
      have hsame := hwithin dir rfl
      refine ⟨hi, r, ?_, ?_⟩
      · rw [hsame]
        exact hkept hr
      · rw [hsame]
        exact hholds
  | info dir =>
      obtain ⟨hlt, hrecord⟩ := h
      by_cases hclean : caller = .cleanFifo
      · exact ⟨hbefore dir ⟨rfl, hclean⟩, fun hne => absurd hclean hne⟩
      · have hsame := hwithin dir ⟨rfl, hclean⟩
        obtain ⟨r, hr, hholds⟩ := hrecord hclean
        have hr' := hkept hr
        rw [← hsame] at hr' hholds
        exact ⟨(List.getElem?_eq_some_iff.mp hr').1, fun _ => ⟨r, hr', hholds⟩⟩
  | insert dir =>
      obtain ⟨k, r, ts, hr, hsources, hts⟩ := h
      exact ⟨k, r, ts, hkept hr, hsources, hts⟩

theorem Drainer.Ok.before_lt (h : d.Ok numberOfDomains captured popped) {dir : Dir}
    (hbefore : d.Before dir) : popped dir < (captured dir).length := by
  obtain ⟨caller, pc, ts, sources⟩ := d
  cases pc with
  | port dir' =>
      cases hbefore
      exact h
  | info dir' =>
      obtain ⟨rfl, -⟩ := hbefore
      exact h.1
  | _ => cases hbefore

theorem Drainer.Ok.locks_of_unlock (h : d.Ok numberOfDomains captured popped)
    (hpc : d.pc = .unlock) : d.caller.locks = true := by
  obtain ⟨caller, pc, ts, sources⟩ := d
  cases hpc
  exact h

/-- A caller that is within a record, or before one, is neither idle nor waiting for the lock. -/
theorem Drainer.critical_of_reading {dir : Dir} (h : d.Within dir ∨ d.Before dir)
    (hlocks : d.caller.locks = true) : d.Critical := by
  refine ⟨hlocks, ?_, ?_⟩
  · intro hpc
    simp [Drainer.Within, Drainer.Before, hpc] at h
  · intro hpc
    simp [Drainer.Within, Drainer.Before, hpc] at h

end Frame

namespace DrainShared

variable {s : DrainShared cap n} {dir : Dir} {r : HwRecord} {rest : List HwRecord}

theorem captured_mono (s : DrainShared cap n) (dir : Dir) (r : HwRecord) (dir' : Dir) :
    s.captured dir' <+: (s.capture dir r).captured dir' := by
  by_cases heq : dir' = dir
  · subst heq
    simp only [DrainShared.capture, Function.update_self]
    exact List.prefix_append _ _
  · simp only [DrainShared.capture, Function.update_of_ne heq]
    exact List.prefix_rfl

theorem Consistent.head (hs : s.Consistent) (hr : (s.captured dir)[s.popped dir]? = some r) :
    s.sw.dev.fifo dir = r :: (s.captured dir).drop (s.popped dir + 1) := by
  obtain ⟨hlt, rfl⟩ := List.getElem?_eq_some_iff.mp hr
  rw [hs.fifo_eq, List.drop_eq_getElem_cons hlt]

theorem Consistent.ne_nil_iff (hs : s.Consistent) :
    s.sw.dev.fifo dir ≠ [] ↔ s.popped dir < (s.captured dir).length := by
  rw [hs.fifo_eq, ne_eq, List.drop_eq_nil_iff, Nat.not_le]

theorem source_of_cons (h : s.sw.dev.fifo dir = r :: rest) : s.source dir = some (s.popped dir) := by
  rw [source, if_neg (by rw [h]; exact List.cons_ne_nil _ _)]

theorem read_port (h : s.sw.dev.fifo dir = r :: rest) : s.read (ptpPort dir) = (r.port, s) := by
  rw [read, PtpDev.read_port h]

theorem read_timestampLo (h : s.sw.dev.fifo dir = r :: rest) {i : ℕ} (hi : i < 5) :
    s.read (ptpFrTimestampLo dir + 4 * (i * 2)) = (r.timestamp[i].1, s) := by
  rw [read, PtpDev.read_timestampLo h hi]

theorem read_timestampHi (h : s.sw.dev.fifo dir = r :: rest) {i : ℕ} (hi : i < 5) :
    s.read (ptpFrTimestampHi dir + 4 * (i * 2)) = (r.timestamp[i].2, s) := by
  rw [read, PtpDev.read_timestampHi h hi]

theorem read_messageInfo (h : s.sw.dev.fifo dir = r :: rest) :
    s.read (ptpMessageInfo dir) =
      (r.messageInfo, { s with sw := { s.sw with dev := s.sw.dev.pop dir } }) := by
  rw [read, PtpDev.read_messageInfo h]

/-- Popping the oldest record of a FIFO. -/
def popRecord (s : DrainShared cap n) (dir : Dir) : DrainShared cap n :=
  { s with
    sw := { s.sw with dev := s.sw.dev.pop dir }
    popped := Function.update s.popped dir (s.popped dir + 1) }

theorem Consistent.popRecord (hs : s.Consistent) (hlt : s.popped dir < (s.captured dir).length) :
    (s.popRecord dir).Consistent where
  fifo_eq := by
    intro dir'
    by_cases heq : dir' = dir
    · subst heq
      simp only [DrainShared.popRecord, PtpDev.fifo_pop_self, Function.update_self, hs.fifo_eq,
        List.tail_drop]
    · simp only [DrainShared.popRecord, PtpDev.pop, Function.update_of_ne heq, hs.fifo_eq]
  popped_le := by
    intro dir'
    by_cases heq : dir' = dir
    · subst heq
      simp only [DrainShared.popRecord, Function.update_self]
      exact hlt
    · simpa only [DrainShared.popRecord, Function.update_of_ne heq] using hs.popped_le dir'
  whole := hs.whole

theorem Consistent.insert (hs : s.Consistent) {d : Drainer}
    (hd : s.Whole dir ⟨d.ts, d.sources⟩) : (s.insert dir d).Consistent where
  fifo_eq := hs.fifo_eq
  popped_le := hs.popped_le
  whole := by
    intro dir' x hx
    by_cases heq : dir' = dir
    · subst heq
      simp only [DrainShared.insert, Function.update_self] at hx
      rcases List.mem_cons.mp hx with rfl | hx
      · exact hd
      · exact hs.whole dir' x hx
    · simp only [DrainShared.insert, Function.update_of_ne heq] at hx
      exact hs.whole dir' x hx

theorem Consistent.capture (hs : s.Consistent) (dir : Dir) (r : HwRecord) :
    (s.capture dir r).Consistent where
  fifo_eq := by
    intro dir'
    by_cases heq : dir' = dir
    · subst heq
      simp only [DrainShared.capture, AxSwitch.step, Function.update_self, hs.fifo_eq]
      rw [List.drop_append_of_le_length (hs.popped_le dir')]
    · simp only [DrainShared.capture, AxSwitch.step, Function.update_of_ne heq, hs.fifo_eq]
  popped_le := by
    intro dir'
    exact (hs.popped_le dir').trans (captured_mono s dir r dir').length_le
  whole := by
    intro dir' x hx
    obtain ⟨k, r', ts, hr, hsources, hts⟩ := hs.whole dir' x hx
    obtain ⟨rest, hrest⟩ := captured_mono s dir r dir'
    refine ⟨k, r', ts, ?_, hsources, hts⟩
    rw [← hrest, List.getElem?_append_left (List.getElem?_eq_some_iff.mp hr).1]
    exact hr

end DrainShared

/-- What an access of a caller that knows what it should know can be: it leaves the FIFOs and what
was captured alone, or pops the record it is about to finish. -/
structure Drainer.Stepped (me : Fin n) (s : DrainShared cap n) (d : Drainer) (s' : DrainShared cap n)
    (d' : Drainer) : Prop where
  consistent : s'.Consistent
  ok : d'.Ok s'.sw.numberOfDomains s'.captured s'.popped
  numberOfDomains_eq : s'.sw.numberOfDomains = s.sw.numberOfDomains
  captured_eq : s'.captured = s.captured
  caller_eq : d'.caller = d.caller
  popped_eq : (s'.popped = s.popped ∧ ∀ dir, d.pc ≠ .info dir) ∨
    ∃ dir, d.pc = .info dir ∧ s'.popped = Function.update s.popped dir (s.popped dir + 1)
  owner_eq : s'.owner = if d.pc = .lock then some me else if d.pc = .unlock then none else s.owner
  critical : d'.pc ≠ .lock ∧ (d.pc = .unlock → d'.pc = .idle) ∧ (d.pc = .idle → d'.pc = .idle)

section Step

variable {me : Fin n} {s : DrainShared cap n} {d : Drainer}

/-- One word more is read. -/
theorem get_setIfInBounds_words {m : ℕ} {words : Vector UInt32 m} {f : Fin m → UInt32} {i : ℕ}
    {w : UInt32} (hw : ∀ hi, w = f ⟨i, hi⟩) (h : ∀ j : Fin m, j.val < i → words.get j = f j)
    (j : Fin m) (hj : j.val < i + 1) : (words.setIfInBounds i w).get j = f j := by
  show (words.setIfInBounds i w)[j.val] = f j
  by_cases heq : i = j.val
  · subst heq
    rw [Vector.getElem_setIfInBounds, if_pos rfl, hw j.isLt]
  · rw [Vector.getElem_setIfInBounds, if_neg heq]
    exact h j (by omega)

/-- All the words are read. -/
theorem eq_ofFn_words {m n : ℕ} {words : Vector UInt32 m} {f : Fin m → UInt32}
    (h : ∀ j : Fin m, j.val < n + 1 → words.get j = f j) :
    words = .ofFn fun j => if j.val ≤ n then f j else words.get j := by
  apply Vector.ext
  intro j hj
  rw [Vector.getElem_ofFn]
  split
  · rename_i hle
    exact h ⟨j, hj⟩ (Nat.lt_succ_of_le hle)
  · rfl

theorem sources_append {sources : List (Option ℕ)} {k : ℕ} (h : ∀ source ∈ sources, source = some k) :
    ∀ source ∈ sources ++ [some k], source = some k :=
  List.forall_mem_append.mpr ⟨h, fun _ hsource => List.mem_singleton.mp hsource⟩

theorem Drainer.Holds.mk_lo {r : HwRecord} {k i : ℕ} (h : d.Holds r k i i) (hi : i < 5) (pc : DrainPc) :
    Drainer.Holds ⟨d.caller, pc,
      { d.ts with timestampL := d.ts.timestampL.setIfInBounds i r.timestamp[i].1 },
      d.sources ++ [some k]⟩ r k (i + 1) i where
  sources := sources_append h.sources
  port := h.port
  low := get_setIfInBounds_words (fun _ => rfl) h.low
  high := h.high

theorem Drainer.Holds.mk_hi {r : HwRecord} {k i : ℕ} (h : d.Holds r k (i + 1) i) (hi : i < 5)
    (pc : DrainPc) :
    Drainer.Holds ⟨d.caller, pc,
      { d.ts with timestampH := d.ts.timestampH.setIfInBounds i r.timestamp[i].2 },
      d.sources ++ [some k]⟩ r k (i + 1) (i + 1) where
  sources := sources_append h.sources
  port := h.port
  low := h.low
  high := get_setIfInBounds_words (fun _ => rfl) h.high

/-- With all its words read, `ts` is the record but for the message info. -/
theorem Drainer.Holds.decode {r : HwRecord} {k numberOfDomains : ℕ}
    (h : d.Holds r k (numberOfDomains + 1) (numberOfDomains + 1)) :
    { d.ts with
      msgType := (r.messageInfo &&& 0xF).toUInt8
      sequenceId := ((r.messageInfo >>> 12) &&& 0xFFFF).toUInt16
      domainNumber := ((r.messageInfo >>> 4) &&& 0xFF).toUInt8 } =
    r.decode numberOfDomains d.ts := by
  simp only [HwRecord.decode, CaptureData.mk.injEq, msgType_bits, sequenceId_bits,
    domainNumber_bits, and_true]
  exact ⟨h.port, eq_ofFn_words h.low, eq_ofFn_words h.high⟩

/-- A step that leaves the device and the log alone. -/
theorem Drainer.Stepped.of_quiet {d' : Drainer} {s' : DrainShared cap n} (hs : s.Consistent)
    (hsw : s'.sw = s.sw) (hcaptured : s'.captured = s.captured) (hpopped : s'.popped = s.popped)
    (hinserted : s'.inserted = s.inserted) (hcaller : d'.caller = d.caller)
    (hinfo : ∀ dir, d.pc ≠ .info dir)
    (howner : s'.owner = if d.pc = .lock then some me else if d.pc = .unlock then none else s.owner)
    (hcritical : d'.pc ≠ .lock ∧ (d.pc = .unlock → d'.pc = .idle) ∧ (d.pc = .idle → d'.pc = .idle))
    (hok : d'.Ok s.sw.numberOfDomains s.captured s.popped) : d.Stepped me s s' d' := by
  obtain ⟨sw, owner, captured, popped, inserted⟩ := s'
  cases hsw
  cases hcaptured
  cases hpopped
  cases hinserted
  exact ⟨⟨hs.fifo_eq, hs.popped_le, hs.whole⟩, hok, rfl, rfl, hcaller, .inl ⟨rfl, hinfo⟩, howner,
    hcritical⟩

/-- Where the status bit sends a caller. -/
theorem Drainer.ok_status (hs : s.Consistent) (dir : Dir) :
    Drainer.Ok s.sw.numberOfDomains s.captured s.popped { d with
      pc := if (s.sw.dev.read PTP_TIMESTAMP_CTRL).1 &&& ptpFifoStatus dir ≠ 0 then
        d.caller.firstRead dir else d.caller.nextFifo dir } := by
  obtain ⟨caller, pc, ts, sources⟩ := d
  split
  · rename_i hbit
    have hlt := hs.ne_nil_iff.mp ((s.sw.dev.fifoStatus_ne_zero_iff dir).mp hbit)
    cases caller with
    | cleanFifo => exact ⟨hlt, fun hne => absurd rfl hne⟩
    | _ => exact hlt
  · cases caller <;> cases dir <;> trivial

theorem Caller.firstRead_ne (c : Caller) (dir : Dir) : c.firstRead dir ≠ .lock := by
  cases c <;> exact DrainPc.noConfusion

theorem Caller.nextFifo_ne (c : Caller) (dir : Dir) : c.nextFifo dir ≠ .lock := by
  cases c <;> cases dir <;> exact DrainPc.noConfusion

/-- The pop at the end of a record. -/
theorem Drainer.stepped_info {dir : Dir} {r : HwRecord} (hs : s.Consistent) (hpc : d.pc = .info dir)
    (hr : (s.captured dir)[s.popped dir]? = some r)
    (hholds : d.caller ≠ .cleanFifo →
      d.Holds r (s.popped dir) (s.sw.numberOfDomains + 1) (s.sw.numberOfDomains + 1)) :
    d.Stepped me s (s.popRecord dir) (d.withInfo dir (some (s.popped dir)) r.messageInfo) := by
  have hlt := (List.getElem?_eq_some_iff.mp hr).1
  refine ⟨hs.popRecord hlt, ?_, rfl, rfl, ?_, .inr ⟨dir, hpc, rfl⟩, ?_, ?_⟩
  · by_cases hclean : d.caller = .cleanFifo
    · simp only [Drainer.withInfo, hclean]
      trivial
    · have hts := (hholds hclean).decode
      have hsources := (hholds hclean).sources
      obtain ⟨caller, pc, ts, sources⟩ := d
      cases caller with
      | cleanFifo => exact absurd rfl hclean
      | _ => exact ⟨s.popped dir, r, ts, hr, sources_append hsources, hts⟩
  · unfold Drainer.withInfo
    split <;> rfl
  · simp only [hpc, reduceCtorEq, if_false]
    rfl
  · unfold Drainer.withInfo
    rw [hpc]
    split <;> simp

/-- The domains of a switch fit into a record. -/
theorem AxSwitch.lt_of_le_numberOfDomains (sw : AxSwitch cap) {i : ℕ} (hi : i ≤ sw.numberOfDomains.val) :
    i < 5 :=
  Nat.lt_of_le_of_lt (hi.trans sw.numberOfDomains.2) (by decide)

section Access

variable {caller : Caller} {ts : CaptureData} {sources : List (Option ℕ)} {dir : Dir} {i : ℕ}

theorem Drainer.exists_step_port (hs : s.Consistent)
    (hd : Drainer.Ok s.sw.numberOfDomains s.captured s.popped ⟨caller, .port dir, ts, sources⟩) :
    ∃ s' d', Drainer.step me s ⟨caller, .port dir, ts, sources⟩ = .ok (s', d') ∧
      Drainer.Stepped me s ⟨caller, .port dir, ts, sources⟩ s' d' := by
  have hlt : s.popped dir < (s.captured dir).length := hd
  obtain ⟨r, hr⟩ : ∃ r, (s.captured dir)[s.popped dir]? = some r :=
    ⟨_, List.getElem?_eq_getElem hlt⟩
  have hhead := hs.head hr
  refine ⟨s, ⟨caller, .lo dir 0, { ts with portId := r.port.toUInt8 }, [some (s.popped dir)]⟩, ?_,
    .of_quiet hs rfl rfl rfl rfl rfl nofun rfl (by simp) ⟨Nat.zero_le _, r, hr, ?_⟩⟩
  · simp only [Drainer.step, DrainShared.read_port hhead, DrainShared.source_of_cons hhead]
  · exact ⟨fun source h => List.mem_singleton.mp h, rfl, nofun, nofun⟩

theorem Drainer.exists_step_lo (hs : s.Consistent)
    (hd : Drainer.Ok s.sw.numberOfDomains s.captured s.popped ⟨caller, .lo dir i, ts, sources⟩) :
    ∃ s' d', Drainer.step me s ⟨caller, .lo dir i, ts, sources⟩ = .ok (s', d') ∧
      Drainer.Stepped me s ⟨caller, .lo dir i, ts, sources⟩ s' d' := by
  obtain ⟨hi, r, hr, hholds⟩ := hd
  have hhead := hs.head hr
  have hi5 := s.sw.lt_of_le_numberOfDomains hi
  have hstep : Drainer.step me s ⟨caller, .lo dir i, ts, sources⟩ = .ok (s, ⟨caller, .hi dir i,
      { ts with timestampL := ts.timestampL.setIfInBounds i r.timestamp[i].1 },
      sources ++ [some (s.popped dir)]⟩) := by
    simp only [Drainer.step, DrainShared.read_timestampLo hhead hi5,
      DrainShared.source_of_cons hhead]
  exact ⟨_, _, hstep, .of_quiet hs rfl rfl rfl rfl rfl nofun rfl (by simp)
    ⟨hi, r, hr, hholds.mk_lo hi5 _⟩⟩

theorem Drainer.exists_step_hi (hs : s.Consistent)
    (hd : Drainer.Ok s.sw.numberOfDomains s.captured s.popped ⟨caller, .hi dir i, ts, sources⟩) :
    ∃ s' d', Drainer.step me s ⟨caller, .hi dir i, ts, sources⟩ = .ok (s', d') ∧
      Drainer.Stepped me s ⟨caller, .hi dir i, ts, sources⟩ s' d' := by
  obtain ⟨hi, r, hr, hholds⟩ := hd
  have hhead := hs.head hr
  have hi5 := s.sw.lt_of_le_numberOfDomains hi
  have hstep : Drainer.step me s ⟨caller, .hi dir i, ts, sources⟩ = .ok (s, ⟨caller,
      if i + 1 < s.sw.numberOfDomains + 1 then .lo dir (i + 1) else .info dir,
      { ts with timestampH := ts.timestampH.setIfInBounds i r.timestamp[i].2 },
      sources ++ [some (s.popped dir)]⟩) := by
    simp only [Drainer.step, DrainShared.read_timestampHi hhead hi5,
      DrainShared.source_of_cons hhead]
  refine ⟨_, _, hstep, .of_quiet hs rfl rfl rfl rfl rfl nofun rfl ?_ ?_⟩
  · simp only
    split <;> simp
  · split
    · rename_i hmore
      exact ⟨by omega, r, hr, hholds.mk_hi hi5 _⟩
    · rename_i hlast
      have heq : i = s.sw.numberOfDomains := by omega
      refine ⟨(List.getElem?_eq_some_iff.mp hr).1, fun _ => ⟨r, hr, ?_⟩⟩
      rw [← heq]
      exact hholds.mk_hi hi5 _

theorem Drainer.exists_step_info (hs : s.Consistent)
    (hd : Drainer.Ok s.sw.numberOfDomains s.captured s.popped ⟨caller, .info dir, ts, sources⟩) :
    ∃ s' d', Drainer.step me s ⟨caller, .info dir, ts, sources⟩ = .ok (s', d') ∧
      Drainer.Stepped me s ⟨caller, .info dir, ts, sources⟩ s' d' := by
  obtain ⟨hlt, hrecord⟩ := hd
  have hr : (s.captured dir)[s.popped dir]? = some (s.captured dir)[s.popped dir] :=
    List.getElem?_eq_getElem hlt
  have hhead := hs.head hr
  refine ⟨_, _, ?_, Drainer.stepped_info hs rfl hr ?_⟩
  · simp only [Drainer.step, hhead, reduceCtorEq, if_false, DrainShared.read_messageInfo hhead,
      DrainShared.source_of_cons hhead]
    rfl
  · intro hclean
    obtain ⟨r, hr', hholds⟩ := hrecord hclean
    rw [hr] at hr'
    cases hr'
    exact hholds

end Access

/-- A caller that knows what it should know makes its next access without a fault. -/
theorem Drainer.exists_step (me : Fin n) (hs : s.Consistent)
    (hd : d.Ok s.sw.numberOfDomains s.captured s.popped) :
    ∃ s' d', d.step me s = .ok (s', d') ∧ d.Stepped me s s' d' := by
  obtain ⟨caller, pc, ts, sources⟩ := d
  cases pc with
  | idle => exact ⟨_, _, rfl, .of_quiet hs rfl rfl rfl rfl rfl nofun rfl (by simp) trivial⟩
  | lock => exact ⟨_, _, rfl, .of_quiet hs rfl rfl rfl rfl rfl nofun rfl (by simp) trivial⟩
  | unlock => exact ⟨_, _, rfl, .of_quiet hs rfl rfl rfl rfl rfl nofun rfl (by simp) trivial⟩
  | status dir =>
      refine ⟨_, _, rfl, .of_quiet hs rfl rfl rfl rfl rfl nofun rfl ⟨?_, nofun, nofun⟩
        (Drainer.ok_status hs dir)⟩
      simp only
      split
      · exact caller.firstRead_ne dir
      · exact caller.nextFifo_ne dir
  | port dir => exact Drainer.exists_step_port hs hd
  | lo dir i => exact Drainer.exists_step_lo hs hd
  | hi dir i => exact Drainer.exists_step_hi hs hd
  | info dir => exact Drainer.exists_step_info hs hd
  | insert dir =>
      exact ⟨_, _, rfl, hs.insert hd, trivial, rfl, rfl, rfl, .inl ⟨rfl, nofun⟩, rfl, by simp⟩

end Step

/-! ## All callers -/

/-- Every caller knows what it should know, and only one of those that take the lock has it. -/
structure DrainState.Inv (s : DrainState cap n) : Prop where
  consistent : s.shared.Consistent
  ok : ∀ t, (s.thread t).Ok s.shared.sw.numberOfDomains s.shared.captured s.shared.popped
  exclusive : ∀ t, (s.thread t).Critical → s.shared.owner = some t

/-- No caller has begun. -/
def DrainState.init (hcap : ∀ dir, 0 < cap dir) (mem : (dir : Dir) → Vector CaptureData (cap dir))
    (numberOfDomains : NumDomains) (dev : PtpDev) (ts : CaptureData) : DrainState cap n where
  shared := ⟨AxSwitch.init hcap mem numberOfDomains dev, none, dev.fifo, fun _ => 0, fun _ => []⟩
  thread _ := ⟨.rxCheckTimestamp, .idle, ts, []⟩

namespace DrainState.Inv

variable {s : DrainState cap n}

theorem init (hcap : ∀ dir, 0 < cap dir) (mem : (dir : Dir) → Vector CaptureData (cap dir))
    (numberOfDomains : NumDomains) (dev : PtpDev) (ts : CaptureData) :
    (DrainState.init hcap mem numberOfDomains dev ts : DrainState cap n).Inv where
  consistent := ⟨fun _ => rfl, fun _ => Nat.zero_le _, fun _ _ h => absurd h List.not_mem_nil⟩
  ok _ := trivial
  exclusive _ h := absurd rfl h.2.1

theorem capture (hs : s.Inv) (dir : Dir) (r : HwRecord) :
    DrainState.Inv { s with shared := s.shared.capture dir r } where
  consistent := hs.consistent.capture dir r
  ok t := by
    have hmono := DrainShared.captured_mono s.shared dir r
    refine (hs.ok t).frame hmono (fun _ _ => rfl) (fun dir' hbefore => ?_)
    exact Nat.lt_of_lt_of_le ((hs.ok t).before_lt hbefore) (hmono dir').length_le
  exclusive := hs.exclusive

theorem call (hs : s.Inv) {t : Fin n} (caller : Caller) (ts : CaptureData) :
    DrainState.Inv { s with thread := Function.update s.thread t ⟨caller, caller.entry, ts, []⟩ } where
  consistent := hs.consistent
  ok t' := by
    by_cases heq : t' = t
    · subst heq
      simp only [Function.update_self]
      cases caller <;> trivial
    · simp only [Function.update_of_ne heq]
      exact hs.ok t'
  exclusive t' := by
    by_cases heq : t' = t
    · subst heq
      simp only [Function.update_self]
      rintro ⟨hlocks, -, hlock⟩
      refine absurd ?_ hlock
      simp only [Caller.entry, hlocks, if_true]
    · simp only [Function.update_of_ne heq]
      exact hs.exclusive t'

/-- Callers that both take the lock are not both between taking and releasing it. -/
theorem not_critical (hs : s.Inv) {t t' : Fin n} (hne : t' ≠ t) (ht : (s.thread t).Critical) :
    ¬ (s.thread t').Critical := by
  intro ht'
  have howner := hs.exclusive t' ht'
  rw [hs.exclusive t ht] at howner
  exact hne (Option.some.inj howner).symm

/-- What the other callers may be doing when one pops a record. -/
theorem others_at_pop (hs : s.Inv) {t t' : Fin n} (halone : PopsAlone s (.step t)) {dir : Dir}
    (hpc : (s.thread t).pc = .info dir) (hne : t' ≠ t) :
    ¬ (s.thread t').Within dir ∧ ((s.thread t').Before dir →
      s.shared.popped dir + 1 < (s.shared.captured dir).length) := by
  cases hboth : (s.thread t).caller.locks && (s.thread t').caller.locks with
  | false =>
      obtain ⟨hwithin, hbefore⟩ := halone dir hpc t' hne hboth
      refine ⟨hwithin, fun hdir => ?_⟩
      have hlength := hbefore hdir
      rw [hs.consistent.fifo_eq, List.length_drop] at hlength
      omega
  | true =>
      -- the lock keeps the other caller out of the FIFO
      obtain ⟨hlocks, hlocks'⟩ := Bool.and_eq_true_iff.mp hboth
      have hcritical : (s.thread t).Critical := by
        refine ⟨hlocks, ?_, ?_⟩ <;>
        · rw [hpc]
          exact DrainPc.noConfusion
      have hout := hs.not_critical hne hcritical
      exact ⟨fun h => absurd (Drainer.critical_of_reading (.inl h) hlocks') hout,
        fun h => absurd (Drainer.critical_of_reading (.inr h) hlocks') hout⟩

theorem step (hs : s.Inv) {t : Fin n} (hlock : (s.thread t).pc = .lock → s.shared.owner = none)
    (halone : PopsAlone s (.step t)) {s' : DrainShared cap n} {d' : Drainer}
    (hstep : (s.thread t).Stepped t s.shared s' d') :
    DrainState.Inv ⟨s', Function.update s.thread t d'⟩ where
  consistent := hstep.consistent
  ok t' := by
    by_cases heq : t' = t
    · subst heq
      simp only [Function.update_self]
      exact hstep.ok
    · simp only [Function.update_of_ne heq]
      rw [hstep.numberOfDomains_eq, hstep.captured_eq]
      rcases hstep.popped_eq with ⟨hpopped, -⟩ | ⟨dir, hpc, hpopped⟩
      · rw [hpopped]
        exact hs.ok t'
      · obtain ⟨hwithin, hbefore⟩ := hs.others_at_pop halone hpc heq
        refine (hs.ok t').frame (fun _ => List.prefix_rfl) ?_ ?_
        · intro dir' hdir
          have hne : dir' ≠ dir := fun h => hwithin (h ▸ hdir)
          rw [hpopped, Function.update_of_ne hne]
        · intro dir' hdir
          by_cases hne : dir' = dir
          · subst hne
            rw [hpopped, Function.update_self]
            exact hbefore hdir
          · rw [hpopped, Function.update_of_ne hne]
            exact (hs.ok t').before_lt hdir
  exclusive t' := by
    by_cases heq : t' = t
    · subst heq
      simp only [Function.update_self]
      rintro ⟨hlocks, hidle, -⟩
      rw [hstep.owner_eq]
      by_cases hpc : (s.thread t').pc = .lock
      · rw [if_pos hpc]
      · rw [if_neg hpc, if_neg fun hpc => hidle (hstep.critical.2.1 hpc)]
        refine hs.exclusive t' ⟨?_, fun hpc => hidle (hstep.critical.2.2 hpc), hpc⟩
        rwa [← hstep.caller_eq]
    · simp only [Function.update_of_ne heq]
      intro hcritical
      have howner := hs.exclusive t' hcritical
      rw [hstep.owner_eq]
      by_cases hpc : (s.thread t).pc = .lock
      · rw [hlock hpc] at howner
        cases howner
      · rw [if_neg hpc, if_neg ?_, howner]
        intro hunlock
        refine hs.not_critical heq ⟨?_, ?_, hpc⟩ hcritical
        · exact (hs.ok t).locks_of_unlock hunlock
        · rw [hunlock]
          exact DrainPc.noConfusion

end DrainState.Inv

section Runs

variable {s : DrainState cap n} {e : DrainEvent n}

theorem DrainState.Inv.exec (hs : s.Inv) (hen : ((drainMachine cap n).restrict PopsAlone).enabled s e) :
    ∃ u, (drainMachine cap n).exec s e = .ok u ∧ u.Inv := by
  cases e with
  | capture dir r => exact ⟨_, rfl, hs.capture dir r⟩
  | call t caller ts => exact ⟨_, rfl, hs.call caller ts⟩
  | step t =>
      obtain ⟨⟨-, hlock⟩, halone⟩ := hen
      obtain ⟨s', d', hrun, hstepped⟩ := Drainer.exists_step t hs.consistent (hs.ok t)
      refine ⟨_, ?_, hs.step hlock halone hstepped⟩
      simp only [drainMachine, hrun]
      rfl

/-- **No torn records.** In every run in which records are popped only when no other caller is within
them, whatever was inserted comes from one record of the device, and no caller reads the message info
of an empty FIFO. -/
theorem drains_whole (hcap : ∀ dir, 0 < cap dir) (mem : (dir : Dir) → Vector CaptureData (cap dir))
    (numberOfDomains : NumDomains) (dev : PtpDev) (ts : CaptureData) {es : List (DrainEvent n)}
    (hr : ((drainMachine cap n).restrict PopsAlone).Run (.init hcap mem numberOfDomains dev ts) es s) :
    (∀ dir, ∀ x ∈ s.shared.inserted dir, s.shared.Whole dir x) ∧
      ∀ e f, ((drainMachine cap n).restrict PopsAlone).enabled s e →
        (drainMachine cap n).exec s e ≠ .error f := by
  have hinv : s.Inv := by
    refine hr.invariant (DrainState.Inv.init hcap mem numberOfDomains dev ts) ?_
    intro t e u ht hen hex
    obtain ⟨u', hex', hu'⟩ := ht.exec hen
    rw [Machine.restrict_exec, hex'] at hex
    cases hex
    exact hu'
  refine ⟨hinv.consistent.whole, fun e f hen hfault => ?_⟩
  obtain ⟨u, hex, -⟩ := hinv.exec hen
  rw [hex] at hfault
  cases hfault

end Runs

/-! ## Two callers -/

instance decidableForallDir (p : Dir → Prop) [∀ dir, Decidable (p dir)] : Decidable (∀ dir, p dir) :=
  decidable_of_iff (p .rx ∧ p .tx) ⟨fun h dir => by cases dir; exacts [h.1, h.2], fun h => ⟨h _, h _⟩⟩

instance (d : Drainer) (dir : Dir) : Decidable (d.Within dir) :=
  match d with
  | ⟨_, .lo dir' _, _, _⟩ | ⟨_, .hi dir' _, _, _⟩ => inferInstanceAs (Decidable (dir' = dir))
  | ⟨c, .info dir', _, _⟩ => inferInstanceAs (Decidable (dir' = dir ∧ c ≠ .cleanFifo))
  | ⟨_, .idle, _, _⟩ | ⟨_, .lock, _, _⟩ | ⟨_, .status _, _, _⟩ | ⟨_, .port _, _, _⟩
  | ⟨_, .insert _, _, _⟩ | ⟨_, .unlock, _, _⟩ => isFalse id

instance (d : Drainer) (dir : Dir) : Decidable (d.Before dir) :=
  match d with
  | ⟨_, .port dir', _, _⟩ => inferInstanceAs (Decidable (dir' = dir))
  | ⟨c, .info dir', _, _⟩ => inferInstanceAs (Decidable (dir' = dir ∧ c = .cleanFifo))
  | ⟨_, .idle, _, _⟩ | ⟨_, .lock, _, _⟩ | ⟨_, .status _, _, _⟩ | ⟨_, .lo _ _, _, _⟩
  | ⟨_, .hi _ _, _, _⟩ | ⟨_, .insert _, _, _⟩ | ⟨_, .unlock, _, _⟩ => isFalse id

instance (s : DrainState cap n) : ∀ e, Decidable (PopsAlone s e)
  | .step t => inferInstanceAs (Decidable (∀ dir, (s.thread t).pc = .info dir → ∀ t', t' ≠ t →
      ((s.thread t).caller.locks && (s.thread t').caller.locks) = false →
        ¬ (s.thread t').Within dir ∧
          ((s.thread t').Before dir → 2 ≤ (s.shared.sw.dev.fifo dir).length)))
  | .capture _ _ | .call _ _ _ => isTrue trivial

instance (s : DrainState cap n) : ∀ e, Decidable ((drainMachine cap n).enabled s e)
  | .capture _ _ => isTrue trivial
  | .call t _ _ => inferInstanceAs (Decidable ((s.thread t).pc = .idle))
  | .step t => inferInstanceAs (Decidable ((s.thread t).pc ≠ .idle ∧
      ((s.thread t).pc = .lock → s.shared.owner = none)))

/-- A frame is received while the receive FIFO is cleaned: queues of one record, and a receive FIFO
that holds the records `fifo`. -/
def cleanInit (fifo : List HwRecord) : DrainState (fun _ => 1) 2 :=
  .init (fun _ => Nat.one_pos) (fun _ => #v[⟨0, .replicate 3 0, .replicate 3 0, 0, 0, 0⟩]) ⟨2, le_rfl⟩
    ⟨fun dir => if dir = .rx then fifo else []⟩ ⟨0, .replicate 3 0, .replicate 3 0, 0, 0, 0⟩

/-- Caller 0 receives, caller 1 cleans. -/
def cleanCalls : List (DrainEvent 2) :=
  [.call 0 .rxCheckTimestamp ⟨0, .replicate 3 0, .replicate 3 0, 0, 0, 0⟩,
    .call 1 .cleanFifo ⟨0, .replicate 3 0, .replicate 3 0, 0, 0, 0⟩]

/-- A record with the time `t` and the sequence number `t`. -/
def timedRecord (t : UInt32) : HwRecord := ⟨3, .replicate 5 (t, t), t <<< 12⟩

/-- The first record is drained whole, the second is thrown away. -/
def inTurn : List (DrainEvent 2) := cleanCalls ++ List.replicate 11 (.step 0) ++ [.step 1, .step 1]

/-- The first record is thrown away when the receiver has read its port and its first time. -/
def inBetween : List (DrainEvent 2) :=
  cleanCalls ++ List.replicate 5 (.step 0) ++ [.step 1, .step 1] ++ List.replicate 6 (.step 0)

/-- The only record is thrown away when the receiver has read the status bit. -/
def tooLate : List (DrainEvent 2) :=
  cleanCalls ++ List.replicate 2 (.step 0) ++ [.step 1, .step 1] ++ List.replicate 7 (.step 0)

/-- Two callers that keep out of each other's records. -/
theorem drains_whole_in_turn :
    ∃ s, ((drainMachine (fun _ => 1) 2).restrict PopsAlone).Run
        (cleanInit [timedRecord 7, timedRecord 8]) inTurn s ∧
      (s.shared.inserted .rx).map (fun x => (x.ts.timestampL[0], x.ts.sequenceId)) = [(7, 7)] ∧
      ∀ x ∈ s.shared.inserted .rx, s.shared.Whole .rx x := by
  have hsome : (((drainMachine (fun _ => 1) 2).restrict PopsAlone).replay
      (cleanInit [timedRecord 7, timedRecord 8]) inTurn).isSome = true := by decide
  have hrun := Machine.Run.of_isSome hsome (cleanInit [])
  exact ⟨_, hrun, by decide, (drains_whole _ _ _ _ _ hrun).1 .rx⟩

/-- A record with the time of one message and the identity of the next; and with a single record in
the FIFO, a read of the message info when it is empty. -/
theorem drains_torn :
    (∃ s, (drainMachine (fun _ => 1) 2).Run (cleanInit [timedRecord 7, timedRecord 8]) inBetween s ∧
      (s.shared.inserted .rx).map (fun x => (x.ts.timestampL[0], x.ts.sequenceId)) = [(7, 8)] ∧
      ¬ ∀ x ∈ s.shared.inserted .rx, s.shared.Whole .rx x) ∧
    ∃ s, (drainMachine (fun _ => 1) 2).Run (cleanInit [timedRecord 7]) tooLate s ∧
      (drainMachine (fun _ => 1) 2).enabled s (.step 0) ∧
      (drainMachine (fun _ => 1) 2).exec s (.step 0) = .error (.emptyRead .rx) := by
  constructor
  · have hsome : ((drainMachine (fun _ => 1) 2).replay
        (cleanInit [timedRecord 7, timedRecord 8]) inBetween).isSome = true := by decide
    have hrun := Machine.Run.of_isSome hsome (cleanInit [])
    refine ⟨_, hrun, by decide, fun hwhole => ?_⟩
    have hboth : ∃ x ∈ (((drainMachine (fun _ => 1) 2).replay
        (cleanInit [timedRecord 7, timedRecord 8]) inBetween).getD (cleanInit [])).shared.inserted .rx,
        some 0 ∈ x.sources ∧ some 1 ∈ x.sources := by decide
    obtain ⟨x, hx, h0, h1⟩ := hboth
    obtain ⟨k, r, ts, -, hall, -⟩ := hwhole x hx
    cases hall _ h0
    cases hall _ h1
  · have hsome : ((drainMachine (fun _ => 1) 2).replay (cleanInit [timedRecord 7])
        tooLate).isSome = true := by decide
    have hrun := Machine.Run.of_isSome hsome (cleanInit [])
    exact ⟨_, hrun, by decide, rfl⟩

end Axm57104.Switch
