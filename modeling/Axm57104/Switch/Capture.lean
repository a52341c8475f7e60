import Axm57104.Common.Machine
import Axm57104.Switch.TsQueue
import Mathlib.Logic.Function.Basic
import Mathlib.Tactic.IntervalCases

/-!
# Hardware timestamps: from the capture FIFOs to the queues

The switch captures a timestamp record for every PTP event frame it receives or sends. The records
wait in two FIFOs; the `PTP_*` registers show the oldest record of each, and reading its message info
pops it. The driver drains the FIFOs into its timestamp queues and looks records up there.

`AxSwitch` is that part of the driver and of the device, `History` the purpose of it: two FIFOs and
two lists of everything inserted since the last flush. The refinement is over whole runs, for every
capacity of the queues and every number of clock domains the record has room for.
-/

namespace Axm57104.Switch

open Common

/-- Receive or transmit: each direction has its FIFO, its registers and its queue. -/
inductive Dir
  | rx
  | tx
  deriving DecidableEq, Repr

/-! ## The capture registers -/

/-- One captured record. The timestamps are the lo/hi pairs of the free-running timer and of the
domains 0 to 3, in the order of their registers. -/
structure HwRecord where
  port : UInt32
  timestamp : Vector (UInt32 × UInt32) 5
  messageInfo : UInt32

/-- The capture FIFOs, oldest record first. -/
structure PtpDev where
  fifo : Dir → List HwRecord

@[simp] abbrev PTP_TIMESTAMP_CTRL : ℕ := 0x3110

@[simp] abbrev PTP_RX_MESSAGE_INFO : ℕ := 0x3140

/-- `PTP_RX_PORT`, `PTP_TX_PORT`. -/
def ptpPort : Dir → ℕ
  | .rx => 0x3114
  | .tx => 0x3144

/-- `PTP_FR_RX_TIMESTAMP_LO`, `PTP_FR_TX_TIMESTAMP_LO`. -/
def ptpFrTimestampLo : Dir → ℕ
  | .rx => 0x3118
  | .tx => 0x3148

/-- `PTP_FR_RX_TIMESTAMP_HI`, `PTP_FR_TX_TIMESTAMP_HI`. -/
def ptpFrTimestampHi : Dir → ℕ
  | .rx => 0x311C
  | .tx => 0x314C

/-- `PTP_RX_MESSAGE_INFO`, `PTP_TX_MESSAGE_INFO`. -/
def ptpMessageInfo : Dir → ℕ
  | .rx => PTP_RX_MESSAGE_INFO
  | .tx => 0x3170

/-- The bit of `PTP_TIMESTAMP_CTRL` that says the FIFO is not empty. -/
def ptpFifoStatus : Dir → UInt32
  | .rx => 0x1
  | .tx => 0x2

namespace PtpDev

/-- The device after the oldest record of one FIFO has been popped. -/
def pop (d : PtpDev) (dir : Dir) : PtpDev where
  fifo := Function.update d.fifo dir (d.fifo dir).tail

/-- The value of `PTP_TIMESTAMP_CTRL`. -/
def timestampCtrl (d : PtpDev) : UInt32 :=
  (if d.fifo .rx = [] then 0 else ptpFifoStatus .rx) |||
    (if d.fifo .tx = [] then 0 else ptpFifoStatus .tx)

/-- A read of the register at `addr` that shows a part of the record `r`. -/
def readRecordReg (d : PtpDev) (dir : Dir) (r : HwRecord) (addr : ℕ) : UInt32 × PtpDev :=
  if addr = ptpPort dir then (r.port, d)
  else if addr = ptpMessageInfo dir then (r.messageInfo, d.pop dir)
  else
    -- the timestamp registers are 32-bit words, lo and hi in turn
    let word := (addr - ptpFrTimestampLo dir) / 4
    let pair := r.timestamp[word / 2]?.getD (0, 0)
    (if word % 2 = 0 then pair.1 else pair.2, d)

/-- A read of a capture register; the receive registers end with `PTP_RX_MESSAGE_INFO`. -/
def read (d : PtpDev) (addr : ℕ) : UInt32 × PtpDev :=
  if addr = PTP_TIMESTAMP_CTRL then (d.timestampCtrl, d)
  else
    let dir := if addr ≤ PTP_RX_MESSAGE_INFO then Dir.rx else Dir.tx
    match d.fifo dir with
    | [] => (0, d)
    | r :: _ => d.readRecordReg dir r addr

theorem fifoStatus_ne_zero_iff (d : PtpDev) (dir : Dir) :
    (d.read PTP_TIMESTAMP_CTRL).1 &&& ptpFifoStatus dir ≠ 0 ↔ d.fifo dir ≠ [] := by
  simp only [read, timestampCtrl, if_true]
  cases dir <;> by_cases hrx : d.fifo .rx = [] <;> by_cases htx : d.fifo .tx = [] <;>
    simp only [hrx, htx, ptpFifoStatus, ne_eq, not_true, not_false_iff, if_true, if_false] <;> decide

variable {d : PtpDev} {dir : Dir} {r : HwRecord} {rest : List HwRecord}

theorem read_port (h : d.fifo dir = r :: rest) : d.read (ptpPort dir) = (r.port, d) := by
  cases dir <;> simp [read, readRecordReg, ptpPort, h]

theorem read_messageInfo (h : d.fifo dir = r :: rest) :
    d.read (ptpMessageInfo dir) = (r.messageInfo, d.pop dir) := by
  cases dir <;> simp [read, readRecordReg, ptpPort, ptpMessageInfo, h]

theorem read_timestampLo (h : d.fifo dir = r :: rest) {i : ℕ} (hi : i < 5) :
    d.read (ptpFrTimestampLo dir + 4 * (i * 2)) = (r.timestamp[i].1, d) := by
  interval_cases i <;> cases dir <;>
    simp [read, readRecordReg, ptpPort, ptpMessageInfo, ptpFrTimestampLo, h]

theorem read_timestampHi (h : d.fifo dir = r :: rest) {i : ℕ} (hi : i < 5) :
    d.read (ptpFrTimestampHi dir + 4 * (i * 2)) = (r.timestamp[i].2, d) := by
  interval_cases i <;> cases dir <;>
    simp [read, readRecordReg, ptpPort, ptpMessageInfo, ptpFrTimestampLo, ptpFrTimestampHi, h]

theorem fifo_pop_self (d : PtpDev) (dir : Dir) : (d.pop dir).fifo dir = (d.fifo dir).tail :=
  Function.update_self _ _ _

end PtpDev

/-! ## Draining a FIFO -/

/-- The `for` loop that reads `n` timestamp pairs of the oldest record. -/
def readTimestamps (dir : Dir) : ℕ → PtpDev → CaptureData → CaptureData × PtpDev
  | 0, d, ts => (ts, d)
  | i + 1, d, ts =>
      let (ts, d) := readTimestamps dir i d ts
      let (lo, d) := d.read (ptpFrTimestampLo dir + 4 * (i * 2))
      let (hi, d) := d.read (ptpFrTimestampHi dir + 4 * (i * 2))
      ({ ts with
          timestampL := ts.timestampL.setIfInBounds i lo
          timestampH := ts.timestampH.setIfInBounds i hi }, d)

/-- One round of a drain loop: the local variable `ts` filled from the registers. The message info
is read once and last. -/
def readCapture (dir : Dir) (numberOfDomains : ℕ) (d : PtpDev) (ts : CaptureData) :
    CaptureData × PtpDev :=
  let (port, d) := d.read (ptpPort dir)
  let ts := { ts with portId := port.toUInt8 }
  let (ts, d) := readTimestamps dir (numberOfDomains + 1) d ts
  let (msgInfo, d) := d.read (ptpMessageInfo dir)
  ({ ts with
      msgType := (msgInfo &&& 0xF).toUInt8
      sequenceId := ((msgInfo >>> 12) &&& 0xFFFF).toUInt16
      domainNumber := ((msgInfo >>> 4) &&& 0xFF).toUInt8 }, d)

/-- A record as the driver keeps it. The message info packs type, domain and sequence number into the
bits 3..0, 11..4 and 27..12. Timestamps past the last domain keep what `ts` held. -/
def HwRecord.decode (numberOfDomains : ℕ) (ts : CaptureData) (r : HwRecord) : CaptureData where
  portId := r.port.toUInt8
  timestampL := .ofFn fun i =>
    if i.val ≤ numberOfDomains then r.timestamp[i].1 else ts.timestampL[i]
  timestampH := .ofFn fun i =>
    if i.val ≤ numberOfDomains then r.timestamp[i].2 else ts.timestampH[i]
  msgType := ⟨(r.messageInfo.toBitVec.extractLsb 3 0).setWidth 8⟩
  sequenceId := ⟨r.messageInfo.toBitVec.extractLsb 27 12⟩
  domainNumber := ⟨r.messageInfo.toBitVec.extractLsb 11 4⟩

theorem HwRecord.decode_decode (numberOfDomains : ℕ) (ts : CaptureData) (r r' : HwRecord) :
    r'.decode numberOfDomains (r.decode numberOfDomains ts) = r'.decode numberOfDomains ts := by
  simp only [HwRecord.decode, CaptureData.mk.injEq, true_and, and_true]
  constructor <;>
  · congr 1
    funext i
    split
    · rfl
    · rename_i hi
      simp [hi]

theorem msgType_bits (msgInfo : UInt32) :
    (msgInfo &&& 0xF).toUInt8 = ⟨(msgInfo.toBitVec.extractLsb 3 0).setWidth 8⟩ := by
  apply UInt8.toNat_inj.mp
  rw [UInt32.toNat_toUInt8, UInt32.toNat_and, UInt8.toNat_ofBitVec, BitVec.toNat_setWidth,
    BitVec.extractLsb_toNat, Nat.shiftRight_zero]
  exact congrArg (· % 2 ^ 8) (Nat.and_two_pow_sub_one_eq_mod msgInfo.toNat 4)

theorem sequenceId_bits (msgInfo : UInt32) :
    ((msgInfo >>> 12) &&& 0xFFFF).toUInt16 = ⟨msgInfo.toBitVec.extractLsb 27 12⟩ := by
  apply UInt16.toNat_inj.mp
  rw [UInt32.toNat_toUInt16, UInt32.toNat_and, UInt32.toNat_shiftRight]
  have hmask := Nat.and_two_pow_sub_one_eq_mod (msgInfo.toNat >>> 12) 16
  exact (congrArg (· % 2 ^ 16) hmask).trans (Nat.mod_mod _ _)

theorem domainNumber_bits (msgInfo : UInt32) :
    ((msgInfo >>> 4) &&& 0xFF).toUInt8 = ⟨msgInfo.toBitVec.extractLsb 11 4⟩ := by
  apply UInt8.toNat_inj.mp
  rw [UInt32.toNat_toUInt8, UInt32.toNat_and, UInt32.toNat_shiftRight]
  have hmask := Nat.and_two_pow_sub_one_eq_mod (msgInfo.toNat >>> 4) 8
  exact (congrArg (· % 2 ^ 8) hmask).trans (Nat.mod_mod _ _)

theorem readTimestamps_eq {dir : Dir} {d : PtpDev} {r : HwRecord} {rest : List HwRecord}
    (h : d.fifo dir = r :: rest) {n : ℕ} (hn : n ≤ MAX_NUM_DOMAINS + 1) (ts : CaptureData) :
    readTimestamps dir n d ts =
      ({ ts with
          timestampL := .ofFn fun i => if i.val < n then r.timestamp[i].1 else ts.timestampL[i]
          timestampH := .ofFn fun i => if i.val < n then r.timestamp[i].2 else ts.timestampH[i] },
        d) := by
  induction n with
  | zero =>
      rw [readTimestamps]
      congr 1
      cases ts
      simp
  | succ n ih =>
      have hn5 : n < 5 := by simp only [MAX_NUM_DOMAINS] at hn; omega
      simp only [readTimestamps, ih (by omega), PtpDev.read_timestampLo h hn5,
        PtpDev.read_timestampHi h hn5]
      congr 2 <;>
      · ext j hj
        by_cases heq : n = j
        · subst heq
          simp
        · have hiff : j < n + 1 ↔ j < n := by omega
          simp only [MAX_NUM_DOMAINS, Nat.reduceAdd, Fin.getElem_fin, ne_eq, heq, not_false_eq_true,
            Vector.getElem_setIfInBounds_ne, Vector.getElem_ofFn, hiff]

theorem readCapture_eq {dir : Dir} {d : PtpDev} {r : HwRecord} {rest : List HwRecord}
    (h : d.fifo dir = r :: rest) {numberOfDomains : ℕ} (hnd : numberOfDomains ≤ MAX_NUM_DOMAINS)
    (ts : CaptureData) :
    readCapture dir numberOfDomains d ts = (r.decode numberOfDomains ts, d.pop dir) := by
  simp only [readCapture, PtpDev.read_port h, readTimestamps_eq h (Nat.succ_le_succ hnd),
    PtpDev.read_messageInfo h, HwRecord.decode, Nat.lt_succ_iff, msgType_bits, sequenceId_bits,
    domainNumber_bits]

/-- The number of domains of a switch; the arrays of `CAPTURE_DATA` have room for each of them. -/
abbrev NumDomains : Type := {n : ℕ // n ≤ MAX_NUM_DOMAINS}

variable {cap : ℕ}

/-- A drain loop: records go from a FIFO to a queue until the status bit is clear. Returns the
device, the local `ts`, the queue and the number of records. -/
def drainFifo (dir : Dir) (numberOfDomains : NumDomains)
    (insert : TsQueue cap → CaptureData → TsQueue cap) (d : PtpDev) (ts : CaptureData)
    (q : TsQueue cap) : PtpDev × CaptureData × TsQueue cap × ℕ :=
  if _h : (d.read PTP_TIMESTAMP_CTRL).1 &&& ptpFifoStatus dir ≠ 0 then
    let next := readCapture dir numberOfDomains d ts
    let (d, ts, q, count) :=
      drainFifo dir numberOfDomains insert next.2 next.1 (insert q next.1)
    (d, ts, q, count + 1)
  else
    (d, ts, q, 0)
termination_by (d.fifo dir).length
decreasing_by
  obtain ⟨r, rest, hcons⟩ := List.exists_cons_of_ne_nil ((d.fifoStatus_ne_zero_iff dir).mp _h)
  rw [readCapture_eq hcons numberOfDomains.2, PtpDev.fifo_pop_self, hcons]
  exact Nat.lt_succ_self _

/-- What a drain does: the FIFO is empty afterwards, its records are in the queue in FIFO order. -/
theorem drainFifo_spec {dir : Dir} (numberOfDomains : NumDomains)
    {insert : TsQueue cap → CaptureData → TsQueue cap} (hinsert : ∀ q ts, insert q ts = q.insert ts)
    (d : PtpDev) (ts : CaptureData) {q : TsQueue cap} {hist : List CaptureData} (hq : q.Holds hist) :
    ∃ ts' q', drainFifo dir numberOfDomains insert d ts q =
        (⟨Function.update d.fifo dir []⟩, ts', q', (d.fifo dir).length) ∧
      (∀ r : HwRecord, r.decode numberOfDomains ts' = r.decode numberOfDomains ts) ∧
      q'.Holds (((d.fifo dir).map (HwRecord.decode numberOfDomains ts)).reverse ++ hist) := by
  -- Along the FIFO: `ts` changes with every record, but not in what a later record is decoded to.
  induction hfifo : d.fifo dir generalizing d ts q hist with
  | nil =>
      refine ⟨ts, q, ?_, fun r => rfl, by simpa using hq⟩
      have hbit : ¬((d.read PTP_TIMESTAMP_CTRL).1 &&& ptpFifoStatus dir ≠ 0) := by
        rw [PtpDev.fifoStatus_ne_zero_iff, not_not]
        exact hfifo
      rw [drainFifo, dif_neg hbit, ← hfifo, Function.update_eq_self, hfifo]
      rfl
  | cons r rest ih =>
      have hbit : (d.read PTP_TIMESTAMP_CTRL).1 &&& ptpFifoStatus dir ≠ 0 := by
        rw [PtpDev.fifoStatus_ne_zero_iff, hfifo]
        exact List.cons_ne_nil _ _
      have hpop : (d.pop dir).fifo dir = rest := by rw [PtpDev.fifo_pop_self, hfifo, List.tail_cons]
      have hnext : (insert q (r.decode numberOfDomains ts)).Holds
          (r.decode numberOfDomains ts :: hist) := by
        rw [hinsert]
        exact hq.insert _
      obtain ⟨ts', q', hrun, hts, hholds⟩ := ih (d.pop dir) (r.decode numberOfDomains ts) hnext hpop
      refine ⟨ts', q', ?_, fun r' => by rw [hts, HwRecord.decode_decode], ?_⟩
      · rw [drainFifo, dif_pos hbit]
        simp only [readCapture_eq hfifo numberOfDomains.2, hrun]
        simp [PtpDev.pop]
      · have hdecode : HwRecord.decode numberOfDomains (r.decode numberOfDomains ts) =
            HwRecord.decode numberOfDomains ts := funext fun r' => HwRecord.decode_decode _ _ _ _
        rw [hdecode] at hholds
        simpa using hholds

/-! ## The driver's operations -/

/-- The capture part of `struct ax_switch` and of the device behind it. -/
structure AxSwitch (cap : Dir → ℕ) where
  dev : PtpDev
  numberOfDomains : NumDomains
  queue : (dir : Dir) → TsQueue (cap dir)

variable {cap : Dir → ℕ}

/-- `ax_retrieve_rx_hw_timestamps`; `ts` is what the local variable holds on entry. -/
def axRetrieveRxHwTimestamps (ts : CaptureData) (s : AxSwitch cap) : AxSwitch cap :=
  let (d, _, q, _) :=
    drainFifo .rx s.numberOfDomains tsnTsqInsertItem s.dev ts (s.queue .rx)
  { s with dev := d, queue := Function.update s.queue .rx q }

/-- `ax_retrieve_hw_timestamps`: the receive FIFO, then the transmit FIFO; returns `tx_count`. -/
def axRetrieveHwTimestamps (ts : CaptureData) (s : AxSwitch cap) : AxSwitch cap × ℕ :=
  let (d, ts, rxQueue, _) :=
    drainFifo .rx s.numberOfDomains axInsertItems s.dev ts (s.queue .rx)
  let (d, _, txQueue, txCount) :=
    drainFifo .tx s.numberOfDomains axInsertItems d ts (s.queue .tx)
  ({ s with
      dev := d
      queue := Function.update (Function.update s.queue .rx rxQueue) .tx txQueue }, txCount)

/-- What can happen to the capture unit. The drains name what their local `ts` holds on entry. -/
inductive CaptureOp
  | capture (dir : Dir) (r : HwRecord)
  | retrieveRx (ts : CaptureData)
  | retrieve (ts : CaptureData)
  | flush (dir : Dir)
  | find (dir : Dir) (query : CaptureData)

/-- What an operation returns to its caller. -/
inductive CaptureResult
  | none
  | txCount (n : ℕ)
  | found (status : AxStatus) (query : CaptureData)
  deriving DecidableEq

/-- One operation of the driver, or one capture of the device. -/
def AxSwitch.step (s : AxSwitch cap) : CaptureOp → AxSwitch cap × CaptureResult
  | .capture dir r =>
      ({ s with dev := ⟨Function.update s.dev.fifo dir (s.dev.fifo dir ++ [r])⟩ }, .none)
  | .retrieveRx ts => (axRetrieveRxHwTimestamps ts s, .none)
  | .retrieve ts =>
      let (s, txCount) := axRetrieveHwTimestamps ts s
      (s, .txCount txCount)
  | .flush dir => ({ s with queue := Function.update s.queue dir (tsnTsqFlush (s.queue dir)) }, .none)
  | .find dir query =>
      let (status, query) := axTsqFindItem1 (s.queue dir) query
      (s, .found status query)

/-- The switch after `_tsn_tsq_init` of both queues, over arrays of any positive length. -/
def AxSwitch.init (hcap : ∀ dir, 0 < cap dir) (mem : (dir : Dir) → Vector CaptureData (cap dir))
    (numberOfDomains : NumDomains) (dev : PtpDev) : AxSwitch cap where
  dev := dev
  numberOfDomains := numberOfDomains
  queue dir := TsQueue.ofArray (mem dir) (hcap dir)

/-! ## The purpose: a history -/

/-- The FIFOs, and everything inserted into each queue since its last flush, oldest first. -/
structure History where
  fifo : Dir → List HwRecord
  inserted : Dir → List CaptureData

namespace History

/-- A drain empties the FIFO and appends its records, decoded, in FIFO order. -/
def drain (numberOfDomains : ℕ) (ts : CaptureData) (dir : Dir) (h : History) : History where
  fifo := Function.update h.fifo dir []
  inserted := Function.update h.inserted dir
    (h.inserted dir ++ (h.fifo dir).map (HwRecord.decode numberOfDomains ts))

/-- What each operation is for: look-ups go through the newest `cap dir` records. -/
def step (cap : Dir → ℕ) (numberOfDomains : ℕ) (h : History) : CaptureOp → History × CaptureResult
  | .capture dir r => ({ h with fifo := Function.update h.fifo dir (h.fifo dir ++ [r]) }, .none)
  | .retrieveRx ts => (h.drain numberOfDomains ts .rx, .none)
  | .retrieve ts =>
      ((h.drain numberOfDomains ts .rx).drain numberOfDomains ts .tx, .txCount (h.fifo .tx).length)
  | .flush dir => ({ h with inserted := Function.update h.inserted dir [] }, .none)
  | .find dir query =>
      let (status, query) := findRecent (cap dir) (h.inserted dir).reverse query
      (h, .found status query)

end History

/-- `s` is at the point of the run that `h` describes. -/
structure AxSwitch.Refines (s : AxSwitch cap) (h : History) : Prop where
  fifo_eq : s.dev.fifo = h.fifo
  holds : ∀ dir, (s.queue dir).Holds (h.inserted dir).reverse

namespace AxSwitch.Refines

variable {s : AxSwitch cap} {h : History}

/-- Replacing one queue and the matching part of the history keeps the other direction. -/
theorem holds_update {queue : (dir : Dir) → TsQueue (cap dir)} {inserted : Dir → List CaptureData}
    (hholds : ∀ dir, (queue dir).Holds (inserted dir).reverse) {dir : Dir} {q : TsQueue (cap dir)}
    {l : List CaptureData} (hq : q.Holds l.reverse) (dir' : Dir) :
    (Function.update queue dir q dir').Holds (Function.update inserted dir l dir').reverse := by
  by_cases heq : dir' = dir
  · subst heq
    rw [Function.update_self, Function.update_self]
    exact hq
  · rw [Function.update_of_ne heq, Function.update_of_ne heq]
    exact hholds dir'

/-- A drain loop of the driver is a drain of the history. -/
theorem drain {queue : (dir : Dir) → TsQueue (cap dir)} {d : PtpDev} {numberOfDomains : NumDomains}
    (hr : Refines ⟨d, numberOfDomains, queue⟩ h) (dir : Dir)
    {insert : TsQueue (cap dir) → CaptureData → TsQueue (cap dir)}
    (hinsert : ∀ q ts, insert q ts = q.insert ts) (ts : CaptureData) :
    ∃ d' ts' q', drainFifo dir numberOfDomains insert d ts (queue dir) =
        (d', ts', q', (h.fifo dir).length) ∧
      (∀ r : HwRecord, r.decode numberOfDomains ts' = r.decode numberOfDomains ts) ∧
      Refines ⟨d', numberOfDomains, Function.update queue dir q'⟩ (h.drain numberOfDomains ts dir) := by
  obtain ⟨ts', q', hrun, hts, hholds⟩ := drainFifo_spec numberOfDomains hinsert d ts (hr.holds dir)
  have hfifo : d.fifo = h.fifo := hr.fifo_eq
  rw [hfifo] at hrun hholds
  refine ⟨_, ts', q', hrun, hts, rfl, holds_update hr.holds ?_⟩
  rwa [List.reverse_append]

theorem step (hr : s.Refines h) (op : CaptureOp) :
    (s.step op).1.Refines (h.step cap s.numberOfDomains op).1 ∧
      (s.step op).2 = (h.step cap s.numberOfDomains op).2 := by
  cases op with
  | capture dir r =>
      refine ⟨⟨?_, hr.holds⟩, rfl⟩
      simp only [AxSwitch.step, History.step, hr.fifo_eq]
  | retrieveRx ts =>
      obtain ⟨d', ts', q', hrun, -, hdrain⟩ :=
        hr.drain .rx (show ∀ q ts, tsnTsqInsertItem q ts = q.insert ts from fun _ _ => rfl) ts
      refine ⟨?_, rfl⟩
      simp only [AxSwitch.step, axRetrieveRxHwTimestamps, hrun]
      exact hdrain
  | retrieve ts =>
      have hinsert : ∀ dir (q : TsQueue (cap dir)) ts, axInsertItems q ts = q.insert ts :=
        fun _ _ _ => rfl
      obtain ⟨d', ts', q', hrun, hts, hdrain⟩ := hr.drain .rx (hinsert .rx) ts
      obtain ⟨d'', _, q'', hrun', -, hdrain'⟩ := hdrain.drain .tx (hinsert .tx) ts'
      have hdecode : HwRecord.decode s.numberOfDomains ts' = HwRecord.decode s.numberOfDomains ts :=
        funext hts
      simp only [History.drain, hdecode] at hdrain'
      rw [Function.update_of_ne (by decide)] at hrun'
      simp only [AxSwitch.step, axRetrieveHwTimestamps, hrun, hrun']
      exact ⟨hdrain', rfl⟩
  | flush dir =>
      refine ⟨⟨hr.fifo_eq, ?_⟩, rfl⟩
      exact holds_update hr.holds (TsQueue.holds_flush _)
  | find dir query =>
      refine ⟨hr, ?_⟩
      simp only [AxSwitch.step, History.step, (hr.holds dir).find query]

end AxSwitch.Refines

theorem AxSwitch.numberOfDomains_step (s : AxSwitch cap) (op : CaptureOp) :
    (s.step op).1.numberOfDomains = s.numberOfDomains := by
  cases op <;> rfl

theorem AxSwitch.refines_init (hcap : ∀ dir, 0 < cap dir)
    (mem : (dir : Dir) → Vector CaptureData (cap dir)) (numberOfDomains : NumDomains)
    (dev : PtpDev) :
    (AxSwitch.init hcap mem numberOfDomains dev).Refines ⟨dev.fifo, fun _ => []⟩ where
  fifo_eq := rfl
  holds _ := TsQueue.holds_flush _

/-- The driver's unit and the history it refines. The number of domains never changes, so the history
may take it as a parameter. -/
def RefinesAt (numberOfDomains : NumDomains) (s : AxSwitch cap) (h : History) : Prop :=
  s.numberOfDomains = numberOfDomains ∧ s.Refines h

theorem RefinesAt.step {numberOfDomains : NumDomains} {s : AxSwitch cap} {h : History}
    (hr : RefinesAt numberOfDomains s h) (op : CaptureOp) :
    RefinesAt numberOfDomains (s.step op).1 (h.step cap numberOfDomains op).1 ∧
      (s.step op).2 = (h.step cap numberOfDomains op).2 := by
  obtain ⟨hnd, hrefines⟩ := hr
  obtain ⟨hnext, hout⟩ := hrefines.step op
  rw [hnd] at hnext hout
  exact ⟨⟨(s.numberOfDomains_step op).trans hnd, hnext⟩, hout⟩

/-- **The capture queues refine a bounded history.** For all capacities, whatever the arrays and the
FIFOs hold at first, any sequence of captures, drains, flushes and look-ups returns what the history
returns, and leaves the FIFOs and queues at the history's. -/
theorem capture_refines_history (hcap : ∀ dir, 0 < cap dir)
    (mem : (dir : Dir) → Vector CaptureData (cap dir)) (numberOfDomains : NumDomains)
    (dev : PtpDev) (ops : List CaptureOp) :
    let impl := transduce AxSwitch.step (AxSwitch.init hcap mem numberOfDomains dev) ops
    let spec := transduce (History.step cap numberOfDomains) ⟨dev.fifo, fun _ => []⟩ ops
    impl.1.Refines spec.1 ∧ impl.2 = spec.2 := by
  have hsim := transduce_simulation (f := AxSwitch.step) (g := History.step cap numberOfDomains)
    (R := RefinesAt numberOfDomains) (fun h op => h.step op)
    ⟨rfl, AxSwitch.refines_init hcap mem numberOfDomains dev⟩ ops
  exact ⟨hsim.1.2, hsim.2⟩

/-- Three receptions into a ring of two: the first record is gone, the last one is found. -/
theorem capture_refines_history_wrap :
    let record (n : UInt32) : HwRecord := ⟨3, .replicate 5 (n, n), n <<< 12⟩
    let stack : CaptureData := ⟨0, .replicate 3 0, .replicate 3 0, 0, 0, 0⟩
    let query (n : UInt16) : CaptureOp := .find .rx { stack with portId := 3, sequenceId := n }
    let ops := [.capture .rx (record 7), .capture .rx (record 8), .capture .rx (record 9),
      .retrieveRx stack, query 7, query 9]
    let impl := transduce AxSwitch.step
      (AxSwitch.init (fun _ => Nat.two_pos) (fun _ => .replicate 2 stack) ⟨2, le_rfl⟩
        ⟨fun _ => []⟩ : AxSwitch fun _ => 2) ops
    impl.2 = [.none, .none, .none, .none,
      .found .qitemNotFound { stack with portId := 3, sequenceId := 7 },
      .found .success ⟨3, .replicate 3 9, .replicate 3 9, 0, 9, 0⟩] := by
  intro record stack query ops
  have h := (@capture_refines_history (fun _ => 2) (fun _ => Nat.two_pos)
    (fun _ => .replicate 2 stack) ⟨2, le_rfl⟩ ⟨fun _ => []⟩ ops).2
  exact h.trans (by decide)

end Axm57104.Switch
