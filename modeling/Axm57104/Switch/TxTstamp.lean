import Axm57104.Switch.Hwtstamp
import Mathlib.Data.List.Forall2

/-!
# Whose transmit timestamp is reported

`ax_tsn_tx_hwtstamp` drains the capture FIFOs and looks its frame up in the transmit queue, up to 21
times. A look-up goes by port, message type, sequence number and domain, takes the newest record that
matches, and leaves it in the queue. The capture of a frame may come after the first look-up for it.

`txMachine` runs these steps for any number of frames, against any capture unit: the driver's own,
`AxSwitch`, or the history it refines. The log beside the unit says for which frame the device
captured each record, so that a report can be traced to the frame whose record it is.
-/

namespace Axm57104.Switch

open Common

/-- The four fields of a record that a look-up compares. -/
def HwRecord.key (r : HwRecord) : UInt8 × UInt8 × UInt16 × UInt8 :=
  (r.port.toUInt8, ⟨(r.messageInfo.toBitVec.extractLsb 3 0).setWidth 8⟩,
    ⟨r.messageInfo.toBitVec.extractLsb 27 12⟩, ⟨r.messageInfo.toBitVec.extractLsb 11 4⟩)

theorem key_decode_eq (numberOfDomains : ℕ) (ts : CaptureData) (r : HwRecord) :
    (r.decode numberOfDomains ts).key = r.key := rfl

/-- A frame that asks for a hardware timestamp: what `ax_tx_check_timestamp` makes of it, and what the
local `ts_d` of its look-up holds on entry. -/
structure TxFrame where
  msg : SkbTstampMsg
  tsD : CaptureData

/-- The query of the look-up. -/
def TxFrame.query (f : TxFrame) : CaptureData := tstampQuery f.msg f.tsD

/-- The key of a frame. -/
def TxFrame.key (f : TxFrame) : UInt8 × UInt8 × UInt16 × UInt8 := f.query.key

/-- Where a call of `ax_tsn_tx_hwtstamp` is, with the number of tries after the present one. -/
inductive TxCall
  | idle
  | drain (tries : ℕ)
  | find (tries : ℕ)
  | done
  deriving DecidableEq

namespace TxCall

def isDrain : TxCall → Bool
  | .drain _ => true
  | _ => false

def isFind : TxCall → Bool
  | .find _ => true
  | _ => false

end TxCall

/-- One `skb_tstamp_tx`: for which frame, whose record, and the time. -/
structure TxReport where
  frame : ℕ
  record : Option (ℕ × HwRecord)
  time : UInt64

/-- The frames in the order of their transmission, and the records of the transmit FIFO (oldest
first) and of the transmit queue (newest first) with the number of the frame each belongs to. -/
structure TxLog where
  frames : List TxFrame
  captured : List (ℕ × HwRecord)
  drained : List (ℕ × HwRecord)
  call : ℕ → TxCall
  reports : List TxReport

namespace TxLog

/-- Nothing sent yet. -/
def init : TxLog := ⟨[], [], [], fun _ => .idle, []⟩

def setCall (l : TxLog) (i : ℕ) (c : TxCall) : TxLog := { l with call := Function.update l.call i c }

/-- A drain moves the records on. -/
def drain (l : TxLog) : TxLog :=
  { l with captured := [], drained := l.captured.reverse ++ l.drained }

/-- The newest record with this key, among the newest `cap`. -/
def newest (l : TxLog) (cap : ℕ) (key : UInt8 × UInt8 × UInt16 × UInt8) : Option (ℕ × HwRecord) :=
  (l.drained.take cap).find? fun e => e.2.key = key

/-- A look-up that found a record with the time `time`, if the PTP working mode is valid. -/
def finish (l : TxLog) (cap i : ℕ) (f : TxFrame) (time : Option UInt64) : TxLog :=
  { l.setCall i .done with
    reports := (time.map fun t => ⟨i, l.newest cap f.key, t⟩).toList ++ l.reports }

/-- A look-up that found nothing. -/
def retry (l : TxLog) (i : ℕ) : ℕ → TxLog
  | 0 => l.setCall i .done
  | tries + 1 => l.setCall i (.drain tries)

end TxLog

/-- A capture unit and the log. -/
structure TxState (σ : Type*) where
  unit : σ
  log : TxLog

/-- What happens around the transmit timestamps. `retrieveRx` and `retrieve` are the drains of the
receive path and of the PTP interrupt. -/
inductive TxEvent
  | transmit (f : TxFrame)
  | capture (i : ℕ) (r : HwRecord)
  | captureRx (r : HwRecord)
  | retrieveRx (ts : CaptureData)
  | retrieve (ts : CaptureData)
  | begin (i : ℕ)
  | tryDrain (i : ℕ) (ts : CaptureData)
  | tryFind (i : ℕ)

section Machine

variable {σ : Type*} (step : σ → CaptureOp → σ × CaptureResult) (cap : ℕ) (ptpMode : ℤ)

/-- The end of one try: report what the look-up found, or go on to the next try. -/
def TxLog.found (l : TxLog) (i : ℕ) (f : TxFrame) (tries : ℕ) : CaptureResult → TxLog
  | .found .success tsD => l.finish cap i f (tstampTime ptpMode tsD)
  | _ => l.retry i tries

/-- One event. -/
def txExec (s : TxState σ) : TxEvent → TxState σ
  | .transmit f => { s with log := { s.log with frames := s.log.frames ++ [f] } }
  | .capture i r =>
      ⟨(step s.unit (.capture .tx r)).1, { s.log with captured := s.log.captured ++ [(i, r)] }⟩
  | .captureRx r => { s with unit := (step s.unit (.capture .rx r)).1 }
  | .retrieveRx ts => { s with unit := (step s.unit (.retrieveRx ts)).1 }
  | .retrieve ts => ⟨(step s.unit (.retrieve ts)).1, s.log.drain⟩
  | .begin i => { s with log := s.log.setCall i (.drain (TX_TIMESTAMP_RETRIES - 1)) }
  | .tryDrain i ts =>
      match s.log.call i with
      | .drain tries => ⟨(step s.unit (.retrieve ts)).1, s.log.drain.setCall i (.find tries)⟩
      | _ => s
  | .tryFind i =>
      match s.log.frames[i]?, s.log.call i with
      | some f, .find tries =>
          let (unit, result) := step s.unit (.find .tx f.query)
          ⟨unit, s.log.found cap ptpMode i f tries result⟩
      | _, _ => s

/-- The device captures one record for each frame, after its transmission and with its key; the
look-up is run once for each frame. -/
def TxLog.Enabled (l : TxLog) : TxEvent → Prop
  | .capture i r =>
      l.frames[i]?.map TxFrame.key = some r.key ∧
        (∀ e ∈ l.captured, e.1 ≠ i) ∧ ∀ e ∈ l.drained, e.1 ≠ i
  | .begin i => i < l.frames.length ∧ l.call i = .idle
  | .tryDrain i _ => (l.call i).isDrain = true
  | .tryFind i => (l.call i).isFind = true
  | _ => True

/-- The transmit timestamps, over a capture unit. -/
def txMachine : Machine (TxState σ) TxEvent Empty where
  enabled s e := s.log.Enabled e
  exec s e := .ok (txExec step cap ptpMode s e)

end Machine

/-- No record is reported for two frames, and none for a later frame with the same key. -/
structure TxLog.OneFrameEach (l : TxLog) : Prop where
  once : ∀ r ∈ l.reports, ∀ r' ∈ l.reports, r.record.map Prod.fst = r'.record.map Prod.fst →
    r.frame = r'.frame
  not_earlier : ∀ r ∈ l.reports, ∀ j < r.frame, ∀ f g, l.frames[j]? = some f →
    l.frames[r.frame]? = some g → f.key = g.key → r.record.map Prod.fst ≠ some j

/-- Read from the newest record on, the record of the frame `i` comes before any other with the key
`key`. -/
def OwnFirst (i : ℕ) (key : UInt8 × UInt8 × UInt16 × UInt8) : List (ℕ × HwRecord) → Prop
  | [] => True
  | e :: rest => e.1 = i ∨ (e.2.key ≠ key ∧ OwnFirst i key rest)

instance decidableOwnFirst (i : ℕ) (key : UInt8 × UInt8 × UInt16 × UInt8) :
    ∀ l, Decidable (OwnFirst i key l)
  | [] => isTrue trivial
  | e :: rest =>
      have := decidableOwnFirst i key rest
      inferInstanceAs (Decidable (e.1 = i ∨ (e.2.key ≠ key ∧ OwnFirst i key rest)))

/-- A look-up happens when the frame's own record has come into the queue after all other records
with its key that the queue still holds. -/
def TxLog.OwnCaptured (cap : ℕ) (l : TxLog) : TxEvent → Prop
  | .tryFind i => ∀ f ∈ l.frames[i]?, OwnFirst i f.key (l.drained.take cap)
  | _ => True

/-! ## The driver's queue and the history -/

section Simulation

variable {σ τ : Type*} {step : σ → CaptureOp → σ × CaptureResult}
  {step' : τ → CaptureOp → τ × CaptureResult} {R : σ → τ → Prop} {cap : ℕ} {ptpMode : ℤ}

/-- Units in related states, and the same log. -/
def TxState.Rel (R : σ → τ → Prop) (s : TxState σ) (t : TxState τ) : Prop :=
  R s.unit t.unit ∧ s.log = t.log

theorem TxState.Rel.exec (hstep : ∀ {s t}, R s t → ∀ op, R (step s op).1 (step' t op).1 ∧
    (step s op).2 = (step' t op).2) {s : TxState σ} {t : TxState τ} (h : s.Rel R t) (e : TxEvent) :
    (txExec step cap ptpMode s e).Rel R (txExec step' cap ptpMode t e) := by
  obtain ⟨u, l⟩ := s
  obtain ⟨v, l'⟩ := t
  obtain ⟨hunit, rfl⟩ : R u v ∧ l = l' := h
  cases e with
  | transmit f => exact ⟨hunit, rfl⟩
  | capture i r => exact ⟨(hstep hunit _).1, rfl⟩
  | captureRx r => exact ⟨(hstep hunit _).1, rfl⟩
  | retrieveRx ts => exact ⟨(hstep hunit _).1, rfl⟩
  | retrieve ts => exact ⟨(hstep hunit _).1, rfl⟩
  | begin i => exact ⟨hunit, rfl⟩
  | tryDrain i ts =>
      simp only [txExec]
      split
      · exact ⟨(hstep hunit _).1, rfl⟩
      · exact ⟨hunit, rfl⟩
  | tryFind i =>
      simp only [txExec]
      split
      · rename_i f tries _ _
        obtain ⟨hnext, hresult⟩ := hstep hunit (.find .tx f.query)
        refine ⟨hnext, ?_⟩
        simp only [hresult]
      · exact ⟨hunit, rfl⟩

/-- Units that agree on every result have the same logs along every run. -/
theorem TxState.Rel.run (hstep : ∀ {s t}, R s t → ∀ op, R (step s op).1 (step' t op).1 ∧
    (step s op).2 = (step' t op).2) {c : TxLog → TxEvent → Prop} {s u : TxState σ} {t : TxState τ}
    {es : List TxEvent} (h : s.Rel R t)
    (hr : ((txMachine step cap ptpMode).restrict fun s e => c s.log e).Run s es u) :
    ∃ v, ((txMachine step' cap ptpMode).restrict fun t e => c t.log e).Run t es v ∧ u.Rel R v := by
  refine Machine.Run.simulate ?_ h hr
  rintro s t e u hrel ⟨hen, hc⟩ hex
  cases hex
  simp only [txMachine, Machine.restrict_enabled, Machine.restrict_exec, ← hrel.2]
  exact ⟨⟨hen, hc⟩, _, rfl, hrel.exec hstep e⟩

end Simulation

/-! ## What the log says about the history -/

/-- The device before the first transmission. -/
def PtpDev.beforeTx (rxFifo : List HwRecord) : PtpDev where
  fifo
    | .rx => rxFifo
    | .tx => []

/-- The log lists the records of the transmit FIFO and of the transmit queue, each for a frame that
has its key, and a report tells the time of the record the log names. -/
structure TxLog.Describes (numberOfDomains : ℕ) (ptpMode : ℤ) (l : TxLog) (h : History) : Prop where
  fifo_eq : h.fifo .tx = l.captured.map Prod.snd
  inserted : List.Forall₂ (fun d e => ∃ ts, d = HwRecord.decode numberOfDomains ts e.2)
    (h.inserted .tx).reverse l.drained
  key_captured : ∀ e ∈ l.captured, l.frames[e.1]?.map TxFrame.key = some e.2.key
  key_drained : ∀ e ∈ l.drained, l.frames[e.1]?.map TxFrame.key = some e.2.key
  traced : ∀ r ∈ l.reports, ∃ e ts, r.record = some e ∧
    tstampTime ptpMode (e.2.decode numberOfDomains ts) = some r.time

section Describes

variable {cap : Dir → ℕ} {numberOfDomains : ℕ} {ptpMode : ℤ} {l : TxLog} {h : History}

theorem find?_of_forall₂ {hist : List CaptureData} {drained : List (ℕ × HwRecord)}
    (hl : List.Forall₂ (fun d e => ∃ ts, d = HwRecord.decode numberOfDomains ts e.2) hist drained)
    (n : ℕ) (key : UInt8 × UInt8 × UInt16 × UInt8) {d : CaptureData}
    (hd : (hist.take n).find? (fun item => item.key = key) = some d) :
    ∃ e ts, (drained.take n).find? (fun e => e.2.key = key) = some e ∧
      d = e.2.decode numberOfDomains ts := by
  induction hl generalizing n with
  | nil =>
      rw [List.take_nil] at hd
      cases hd
  | @cons item e hist drained he _ ih =>
      obtain ⟨ts, rfl⟩ := he
      cases n with
      | zero => cases hd
      | succ n =>
          rw [List.take_succ_cons] at hd ⊢
          by_cases hkey : e.2.key = key
          · simp only [List.find?_cons, key_decode_eq, hkey, decide_true] at hd ⊢
            cases hd
            exact ⟨e, ts, rfl, rfl⟩
          · simp only [List.find?_cons, key_decode_eq, hkey, decide_false] at hd ⊢
            exact ih n hd

namespace TxLog.Describes

theorem setCall (hl : l.Describes numberOfDomains ptpMode h) (i : ℕ) (c : TxCall) :
    (l.setCall i c).Describes numberOfDomains ptpMode h :=
  ⟨hl.fifo_eq, hl.inserted, hl.key_captured, hl.key_drained, hl.traced⟩

/-- What a look-up finds is the newest record of the log with the key. -/
theorem newest (hl : l.Describes numberOfDomains ptpMode h) {n : ℕ} {query d : CaptureData}
    (hfind : findRecent n (h.inserted .tx).reverse query = (.success, d)) :
    ∃ e ts, l.newest n query.key = some e ∧ d = e.2.decode numberOfDomains ts := by
  apply find?_of_forall₂ hl.inserted
  rw [findRecent] at hfind
  split at hfind
  · cases hfind
  · split at hfind
    · cases hfind
    · cases hfind
      assumption

theorem drain (hl : l.Describes numberOfDomains ptpMode h) (ts : CaptureData) :
    l.drain.Describes numberOfDomains ptpMode
      ((h.drain numberOfDomains ts .rx).drain numberOfDomains ts .tx) where
  fifo_eq := rfl
  inserted := by
    have hnew : ((h.drain numberOfDomains ts .rx).drain numberOfDomains ts .tx).inserted .tx =
        h.inserted .tx ++ (l.captured.map Prod.snd).map (HwRecord.decode numberOfDomains ts) := by
      rw [← hl.fifo_eq]
      rfl
    rw [hnew, List.reverse_append, TxLog.drain, List.map_map, ← List.map_reverse]
    refine List.rel_append ?_ hl.inserted
    rw [List.forall₂_map_left_iff]
    exact List.forall₂_same.mpr fun e _ => ⟨ts, rfl⟩
  key_captured := fun e he => absurd he List.not_mem_nil
  key_drained := by
    intro e he
    rcases List.mem_append.mp he with he | he
    · exact hl.key_captured e (List.mem_reverse.mp he)
    · exact hl.key_drained e he
  traced := hl.traced

end TxLog.Describes

theorem TxLog.describes_init (numberOfDomains : ℕ) (ptpMode : ℤ) (rxFifo : List HwRecord) :
    TxLog.init.Describes numberOfDomains ptpMode ⟨(PtpDev.beforeTx rxFifo).fifo, fun _ => []⟩ where
  fifo_eq := rfl
  inserted := .nil
  key_captured _ he := absurd he List.not_mem_nil
  key_drained _ he := absurd he List.not_mem_nil
  traced _ hr := absurd hr List.not_mem_nil

namespace TxLog.Describes

theorem transmit (hl : l.Describes numberOfDomains ptpMode h) (f : TxFrame) :
    TxLog.Describes numberOfDomains ptpMode { l with frames := l.frames ++ [f] } h := by
  have hkept : ∀ e : ℕ × HwRecord, l.frames[e.1]?.map TxFrame.key = some e.2.key →
      (l.frames ++ [f])[e.1]?.map TxFrame.key = some e.2.key := by
    intro e he
    obtain ⟨g, hg, -⟩ := Option.map_eq_some_iff.mp he
    rwa [List.getElem?_append_left (List.getElem?_eq_some_iff.mp hg).1]
  exact ⟨hl.fifo_eq, hl.inserted, fun e he => hkept e (hl.key_captured e he),
    fun e he => hkept e (hl.key_drained e he), hl.traced⟩

theorem capture (hl : l.Describes numberOfDomains ptpMode h) (cap : Dir → ℕ) {i : ℕ} {r : HwRecord}
    (hkey : l.frames[i]?.map TxFrame.key = some r.key) :
    TxLog.Describes numberOfDomains ptpMode { l with captured := l.captured ++ [(i, r)] }
      (h.step cap numberOfDomains (.capture .tx r)).1 where
  fifo_eq := by
    simp only [History.step, Function.update_self, hl.fifo_eq, List.map_append, List.map_cons,
      List.map_nil]
  inserted := hl.inserted
  key_captured := by
    intro e he
    rcases List.mem_append.mp he with he | he
    · exact hl.key_captured e he
    · rw [List.mem_singleton.mp he]
      exact hkey
  key_drained := hl.key_drained
  traced := hl.traced

theorem found (hl : l.Describes numberOfDomains ptpMode h) (n i tries : ℕ) (f : TxFrame) :
    (l.found n ptpMode i f tries (.found (findRecent n (h.inserted .tx).reverse f.query).1
      (findRecent n (h.inserted .tx).reverse f.query).2)).Describes numberOfDomains ptpMode h := by
  unfold TxLog.found
  split
  · rename_i tsD hresult
    injection hresult with hstatus hdata
    obtain ⟨e, ts, hnewest, rfl⟩ := hl.newest (Prod.ext hstatus hdata)
    refine ⟨hl.fifo_eq, hl.inserted, hl.key_captured, hl.key_drained, ?_⟩
    intro r hr
    rcases List.mem_append.mp hr with hr | hr
    · obtain ⟨t, htime, rfl⟩ := Option.map_eq_some_iff.mp (Option.mem_toList.mp hr)
      exact ⟨e, ts, hnewest, htime⟩
    · exact hl.traced r hr
  · cases tries with
    | zero => exact hl.setCall _ _
    | succ tries => exact hl.setCall _ _

/-- Every event keeps the description. -/
theorem exec {s : TxState History} {e : TxEvent}
    (hl : s.log.Describes numberOfDomains ptpMode s.unit) (hen : s.log.Enabled e) :
    (txExec (History.step cap numberOfDomains) (cap .tx) ptpMode s e).log.Describes numberOfDomains
      ptpMode (txExec (History.step cap numberOfDomains) (cap .tx) ptpMode s e).unit := by
  cases e with
  | transmit f => exact hl.transmit f
  | capture i r => exact hl.capture cap hen.1
  | captureRx r => exact ⟨hl.fifo_eq, hl.inserted, hl.key_captured, hl.key_drained, hl.traced⟩
  | retrieveRx ts => exact ⟨hl.fifo_eq, hl.inserted, hl.key_captured, hl.key_drained, hl.traced⟩
  | retrieve ts => exact hl.drain ts
  | begin i => exact hl.setCall _ _
  | tryDrain i ts =>
      simp only [txExec]
      split
      · exact (hl.drain ts).setCall _ _
      · exact hl
  | tryFind i =>
      simp only [txExec]
      split
      · exact hl.found _ _ _ _
      · exact hl

end TxLog.Describes

/-- Where the frame's own record comes first, the search stops at it. -/
theorem OwnFirst.find? {i : ℕ} {key : UInt8 × UInt8 × UInt16 × UInt8} {records : List (ℕ × HwRecord)}
    (hown : OwnFirst i key records) (hkey : ∀ e ∈ records, e.1 = i → e.2.key = key) {e : ℕ × HwRecord}
    (hfind : records.find? (fun e => e.2.key = key) = some e) : e.1 = i := by
  induction records with
  | nil => cases hfind
  | cons a records ih =>
      rcases hown with ha | ⟨ha, hrest⟩
      · have hmatch := hkey a List.mem_cons_self ha
        simp only [List.find?_cons, hmatch, decide_true] at hfind
        cases hfind
        exact ha
      · simp only [List.find?_cons, ha, decide_false] at hfind
        exact ih hrest (fun e he => hkey e (List.mem_cons_of_mem _ he)) hfind

/-- Every report is about the frame's own record. -/
def TxLog.Own (l : TxLog) : Prop := ∀ r ∈ l.reports, r.record.map Prod.fst = some r.frame

namespace TxLog.Own

theorem oneFrameEach (hown : l.Own) : l.OneFrameEach where
  once := by
    intro r hr r' hr' heq
    rw [hown r hr, hown r' hr'] at heq
    exact Option.some.inj heq
  not_earlier := by
    intro r hr j hj f g _ _ _ heq
    rw [hown r hr] at heq
    exact Nat.ne_of_gt hj (Option.some.inj heq)

theorem found (hown : l.Own) (hl : l.Describes numberOfDomains ptpMode h) {n i tries : ℕ} {f : TxFrame}
    (hf : l.frames[i]? = some f) (hfirst : OwnFirst i f.key (l.drained.take n)) :
    (l.found n ptpMode i f tries (.found (findRecent n (h.inserted .tx).reverse f.query).1
      (findRecent n (h.inserted .tx).reverse f.query).2)).Own := by
  unfold TxLog.found
  split
  · rename_i tsD hresult
    injection hresult with hstatus hdata
    obtain ⟨e, ts, hnewest, rfl⟩ := hl.newest (Prod.ext hstatus hdata)
    have hkey : ∀ e ∈ l.drained.take n, e.1 = i → e.2.key = f.key := by
      intro e he hi
      have hframe := hl.key_drained e (List.mem_of_mem_take he)
      rw [hi, hf] at hframe
      exact (Option.some.inj hframe).symm
    have hi : e.1 = i := hfirst.find? hkey hnewest
    intro r hr
    rcases List.mem_append.mp hr with hr | hr
    · obtain ⟨t, -, rfl⟩ := Option.map_eq_some_iff.mp (Option.mem_toList.mp hr)
      change (l.newest n f.query.key).map Prod.fst = some i
      rw [hnewest, Option.map_some, hi]
    · exact hown r hr
  · cases tries with
    | zero => exact hown
    | succ tries => exact hown

theorem exec {s : TxState History} {e : TxEvent} (hown : s.log.Own)
    (hl : s.log.Describes numberOfDomains ptpMode s.unit) (hc : s.log.OwnCaptured (cap .tx) e) :
    (txExec (History.step cap numberOfDomains) (cap .tx) ptpMode s e).log.Own := by
  cases e with
  | tryDrain i ts =>
      simp only [txExec]
      split <;> exact hown
  | tryFind i =>
      simp only [txExec]
      split
      · rename_i f tries hf _
        exact hown.found hl hf (hc f hf)
      · exact hown
  | _ => exact hown

end TxLog.Own

end Describes

/-! ## Whole runs -/

section Runs

variable {cap : Dir → ℕ} (hcap : ∀ dir, 0 < cap dir)
  (mem : (dir : Dir) → Vector CaptureData (cap dir)) (numberOfDomains : NumDomains)
  (rxFifo : List HwRecord)

/-- The driver before the first transmission. -/
def TxState.init : TxState (AxSwitch cap) :=
  ⟨AxSwitch.init hcap mem numberOfDomains (.beforeTx rxFifo), .init⟩

/-- The history before the first transmission. -/
def TxState.initHistory : TxState History := ⟨⟨(PtpDev.beforeTx rxFifo).fifo, fun _ => []⟩, .init⟩

theorem TxState.rel_init : (TxState.init hcap mem numberOfDomains rxFifo).Rel
    (RefinesAt numberOfDomains) (TxState.initHistory rxFifo) :=
  ⟨⟨rfl, AxSwitch.refines_init hcap mem numberOfDomains _⟩, rfl⟩

variable {ptpMode : ℤ} {es : List TxEvent} {s : TxState (AxSwitch cap)} {t : TxState History}
  {c : TxLog → TxEvent → Prop}

/-- Every run of the driver has the log of a run of the history. -/
theorem exists_history_run
    (hr : ((txMachine AxSwitch.step (cap .tx) ptpMode).restrict fun s e => c s.log e).Run
      (.init hcap mem numberOfDomains rxFifo) es s) :
    ∃ t, ((txMachine (History.step cap numberOfDomains) (cap .tx) ptpMode).restrict
      fun t e => c t.log e).Run (.initHistory rxFifo) es t ∧ s.log = t.log := by
  obtain ⟨t, hrun, -, hlog⟩ := TxState.Rel.run (fun h op => h.step op)
    (TxState.rel_init hcap mem numberOfDomains rxFifo) hr
  exact ⟨t, hrun, hlog⟩

/-- And the other way round. -/
theorem exists_driver_run
    (hr : ((txMachine (History.step cap numberOfDomains) (cap .tx) ptpMode).restrict
      fun t e => c t.log e).Run (.initHistory rxFifo) es t) :
    ∃ s, ((txMachine AxSwitch.step (cap .tx) ptpMode).restrict fun s e => c s.log e).Run
      (.init hcap mem numberOfDomains rxFifo) es s ∧ s.log = t.log := by
  obtain ⟨hunit, hlog⟩ := TxState.rel_init hcap mem numberOfDomains rxFifo
  obtain ⟨s, hrun, -, hlog⟩ := TxState.Rel.run (R := fun h s => RefinesAt numberOfDomains s h)
    (fun h op => ⟨(h.step op).1, (h.step op).2.symm⟩) ⟨hunit, hlog.symm⟩ hr
  exact ⟨s, hrun, hlog.symm⟩

/-- A record that a report names has the time of the report. -/
theorem txReports_traced
    (hr : (txMachine AxSwitch.step (cap .tx) ptpMode).Run (.init hcap mem numberOfDomains rxFifo) es s) :
    ∀ r ∈ s.log.reports, ∃ e ts, r.record = some e ∧
      tstampTime ptpMode (e.2.decode numberOfDomains ts) = some r.time := by
  obtain ⟨t, hrun, hlog⟩ := exists_history_run (c := fun _ _ => True) hcap mem numberOfDomains rxFifo
    (hr.restrict fun _ _ _ => trivial)
  have hinv : t.log.Describes numberOfDomains ptpMode t.unit := by
    refine hrun.invariant (I := fun t => t.log.Describes numberOfDomains ptpMode t.unit)
      (TxLog.describes_init _ _ _) ?_
    rintro t e u hl ⟨hen, -⟩ hex
    cases hex
    exact hl.exec hen
  rw [hlog]
  exact hinv.traced

/-- **Own timestamps.** In every run in which each look-up comes when the frame's own record is the
newest with its key, no record is reported for two frames, and no frame is given the record of an
earlier one with the same key. -/
theorem txReports_oneFrameEach
    (hr : ((txMachine AxSwitch.step (cap .tx) ptpMode).restrict fun s e =>
      s.log.OwnCaptured (cap .tx) e).Run (.init hcap mem numberOfDomains rxFifo) es s) :
    s.log.OneFrameEach := by
  obtain ⟨t, hrun, hlog⟩ := exists_history_run hcap mem numberOfDomains rxFifo hr
  have hinv : t.log.Describes numberOfDomains ptpMode t.unit ∧ t.log.Own := by
    refine hrun.invariant
      (I := fun t => t.log.Describes numberOfDomains ptpMode t.unit ∧ t.log.Own)
      ⟨TxLog.describes_init _ _ _, fun r hr => absurd hr List.not_mem_nil⟩ ?_
    rintro t e u ⟨hl, hown⟩ ⟨hen, hc⟩ hex
    cases hex
    exact ⟨hl.exec hen, hown.exec hl hc⟩
  rw [hlog]
  exact hinv.2.oneFrameEach

end Runs

/-! ## A key that comes back -/

instance TxLog.decidableEnabled (l : TxLog) : ∀ e, Decidable (l.Enabled e)
  | .capture i r => inferInstanceAs (Decidable (l.frames[i]?.map TxFrame.key = some r.key ∧
      (∀ e ∈ l.captured, e.1 ≠ i) ∧ ∀ e ∈ l.drained, e.1 ≠ i))
  | .begin i => inferInstanceAs (Decidable (i < l.frames.length ∧ l.call i = .idle))
  | .tryDrain i _ => inferInstanceAs (Decidable ((l.call i).isDrain = true))
  | .tryFind i => inferInstanceAs (Decidable ((l.call i).isFind = true))
  | .transmit _ | .captureRx _ | .retrieveRx _ | .retrieve _ => isTrue trivial

instance TxLog.decidableOwnCaptured (cap : ℕ) (l : TxLog) : ∀ e, Decidable (l.OwnCaptured cap e)
  | .tryFind i =>
      inferInstanceAs (Decidable (∀ f ∈ l.frames[i]?, OwnFirst i f.key (l.drained.take cap)))
  | .transmit _ | .capture _ _ | .captureRx _ | .retrieveRx _ | .retrieve _ | .begin _
  | .tryDrain _ _ => isTrue trivial

instance decidableTxEnabled {σ : Type*} {step : σ → CaptureOp → σ × CaptureResult} {cap : ℕ}
    {ptpMode : ℤ} (s : TxState σ) (e : TxEvent) : Decidable ((txMachine step cap ptpMode).enabled s e) :=
  inferInstanceAs (Decidable (s.log.Enabled e))

/-- A Sync message for port 3, all zero, behind the Ethernet header and the tag. -/
def syncFrame : TxFrame :=
  ⟨⟨⟨List.replicate 56 0, 0, 0x88F7, 0, .host, none, false, true⟩, 22, 3⟩,
    ⟨0, .replicate 3 0, .replicate 3 0, 0, 0, 0⟩⟩

/-- What the device captures for it, at the time `n`. -/
def syncRecord (n : UInt32) : HwRecord := ⟨3, .replicate 5 (n, n), 0⟩

/-- Send the frame `i` and run its look-up with a single try. -/
def lookUpOnce (i : ℕ) : List TxEvent :=
  [.begin i, .tryDrain i syncFrame.tsD, .tryFind i]

/-- Two frames with one key, each looked up after its own capture. -/
def capturedInTime : List TxEvent :=
  [.transmit syncFrame, .capture 0 (syncRecord 7)] ++ lookUpOnce 0 ++
    [.transmit syncFrame, .capture 1 (syncRecord 8)] ++ lookUpOnce 1

/-- The same frames, the second looked up before its capture. -/
def capturedLate : List TxEvent :=
  [.transmit syncFrame, .capture 0 (syncRecord 7)] ++ lookUpOnce 0 ++
    [.transmit syncFrame] ++ lookUpOnce 1 ++ [.capture 1 (syncRecord 8)]

/-- Queues of two records for the Sync messages. -/
def syncInit : TxState (AxSwitch fun _ => 2) :=
  .init (fun _ => Nat.two_pos) (fun _ => .replicate 2 syncFrame.tsD) ⟨MAX_NUM_DOMAINS, le_rfl⟩ []

/-- A sequence number used twice, with both captures in time: each frame has its own time. -/
theorem txReports_oneFrameEach_reused_key :
    ∃ s, ((txMachine AxSwitch.step 2 0).restrict fun s e => s.log.OwnCaptured 2 e).Run syncInit
        capturedInTime s ∧
      s.log.reports.map (fun r => (r.frame, r.record.map Prod.fst, r.time)) =
        [(1, some 1, 8000000008), (0, some 0, 7000000007)] ∧ s.log.OneFrameEach := by
  have hsome : (((txMachine (History.step (fun _ => 2) 2) 2 0).restrict fun s e =>
      s.log.OwnCaptured 2 e).replay (.initHistory []) capturedInTime).isSome = true := by decide
  obtain ⟨s, hrun, hlog⟩ := exists_driver_run (fun _ => Nat.two_pos)
    (fun _ => .replicate 2 syncFrame.tsD) ⟨2, le_rfl⟩ []
    (Machine.Run.of_isSome hsome (.initHistory []))
  refine ⟨s, hrun, ?_, txReports_oneFrameEach _ _ _ _ hrun⟩
  rw [hlog]
  decide

/-- The second frame is given the record of the first, which both then report: its own capture comes
after its look-up. -/
theorem txMachine_reports_twice :
    ∃ s, (txMachine AxSwitch.step 2 0).Run syncInit capturedLate s ∧
      s.log.reports.map (fun r => (r.frame, r.record.map Prod.fst, r.time)) =
        [(1, some 0, 7000000007), (0, some 0, 7000000007)] ∧ ¬ s.log.OneFrameEach := by
  have hsome : ((txMachine (History.step (fun _ => 2) 2) 2 0).replay (.initHistory [])
      capturedLate).isSome = true := by decide
  obtain ⟨s, hrun, hlog⟩ := exists_driver_run (c := fun _ _ => True) (fun _ => Nat.two_pos)
    (fun _ => .replicate 2 syncFrame.tsD) ⟨2, le_rfl⟩ []
    ((Machine.Run.of_isSome hsome (.initHistory [])).restrict fun _ _ _ => trivial)
  have hreports : s.log.reports.map (fun r => (r.frame, r.record.map Prod.fst, r.time)) =
      [(1, some 0, 7000000007), (0, some 0, 7000000007)] := by
    rw [hlog]
    decide
  refine ⟨s, hrun.of_restrict, hreports, fun hone => ?_⟩
  obtain ⟨r, rs, hr, hfirst, hrest⟩ := List.map_eq_cons_iff.mp hreports
  obtain ⟨r', rs', rfl, hsecond, -⟩ := List.map_eq_cons_iff.mp hrest
  simp only [Prod.mk.injEq] at hfirst hsecond
  have hframe := hone.once r (by simp [hr]) r' (by simp [hr]) (hfirst.2.1.trans hsecond.2.1.symm)
  rw [hfirst.1, hsecond.1] at hframe
  cases hframe

end Axm57104.Switch
