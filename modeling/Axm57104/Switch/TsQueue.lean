import Axm57104.Common.Recent

/-!
# Timestamp queues

`TS_QUEUE` is the ring in which the driver keeps the timestamps it has read out of the switch until
a PTP frame asks for one. Inserting overwrites the oldest record; a look-up walks backwards from the
newest one. `TsQueue.Holds` relates a queue to the list of everything inserted since the last flush,
and each operation of the queue is specified against that list.

The spin lock of the queue is left out: the operations here run one at a time.
-/

namespace Axm57104.Switch

open Common

/-- The largest number of clock domains; the timestamp arrays have one entry more, for the
free-running timer. -/
@[simp] abbrev MAX_NUM_DOMAINS : ℕ := 2

/-- `CAPTURE_DATA`. -/
structure CaptureData where
  portId : UInt8
  timestampL : Vector UInt32 (MAX_NUM_DOMAINS + 1)
  timestampH : Vector UInt32 (MAX_NUM_DOMAINS + 1)
  msgType : UInt8
  sequenceId : UInt16
  domainNumber : UInt8
  deriving DecidableEq, Repr

/-- `AX_STATUS_*`, as far as the queue returns them. -/
inductive AxStatus
  | success
  | qitemNotFound
  | qNoItem
  deriving DecidableEq, Repr

/-- `TS_QUEUE`. The slots behind `numItems` are whatever was in memory before. -/
structure TsQueue (maxNumItems : ℕ) where
  tsItems : Vector CaptureData maxNumItems
  writePtr : Fin maxNumItems
  numItems : ℕ

variable {maxNumItems : ℕ}

/-- `_tsn_tsq_flush`. -/
def tsnTsqFlush (q : TsQueue maxNumItems) : TsQueue maxNumItems :=
  { q with writePtr := ⟨0, Nat.zero_lt_of_lt q.writePtr.isLt⟩, numItems := 0 }

/-- The body that `_tsn_tsq_insert_item` and `_ax_insert_items` share. -/
def TsQueue.insert (q : TsQueue maxNumItems) (tstampD : CaptureData) : TsQueue maxNumItems where
  tsItems := q.tsItems.set q.writePtr tstampD
  writePtr := nextSlot q.writePtr
  numItems := if q.numItems < maxNumItems then q.numItems + 1 else q.numItems

/-- `_tsn_tsq_insert_item`. -/
def tsnTsqInsertItem (q : TsQueue maxNumItems) (tstampD : CaptureData) : TsQueue maxNumItems :=
  q.insert tstampD

/-- `_ax_insert_items`. -/
def axInsertItems (q : TsQueue maxNumItems) (tstampD : CaptureData) : TsQueue maxNumItems :=
  q.insert tstampD

/-- What `_tsn_tsq_init` makes of an allocated array: the queue over it, flushed. -/
def TsQueue.ofArray (mem : Vector CaptureData maxNumItems) (hpos : 0 < maxNumItems) :
    TsQueue maxNumItems :=
  tsnTsqFlush ⟨mem, ⟨0, hpos⟩, 0⟩

/-- `_tsn_tsq_init`, with what `kmalloc` returned. -/
def tsnTsqInit (numberOfPorts numberOfDomains : ℕ)
    (kmalloc : Option (Vector CaptureData (numberOfPorts * numberOfDomains + 8))) :
    Option (TsQueue (numberOfPorts * numberOfDomains + 8)) :=
  kmalloc.map fun mem => TsQueue.ofArray mem (Nat.succ_pos _)

/-- `_ax_tsq_check_item_1`. -/
def axTsqCheckItem1 (queueD tstampD : CaptureData) : Bool :=
  queueD.portId == tstampD.portId && queueD.msgType == tstampD.msgType &&
    queueD.sequenceId == tstampD.sequenceId && queueD.domainNumber == tstampD.domainNumber

/-- `ax_tsq_find_item_1`: the status, and the query after the call. -/
def axTsqFindItem1 (q : TsQueue maxNumItems) (tstampD : CaptureData) : AxStatus × CaptureData :=
  if q.numItems ≠ 0 then
    match searchBack q.tsItems (axTsqCheckItem1 · tstampD) q.numItems (prevSlot q.writePtr) with
    | none => (.qitemNotFound, tstampD)
    | some readPtr => (.success, q.tsItems.get readPtr)
  else
    (.qNoItem, tstampD)

/-! ## Against the history -/

/-- The four fields a look-up compares. -/
def CaptureData.key (d : CaptureData) : UInt8 × UInt8 × UInt16 × UInt8 :=
  (d.portId, d.msgType, d.sequenceId, d.domainNumber)

theorem axTsqCheckItem1_iff {queueD tstampD : CaptureData} :
    axTsqCheckItem1 queueD tstampD = true ↔ queueD.key = tstampD.key := by
  simp [axTsqCheckItem1, CaptureData.key, and_assoc]

/-- `q` holds the newest of the records `hist`, which lists everything inserted since the last
flush, newest first. -/
def TsQueue.Holds (q : TsQueue maxNumItems) (hist : List CaptureData) : Prop :=
  Recent q.tsItems q.writePtr q.numItems hist

/-- What a look-up among the newest `cap` records of `hist` has to return. -/
def findRecent (cap : ℕ) (hist : List CaptureData) (query : CaptureData) : AxStatus × CaptureData :=
  if hist = [] then (.qNoItem, query)
  else
    match (hist.take cap).find? (fun item => item.key = query.key) with
    | none => (.qitemNotFound, query)
    | some item => (.success, item)

theorem TsQueue.holds_flush (q : TsQueue maxNumItems) : (tsnTsqFlush q).Holds [] :=
  Recent.empty _ _

theorem TsQueue.Holds.insert {q : TsQueue maxNumItems} {hist : List CaptureData} (h : q.Holds hist)
    (tstampD : CaptureData) : (q.insert tstampD).Holds (tstampD :: hist) :=
  Recent.push h tstampD

theorem TsQueue.Holds.find {q : TsQueue maxNumItems} {hist : List CaptureData} (h : q.Holds hist)
    (query : CaptureData) : axTsqFindItem1 q query = findRecent maxNumItems hist query := by
  have hp : (axTsqCheckItem1 · query) = fun item => decide (item.key = query.key) := by
    funext item
    rw [Bool.eq_iff_iff, axTsqCheckItem1_iff, decide_eq_true_iff]
  have hsearch := searchBack_eq_find? h (axTsqCheckItem1 · query)
  rw [axTsqFindItem1, findRecent]
  by_cases hnil : hist = []
  · rw [if_pos hnil, if_neg (not_not.mpr ((Recent.num_eq_zero_iff h).mpr hnil))]
  · rw [if_neg hnil, if_pos (fun h0 => hnil ((Recent.num_eq_zero_iff h).mp h0)), ← hp, ← hsearch]
    cases searchBack q.tsItems (axTsqCheckItem1 · query) q.numItems (prevSlot q.writePtr) with
    | none => rfl
    | some readPtr => rfl

end Axm57104.Switch
