import Axm57104.Switch.Hwtstamp
import Mathlib.Data.Fin.Tuple.Basic

/-!
# Sync timestamp queries

A PTP daemon asks for the timestamp of a message with `ax_get_sync_tx_timestamp` or
`ax_get_sync_rx_timestamp`. The record is looked up in the timestamp queue of the direction; which
of its times is returned depends on the table of domain numbers that `ax_set_domain_number_table` has
put in place: slot `i` of the table belongs to time `i + 1` of the record, time 0 being that of the
free-running timer.

The table is what user space has sent: it may name a domain twice, or have numbers that no record
has. The first slot decides.
-/

namespace Axm57104.Switch

open Common

/-- `struct domain_number_table_data`. -/
abbrev DomainNumberTable : Type := Vector ℤ (MAX_NUM_DOMAINS + 1)

/-- `struct ioctl_timestamp_data`. -/
structure IoctlTimestampData where
  portId : UInt8
  msgType : UInt8
  seqId : UInt16
  domainNumber : UInt8
  timestamp : UInt64
  deriving DecidableEq, Repr

/-- The switch with its table of domain numbers. -/
structure SyncSwitch (cap : Dir → ℕ) where
  axswitch : AxSwitch cap
  domainNumberTable : DomainNumberTable

variable {cap : Dir → ℕ}

/-- `ax_set_domain_number_table`, with what `copy_from_user` gets: the return value and the switch. -/
def axSetDomainNumberTable (copyFrom : Option DomainNumberTable) (s : SyncSwitch cap) :
    ℤ × SyncSwitch cap :=
  match copyFrom with
  | none => (-1, s)
  | some table => (0, { s with domainNumberTable := table })

/-- The loop over the table: the first slot below `number_of_domains` with the number. -/
def domainSlot (s : SyncSwitch cap) (domainNumber : UInt8) :
    Option (Fin s.axswitch.numberOfDomains.val) :=
  (List.finRange s.axswitch.numberOfDomains.val).find? fun i =>
    s.domainNumberTable.get ⟨i.val, Nat.lt_succ_of_lt (i.isLt.trans_le s.axswitch.numberOfDomains.2)⟩
      = domainNumber.toNat

/-- `domain_index` for a slot of the table. -/
def domainIndex {s : SyncSwitch cap} (i : Fin s.axswitch.numberOfDomains.val) :
    Fin (MAX_NUM_DOMAINS + 1) :=
  ⟨i.val + 1, Nat.succ_lt_succ (i.isLt.trans_le s.axswitch.numberOfDomains.2)⟩

/-- The query, over what the local `ts_d` holds on entry. -/
def IoctlTimestampData.query (data : IoctlTimestampData) (tsD : CaptureData) : CaptureData :=
  { tsD with
    portId := data.portId
    msgType := data.msgType
    sequenceId := data.seqId
    domainNumber := data.domainNumber }

/-- The body that the two queries share: the return value, and what is written to the user buffer.
`copyFrom` is what `copy_from_user` gets and `copyTo` whether `copy_to_user` succeeds. -/
def axGetSyncTimestamp (dir : Dir) (s : SyncSwitch cap) (tsD : CaptureData)
    (copyFrom : Option IoctlTimestampData) (copyTo : Bool) : ℤ × Option IoctlTimestampData :=
  match copyFrom with
  | none => (-1, none)
  | some data =>
      match axTsqFindItem1 (s.axswitch.queue dir) (data.query tsD) with
      | (.success, tsD) =>
          match domainSlot s tsD.domainNumber with
          | none => (-1, none)
          | some i =>
              let timestamp :=
                tstampNs (tsD.timestampH.get (domainIndex i)) (tsD.timestampL.get (domainIndex i))
              if copyTo then (0, some { data with timestamp := timestamp }) else (-1, none)
      | _ => (-1, none)

/-- `ax_get_sync_tx_timestamp`. -/
def axGetSyncTxTimestamp (s : SyncSwitch cap) := axGetSyncTimestamp .tx s

/-- `ax_get_sync_rx_timestamp`. -/
def axGetSyncRxTimestamp (s : SyncSwitch cap) := axGetSyncTimestamp .rx s

/-! ## What is in a queue -/

/-- The records of a queue, newest first. -/
def TsQueue.contents {n : ℕ} (q : TsQueue n) : List CaptureData :=
  (List.range q.numItems).map fun k => q.tsItems.get (slotBack q.writePtr k)

/-- A queue holds its own records. -/
theorem TsQueue.holds_contents {n : ℕ} {q : TsQueue n} (h : q.numItems ≤ n) :
    q.Holds q.contents where
  num_eq := by
    rw [contents, List.length_map, List.length_range, Nat.min_eq_left h]
  slot k hk := by
    rw [contents, List.getElem?_map, List.getElem?_range hk]
    rfl

theorem TsQueue.length_contents {n : ℕ} (q : TsQueue n) : q.contents.length = q.numItems := by
  rw [contents, List.length_map, List.length_range]

/-- The newest record that matches a query. -/
def TsQueue.newest {n : ℕ} (q : TsQueue n) (query : CaptureData) : Option CaptureData :=
  q.contents.find? fun item => item.key = query.key

/-- The look-up finds the newest matching record, or fails. -/
theorem axTsqFindItem1_newest {n : ℕ} {q : TsQueue n} (h : q.numItems ≤ n) (query : CaptureData) :
    (∃ item, q.newest query = some item ∧ axTsqFindItem1 q query = (.success, item)) ∨
      (q.newest query = none ∧ (axTsqFindItem1 q query).1 ≠ .success) := by
  have hall : q.contents.take n = q.contents := by
    apply List.take_of_length_le
    rwa [q.length_contents]
  rw [(TsQueue.holds_contents h).find, findRecent, hall]
  unfold TsQueue.newest
  split
  · rename_i hnil
    rw [hnil]
    exact .inr ⟨rfl, AxStatus.noConfusion⟩
  · cases hfind : q.contents.find? fun item => item.key = query.key with
    | none => exact .inr ⟨rfl, AxStatus.noConfusion⟩
    | some item => exact .inl ⟨item, rfl, rfl⟩

/-! ## The exact time -/

/-- The time of a record is exact, and positive as a signed number. -/
theorem toNat_tstampNs (sec nsec : UInt32) :
    (tstampNs sec nsec).toNat = sec.toNat * 10 ^ 9 + nsec.toNat ∧
      (tstampNs sec nsec).toNat < 2 ^ 63 := by
  have hsec := sec.toNat_lt
  have hnsec := nsec.toNat_lt
  have hval : (tstampNs sec nsec).toNat = sec.toNat * 10 ^ 9 + nsec.toNat := by
    rw [tstampNs, UInt64.toNat_add, UInt64.toNat_mul, UInt32.toNat_toUInt64, UInt32.toNat_toUInt64]
    show (sec.toNat * 1000000000 % 2 ^ 64 + nsec.toNat) % 2 ^ 64 = _
    omega
  exact ⟨hval, by omega⟩

/-- The record that `ax_tsn_rx_hwtstamp` finds. -/
def rxFound (tsD : CaptureData) (s : AxSwitch cap) : Option CaptureData :=
  match axTsqFindItem1 (s.queue .rx) tsD with
  | (.success, tsD) => some tsD
  | _ => none

/-- The record that the retries of `ax_tsn_tx_hwtstamp` find. -/
def txFound (tsD : CaptureData) :
    List (List (Dir × HwRecord) × CaptureData) → AxSwitch cap → Option CaptureData
  | [], _ => none
  | (captured, ts) :: tries, s =>
      let s := captured.foldl (fun s c => (s.step (.capture c.1 c.2)).1) s
      let s := (axRetrieveHwTimestamps ts s).1
      match axTsqFindItem1 (s.queue .tx) tsD with
      | (.success, tsD) => some tsD
      | _ => txFound tsD tries s

theorem rxLookup_eq (ptpMode : ℤ) (tsD : CaptureData) (s : AxSwitch cap) :
    rxLookup ptpMode tsD s = (rxFound tsD s).bind (tstampTime ptpMode) := by
  unfold rxLookup rxFound
  obtain ⟨status, found⟩ := axTsqFindItem1 (s.queue .rx) tsD
  cases status <;> rfl

theorem txLookup_eq (ptpMode : ℤ) (tsD : CaptureData)
    (tries : List (List (Dir × HwRecord) × CaptureData)) (s : AxSwitch cap) :
    (txLookup ptpMode tsD tries s).2 = (txFound tsD tries s).bind (tstampTime ptpMode) := by
  induction tries generalizing s with
  | nil => rfl
  | cons first tries ih =>
      obtain ⟨captured, ts⟩ := first
      simp only [txLookup, txFound]
      set s' := (axRetrieveHwTimestamps ts
        (captured.foldl (fun s c => (s.step (.capture c.1 c.2)).1) s)).1
      obtain ⟨status, found⟩ := axTsqFindItem1 (s'.queue .tx) tsD
      cases status with
      | success => rfl
      | qitemNotFound => exact ih s'
      | qNoItem => exact ih s'

/-! ## The queries -/

/-- `i` is the first slot of the table, below `number_of_domains`, that has the number. -/
structure FirstSlot (s : SyncSwitch cap) (domainNumber : UInt8) (i : ℕ) : Prop where
  lt : i < s.axswitch.numberOfDomains.val
  eq : s.domainNumberTable[i]? = some (domainNumber.toNat : ℤ)
  before : ∀ j < i, s.domainNumberTable[j]? ≠ some (domainNumber.toNat : ℤ)

theorem domainSlot_eq_some_iff {s : SyncSwitch cap} {domainNumber : UInt8}
    {i : Fin s.axswitch.numberOfDomains.val} :
    domainSlot s domainNumber = some i ↔ FirstSlot s domainNumber i.val := by
  have hget : ∀ j : Fin s.axswitch.numberOfDomains.val, s.domainNumberTable[j.val]? =
      some (s.domainNumberTable.get
        ⟨j.val, Nat.lt_succ_of_lt (j.isLt.trans_le s.axswitch.numberOfDomains.2)⟩) := fun j =>
    Vector.getElem?_eq_getElem (Nat.lt_succ_of_lt (j.isLt.trans_le s.axswitch.numberOfDomains.2))
  rw [domainSlot, ← Fin.find?_eq_find?_finRange, Fin.find?_eq_some_iff, decide_eq_true_iff]
  constructor
  · rintro ⟨heq, hbefore⟩
    refine ⟨i.isLt, by rw [hget, heq], fun j hj => ?_⟩
    have hno := hbefore ⟨j, hj.trans i.isLt⟩ hj
    rw [decide_eq_false_iff_not] at hno
    rw [hget ⟨j, hj.trans i.isLt⟩]
    exact fun h => hno (Option.some.inj h)
  · rintro ⟨-, heq, hbefore⟩
    refine ⟨Option.some.inj ((hget i).symm.trans heq), fun j hj => ?_⟩
    rw [decide_eq_false_iff_not]
    intro h
    apply hbefore j.val hj
    rw [hget, h]

/-- The record's time of the domain in slot `i` of the table. -/
structure DomainTime (item : CaptureData) (i : ℕ) (t : UInt64) : Prop where
  index_lt : i + 1 < MAX_NUM_DOMAINS + 1
  eq : t.toNat = (item.timestampH.get ⟨i + 1, index_lt⟩).toNat * 10 ^ 9 +
    (item.timestampL.get ⟨i + 1, index_lt⟩).toNat
  lt : t.toNat < 2 ^ 63

/-- What the frame itself gets for the record in mode 1588, if its own look-up finds this record. -/
def AttachesTime (cap : Dir → ℕ) (item : CaptureData) (t : UInt64) : Prop :=
  ∀ (msg : SkbTstampMsg) (tsD : CaptureData) (s : AxSwitch cap),
    (rxFound (tstampQuery msg tsD) s = some item → axTsnRxHwtstamp 1 msg tsD s = some t) ∧
      ∀ tries : Vector (List (Dir × HwRecord) × CaptureData) TX_TIMESTAMP_RETRIES,
        txFound (tstampQuery msg tsD) tries.toList s = some item →
          (axTsnTxHwtstamp 1 msg tsD tries s).2 = some t

theorem attachesTime_of_tstampTime {item : CaptureData} {t : UInt64}
    (h : tstampTime 1 item = some t) : AttachesTime cap item t := by
  intro msg tsD s
  refine ⟨fun hfound => ?_, fun tries hfound => ?_⟩
  · rw [axTsnRxHwtstamp, rxLookup_eq, hfound]
    exact h
  · rw [axTsnTxHwtstamp, txLookup_eq, hfound]
    exact h

/-- How a query is answered: `r` is the return value and what was written to the user buffer. -/
structure SyncAnswer (dir : Dir) (s : SyncSwitch cap) (tsD : CaptureData) (data : IoctlTimestampData)
    (r : ℤ × Option IoctlTimestampData) : Prop where
  notQueued : (s.axswitch.queue dir).newest (data.query tsD) = none → r = (-1, none)
  noSlot : ∀ item, (s.axswitch.queue dir).newest (data.query tsD) = some item →
    (∀ i < s.axswitch.numberOfDomains.val,
      s.domainNumberTable[i]? ≠ some (item.domainNumber.toNat : ℤ)) → r = (-1, none)
  answered : ∀ item i, (s.axswitch.queue dir).newest (data.query tsD) = some item →
    FirstSlot s item.domainNumber i → ∃ t, r = (0, some { data with timestamp := t }) ∧
      DomainTime item i t ∧ (i = 0 → AttachesTime cap item t)

theorem axGetSyncTimestamp_answer {dir : Dir} {s : SyncSwitch cap}
    (h : (s.axswitch.queue dir).numItems ≤ cap dir) (tsD : CaptureData) (data : IoctlTimestampData) :
    SyncAnswer dir s tsD data (axGetSyncTimestamp dir s tsD (some data) true) := by
  obtain ⟨item, hnewest, hfind⟩ | ⟨hnewest, hfail⟩ := axTsqFindItem1_newest h (data.query tsD)
  · simp only [axGetSyncTimestamp, hfind]
    refine ⟨fun hnone => ?_, fun item' hitem hno => ?_, fun item' i hitem hslot => ?_⟩
    · cases hnewest.symm.trans hnone
    · obtain rfl := Option.some.inj (hnewest.symm.trans hitem)
      cases hslot : domainSlot s item.domainNumber with
      | none => rfl
      | some i => exact absurd (domainSlot_eq_some_iff.mp hslot).eq (hno i.val i.isLt)
    · obtain rfl := Option.some.inj (hnewest.symm.trans hitem)
      have hsome : domainSlot s item.domainNumber = some ⟨i, hslot.lt⟩ :=
        domainSlot_eq_some_iff.mpr hslot
      have hindex : i + 1 < MAX_NUM_DOMAINS + 1 :=
        Nat.succ_lt_succ (hslot.lt.trans_le s.axswitch.numberOfDomains.2)
      obtain ⟨heq, hlt⟩ :=
        toNat_tstampNs (item.timestampH.get ⟨i + 1, hindex⟩) (item.timestampL.get ⟨i + 1, hindex⟩)
      rw [hsome]
      refine ⟨_, rfl, ⟨hindex, heq, hlt⟩, ?_⟩
      rintro rfl
      exact attachesTime_of_tstampTime rfl
  · have hrefused : axGetSyncTimestamp dir s tsD (some data) true = (-1, none) := by
      simp only [axGetSyncTimestamp]
      split
      · rename_i hsuccess
        rw [hsuccess] at hfail
        exact absurd rfl hfail
      · rfl
    refine ⟨fun _ => hrefused, fun _ _ _ => hrefused, fun item _ hitem => ?_⟩
    cases hnewest.symm.trans hitem

/-- **Sync timestamps.** Every table that user space sets is the one that stands afterwards, and for
every contents of the queues and every query the two functions refuse or return the message's time
in its own domain. -/
theorem axGetSyncTimestamps_exact (s : SyncSwitch cap) (table : DomainNumberTable)
    (h : ∀ dir, (s.axswitch.queue dir).numItems ≤ cap dir) (tsD : CaptureData)
    (data : IoctlTimestampData) :
    let s' := (axSetDomainNumberTable (some table) s).2
    (s'.domainNumberTable = table ∧ s'.axswitch = s.axswitch) ∧
      SyncAnswer .tx s' tsD data (axGetSyncTxTimestamp s' tsD (some data) true) ∧
      SyncAnswer .rx s' tsD data (axGetSyncRxTimestamp s' tsD (some data) true) := by
  intro s'
  exact ⟨⟨rfl, rfl⟩, axGetSyncTimestamp_answer (s := s') (h .tx) tsD data,
    axGetSyncTimestamp_answer (s := s') (h .rx) tsD data⟩

/-- A table that names domain 5 twice: the first slot decides, and its time is the one at index 1. -/
theorem axGetSyncTimestamps_exact_duplicate :
    let stack : CaptureData := ⟨0, .replicate 3 0, .replicate 3 0, 0, 0, 0⟩
    let item : CaptureData := ⟨3, #v[8, 5, 6], #v[7, 100, 200], 0, 0x0102, 5⟩
    let s : SyncSwitch fun _ => 1 :=
      ⟨⟨⟨fun _ => []⟩, ⟨2, le_rfl⟩, fun _ => (TsQueue.ofArray #v[stack] Nat.one_pos).insert item⟩,
        #v[0, 0, 0]⟩
    let s' := (axSetDomainNumberTable (some #v[5, 5, 0]) s).2
    axGetSyncTxTimestamp s' stack (some ⟨3, 0, 0x0102, 5, 0⟩) true =
      (0, some ⟨3, 0, 0x0102, 5, 100000000005⟩) := by
  intro stack item s s'
  have hanswer := (axGetSyncTimestamps_exact s #v[5, 5, 0] (fun _ => le_rfl) stack
    ⟨3, 0, 0x0102, 5, 0⟩).2.1
  have hslot : FirstSlot s' item.domainNumber 0 :=
    ⟨Nat.two_pos, rfl, fun j hj => absurd hj (Nat.not_lt_zero j)⟩
  obtain ⟨t, hr, htime, -⟩ := hanswer.answered item 0 (by decide) hslot
  rw [hr]
  have ht : t.toNat = 100 * 10 ^ 9 + 5 := htime.eq
  obtain rfl : t = 100000000005 := by
    apply UInt64.toNat_inj.mp
    rw [ht]
    rfl
  rfl

end Axm57104.Switch
