import Axm57104.Net.Lifecycle
import Mathlib.Data.List.Nodup

/-!
# Frames that wait for their transmit timestamp

`ax_net_start_xmit` appends a frame that wants a hardware timestamp to `tx_timestamp` and only then
copies it into the ring; the frame is freed by `tasklet_ptp`, which the completion interrupt of the
PTP channel schedules and which takes everything it finds on the queue. `ax_net_open` initialises the
queue, whatever is on it.

`tstampMachine` adds the queue, the calls of `ax_net_start_xmit` for such frames and the tasklet to
the life of an interface. Frames are numbered; a step that touches a freed frame is a fault.
-/

namespace Axm57104.Net

open Common Xdma

/-- Where `ax_net_start_xmit` is with a frame: behind `skb_queue_tail`, behind the locked section, or
done. -/
inductive XmitStage
  | none
  | appended (skb : TxSkb)
  | placed
  | returned

/-- The frame is in the ring. -/
def XmitStage.InRing : XmitStage → Prop
  | .placed | .returned => True
  | .none | .appended _ => False

/-- Where `tasklet_ptp` is: at the head of its loop, with a frame it has dequeued, or with one whose
timestamp it has looked up. -/
inductive TaskletPc
  | idle
  | loop
  | dequeued (k : ℕ)
  | lookedUp (k : ℕ)
  deriving DecidableEq

/-- The frame the tasklet has taken off the queue. -/
def TaskletPc.held : TaskletPc → List ℕ
  | .idle | .loop => []
  | .dequeued k | .lookedUp k => [k]

/-- A fault of the ring, or a frame that is used after it was freed, looked up before it was sent, or
freed twice. -/
inductive TstampFault
  | ring (f : Fault)
  | useAfterFree (k : ℕ)
  | notSent (k : ℕ)
  | doubleFree (k : ℕ)

/-- `txTimestamp` is the queue of that name; `appended` lists all frames that were ever on it. -/
structure TstampSys where
  dev : NetDev
  txTimestamp : List ℕ
  stage : ℕ → XmitStage
  tasklet : TaskletPc
  scheduled : Bool
  appended : List ℕ
  freed : List ℕ

inductive TstampEvent
  | append (k : ℕ) (skb : TxSkb)
  | place (k : ℕ)
  | ret (k : ℕ)
  | tasklet
  | life (ev : LifeEvent)

namespace TstampSys

def setStage (s : TstampSys) (k : ℕ) (stage : XmitStage) : TstampSys :=
  { s with stage := Function.update s.stage k stage }

/-- The locked section of `ax_net_start_xmit`. -/
def place (s : TstampSys) (k : ℕ) : Except TstampFault TstampSys :=
  match s.stage k with
  | .appended skb =>
      if k ∈ s.freed then .error (.useAfterFree k)
      else
        match axNetStartXmit s.dev skb with
        | .error f => .error (.ring f)
        | .ok dev => .ok ({ s with dev := dev }.setStage k .placed)
  | _ => .ok s

/-- The second look at `tx_flags`, which leaves the frame to the tasklet. -/
def ret (s : TstampSys) (k : ℕ) : Except TstampFault TstampSys :=
  if k ∈ s.freed then .error (.useAfterFree k) else .ok (s.setStage k .returned)

/-- One step of `tasklet_ptp`. -/
def taskletStep (s : TstampSys) : Except TstampFault TstampSys :=
  match s.tasklet with
  | .idle => .ok { s with tasklet := .loop, scheduled := false }
  | .loop =>
      match s.txTimestamp with
      | [] => .ok { s with tasklet := .idle }
      | k :: rest => .ok { s with tasklet := .dequeued k, txTimestamp := rest }
  | .dequeued k =>
      match s.stage k with
      | .placed | .returned => .ok { s with tasklet := .lookedUp k }
      | .none | .appended _ => .error (.notSent k)
  | .lookedUp k =>
      if k ∈ s.freed then .error (.doubleFree k)
      else .ok { s with tasklet := .loop, freed := k :: s.freed }

/-- What the rest of the driver does to the queue and the tasklet: the PTP completion schedules the
tasklet, an open empties the queue. -/
def afterLife (s : TstampSys) (ev : LifeEvent) (dev : NetDev) : TstampSys :=
  match ev with
  | .ndoOpen => { s with dev := dev, txTimestamp := [] }
  | .h2cIrq c => { s with dev := dev, scheduled := s.scheduled || c == 1 }
  | _ => { s with dev := dev }

/-- A step of the rest of the driver. -/
def life (s : TstampSys) (ev : LifeEvent) : Except TstampFault TstampSys :=
  match lifeExec s.dev ev with
  | .error f => .error (.ring f)
  | .ok dev => .ok (s.afterLife ev dev)

end TstampSys

/-- Frames are sent while the interface is up and its queue is not stopped, each once; a frame of
the plain transmit path wants no timestamp. -/
def tstampEnabled (s : TstampSys) : TstampEvent → Prop
  | .append k skb =>
      s.dev.linkStart = true ∧ s.dev.queueStopped = false ∧ skb.hwTstamp = true ∧ k ∉ s.appended
  | .place k => ∃ skb, s.stage k = .appended skb
  | .ret k => s.stage k = .placed
  | .tasklet => s.tasklet = .idle → s.scheduled = true
  | .life ev => lifeEnabled s.dev ev ∧ ∀ skb, ev = .xmit skb → skb.hwTstamp = false

def tstampExec (s : TstampSys) : TstampEvent → Except TstampFault TstampSys
  | .append k skb =>
      .ok { s.setStage k (.appended skb) with
        txTimestamp := s.txTimestamp ++ [k], appended := k :: s.appended }
  | .place k => s.place k
  | .ret k => s.ret k
  | .tasklet => s.taskletStep
  | .life ev => s.life ev

def tstampMachine : Machine TstampSys TstampEvent TstampFault where
  enabled := tstampEnabled
  exec := tstampExec

/-- Before the first frame. -/
def TstampSys.init (d : NetDev) : TstampSys := ⟨d, [], fun _ => .none, .idle, false, [], []⟩

/-- The tasklet takes a frame off the queue only when it is in the ring, and frees it only when
`ax_net_start_xmit` has returned; and the queue is empty when the interface is opened. -/
def AfterXmit (s : TstampSys) : TstampEvent → Prop
  | .tasklet =>
      (s.tasklet = .loop → ∀ k ∈ s.txTimestamp.head?, (s.stage k).InRing) ∧
        ∀ k, s.tasklet = .lookedUp k → s.stage k = .returned
  | .life .ndoOpen => s.txTimestamp = []
  | _ => True

/-- Every frame that was appended is on the queue, with the tasklet, or freed, and that once. -/
def TstampSys.ReleasedOnce (s : TstampSys) : Prop :=
  ∀ k ∈ s.appended, (s.txTimestamp ++ s.tasklet.held ++ s.freed).count k = 1

/-! ## The invariant -/

structure TstampInv (s : TstampSys) : Prop where
  perm : (s.txTimestamp ++ s.tasklet.held ++ s.freed).Perm s.appended
  nodup : s.appended.Nodup
  held : ∀ k ∈ s.tasklet.held, (s.stage k).InRing
  freed : ∀ k ∈ s.freed, s.stage k = .returned
  staged : ∀ k skb, s.stage k = .appended skb → k ∈ s.appended

/-- A step keeps the invariant, or it is the ring that faults. -/
def KeepsTstampInv (r : Except TstampFault TstampSys) : Prop :=
  (∀ s', r = .ok s' → TstampInv s') ∧ ∀ f, r = .error f → ∃ g, f = .ring g

theorem KeepsTstampInv.ring (f : Fault) : KeepsTstampInv (.error (.ring f)) := by
  refine ⟨fun s' hs' => ?_, fun f' hf' => ⟨f, (Except.error.inj hf').symm⟩⟩
  cases hs'

namespace TstampInv

variable {s s' : TstampSys}

theorem keeps (h : TstampInv s) : KeepsTstampInv (.ok s) := by
  refine ⟨fun s' hs' => ?_, fun f hf => ?_⟩
  · cases hs'
    exact h
  · cases hf

theorem releasedOnce (h : TstampInv s) : s.ReleasedOnce := by
  intro k hk
  rw [h.perm.count_eq]
  exact List.count_eq_one_of_mem h.nodup hk

theorem init (d : NetDev) : TstampInv (.init d) where
  perm := .nil
  nodup := .nil
  held _ hk := absurd hk List.not_mem_nil
  freed _ hk := absurd hk List.not_mem_nil
  staged _ _ hk := XmitStage.noConfusion hk

/-- A frame moves on in `ax_net_start_xmit`. -/
theorem setStage (h : TstampInv s) {k : ℕ} {stage : XmitStage} (hring : stage.InRing)
    (hfreed : k ∉ s.freed) : TstampInv (s.setStage k stage) where
  perm := h.perm
  nodup := h.nodup
  held k' hk' := by
    by_cases heq : k' = k
    · subst heq
      simp only [TstampSys.setStage, Function.update_self]
      exact hring
    · simp only [TstampSys.setStage, Function.update_of_ne heq]
      exact h.held k' hk'
  freed k' hk' := by
    have hne : k' ≠ k := fun heq => hfreed (heq ▸ hk')
    simp only [TstampSys.setStage, Function.update_of_ne hne]
    exact h.freed k' hk'
  staged k' skb hk' := by
    by_cases heq : k' = k
    · subst heq
      simp only [TstampSys.setStage, Function.update_self] at hk'
      subst hk'
      exact hring.elim
    · simp only [TstampSys.setStage, Function.update_of_ne heq] at hk'
      exact h.staged k' skb hk'

theorem not_freed (h : TstampInv s) {k : ℕ} (hstage : s.stage k ≠ .returned) : k ∉ s.freed :=
  fun hk => hstage (h.freed k hk)

theorem append (h : TstampInv s) {k : ℕ} (hk : k ∉ s.appended) (skb : TxSkb) :
    TstampInv { s.setStage k (.appended skb) with
      txTimestamp := s.txTimestamp ++ [k], appended := k :: s.appended } := by
  -- a fresh frame is nowhere yet
  have hne : ∀ k', k' ∈ s.txTimestamp ++ s.tasklet.held ++ s.freed → k' ≠ k :=
    fun k' hk' heq => hk (heq ▸ h.perm.mem_iff.mp hk')
  refine ⟨?_, List.nodup_cons.mpr ⟨hk, h.nodup⟩, ?_, ?_, ?_⟩
  · have hmid : (s.txTimestamp ++ [k] ++ s.tasklet.held ++ s.freed).Perm
        (k :: (s.txTimestamp ++ s.tasklet.held ++ s.freed)) := by
      rw [List.append_assoc s.txTimestamp, List.append_assoc s.txTimestamp, List.append_assoc [k],
        List.append_assoc s.txTimestamp]
      exact List.perm_middle
    exact hmid.trans (h.perm.cons k)
  · intro k' hk'
    have hk'' := hne k' (List.mem_append_left _ (List.mem_append_right _ hk'))
    simp only [TstampSys.setStage, Function.update_of_ne hk'']
    exact h.held k' hk'
  · intro k' hk'
    have hk'' := hne k' (List.mem_append_right _ hk')
    simp only [TstampSys.setStage, Function.update_of_ne hk'']
    exact h.freed k' hk'
  · intro k' skb' hk'
    by_cases heq : k' = k
    · subst heq
      exact List.mem_cons_self
    · simp only [TstampSys.setStage, Function.update_of_ne heq] at hk'
      exact List.mem_cons_of_mem _ (h.staged k' skb' hk')

theorem place (h : TstampInv s) {k : ℕ} : KeepsTstampInv (s.place k) := by
  unfold TstampSys.place
  split
  · rename_i skb hstage
    have hfreed : k ∉ s.freed := h.not_freed (by rw [hstage]; exact XmitStage.noConfusion)
    rw [if_neg hfreed]
    cases axNetStartXmit s.dev skb with
    | error f => exact .ring f
    | ok dev =>
      have hdev : TstampInv { s with dev := dev } := ⟨h.perm, h.nodup, h.held, h.freed, h.staged⟩
      apply keeps
      exact hdev.setStage trivial hfreed
  · exact h.keeps

theorem ret (h : TstampInv s) {k : ℕ} (hplaced : s.stage k = .placed) :
    ∃ s', s.ret k = .ok s' ∧ TstampInv s' := by
  have hfreed : k ∉ s.freed := h.not_freed (by rw [hplaced]; exact XmitStage.noConfusion)
  exact ⟨_, if_neg hfreed, h.setStage trivial hfreed⟩

/-- The tasklet, as long as it keeps behind `ax_net_start_xmit`. -/
theorem tasklet (h : TstampInv s) (hc : AfterXmit s .tasklet) :
    ∃ s', s.taskletStep = .ok s' ∧ TstampInv s' := by
  obtain ⟨dev, queue, stage, tasklet, scheduled, appended, freed⟩ := s
  cases tasklet with
  | idle => exact ⟨_, rfl, h.perm, h.nodup, h.held, h.freed, h.staged⟩
  | loop =>
      cases queue with
      | nil => exact ⟨_, rfl, h.perm, h.nodup, h.held, h.freed, h.staged⟩
      | cons k rest =>
          refine ⟨_, rfl, ?_, h.nodup, ?_, h.freed, h.staged⟩
          · have hswap : (rest ++ [k] ++ freed).Perm (k :: rest ++ freed) :=
              List.Perm.append_right _ (List.perm_append_singleton k rest)
            have hperm : (k :: rest ++ [] ++ freed).Perm appended := h.perm
            rw [List.append_nil] at hperm
            exact hswap.trans hperm
          · intro k' hk'
            cases List.mem_singleton.mp hk'
            exact hc.1 rfl k rfl
  | dequeued k =>
      have hring : (stage k).InRing := h.held k (List.mem_singleton_self k)
      refine ⟨⟨dev, queue, stage, .lookedUp k, scheduled, appended, freed⟩, ?_, h.perm, h.nodup,
        h.held, h.freed, h.staged⟩
      simp only [TstampSys.taskletStep]
      cases hstage : stage k with
      | none | appended =>
          rw [hstage] at hring
          exact hring.elim
      | placed | returned => rfl
  | lookedUp k =>
      have hnodup := h.perm.nodup_iff.mpr h.nodup
      have hfreed : k ∉ freed := by
        intro hk
        exact (List.nodup_append.mp hnodup).2.2 k
          (List.mem_append_right _ (List.mem_singleton_self k)) k hk rfl
      refine ⟨_, if_neg hfreed, ?_, h.nodup, fun k' hk' => absurd hk' List.not_mem_nil, ?_, h.staged⟩
      · have hperm : (queue ++ [k] ++ freed).Perm appended := h.perm
        rw [List.append_assoc] at hperm
        rw [TaskletPc.held, List.append_nil]
        exact hperm
      · intro k' hk'
        rcases List.mem_cons.mp hk' with rfl | hk'
        · exact hc.2 k' rfl
        · exact h.freed k' hk'

theorem life (h : TstampInv s) {ev : LifeEvent} (hc : AfterXmit s (.life ev)) :
    KeepsTstampInv (s.life ev) := by
  unfold TstampSys.life
  cases lifeExec s.dev ev with
  | error f => exact .ring f
  | ok dev =>
      apply keeps
      cases ev with
      | ndoOpen =>
          have hempty : s.txTimestamp = [] := hc
          have hperm := h.perm
          rw [hempty] at hperm
          exact ⟨hperm, h.nodup, h.held, h.freed, h.staged⟩
      | ndoStop | xmit | engine | h2cIrq | rx =>
          exact ⟨h.perm, h.nodup, h.held, h.freed, h.staged⟩

/-- One step: the invariant stays, and only the ring can fault. -/
theorem exec (h : TstampInv s) {e : TstampEvent} (hen : tstampEnabled s e) (hc : AfterXmit s e) :
    KeepsTstampInv (tstampExec s e) := by
  have hgood : (∃ s', tstampExec s e = .ok s' ∧ TstampInv s') → KeepsTstampInv (tstampExec s e) := by
    rintro ⟨s', hs', hinv⟩
    rw [hs']
    exact hinv.keeps
  cases e with
  | append k skb => exact hgood ⟨_, rfl, h.append hen.2.2.2 skb⟩
  | place k => exact h.place
  | ret k => exact hgood (h.ret hen)
  | tasklet => exact hgood (h.tasklet hc)
  | life ev => exact h.life hc

end TstampInv

/-- **Timestamp requests are released once, after the transmit.** In every run in which the tasklet
keeps behind `ax_net_start_xmit` and the interface is opened with an empty queue, each appended frame
is on the queue, with the tasklet or freed, exactly once; no frame is used after it was freed, looked
up before it was in the ring, or freed twice. -/
theorem tstampMachine_releasedOnce (d : NetDev) {es : List TstampEvent} {s : TstampSys}
    (hr : (tstampMachine.restrict AfterXmit).Run (.init d) es s) :
    s.ReleasedOnce ∧ ∀ e f, (tstampMachine.restrict AfterXmit).enabled s e →
      tstampMachine.exec s e = .error f → ∃ g, f = .ring g := by
  have hinv : TstampInv s := by
    refine hr.invariant (TstampInv.init d) ?_
    intro t e u ht hen hex
    exact (ht.exec hen.1 hen.2).1 u hex
  exact ⟨hinv.releasedOnce, fun e f hen => (hinv.exec hen.1 hen.2).2 f⟩

/-! ## The first frame of the PTP channel -/

/-- A frame of 60 zero bytes that wants a timestamp. -/
def ptpSkb : TxSkb := { sampleSkb with hwTstamp := true }

theorem padShort_ptpSkb : padShort ptpSkb = .ok (List.replicate 60 0) := padShort_sampleSkb

/-- A run of one frame ends with the first step of the engine, which raises the interrupt. -/
theorem h2cStep_launched {e : XdmaEngine} {t : XdmaTransfer} {frame : List UInt8}
    (h : frame.length + NIC_TX_HEADER_SIZE ≤ DMA_PACKET_SIZE) (hr : TxRing e t)
    (hcur : t.currentList < DESC_LIST_NUM) :
    ∃ hw, (launched (setControl (storeEntry e (t.currentList * 512) frame h) (t.currentList * 512)
        lastControl) t).h2cStep =
      .ok { launched (setControl (storeEntry e (t.currentList * 512) frame h) (t.currentList * 512)
        lastControl) t with hw := hw } ∧ hw.descStopped = true := by
  set entry := t.currentList * 512 with hentry
  set e' := setControl (storeEntry e entry frame h) entry lastControl with he'
  have hidx : entry < TX_DESC_NUM := by
    simp only [DESC_LIST_NUM, TX_DESC_NUM, RX_DESC_NUM] at hcur ⊢
    omega
  have hring : TxRing e' t := (hr.storeEntry entry h).setControl entry lastControl
  have hfetch : (launched e' t).fetch = some (entry, e'.desc entry) := by
    have hpc : (launched e' t).hw.pc = some (descAddr e' entry) :=
      congrArg some (hring.list _ hcur)
    rw [XdmaEngine.fetch, hpc, Option.bind_some, descAddr]
    exact congrArg (Option.map _) (blockIndex_add _ _ (by decide))
  have hsrc : blockIndex e'.txBuffBus.bus DMA_PACKET_SIZE (e'.desc entry).src = some entry := by
    rw [hring.src _ hidx, blockIndex_add _ _ (by decide)]
  have hstop : (e'.desc entry).isStopped = true := by
    rw [he', setControl_isStopped]
    decide
  refine ⟨(launched e' t).hw.finish (e'.desc entry)
    (wireFrame ((e'.txBuff entry).data.take (e'.desc entry).bytes)), ?_, ?_⟩
  · have hsrc' : blockIndex (launched e' t).txBuffBus.bus DMA_PACKET_SIZE (e'.desc entry).src =
        some entry := hsrc
    simp only [XdmaEngine.h2cStep, hfetch, hsrc']
    rfl
  · simp only [HwEngine.finish, hstop, Bool.or_true]

/-- The interface is up and takes frames. -/
def Sending (d : NetDev) : Prop := d.linkStart = true ∧ d.queueStopped = false

/-- A device stays such that it can be opened when a channel is given a started engine. -/
theorem Openable.setTx {d : NetDev} (h : Openable d) (c : Fin XDMA_CHANNEL_NUM_MAX)
    (list : AxTxList) {e : XdmaEngine} (he : e.shutdownRequest = false)
    (ht : ∃ t, e.transfer = some t) : Openable (d.setTx c list e) := by
  refine ⟨h.online, fun c' => ?_, h.c2h, fun hf c' => ?_, h.c2hTransfer⟩
  · simp only [NetDev.setTx]
    rcases eq_or_ne c' c with rfl | hne
    · rw [Function.update_self]
      exact he
    · rw [Function.update_of_ne hne]
      exact h.h2c c'
  · simp only [NetDev.setTx]
    rcases eq_or_ne c' c with rfl | hne
    · rw [Function.update_self]
      exact ht
    · rw [Function.update_of_ne hne]
      exact h.h2cTransfer hf c'

/-- A probed device is opened, sends one frame on the PTP channel, and handles the completion. -/
theorem first_ptp_frame :
    ∃ d₁ d₂ d₃ d₄, axNetOpen probedDev = .ok d₁ ∧ Sending d₁ ∧
      axNetStartXmit d₁ ptpSkb = .ok d₂ ∧ Sending d₂ ∧
      (d₂.engineH2c 1).hw.pc ≠ none ∧ h2cTransfer 1 d₂ = .ok d₃ ∧
      intRequest (d₃.engineH2c 1) = true ∧ h2cIrq 1 (channelIntRequest d₃) d₃ = .ok d₄ ∧
      ∃ d₅, axNetOpen (axNetClose d₂) = .ok d₅ := by
  obtain ⟨d₁, hopen⟩ := axNetOpen_probedDev
  have hnull := probedDev_quiescent.toNoTransferYet
  obtain ⟨hbase, htx, -⟩ := axNetOpen_spec hopen hnull
  obtain ⟨desc, t, he, hring, hcur⟩ := htx 1
  have hup : Sending d₁ := by
    rw [hbase]
    exact ⟨rfl, rfl⟩
  have hlist : d₁.txList 1 = { idle := 1, cur := 0, curPktCount := 0 } := by
    rw [hbase]
    rfl
  have hstopped : (d₁.engineH2c 1).running = false := by
    rw [he]
    rfl
  have hcur0 : (d₁.txList 1).cur = t.currentList * 512 := by
    rw [hlist, hcur]
  have hxmit : axNetStartXmit d₁ ptpSkb = .ok (d₁.setTx 1 (turnHalf t).2
      (launched (setControl (storeEntry (d₁.engineH2c 1) (t.currentList * 512) _
        (length_padShort padShort_ptpSkb)) (t.currentList * 512) lastControl) t)) := by
    rw [axNetStartXmit_eq padShort_ptpSkb, ← hcur0]
    exact xmitFrame_idle (length_padShort padShort_ptpSkb) hring.transfer_eq
      (congrArg AxTxList.idle hlist) hstopped
  obtain ⟨hw, hstep, hstop⟩ := h2cStep_launched (length_padShort padShort_ptpSkb) hring
    (by rw [hcur]; decide)
  set e := launched (setControl (storeEntry (d₁.engineH2c 1) (t.currentList * 512) _
    (length_padShort padShort_ptpSkb)) (t.currentList * 512) lastControl) t
  set d₂ := d₁.setTx 1 (turnHalf t).2 e
  have he₂ : d₂.engineH2c 1 = e := by simp only [d₂, NetDev.setTx, Function.update_self]
  set d₃ : NetDev := { d₂ with engineH2c := Function.update d₂.engineH2c 1 { e with hw := hw } }
  have htransfer : h2cTransfer 1 d₂ = .ok d₃ := by
    simp only [h2cTransfer, he₂, hstep]
    rfl
  have he₃ : d₃.engineH2c 1 = { e with hw := hw } := by simp only [d₃, Function.update_self]
  have hreq : intRequest (d₃.engineH2c 1) = true := by
    rw [he₃, intRequest]
    simp only [hstop, Bool.true_or]
  have hcount : (d₃.txList 1).curPktCount = 0 := by
    simp only [d₃, d₂, NetDev.setTx, Function.update_self]
    rfl
  have hservice := serviceH2c_empty (d := d₃) (c := 1) (t := (turnHalf t).1) (by rw [he₃]; rfl) hcount
  obtain ⟨d₄, hirq⟩ : ∃ d₄, h2cIrq 1 (channelIntRequest d₃) d₃ = .ok d₄ := by
    rw [h2cIrq_eq, if_pos hreq, hservice]
    exact ⟨_, rfl⟩
  have hopenable : Openable d₂ :=
    (probedDev_openable.opened hnull hopen).setTx 1 _ rfl ⟨_, rfl⟩
  obtain ⟨d₅, hreopen⟩ := axNetOpen_ok hopenable.closed rfl
  refine ⟨d₁, d₂, d₃, d₄, hopen, hup, hxmit, hup, ?_, htransfer, hreq, hirq, d₅, hreopen⟩
  rw [he₂]
  exact Option.some_ne_none _

/-! ## Runs -/

theorem tstampExec_life {s : TstampSys} {ev : LifeEvent} {dev : NetDev}
    (h : lifeExec s.dev ev = .ok dev) :
    tstampMachine.exec s (.life ev) = .ok (s.afterLife ev dev) := by
  simp only [tstampMachine, tstampExec, TstampSys.life, h]

theorem tstampExec_place {s : TstampSys} {k : ℕ} {skb : TxSkb} {dev : NetDev}
    (hstage : s.stage k = .appended skb) (hfreed : k ∉ s.freed) (h : axNetStartXmit s.dev skb = .ok dev) :
    tstampMachine.exec s (.place k) = .ok ({ s with dev := dev }.setStage k .placed) := by
  simp only [tstampMachine, tstampExec, TstampSys.place, hstage, if_neg hfreed, h]

/-- A frame is sent and completed, and the tasklet frees it. -/
def oneFrame : List TstampEvent :=
  [.life .ndoOpen, .append 0 ptpSkb, .place 0, .ret 0, .life (.engine 1), .life (.h2cIrq 1),
    .tasklet, .tasklet, .tasklet, .tasklet]

/-- The stages when frame 0 has been appended, placed, and is done. -/
def stage₁ : ℕ → XmitStage := Function.update (fun _ => .none) 0 (.appended ptpSkb)

def stage₂ : ℕ → XmitStage := Function.update stage₁ 0 .placed

def stage₃ : ℕ → XmitStage := Function.update stage₂ 0 .returned

/-- One frame, from the open to the end of its tasklet: it is freed once. -/
theorem tstampMachine_releasedOnce_one_frame :
    ∃ s, (tstampMachine.restrict AfterXmit).Run (.init probedDev) oneFrame s ∧
      s.freed = [0] ∧ s.ReleasedOnce := by
  obtain ⟨d₁, d₂, d₃, d₄, hopen, hup, hxmit, -, hpc, htransfer, hreq, hirq, -⟩ := first_ptp_frame
  have hrun : (tstampMachine.restrict AfterXmit).Run (.init probedDev) oneFrame
      ⟨d₄, [], stage₃, .loop, false, [0], [0]⟩ := by
    refine .cons (t := ⟨d₁, [], fun _ => .none, .idle, false, [], []⟩) ⟨⟨rfl, nofun⟩, rfl⟩ ?_ ?_
    · rw [Machine.restrict_exec]
      apply tstampExec_life
      exact hopen
    refine .cons (t := ⟨d₁, [0], stage₁, .idle, false, [0], []⟩)
      ⟨⟨hup.1, hup.2, rfl, List.not_mem_nil⟩, trivial⟩ rfl ?_
    refine .cons (t := ⟨d₂, [0], stage₂, .idle, false, [0], []⟩) ⟨⟨ptpSkb, rfl⟩, trivial⟩ ?_ ?_
    · rw [Machine.restrict_exec]
      apply tstampExec_place rfl List.not_mem_nil
      exact hxmit
    refine .cons (t := ⟨d₂, [0], stage₃, .idle, false, [0], []⟩) ⟨rfl, trivial⟩ rfl ?_
    refine .cons (t := ⟨d₃, [0], stage₃, .idle, false, [0], []⟩) ⟨⟨hpc, nofun⟩, trivial⟩ ?_ ?_
    · rw [Machine.restrict_exec]
      apply tstampExec_life
      exact htransfer
    refine .cons (t := ⟨d₄, [0], stage₃, .idle, true, [0], []⟩) ⟨⟨hreq, nofun⟩, trivial⟩ ?_ ?_
    · rw [Machine.restrict_exec]
      apply tstampExec_life
      exact hirq
    refine .cons (t := ⟨d₄, [0], stage₃, .loop, false, [0], []⟩) ⟨fun _ => rfl, nofun, nofun⟩ rfl ?_
    refine .cons (t := ⟨d₄, [], stage₃, .dequeued 0, false, [0], []⟩) ⟨nofun, ?_, nofun⟩ rfl ?_
    · intro _ k hk
      cases hk
      trivial
    refine .cons (t := ⟨d₄, [], stage₃, .lookedUp 0, false, [0], []⟩) ⟨nofun, nofun, nofun⟩ rfl ?_
    refine .cons ⟨nofun, nofun, ?_⟩ rfl .nil
    intro k hk
    cases hk
    rfl
  exact ⟨_, hrun, rfl, (tstampMachine_releasedOnce _ hrun).1⟩

/-- Frame 0 is completed while frame 1 is on the queue and not in the ring yet. -/
def secondOnQueue : List TstampEvent :=
  [.life .ndoOpen, .append 0 ptpSkb, .place 0, .ret 0, .append 1 ptpSkb, .life (.engine 1),
    .life (.h2cIrq 1), .tasklet, .tasklet, .tasklet, .tasklet, .tasklet]

/-- Frame 0 is completed before `ax_net_start_xmit` has looked at its flags again. -/
def earlyCompletion : List TstampEvent :=
  [.life .ndoOpen, .append 0 ptpSkb, .place 0, .life (.engine 1), .life (.h2cIrq 1), .tasklet,
    .tasklet, .tasklet, .tasklet]

/-- The interface is closed and opened again with frame 0 on the queue. -/
def reopened : List TstampEvent :=
  [.life .ndoOpen, .append 0 ptpSkb, .place 0, .ret 0, .life .ndoStop, .life .ndoOpen]

/-- The tasklet looks up a frame that was never sent; `ax_net_start_xmit` reads a frame that is
freed; and a frame is forgotten. -/
theorem tstampMachine_loses_frames :
    (∃ s, tstampMachine.Run (.init probedDev) secondOnQueue s ∧ tstampEnabled s .tasklet ∧
      tstampExec s .tasklet = .error (.notSent 1)) ∧
    (∃ s, tstampMachine.Run (.init probedDev) earlyCompletion s ∧ tstampEnabled s (.ret 0) ∧
      tstampExec s (.ret 0) = .error (.useAfterFree 0)) ∧
    ∃ s, tstampMachine.Run (.init probedDev) reopened s ∧ ¬ s.ReleasedOnce := by
  obtain ⟨d₁, d₂, d₃, d₄, hopen, hup, hxmit, hup₂, hpc, htransfer, hreq, hirq, d₅, hreopen⟩ :=
    first_ptp_frame
  -- all three begin with the open and the append and the copy of frame 0
  have hplaced : tstampMachine.Run (.init probedDev) [.life .ndoOpen, .append 0 ptpSkb, .place 0]
      ⟨d₂, [0], stage₂, .idle, false, [0], []⟩ := by
    refine .cons (t := ⟨d₁, [], fun _ => .none, .idle, false, [], []⟩) ⟨rfl, nofun⟩ ?_ ?_
    · apply tstampExec_life
      exact hopen
    refine .cons (t := ⟨d₁, [0], stage₁, .idle, false, [0], []⟩)
      ⟨hup.1, hup.2, rfl, List.not_mem_nil⟩ rfl ?_
    refine .single ⟨ptpSkb, rfl⟩ ?_
    apply tstampExec_place rfl List.not_mem_nil
    exact hxmit
  refine ⟨?_, ?_, ?_⟩
  · refine ⟨⟨d₄, [], Function.update stage₃ 1 (.appended ptpSkb), .dequeued 1, false, [1, 0], [0]⟩,
      hplaced.append ?_, nofun, rfl⟩
    set stage := Function.update stage₃ 1 (.appended ptpSkb)
    refine .cons (t := ⟨d₂, [0], stage₃, .idle, false, [0], []⟩) rfl rfl ?_
    refine .cons (t := ⟨d₂, [0, 1], stage, .idle, false, [1, 0], []⟩)
      ⟨hup₂.1, hup₂.2, rfl, by simp⟩ rfl ?_
    refine .cons (t := ⟨d₃, [0, 1], stage, .idle, false, [1, 0], []⟩) ⟨hpc, nofun⟩ ?_ ?_
    · apply tstampExec_life
      exact htransfer
    refine .cons (t := ⟨d₄, [0, 1], stage, .idle, true, [1, 0], []⟩) ⟨hreq, nofun⟩ ?_ ?_
    · apply tstampExec_life
      exact hirq
    refine .cons (t := ⟨d₄, [0, 1], stage, .loop, false, [1, 0], []⟩) (fun _ => rfl) rfl ?_
    refine .cons (t := ⟨d₄, [1], stage, .dequeued 0, false, [1, 0], []⟩) nofun rfl ?_
    refine .cons (t := ⟨d₄, [1], stage, .lookedUp 0, false, [1, 0], []⟩) nofun rfl ?_
    refine .cons (t := ⟨d₄, [1], stage, .loop, false, [1, 0], [0]⟩) nofun rfl ?_
    exact .single nofun rfl
  · refine ⟨⟨d₄, [], stage₂, .loop, false, [0], [0]⟩, hplaced.append ?_, rfl, rfl⟩
    refine .cons (t := ⟨d₃, [0], stage₂, .idle, false, [0], []⟩) ⟨hpc, nofun⟩ ?_ ?_
    · apply tstampExec_life
      exact htransfer
    refine .cons (t := ⟨d₄, [0], stage₂, .idle, true, [0], []⟩) ⟨hreq, nofun⟩ ?_ ?_
    · apply tstampExec_life
      exact hirq
    refine .cons (t := ⟨d₄, [0], stage₂, .loop, false, [0], []⟩) (fun _ => rfl) rfl ?_
    refine .cons (t := ⟨d₄, [], stage₂, .dequeued 0, false, [0], []⟩) nofun rfl ?_
    refine .cons (t := ⟨d₄, [], stage₂, .lookedUp 0, false, [0], []⟩) nofun rfl ?_
    exact .single nofun rfl
  · refine ⟨⟨d₅, [], stage₃, .idle, false, [0], []⟩, hplaced.append ?_, fun h => ?_⟩
    · refine .cons (t := ⟨d₂, [0], stage₃, .idle, false, [0], []⟩) rfl rfl ?_
      refine .cons (t := ⟨axNetClose d₂, [0], stage₃, .idle, false, [0], []⟩) ⟨hup₂.1, nofun⟩ rfl ?_
      refine .single ⟨rfl, nofun⟩ ?_
      apply tstampExec_life
      exact hreopen
    · have hcount := h 0 (List.mem_singleton_self 0)
      cases hcount

end Axm57104.Net
