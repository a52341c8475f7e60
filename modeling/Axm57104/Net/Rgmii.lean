import Axm57104.Common.Prog
import Mathlib.Data.List.Basic
import Mathlib.Data.Nat.Notation
import Mathlib.Tactic.Common

/-!
# Bringing up the RGMII ports

`ax_init_rgmii` reads the status of the PHY of every port. A PHY that does not have its link and its
auto-negotiation is restarted, up to three times, and polled after each restart until it has had both
three times or five polls are made. The two counters are set to 0 once, before the first port: later
restarts of a port are polled once only, and a port is treated with what its predecessors have left
in the counters. `axInitRgmii_independent_iff` says exactly when that makes no difference.

The PHYs are given by the readings of their status registers.
-/

namespace Axm57104.Net

open Common

/-! ## The driver -/

@[simp] abbrev MII_BMCR : ℕ := 0x00
@[simp] abbrev MII_BMSR : ℕ := 0x01
@[simp] abbrev BMCR_ANRESTART : UInt16 := 0x0200
@[simp] abbrev BMCR_ANENABLE : UInt16 := 0x1000
@[simp] abbrev BMSR_LSTATUS : UInt16 := 0x0004
@[simp] abbrev BMSR_ANEGCOMPLETE : UInt16 := 0x0020

/-- The calls of `ax_mdio_read` and `ax_mdio_write`, and of `pr_info` for a port that failed. -/
inductive RgmiiOp
  | axMdioRead (phyId regnum : ℕ)
  | axMdioWrite (phyId regnum : ℕ) (val : UInt16)
  | prInfoFailed (port : ℕ)
  deriving DecidableEq, Repr

/-- Failure is for a loop that has not ended in the iterations it was given. -/
abbrev RgmiiM : Type → Type := Prog RgmiiOp UInt16 Unit

/-- `match_num` and `retry_num`. -/
structure RgmiiCounters where
  matchNum : UInt8
  retryNum : UInt8
  deriving DecidableEq, Repr

/-- The test of `bmsr`: the link is up and the auto-negotiation complete. -/
def bmsrUp (bmsr : UInt16) : Bool :=
  bmsr &&& (BMSR_LSTATUS ||| BMSR_ANEGCOMPLETE) = (BMSR_LSTATUS ||| BMSR_ANEGCOMPLETE)

/-- The counters after a poll. -/
def RgmiiCounters.count (c : RgmiiCounters) (bmsr : UInt16) : RgmiiCounters where
  matchNum := if bmsrUp bmsr then c.matchNum + 1 else c.matchNum
  retryNum := c.retryNum + 1

/-- The inner loop: polls of port `i`. -/
def rgmiiPoll (i : ℕ) : (fuel : ℕ) → RgmiiCounters → RgmiiM RgmiiCounters
  | 0, _ => .fail ()
  | fuel + 1, c => .op (.axMdioRead i MII_BMSR) fun bmsr =>
      if 3 ≤ (c.count bmsr).matchNum ∨ 5 ≤ (c.count bmsr).retryNum then pure (c.count bmsr)
      else rgmiiPoll i fuel (c.count bmsr)

/-- The loop over `j`, with `n` iterations left. -/
def rgmiiRestart (i : ℕ) : (n : ℕ) → RgmiiCounters → RgmiiM RgmiiCounters
  | 0, c => pure c
  | n + 1, c => .op (.axMdioWrite i MII_BMCR (BMCR_ANRESTART ||| BMCR_ANENABLE)) fun _ => do
      let c ← rgmiiPoll i 6 c
      if c.matchNum = 3 then pure c else rgmiiRestart i n c

/-- What `ax_init_rgmii` does for port `i`. -/
def rgmiiPort (i : ℕ) (c : RgmiiCounters) : RgmiiM RgmiiCounters :=
  .op (.axMdioRead i MII_BMSR) fun bmsr =>
    if bmsrUp bmsr then pure c
    else do
      let c ← rgmiiRestart i 3 c
      if 5 ≤ c.retryNum ∧ c.matchNum < 3 then .op (.prInfoFailed (i - 1)) fun _ => pure c
      else pure c

/-- The loop over the ports. -/
def rgmiiPorts : List ℕ → RgmiiCounters → RgmiiM Unit
  | [], _ => pure ()
  | i :: is, c => do
      let c ← rgmiiPort i c
      rgmiiPorts is c

/-- `ax_init_rgmii`. The number of ports comes from a `uint8_t`. -/
def axInitRgmii (numberOfPorts : UInt8) : RgmiiM Unit :=
  rgmiiPorts (List.range' 1 (numberOfPorts.toNat - 1)) ⟨0, 0⟩

/-! ## The loops end -/

/-- Six polls are always enough, also where `retry_num` wraps. -/
theorem rgmiiPoll_returns (i : ℕ) {fuel : ℕ} {c : RgmiiCounters} (hfuel : 1 ≤ fuel)
    (hretry : 6 ≤ (c.retryNum + 1).toNat + fuel) : (rgmiiPoll i fuel c).Returns fun _ => True := by
  induction fuel generalizing c with
  | zero => omega
  | succ fuel ih =>
      intro bmsr
      beta_reduce
      split
      · trivial
      · rename_i hgo
        have hlt : (c.retryNum + 1).toNat < 5 := by
          by_contra hge
          exact hgo (.inr (UInt8.le_iff_toNat_le.mpr (Nat.not_lt.mp hge)))
        have hnext : ((c.count bmsr).retryNum + 1).toNat = (c.retryNum + 1).toNat + 1 := by
          show (c.retryNum + 1 + 1).toNat = _
          rw [UInt8.toNat_add]
          show ((c.retryNum + 1).toNat + 1) % 2 ^ 8 = _
          omega
        apply ih <;> omega

theorem rgmiiRestart_returns (i n : ℕ) (c : RgmiiCounters) :
    (rgmiiRestart i n c).Returns fun _ => True := by
  induction n generalizing c with
  | zero => trivial
  | succ n ih =>
      intro _
      refine (rgmiiPoll_returns i (by omega) (Nat.le_add_left 6 _)).bind fun c' _ => ?_
      split
      · trivial
      · exact ih c'

theorem rgmiiPort_returns (i : ℕ) (c : RgmiiCounters) :
    (rgmiiPort i c).Returns fun _ => True := by
  intro bmsr
  beta_reduce
  split
  · trivial
  · refine (rgmiiRestart_returns i 3 c).bind fun c' _ => ?_
    split
    · exact fun _ => trivial
    · trivial

theorem rgmiiPorts_returns (is : List ℕ) (c : RgmiiCounters) :
    (rgmiiPorts is c).Returns fun _ => True := by
  induction is generalizing c with
  | nil => trivial
  | cons i is ih => exact (rgmiiPort_returns i c).bind fun c' _ => ih c'

/-! ## The ports -/

/-- The port of an operation; the message has its number less one. -/
def RgmiiOp.port : RgmiiOp → ℕ
  | axMdioRead phyId _ => phyId
  | axMdioWrite phyId _ _ => phyId
  | prInfoFailed port => port + 1

/-- PHYs with the given readings of their status registers. The state is how many were taken. -/
def rgmiiDev (bmsr : ℕ → ℕ → UInt16) : Device (ℕ → ℕ) RgmiiOp UInt16
  | .axMdioRead phyId _, taken =>
      (bmsr phyId (taken phyId), Function.update taken phyId (taken phyId + 1))
  | .axMdioWrite _ _ _, taken => (0, taken)
  | .prInfoFailed _, taken => (0, taken)

/-- What is done about port `i` in a run. -/
def portLog (i : ℕ) (log : List (RgmiiOp × UInt16)) : List (RgmiiOp × UInt16) :=
  log.filter fun x => x.1.port = i

theorem rgmiiPoll_all (i fuel : ℕ) (c : RgmiiCounters) :
    (rgmiiPoll i fuel c).All (·.port = i) := by
  induction fuel generalizing c with
  | zero => trivial
  | succ fuel ih =>
      refine ⟨rfl, fun bmsr => ?_⟩
      beta_reduce
      split
      · trivial
      · exact ih _

theorem rgmiiRestart_all (i n : ℕ) (c : RgmiiCounters) :
    (rgmiiRestart i n c).All (·.port = i) := by
  induction n generalizing c with
  | zero => trivial
  | succ n ih =>
      refine ⟨rfl, fun _ => (rgmiiPoll_all i 6 c).bind fun c' => ?_⟩
      split
      · trivial
      · exact ih c'

theorem rgmiiPort_all {i : ℕ} (hi : 1 ≤ i) (c : RgmiiCounters) :
    (rgmiiPort i c).All (·.port = i) := by
  refine ⟨rfl, fun bmsr => ?_⟩
  beta_reduce
  split
  · trivial
  · refine (rgmiiRestart_all i 3 c).bind fun c' => ?_
    split
    · exact ⟨Nat.sub_add_cancel hi, fun _ => trivial⟩
    · trivial

theorem rgmiiPorts_all {is : List ℕ} (his : ∀ i ∈ is, 1 ≤ i) (c : RgmiiCounters) :
    (rgmiiPorts is c).All (·.port ∈ is) := by
  induction is generalizing c with
  | nil => trivial
  | cons i is ih =>
      obtain ⟨hi, his⟩ := List.forall_mem_cons.mp his
      refine Prog.All.bind ?_ fun c' => ?_
      · exact (rgmiiPort_all hi c).mono fun o ho => List.mem_cons.mpr (.inl ho)
      · exact (ih his c').mono fun o ho => List.mem_cons_of_mem _ ho

section Ports

variable {bmsr bmsr' : ℕ → ℕ → UInt16} {i j : ℕ} {α : Type} {p : RgmiiM α} {taken taken' : ℕ → ℕ}

/-- What is done about one port depends on its own readings. -/
theorem run_eq_of_readings (hp : p.All (·.port = i)) (hbmsr : bmsr i = bmsr' i)
    (htaken : taken i = taken' i) :
    (p.run (rgmiiDev bmsr) taken).result = (p.run (rgmiiDev bmsr') taken').result ∧
      (p.run (rgmiiDev bmsr) taken).log = (p.run (rgmiiDev bmsr') taken').log := by
  have hdev : ∀ o : RgmiiOp, o.port = i → ∀ s t : ℕ → ℕ, s i = t i →
      (rgmiiDev bmsr o s).1 = (rgmiiDev bmsr' o t).1 ∧
        (rgmiiDev bmsr o s).2 i = (rgmiiDev bmsr' o t).2 i := by
    rintro o rfl s t h
    cases o with
    | axMdioRead phyId regnum =>
        change s phyId = t phyId at h
        simp only [rgmiiDev, RgmiiOp.port, h, Function.update_self, and_true]
        exact congrFun hbmsr _
    | axMdioWrite phyId regnum val => exact ⟨rfl, h⟩
    | prInfoFailed port => exact ⟨rfl, h⟩
  obtain ⟨hresult, hlog, -⟩ := Prog.All.simulates (I := fun s t : ℕ → ℕ => s i = t i) hdev hp
    htaken
  exact ⟨hresult, hlog⟩

/-- and leaves the readings of the others. -/
theorem final_eq_of_ne (hp : p.All (·.port = i)) (hne : j ≠ i) :
    (p.run (rgmiiDev bmsr) taken).final j = taken j := by
  refine hp.invariant (I := fun s : ℕ → ℕ => s j = taken j) ?_ rfl
  rintro o rfl s h
  cases o with
  | axMdioRead phyId regnum => exact (Function.update_of_ne hne _ _).trans h
  | axMdioWrite phyId regnum val => exact h
  | prInfoFailed port => exact h

theorem portLog_of_all (hp : p.All (·.port = i)) :
    portLog i (p.run (rgmiiDev bmsr) taken).log = (p.run (rgmiiDev bmsr) taken).log := by
  apply List.filter_eq_self.mpr
  intro x hx
  exact decide_eq_true (hp.mem_log hx)

theorem portLog_eq_nil {is : List ℕ} (hp : p.All (·.port ∈ is)) (hi : i ∉ is) :
    portLog i (p.run (rgmiiDev bmsr) taken).log = [] := by
  apply List.filter_eq_nil_iff.mpr
  intro x hx hport
  have hmem := hp.mem_log hx
  rw [of_decide_eq_true hport] at hmem
  exact hi hmem

end Ports

/-- Port `i` alone, with what is in the counters. -/
def portOutcome (bmsr : ℕ → ℕ → UInt16) (i : ℕ) (c : RgmiiCounters) :
    Outcome (ℕ → ℕ) RgmiiOp UInt16 Unit RgmiiCounters :=
  (rgmiiPort i c).run (rgmiiDev bmsr) fun _ => 0

/-- The counters that ports leave. -/
inductive Carries (bmsr : ℕ → ℕ → UInt16) : List ℕ → RgmiiCounters → RgmiiCounters → Prop
  | nil (c : RgmiiCounters) : Carries bmsr [] c c
  | cons {i : ℕ} {is : List ℕ} {c c' c'' : RgmiiCounters} :
      (portOutcome bmsr i c).result = .ok c' → Carries bmsr is c' c'' → Carries bmsr (i :: is) c c''

theorem exists_carries (bmsr : ℕ → ℕ → UInt16) (is : List ℕ) (c : RgmiiCounters) :
    ∃ c', Carries bmsr is c c' := by
  induction is generalizing c with
  | nil => exact ⟨c, .nil c⟩
  | cons i is ih =>
      obtain ⟨c', hc', -⟩ := (rgmiiPort_returns i c).run (rgmiiDev bmsr) fun _ => 0
      obtain ⟨c'', hc''⟩ := ih c'
      exact ⟨c'', .cons hc' hc''⟩

/-- In a run over several ports, a port is treated as it is alone with the counters that the ports
before it have left. -/
theorem portLog_rgmiiPorts {bmsr : ℕ → ℕ → UInt16} {before after : List ℕ} {i : ℕ}
    {c c' : RgmiiCounters} (hcarries : Carries bmsr before c c') {taken : ℕ → ℕ}
    (hpos : ∀ j ∈ before ++ i :: after, 1 ≤ j) (hnodup : (before ++ i :: after).Nodup)
    (htaken : ∀ j ∈ before ++ i :: after, taken j = 0) :
    portLog i ((rgmiiPorts (before ++ i :: after) c).run (rgmiiDev bmsr) taken).log =
      (portOutcome bmsr i c').log := by
  induction hcarries generalizing taken with
  | nil c =>
      obtain ⟨hi, hafter⟩ := List.forall_mem_cons.mp hpos
      have hall := rgmiiPort_all hi c
      obtain ⟨c', hresult, -⟩ := (rgmiiPort_returns i c).run (rgmiiDev bmsr) taken
      rw [List.nil_append, rgmiiPorts, Prog.run_bind_ok hresult]
      simp only [Outcome.prepend, portLog, List.filter_append]
      rw [← portLog, ← portLog, portLog_of_all hall,
        portLog_eq_nil (rgmiiPorts_all hafter c') (List.nodup_cons.mp hnodup).1, List.append_nil]
      exact (run_eq_of_readings hall rfl (htaken i List.mem_cons_self)).2
  | @cons j is c c' c'' hj _ ih =>
      -- port `j` takes none of the readings of the ports behind it
      obtain ⟨hpos_j, hpos⟩ := List.forall_mem_cons.mp hpos
      obtain ⟨htaken_j, htaken⟩ := List.forall_mem_cons.mp htaken
      obtain ⟨hnot_mem, hnodup⟩ := List.nodup_cons.mp hnodup
      have hall := rgmiiPort_all hpos_j c
      have hresult : ((rgmiiPort j c).run (rgmiiDev bmsr) taken).result = .ok c' :=
        (run_eq_of_readings hall rfl htaken_j).1.trans hj
      have hall' : (rgmiiPort j c).All (·.port ∈ [j]) := hall.mono fun o ho => by simp [ho]
      have hne : i ≠ j := fun h => hnot_mem (h ▸ List.mem_append_right _ List.mem_cons_self)
      rw [List.cons_append, rgmiiPorts, Prog.run_bind_ok hresult]
      simp only [Outcome.prepend, portLog, List.filter_append]
      rw [← portLog, ← portLog, portLog_eq_nil hall' (by simpa using hne), List.nil_append]
      apply ih hpos hnodup
      intro k hk
      rw [final_eq_of_ne hall fun h => hnot_mem (h ▸ hk)]
      exact htaken k hk

/-! ## How a port is treated -/

def RgmiiOp.isRestart : RgmiiOp → Bool
  | axMdioRead _ _ => false
  | axMdioWrite _ regnum val => regnum = MII_BMCR ∧ val = (BMCR_ANRESTART ||| BMCR_ANENABLE)
  | prInfoFailed _ => false

def RgmiiOp.isReading : RgmiiOp → Bool
  | axMdioRead _ regnum => regnum = MII_BMSR
  | axMdioWrite _ _ _ => false
  | prInfoFailed _ => false

def RgmiiOp.isReport : RgmiiOp → Bool
  | axMdioRead _ _ => false
  | axMdioWrite _ _ _ => false
  | prInfoFailed _ => true

/-- The readings of the status register. -/
def readings (log : List (RgmiiOp × UInt16)) : List UInt16 :=
  (log.filter fun x => x.1.isReading).map Prod.snd

def restarts (log : List (RgmiiOp × UInt16)) : ℕ := log.countP fun x => x.1.isRestart

def reported (log : List (RgmiiOp × UInt16)) : Bool := log.any fun x => x.1.isReport

/-- The polls of a port: its readings after the first. -/
def polls (log : List (RgmiiOp × UInt16)) : List UInt16 := (readings log).tail

/-- The restarts and polls of a port, and whether it is reported as failed. -/
structure PortTreatment where
  restarts : ℕ
  polls : ℕ
  failed : Bool
  deriving DecidableEq, Repr

def treatment (log : List (RgmiiOp × UInt16)) : PortTreatment :=
  ⟨restarts log, (polls log).length, reported log⟩

@[simp] theorem readings_append (l l' : List (RgmiiOp × UInt16)) :
    readings (l ++ l') = readings l ++ readings l' := by
  rw [readings, List.filter_append, List.map_append]
  rfl

@[simp] theorem restarts_append (l l' : List (RgmiiOp × UInt16)) :
    restarts (l ++ l') = restarts l + restarts l' := List.countP_append

@[simp] theorem reported_append (l l' : List (RgmiiOp × UInt16)) :
    reported (l ++ l') = (reported l || reported l') := List.any_append

/-- The write that restarts the auto-negotiation. -/
def restartOp (i : ℕ) : RgmiiOp × UInt16 :=
  (.axMdioWrite i MII_BMCR (BMCR_ANRESTART ||| BMCR_ANENABLE), 0)

/-- A reading of the status. -/
def readingOp (i : ℕ) (bmsr : UInt16) : RgmiiOp × UInt16 := (.axMdioRead i MII_BMSR, bmsr)

section Entries

variable (i : ℕ) (bmsr : UInt16) (l : List (RgmiiOp × UInt16))

@[simp] theorem restarts_cons_restartOp : restarts (restartOp i :: l) = restarts l + 1 :=
  List.countP_cons_of_pos rfl

@[simp] theorem restarts_cons_readingOp : restarts (readingOp i bmsr :: l) = restarts l :=
  List.countP_cons_of_neg Bool.false_ne_true

@[simp] theorem readings_cons_restartOp : readings (restartOp i :: l) = readings l := rfl

@[simp] theorem readings_cons_readingOp : readings (readingOp i bmsr :: l) = bmsr :: readings l := rfl

end Entries

/-- What the counters say of a log: `match_num` has the readings that were up, at most three, and
`retry_num` all readings; nothing was reported. -/
structure Tally (c c' : RgmiiCounters) (log : List (RgmiiOp × UInt16)) : Prop where
  matches_eq : c'.matchNum.toNat = c.matchNum.toNat + (readings log).countP bmsrUp
  matches_le : c'.matchNum.toNat ≤ 3
  retries_eq : c'.retryNum.toNat = c.retryNum.toNat + (readings log).length
  silent : reported log = false

theorem Tally.trans {c c' c'' : RgmiiCounters} {l l' : List (RgmiiOp × UInt16)} (h : Tally c c' l)
    (h' : Tally c' c'' l') : Tally c c'' (l ++ l') where
  matches_eq := by
    rw [readings_append, List.countP_append, h'.matches_eq, h.matches_eq, Nat.add_assoc]
  matches_le := h'.matches_le
  retries_eq := by
    rw [readings_append, List.length_append, h'.retries_eq, h.retries_eq, Nat.add_assoc]
  silent := by rw [reported_append, h.silent, h'.silent, Bool.or_false]

/-- One poll. -/
theorem tally_count (i : ℕ) {c : RgmiiCounters} (hmatch : c.matchNum.toNat < 3)
    (hretry : c.retryNum.toNat < 255) (bmsr : UInt16) :
    Tally c (c.count bmsr) [readingOp i bmsr] where
  matches_eq := by
    show (if bmsrUp bmsr then c.matchNum + 1 else c.matchNum).toNat =
      c.matchNum.toNat + [bmsr].countP bmsrUp
    rw [List.countP_singleton]
    split
    · rw [UInt8.toNat_add]
      exact Nat.mod_eq_of_lt (by show _ + 1 < 256; omega)
    · rfl
  matches_le := by
    show (if bmsrUp bmsr then c.matchNum + 1 else c.matchNum).toNat ≤ 3
    split
    · rw [UInt8.toNat_add]
      exact Nat.le_trans (Nat.mod_le _ _) (by show _ + 1 ≤ 3; omega)
    · omega
  retries_eq := by
    show (c.retryNum + 1).toNat = c.retryNum.toNat + 1
    rw [UInt8.toNat_add]
    exact Nat.mod_eq_of_lt (by show _ + 1 < 256; omega)
  silent := rfl

section Treatment

variable (bmsr : ℕ → ℕ → UInt16) (i : ℕ) {c : RgmiiCounters} (taken : ℕ → ℕ)

/-- The polls after a restart, with fewer than three matches so far: they end with the third match,
or with the fifth retry. -/
theorem rgmiiPoll_run (fuel : ℕ) (hfuel : 1 ≤ fuel) (henough : 5 ≤ c.retryNum.toNat + fuel)
    (hmatch : c.matchNum.toNat < 3) (hretry : c.retryNum.toNat < 255) :
    let o := (rgmiiPoll i fuel c).run (rgmiiDev bmsr) taken
    ∃ c', o.result = .ok c' ∧ Tally c c' o.log ∧ restarts o.log = 0 ∧
      (c'.matchNum = 3 ∨ 5 ≤ c'.retryNum.toNat) ∧
      c'.retryNum.toNat ≤ max 5 (c.retryNum.toNat + 1) := by
  induction fuel generalizing c taken with
  | zero => omega
  | succ fuel ih =>
      obtain ⟨b, hb⟩ : ∃ b, bmsr i (taken i) = b := ⟨_, rfl⟩
      have htally := tally_count i hmatch hretry b
      have hretries : (c.count b).retryNum.toNat = c.retryNum.toNat + 1 := htally.retries_eq
      have hmatches := htally.matches_le
      simp only [rgmiiPoll, Prog.run, rgmiiDev, hb]
      by_cases hstop : 3 ≤ (c.count b).matchNum ∨ 5 ≤ (c.count b).retryNum
      · rw [if_pos hstop]
        refine ⟨c.count b, rfl, htally, rfl, ?_, hretries ▸ Nat.le_max_right _ _⟩
        refine hstop.imp (fun h => ?_) UInt8.le_iff_toNat_le.mp
        exact UInt8.toNat_inj.mp (Nat.le_antisymm hmatches (UInt8.le_iff_toNat_le.mp h))
      · -- neither limit is reached, so that `retry_num` is below 5 and does not wrap
        rw [if_neg hstop]
        obtain ⟨hlt3, hlt5⟩ := not_or.mp hstop
        have hlt3' : (c.count b).matchNum.toNat < 3 :=
          Nat.not_le.mp fun h => hlt3 (UInt8.le_iff_toNat_le.mpr h)
        have hlt5' : (c.count b).retryNum.toNat < 5 :=
          Nat.not_le.mp fun h => hlt5 (UInt8.le_iff_toNat_le.mpr h)
        obtain ⟨c', hresult, hrest, hrestarts, hend, hle⟩ :=
          ih (c := c.count b) (Function.update taken i (taken i + 1)) (by omega) (by omega) hlt3'
            (by omega)
        refine ⟨c', hresult, htally.trans hrest, ?_, hend, by omega⟩
        exact (restarts_cons_readingOp i b _).trans hrestarts

theorem tally_restart (hmatch : c.matchNum.toNat ≤ 3) : Tally c c [restartOp i] :=
  ⟨rfl, hmatch, rfl, rfl⟩

/-- One iteration over `j`: the restart and its polls, and the rest unless the third match is seen. -/
theorem rgmiiRestart_succ_run (n : ℕ) {c' : RgmiiCounters}
    (hpoll : ((rgmiiPoll i 6 c).run (rgmiiDev bmsr) taken).result = .ok c') :
    let o := (rgmiiPoll i 6 c).run (rgmiiDev bmsr) taken
    let rest := (rgmiiRestart i n c').run (rgmiiDev bmsr) o.final
    (rgmiiRestart i (n + 1) c).run (rgmiiDev bmsr) taken =
      if c'.matchNum = 3 then ⟨.ok c', o.final, restartOp i :: o.log⟩
      else ⟨rest.result, rest.final, restartOp i :: (o.log ++ rest.log)⟩ := by
  simp only [rgmiiRestart, Prog.run, rgmiiDev]
  rw [Prog.run_bind_ok hpoll]
  split
  · simp only [Prog.pure_eq_ret, Prog.run, Outcome.prepend, Outcome.cons, List.append_nil]
    rfl
  · rfl

/-- The restarts of a port, with fewer than three matches so far: they end with the third match, or
after five retries. -/
theorem rgmiiRestart_run {n : ℕ} (hmatch : c.matchNum.toNat < 3)
    (hretry : c.retryNum.toNat + 5 * n < 255) :
    let o := (rgmiiRestart i n c).run (rgmiiDev bmsr) taken
    ∃ c', o.result = .ok c' ∧ Tally c c' o.log ∧
      (0 < n → c'.matchNum = 3 ∨ 5 ≤ c'.retryNum.toNat) := by
  induction n generalizing c taken with
  | zero =>
      refine ⟨c, rfl, ⟨rfl, by omega, rfl, rfl⟩, fun h => absurd h (Nat.lt_irrefl 0)⟩
  | succ n ih =>
      obtain ⟨c', hresult, htally, -, hend, hle⟩ :=
        rgmiiPoll_run bmsr i taken 6 (by omega) (by omega) hmatch (by omega)
      have hone := (tally_restart i (Nat.le_of_lt hmatch)).trans htally
      rw [rgmiiRestart_succ_run bmsr i taken n hresult]
      split
      · exact ⟨c', rfl, hone, fun _ => hend⟩
      · -- the counters go on to the next restart as they are
        rename_i hne
        have hlt : c'.matchNum.toNat < 3 :=
          Nat.lt_of_le_of_ne htally.matches_le fun h => hne (UInt8.toNat_inj.mp h)
        obtain ⟨c'', hresult', hrest, -⟩ :=
          ih (c := c') ((rgmiiPoll i 6 c).run (rgmiiDev bmsr) taken).final hlt (by omega)
        refine ⟨c'', hresult', hone.trans hrest, fun _ => .inr ?_⟩
        have hmore := hrest.retries_eq
        have hfive := hend.resolve_left hne
        omega

/-- From counters at 0, either the first restart was enough, with three polls or more, or there were
five polls or more. -/
theorem rgmiiRestart_fresh (n : ℕ) :
    let log := ((rgmiiRestart i (n + 1) ⟨0, 0⟩).run (rgmiiDev bmsr) taken).log
    (restarts log = 1 ∧ 3 ≤ (readings log).length) ∨ 5 ≤ (readings log).length := by
  obtain ⟨c', hresult, htally, hrestarts, hend, -⟩ :=
    rgmiiPoll_run (c := ⟨0, 0⟩) bmsr i taken 6 (by decide) (by decide) (by decide) (by decide)
  have hmatches := htally.matches_eq
  have hretries := htally.retries_eq
  rw [rgmiiRestart_succ_run bmsr i taken n hresult]
  split
  · rename_i hthree
    left
    rw [hthree] at hmatches
    have hlength := List.countP_le_length (p := bmsrUp)
      (l := readings ((rgmiiPoll i 6 ⟨0, 0⟩).run (rgmiiDev bmsr) taken).log)
    refine ⟨(restarts_cons_restartOp i _).trans (congrArg (· + 1) hrestarts), ?_⟩
    exact Nat.le_trans (Nat.le_of_eq (hmatches.trans (Nat.zero_add _))) hlength
  · rename_i hne
    right
    have hfive := hend.resolve_left hne
    rw [hretries] at hfive
    simp only [readings_cons_restartOp, readings_append, List.length_append]
    change 5 ≤ 0 + _ at hfive
    omega

variable {bmsr i taken}

/-- A port that is up is left alone. -/
theorem rgmiiPort_run_up (hup : bmsrUp (bmsr i (taken i)) = true) :
    (rgmiiPort i c).run (rgmiiDev bmsr) taken =
      ⟨.ok c, Function.update taken i (taken i + 1),
        [readingOp i (bmsr i (taken i))]⟩ := by
  have hfirst : bmsrUp (rgmiiDev bmsr (.axMdioRead i MII_BMSR) taken).1 = true := hup
  rw [rgmiiPort, Prog.run, if_pos hfirst]
  rfl

/-- A port that is not: its restarts with their polls, and the report if the counters say so. -/
theorem treatment_down (hdown : ¬ bmsrUp (bmsr i (taken i)) = true) {c' : RgmiiCounters}
    (hresult : ((rgmiiRestart i 3 c).run (rgmiiDev bmsr)
      (Function.update taken i (taken i + 1))).result = .ok c') :
    let o := (rgmiiRestart i 3 c).run (rgmiiDev bmsr) (Function.update taken i (taken i + 1))
    let log := ((rgmiiPort i c).run (rgmiiDev bmsr) taken).log
    polls log = readings o.log ∧ restarts log = restarts o.log ∧
      reported log = (reported o.log || decide (5 ≤ c'.retryNum ∧ c'.matchNum < 3)) := by
  have hfirst : ¬ bmsrUp (rgmiiDev bmsr (.axMdioRead i MII_BMSR) taken).1 = true := hdown
  have hlog : ((rgmiiPort i c).run (rgmiiDev bmsr) taken).log =
      [readingOp i (bmsr i (taken i))] ++
        (((rgmiiRestart i 3 c).run (rgmiiDev bmsr) (Function.update taken i (taken i + 1))).log ++
          if 5 ≤ c'.retryNum ∧ c'.matchNum < 3 then [(.prInfoFailed (i - 1), 0)] else []) := by
    rw [rgmiiPort, Prog.run, if_neg hfirst]
    change (Prog.run (rgmiiDev bmsr) _ (Function.update taken i (taken i + 1))).log.cons _ = _
    rw [Prog.run_bind_ok hresult]
    split
    · rfl
    · rfl
  simp only [hlog, polls, readings_append, restarts_append, reported_append]
  generalize ((rgmiiRestart i 3 c).run (rgmiiDev bmsr)
    (Function.update taken i (taken i + 1))).log = l
  by_cases hfailed : 5 ≤ c'.retryNum ∧ c'.matchNum < 3
  · rw [if_pos hfailed, decide_eq_true hfailed]
    exact ⟨List.append_nil _, Nat.zero_add _, rfl⟩
  · rw [if_neg hfailed, decide_eq_false hfailed]
    exact ⟨List.append_nil _, Nat.zero_add _, rfl⟩

/-- With the counters at 0, a port is reported exactly if its polls were up fewer than three times. -/
theorem reported_fresh_iff :
    let log := ((rgmiiPort i ⟨0, 0⟩).run (rgmiiDev bmsr) taken).log
    reported log = true ↔ polls log ≠ [] ∧ (polls log).countP bmsrUp < 3 := by
  by_cases hup : bmsrUp (bmsr i (taken i)) = true
  · rw [rgmiiPort_run_up hup]
    exact iff_of_false Bool.false_ne_true fun h => h.1 rfl
  obtain ⟨c', hresult, htally, hend⟩ := rgmiiRestart_run (c := ⟨0, 0⟩) (n := 3) bmsr i
    (Function.update taken i (taken i + 1)) (by decide) (by decide)
  obtain ⟨hpolls, -, hreported⟩ := treatment_down hup hresult
  have hmatches : c'.matchNum.toNat = _ := htally.matches_eq.trans (Nat.zero_add _)
  have hretries : c'.retryNum.toNat = _ := htally.retries_eq.trans (Nat.zero_add _)
  simp only [hreported, hpolls, htally.silent, Bool.false_or, decide_eq_true_eq, ← hmatches,
    UInt8.lt_iff_toNat_lt]
  constructor
  · rintro ⟨hfive, hlt⟩
    refine ⟨fun hnil => ?_, hlt⟩
    rw [hnil] at hretries
    have hle := UInt8.le_iff_toNat_le.mp hfive
    rw [hretries] at hle
    exact absurd hle (by decide)
  · rintro ⟨-, hlt⟩
    have hne : c'.matchNum ≠ 3 := by
      intro h
      rw [h] at hlt
      exact absurd hlt (by decide)
    exact ⟨UInt8.le_iff_toNat_le.mpr ((hend (by omega)).resolve_left hne), hlt⟩

/-- With three matches from before there is one poll after a restart. -/
theorem rgmiiPoll_run_over {b : UInt16} (hb : bmsr i (taken i) = b) {c' : RgmiiCounters}
    (hcount : c.count b = c') (hstop : 3 ≤ c'.matchNum) :
    (rgmiiPoll i 6 c).run (rgmiiDev bmsr) taken =
      ⟨.ok c', Function.update taken i (taken i + 1), [readingOp i b]⟩ := by
  subst hb hcount
  have hor : 3 ≤ (c.count (rgmiiDev bmsr (.axMdioRead i MII_BMSR) taken).1).matchNum ∨
      5 ≤ (c.count (rgmiiDev bmsr (.axMdioRead i MII_BMSR) taken).1).retryNum := .inl hstop
  rw [rgmiiPoll, Prog.run, if_pos hor]
  rfl

/-- With four matches or more, the third match is never seen. -/
theorem rgmiiRestart_over (bmsr : ℕ → ℕ → UInt16) (i : ℕ) (taken : ℕ → ℕ) (n : ℕ)
    (hfour : 4 ≤ c.matchNum.toNat) (hlt : c.matchNum.toNat + n < 256) :
    let log := ((rgmiiRestart i n c).run (rgmiiDev bmsr) taken).log
    restarts log = n ∧ (readings log).length = n := by
  induction n generalizing c taken with
  | zero => exact ⟨rfl, rfl⟩
  | succ n ih =>
      obtain ⟨b, hb⟩ : ∃ b, bmsr i (taken i) = b := ⟨_, rfl⟩
      have hcount : c.matchNum.toNat ≤ (c.count b).matchNum.toNat ∧
          (c.count b).matchNum.toNat ≤ c.matchNum.toNat + 1 := by
        show _ ≤ (if bmsrUp b then c.matchNum + 1 else c.matchNum).toNat ∧
          (if bmsrUp b then c.matchNum + 1 else c.matchNum).toNat ≤ _
        split
        · rw [UInt8.toNat_add]
          show _ ≤ (_ + 1) % 256 ∧ (_ + 1) % 256 ≤ _
          omega
        · omega
      have hstop : 3 ≤ (c.count b).matchNum := UInt8.le_iff_toNat_le.mpr (by show 3 ≤ _; omega)
      have hpoll := rgmiiPoll_run_over hb rfl hstop
      have hne : (c.count b).matchNum ≠ 3 := by
        intro h
        rw [h] at hcount
        change _ ≤ 3 ∧ 3 ≤ _ at hcount
        omega
      rw [rgmiiRestart_succ_run bmsr i taken n (by rw [hpoll]), if_neg hne, hpoll]
      obtain ⟨hrestarts, hreadings⟩ := ih (c := c.count b)
        (Function.update taken i (taken i + 1)) (by omega) (by omega)
      simp only [List.singleton_append, restarts_cons_restartOp, restarts_cons_readingOp,
        readings_cons_restartOp, readings_cons_readingOp, List.length_cons, hrestarts, hreadings,
        and_self]

/-- After a port that has come up, one that is not up either is polled once, or has three restarts
with a poll each. -/
theorem rgmiiRestart_after (bmsr : ℕ → ℕ → UInt16) (i : ℕ) (taken : ℕ → ℕ) :
    let log := ((rgmiiRestart i 3 ⟨3, 3⟩).run (rgmiiDev bmsr) taken).log
    (readings log).length = 1 ∨ restarts log = 3 ∧ (readings log).length = 3 := by
  obtain ⟨b, hb⟩ : ∃ b, bmsr i (taken i) = b := ⟨_, rfl⟩
  by_cases hup : bmsrUp b = true
  · have hcount : (⟨3, 3⟩ : RgmiiCounters).count b = ⟨4, 4⟩ := by
      simp only [RgmiiCounters.count, if_pos hup]
      rfl
    have hpoll := rgmiiPoll_run_over hb hcount (by decide)
    obtain ⟨hrestarts, hreadings⟩ := rgmiiRestart_over (c := ⟨4, 4⟩) bmsr i
      (Function.update taken i (taken i + 1)) 2 (by decide) (by decide)
    right
    rw [rgmiiRestart_succ_run bmsr i taken 2 (by rw [hpoll]), if_neg (by decide), hpoll]
    simp only [List.singleton_append, restarts_cons_restartOp, restarts_cons_readingOp,
      readings_cons_restartOp, readings_cons_readingOp, List.length_cons, hrestarts, hreadings,
      and_self]
  · have hcount : (⟨3, 3⟩ : RgmiiCounters).count b = ⟨3, 4⟩ := by
      simp only [RgmiiCounters.count, if_neg hup]
      rfl
    have hpoll := rgmiiPoll_run_over hb hcount (by decide)
    left
    rw [rgmiiRestart_succ_run bmsr i taken 2 (by rw [hpoll]), if_pos rfl, hpoll]
    rfl

/-- A port that is not up is treated otherwise with the counters at 0 than after a port that has
taken three polls to come up. -/
theorem treatment_fresh_ne (hdown : ¬ bmsrUp (bmsr i (taken i)) = true) :
    treatment ((rgmiiPort i ⟨0, 0⟩).run (rgmiiDev bmsr) taken).log ≠
      treatment ((rgmiiPort i ⟨3, 3⟩).run (rgmiiDev bmsr) taken).log := by
  intro heq
  obtain ⟨c, hfresh, -⟩ := (rgmiiRestart_returns i 3 ⟨0, 0⟩).run (rgmiiDev bmsr)
    (Function.update taken i (taken i + 1))
  obtain ⟨c', hafter, -⟩ := (rgmiiRestart_returns i 3 ⟨3, 3⟩).run (rgmiiDev bmsr)
    (Function.update taken i (taken i + 1))
  obtain ⟨hpolls, hrestarts, -⟩ := treatment_down hdown hfresh
  obtain ⟨hpolls', hrestarts', -⟩ := treatment_down hdown hafter
  have hr := congrArg PortTreatment.restarts heq
  have hp := congrArg PortTreatment.polls heq
  simp only [treatment, hpolls, hrestarts, hpolls', hrestarts'] at hr hp
  have h0 := rgmiiRestart_fresh bmsr i (Function.update taken i (taken i + 1)) 2
  have h3 := rgmiiRestart_after bmsr i (Function.update taken i (taken i + 1))
  simp only [Nat.reduceAdd] at h0 h3
  omega

end Treatment

/-! ## Independence -/

/-- The run of `ax_init_rgmii` on PHYs with the given readings. -/
def rgmiiRun (numberOfPorts : UInt8) (bmsr : ℕ → ℕ → UInt16) :
    Outcome (ℕ → ℕ) RgmiiOp UInt16 Unit Unit :=
  (axInitRgmii numberOfPorts).run (rgmiiDev bmsr) fun _ => 0

/-- What the run does about port `i`. -/
def rgmiiPortLog (numberOfPorts : UInt8) (bmsr : ℕ → ℕ → UInt16) (i : ℕ) :
    List (RgmiiOp × UInt16) :=
  portLog i (rgmiiRun numberOfPorts bmsr).log

/-- Every port is treated as in any other run with the same readings of it, and is reported as failed
exactly if it was polled and not found up three times. -/
def Independent (numberOfPorts : UInt8) (bmsr : ℕ → ℕ → UInt16) : Prop :=
  ∀ i, 1 ≤ i → i < numberOfPorts.toNat →
    let log := rgmiiPortLog numberOfPorts bmsr i
    (∀ bmsr' : ℕ → ℕ → UInt16, bmsr' i = bmsr i →
      treatment (rgmiiPortLog numberOfPorts bmsr' i) = treatment log) ∧
    (reported log = true ↔ polls log ≠ [] ∧ (polls log).countP bmsrUp < 3)

section Independence

variable {numberOfPorts : UInt8} {bmsr bmsr' : ℕ → ℕ → UInt16} {i : ℕ} {c : RgmiiCounters}

theorem rgmiiPortLog_eq (hi : 1 ≤ i) (hlt : i < numberOfPorts.toNat)
    (hcarries : Carries bmsr (List.range' 1 (i - 1)) ⟨0, 0⟩ c) :
    rgmiiPortLog numberOfPorts bmsr i = (portOutcome bmsr i c).log := by
  have hsplit : List.range' 1 (numberOfPorts.toNat - 1) =
      List.range' 1 (i - 1) ++ i :: List.range' (i + 1) (numberOfPorts.toNat - 1 - i) := by
    have happend := List.range'_append_1 (s := 1) (m := i - 1) (n := numberOfPorts.toNat - 1 - i + 1)
    rw [Nat.add_sub_cancel' hi] at happend
    refine Eq.trans ?_ happend.symm
    congr 1
    omega
  rw [rgmiiPortLog, rgmiiRun, axInitRgmii, hsplit]
  apply portLog_rgmiiPorts hcarries
  · rw [← hsplit]
    exact fun j hj => (List.mem_range'_1.mp hj).1
  · rw [← hsplit]
    exact List.nodup_range' _
  · exact fun _ _ => rfl

/-- Ports that are up leave the counters. -/
theorem carries_of_up {is : List ℕ} (hup : ∀ j ∈ is, bmsrUp (bmsr j 0) = true)
    (c : RgmiiCounters) : Carries bmsr is c c := by
  induction is with
  | nil => exact .nil c
  | cons j is ih =>
      obtain ⟨hj, his⟩ := List.forall_mem_cons.mp hup
      refine .cons ?_ (ih his)
      rw [portOutcome, rgmiiPort_run_up hj]

theorem portOutcome_log_congr (hi : 1 ≤ i) (h : bmsr i = bmsr' i) (c : RgmiiCounters) :
    (portOutcome bmsr i c).log = (portOutcome bmsr' i c).log :=
  (run_eq_of_readings (rgmiiPort_all hi c) h rfl).2

/-- A port that is up is treated the same in every run. -/
theorem rgmiiPortLog_of_up (hi : 1 ≤ i) (hlt : i < numberOfPorts.toNat)
    (hup : bmsrUp (bmsr i 0) = true) :
    rgmiiPortLog numberOfPorts bmsr i = [readingOp i (bmsr i 0)] := by
  obtain ⟨c, hc⟩ := exists_carries bmsr (List.range' 1 (i - 1)) ⟨0, 0⟩
  rw [rgmiiPortLog_eq hi hlt hc, portOutcome, rgmiiPort_run_up hup]

/-- A status that is up, and readings of a PHY that comes up after its restart. -/
def upStatus : UInt16 := BMSR_LSTATUS ||| BMSR_ANEGCOMPLETE

def comesUp (k : ℕ) : UInt16 := if k = 0 then 0 else upStatus

/-- Port `i` as given and all others up; and the same with port 1 coming up. -/
def othersUp (bmsr : ℕ → ℕ → UInt16) (i : ℕ) : ℕ → ℕ → UInt16 :=
  Function.update (fun _ _ => upStatus) i (bmsr i)

def firstComesUp (bmsr : ℕ → ℕ → UInt16) (i : ℕ) : ℕ → ℕ → UInt16 :=
  Function.update (Function.update (fun _ _ => upStatus) 1 comesUp) i (bmsr i)

theorem carries_othersUp : Carries (othersUp bmsr i) (List.range' 1 (i - 1)) ⟨0, 0⟩ ⟨0, 0⟩ := by
  apply carries_of_up
  intro j hj
  have hne : j ≠ i := by
    have hmem := List.mem_range'_1.mp hj
    omega
  rw [othersUp, Function.update_of_ne hne]
  decide

/-- A port that comes up leaves three matches and three retries behind. -/
theorem carries_firstComesUp (hi : 2 ≤ i) :
    Carries (firstComesUp bmsr i) (List.range' 1 (i - 1)) ⟨0, 0⟩ ⟨3, 3⟩ := by
  have hsplit : List.range' 1 (i - 1) = 1 :: List.range' 2 (i - 2) := by
    obtain ⟨k, rfl⟩ : ∃ k, i = k + 2 := ⟨i - 2, by omega⟩
    rfl
  rw [hsplit]
  refine .cons ?_ (carries_of_up (fun j hj => ?_) ⟨3, 3⟩)
  · have hone : firstComesUp bmsr i 1 = (fun _ => comesUp : ℕ → ℕ → UInt16) 1 := by
      rw [firstComesUp, Function.update_of_ne (by omega), Function.update_self]
    have halone : (portOutcome (fun _ => comesUp) 1 ⟨0, 0⟩).result = .ok ⟨3, 3⟩ := rfl
    rw [← halone]
    exact (run_eq_of_readings (rgmiiPort_all (Nat.le_refl 1) _) hone rfl).1
  · have hmem := List.mem_range'_1.mp hj
    rw [firstComesUp, Function.update_of_ne (by omega), Function.update_of_ne (by omega)]
    decide

/-- No port but the first is treated independently, unless it is up. -/
theorem up_of_independent (hind : Independent numberOfPorts bmsr) (hi : 2 ≤ i)
    (hlt : i < numberOfPorts.toNat) : bmsrUp (bmsr i 0) = true := by
  have hone : 1 ≤ i := Nat.le_of_succ_le hi
  by_contra hdown
  -- two runs with the readings of port `i`: with nothing and with three matches before it
  have hothers : othersUp bmsr i i = bmsr i := Function.update_self ..
  have hfirst : firstComesUp bmsr i i = bmsr i := Function.update_self ..
  obtain ⟨htreated, -⟩ := hind i hone hlt
  have heq := (htreated _ hothers).trans (htreated _ hfirst).symm
  rw [rgmiiPortLog_eq hone hlt carries_othersUp, rgmiiPortLog_eq hone hlt (carries_firstComesUp hi),
    portOutcome_log_congr hone hothers, portOutcome_log_congr hone hfirst] at heq
  exact treatment_fresh_ne hdown heq

theorem independent_of_up
    (hup : ∀ j, 2 ≤ j → j < numberOfPorts.toNat → bmsrUp (bmsr j 0) = true) :
    Independent numberOfPorts bmsr := by
  intro i hi hlt
  by_cases hfirst : i = 1
  · subst hfirst
    -- no port comes before the first
    have hlog (bmsr : ℕ → ℕ → UInt16) :
        rgmiiPortLog numberOfPorts bmsr 1 = (portOutcome bmsr 1 ⟨0, 0⟩).log :=
      rgmiiPortLog_eq hi hlt (.nil _)
    simp only [hlog]
    refine ⟨fun bmsr' heq => ?_, reported_fresh_iff⟩
    rw [portOutcome_log_congr hi heq]
  · have hi_up := hup i (by omega) hlt
    refine ⟨fun bmsr' heq => ?_, ?_⟩
    · rw [rgmiiPortLog_of_up hi hlt hi_up,
        rgmiiPortLog_of_up hi hlt (by rw [heq]; exact hi_up), heq]
    · rw [rgmiiPortLog_of_up hi hlt hi_up]
      exact iff_of_false Bool.false_ne_true fun h => h.1 rfl

end Independence

/-- **Bringing up the ports.** For every number of ports and all readings, `ax_init_rgmii` ends, and
it treats every port by its own readings, and reports it by its own polls, exactly if every port
behind the first is up at its first reading: the counters of the first port that is polled decide
about all that are polled after it. -/
theorem axInitRgmii_independent_iff (numberOfPorts : UInt8) (bmsr : ℕ → ℕ → UInt16) :
    (rgmiiRun numberOfPorts bmsr).result = .ok () ∧
      (Independent numberOfPorts bmsr ↔
        ∀ i, 2 ≤ i → i < numberOfPorts.toNat → bmsrUp (bmsr i 0) = true) := by
  refine ⟨?_, fun hind i => up_of_independent hind, independent_of_up⟩
  obtain ⟨u, hresult, -⟩ :=
    (rgmiiPorts_returns (List.range' 1 (numberOfPorts.toNat - 1)) ⟨0, 0⟩).run (rgmiiDev bmsr)
      fun _ => 0
  exact hresult

/-- Port 2, whose link is down, is not reported after port 1 has come up, and is after port 1 was
up. -/
theorem axInitRgmii_dependent :
    treatment (rgmiiPortLog 3 (Function.update (fun _ _ => 0) 1 comesUp) 2) = ⟨1, 1, false⟩ ∧
      treatment (rgmiiPortLog 3 (Function.update (fun _ _ => 0) 1 fun _ => upStatus) 2) =
        ⟨3, 7, true⟩ ∧
      ¬ Independent 3 (Function.update (fun _ _ => 0) 1 comesUp) := by
  refine ⟨by decide, by decide, fun hind => ?_⟩
  exact absurd (up_of_independent (i := 2) hind (by omega) (by decide)) (by decide)

end Axm57104.Net
