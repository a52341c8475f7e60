import Axm57104.Dsa.UpperRuns

/-!
# The numbers of bridges and LAGs

`dsa_bridge_num_get` gives a bridge the number that it has in another tree, but `dsa_bridge_num_put`
takes the number back from the first tree whose last port leaves. So the numbers tell bridges apart in
the runs in which no bridge has ports in two trees, and only there.
-/

namespace Axm57104.Dsa.Uppers

open Common
open Fabric (ENOMEM EOPNOTSUPP)

variable {σ : Type*} {fs : Fabrics} {ops : ℕ → ℕ → DsaSwitchOps σ} {drv : σ} {st st' : State σ}
  {es : List Event} {e : Event} {err : ℤ}

/-- Two trees of a switch with two ports each. -/
def twoTrees : Fabrics where
  trees := [0, 1]
  ports t := [⟨t, 0, 0⟩, ⟨t, 0, 1⟩]
  switches _ := [0]
  maxNumBridges _ _ := 4
  lagsLen _ := 2
  own t p hp := by
    rcases List.mem_pair.mp hp with rfl | rfl
    · rfl
    · rfl

/-- A driver that accepts everything, on its own switch and across. -/
def acceptAll : DsaSwitchOps Unit where
  portBridgeJoin := some fun _ _ s => (0, true, s)
  crosschipBridgeJoin := some fun _ _ s => (0, s)
  portBridgeLeave := some fun _ _ s => s
  crosschipBridgeLeave := some fun _ _ s => s
  portLagJoin := some fun _ _ s => (0, s)
  crosschipLagJoin := none
  portLagLeave := some fun _ _ s => (0, s)
  crosschipLagLeave := none
  portLagChange := none
  crosschipLagChange := none

/-- Nothing in the way of a join. -/
def plainJoin : JoinEnv := ⟨false, true, 0, 0⟩

/-! ## Bridges within one tree -/

/-- The port and the bridge it is to join by an event, directly or with its LAG. -/
def Event.joins : Event → Option (PortRef × ℕ)
  | bridgeJoin _ dp br => some (dp, br)
  | lagJoin _ bridgeDev _ dp _ => bridgeDev.map fun br => (dp, br)
  | _ => none

/-- The event does not join a bridge that has a port in another tree. -/
def OneTree (fs : Fabrics) (st : State σ) (e : Event) : Prop :=
  ∀ j ∈ e.joins, ∀ q ∈ fs.allPorts, ∀ d ∈ st.bridges.devOf q, d.2 = j.2 → d.1 = j.1.dst

instance OneTree.decidable (fs : Fabrics) (st : State σ) (e : Event) : Decidable (OneTree fs st e) :=
  inferInstanceAs (Decidable (∀ j ∈ e.joins, ∀ q ∈ fs.allPorts, ∀ d ∈ st.bridges.devOf q,
    d.2 = j.2 → d.1 = j.1.dst))

theorem OneTree.apart (hone : OneTree fs st e) (h : BridgesLive fs st.bridges) {dp : PortRef} {br : ℕ}
    (hj : e.joins = some (dp, br)) (q : PortRef) (t : ℕ) (hq : st.bridges.devOf q = some (t, br)) :
    t = dp.dst := by
  obtain ⟨a, b, ha, -, -⟩ := Groups.fieldOf_cases hq
  exact hone _ hj q (h.live ha).1 _ hq rfl

section Numbers

variable {g g' : Bridges} {dp : PortRef} {br : ℕ}

/-- Ports have the same number only in the same bridge, and the bitmap has the numbers. -/
structure BridgesSound (fs : Fabrics) (g : Bridges) : Prop extends
    Groups.Sound fs.allPorts BitsAgree g, BridgesLive fs g

/-- A bridge without ports has no number. -/
theorem dsaBridgeNumFind_eq_zero (h : BridgesLive fs g) (hbr : ∀ q t, g.devOf q ≠ some (t, br)) :
    dsaBridgeNumFind fs g br = 0 := by
  rw [dsaBridgeNumFind]
  have hnone : (fs.trees.findSome? fun dst => dsaTreeBridgeFind fs g dst br) = none := by
    refine List.findSome?_eq_none_iff.mpr fun t _ => ?_
    cases hfind : dsaTreeBridgeFind fs g t br with
    | none => rfl
    | some a =>
        obtain ⟨q, -, hdev⟩ := (h.finds t br).found hfind
        exact absurd hdev (hbr q t)
  rw [hnone]

/-- The number of a new bridge: none, or the first that is free. -/
theorem dsaBridgeNumGet_cases {max n : ℕ} {bits : BitVec 64} (h0 : dsaBridgeNumFind fs g br = 0)
    (h : dsaBridgeNumGet fs g br max = some (n, bits)) :
    n = 0 ∧ bits = g.pool ∨
      n ≠ 0 ∧ n < 64 ∧ g.pool.getLsbD n = false ∧ bits = setBit n g.pool := by
  simp only [dsaBridgeNumGet, h0, if_true] at h
  split at h
  · cases h
    exact .inl ⟨rfl, rfl⟩
  split at h
  · cases h
    exact .inl ⟨rfl, rfl⟩
  split at h
  · cases h
  · next hlt =>
    cases h
    obtain ⟨hpos, hclear⟩ := findNextZeroBit_clear (not_le.mp hlt)
    exact .inr ⟨by omega, not_le.mp hlt, hclear, rfl⟩

/-- Nobody is in the bridge if it is not found in the tree of the port. -/
theorem BridgesLive.missing_everywhere (h : BridgesLive fs g)
    (hone : ∀ q t, g.devOf q = some (t, br) → t = dp.dst)
    (hfind : dsaTreeBridgeFind fs g dp.dst br = none) (q : PortRef) (t : ℕ) :
    g.devOf q ≠ some (t, br) := by
  intro hdev
  obtain rfl := hone q t hdev
  exact (h.finds _ _).missing hfind q hdev

theorem BridgesSound.created (h : BridgesSound fs g) (hp : dp ∈ fs.allPorts)
    (hfree : g.member dp = none) (hone : ∀ q t, g.devOf q = some (t, br) → t = dp.dst)
    (hc : BridgeCreated fs dp br g g') : BridgesSound fs g' := by
  have hlive := h.toBridgesLive.created hp hfree hc
  refine ⟨h.toSound.created hp hfree (h.toBridgesLive.finds _ _) ?_ hc, hlive.home, hlive.small⟩
  intro n bits hfind hget
  have h0 := dsaBridgeNumFind_eq_zero h.toBridgesLive (h.toBridgesLive.missing_everywhere hone hfind)
  have hnext : g.nums g.next = none := by
    rw [Groups.nums, h.toLive.heap_next, Option.map_none]
  rcases dsaBridgeNumGet_cases h0 hget with ⟨rfl, rfl⟩ | ⟨hn, hlt, hclear, rfl⟩
  · exact ⟨fun h0 => absurd rfl h0, h.agrees.zero hnext⟩
  · refine ⟨fun _ a ha => ?_, h.agrees.set hnext hlt⟩
    have hset := (h.agrees n hn).mpr ⟨a, ha⟩
    rw [hclear] at hset
    cases hset

theorem BridgesSound.leave (h : BridgesSound fs g) {a : ℕ} {b : GroupObj (ℕ × ℕ)}
    (ha : g.member dp = some a) (hb : g.heap a = some b) :
    BridgesSound fs (g.leave dsaBridgeNumPut dp a b) := by
  have hlive := h.toBridgesLive.leave ha hb
  refine ⟨h.toSound.leave ha hb ?_, hlive.home, hlive.small⟩
  exact h.agrees.put (Groups.nums_eq hb) fun hn => h.toSound.nums_unique hb hn

theorem BridgesSound.joined (h : BridgesSound fs g) (hp : dp ∈ fs.allPorts)
    (hfree : g.member dp = none) (hone : ∀ q t, g.devOf q = some (t, br) → t = dp.dst)
    (hj : BridgeJoined fs dp br g err g') : BridgesSound fs g' := by
  rcases hj with - | hc | ⟨-, hc, ha, hb⟩
  · exact h
  · exact h.created hp hfree hone hc
  · exact (h.created hp hfree hone hc).leave ha hb

theorem BridgesSound.left (h : BridgesSound fs g)
    (hl : g.member dp = none ∧ g' = g ∨ ∃ a b, g.member dp = some a ∧ g.heap a = some b ∧
      g' = g.leave dsaBridgeNumPut dp a b) : BridgesSound fs g' := by
  rcases hl with ⟨-, rfl⟩ | ⟨a, b, ha, hb, rfl⟩
  · exact h
  · exact h.leave ha hb

/-- The bitmap takes back the number of a bridge that nobody else has. -/
theorem BridgesLive.undone (h : BridgesLive fs g) (hfree : g.member dp = none)
    (hone : ∀ q t, g.devOf q = some (t, br) → t = dp.dst) (hj : BridgeJoined fs dp br g err g')
    (herr : err ≠ 0) : g'.member = g.member ∧ g'.objs = g.objs ∧ g'.pool = g.pool := by
  refine h.toLive.undone hfree ?_ hj herr
  intro n bits hfind hget
  have h0 := dsaBridgeNumFind_eq_zero h (h.missing_everywhere hone hfind)
  rcases dsaBridgeNumGet_cases h0 hget with ⟨rfl, rfl⟩ | ⟨hn, hlt, hclear, rfl⟩
  · exact if_neg (not_not.mpr rfl)
  · exact (if_pos hn).trans (clearBit_setBit hlt hclear)

end Numbers

/-! ## Runs within one tree -/

/-- One event keeps the numbers apart. -/
theorem BridgesSound.step (h : BridgesSound fs st.bridges) (hen : e.enabled fs st) (hone : OneTree fs st e)
    (hex : e.run fs ops st = some (err, st')) : BridgesSound fs st'.bridges := by
  cases e with
  | bridgeJoin env dp br =>
      obtain ⟨-, -, hj⟩ := dsaPortBridgeJoin_cases hex
      exact h.joined hen.1 hen.2 (hone.apart h.toBridgesLive rfl) hj
  | bridgeLeave dp =>
      obtain ⟨st₁, hleave, heq⟩ := Option.map_eq_some_iff.mp hex
      cases heq
      exact h.left (dsaPortBridgeLeave_cases hleave).2.2
  | lagJoin mem bridgeDev env dp lagDev =>
      obtain ⟨hb, -⟩ := dsaPortLagJoin_cases hex
      rcases hb with hb | ⟨br, rfl, hb⟩
      · rw [hb]
        exact h
      · exact h.joined hen.1 hen.2.1 (hone.apart h.toBridgesLive rfl) hb
  | lagLeave dp =>
      obtain ⟨st₁, hleave, heq⟩ := Option.map_eq_some_iff.mp hex
      cases heq
      rcases dsaPortLagLeave_cases hleave with ⟨-, rfl⟩ | ⟨a, b, -, -, -, -, hb⟩
      · exact h
      · exact h.left hb
  | lagChange dp linkUp txEnabled =>
      rw [(dsaPortLagChange_cases (Option.some.inj hex)).1]
      exact h

theorem BridgesSound.init (fs : Fabrics) (drv : σ) : BridgesSound fs (State.init fs drv).bridges := by
  obtain ⟨hlive, hhome, hsmall⟩ := (Inv.init fs drv).bridges
  refine ⟨⟨hlive, (fun h => nomatch h), fun n _ => ?_⟩, hhome, hsmall⟩
  refine iff_of_false ?_ (fun ⟨a, ha⟩ => nomatch ha)
  rw [State.init, BitVec.ofNat_eq_ofNat, BitVec.getLsbD_zero]
  exact Bool.false_ne_true

/-- What holds in the runs in which no bridge has ports in two trees. -/
theorem oneTree_run (hr : ((upperMachine fs ops).restrict (OneTree fs)).Run (State.init fs drv) es st) :
    Inv fs st ∧ BridgesSound fs st.bridges := by
  refine hr.invariant (I := fun st => Inv fs st ∧ BridgesSound fs st.bridges)
    ⟨.init fs drv, .init fs drv⟩ fun h hen hex => ?_
  obtain ⟨err, hrun⟩ := upperMachine_exec hex
  exact ⟨h.1.step hen.1 hrun, h.2.step hen.1 hen.2 hrun⟩

/-- **Bridge numbers tell bridges apart**, and the bitmap is the set of the numbers in use, in every run
in which no bridge has ports in two trees. The tree that an object is for is that of its ports. -/
theorem bridge_nums_in_use (fs : Fabrics) (ops : ℕ → ℕ → DsaSwitchOps σ) (drv : σ) (es : List Event)
    (st : State σ) (hcard : fs.allPorts.card ≤ 2147483647)
    (hr : ((upperMachine fs ops).restrict (OneTree fs)).Run (State.init fs drv) es st) :
    (∀ p q n, n ≠ 0 → st.bridges.numOf p = some n → st.bridges.numOf q = some n →
      st.bridges.devOf p = st.bridges.devOf q) ∧
    (∀ p q d, st.bridges.devOf p = some d → st.bridges.devOf q = some d →
      st.bridges.numOf p = st.bridges.numOf q) ∧
    (∀ p d, st.bridges.devOf p = some d → d.1 = p.dst) ∧
    ∀ n, n ≠ 0 → (st.bridges.pool.getLsbD n = true ↔ ∃ p, st.bridges.numOf p = some n) := by
  obtain ⟨-, h⟩ := oneTree_run hr
  refine ⟨fun p q n hn hp hq => h.toSound.devOf_of_numOf hp hq hn,
    fun p q d hp hq => h.toLive.numOf_of_devOf hp hq, fun p d hd => h.home hd, fun n hn => ?_⟩
  rw [h.agrees n hn]
  constructor
  · rintro ⟨a, ha⟩
    obtain ⟨b, hb, rfl⟩ := Option.map_eq_some_iff.mp ha
    obtain ⟨p, hp⟩ := h.toLive.exists_member (Int.ofNat_le.mpr hcard) hb
    exact ⟨p, Groups.fieldOf_eq _ hp hb⟩
  · rintro ⟨p, hp⟩
    obtain ⟨a, b, -, hb, rfl⟩ := Groups.fieldOf_cases hp
    exact ⟨a, Groups.nums_eq hb⟩

/-- Two ports in a bridge with the number one, and a third one in another bridge. -/
theorem bridge_nums_in_use_twoTrees : ∃ st : State Unit,
    ((upperMachine twoTrees fun _ _ => acceptAll).restrict (OneTree twoTrees)).Run
      (State.init twoTrees ()) [.bridgeJoin plainJoin ⟨0, 0, 0⟩ 10,
        .bridgeJoin plainJoin ⟨0, 0, 1⟩ 10, .bridgeJoin plainJoin ⟨1, 0, 0⟩ 11] st ∧
    st.bridges.numOf ⟨0, 0, 1⟩ = some 1 ∧ st.bridges.numOf ⟨1, 0, 0⟩ = some 2 ∧
    (st.bridges.pool.getLsbD 3 = true ↔ ∃ p, st.bridges.numOf p = some 3) := by
  have hr : ((upperMachine twoTrees fun _ _ => acceptAll).restrict (OneTree twoTrees)).Run
      (State.init twoTrees ()) [.bridgeJoin plainJoin ⟨0, 0, 0⟩ 10,
        .bridgeJoin plainJoin ⟨0, 0, 1⟩ 10, .bridgeJoin plainJoin ⟨1, 0, 0⟩ 11] _ :=
    .cons ⟨⟨by decide, rfl⟩, by decide⟩ rfl (.cons ⟨⟨by decide, rfl⟩, by decide⟩ rfl
      (.cons ⟨⟨by decide, rfl⟩, by decide⟩ rfl .nil))
  exact ⟨_, hr, rfl, rfl,
    (bridge_nums_in_use twoTrees _ () _ _ (by decide) hr).2.2.2 3 (by decide)⟩

/-! ## Joins that fail -/

/-- Requests to join. -/
def Event.isJoin : Event → Bool
  | bridgeJoin _ _ _ => true
  | lagJoin _ _ _ _ _ => true
  | _ => false

/-- The groups are the same but for the counters of their members and unused addresses. -/
def SameGroups {κ δ π : Type*} (g g' : Groups κ δ π) : Prop :=
  g'.member = g.member ∧ g'.objs = g.objs ∧ g'.pool = g.pool

/-- No `tx_fwd_offload` is other than before but that of the bridge that the port joined, or of an address
that was not in use. -/
def FlagsKept (fs : Fabrics) (dp : PortRef) (br : ℕ) (st st' : State σ) : Prop :=
  ∀ x, dsaTreeBridgeFind fs st.bridges dp.dst br ≠ some x → x ≠ st.bridges.next →
    st'.txFwdOffload x = st.txFwdOffload x

theorem dsaPortBridgeCreate_flags {mem : Bool} {dp : PortRef} {br : ℕ}
    (h : dsaPortBridgeCreate fs mem dp br st = some (err, st')) : FlagsKept fs dp br st st' := by
  intro x _ hx
  simp only [dsaPortBridgeCreate] at h
  split at h
  · obtain ⟨b, -, h⟩ := Option.map_eq_some_iff.mp h
    cases h
    rfl
  split at h
  · cases h
    rfl
  · obtain ⟨r, -, h⟩ := Option.map_eq_some_iff.mp h
    split at h
    · cases h
      rfl
    · cases h
      exact Function.update_of_ne hx _ _

/-- The flag that a join sets is that of the object which the port got. -/
theorem dsaPortBridgeJoin_flags {env : JoinEnv} {dp : PortRef} {br : ℕ}
    (h : dsaPortBridgeJoin fs ops env dp br st = some (err, st')) : FlagsKept fs dp br st st' := by
  intro x hfound hx
  simp only [dsaPortBridgeJoin] at h
  split at h
  · cases h
    rfl
  obtain ⟨⟨rc, st₁⟩, hcreate, h⟩ := Option.bind_eq_some_iff.mp h
  have hcreated := dsaPortBridgeCreate_flags hcreate x hfound hx
  obtain ⟨-, -, -, ⟨hrc, -⟩ | ⟨hrc, hcr⟩⟩ := dsaPortBridgeCreate_cases hcreate
  · rw [if_pos hrc] at h
    cases h
    exact hcreated
  rw [if_neg (not_not.mpr hrc)] at h
  obtain ⟨a, ha, h⟩ := Option.bind_eq_some_iff.mp h
  obtain ⟨b, -, h⟩ := Option.bind_eq_some_iff.mp h
  simp only at h
  have hne : x ≠ a := by
    rintro rfl
    generalize st₁.bridges = g₁ at hcr ha
    rcases hcr with ⟨hold, -⟩ | ⟨-, -⟩
    · rw [Groups.member_join] at ha
      exact hfound (hold.trans ha)
    · rw [Groups.member_start] at ha
      exact hx (Option.some.inj ha).symm
  have hjoin := (broadcast_join_same fs ops dp (st₁.bridgeCopy a b) st₁).2.1
  -- what is destroyed in the end is not the flag
  have hback : ∀ {st₂ st₃ : State σ}, dsaPortBridgeDestroy dp st₂ = some st₃ →
      st₃.txFwdOffload = st₂.txFwdOffload := by
    intro st₂ st₃ hd
    obtain ⟨a', b', -, -, rfl⟩ := dsaPortBridgeDestroy_cases hd
    rfl
  have hset : ∀ flag, Function.update (broadcastJoin fs ops dp (st₁.bridgeCopy a b) st₁).2.1.txFwdOffload
      a flag x = st.txFwdOffload x := by
    intro flag
    rw [Function.update_of_ne hne, hjoin, hcreated]
  split at h
  · obtain ⟨st₂, hd, h⟩ := Option.map_eq_some_iff.mp h
    cases h
    rw [hback hd, hjoin, hcreated]
  split at h
  · obtain ⟨st₂, hd, h⟩ := Option.map_eq_some_iff.mp h
    cases h
    rw [hback hd, (broadcast_leave_same fs ops dp (st₁.bridgeCopy a b) _).2.1]
    exact hset _
  · cases h
    exact hset _

theorem dsaPortLagJoin_flags {mem : Bool} {bridgeDev : Option ℕ} {env : JoinEnv} {dp : PortRef}
    {lagDev : ℕ} (h : dsaPortLagJoin fs ops mem bridgeDev env dp lagDev st = some (err, st')) :
    st'.txFwdOffload = st.txFwdOffload ∨ ∃ br, bridgeDev = some br ∧ FlagsKept fs dp br st st' := by
  simp only [dsaPortLagJoin] at h
  obtain ⟨⟨rc, st₁⟩, hcreate, hrest⟩ := Option.bind_eq_some_iff.mp h
  clear h
  rename' hrest => h
  rcases dsaPortLagCreate_cases hcreate with ⟨hrc, rfl⟩ | ⟨rfl, g, -, rfl⟩
  · rw [if_pos hrc] at h
    cases h
    exact .inl rfl
  rw [if_neg (not_not.mpr rfl)] at h
  obtain ⟨a, -, h⟩ := Option.bind_eq_some_iff.mp h
  obtain ⟨b, -, h⟩ := Option.bind_eq_some_iff.mp h
  simp only at h
  have hback : ∀ {st₂ st₃ : State σ}, dsaPortLagDestroy dp st₂ = some st₃ →
      st₃.txFwdOffload = st₂.txFwdOffload := by
    intro st₂ st₃ hd
    obtain ⟨a', b', -, -, rfl⟩ := dsaPortLagDestroy_cases hd
    rfl
  obtain ⟨hbr, hflag, -⟩ := notify_lagJoin_same fs ops dp ⟨b.dev, b.num, false⟩ dp.dst
    (st.setLags dp.dst g)
  split at h
  · obtain ⟨st₂, hd, h⟩ := Option.map_eq_some_iff.mp h
    cases h
    exact .inl ((hback hd).trans hflag)
  · rcases bridgeDev with - | br
    · cases h
      exact .inl hflag
    · obtain ⟨⟨rc, st₂⟩, hbj, h⟩ := Option.bind_eq_some_iff.mp h
      have hkept : FlagsKept fs dp br st st₂ := by
        intro x hfound hx
        refine (dsaPortBridgeJoin_flags hbj x ?_ ?_).trans (congrFun hflag x)
        · rw [hbr]
          exact hfound
        · rw [hbr]
          exact hx
      split at h
      · obtain ⟨st₃, hd, h⟩ := Option.map_eq_some_iff.mp h
        cases h
        refine .inr ⟨br, rfl, fun x hfound hx => ?_⟩
        rw [hback hd, (notify_lagLeave_same fs ops dp ⟨b.dev, b.num, false⟩ dp.dst st₂).2.1]
        exact hkept x hfound hx
      · cases h
        exact .inr ⟨br, rfl, hkept⟩

/-- **A join that fails is undone**: the members, objects and numbers of all bridges and LAGs, the bitmap
and `lag_tx_enabled` are as before, unless the bridge has ports in another tree. Only `tx_fwd_offload` of
the bridge that the port was to join is not restored. -/
theorem failed_join_undone (fs : Fabrics) (ops : ℕ → ℕ → DsaSwitchOps σ) (drv : σ) (es : List Event)
    (st st' : State σ) (e : Event) (err : ℤ) (hr : (upperMachine fs ops).Run (State.init fs drv) es st)
    (hjoin : e.isJoin = true) (hen : e.enabled fs st) (hone : OneTree fs st e)
    (hex : e.run fs ops st = some (err, st')) (herr : err ≠ 0) :
    SameGroups st.bridges st'.bridges ∧ (∀ t, SameGroups (st.lags t) (st'.lags t)) ∧
      st'.lagTxEnabled = st.lagTxEnabled ∧
      (st'.txFwdOffload = st.txFwdOffload ∨
        ∃ dp br, e.joins = some (dp, br) ∧ FlagsKept fs dp br st st') := by
  have h := Inv.run hr
  cases e with
  | bridgeJoin env dp br =>
      obtain ⟨hl, ht, hj⟩ := dsaPortBridgeJoin_cases hex
      refine ⟨h.bridges.undone hen.2 (hone.apart h.bridges rfl) hj herr, fun t => ?_, ht,
        .inr ⟨dp, br, rfl, dsaPortBridgeJoin_flags hex⟩⟩
      rw [hl]
      exact ⟨rfl, rfl, rfl⟩
  | lagJoin mem bridgeDev env dp lagDev =>
      obtain ⟨hp, hbr, hlag⟩ := hen
      obtain ⟨hb, ht, g, hj, hl⟩ := dsaPortLagJoin_cases hex
      refine ⟨?_, fun t => ?_, ?_, ?_⟩
      · rcases hb with hb | ⟨br, rfl, hb⟩
        · rw [hb]
          exact ⟨rfl, rfl, rfl⟩
        · exact h.bridges.undone hbr (hone.apart h.bridges rfl) hb herr
      · rw [hl]
        by_cases htd : t = dp.dst
        · subst htd
          rw [Function.update_self]
          exact lags_undone (h.lags _) hlag hj herr
        · rw [Function.update_of_ne htd]
          exact ⟨rfl, rfl, rfl⟩
      · rcases ht with ht | ⟨-, ht⟩
        · exact ht
        · rw [ht, ← h.tx dp hlag, Function.update_eq_self]
      · rcases dsaPortLagJoin_flags hex with hkept | ⟨br, rfl, hkept⟩
        · exact .inl hkept
        · exact .inr ⟨dp, br, rfl, hkept⟩
  | bridgeLeave dp => cases hjoin
  | lagLeave dp => cases hjoin
  | lagChange dp linkUp txEnabled => cases hjoin

/-- A driver that offloads forwarding on its first port only. -/
def firstOffloads : DsaSwitchOps Unit :=
  { acceptAll with portBridgeJoin := some fun p _ s => (0, decide (p.index = 0), s) }

/-- The network stack refuses the second port of a LAG that is in a bridge. The bridge keeps the flag that
was reported for that port. -/
theorem failed_join_undone_twoTrees : ∃ st st' : State Unit,
    (upperMachine twoTrees fun _ _ => firstOffloads).Run (State.init twoTrees ())
      [.lagJoin true (some 10) plainJoin ⟨0, 0, 0⟩ 20] st ∧
    (Event.lagJoin true (some 10) ⟨false, true, -12, 0⟩ ⟨0, 0, 1⟩ 20).run twoTrees
      (fun _ _ => firstOffloads) st = some (-12, st') ∧
    st'.calls.length = 9 ∧ SameGroups st.bridges st'.bridges ∧
    (∀ t, SameGroups (st.lags t) (st'.lags t)) ∧ st'.lagTxEnabled = st.lagTxEnabled ∧
    st.txFwdOffload 0 = true ∧ st'.txFwdOffload 0 = false := by
  have hr : (upperMachine twoTrees fun _ _ => firstOffloads).Run (State.init twoTrees ())
      [.lagJoin true (some 10) plainJoin ⟨0, 0, 0⟩ 20] _ :=
    .cons ⟨by decide, rfl, rfl⟩ rfl .nil
  obtain ⟨hbridges, hlags, htx, -⟩ := failed_join_undone twoTrees _ () _ _ _
    (.lagJoin true (some 10) ⟨false, true, -12, 0⟩ ⟨0, 0, 1⟩ 20) (-12) hr rfl ⟨by decide, rfl, rfl⟩
    (by decide) rfl (by decide)
  exact ⟨_, _, hr, rfl, rfl, hbridges, hlags, htx, rfl, rfl⟩

/-! ## Bridges over several trees -/

/-- The first bit that is clear. -/
theorem findNextZeroBit_eq {bits : BitVec 64} {n : ℕ} (h1 : 1 ≤ n) (hn : n < 64)
    (hclear : bits.getLsbD n = false) (hset : ∀ m, 1 ≤ m → m < n → bits.getLsbD m = true) :
    findNextZeroBit bits 1 = n := by
  have hlist : List.range' 1 (64 - 1) = List.range' 1 (n - 1) ++ List.range' n (64 - n) := by
    have happ := List.range'_append_1 (s := 1) (m := n - 1) (n := 64 - n)
    rw [Nat.add_sub_cancel' h1] at happ
    rw [happ]
    congr 1
    omega
  have hlow : (List.range' 1 (n - 1)).find? (fun i => !bits.getLsbD i) = none := by
    refine List.find?_eq_none.mpr fun m hm => ?_
    have hrange := List.mem_range'_1.mp hm
    rw [hset m hrange.1 (by omega)]
    exact Bool.false_ne_true
  have hrest : 64 - n = (63 - n) + 1 := by omega
  rw [findNextZeroBit, hlist, List.find?_append, hlow, Option.none_or, hrest, List.range'_succ,
    List.find?_cons_of_pos (by rw [hclear]; rfl), Option.getD_some]

/-- A bridge that nobody is in takes the first free number. -/
theorem dsaPortBridgeCreate_first_free (h : BridgesLive fs st.bridges) {r : PortRef} {br n : ℕ}
    (hnew : ∀ p t, st.bridges.devOf p ≠ some (t, br)) (hn : n ≠ 0) (hlt : n < 64)
    (hmax : n < fs.maxNumBridges r.dst r.ds) (hclear : st.bridges.pool.getLsbD n = false)
    (hset : ∀ m, 1 ≤ m → m < n → st.bridges.pool.getLsbD m = true) :
    dsaPortBridgeCreate fs true r br st = some (0, { st with
      bridges := st.bridges.start r (r.dst, br) n (setBit n st.bridges.pool)
      txFwdOffload := Function.update st.txFwdOffload st.bridges.next false }) := by
  have hfind : dsaTreeBridgeFind fs st.bridges r.dst br = none := by
    cases hfind : dsaTreeBridgeFind fs st.bridges r.dst br with
    | none => rfl
    | some c =>
        obtain ⟨p, -, hdev⟩ := (h.finds r.dst br).found hfind
        exact absurd hdev (hnew p r.dst)
  have hget : dsaBridgeNumGet fs st.bridges br (fs.maxNumBridges r.dst r.ds) =
      some (n, setBit n st.bridges.pool) := by
    have h0 := dsaBridgeNumFind_eq_zero h hnew
    have hfirst := findNextZeroBit_eq (Nat.one_le_iff_ne_zero.mpr hn) hlt hclear hset
    simp only [dsaBridgeNumGet, h0, if_true, hfirst]
    rw [if_neg (by omega), if_neg (by omega), if_neg (by omega)]
  simp only [dsaPortBridgeCreate, hfind, Bool.not_true, Bool.false_eq_true, if_false, hget,
    Option.map_some]
  rw [if_neg (fun hz => hn hz.2)]

/-- The last port of a bridge in a tree leaves. -/
theorem dsaPortBridgeLeave_last (h : BridgesLive fs st.bridges) {dp : PortRef} {a : ℕ}
    {b : GroupObj (ℕ × ℕ)} (ha : st.bridges.member dp = some a) (hb : st.bridges.heap a = some b)
    (hlast : b.refcount = 1) (hn : b.num ≠ 0) (ops : ℕ → ℕ → DsaSwitchOps σ) :
    ∃ st', dsaPortBridgeLeave fs ops dp st = some st' ∧ BridgesLive fs st'.bridges ∧
      st'.bridges.pool = clearBit b.num st.bridges.pool ∧
      ∀ q, q ≠ dp → st'.bridges.numOf q = st.bridges.numOf q := by
  obtain ⟨st', hleave⟩ := dsaPortBridgeLeave_isSome ops h dp
  obtain ⟨-, -, hl⟩ := dsaPortBridgeLeave_cases hleave
  refine ⟨st', hleave, bridges_left h hl, ?_⟩
  rcases hl with ⟨hnone, -⟩ | ⟨a', b', ha', hb', hst'⟩
  · rw [ha] at hnone
    cases hnone
  obtain rfl := Option.some.inj (ha.symm.trans ha')
  obtain rfl := Option.some.inj (hb.symm.trans hb')
  rw [hst']
  constructor
  · have hfree : (refcountDecAndTest b.refcount).1 = true := by
      rw [hlast]
      rfl
    simp only [Groups.leave, hfree, if_true]
    exact if_pos hn
  · intro q hq
    rw [Groups.numOf, h.toLive.fieldOf_leave (fun _ _ => rfl) ha hb, if_neg hq]
    rfl

/-- **A number is given back while it is in use**: when the last port of a tree leaves a bridge whose
number a port of another tree also has, its bit is cleared, and a bridge that takes the first free number
can get it. -/
theorem spanning_bridge_number_reused (fs : Fabrics) (ops : ℕ → ℕ → DsaSwitchOps σ) (drv : σ)
    (es : List Event) (st : State σ) (dp q : PortRef) (a : ℕ) (b : GroupObj (ℕ × ℕ))
    (hr : (upperMachine fs ops).Run (State.init fs drv) es st)
    (ha : st.bridges.member dp = some a) (hb : st.bridges.heap a = some b) (hlast : b.refcount = 1)
    (hn : b.num ≠ 0) (hq : st.bridges.numOf q = some b.num) (hqd : q ≠ dp) :
    ∃ st', dsaPortBridgeLeave fs ops dp st = some st' ∧ st'.bridges.pool.getLsbD b.num = false ∧
      st'.bridges.numOf q = some b.num ∧
      ∀ r br, r ≠ q → (∀ p ∈ fs.allPorts, ∀ d ∈ st'.bridges.devOf p, d.2 ≠ br) →
        b.num < fs.maxNumBridges r.dst r.ds →
        (∀ m, 1 ≤ m → m < b.num → st'.bridges.pool.getLsbD m = true) →
        ∃ st'', dsaPortBridgeCreate fs true r br st' = some (0, st'') ∧
          st''.bridges.numOf r = some b.num ∧ st''.bridges.numOf q = some b.num ∧
          (st''.bridges.devOf r).map Prod.snd ≠ (st''.bridges.devOf q).map Prod.snd := by
  obtain ⟨st', hleave, hlive, hpool, hothers⟩ :=
    dsaPortBridgeLeave_last (Inv.run hr).bridges ha hb hlast hn ops
  have hclear : st'.bridges.pool.getLsbD b.num = false := by
    rw [hpool, getLsbD_clearBit, decide_eq_true rfl, Bool.not_true, Bool.and_false]
  have hq' : st'.bridges.numOf q = some b.num := (hothers q hqd).trans hq
  refine ⟨st', hleave, hclear, hq', ?_⟩
  intro r br hrq hempty hmax hset
  have hlt := (Inv.run hr).bridges.small hb
  have hnew : ∀ p t, st'.bridges.devOf p ≠ some (t, br) := by
    intro p t hdev
    obtain ⟨c, b', hc, -, -⟩ := Groups.fieldOf_cases hdev
    exact hempty p (hlive.live hc).1 _ hdev rfl
  refine ⟨_, dsaPortBridgeCreate_first_free hlive hnew hn hlt hmax hclear hset, ?_, ?_, ?_⟩
  · simp only [Groups.numOf, hlive.toLive.fieldOf_start, if_true]
  · simp only [Groups.numOf, hlive.toLive.fieldOf_start, if_neg (Ne.symm hrq)]
    exact hq'
  · simp only [Groups.devOf, hlive.toLive.fieldOf_start, if_true, if_neg (Ne.symm hrq)]
    rw [← Groups.devOf, Option.map_some]
    intro heq
    obtain ⟨d, hdev, hbr⟩ := Option.map_eq_some_iff.mp heq.symm
    exact hnew q d.1 (hdev.trans (congrArg some (Prod.ext rfl hbr)))

/-- The only port of a tree leaves a bridge that has a port in the other tree. -/
theorem spanning_bridge_number_reused_twoTrees : ∃ st st' st'' : State Unit,
    (upperMachine twoTrees fun _ _ => acceptAll).Run (State.init twoTrees ())
      [.bridgeJoin plainJoin ⟨0, 0, 0⟩ 10, .bridgeJoin plainJoin ⟨1, 0, 0⟩ 10] st ∧
    dsaPortBridgeLeave twoTrees (fun _ _ => acceptAll) ⟨0, 0, 0⟩ st = some st' ∧
    st'.bridges.pool.getLsbD 1 = false ∧ st'.bridges.numOf ⟨1, 0, 0⟩ = some 1 ∧
    dsaPortBridgeCreate twoTrees true ⟨0, 0, 1⟩ 11 st' = some (0, st'') ∧
    st''.bridges.numOf ⟨0, 0, 1⟩ = some 1 ∧ st''.bridges.numOf ⟨1, 0, 0⟩ = some 1 := by
  have hr : (upperMachine twoTrees fun _ _ => acceptAll).Run (State.init twoTrees ())
      [.bridgeJoin plainJoin ⟨0, 0, 0⟩ 10, .bridgeJoin plainJoin ⟨1, 0, 0⟩ 10] _ :=
    .cons ⟨by decide, rfl⟩ rfl (.cons ⟨by decide, rfl⟩ rfl .nil)
  obtain ⟨st', hleave, hclear, hq, hreuse⟩ := spanning_bridge_number_reused twoTrees _ () _ _ ⟨0, 0, 0⟩
    ⟨1, 0, 0⟩ 0 _ hr rfl rfl rfl (by decide) rfl (by decide)
  obtain rfl := Option.some.inj hleave
  obtain ⟨st'', hcreate, hr', hq', -⟩ := hreuse ⟨0, 0, 1⟩ 11 (by decide) (by decide) (by decide)
    fun m h1 hm => absurd h1 (not_le.mpr hm)
  exact ⟨_, _, st'', hr, rfl, hclear, hq, hcreate, hr', hq'⟩

/-! ## LAGs -/

/-- The lookup by device finds the slot of a LAG that has members. -/
theorem dsaLagId_eq {t : ℕ} {g : Lags} (h : LagsSound fs t g)
    (hcard : (fs.ports t).toFinset.card ≤ 2147483647) {p : PortRef} {d n : ℕ}
    (hdev : g.devOf p = some d) (hnum : g.numOf p = some n) :
    dsaLagId g d = if n = 0 then none else some n := by
  obtain ⟨a, b, ha, hb, rfl⟩ := Groups.fieldOf_cases hdev
  rw [Groups.numOf, Groups.fieldOf_eq _ ha hb] at hnum
  obtain rfl := Option.some.inj hnum
  -- a slot that answers holds the object of the port
  have hslot : ∀ lag ∈ g.pool, ∀ id, (lag.bind fun c => (g.heap c).bind fun b' =>
      if b'.dev = b.dev then some b'.num else none) = some id → lag = some a ∧ id = b.num := by
    intro lag _ id hlag
    obtain ⟨c, rfl, hobj⟩ := Option.bind_eq_some_iff.mp hlag
    obtain ⟨b', hb', hite⟩ := Option.bind_eq_some_iff.mp hobj
    rw [ite_eq_iff] at hite
    obtain ⟨hdev', hid⟩ | ⟨-, hid⟩ := hite
    · obtain ⟨q, hq⟩ := h.toLive.exists_member (Int.ofNat_le.mpr hcard) hb'
      obtain rfl := h.byDev hq ha hb' hb hdev'
      obtain rfl := Option.some.inj (hb.symm.trans hb')
      exact ⟨rfl, (Option.some.inj hid).symm⟩
    · cases hid
  rw [dsaLagId]
  by_cases hn : b.num = 0
  · rw [if_pos hn, List.findSome?_eq_none_iff]
    intro lag hlag
    rw [Option.eq_none_iff_forall_ne_some]
    intro id hid
    obtain ⟨rfl, -⟩ := hslot lag hlag id hid
    obtain ⟨i, hi⟩ := List.getElem?_of_mem hlag
    have hnum := (h.agrees.2 a i).mp hi
    rw [Groups.nums_eq hb, hn] at hnum
    cases hnum
  · rw [if_neg hn]
    obtain ⟨i, hi⟩ := Nat.exists_eq_succ_of_ne_zero hn
    have hmem := List.mem_of_getElem? ((h.agrees.2 a i).mpr ((Groups.nums_eq hb).trans (by rw [hi])))
    cases hfind : g.pool.findSome? fun lag => lag.bind fun c => (g.heap c).bind fun b' =>
        if b'.dev = b.dev then some b'.num else none with
    | none =>
        have hno := List.findSome?_eq_none_iff.mp hfind _ hmem
        rw [Option.bind_some, hb, Option.bind_some, if_pos rfl] at hno
        cases hno
    | some id =>
        obtain ⟨lag, hlag, hid⟩ := List.exists_of_findSome?_eq_some hfind
        rw [(hslot lag hlag id hid).2]

/-- **LAG ids are unique in their tree**, the table has exactly the LAGs in use under their ids, and a
lookup by device gives the id of the LAG, or nothing if it has none. -/
theorem lag_ids_agree (fs : Fabrics) (ops : ℕ → ℕ → DsaSwitchOps σ) (drv : σ) (es : List Event)
    (st : State σ) (t : ℕ) (hcard : (fs.ports t).toFinset.card ≤ 2147483647)
    (hr : (upperMachine fs ops).Run (State.init fs drv) es st) :
    (∀ p q n, n ≠ 0 → (st.lags t).numOf p = some n → (st.lags t).numOf q = some n →
      (st.lags t).devOf p = (st.lags t).devOf q) ∧
    (∀ p d n, (st.lags t).devOf p = some d → (st.lags t).numOf p = some n →
      n ≤ fs.lagsLen t ∧ dsaLagId (st.lags t) d = if n = 0 then none else some n) ∧
    ∀ i a, (st.lags t).pool[i]? = some (some a) ↔
      (st.lags t).nums a = some (i + 1) ∧ ∃ p, (st.lags t).member p = some a := by
  have h := (Inv.run hr).lags t
  refine ⟨fun p q n hn hp hq => h.devOf_of_numOf hp hq hn, fun p d n hd hn => ?_, fun i a => ?_⟩
  · refine ⟨?_, dsaLagId_eq h hcard hd hn⟩
    obtain ⟨a, b, -, hb, rfl⟩ := Groups.fieldOf_cases hn
    cases hnum : b.num with
    | zero => exact Nat.zero_le _
    | succ i =>
        have hslot := (h.agrees.2 a i).mpr ((Groups.nums_eq hb).trans (by rw [hnum]))
        rw [← h.agrees.1]
        exact (List.getElem?_eq_some_iff.mp hslot).1
  · rw [h.agrees.2]
    refine (and_iff_left_of_imp fun hnum => ?_).symm
    obtain ⟨b, hb, -⟩ := Option.map_eq_some_iff.mp hnum
    exact h.toLive.exists_member (Int.ofNat_le.mpr hcard) hb

/-- Two LAGs of a tree. -/
theorem lag_ids_agree_twoTrees : ∃ st : State Unit,
    (upperMachine twoTrees fun _ _ => acceptAll).Run (State.init twoTrees ())
      [.lagJoin true none plainJoin ⟨0, 0, 0⟩ 20, .lagJoin true none plainJoin ⟨0, 0, 1⟩ 21] st ∧
    (st.lags 0).numOf ⟨0, 0, 1⟩ = some 2 ∧ dsaLagId (st.lags 0) 21 = some 2 := by
  have hr : (upperMachine twoTrees fun _ _ => acceptAll).Run (State.init twoTrees ())
      [.lagJoin true none plainJoin ⟨0, 0, 0⟩ 20, .lagJoin true none plainJoin ⟨0, 0, 1⟩ 21] _ :=
    .cons ⟨by decide, rfl, rfl⟩ rfl (.cons ⟨by decide, rfl, rfl⟩ rfl .nil)
  exact ⟨_, hr, rfl,
    ((lag_ids_agree twoTrees _ () _ _ 0 (by decide) hr).2.1 ⟨0, 0, 1⟩ 21 2 rfl rfl).2⟩

/-! ## Counters -/

/-- The counter of each object is the number of its members, and members of the same tree have the same
object if and only if they are in the same group. -/
structure CountedBy {κ δ π : Type*} [DecidableEq κ] (ports : Finset κ) (g : Groups κ δ π) : Prop where
  counter : ∀ a b, g.heap a = some b → b.refcount = (g.members ports a).card ∧ 0 < b.refcount
  object : ∀ p q d, g.devOf p = some d → (g.devOf q = some d ↔ g.member q = g.member p)

theorem CountedBy.of_live {κ δ π : Type*} [DecidableEq κ] {ports : Finset κ} {g : Groups κ δ π}
    (h : Groups.Live ports g) (hcard : ports.card ≤ 2147483647) : CountedBy ports g where
  counter a b hb := by
    obtain ⟨-, hlive, ⟨-, hbig⟩ | hcount⟩ := h.counted hb
    · exact absurd hbig (not_lt.mpr (Int.ofNat_le.mpr hcard))
    · refine ⟨hcount, ?_⟩
      simp only [RefcountLive, REFCOUNT_SATURATED] at hlive
      omega
  object p q d hp := by
    obtain ⟨a, b, ha, hb, rfl⟩ := Groups.fieldOf_cases hp
    constructor
    · intro hq
      obtain ⟨a', b', ha', hb', hdev⟩ := Groups.fieldOf_cases hq
      rw [ha, ha', h.byDev ha' ha hb' hb hdev]
    · intro hq
      exact Groups.fieldOf_eq _ (hq.trans ha) hb

/-- **Objects live as long as they have members.** No run uses a freed object or writes behind the
bitmap, and the counters are the numbers of members. The tree that the object of a bridge is for is that
of its ports, so those of a tree share it if they are in the same bridge. -/
theorem upper_objects_counted (fs : Fabrics) (ops : ℕ → ℕ → DsaSwitchOps σ) (drv : σ)
    (hmax : ∀ t ds, fs.maxNumBridges t ds ≤ 64) (hcard : fs.allPorts.card ≤ 2147483647)
    (hcards : ∀ t, (fs.ports t).toFinset.card ≤ 2147483647) :
    (upperMachine fs ops).Unreachable (State.init fs drv) .badAccess ∧
      ∀ es st, (upperMachine fs ops).Run (State.init fs drv) es st →
        CountedBy fs.allPorts st.bridges ∧ (∀ p d, st.bridges.devOf p = some d → d.1 = p.dst) ∧
          ∀ t, CountedBy (fs.ports t).toFinset (st.lags t) := by
  constructor
  · intro es st e hr _ hex
    obtain ⟨r, hrun⟩ := Inv.run_isSome ops (Inv.run hr) hmax e
    simp only [upperMachine, hrun] at hex
    cases hex
  · intro es st hr
    have h := Inv.run hr
    exact ⟨.of_live h.bridges.toLive hcard, fun p d hd => h.bridges.home hd,
      fun t => .of_live (h.lags t).toLive (hcards t)⟩

theorem upper_objects_counted_twoTrees :
    (upperMachine twoTrees fun _ _ => acceptAll).Unreachable (State.init twoTrees ()) .badAccess ∧
      ∀ es st, (upperMachine twoTrees fun _ _ => acceptAll).Run (State.init twoTrees ()) es st →
        CountedBy twoTrees.allPorts st.bridges ∧
          (∀ p d, st.bridges.devOf p = some d → d.1 = p.dst) ∧
          ∀ t, CountedBy (twoTrees.ports t).toFinset (st.lags t) := by
  refine upper_objects_counted twoTrees (fun _ _ => acceptAll) () ?_ (by decide) ?_
  · intro t ds
    rw [twoTrees]
    norm_num
  · intro t
    refine (List.toFinset_card_le _).trans ?_
    rw [twoTrees]
    norm_num

end Axm57104.Dsa.Uppers
