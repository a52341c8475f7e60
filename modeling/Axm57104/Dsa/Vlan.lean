import Axm57104.Common.Machine
import Axm57104.Common.Words
import Mathlib.Logic.Function.Basic

/-!
# The VLAN table of the switch driver

`dsa_loop` keeps for each VLAN the ports that are members of it and those that send it untagged. The
table has `DSA_LOOP_VLANS = 5` entries. `dsa_loop_port_vlan_add` refuses larger VLAN ids;
`dsa_loop_port_vlan_del` does not look, although the roll-back in `dsa_user_manage_vlan_filtering`
deletes every VLAN of an interface after the add of one was refused. And a delete leaves a port
untagged unless its flags say so, which those of that roll-back never do.

Sets of ports are words, port `p` being bit `p`.
-/

namespace Axm57104.Dsa

open Common

@[simp] abbrev DSA_LOOP_VLANS : ℕ := 5

/-- `ds->num_ports`. -/
@[simp] abbrev DSA_LOOP_SWITCH_PORTS : ℕ := 5

@[simp] abbrev BRIDGE_VLAN_INFO_PVID : ℕ := 0x2
@[simp] abbrev BRIDGE_VLAN_INFO_UNTAGGED : ℕ := 0x4

@[simp] abbrev ERANGE : ℤ := 34

/-- The ids of a VLAN tag. -/
@[simp] abbrev VLAN_N_VID : ℕ := 4096

/-- `struct dsa_loop_vlan`. -/
structure DsaLoopVlan where
  members : ℕ
  untagged : ℕ
  deriving DecidableEq, Repr

/-- `struct switchdev_obj_port_vlan`. -/
structure SwitchdevVlan where
  vid : ℕ
  flags : ℕ
  deriving DecidableEq, Repr

def SwitchdevVlan.untagged (vlan : SwitchdevVlan) : Bool :=
  vlan.flags &&& BRIDGE_VLAN_INFO_UNTAGGED != 0

def SwitchdevVlan.pvid (vlan : SwitchdevVlan) : Bool := vlan.flags &&& BRIDGE_VLAN_INFO_PVID != 0

/-- `vlans` of `struct dsa_loop_priv`, and `pvid` of its `ports`. -/
structure DsaLoopPriv where
  vlans : Fin DSA_LOOP_VLANS → DsaLoopVlan
  pvid : Fin DSA_LOOP_SWITCH_PORTS → ℕ

/-- An entry behind the end of `vlans` is accessed. -/
inductive VlanFault
  | outOfBounds
  deriving DecidableEq, Repr

/-! ## The two operations -/

/-- The entry after an add of port `port`. -/
def DsaLoopVlan.add (vl : DsaLoopVlan) (port : ℕ) (untagged : Bool) : DsaLoopVlan where
  members := vl.members ||| 2 ^ port
  untagged := if untagged then vl.untagged ||| 2 ^ port else Nat.ldiff vl.untagged (2 ^ port)

/-- The entry after a delete of port `port`. -/
def DsaLoopVlan.del (vl : DsaLoopVlan) (port : ℕ) (untagged : Bool) : DsaLoopVlan where
  members := Nat.ldiff vl.members (2 ^ port)
  untagged := if untagged then Nat.ldiff vl.untagged (2 ^ port) else vl.untagged

/-- `dsa_loop_port_vlan_add`: the return value and the table. The PHY register that it reads for the
sake of lock checking is not part of the table. -/
def dsaLoopPortVlanAdd (ps : DsaLoopPriv) (port : Fin DSA_LOOP_SWITCH_PORTS) (vlan : SwitchdevVlan) :
    ℤ × DsaLoopPriv :=
  if h : vlan.vid < DSA_LOOP_VLANS then
    let vl := ps.vlans ⟨vlan.vid, h⟩
    (0, { vlans := Function.update ps.vlans ⟨vlan.vid, h⟩ (vl.add port.val vlan.untagged)
          pvid := if vlan.pvid then Function.update ps.pvid port vlan.vid else ps.pvid })
  else (-ERANGE, ps)

/-- `dsa_loop_port_vlan_del`. -/
def dsaLoopPortVlanDel (ps : DsaLoopPriv) (port : Fin DSA_LOOP_SWITCH_PORTS) (vlan : SwitchdevVlan) :
    Except VlanFault (ℤ × DsaLoopPriv) :=
  let pvid := ps.pvid port
  if h : vlan.vid < DSA_LOOP_VLANS then
    let vl := ps.vlans ⟨vlan.vid, h⟩
    let pvid := if pvid = vlan.vid then 1 else pvid
    .ok (0, { vlans := Function.update ps.vlans ⟨vlan.vid, h⟩ (vl.del port.val vlan.untagged)
              pvid := Function.update ps.pvid port pvid })
  else .error .outOfBounds

/-! ## Runs -/

/-- A call of one of the two. -/
inductive VlanCall
  | add (port : Fin DSA_LOOP_SWITCH_PORTS) (vlan : SwitchdevVlan)
  | del (port : Fin DSA_LOOP_SWITCH_PORTS) (vlan : SwitchdevVlan)
  deriving DecidableEq, Repr

def VlanCall.vlan : VlanCall → SwitchdevVlan
  | add _ vlan => vlan
  | del _ vlan => vlan

def VlanCall.exec (ps : DsaLoopPriv) : VlanCall → Except VlanFault (ℤ × DsaLoopPriv)
  | add port vlan => .ok (dsaLoopPortVlanAdd ps port vlan)
  | del port vlan => dsaLoopPortVlanDel ps port vlan

/-- Calls in any order, with any VLAN id of a tag and any flags. -/
def vlanMachine : Machine DsaLoopPriv VlanCall VlanFault where
  enabled _ c := c.vlan.vid < VLAN_N_VID
  exec ps c := Prod.snd <$> c.exec ps

instance vlanMachine_decidable (ps : DsaLoopPriv) (c : VlanCall) : Decidable (vlanMachine.enabled ps c) :=
  inferInstanceAs (Decidable (_ < _))

/-- The table of a new switch. -/
def emptyPriv : DsaLoopPriv where
  vlans _ := ⟨0, 0⟩
  pvid _ := 0

/-! ## Consistency -/

/-- Every untagged port is a member. -/
def DsaLoopVlan.Consistent (vl : DsaLoopVlan) : Prop :=
  ∀ p, vl.untagged.testBit p = true → vl.members.testBit p = true

/-- Port `p` is in neither set. -/
def DsaLoopVlan.Absent (vl : DsaLoopVlan) (p : ℕ) : Prop :=
  vl.members.testBit p = false ∧ vl.untagged.testBit p = false

def DsaLoopPriv.Consistent (ps : DsaLoopPriv) : Prop := ∀ v, (ps.vlans v).Consistent

/-- What is asked of a call: it accesses no entry behind the table, refuses larger ids without a
change, keeps the table consistent, and a delete leaves the port in neither set. -/
structure VlanCall.Safe (ps : DsaLoopPriv) (c : VlanCall) (rc : ℤ) (ps' : DsaLoopPriv) : Prop where
  exec_eq : c.exec ps = .ok (rc, ps')
  refused : DSA_LOOP_VLANS ≤ c.vlan.vid → rc = -ERANGE ∧ ps' = ps
  consistent : ps'.Consistent
  absent : ∀ port vlan, c = .del port vlan → ∀ h : vlan.vid < DSA_LOOP_VLANS,
    (ps'.vlans ⟨vlan.vid, h⟩).Absent port.val

/-- A delete of an entry of the table that clears the port's untagged bit, or finds it clear. -/
def VlanCall.CleanDel (ps : DsaLoopPriv) : VlanCall → Prop
  | add _ _ => True
  | del port vlan => ∃ h : vlan.vid < DSA_LOOP_VLANS, vlan.untagged = true ∨
      (ps.vlans ⟨vlan.vid, h⟩).untagged.testBit port.val = false

/-! ### Entries -/

section Entries

variable {vl : DsaLoopVlan} {port : ℕ} {untagged : Bool}

theorem DsaLoopVlan.Consistent.add (h : vl.Consistent) : (vl.add port untagged).Consistent := by
  intro p hp
  rw [DsaLoopVlan.add, testBit_or_two_pow_iff]
  cases untagged with
  | true => exact ((testBit_or_two_pow_iff _ _ _).mp hp).imp_left (h p)
  | false => exact .inl (h p ((testBit_ldiff_two_pow_iff _ _ _).mp hp).1)

/-- A delete that clears the untagged bit, or finds it clear, leaves the port in neither set. -/
theorem DsaLoopVlan.absent_del (h : untagged = true ∨ vl.untagged.testBit port = false) :
    (vl.del port untagged).Absent port := by
  have hcleared : ∀ x : ℕ, (Nat.ldiff x (2 ^ port)).testBit port = false := by
    intro x
    rw [Bool.eq_false_iff, ne_eq, testBit_ldiff_two_pow_iff]
    exact fun hx => hx.2 rfl
  refine ⟨hcleared _, ?_⟩
  cases untagged with
  | true => exact hcleared _
  | false => exact h.resolve_left Bool.false_ne_true

theorem DsaLoopVlan.Consistent.del (h : vl.Consistent)
    (habsent : (vl.del port untagged).untagged.testBit port = false) :
    (vl.del port untagged).Consistent := by
  intro p hp
  have hne : port ≠ p := by
    rintro rfl
    rw [habsent] at hp
    cases hp
  have hold : vl.untagged.testBit p = true := by
    cases untagged with
    | true => exact ((testBit_ldiff_two_pow_iff _ _ _).mp hp).1
    | false => exact hp
  exact (testBit_ldiff_two_pow_iff _ _ _).mpr ⟨h p hold, hne⟩

end Entries

/-! ### Calls -/

section Calls

variable {ps : DsaLoopPriv}

/-- A write of a consistent entry keeps the table consistent. -/
theorem DsaLoopPriv.Consistent.update (h : ps.Consistent) {v : Fin DSA_LOOP_VLANS}
    {vl : DsaLoopVlan} (hvl : vl.Consistent) (pvid : Fin DSA_LOOP_SWITCH_PORTS → ℕ) :
    DsaLoopPriv.Consistent { vlans := Function.update ps.vlans v vl, pvid := pvid } := by
  intro v'
  by_cases hv : v' = v
  · subst hv
    simpa only [Function.update_self] using hvl
  · simpa only [Function.update_of_ne hv] using h v'

theorem safe_add (h : ps.Consistent) (port : Fin DSA_LOOP_SWITCH_PORTS) (vlan : SwitchdevVlan) :
    ∃ rc ps', (VlanCall.add port vlan).Safe ps rc ps' := by
  refine ⟨(dsaLoopPortVlanAdd ps port vlan).1, (dsaLoopPortVlanAdd ps port vlan).2, rfl, ?_, ?_,
    fun _ _ hdel => ?_⟩
  · intro hlarge
    have hvid : ¬ vlan.vid < DSA_LOOP_VLANS := Nat.not_lt.mpr hlarge
    unfold dsaLoopPortVlanAdd
    rw [dif_neg hvid]
    exact ⟨rfl, rfl⟩
  · unfold dsaLoopPortVlanAdd
    split
    · exact h.update (h _).add _
    · exact h
  · cases hdel

theorem dsaLoopPortVlanDel_eq (ps : DsaLoopPriv) (port : Fin DSA_LOOP_SWITCH_PORTS)
    {vlan : SwitchdevVlan} (hvid : vlan.vid < DSA_LOOP_VLANS) :
    ∃ pvid, dsaLoopPortVlanDel ps port vlan = .ok (0,
      { vlans := Function.update ps.vlans ⟨vlan.vid, hvid⟩
          ((ps.vlans ⟨vlan.vid, hvid⟩).del port.val vlan.untagged)
        pvid := pvid }) := by
  unfold dsaLoopPortVlanDel
  rw [dif_pos hvid]
  exact ⟨_, rfl⟩

/-- **One call.** From a consistent table, a call is safe exactly if it is no delete, or a clean
one. -/
theorem VlanCall.safe_iff (h : ps.Consistent) (c : VlanCall) :
    (∃ rc ps', c.Safe ps rc ps') ↔ c.CleanDel ps := by
  cases c with
  | add port vlan => exact ⟨fun _ => trivial, fun _ => safe_add h port vlan⟩
  | del port vlan =>
      constructor
      · rintro ⟨rc, ps', hsafe⟩
        by_cases hvid : vlan.vid < DSA_LOOP_VLANS
        · refine ⟨hvid, ?_⟩
          obtain ⟨pvid, heq⟩ := dsaLoopPortVlanDel_eq ps port hvid
          have habsent := hsafe.absent port vlan rfl hvid
          cases heq.symm.trans hsafe.exec_eq
          simp only [Function.update_self] at habsent
          cases huntagged : vlan.untagged with
          | true => exact .inl rfl
          | false =>
              rw [huntagged] at habsent
              exact .inr habsent.2
        · have hexec := hsafe.exec_eq
          simp only [VlanCall.exec, dsaLoopPortVlanDel, dif_neg hvid] at hexec
          cases hexec
      · rintro ⟨hvid, hclean⟩
        obtain ⟨pvid, heq⟩ := dsaLoopPortVlanDel_eq ps port hvid
        have habsent := DsaLoopVlan.absent_del hclean
        refine ⟨_, _, heq, fun hlarge => absurd hvid (Nat.not_lt.mpr hlarge),
          h.update ((h _).del habsent.2) _, ?_⟩
        intro port' vlan' hdel hvid'
        cases hdel
        simpa only [Function.update_self] using habsent

end Calls

/-! ## Whole runs -/

/-- **The VLAN table.** In every run from the empty table whose deletes are clean, the table is
consistent in every state reached; and there a further call is safe exactly if it is no delete, or a
clean one. -/
theorem vlanMachine_consistent {es : List VlanCall} {ps : DsaLoopPriv}
    (hrun : (vlanMachine.restrict VlanCall.CleanDel).Run emptyPriv es ps) :
    ps.Consistent ∧ ∀ c : VlanCall, c.vlan.vid < VLAN_N_VID →
      ((∃ rc ps', c.Safe ps rc ps') ↔ c.CleanDel ps) := by
  have hcons : ps.Consistent := by
    apply hrun.invariant (I := DsaLoopPriv.Consistent)
    · intro v p hp
      rw [emptyPriv, Nat.zero_testBit] at hp
      cases hp
    · intro ps c ps' hps hen hexec
      obtain ⟨rc, ps'', hsafe⟩ := (c.safe_iff hps).mpr hen.2
      have hsnd : Prod.snd <$> c.exec ps = .ok ps' := hexec
      rw [hsafe.exec_eq] at hsnd
      cases hsnd
      exact hsafe.consistent
  exact ⟨hcons, fun c _ => c.safe_iff hcons⟩

/-- Port 0 joins VLAN 1 untagged, and leaves it with the same flags. -/
theorem vlanMachine_consistent_leave :
    ∃ ps, (vlanMachine.restrict VlanCall.CleanDel).Run emptyPriv
        [.add 0 ⟨1, BRIDGE_VLAN_INFO_UNTAGGED⟩, .del 0 ⟨1, BRIDGE_VLAN_INFO_UNTAGGED⟩] ps ∧
      ps.Consistent := by
  have hrun : (vlanMachine.restrict VlanCall.CleanDel).Run emptyPriv
      [.add 0 ⟨1, BRIDGE_VLAN_INFO_UNTAGGED⟩, .del 0 ⟨1, BRIDGE_VLAN_INFO_UNTAGGED⟩] _ :=
    .cons ⟨by decide, trivial⟩ rfl
      (.single ⟨by decide, by decide, .inl rfl⟩ rfl)
  exact ⟨_, hrun, (vlanMachine_consistent hrun).1⟩

/-- VLAN 100 is refused, and its delete in the roll-back goes behind the table; and a delete without
flags leaves an untagged port that is no member. -/
theorem dsaLoopPortVlanDel_unchecked :
    (dsaLoopPortVlanAdd emptyPriv 0 ⟨100, 0⟩ = (-ERANGE, emptyPriv) ∧
        dsaLoopPortVlanDel emptyPriv 0 ⟨100, 0⟩ = .error .outOfBounds) ∧
      ∃ ps, vlanMachine.Run emptyPriv [.add 0 ⟨1, BRIDGE_VLAN_INFO_UNTAGGED⟩, .del 0 ⟨1, 0⟩] ps ∧
        ¬ ps.Consistent ∧ ¬ (ps.vlans 1).Absent 0 := by
  refine ⟨⟨rfl, rfl⟩, _, .cons (by decide) rfl (.single (by decide) rfl), fun h => ?_, fun h => ?_⟩
  · -- bit 0 is still untagged, and no longer a member
    exact ((testBit_ldiff_two_pow_iff _ 0 0).mp (h 1 0 rfl)).2 rfl
  · cases h.2

end Axm57104.Dsa
