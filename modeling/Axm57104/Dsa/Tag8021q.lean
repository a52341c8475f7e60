import Axm57104.Dsa.Fabric

/-!
# The VLANs of 802.1Q based tagging

`tag_8021q.c` gives each user port a VLAN of its own, and each bridge one, out of a range of ids that
is reserved for it: a frame from the switch then tells by its VLAN where it came from. The first part is
about the ids: what the receive functions decode is what was encoded, so ids of different ports and
bridges differ as long as the indices fit their fields.

The second part is about the list of these VLANs on the shared ports of a switch. It is counted like
those of `switch.c`, with one difference: a delete that the driver refuses does not set the counter back
to one but increments it, and a counter at zero saturates instead. Such a VLAN is never deleted again.
-/

namespace Axm57104.Dsa.Tag8021q

open Common Fabric

/-! ## VLAN ids -/

@[simp] abbrev DSA_8021Q_RSV_VAL : ℕ := 3
@[simp] abbrev DSA_8021Q_RSV_SHIFT : ℕ := 10
@[simp] abbrev DSA_8021Q_RSV_MASK : ℕ := 0xC00
@[simp] abbrev DSA_8021Q_SWITCH_ID_SHIFT : ℕ := 6
@[simp] abbrev DSA_8021Q_SWITCH_ID_MASK : ℕ := 0x1C0
@[simp] abbrev DSA_8021Q_VBID_HI_SHIFT : ℕ := 9
@[simp] abbrev DSA_8021Q_VBID_HI_MASK : ℕ := 0x200
@[simp] abbrev DSA_8021Q_VBID_LO_SHIFT : ℕ := 4
@[simp] abbrev DSA_8021Q_VBID_LO_MASK : ℕ := 0x30
@[simp] abbrev DSA_8021Q_PORT_SHIFT : ℕ := 0
@[simp] abbrev DSA_8021Q_PORT_MASK : ℕ := 0xF

@[simp] abbrev VLAN_VID_MASK : ℕ := 0xFFF
@[simp] abbrev VLAN_PRIO_MASK : ℕ := 0xE000
@[simp] abbrev VLAN_PRIO_SHIFT : ℕ := 13

/-- `DSA_8021Q_RSV`. -/
def dsa8021qRsv : ℕ := (DSA_8021Q_RSV_VAL <<< DSA_8021Q_RSV_SHIFT) &&& DSA_8021Q_RSV_MASK

/-- `DSA_8021Q_SWITCH_ID`. -/
def dsa8021qSwitchId (x : ℕ) : ℕ := (x <<< DSA_8021Q_SWITCH_ID_SHIFT) &&& DSA_8021Q_SWITCH_ID_MASK

/-- `DSA_8021Q_VBID_HI`. -/
def dsa8021qVbidHi (x : ℕ) : ℕ := (x &&& 4) >>> 2

/-- `DSA_8021Q_VBID_LO`. -/
def dsa8021qVbidLo (x : ℕ) : ℕ := x &&& 3

/-- `DSA_8021Q_VBID`. -/
def dsa8021qVbid (x : ℕ) : ℕ :=
  ((dsa8021qVbidLo x <<< DSA_8021Q_VBID_LO_SHIFT) &&& DSA_8021Q_VBID_LO_MASK) |||
    ((dsa8021qVbidHi x <<< DSA_8021Q_VBID_HI_SHIFT) &&& DSA_8021Q_VBID_HI_MASK)

/-- `DSA_8021Q_PORT`. -/
def dsa8021qPort (x : ℕ) : ℕ := (x <<< DSA_8021Q_PORT_SHIFT) &&& DSA_8021Q_PORT_MASK

/-- `dsa_tag_8021q_bridge_vid`. -/
def dsaTag8021qBridgeVid (bridgeNum : ℕ) : ℕ := dsa8021qRsv ||| dsa8021qVbid bridgeNum

/-- `dsa_tag_8021q_standalone_vid`. -/
def dsaTag8021qStandaloneVid (dp : PortId) : ℕ :=
  dsa8021qRsv ||| dsa8021qSwitchId dp.ds ||| dsa8021qPort dp.index

/-- `dsa_8021q_rx_switch_id`. -/
def dsa8021qRxSwitchId (vid : ℕ) : ℕ := (vid &&& DSA_8021Q_SWITCH_ID_MASK) >>> DSA_8021Q_SWITCH_ID_SHIFT

/-- `dsa_8021q_rx_source_port`. -/
def dsa8021qRxSourcePort (vid : ℕ) : ℕ := (vid &&& DSA_8021Q_PORT_MASK) >>> DSA_8021Q_PORT_SHIFT

/-- `dsa_tag_8021q_rx_vbid`. -/
def dsaTag8021qRxVbid (vid : ℕ) : ℕ :=
  let vbidHi := (vid &&& DSA_8021Q_VBID_HI_MASK) >>> DSA_8021Q_VBID_HI_SHIFT
  let vbidLo := (vid &&& DSA_8021Q_VBID_LO_MASK) >>> DSA_8021Q_VBID_LO_SHIFT
  (vbidHi <<< 2) ||| vbidLo

/-- `vid_is_dsa_8021q`. -/
def vidIsDsa8021q (vid : ℕ) : Bool :=
  (vid &&& DSA_8021Q_RSV_MASK) >>> DSA_8021Q_RSV_SHIFT = DSA_8021Q_RSV_VAL

/-- What a received tag says: the source port, the switch and the bridge, and the priority that the
frame gets. -/
structure RxTag where
  sourcePort : ℕ
  switchId : ℕ
  vbid : ℕ
  priority : ℕ
  deriving DecidableEq, Repr

/-- `dsa_8021q_rcv`, on the tag control information that it took out of the frame. -/
def dsa8021qRcv (tci : ℕ) : RxTag :=
  let vid := tci &&& VLAN_VID_MASK
  ⟨dsa8021qRxSourcePort vid, dsa8021qRxSwitchId vid, dsaTag8021qRxVbid vid,
    (tci &&& VLAN_PRIO_MASK) >>> VLAN_PRIO_SHIFT⟩

section Vids

theorem dsa8021qRsv_eq : dsa8021qRsv = 2 ^ 10 * 3 := rfl

theorem dsa8021qSwitchId_eq (x : ℕ) : dsa8021qSwitchId x = 2 ^ 6 * (x % 8) := by
  rw [dsa8021qSwitchId, Nat.shiftLeft_eq, show DSA_8021Q_SWITCH_ID_MASK = 2 ^ 6 * (2 ^ 3 - 1) from rfl,
    and_field, Nat.mul_div_cancel _ (by norm_num)]
  norm_num

theorem dsa8021qPort_eq (x : ℕ) : dsa8021qPort x = x % 16 := by
  rw [dsa8021qPort, Nat.shiftLeft_zero, show DSA_8021Q_PORT_MASK = 2 ^ 4 - 1 from rfl,
    Nat.and_two_pow_sub_one_eq_mod]

theorem dsa8021qVbid_eq (x : ℕ) : dsa8021qVbid x = 2 ^ 9 * (x / 4 % 2) + 2 ^ 4 * (x % 4) := by
  have hlo : dsa8021qVbidLo x = x % 4 := Nat.and_two_pow_sub_one_eq_mod x 2
  have hhi : dsa8021qVbidHi x = x / 4 % 2 := by
    rw [dsa8021qVbidHi, show (4 : ℕ) = 2 ^ 2 * (2 ^ 1 - 1) from rfl, and_field, Nat.shiftRight_eq_div_pow,
      Nat.mul_div_cancel_left _ (by norm_num)]
    rfl
  rw [dsa8021qVbid, hlo, hhi, Nat.shiftLeft_eq, Nat.shiftLeft_eq,
    show DSA_8021Q_VBID_LO_MASK = 2 ^ 4 * (2 ^ 2 - 1) from rfl,
    show DSA_8021Q_VBID_HI_MASK = 2 ^ 9 * (2 ^ 1 - 1) from rfl, and_field, and_field,
    Nat.mul_div_cancel _ (by norm_num), Nat.mul_div_cancel _ (by norm_num), Nat.or_comm,
    ← Nat.two_pow_add_eq_or_of_lt (by omega)]
  omega

/-- The fields of a bridge's id side by side. -/
theorem dsaTag8021qBridgeVid_eq (n : ℕ) :
    dsaTag8021qBridgeVid n = 2 ^ 10 * 3 + (2 ^ 9 * (n / 4 % 2) + 2 ^ 4 * (n % 4)) := by
  rw [dsaTag8021qBridgeVid, dsa8021qRsv_eq, dsa8021qVbid_eq, ← Nat.two_pow_add_eq_or_of_lt (by omega)]

/-- The fields of a port's id side by side. -/
theorem dsaTag8021qStandaloneVid_eq (dp : PortId) :
    dsaTag8021qStandaloneVid dp = 2 ^ 10 * 3 + (2 ^ 6 * (dp.ds % 8) + dp.index % 16) := by
  rw [dsaTag8021qStandaloneVid, dsa8021qRsv_eq, dsa8021qSwitchId_eq, dsa8021qPort_eq, Nat.or_assoc,
    ← Nat.two_pow_add_eq_or_of_lt (i := 6) (by omega),
    ← Nat.two_pow_add_eq_or_of_lt (i := 10) (by omega)]

theorem dsa8021qRxSwitchId_eq (vid : ℕ) : dsa8021qRxSwitchId vid = vid / 64 % 8 := by
  rw [dsa8021qRxSwitchId, show DSA_8021Q_SWITCH_ID_MASK = 2 ^ 6 * (2 ^ 3 - 1) from rfl, and_field,
    Nat.shiftRight_eq_div_pow, Nat.mul_div_cancel_left _ (by norm_num)]
  norm_num

theorem dsa8021qRxSourcePort_eq (vid : ℕ) : dsa8021qRxSourcePort vid = vid % 16 :=
  Nat.and_two_pow_sub_one_eq_mod vid 4

theorem dsaTag8021qRxVbid_eq (vid : ℕ) :
    dsaTag8021qRxVbid vid = 4 * (vid / 512 % 2) + vid / 16 % 4 := by
  rw [dsaTag8021qRxVbid, show DSA_8021Q_VBID_LO_MASK = 2 ^ 4 * (2 ^ 2 - 1) from rfl,
    show DSA_8021Q_VBID_HI_MASK = 2 ^ 9 * (2 ^ 1 - 1) from rfl, and_field, and_field]
  simp only [Nat.shiftRight_eq_div_pow]
  rw [Nat.mul_div_cancel_left _ (by norm_num), Nat.mul_div_cancel_left _ (by norm_num),
    Nat.shiftLeft_eq, Nat.mul_comm, ← Nat.two_pow_add_eq_or_of_lt (by omega)]
  norm_num

theorem vidIsDsa8021q_iff (vid : ℕ) : vidIsDsa8021q vid = true ↔ vid / 1024 % 4 = 3 := by
  rw [vidIsDsa8021q, decide_eq_true_iff,
    show DSA_8021Q_RSV_MASK = 2 ^ 10 * (2 ^ 2 - 1) from rfl, and_field, Nat.shiftRight_eq_div_pow,
    Nat.mul_div_cancel_left _ (by norm_num)]
  norm_num

theorem dsa8021qRcv_eq (tci : ℕ) :
    dsa8021qRcv tci =
      ⟨tci % 16, tci / 64 % 8, 4 * (tci / 512 % 2) + tci / 16 % 4, tci / 8192 % 8⟩ := by
  have hvid : tci &&& VLAN_VID_MASK = tci % 4096 := Nat.and_two_pow_sub_one_eq_mod tci 12
  have hprio : (tci &&& VLAN_PRIO_MASK) >>> VLAN_PRIO_SHIFT = tci / 8192 % 8 := by
    rw [show VLAN_PRIO_MASK = 2 ^ 13 * (2 ^ 3 - 1) from rfl, and_field, Nat.shiftRight_eq_div_pow,
      Nat.mul_div_cancel_left _ (by norm_num)]
    norm_num
  rw [dsa8021qRcv, hvid, hprio, dsa8021qRxSourcePort_eq, dsa8021qRxSwitchId_eq,
    dsaTag8021qRxVbid_eq]
  congr 1
  · omega
  · omega
  · omega

/-- **The ids are decoded to what they encode**, up to the width of the fields, whatever `pcp`, the
priority and the DEI bit below it, is; the priority is decoded with them; two ids are equal only if the
fields are; and all are in the reserved range. -/
theorem tag8021q_vids_decode (dp dp' : PortId) (n n' pcp : ℕ) :
    dsa8021qRcv (4096 * pcp + dsaTag8021qStandaloneVid dp) =
        ⟨dp.index % 16, dp.ds % 8, 0, pcp / 2 % 8⟩ ∧
      dsa8021qRcv (4096 * pcp + dsaTag8021qBridgeVid n) = ⟨0, 0, n % 8, pcp / 2 % 8⟩ ∧
      (dsaTag8021qStandaloneVid dp = dsaTag8021qStandaloneVid dp' ↔
        dp.ds % 8 = dp'.ds % 8 ∧ dp.index % 16 = dp'.index % 16) ∧
      (dsaTag8021qBridgeVid n = dsaTag8021qBridgeVid n' ↔ n % 8 = n' % 8) ∧
      (dsaTag8021qBridgeVid n = dsaTag8021qStandaloneVid dp ↔
        n % 8 = 0 ∧ dp.ds % 8 = 0 ∧ dp.index % 16 = 0) ∧
      vidIsDsa8021q (dsaTag8021qStandaloneVid dp) = true ∧
      vidIsDsa8021q (dsaTag8021qBridgeVid n) = true ∧
      dsaTag8021qStandaloneVid dp < 4096 ∧ dsaTag8021qBridgeVid n < 4096 := by
  simp only [dsa8021qRcv_eq, vidIsDsa8021q_iff, dsaTag8021qStandaloneVid_eq, dsaTag8021qBridgeVid_eq]
  refine ⟨?_, ?_, by omega, by omega, by omega, by omega, by omega, by omega, by omega⟩
  · congr 1
    · omega
    · omega
    · omega
    · omega
  · congr 1
    · omega
    · omega
    · omega
    · omega

end Vids

/-! ## The VLANs of a switch -/

/-- A call to `tag_8021q_vlan_add` or `tag_8021q_vlan_del`, with what it returned. -/
structure TagCall where
  op : DrvOp
  port : ℕ
  vid : ℕ
  rc : ℤ
  deriving DecidableEq

/-- `struct dsa_8021q_context`, whose list is told apart by port and id, with the state of the driver and
the calls made to it. -/
structure Ctx (σ : Type*) where
  vlans : RefTable (ℕ × ℕ)
  drv : σ
  calls : List TagCall

variable {σ : Type*}

/-- Call the driver, and note the call. -/
def callTag (op : DrvOp) (port vid : ℕ) (f : σ → ℤ × σ) (s : σ × List TagCall) :
    ℤ × σ × List TagCall :=
  let a := f s.1
  (a.1, a.2, s.2 ++ [⟨op, port, vid, a.1⟩])

/-- Pass on to the driver. -/
def Ctx.direct (st : Ctx σ) (op : DrvOp) (port vid : ℕ) (f : σ → ℤ × σ) : ℤ × Ctx σ :=
  let a := callTag op port vid f (st.drv, st.calls)
  (a.1, { st with drv := a.2.1, calls := a.2.2 })

/-- `dsa_port_do_tag_8021q_vlan_add`. -/
def dsaPortDoTag8021qVlanAdd (vlanAdd : ℕ → ℕ → ℕ → σ → ℤ × σ) (vid flags : ℕ) (mem : Bool)
    (dp : Fabric.DsaPort) (st : Ctx σ) : ℤ × Ctx σ :=
  let port := dp.id.index
  if dp.shared then
    let a := st.vlans.acquire (port, vid) mem ENOMEM (callTag .add port vid (vlanAdd port vid flags))
      (st.drv, st.calls)
    (a.1, ⟨a.2.1, a.2.2.1, a.2.2.2⟩)
  else st.direct .add port vid (vlanAdd port vid flags)

/-- `dsa_port_do_tag_8021q_vlan_del`. If the driver refuses, the counter that has just become zero is
incremented. -/
def dsaPortDoTag8021qVlanDel (vlanDel : ℕ → ℕ → σ → ℤ × σ) (vid : ℕ) (dp : Fabric.DsaPort) (st : Ctx σ) :
    ℤ × Ctx σ :=
  let port := dp.id.index
  if dp.shared then
    match st.vlans.find (port, vid) with
    | none => (-ENOENT, st)
    | some v =>
        let d := refcountDecAndTest v.refcount
        let vlans := st.vlans.setCount (port, vid) d.2
        if d.1 then
          let a := callTag .del port vid (vlanDel port vid) (st.drv, st.calls)
          if a.1 ≠ 0 then (a.1, ⟨vlans.setCount (port, vid) (refcountInc d.2), a.2.1, a.2.2⟩)
          else (0, ⟨vlans.remove (port, vid), a.2.1, a.2.2⟩)
        else (0, { st with vlans := vlans })
  else st.direct .del port vid (vlanDel port vid)

/-- `dsa_port_tag_8021q_vlan_match`. -/
def dsaPortTag8021qVlanMatch (targeted : PortId) (dp : Fabric.DsaPort) : Bool :=
  dp.type = .dsa ∨ dp.type = .cpu ∨ dp.id = targeted

/-- The loop over the ports of a switch, up to the first error. -/
def forEachTagPort (targeted : PortId) (op : Fabric.DsaPort → Ctx σ → ℤ × Ctx σ) :
    List Fabric.DsaPort → Ctx σ → ℤ × Ctx σ
  | [], st => (0, st)
  | dp :: dps, st =>
      if dsaPortTag8021qVlanMatch targeted dp then
        let a := op dp st
        if a.1 ≠ 0 then a else forEachTagPort targeted op dps a.2
      else forEachTagPort targeted op dps st

/-- `dsa_switch_tag_8021q_vlan_add`, of a switch that uses these VLANs. -/
def dsaSwitchTag8021qVlanAdd (ports : List Fabric.DsaPort) (vlanAdd : Option (ℕ → ℕ → ℕ → σ → ℤ × σ))
    (mem : ℕ → Bool) (targeted : PortId) (vid : ℕ) (st : Ctx σ) : ℤ × Ctx σ :=
  match vlanAdd with
  | none => (0, st)
  | some f =>
      forEachTagPort targeted (fun dp =>
        let flags := if dp.type = .user then BRIDGE_VLAN_INFO_UNTAGGED ||| BRIDGE_VLAN_INFO_PVID else 0
        dsaPortDoTag8021qVlanAdd f vid flags (mem dp.id.index) dp) ports st

/-- `dsa_switch_tag_8021q_vlan_del`. -/
def dsaSwitchTag8021qVlanDel (ports : List Fabric.DsaPort) (vlanDel : Option (ℕ → ℕ → σ → ℤ × σ))
    (targeted : PortId) (vid : ℕ) (st : Ctx σ) : ℤ × Ctx σ :=
  match vlanDel with
  | none => (0, st)
  | some f => forEachTagPort targeted (dsaPortDoTag8021qVlanDel f vid) ports st

/-! ### Refused deletes -/

/-- The references of a VLAN on a port. -/
def Ctx.refs (st : Ctx σ) (port vid : ℕ) : ℕ∞ := st.vlans.refs (port, vid)

/-- The driver refused to delete the VLAN from a shared port. -/
def Refused (shared : ℕ → Bool) (c : TagCall) : Prop :=
  c.op = .del ∧ c.rc ≠ 0 ∧ shared c.port = true

/-- After a refused delete the VLAN has a saturated counter, and the driver is not asked for it again. -/
structure Pinned (shared : ℕ → Bool) (st : Ctx σ) : Prop where
  wellFormed : st.vlans.WellFormed
  saturated : ∀ c ∈ st.calls, Refused shared c → st.refs c.port c.vid = ⊤
  silent : st.calls.Pairwise fun c c' => Refused shared c → (c'.port, c'.vid) ≠ (c.port, c.vid)

section Pinned

variable {shared : ℕ → Bool} {st : Ctx σ} {port vid : ℕ} {f : σ → ℤ × σ} {dp : Fabric.DsaPort}

theorem pinned_fresh (s : σ) : Pinned shared (⟨[], s, []⟩ : Ctx σ) :=
  ⟨RefTable.wellFormed_nil, by simp, .nil⟩

/-- Counting up or down leaves a saturated counter saturated. -/
theorem Pinned.of_refs (h : Pinned shared st) {vlans : RefTable (ℕ × ℕ)} (hwf : vlans.WellFormed)
    {n : ℕ∞} (hrefs : vlans.refs = Function.update st.vlans.refs (port, vid) n)
    (hn : st.refs port vid = ⊤ → n = ⊤) : Pinned shared { st with vlans := vlans } where
  wellFormed := hwf
  saturated c hc hr := by
    have hold := h.saturated c hc hr
    by_cases heq : (c.port, c.vid) = (port, vid)
    · obtain ⟨hp, hv⟩ := Prod.mk.inj heq
      subst hp hv
      simp only [Ctx.refs, hrefs, Function.update_self]
      exact hn hold
    · simp only [Ctx.refs, hrefs, Function.update_of_ne heq]
      exact hold
  silent := h.silent

/-- A call for a VLAN whose counter is not saturated. -/
theorem Pinned.of_call (h : Pinned shared st) {vlans : RefTable (ℕ × ℕ)} (hwf : vlans.WellFormed)
    {n : ℕ∞} (hrefs : vlans.refs = Function.update st.vlans.refs (port, vid) n)
    (hcold : st.refs port vid ≠ ⊤) {op : DrvOp} {rc : ℤ} (hn : op = .del → rc ≠ 0 → n = ⊤) (s : σ) :
    Pinned shared ⟨vlans, s, st.calls ++ [⟨op, port, vid, rc⟩]⟩ := by
  have hne : ∀ c ∈ st.calls, Refused shared c → (port, vid) ≠ (c.port, c.vid) := by
    intro c hc hr heq
    obtain ⟨hp, hv⟩ := Prod.mk.inj heq
    subst hp hv
    exact hcold (h.saturated c hc hr)
  refine ⟨hwf, fun c hc hr => ?_, ?_⟩
  · rcases List.mem_append.mp hc with hc | hc
    · simp only [Ctx.refs, hrefs, Function.update_of_ne (hne c hc hr).symm]
      exact h.saturated c hc hr
    · rw [List.mem_singleton.mp hc] at hr ⊢
      simp only [Ctx.refs, hrefs, Function.update_self]
      exact hn hr.1 hr.2.1
  · refine List.pairwise_append.mpr ⟨h.silent, List.pairwise_singleton _ _, fun c hc c' hc' hr => ?_⟩
    rw [List.mem_singleton.mp hc']
    exact hne c hc hr

/-- A call for a user port. -/
theorem Pinned.direct (h : Pinned shared st) (hport : shared port = false) (op : DrvOp) (vid : ℕ)
    (f : σ → ℤ × σ) : Pinned shared (st.direct op port vid f).2 := by
  have hne : ∀ c : TagCall, Refused shared c → (port, vid) ≠ (c.port, c.vid) := by
    intro c hr heq
    rw [(Prod.mk.inj heq).1, hr.2.2] at hport
    cases hport
  refine ⟨h.wellFormed, fun c hc hr => ?_, ?_⟩
  · rcases List.mem_append.mp hc with hc | hc
    · exact h.saturated c hc hr
    · rw [List.mem_singleton.mp hc] at hr
      exact absurd rfl (hne _ hr)
  · refine List.pairwise_append.mpr ⟨h.silent, List.pairwise_singleton _ _, fun c _ c' hc' hr => ?_⟩
    rw [List.mem_singleton.mp hc']
    exact hne c hr

theorem Pinned.vlanAdd (h : Pinned shared st) (hdp : shared dp.id.index = dp.shared)
    (vlanAdd : ℕ → ℕ → ℕ → σ → ℤ × σ) (vid flags : ℕ) (mem : Bool) :
    Pinned shared (dsaPortDoTag8021qVlanAdd vlanAdd vid flags mem dp st).2 := by
  simp only [dsaPortDoTag8021qVlanAdd]
  split
  · rcases h.wellFormed.acquire_cases (dp.id.index, vid) mem ENOMEM
        (callTag .add dp.id.index vid (vlanAdd dp.id.index vid flags)) (st.drv, st.calls) with
      ⟨-, l', heq, hwf, hrefs⟩ | ⟨-, -, heq⟩ | ⟨hz, -, -, heq⟩ | ⟨hz, -, -, l', heq, hwf, hrefs⟩
    · rw [heq]
      refine h.of_refs hwf hrefs fun htop => ?_
      rw [← Ctx.refs, htop, oneMore_top]
    · rw [heq]
      exact h
    · rw [heq]
      refine h.of_call h.wellFormed (Function.update_eq_self _ _).symm ?_ (fun hop => ?_) _
      · rw [Ctx.refs, hz]
        exact ENat.zero_ne_top
      · cases hop
    · rw [heq]
      refine h.of_call hwf hrefs ?_ (fun hop => ?_) _
      · rw [Ctx.refs, hz]
        exact ENat.zero_ne_top
      · cases hop
  · rename_i hs
    exact h.direct (hdp.trans (Bool.eq_false_iff.mpr hs)) _ _ _

theorem Pinned.vlanDel (h : Pinned shared st) (hdp : shared dp.id.index = dp.shared)
    (vlanDel : ℕ → ℕ → σ → ℤ × σ) (vid : ℕ) :
    Pinned shared (dsaPortDoTag8021qVlanDel vlanDel vid dp st).2 := by
  simp only [dsaPortDoTag8021qVlanDel]
  split
  · cases hf : st.vlans.find (dp.id.index, vid) with
    | none => exact h
    | some v =>
        have hsome : st.vlans.find (dp.id.index, vid) ≠ none := by
          rw [hf]
          exact Option.some_ne_none v
        have hlive := h.wellFormed.live v (RefTable.find_eq_some hf).1
        have hv := RefTable.refs_of_find_some hf
        by_cases hone : v.refcount = 1
        · have hcold : st.refs dp.id.index vid ≠ ⊤ := by
            rw [Ctx.refs, hv, hone, refcountRefs_one]
            exact ENat.one_ne_top
          simp only [hone, refcountDecAndTest, if_true]
          split
          · -- the counter is incremented from zero
            rw [RefTable.setCount_setCount]
            refine h.of_call (h.wellFormed.setCount .saturated) (RefTable.refs_setCount hsome) hcold
              (fun _ _ => ?_) _
            exact refcountRefs_saturated
          · rename_i hrc
            rw [RefTable.remove_setCount]
            exact h.of_call h.wellFormed.remove h.wellFormed.refs_remove hcold
              (fun _ h0 => absurd h0 hrc) _
        · obtain ⟨hlast, hlive', hrefs⟩ := hlive.dec hone
          simp only [hlast, Bool.false_eq_true, if_false]
          refine h.of_refs (h.wellFormed.setCount hlive') (RefTable.refs_setCount hsome) fun htop => ?_
          rw [hrefs, ← hv, ← Ctx.refs, htop]
          rfl
  · rename_i hs
    exact h.direct (hdp.trans (Bool.eq_false_iff.mpr hs)) _ _ _

theorem Pinned.forEachTagPort {targeted : PortId} {op : Fabric.DsaPort → Ctx σ → ℤ × Ctx σ}
    {dps : List Fabric.DsaPort} (h : Pinned shared st)
    (hop : ∀ dp ∈ dps, ∀ st, Pinned shared st → Pinned shared (op dp st).2) :
    Pinned shared (forEachTagPort targeted op dps st).2 := by
  induction dps generalizing st with
  | nil => exact h
  | cons dp dps ih =>
      have hrest := fun q hq => hop q (List.mem_cons_of_mem dp hq)
      simp only [Tag8021q.forEachTagPort]
      split
      · split
        · exact hop dp List.mem_cons_self st h
        · exact ih (hop dp List.mem_cons_self st h) hrest
      · exact ih h hrest

end Pinned

/-- Notifications about a VLAN that reach a switch. -/
inductive TagEvent
  | add (targeted : PortId) (vid : ℕ) (mem : ℕ → Bool)
  | del (targeted : PortId) (vid : ℕ)

/-- The switch `ds` of a tree with the two operations of its driver. -/
def tagMachine (dst : DsaTree) (ds : ℕ) (vlanAdd : Option (ℕ → ℕ → ℕ → σ → ℤ × σ))
    (vlanDel : Option (ℕ → ℕ → σ → ℤ × σ)) : Machine (Ctx σ) TagEvent Empty where
  enabled _ _ := True
  exec st
    | .add targeted vid mem =>
        .ok (dsaSwitchTag8021qVlanAdd (dst.portsOf ds) vlanAdd mem targeted vid st).2
    | .del targeted vid => .ok (dsaSwitchTag8021qVlanDel (dst.portsOf ds) vlanDel targeted vid st).2

/-- Port `p` of switch `ds` is shared. -/
def sharedOf (dst : DsaTree) (ds p : ℕ) : Bool := ((dsaToPort dst ds p).map Fabric.DsaPort.shared).getD false

theorem sharedOf_eq {dst : DsaTree} {ds : ℕ} {dp : Fabric.DsaPort} (h : dp ∈ dst.portsOf ds) :
    sharedOf dst ds dp.id.index = dp.shared := by
  obtain ⟨hmem, hds⟩ := List.mem_filter.mp h
  have hds := of_decide_eq_true hds
  have hfind : dsaToPort dst ds dp.id.index = some dp := by
    rw [dsaToPort]
    cases hf : dst.ports.find? fun q => q.id = ⟨ds, dp.id.index⟩ with
    | none =>
        have hnone := List.find?_eq_none.mp hf dp hmem
        refine absurd ?_ hnone
        rw [decide_eq_true_iff, ← hds]
    | some q =>
        have hq : q.id = ⟨ds, dp.id.index⟩ := by simpa using List.find?_some hf
        refine congrArg some (List.inj_on_of_nodup_map dst.unique (List.mem_of_find?_eq_some hf) hmem ?_)
        rw [hq, ← hds]
  rw [sharedOf, hfind]
  rfl

/-- **A refused delete is for ever.** Once the driver has refused to delete a VLAN from a shared port,
the VLAN keeps a saturated counter whatever is added and deleted later, and the driver is never asked
for it again. -/
theorem tag8021q_refused_delete_pins {dst : DsaTree} {ds : ℕ}
    {vlanAdd : Option (ℕ → ℕ → ℕ → σ → ℤ × σ)} {vlanDel : Option (ℕ → ℕ → σ → ℤ × σ)} {s : σ}
    {es : List TagEvent} {st : Ctx σ}
    (hr : (tagMachine dst ds vlanAdd vlanDel).Run ⟨[], s, []⟩ es st) :
    (∀ c ∈ st.calls, Refused (sharedOf dst ds) c → st.refs c.port c.vid = ⊤) ∧
      st.calls.Pairwise fun c c' =>
        Refused (sharedOf dst ds) c → (c'.port, c'.vid) ≠ (c.port, c.vid) := by
  suffices Pinned (sharedOf dst ds) st from ⟨this.saturated, this.silent⟩
  refine hr.invariant (pinned_fresh s) fun {t e u} ht _ hex => ?_
  cases e with
  | add targeted vid mem =>
      cases hex
      simp only [dsaSwitchTag8021qVlanAdd]
      split
      · exact ht
      · exact ht.forEachTagPort fun dp hdp st hst => hst.vlanAdd (sharedOf_eq hdp) _ _ _ _
  | del targeted vid =>
      cases hex
      simp only [dsaSwitchTag8021qVlanDel]
      split
      · exact ht
      · exact ht.forEachTagPort fun dp hdp st hst => hst.vlanDel (sharedOf_eq hdp) _ _

/-- A switch with a user port and a CPU port. -/
def tagTree : DsaTree where
  switches := [0]
  numPorts _ := 2
  ports := [⟨⟨0, 0⟩, .user, some ⟨0, 1⟩, false, none⟩, ⟨⟨0, 1⟩, .cpu, none, false, none⟩]
  rtable := []
  unique := by simp

theorem tag8021q_refused_delete_pins_tagTree :
    ∃ st, (tagMachine tagTree 0 (some fun _ _ _ s => (0, s))
          (some fun port _ s => (if port = 1 then -5 else 0, s))).Run ⟨[], (), []⟩
        [.add ⟨0, 0⟩ 3072 fun _ => true, .del ⟨0, 0⟩ 3072, .del ⟨0, 0⟩ 3072] st ∧
      st.calls.length = 5 ∧ st.refs 1 3072 = ⊤ := by
  have hr : (tagMachine tagTree 0 (some fun _ _ _ s => (0, s))
      (some fun port _ s => (if port = 1 then -5 else 0, s))).Run ⟨[], (), []⟩
        [.add ⟨0, 0⟩ 3072 fun _ => true, .del ⟨0, 0⟩ 3072, .del ⟨0, 0⟩ 3072] _ :=
    .cons trivial rfl (.cons trivial rfl (.cons trivial rfl .nil))
  refine ⟨_, hr, rfl, (tag8021q_refused_delete_pins hr).1 ⟨.del, 1, 3072, -5⟩ ?_ ⟨rfl, ?_, rfl⟩⟩
  · decide
  · decide

end Axm57104.Dsa.Tag8021q
