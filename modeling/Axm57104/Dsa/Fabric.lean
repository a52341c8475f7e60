import Axm57104.Common.Ledger
import Axm57104.Common.RefCount
import Axm57104.Dsa.TagAsix
import Axm57104.Dsa.Vlan

/-!
# The cross-chip notifiers of a switch fabric

Forwarding database entries, multicast entries and VLANs are added to and deleted from the ports of a
tree of switches by notifications that visit the switches one after the other (`switch.c`). A CPU port
or a link between switches carries the objects of many user ports, so such a shared port keeps a list
of counted objects and asks the driver only for the first add and the last delete of each.

`State` is the state that a notification changes: those lists, the state of the drivers, and the calls
that were made to them. The drivers are arbitrary functions on a state of their own, so they may refuse
any call. Whether an allocation succeeds is decided by `mem`, by port. `none` stands for the access
through a null pointer: a switch without a route to another one, a LAG that is gone, an operation that
the driver does not have.
-/

namespace Axm57104.Dsa.Fabric

open Common

@[simp] abbrev ENOENT : ℤ := 2
@[simp] abbrev ENOMEM : ℤ := 12
@[simp] abbrev EOPNOTSUPP : ℤ := 95

/-! ## The tree -/

/-- A port, by the index of its switch and its own. -/
structure PortId where
  ds : ℕ
  index : ℕ
  deriving DecidableEq, Repr

/-- `struct dsa_port`. `lag` is the bond device of its LAG. -/
structure DsaPort where
  id : PortId
  type : DsaPortType
  cpuDp : Option PortId
  cpuPortInLag : Bool
  lag : Option ℕ
  deriving DecidableEq, Repr

/-- CPU ports and the links between switches. -/
def DsaPort.shared (dp : DsaPort) : Bool := dp.type = .cpu ∨ dp.type = .dsa

/-- `struct dsa_switch_tree`: the switches in the order of the notifier chain, the ports and the routing
table, whose links are pairs of a port and the port it leads to. -/
structure DsaTree where
  switches : List ℕ
  numPorts : ℕ → ℕ
  ports : List DsaPort
  rtable : List (PortId × PortId)
  unique : (ports.map DsaPort.id).Nodup

section Tree

variable (dst : DsaTree)

/-- `dsa_to_port`. -/
def dsaToPort (ds p : ℕ) : Option DsaPort := dst.ports.find? fun dp => dp.id = ⟨ds, p⟩

/-- `dsa_routing_port`. -/
def dsaRoutingPort (ds device : ℕ) : ℕ :=
  match dst.rtable.find? fun dl => dl.1.ds = ds ∧ dl.2.ds = device with
  | some dl => dl.1.index
  | none => dst.numPorts ds

/-- `dsa_towards_port`. -/
def dsaTowardsPort (ds device port : ℕ) : ℕ :=
  if device = ds then port else dsaRoutingPort dst ds device

/-- `dsa_upstream_port`. -/
def dsaUpstreamPort (ds port : ℕ) : Option ℕ :=
  (dsaToPort dst ds port).map fun dp =>
    match dp.cpuDp with
    | none => port
    | some cpuDp => dsaTowardsPort dst ds cpuDp.ds cpuDp.index

/-- `dsa_is_upstream_port`. -/
def dsaIsUpstreamPort (ds port : ℕ) : Option Bool :=
  (dsaToPort dst ds port).bind fun dp =>
    if dp.type = .unused then some false
    else (dsaUpstreamPort dst ds port).map fun up => port = up

/-- `dsa_switch_is_upstream_of`. -/
def dsaSwitchIsUpstreamOf (upstream downstream : ℕ) : Option Bool :=
  if upstream = downstream then some true
  else dsaIsUpstreamPort dst downstream (dsaRoutingPort dst downstream upstream)

/-- `dsa_port_host_address_match`. -/
def dsaPortHostAddressMatch (targeted dp : DsaPort) : Option Bool :=
  (dsaSwitchIsUpstreamOf dst dp.id.ds targeted.id.ds).bind fun up =>
    if up then
      targeted.cpuDp.map fun cpuDp =>
        dp.id.index = dsaTowardsPort dst dp.id.ds cpuDp.ds cpuDp.index
    else some false

/-- `dsa_port_vlan_match`. -/
def dsaPortVlanMatch (targeted dp : DsaPort) : Bool := dp.type = .dsa ∨ dp.id = targeted.id

/-- `dsa_port_host_vlan_match`. -/
def dsaPortHostVlanMatch (targeted dp : DsaPort) : Option Bool :=
  (dsaSwitchIsUpstreamOf dst dp.id.ds targeted.id.ds).map fun up =>
    up && decide (dp.type = .dsa ∨ some dp.id = targeted.cpuDp)

/-- The ports of `dsa_switch_for_each_port`. -/
def DsaTree.portsOf (ds : ℕ) : List DsaPort := dst.ports.filter fun dp => dp.id.ds = ds

end Tree

/-! ## Objects -/

/-- An Ethernet address. -/
abbrev MacAddr := Vector UInt8 6

/-- `struct dsa_db`. -/
inductive DsaDb
  | port (dp : PortId)
  | lag (dev : ℕ)
  | bridge (dev num : ℕ)
  deriving DecidableEq, Repr

/-- What `dsa_db_equal` compares. -/
inductive DbKey
  | port (dp : PortId)
  | lag (dev : ℕ)
  | bridge (num : ℕ)
  deriving DecidableEq, Repr

def DsaDb.key : DsaDb → DbKey
  | port dp => .port dp
  | lag dev => .lag dev
  | bridge _ num => .bridge num

/-- `dsa_db_equal`. -/
def dsaDbEqual (a b : DsaDb) : Bool := a.key = b.key

/-- `struct switchdev_obj_port_vlan`. `changed` marks a VLAN of which only the flags changed. -/
structure PortVlan extends SwitchdevVlan where
  changed : Bool
  deriving DecidableEq, Repr

/-- The lists of counted objects: those of a port, and the addresses of a LAG. -/
inductive ObjList
  | fdbs (dp : PortId)
  | mdbs (dp : PortId)
  | vlans (dp : PortId)
  | lagFdbs (lag : ℕ)
  deriving DecidableEq, Repr

/-- What the entries of a list are told apart by: `dsa_mac_addr_find` and `dsa_vlan_find`. -/
inductive ObjKey
  | mac (addr : MacAddr) (vid : ℕ) (db : DbKey)
  | vlan (vid : ℕ)
  deriving DecidableEq

/-- An object of a list. -/
structure Obj where
  list : ObjList
  key : ObjKey
  deriving DecidableEq

/-! ## Drivers -/

inductive DrvOp
  | add
  | del
  deriving DecidableEq, Repr

/-- A call that was made to the driver of switch `ds`, with what it returned. -/
structure DrvCall where
  ds : ℕ
  op : DrvOp
  obj : Obj
  rc : ℤ
  deriving DecidableEq

/-- The operations of `struct dsa_switch_ops` that change forwarding entries, multicast entries and
VLANs. A driver need not have all of them. -/
structure DsaSwitchOps (σ : Type*) where
  portFdbAdd : Option (ℕ → MacAddr → ℕ → DsaDb → σ → ℤ × σ)
  portFdbDel : Option (ℕ → MacAddr → ℕ → DsaDb → σ → ℤ × σ)
  lagFdbAdd : Option (ℕ → MacAddr → ℕ → DsaDb → σ → ℤ × σ)
  lagFdbDel : Option (ℕ → MacAddr → ℕ → DsaDb → σ → ℤ × σ)
  portMdbAdd : Option (ℕ → MacAddr → ℕ → DsaDb → σ → ℤ × σ)
  portMdbDel : Option (ℕ → MacAddr → ℕ → DsaDb → σ → ℤ × σ)
  portVlanAdd : Option (ℕ → PortVlan → σ → ℤ × σ)
  portVlanDel : Option (ℕ → PortVlan → σ → ℤ × σ)

/-- The lists of all ports and LAGs, the state of the drivers and the calls made to them. -/
structure State (σ : Type*) where
  lists : ObjList → RefTable ObjKey
  drv : σ
  calls : List DrvCall

variable {σ : Type*}

/-- Call the driver, and note the call. -/
def callDriver (ds : ℕ) (op : DrvOp) (obj : Obj) (f : σ → ℤ × σ) (s : σ × List DrvCall) :
    ℤ × σ × List DrvCall :=
  let a := f s.1
  (a.1, a.2, s.2 ++ [⟨ds, op, obj, a.1⟩])

namespace State

/-- Pass on to the driver. -/
def direct (st : State σ) (ds : ℕ) (op : DrvOp) (obj : Obj) (f : σ → ℤ × σ) : ℤ × State σ :=
  let a := callDriver ds op obj f (st.drv, st.calls)
  (a.1, { st with drv := a.2.1, calls := a.2.2 })

/-- An add that is counted. -/
def acquire (st : State σ) (ds : ℕ) (obj : Obj) (mem : Bool) (f : σ → ℤ × σ) : ℤ × State σ :=
  let a := (st.lists obj.list).acquire obj.key mem ENOMEM (callDriver ds .add obj f)
    (st.drv, st.calls)
  (a.1, ⟨Function.update st.lists obj.list a.2.1, a.2.2.1, a.2.2.2⟩)

/-- A delete that is counted. -/
def release (st : State σ) (ds : ℕ) (obj : Obj) (f : σ → ℤ × σ) : ℤ × State σ :=
  let a := (st.lists obj.list).release obj.key ENOENT (callDriver ds .del obj f) (st.drv, st.calls)
  (a.1, ⟨Function.update st.lists obj.list a.2.1, a.2.2.1, a.2.2.2⟩)

end State

/-! ## Objects of one port -/

/-- The common part of the adds: user ports are not counted. -/
def dsaPortDoAdd (dp : DsaPort) (obj : Obj) (mem : Bool) (f : σ → ℤ × σ) (st : State σ) :
    ℤ × State σ :=
  if dp.shared then st.acquire dp.id.ds obj mem f else st.direct dp.id.ds .add obj f

/-- The common part of the deletes. -/
def dsaPortDoDel (dp : DsaPort) (obj : Obj) (f : σ → ℤ × σ) (st : State σ) : ℤ × State σ :=
  if dp.shared then st.release dp.id.ds obj f else st.direct dp.id.ds .del obj f

/-- `dsa_port_do_mdb_add`. -/
def dsaPortDoMdbAdd (portMdbAdd : ℕ → MacAddr → ℕ → DsaDb → σ → ℤ × σ) (addr : MacAddr) (vid : ℕ)
    (db : DsaDb) (mem : Bool) (dp : DsaPort) : State σ → ℤ × State σ :=
  dsaPortDoAdd dp ⟨.mdbs dp.id, .mac addr vid db.key⟩ mem (portMdbAdd dp.id.index addr vid db)

/-- `dsa_port_do_mdb_del`. -/
def dsaPortDoMdbDel (portMdbDel : ℕ → MacAddr → ℕ → DsaDb → σ → ℤ × σ) (addr : MacAddr) (vid : ℕ)
    (db : DsaDb) (dp : DsaPort) : State σ → ℤ × State σ :=
  dsaPortDoDel dp ⟨.mdbs dp.id, .mac addr vid db.key⟩ (portMdbDel dp.id.index addr vid db)

/-- `dsa_port_do_fdb_add`. -/
def dsaPortDoFdbAdd (portFdbAdd : ℕ → MacAddr → ℕ → DsaDb → σ → ℤ × σ) (addr : MacAddr) (vid : ℕ)
    (db : DsaDb) (mem : Bool) (dp : DsaPort) : State σ → ℤ × State σ :=
  dsaPortDoAdd dp ⟨.fdbs dp.id, .mac addr vid db.key⟩ mem (portFdbAdd dp.id.index addr vid db)

/-- `dsa_port_do_fdb_del`. -/
def dsaPortDoFdbDel (portFdbDel : ℕ → MacAddr → ℕ → DsaDb → σ → ℤ × σ) (addr : MacAddr) (vid : ℕ)
    (db : DsaDb) (dp : DsaPort) : State σ → ℤ × State σ :=
  dsaPortDoDel dp ⟨.fdbs dp.id, .mac addr vid db.key⟩ (portFdbDel dp.id.index addr vid db)

/-- `dsa_port_do_vlan_add`. A VLAN of which only the flags changed is not counted again. -/
def dsaPortDoVlanAdd (portVlanAdd : ℕ → PortVlan → σ → ℤ × σ) (vlan : PortVlan) (mem : Bool)
    (dp : DsaPort) (st : State σ) : ℤ × State σ :=
  if dp.shared ∧ vlan.changed then (0, st)
  else dsaPortDoAdd dp ⟨.vlans dp.id, .vlan vlan.vid⟩ mem (portVlanAdd dp.id.index vlan) st

/-- `dsa_port_do_vlan_del`. -/
def dsaPortDoVlanDel (portVlanDel : ℕ → PortVlan → σ → ℤ × σ) (vlan : PortVlan) (dp : DsaPort) :
    State σ → ℤ × State σ :=
  dsaPortDoDel dp ⟨.vlans dp.id, .vlan vlan.vid⟩ (portVlanDel dp.id.index vlan)

/-- `dsa_switch_do_lag_fdb_add`. A driver without the operation is not asked for it as long as the
address is known, or there is no memory for a new one. -/
def dsaSwitchDoLagFdbAdd (lagFdbAdd : Option (ℕ → MacAddr → ℕ → DsaDb → σ → ℤ × σ)) (ds lag : ℕ)
    (addr : MacAddr) (vid : ℕ) (db : DsaDb) (mem : Bool) (st : State σ) : Option (ℤ × State σ) :=
  let obj : Obj := ⟨.lagFdbs lag, .mac addr vid db.key⟩
  match lagFdbAdd with
  | some f => some (st.acquire ds obj mem (f lag addr vid db))
  | none =>
      if (st.lists obj.list).find obj.key = none ∧ mem then none
      else some (st.acquire ds obj mem fun s => (0, s))

/-- `dsa_switch_do_lag_fdb_del`. -/
def dsaSwitchDoLagFdbDel (lagFdbDel : Option (ℕ → MacAddr → ℕ → DsaDb → σ → ℤ × σ)) (ds lag : ℕ)
    (addr : MacAddr) (vid : ℕ) (db : DsaDb) (st : State σ) : Option (ℤ × State σ) :=
  let obj : Obj := ⟨.lagFdbs lag, .mac addr vid db.key⟩
  match lagFdbDel with
  | some f => some (st.release ds obj (f lag addr vid db))
  | none =>
      if ((st.lists obj.list).find obj.key).map Counted.refcount = some 1 then none
      else some (st.release ds obj fun s => (0, s))

/-! ## One switch -/

/-- Do something to the ports that match, up to the first error. -/
def forEachPort (isMatch : DsaPort → Option Bool) (op : DsaPort → State σ → Option (ℤ × State σ)) :
    List DsaPort → State σ → Option (ℤ × State σ)
  | [], st => some (0, st)
  | dp :: dps, st =>
      (isMatch dp).bind fun hit =>
        if hit then
          (op dp st).bind fun a => if a.1 ≠ 0 then some a else forEachPort isMatch op dps a.2
        else forEachPort isMatch op dps st

section Switch

variable (dst : DsaTree) (ops : DsaSwitchOps σ) (mem : PortId → Bool) (ds : ℕ)

/-- The port of this switch that leads to the targeted one. -/
def towardsTarget (targeted : DsaPort) : Option DsaPort :=
  dsaToPort dst ds (dsaTowardsPort dst ds targeted.id.ds targeted.id.index)

/-- `dsa_switch_host_fdb_add`. -/
def dsaSwitchHostFdbAdd (dp : DsaPort) (addr : MacAddr) (vid : ℕ) (db : DsaDb) (st : State σ) :
    Option (ℤ × State σ) :=
  match ops.portFdbAdd with
  | none => some (-EOPNOTSUPP, st)
  | some portFdbAdd =>
      forEachPort (dsaPortHostAddressMatch dst dp) (fun p st =>
        if p.type = .cpu ∧ dp.cpuPortInLag then
          p.lag.bind fun lag =>
            dsaSwitchDoLagFdbAdd ops.lagFdbAdd ds lag addr vid db (mem p.id) st
        else some (dsaPortDoFdbAdd portFdbAdd addr vid db (mem p.id) p st)) (dst.portsOf ds) st

/-- `dsa_switch_host_fdb_del`. -/
def dsaSwitchHostFdbDel (dp : DsaPort) (addr : MacAddr) (vid : ℕ) (db : DsaDb) (st : State σ) :
    Option (ℤ × State σ) :=
  match ops.portFdbDel with
  | none => some (-EOPNOTSUPP, st)
  | some portFdbDel =>
      forEachPort (dsaPortHostAddressMatch dst dp) (fun p st =>
        if p.type = .cpu ∧ dp.cpuPortInLag then
          p.lag.bind fun lag => dsaSwitchDoLagFdbDel ops.lagFdbDel ds lag addr vid db st
        else some (dsaPortDoFdbDel portFdbDel addr vid db p st)) (dst.portsOf ds) st

/-- `dsa_switch_fdb_add`. -/
def dsaSwitchFdbAdd (dp : DsaPort) (addr : MacAddr) (vid : ℕ) (db : DsaDb) (st : State σ) :
    Option (ℤ × State σ) :=
  match ops.portFdbAdd with
  | none => some (-EOPNOTSUPP, st)
  | some portFdbAdd =>
      (towardsTarget dst ds dp).map fun p => dsaPortDoFdbAdd portFdbAdd addr vid db (mem p.id) p st

/-- `dsa_switch_fdb_del`. -/
def dsaSwitchFdbDel (dp : DsaPort) (addr : MacAddr) (vid : ℕ) (db : DsaDb) (st : State σ) :
    Option (ℤ × State σ) :=
  match ops.portFdbDel with
  | none => some (-EOPNOTSUPP, st)
  | some portFdbDel =>
      (towardsTarget dst ds dp).map fun p => dsaPortDoFdbDel portFdbDel addr vid db p st

/-- The first port of the switch that is in the LAG, as `dsa_port_offloads_lag` tells. -/
def lagMember (lag : ℕ) : Option DsaPort := (dst.portsOf ds).find? fun p => p.lag = some lag

/-- `dsa_switch_lag_fdb_add`. -/
def dsaSwitchLagFdbAdd (lag : ℕ) (addr : MacAddr) (vid : ℕ) (db : DsaDb) (st : State σ) :
    Option (ℤ × State σ) :=
  match ops.lagFdbAdd with
  | none => some (-EOPNOTSUPP, st)
  | some lagFdbAdd =>
      match lagMember dst ds lag with
      | some p => dsaSwitchDoLagFdbAdd (some lagFdbAdd) ds lag addr vid db (mem p.id) st
      | none => some (0, st)

/-- `dsa_switch_lag_fdb_del`. -/
def dsaSwitchLagFdbDel (lag : ℕ) (addr : MacAddr) (vid : ℕ) (db : DsaDb) (st : State σ) :
    Option (ℤ × State σ) :=
  match ops.lagFdbDel with
  | none => some (-EOPNOTSUPP, st)
  | some lagFdbDel =>
      match lagMember dst ds lag with
      | some _ => dsaSwitchDoLagFdbDel (some lagFdbDel) ds lag addr vid db st
      | none => some (0, st)

/-- `dsa_switch_mdb_add`. -/
def dsaSwitchMdbAdd (dp : DsaPort) (addr : MacAddr) (vid : ℕ) (db : DsaDb) (st : State σ) :
    Option (ℤ × State σ) :=
  match ops.portMdbAdd with
  | none => some (-EOPNOTSUPP, st)
  | some portMdbAdd =>
      (towardsTarget dst ds dp).map fun p => dsaPortDoMdbAdd portMdbAdd addr vid db (mem p.id) p st

/-- `dsa_switch_mdb_del`. -/
def dsaSwitchMdbDel (dp : DsaPort) (addr : MacAddr) (vid : ℕ) (db : DsaDb) (st : State σ) :
    Option (ℤ × State σ) :=
  match ops.portMdbDel with
  | none => some (-EOPNOTSUPP, st)
  | some portMdbDel =>
      (towardsTarget dst ds dp).map fun p => dsaPortDoMdbDel portMdbDel addr vid db p st

/-- `dsa_switch_host_mdb_add`. -/
def dsaSwitchHostMdbAdd (dp : DsaPort) (addr : MacAddr) (vid : ℕ) (db : DsaDb) (st : State σ) :
    Option (ℤ × State σ) :=
  match ops.portMdbAdd with
  | none => some (-EOPNOTSUPP, st)
  | some portMdbAdd =>
      forEachPort (dsaPortHostAddressMatch dst dp)
        (fun p st => some (dsaPortDoMdbAdd portMdbAdd addr vid db (mem p.id) p st))
        (dst.portsOf ds) st

/-- `dsa_switch_host_mdb_del`. -/
def dsaSwitchHostMdbDel (dp : DsaPort) (addr : MacAddr) (vid : ℕ) (db : DsaDb) (st : State σ) :
    Option (ℤ × State σ) :=
  match ops.portMdbDel with
  | none => some (-EOPNOTSUPP, st)
  | some portMdbDel =>
      forEachPort (dsaPortHostAddressMatch dst dp)
        (fun p st => some (dsaPortDoMdbDel portMdbDel addr vid db p st)) (dst.portsOf ds) st

/-- `dsa_switch_vlan_add`. -/
def dsaSwitchVlanAdd (dp : DsaPort) (vlan : PortVlan) (st : State σ) : Option (ℤ × State σ) :=
  match ops.portVlanAdd with
  | none => some (-EOPNOTSUPP, st)
  | some portVlanAdd =>
      forEachPort (fun p => some (dsaPortVlanMatch dp p))
        (fun p st => some (dsaPortDoVlanAdd portVlanAdd vlan (mem p.id) p st)) (dst.portsOf ds) st

/-- `dsa_switch_vlan_del`. -/
def dsaSwitchVlanDel (dp : DsaPort) (vlan : PortVlan) (st : State σ) : Option (ℤ × State σ) :=
  match ops.portVlanDel with
  | none => some (-EOPNOTSUPP, st)
  | some portVlanDel =>
      forEachPort (fun p => some (dsaPortVlanMatch dp p))
        (fun p st => some (dsaPortDoVlanDel portVlanDel vlan p st)) (dst.portsOf ds) st

/-- `dsa_switch_host_vlan_add`. -/
def dsaSwitchHostVlanAdd (dp : DsaPort) (vlan : PortVlan) (st : State σ) : Option (ℤ × State σ) :=
  match ops.portVlanAdd with
  | none => some (-EOPNOTSUPP, st)
  | some portVlanAdd =>
      forEachPort (dsaPortHostVlanMatch dst dp)
        (fun p st => some (dsaPortDoVlanAdd portVlanAdd vlan (mem p.id) p st)) (dst.portsOf ds) st

/-- `dsa_switch_host_vlan_del`. -/
def dsaSwitchHostVlanDel (dp : DsaPort) (vlan : PortVlan) (st : State σ) : Option (ℤ × State σ) :=
  match ops.portVlanDel with
  | none => some (-EOPNOTSUPP, st)
  | some portVlanDel =>
      forEachPort (dsaPortHostVlanMatch dst dp)
        (fun p st => some (dsaPortDoVlanDel portVlanDel vlan p st)) (dst.portsOf ds) st

end Switch

/-! ## The chain of switches -/

/-- The notifications about objects, with the targeted port: `DSA_NOTIFIER_FDB_ADD` and so on. -/
inductive Notification
  | fdbAdd (dp : DsaPort) (addr : MacAddr) (vid : ℕ) (db : DsaDb)
  | fdbDel (dp : DsaPort) (addr : MacAddr) (vid : ℕ) (db : DsaDb)
  | hostFdbAdd (dp : DsaPort) (addr : MacAddr) (vid : ℕ) (db : DsaDb)
  | hostFdbDel (dp : DsaPort) (addr : MacAddr) (vid : ℕ) (db : DsaDb)
  | lagFdbAdd (lag : ℕ) (addr : MacAddr) (vid : ℕ) (db : DsaDb)
  | lagFdbDel (lag : ℕ) (addr : MacAddr) (vid : ℕ) (db : DsaDb)
  | mdbAdd (dp : DsaPort) (addr : MacAddr) (vid : ℕ) (db : DsaDb)
  | mdbDel (dp : DsaPort) (addr : MacAddr) (vid : ℕ) (db : DsaDb)
  | hostMdbAdd (dp : DsaPort) (addr : MacAddr) (vid : ℕ) (db : DsaDb)
  | hostMdbDel (dp : DsaPort) (addr : MacAddr) (vid : ℕ) (db : DsaDb)
  | vlanAdd (dp : DsaPort) (vlan : PortVlan)
  | vlanDel (dp : DsaPort) (vlan : PortVlan)
  | hostVlanAdd (dp : DsaPort) (vlan : PortVlan)
  | hostVlanDel (dp : DsaPort) (vlan : PortVlan)

/-- `dsa_switch_event`, for these notifications. -/
def dsaSwitchEvent (dst : DsaTree) (ops : DsaSwitchOps σ) (mem : PortId → Bool) (ds : ℕ) :
    Notification → State σ → Option (ℤ × State σ)
  | .fdbAdd dp addr vid db => dsaSwitchFdbAdd dst ops mem ds dp addr vid db
  | .fdbDel dp addr vid db => dsaSwitchFdbDel dst ops ds dp addr vid db
  | .hostFdbAdd dp addr vid db => dsaSwitchHostFdbAdd dst ops mem ds dp addr vid db
  | .hostFdbDel dp addr vid db => dsaSwitchHostFdbDel dst ops ds dp addr vid db
  | .lagFdbAdd lag addr vid db => dsaSwitchLagFdbAdd dst ops mem ds lag addr vid db
  | .lagFdbDel lag addr vid db => dsaSwitchLagFdbDel dst ops ds lag addr vid db
  | .mdbAdd dp addr vid db => dsaSwitchMdbAdd dst ops mem ds dp addr vid db
  | .mdbDel dp addr vid db => dsaSwitchMdbDel dst ops ds dp addr vid db
  | .hostMdbAdd dp addr vid db => dsaSwitchHostMdbAdd dst ops mem ds dp addr vid db
  | .hostMdbDel dp addr vid db => dsaSwitchHostMdbDel dst ops ds dp addr vid db
  | .vlanAdd dp vlan => dsaSwitchVlanAdd dst ops mem ds dp vlan
  | .vlanDel dp vlan => dsaSwitchVlanDel dst ops ds dp vlan
  | .hostVlanAdd dp vlan => dsaSwitchHostVlanAdd dst ops mem ds dp vlan
  | .hostVlanDel dp vlan => dsaSwitchHostVlanDel dst ops ds dp vlan

/-- Tell the switches one after the other, up to the first error. An answer is zero or a negative
errno: a positive one would stop the chain, but `notifier_to_errno` would make it zero. -/
def notifyChain (event : ℕ → State σ → Option (ℤ × State σ)) :
    List ℕ → State σ → Option (ℤ × State σ)
  | [], st => some (0, st)
  | ds :: chain, st =>
      (event ds st).bind fun a => if a.1 ≠ 0 then some a else notifyChain event chain a.2

/-- `dsa_tree_notify`. Each switch has a driver of its own. -/
def dsaTreeNotify (dst : DsaTree) (ops : ℕ → DsaSwitchOps σ) (mem : PortId → Bool)
    (n : Notification) (st : State σ) : Option (ℤ × State σ) :=
  notifyChain (fun ds => dsaSwitchEvent dst (ops ds) mem ds n) dst.switches st

end Axm57104.Dsa.Fabric
