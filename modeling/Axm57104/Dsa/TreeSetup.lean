import Axm57104.Common.Calls
import Axm57104.Common.Notifier
import Axm57104.Dsa.Fabric

/-!
# Registering switches and setting up their tree

A switch that registers is parsed and adds its ports to a tree. When the links of all DSA ports of the
tree lead to ports of the tree, the tree is set up: its switches, its ports, its conduits and its LAG
table, in this order. What was set up is torn down again when a later stage fails, and when a switch of
the tree unregisters (`dsa2.c`, `conduit.c`).

Every call of the set up that takes something and every call that gives it back is booked in a ledger, and
so is every link of the routing table. Calls that may fail are answered by the environment. Three paths are
marked, on which the ledger does not come out even:
* `dsa_switch_setup` does not disconnect the tagger when the MDIO bus cannot be allocated or registered,
  and keeps the pointer to a bus that it has freed;
* `dsa_tree_setup` does not tear down the conduits that were set up before the one that failed, and the
  one that failed still points to its CPU port;
* `dsa_tree_teardown_lags` keeps the pointer to the table it has freed, and `dsa_tree_setup_lags` returns
  early when no switch has LAGs.

A fourth one loses the links: only `dsa_tree_teardown` frees them, when the tree is set up, and not
`dsa_tree_free`. The links that are lost so are kept in `lostLinks`. The reference to a conduit that
`dsa_port_parse_of` finds by its node is not in the ledger; it is never given back.
-/

namespace Axm57104.Dsa.TreeSetup

open Common
open Fabric (PortId)

@[simp] abbrev ENOMEM : ℤ := 12
@[simp] abbrev EEXIST : ℤ := 17
@[simp] abbrev EINVAL : ℤ := 22
@[simp] abbrev ENOPROTOOPT : ℤ := 92
@[simp] abbrev EPROBE_DEFER : ℤ := 517

/-! ## The state -/

/-- What is taken by a switch, by a port, by a conduit and by the tree. -/
inductive Res
  | devlink (ds : ℕ)
  | notifier (ds : ℕ)
  | driver (ds : ℕ)
  | tagger (ds : ℕ)
  | miiBus (ds : ℕ)
  | miiReg (ds : ℕ)
  | devlinkReg (ds : ℕ)
  | portDevlink (dp : PortId)
  | link (dp : PortId)
  | enabled (dp : PortId)
  | user (dp : PortId)
  | promisc (dev : ℕ)
  | ethtool (dev : ℕ)
  | sysfs (dev : ℕ)
  | lags
  | dsaLink (dl : ℕ)
  deriving DecidableEq, Repr

/-- The paths on which something is left behind. -/
inductive Mark
  | mii (ds : ℕ)
  | conduit
  | lags
  deriving DecidableEq, Repr

/-- `struct dsa_port`. A port is identified by its switch, which need not be the index of the switch, and
its own index. `addr` is the address of the object, `dn` its device node. -/
structure Port where
  addr : ℕ
  type : DsaPortType
  dn : Option ℕ
  conduit : ℕ
  cpuDp : Option PortId
  user : Bool
  setup : Bool
  deriving DecidableEq, Repr

/-- What `dsa_port_touch` allocates. -/
def Port.fresh (addr : ℕ) : Port := ⟨addr, .unused, none, 0, none, false, false⟩

/-- `struct dsa_link`. It has the addresses of its ports, which may have been freed; `id` tells it from all
other links. -/
structure Link where
  id : ℕ
  dp : ℕ
  linkDp : ℕ
  deriving DecidableEq, Repr

/-- `struct dsa_switch`. -/
structure Switch where
  userMiiBus : Bool
  setup : Bool
  deriving DecidableEq, Repr

/-- What is fixed: the operations of the drivers and of the taggers, the device tree, and which conduits
have to be promiscuous. A tagger has `connect` and `disconnect`, or none of them. `preferred` is what
`preferred_default_local_cpu_port` returns. -/
structure Config where
  index : ℕ → ℕ
  numPorts : ℕ → ℕ
  numLagIds : ℕ → ℕ
  teardown : ℕ → Bool
  phyRead : ℕ → Bool
  changeTagProtocol : ℕ → Bool
  connectTagProtocol : ℕ → Bool
  preferred : ℕ → Option PortId
  connects : ℕ → Bool
  proto : ℕ → ℕ
  links : ℕ → List ℕ
  promisc : ℕ → Bool

/-- `struct dsa_switch_tree`, with the ports and switches it refers to, `dsa_ptr` of every conduit, and
the references to the modules of the taggers. A tree without a reference does not exist. `members` are
the switches whose registration succeeded, `linkCount` the number of links allocated so far, and
`lostLinks` those that `dsa_tree_free` did not free. -/
structure Tree where
  refcount : ℕ
  members : List ℕ
  ports : List PortId
  port : PortId → Port
  sw : ℕ → Switch
  rtable : List Link
  linkCount : ℕ
  lostLinks : List ℕ
  tagOps : Option ℕ
  tagRefs : ℕ → ℕ
  defaultProto : ℕ
  setup : Bool
  lags : Bool
  dsaPtr : ℕ → Option PortId
  marks : List Mark
  io : Calls Res

/-- Before the first registration. -/
def Tree.init : Tree where
  refcount := 0
  members := []
  ports := []
  port := fun _ => .fresh 0
  sw := fun _ => ⟨false, false⟩
  rtable := []
  linkCount := 0
  lostLinks := []
  tagOps := none
  tagRefs := fun _ => 0
  defaultProto := 0
  setup := false
  lags := false
  dsaPtr := fun _ => none
  marks := []
  io := ⟨.ok ∅, []⟩

/-! ## Ports -/

/-- What the `switch` statement of `dsa_port_setup` leaves. -/
structure PortUp where
  err : ℤ
  registered : Bool
  enabled : Bool
  user : Bool
  io : Calls Res

/-- `dsa_port_setup`, a CPU port or a DSA port. -/
def sharedPortUp (p : PortId) (dp : Port) (io : Calls Res) : PortUp :=
  let l := io.tryTakeIf dp.dn.isSome (.link p)
  if l.1 ≠ 0 then ⟨l.1, false, false, dp.user, l.2⟩
  else
    let e := l.2.tryTake (.enabled p)
    if e.1 ≠ 0 then ⟨e.1, dp.dn.isSome, false, dp.user, e.2⟩
    else ⟨0, dp.dn.isSome, true, dp.user, e.2⟩

/-- The `switch` statement of `dsa_port_setup`. An unused port is disabled, which takes nothing. -/
def portUp (p : PortId) (dp : Port) (io : Calls Res) : PortUp :=
  match dp.type with
  | .unused => ⟨0, false, false, dp.user, io⟩
  | .cpu => sharedPortUp p dp io
  | .dsa => sharedPortUp p dp io
  | .user =>
      let u := io.tryTake (.user p)
      if u.1 ≠ 0 then ⟨u.1, false, false, false, u.2⟩ else ⟨0, false, false, true, u.2⟩

/-- The end of `dsa_port_setup` after an error. -/
def portUndo (p : PortId) (u : PortUp) : Calls Res :=
  let io := u.io.giveIf u.enabled (.enabled p)
  let io := io.giveIf u.registered (.link p)
  io.give (.portDevlink p)

/-- `dsa_port_setup`. -/
def dsaPortSetup (p : PortId) (t : Tree) : ℤ × Tree :=
  if (t.port p).setup then (0, t)
  else
    let d := t.io.tryTake (.portDevlink p)
    if d.1 ≠ 0 then (d.1, { t with io := d.2 })
    else
      let u := portUp p (t.port p) d.2
      if u.err ≠ 0 then
        (u.err, { t with
          port := Function.update t.port p { t.port p with user := u.user }
          io := portUndo p u })
      else
        (0, { t with
          port := Function.update t.port p { t.port p with user := u.user, setup := true }
          io := u.io })

/-- The `switch` statement of `dsa_port_teardown`. -/
def portDown (p : PortId) (dp : Port) (io : Calls Res) : Calls Res :=
  match dp.type with
  | .unused => io
  | .cpu | .dsa =>
      (io.give (.enabled p)).giveIf dp.dn.isSome (.link p)
  | .user => io.giveIf dp.user (.user p)

/-- `dsa_port_teardown`. -/
def dsaPortTeardown (p : PortId) (t : Tree) : Tree :=
  if (t.port p).setup then
    { t with
      port := Function.update t.port p
        { t.port p with user := (t.port p).user && (t.port p).type ≠ .user, setup := false }
      io := (portDown p (t.port p) t.io).give (.portDevlink p) }
  else t

/-- `dsa_port_setup_as_unused`. -/
def dsaPortSetupAsUnused (p : PortId) (t : Tree) : ℤ × Tree :=
  dsaPortSetup p { t with port := Function.update t.port p { t.port p with type := .unused } }

/-- `dsa_port_is_dsa(dp) || dsa_port_is_cpu(dp)`. -/
def Port.shared (dp : Port) : Bool := dp.type = .dsa ∨ dp.type = .cpu

/-- `dsa_port_is_user(dp) || dsa_port_is_dsa(dp)`: the ports that get a CPU port. -/
def Port.client (dp : Port) : Bool := dp.type = .user ∨ dp.type = .dsa

/-- A loop of `dsa_tree_teardown_ports`: first over the ports that are not shared, then over the others. -/
def teardownLoop (shared : Bool) (t : Tree) : Tree :=
  t.ports.foldl (fun t p => if (t.port p).shared = shared then dsaPortTeardown p t else t) t

/-- `dsa_tree_teardown_ports`. -/
def dsaTreeTeardownPorts (t : Tree) : Tree := teardownLoop true (teardownLoop false t)

/-- The first loop of `dsa_tree_setup_ports`. -/
def setupShared (p : PortId) (t : Tree) : ℤ × Tree :=
  if (t.port p).shared then dsaPortSetup p t else (0, t)

/-- The second loop of `dsa_tree_setup_ports`. -/
def setupUnshared (p : PortId) (t : Tree) : ℤ × Tree :=
  if (t.port p).shared then (0, t)
  else
    let s := dsaPortSetup p t
    if s.1 ≠ 0 then dsaPortSetupAsUnused p s.2 else (0, s.2)

/-- `dsa_tree_setup_ports`. -/
def dsaTreeSetupPorts (t : Tree) : ℤ × Tree :=
  let s := notifyChain setupShared t.ports t
  if s.1 ≠ 0 then (s.1, dsaTreeTeardownPorts s.2)
  else
    let u := notifyChain setupUnshared s.2.ports s.2
    if u.1 ≠ 0 then (u.1, dsaTreeTeardownPorts u.2) else (0, u.2)

section Model

variable (cfg : Config)

/-! ## Switches -/

/-- `dsa_switch_setup_tag_protocol`. -/
def dsaSwitchSetupTagProtocol (tagOps defaultProto ds : ℕ) (io : Calls Res) : ℤ × Calls Res :=
  let c := io.askIf (cfg.proto tagOps ≠ defaultProto)
  if c.1 ≠ 0 then c
  else
    let k := c.2.tryTakeIf (cfg.connects tagOps) (.tagger ds)
    if k.1 ≠ 0 then k
    else
      let d := k.2.askIf (cfg.connectTagProtocol ds)
      if d.1 ≠ 0 then (d.1, d.2.giveIf (cfg.connects tagOps) (.tagger ds)) else (0, d.2)

/-- `dsa_switch_teardown_tag_protocol`. -/
def dsaSwitchTeardownTagProtocol (tagOps ds : ℕ) (io : Calls Res) : Calls Res :=
  io.giveIf (cfg.connects tagOps) (.tagger ds)

/-- From the label `teardown` of `dsa_switch_setup` on. -/
def switchUndo (ds : ℕ) (io : Calls Res) : Calls Res :=
  ((io.giveIf (cfg.teardown ds) (.driver ds)).give (.notifier ds)).give (.devlink ds)

/-- The MDIO bus of `dsa_switch_setup`: the error, `ds->user_mii_bus` and the calls. -/
def setupMiiBus (ds : ℕ) (sw : Switch) (io : Calls Res) : ℤ × Bool × Calls Res :=
  if sw.userMiiBus = false ∧ cfg.phyRead ds then
    let m := io.ask
    if m.1 ≠ 0 then (-ENOMEM, false, m.2)
    else
      let r := (m.2.take (.miiBus ds)).ask
      if r.1 < 0 then (r.1, true, r.2.give (.miiBus ds)) else (0, true, r.2.take (.miiReg ds))
  else (0, sw.userMiiBus, io)

/-- `dsa_switch_setup`. -/
def dsaSwitchSetup (ds : ℕ) (t : Tree) : ℤ × Tree :=
  if (t.sw ds).setup then (0, t)
  else
    let a := t.io.tryTake (.devlink ds)
    if a.1 ≠ 0 then (a.1, { t with io := a.2 })
    else
      let n := a.2.tryTake (.notifier ds)
      if n.1 ≠ 0 then (n.1, { t with io := n.2.give (.devlink ds) })
      else
        let d := n.2.ask
        if d.1 < 0 then (d.1, { t with io := (d.2.give (.notifier ds)).give (.devlink ds) })
        else
          let io := d.2.takeIf (cfg.teardown ds) (.driver ds)
          let g := dsaSwitchSetupTagProtocol cfg (t.tagOps.getD 0) t.defaultProto ds io
          if g.1 ≠ 0 then (g.1, { t with io := switchUndo cfg ds g.2 })
          else
            let b := setupMiiBus cfg ds (t.sw ds) g.2
            if b.1 ≠ 0 then
              (b.1, { t with
                sw := Function.update t.sw ds ⟨b.2.1, false⟩
                io := switchUndo cfg ds b.2.2
                marks := t.marks ++ [.mii ds] })
            else
              (0, { t with
                sw := Function.update t.sw ds ⟨b.2.1, true⟩
                io := b.2.2.take (.devlinkReg ds) })

/-- `dsa_switch_teardown`. -/
def dsaSwitchTeardown (ds : ℕ) (t : Tree) : Tree :=
  if (t.sw ds).setup then
    let io := t.io.give (.devlinkReg ds)
    let bus := (t.sw ds).userMiiBus && cfg.phyRead ds
    let io := (io.giveIf bus (.miiReg ds)).giveIf bus (.miiBus ds)
    let io := dsaSwitchTeardownTagProtocol cfg (t.tagOps.getD 0) ds io
    { t with
      sw := Function.update t.sw ds ⟨(t.sw ds).userMiiBus && !bus, false⟩
      io := switchUndo cfg ds io }
  else t

/-- `dsa_tree_teardown_switches`. -/
def dsaTreeTeardownSwitches (t : Tree) : Tree :=
  t.ports.foldl (fun t p => dsaSwitchTeardown cfg p.ds t) t

/-- `dsa_tree_setup_switches`. -/
def dsaTreeSetupSwitches (t : Tree) : ℤ × Tree :=
  let s := notifyChain (fun p : PortId => dsaSwitchSetup cfg p.ds) t.ports t
  if s.1 ≠ 0 then (s.1, dsaTreeTeardownSwitches cfg s.2) else s

/-! ## Conduits and LAGs -/

/-- `dsa_conduit_setup`. -/
def dsaConduitSetup (dev : ℕ) (p : PortId) (t : Tree) : ℤ × Tree :=
  let t := { t with dsaPtr := Function.update t.dsaPtr dev (some p) }
  let io := t.io.takeIf (cfg.promisc dev) (.promisc dev)
  let e := io.tryTake (.ethtool dev)
  if e.1 ≠ 0 then (e.1, { t with io := e.2.giveIf (cfg.promisc dev) (.promisc dev) })
  else
    let g := e.2.tryTake (.sysfs dev)
    if g.1 ≠ 0 then
      (g.1, { t with io := (g.2.give (.ethtool dev)).giveIf (cfg.promisc dev) (.promisc dev) })
    else (0, { t with io := g.2 })

/-- `dsa_conduit_teardown`. -/
def dsaConduitTeardown (dev : ℕ) (t : Tree) : Tree :=
  { t with
    dsaPtr := Function.update t.dsaPtr dev none
    io := ((t.io.give (.sysfs dev)).give (.ethtool dev)).giveIf (cfg.promisc dev) (.promisc dev) }

/-- One round of `dsa_tree_setup_conduit`. -/
def setupConduit (p : PortId) (t : Tree) : ℤ × Tree :=
  if (t.port p).type = .cpu then dsaConduitSetup cfg (t.port p).conduit p t else (0, t)

/-- `dsa_tree_setup_conduit`. -/
def dsaTreeSetupConduit (t : Tree) : ℤ × Tree := notifyChain (setupConduit cfg) t.ports t

/-- `dsa_tree_teardown_conduit`. -/
def dsaTreeTeardownConduit (t : Tree) : Tree :=
  t.ports.foldl
    (fun t p => if (t.port p).type = .cpu then dsaConduitTeardown cfg (t.port p).conduit t else t) t

/-- `dsa_tree_setup_lags`. -/
def dsaTreeSetupLags (t : Tree) : ℤ × Tree :=
  let len := t.ports.foldl (fun len p => if cfg.numLagIds p.ds > len then cfg.numLagIds p.ds else len) 0
  if len = 0 then (0, if t.lags then { t with marks := t.marks ++ [.lags] } else t)
  else
    let a := t.io.ask
    if a.1 ≠ 0 then (-ENOMEM, { t with lags := false, io := a.2 })
    else (0, { t with lags := true, io := a.2.take .lags })

/-- `dsa_tree_teardown_lags`. -/
def dsaTreeTeardownLags (t : Tree) : Tree := { t with io := t.io.giveIf t.lags .lags }

/-! ## The routing table and the CPU ports -/

/-- `dsa_tree_find_port_by_node`. -/
def dsaTreeFindPortByNode (t : Tree) (dn : ℕ) : Option PortId :=
  t.ports.find? fun p => (t.port p).dn = some dn

/-- `dsa_link_touch`. -/
def dsaLinkTouch (p link : PortId) (t : Tree) : Bool × Tree :=
  let dp := (t.port p).addr
  let linkDp := (t.port link).addr
  if ∃ dl ∈ t.rtable, dl.dp = dp ∧ dl.linkDp = linkDp then (true, t)
  else
    let a := t.io.tryTake (.dsaLink t.linkCount)
    if a.1 ≠ 0 then (false, { t with io := a.2 })
    else
      (true, { t with
        rtable := t.rtable ++ [⟨t.linkCount, dp, linkDp⟩]
        linkCount := t.linkCount + 1
        io := a.2 })

/-- The loop of `dsa_port_setup_routing_table` over the nodes that the property `link` names. -/
def setupLinks (p : PortId) : List ℕ → Tree → Bool × Tree
  | [], t => (true, t)
  | dn :: dns, t =>
      match dsaTreeFindPortByNode t dn with
      | none => (false, t)
      | some link =>
          let l := dsaLinkTouch p link t
          if l.1 then setupLinks p dns l.2 else l

/-- `dsa_port_setup_routing_table`. -/
def dsaPortSetupRoutingTable (p : PortId) (t : Tree) : Bool × Tree :=
  setupLinks p ((t.port p).dn.elim [] cfg.links) t

/-- `dsa_tree_setup_routing_table`, over the rest of the ports. -/
def setupRoutes : List PortId → Tree → Bool × Tree
  | [], t => (true, t)
  | p :: ps, t =>
      if (t.port p).type = .dsa then
        let r := dsaPortSetupRoutingTable cfg p t
        if r.1 then setupRoutes ps r.2 else r
      else setupRoutes ps t

/-- `dsa_tree_setup_routing_table`. -/
def dsaTreeSetupRoutingTable (t : Tree) : Bool × Tree := setupRoutes cfg t.ports t

/-- `dsa_tree_find_first_cpu`. -/
def dsaTreeFindFirstCpu (t : Tree) : Option PortId := t.ports.find? fun p => (t.port p).type = .cpu

/-- A port gets a CPU port, if it is of the kind that has one and has none yet. -/
def assignCpu (cpuDp : PortId) (t : Tree) (p : PortId) : Tree :=
  if (t.port p).cpuDp.isSome then t
  else if (t.port p).client then
    { t with port := Function.update t.port p { t.port p with cpuDp := some cpuDp } }
  else t

/-- `dsa_tree_setup_default_cpu`. -/
def dsaTreeSetupDefaultCpu (t : Tree) : ℤ × Tree :=
  match dsaTreeFindFirstCpu t with
  | none => (-EINVAL, t)
  | some cpuDp => (0, t.ports.foldl (assignCpu cpuDp) t)

/-- `dsa_switch_preferred_default_local_cpu_port`. -/
def dsaSwitchPreferredDefaultLocalCpuPort (t : Tree) (ds : ℕ) : Option PortId :=
  (cfg.preferred ds).filter fun c => (t.port c).type = .cpu ∧ c.ds = ds

/-- One round of `dsa_tree_setup_cpu_ports`. -/
def setupLocalCpu (t : Tree) (cpuDp : PortId) : Tree :=
  if (t.port cpuDp).type ≠ .cpu then t
  else if ∃ c ∈ dsaSwitchPreferredDefaultLocalCpuPort cfg t cpuDp.ds, c ≠ cpuDp then t
  else (t.ports.filter fun p => p.ds = cpuDp.ds).foldl (assignCpu cpuDp) t

/-- `dsa_tree_setup_cpu_ports`. -/
def dsaTreeSetupCpuPorts (t : Tree) : ℤ × Tree :=
  dsaTreeSetupDefaultCpu (t.ports.foldl (setupLocalCpu cfg) t)

/-- `dsa_tree_teardown_cpu_ports`. -/
def dsaTreeTeardownCpuPorts (t : Tree) : Tree :=
  t.ports.foldl (fun t p =>
    if (t.port p).client then
      { t with port := Function.update t.port p { t.port p with cpuDp := none } }
    else t) t

/-! ## The tree -/

/-- `dsa_tree_setup`, from the switches on. -/
def setupStages (t : Tree) : ℤ × Tree :=
  let s := dsaTreeSetupSwitches cfg t
  if s.1 ≠ 0 then (s.1, dsaTreeTeardownCpuPorts s.2)
  else
    let p := dsaTreeSetupPorts s.2
    if p.1 ≠ 0 then (p.1, dsaTreeTeardownCpuPorts (dsaTreeTeardownSwitches cfg p.2))
    else
      let c := dsaTreeSetupConduit cfg p.2
      if c.1 ≠ 0 then
        let t := { c.2 with marks := c.2.marks ++ [.conduit] }
        (c.1, dsaTreeTeardownCpuPorts (dsaTreeTeardownSwitches cfg (dsaTreeTeardownPorts t)))
      else
        let l := dsaTreeSetupLags cfg c.2
        if l.1 ≠ 0 then
          (l.1, dsaTreeTeardownCpuPorts (dsaTreeTeardownSwitches cfg
            (dsaTreeTeardownPorts (dsaTreeTeardownConduit cfg l.2))))
        else (0, { l.2 with setup := true })

/-- `dsa_tree_setup`. -/
def dsaTreeSetup (t : Tree) : ℤ × Tree :=
  if t.setup then (-EEXIST, t)
  else
    let r := dsaTreeSetupRoutingTable cfg t
    if r.1 = false then (0, r.2)
    else
      let c := dsaTreeSetupCpuPorts cfg r.2
      if c.1 ≠ 0 then c
      else
        let d := dsaTreeSetupDefaultCpu c.2
        if d.1 ≠ 0 then d else setupStages cfg d.2

/-- The loop of `dsa_tree_teardown` over the links of the routing table. -/
def freeLinks (t : Tree) : Tree :=
  { t with rtable := [], io := t.rtable.foldl (fun io dl => io.give (.dsaLink dl.id)) t.io }

/-- `dsa_tree_teardown`. -/
def dsaTreeTeardown (t : Tree) : Tree :=
  if t.setup then
    let t := dsaTreeTeardownPorts (dsaTreeTeardownConduit cfg (dsaTreeTeardownLags t))
    { freeLinks (dsaTreeTeardownCpuPorts (dsaTreeTeardownSwitches cfg t)) with setup := false }
  else t

/-! ## Registration -/

/-- `dsa_tree_free`. The links of the routing table are not freed. -/
def dsaTreeFree (t : Tree) : Tree :=
  { t with
    refcount := 0
    rtable := []
    lostLinks := t.lostLinks ++ t.rtable.map Link.id
    tagRefs := t.tagOps.elim t.tagRefs fun g => Function.update t.tagRefs g (t.tagRefs g - 1)
    tagOps := none
    defaultProto := 0
    setup := false
    lags := false }

/-- `dsa_tree_put`. -/
def dsaTreePut (t : Tree) : Tree :=
  if t.refcount ≤ 1 then dsaTreeFree t else { t with refcount := t.refcount - 1 }

/-- `dsa_tree_get`. -/
def dsaTreeGet (t : Tree) : Tree := { t with refcount := t.refcount + 1 }

/-- `dsa_tree_touch`; `none`: the tree could not be allocated. -/
def dsaTreeTouch (t : Tree) : Option Tree :=
  if t.refcount = 0 then
    let a := t.io.ask
    if a.1 ≠ 0 then none else some { t with refcount := 1, io := a.2 }
  else some (dsaTreeGet t)

/-- `dsa_port_touch`. The port gets the address `addr`. -/
def dsaPortTouch (ds : ℕ) (addr : ℕ → ℕ) (index : ℕ) (t : Tree) : ℤ × Tree :=
  if ⟨ds, index⟩ ∈ t.ports then (0, t)
  else
    let a := t.io.ask
    if a.1 ≠ 0 then (-ENOMEM, { t with io := a.2 })
    else
      (0, { t with
        ports := t.ports ++ [⟨ds, index⟩]
        port := Function.update t.port ⟨ds, index⟩ (.fresh (addr index))
        io := a.2 })

/-- `dsa_switch_touch_ports`. -/
def dsaSwitchTouchPorts (ds : ℕ) (addr : ℕ → ℕ) (t : Tree) : ℤ × Tree :=
  notifyChain (dsaPortTouch ds addr) (List.range (cfg.numPorts ds)) t

/-- What is said about a port: for a CPU port the conduit, if it is there yet, the protocol that the
driver prefers, the tagger found for the protocol that the user asks for, and the tagger found for the
preferred one. -/
inductive Desc
  | cpu (conduit : Option ℕ) (proto : ℕ) (userProtocol : Option (Option ℕ)) (byId : Except ℤ ℕ)
  | dsa
  | user
  deriving DecidableEq, Repr

/-- A port in the device tree or in the platform data. -/
structure PortDesc where
  index : ℕ
  dn : Option ℕ
  desc : Desc
  deriving DecidableEq, Repr

/-- `dsa_tag_driver_get_by_name` and `dsa_tag_driver_get_by_id` as `dsa_port_parse_cpu` calls them. -/
def findTagger (userProtocol : Option (Option ℕ)) (byId : Except ℤ ℕ) : Except ℤ ℕ :=
  match userProtocol.join with
  | some g => .ok g
  | none => byId

/-- The choice of the tagger of the tree in `dsa_port_parse_cpu`. -/
def setTagOps (g : ℕ) (t : Tree) : ℤ × Tree :=
  let t := { t with tagRefs := Function.update t.tagRefs g (t.tagRefs g + 1) }
  let put := { t with tagRefs := Function.update t.tagRefs g (t.tagRefs g - 1) }
  match t.tagOps with
  | some g' => if g' ≠ g then (-EINVAL, put) else (0, put)
  | none => (0, { t with tagOps := some g })

/-- `dsa_port_parse_cpu`. -/
def dsaPortParseCpu (p : PortId) (conduit proto : ℕ) (userProtocol : Option (Option ℕ))
    (byId : Except ℤ ℕ) (t : Tree) : ℤ × Tree :=
  if t.defaultProto ≠ 0 ∧ t.defaultProto ≠ proto then (-EINVAL, t)
  else
    let t := { t with defaultProto := proto }
    if userProtocol.isSome ∧ cfg.changeTagProtocol p.ds = false then (-EINVAL, t)
    else
      match findTagger userProtocol byId with
      | .error e => (if e = -ENOPROTOOPT then -EPROBE_DEFER else e, t)
      | .ok g =>
          let s := setTagOps g t
          if s.1 ≠ 0 then s
          else
            (0, { s.2 with
              port := Function.update s.2.port p { s.2.port p with type := .cpu, conduit := conduit } })

/-- `dsa_port_parse_of`, `dsa_port_parse`. -/
def dsaPortParse (p : PortId) (d : PortDesc) (t : Tree) : ℤ × Tree :=
  let t := { t with port := Function.update t.port p { t.port p with dn := d.dn } }
  match d.desc with
  | .cpu none _ _ _ => (-EPROBE_DEFER, t)
  | .cpu (some conduit) proto userProtocol byId =>
      dsaPortParseCpu cfg p conduit proto userProtocol byId t
  | .dsa => (0, { t with port := Function.update t.port p { t.port p with type := .dsa } })
  | .user => (0, { t with port := Function.update t.port p { t.port p with type := .user } })

/-- One round of `dsa_switch_parse_ports_of`, `dsa_switch_parse_ports`. -/
def parsePort (ds : ℕ) (d : PortDesc) (t : Tree) : ℤ × Tree :=
  if d.index < cfg.numPorts ds then dsaPortParse cfg ⟨ds, d.index⟩ d t else (-EINVAL, t)

/-- A call of `dsa_register_switch`: the switch, whether it has a device node, whether the property
`dsa,member` can be read, what is said about its ports, and the addresses at which they are allocated. An
address may be that of a port that was freed. -/
structure Reg where
  ds : ℕ
  of : Bool
  member : Bool
  ports : List PortDesc
  addr : ℕ → ℕ
  answers : List ℤ

/-- `dsa_switch_parse_of`, `dsa_switch_parse`, after the tree was found. -/
def dsaSwitchParse (r : Reg) (t : Tree) : ℤ × Tree :=
  if r.of ∧ ∃ p ∈ t.ports, cfg.index p.ds = cfg.index r.ds then (-EEXIST, t)
  else
    let p := dsaSwitchTouchPorts cfg r.ds r.addr t
    if p.1 ≠ 0 then p
    else
      let q := notifyChain (parsePort cfg r.ds) r.ports p.2
      if q.1 ≠ 0 then q else (if r.of = false ∧ r.ports = [] then -EINVAL else 0, q.2)

/-- `dsa_switch_release_ports`. -/
def dsaSwitchReleasePorts (ds : ℕ) (t : Tree) : Tree :=
  { t with ports := t.ports.filter fun p => p.ds ≠ ds }

/-- The access to `ds->dst->ports` while `ds->dst` is not set. -/
inductive Fault
  | nullTree
  deriving DecidableEq, Repr

/-- `dsa_switch_probe` from `dsa_tree_get` on, and `dsa_register_switch` after it. -/
def probeTree (ds : ℕ) (t : Tree) : Tree :=
  let s := dsaTreeSetup cfg (dsaTreeGet t)
  if s.1 ≠ 0 then dsaTreePut (dsaTreePut (dsaSwitchReleasePorts ds s.2))
  else { dsaTreePut s.2 with members := s.2.members ++ [ds] }

/-- `dsa_register_switch`. -/
def dsaRegisterSwitch (r : Reg) (t : Tree) : Except Fault Tree :=
  if cfg.numPorts r.ds = 0 then .ok t
  else if r.of ∧ r.member = false then .error .nullTree
  else
    match dsaTreeTouch { t with io := { t.io with answers := r.answers } } with
    | none => .error .nullTree
    | some t =>
        let p := dsaSwitchParse cfg r t
        .ok (if p.1 ≠ 0 then dsaTreePut (dsaSwitchReleasePorts r.ds p.2) else probeTree cfg r.ds p.2)

/-- `dsa_unregister_switch`. -/
def dsaUnregisterSwitch (ds : ℕ) (t : Tree) : Tree :=
  let t := dsaTreePut (dsaSwitchReleasePorts ds (dsaTreeTeardown cfg t))
  { t with members := t.members.erase ds }

/-- What the drivers call. -/
inductive Event
  | register (r : Reg)
  | unregister (ds : ℕ)

/-- The conduit that a description names. -/
def PortDesc.conduit (d : PortDesc) : Option ℕ :=
  match d.desc with
  | .cpu conduit _ _ _ => conduit
  | _ => none

/-- A switch is registered while it is not registered, and no conduit is wired to two ports. Platform data
names ports that there are. -/
def Enabled (t : Tree) : Event → Prop
  | .register r =>
      r.ds ∉ t.members ∧
        (∀ d ∈ r.ports, ∀ d' ∈ r.ports, d.conduit.isSome → d.conduit = d'.conduit → d.index = d'.index) ∧
        (∀ d ∈ r.ports, ∀ p ∈ t.ports, (t.port p).type = .cpu → d.conduit ≠ some (t.port p).conduit) ∧
        (r.of = false → ∀ d ∈ r.ports, d.index < cfg.numPorts r.ds)
  | .unregister ds => ds ∈ t.members

instance decidableEnabled (t : Tree) : (e : Event) → Decidable (Enabled cfg t e)
  | .register _ => inferInstanceAs (Decidable (_ ∧ _ ∧ _ ∧ _))
  | .unregister ds => inferInstanceAs (Decidable (ds ∈ t.members))

/-- The tree over registrations and unregistrations. -/
def treeMachine : Machine Tree Event Fault where
  enabled := Enabled cfg
  exec t
    | .register r => dsaRegisterSwitch cfg r t
    | .unregister ds => .ok (dsaUnregisterSwitch cfg ds t)

instance (t : Tree) (e : Event) : Decidable ((treeMachine cfg).enabled t e) := decidableEnabled cfg t e

end Model

end Axm57104.Dsa.TreeSetup
