import Mathlib.Data.BitVec
import Axm57104.Common.Groups
import Axm57104.Common.Machine
import Axm57104.Common.Notifier
import Axm57104.Dsa.Fabric

/-!
# Bridges and LAGs above the ports

The ports of a tree that are in the same bridge share one `struct dsa_bridge`, and those in the same LAG
one `struct dsa_lag`; the first port to join allocates it and the last one to leave frees it (`port.c`).
The numbers of the bridges come from a bitmap that all trees share, the numbers of the LAGs from the
table of each tree (`dsa2.c`). Joins and leaves are told to the switches: those of a bridge to the
switches of all trees, those of a LAG to the switches of its tree (`switch.c`).

`State` has the objects, the state of the drivers, which are arbitrary functions, and the calls that were
made to them. What the network stack and the port attributes contribute to a join is its `JoinEnv`.
-/

namespace Axm57104.Dsa.Uppers

open Common
open Fabric (ENOMEM EOPNOTSUPP)

/-! ## Trees, bridges and LAGs -/

/-- A port, by the index of its tree, of its switch and its own. -/
structure PortRef where
  dst : ℕ
  ds : ℕ
  index : ℕ
  deriving DecidableEq, Repr

/-- `dsa_tree_list`, and for each tree its ports and the switches in the order of the notifier chain. -/
structure Fabrics where
  trees : List ℕ
  ports : ℕ → List PortRef
  switches : ℕ → List ℕ
  maxNumBridges : ℕ → ℕ → ℕ
  lagsLen : ℕ → ℕ
  own : ∀ t, ∀ p ∈ ports t, p.dst = t

/-- All ports. -/
def Fabrics.allPorts (fs : Fabrics) : Finset PortRef := (fs.trees.flatMap fs.ports).toFinset

/-- The objects of the bridges. Their pool is the bitmap `dsa_fwd_offloading_bridges`. The tree in which
an object was allocated is part of what it is for. -/
abbrev Bridges := Groups PortRef (ℕ × ℕ) (BitVec 64)

/-- The objects of the LAGs of one tree. Their pool is the array `dst->lags`. -/
abbrev Lags := Groups PortRef ℕ (List (Option ℕ))

/-- A copy of `struct dsa_bridge` or `struct dsa_lag`, as the drivers get it. -/
structure Upper where
  dev : ℕ
  num : ℕ
  txFwdOffload : Bool
  deriving DecidableEq, Repr

/-- The notifications about bridges and LAGs. -/
inductive UpperOp
  | bridgeJoin
  | bridgeLeave
  | lagJoin
  | lagLeave
  | lagChange
  deriving DecidableEq, Repr

/-- A call to the driver of switch `ds` of tree `dst` about `port`, and its answer. -/
structure UpperCall where
  dst : ℕ
  ds : ℕ
  op : UpperOp
  port : PortRef
  upper : Upper
  err : ℤ
  deriving DecidableEq, Repr

/-- The operations of a driver. The cross-chip ones are about ports of other switches. -/
structure DsaSwitchOps (σ : Type*) where
  portBridgeJoin : Option (PortRef → Upper → σ → ℤ × Bool × σ)
  crosschipBridgeJoin : Option (PortRef → Upper → σ → ℤ × σ)
  portBridgeLeave : Option (PortRef → Upper → σ → σ)
  crosschipBridgeLeave : Option (PortRef → Upper → σ → σ)
  portLagJoin : Option (PortRef → Upper → σ → ℤ × σ)
  crosschipLagJoin : Option (PortRef → Upper → σ → ℤ × σ)
  portLagLeave : Option (PortRef → Upper → σ → ℤ × σ)
  crosschipLagLeave : Option (PortRef → Upper → σ → ℤ × σ)
  portLagChange : Option (PortRef → σ → ℤ × σ)
  crosschipLagChange : Option (PortRef → σ → ℤ × σ)

/-- The objects of the bridges and of the LAGs of each tree, the drivers, and the calls to them.
`txFwdOffload` is a field of the bridge at an address. -/
structure State (σ : Type*) where
  bridges : Bridges
  txFwdOffload : ℕ → Bool
  lags : ℕ → Lags
  lagTxEnabled : PortRef → Bool
  drv : σ
  calls : List UpperCall

variable {σ : Type*}

/-! ## Numbers of bridges -/

/-- `find_next_zero_bit` in a word. -/
def findNextZeroBit (bits : BitVec 64) (start : ℕ) : ℕ :=
  ((List.range' start (64 - start)).find? fun i => !bits.getLsbD i).getD 64

/-- `set_bit`. -/
def setBit (n : ℕ) (bits : BitVec 64) : BitVec 64 := bits ||| BitVec.twoPow 64 n

/-- `clear_bit`. -/
def clearBit (n : ℕ) (bits : BitVec 64) : BitVec 64 := bits &&& ~~~ BitVec.twoPow 64 n

/-- `dsa_tree_bridge_find`, the address of the bridge. -/
def dsaTreeBridgeFind (fs : Fabrics) (g : Bridges) (dst br : ℕ) : Option ℕ :=
  ((fs.ports dst).find? fun dp => (g.devOf dp).map Prod.snd = some br).bind g.member

/-- `dsa_bridge_num_find`. -/
def dsaBridgeNumFind (fs : Fabrics) (g : Bridges) (br : ℕ) : ℕ :=
  match fs.trees.findSome? fun dst => dsaTreeBridgeFind fs g dst br with
  | some a => (g.nums a).getD 0
  | none => 0

/-- `dsa_bridge_num_get`, with the bitmap after it. `none` is a write behind the bitmap. -/
def dsaBridgeNumGet (fs : Fabrics) (g : Bridges) (br max : ℕ) : Option (ℕ × BitVec 64) :=
  let bridgeNum := dsaBridgeNumFind fs g br
  if max = 0 then some (0, g.pool)
  else if bridgeNum = 0 then
    let bridgeNum := findNextZeroBit g.pool 1
    if bridgeNum ≥ max then some (0, g.pool)
    else if bridgeNum ≥ 64 then none
    else some (bridgeNum, setBit bridgeNum g.pool)
  else some (bridgeNum, g.pool)

/-- `dsa_bridge_num_put`, as `dsa_port_bridge_destroy` calls it. -/
def dsaBridgeNumPut (_ bridgeNum : ℕ) (bits : BitVec 64) : BitVec 64 :=
  if bridgeNum ≠ 0 then clearBit bridgeNum bits else bits

/-! ## Numbers of LAGs -/

/-- `dsa_lag_map`: the id that the LAG at `a` gets, zero if there is none, and the table after it. -/
def dsaLagMap (lags : List (Option ℕ)) (a : ℕ) : ℕ × List (Option ℕ) :=
  match lags.findIdx? Option.isNone with
  | some i => (i + 1, lags.set i (some a))
  | none => (0, lags)

/-- `dsa_lag_unmap`. -/
def dsaLagUnmap (a _ : ℕ) (lags : List (Option ℕ)) : List (Option ℕ) :=
  match lags.findIdx? fun l => l = some a with
  | some i => lags.set i none
  | none => lags

/-- `dsa_lag_id`. `none` is `-ENODEV`. -/
def dsaLagId (g : Lags) (lagDev : ℕ) : Option ℕ :=
  g.pool.findSome? fun lag => lag.bind fun a => (g.heap a).bind fun b =>
    if b.dev = lagDev then some b.num else none

/-- `dsa_tree_lag_find`, the address of the LAG. -/
def dsaTreeLagFind (fs : Fabrics) (g : Lags) (dst lagDev : ℕ) : Option ℕ :=
  ((fs.ports dst).find? fun dp => g.devOf dp = some lagDev).bind g.member

/-! ## Notifications -/

/-- Remember a call to a driver. -/
def State.called (st : State σ) (c : UpperCall) (drv : σ) : State σ :=
  { st with drv := drv, calls := st.calls ++ [c] }

/-- Call an operation that may fail. -/
def State.callErr (st : State σ) (dst ds : ℕ) (op : UpperOp) (port : PortRef) (u : Upper)
    (f : PortRef → Upper → σ → ℤ × σ) : ℤ × State σ :=
  let r := f port u st.drv
  (r.1, st.called ⟨dst, ds, op, port, u, r.1⟩ r.2)

section Switch

variable (ops : DsaSwitchOps σ) (dst ds : ℕ) (dp : PortRef) (u : Upper)

/-- `dsa_switch_bridge_join`. The flag is `info->tx_fwd_offload`. -/
def dsaSwitchBridgeJoin (a : State σ × Bool) : ℤ × State σ × Bool :=
  if dp.dst = dst ∧ dp.ds = ds then
    match ops.portBridgeJoin with
    | none => (-EOPNOTSUPP, a)
    | some f =>
        let r := f dp u a.1.drv
        (r.1, a.1.called ⟨dst, ds, .bridgeJoin, dp, u, r.1⟩ r.2.2, r.2.1)
  else
    match ops.crosschipBridgeJoin with
    | none => (0, a)
    | some f =>
        let r := a.1.callErr dst ds .bridgeJoin dp u f
        (r.1, r.2, a.2)

/-- `dsa_switch_bridge_leave`. -/
def dsaSwitchBridgeLeave (st : State σ) : ℤ × State σ :=
  let op := if dp.dst = dst ∧ dp.ds = ds then ops.portBridgeLeave else ops.crosschipBridgeLeave
  match op with
  | none => (0, st)
  | some f => (0, st.called ⟨dst, ds, .bridgeLeave, dp, u, 0⟩ (f dp u st.drv))

/-- `dsa_switch_lag_join`. -/
def dsaSwitchLagJoin (st : State σ) : ℤ × State σ :=
  let op := if dp.ds = ds then ops.portLagJoin else ops.crosschipLagJoin
  match op with
  | none => (-EOPNOTSUPP, st)
  | some f => st.callErr dst ds .lagJoin dp u f

/-- `dsa_switch_lag_leave`. -/
def dsaSwitchLagLeave (st : State σ) : ℤ × State σ :=
  let op := if dp.ds = ds then ops.portLagLeave else ops.crosschipLagLeave
  match op with
  | none => (-EOPNOTSUPP, st)
  | some f => st.callErr dst ds .lagLeave dp u f

/-- `dsa_switch_lag_change`. -/
def dsaSwitchLagChange (st : State σ) : ℤ × State σ :=
  let op := if dp.ds = ds then ops.portLagChange else ops.crosschipLagChange
  match op with
  | none => (0, st)
  | some f => st.callErr dst ds .lagChange dp u fun p _ => f p

end Switch

section Port

variable (fs : Fabrics) (ops : ℕ → ℕ → DsaSwitchOps σ)

/-- `dsa_tree_notify`. -/
def dsaTreeNotify {α : Type*} (event : ℕ → ℕ → α → ℤ × α) (dst : ℕ) (a : α) : ℤ × α :=
  notifyChain (event dst) (fs.switches dst) a

/-- `dsa_broadcast`. -/
def dsaBroadcast {α : Type*} (event : ℕ → ℕ → α → ℤ × α) (a : α) : ℤ × α :=
  notifyChain (dsaTreeNotify fs event) fs.trees a

/-- `dsa_broadcast` of a join, with the state of `info->tx_fwd_offload` after it. -/
def broadcastJoin (dp : PortRef) (u : Upper) (st : State σ) : ℤ × State σ × Bool :=
  dsaBroadcast fs (fun dst ds => dsaSwitchBridgeJoin (ops dst ds) dst ds dp u) (st, false)

/-- `dsa_broadcast` of a leave. -/
def broadcastLeave (dp : PortRef) (u : Upper) (st : State σ) : ℤ × State σ :=
  dsaBroadcast fs (fun dst ds => dsaSwitchBridgeLeave (ops dst ds) dst ds dp u) st

/-! ## Joining and leaving a bridge -/

/-- What decides a join besides the drivers: `mst`, the bridge uses MST and the driver does not support
it; `mem`, the allocation succeeds; `offload` and `sync`, the results of `switchdev_bridge_port_offload`
and `dsa_port_switchdev_sync_attrs`. -/
structure JoinEnv where
  mst : Bool
  mem : Bool
  offload : ℤ
  sync : ℤ
  deriving DecidableEq, Repr

/-- The first of the two that fails. The port is also unoffloaded if it is the second. -/
def JoinEnv.err (env : JoinEnv) : ℤ := if env.offload ≠ 0 then env.offload else env.sync

/-- The copy of the bridge at `a`. -/
def State.bridgeCopy (st : State σ) (a : ℕ) (b : GroupObj (ℕ × ℕ)) : Upper :=
  ⟨b.dev.2, b.num, st.txFwdOffload a⟩

/-- `dsa_port_bridge_create`. -/
def dsaPortBridgeCreate (mem : Bool) (dp : PortRef) (br : ℕ) (st : State σ) : Option (ℤ × State σ) :=
  match dsaTreeBridgeFind fs st.bridges dp.dst br with
  | some a =>
      (st.bridges.heap a).map fun b => (0, { st with bridges := st.bridges.join dp a b })
  | none =>
      if !mem then some (-ENOMEM, st)
      else
        let max := fs.maxNumBridges dp.dst dp.ds
        (dsaBridgeNumGet fs st.bridges br max).map fun r =>
          if max ≠ 0 ∧ r.1 = 0 then
            (-EOPNOTSUPP, { st with bridges := { st.bridges with pool := r.2 } })
          else
            (0, { st with
              bridges := st.bridges.start dp (dp.dst, br) r.1 r.2
              txFwdOffload := Function.update st.txFwdOffload st.bridges.next false })

/-- `dsa_port_bridge_destroy`. -/
def dsaPortBridgeDestroy (dp : PortRef) (st : State σ) : Option (State σ) :=
  (st.bridges.member dp).bind fun a =>
    (st.bridges.heap a).map fun b =>
      { st with bridges := st.bridges.leave dsaBridgeNumPut dp a b }

/-- `dsa_port_bridge_join`. -/
def dsaPortBridgeJoin (env : JoinEnv) (dp : PortRef) (br : ℕ) (st : State σ) :
    Option (ℤ × State σ) :=
  if env.mst then some (-EOPNOTSUPP, st)
  else
    (dsaPortBridgeCreate fs env.mem dp br st).bind fun r =>
      if r.1 ≠ 0 then some r
      else
        (r.2.bridges.member dp).bind fun a => (r.2.bridges.heap a).bind fun b =>
          let u := r.2.bridgeCopy a b
          let join := broadcastJoin fs ops dp u r.2
          if join.1 ≠ 0 then (dsaPortBridgeDestroy dp join.2.1).map fun st => (join.1, st)
          else
            let st := { join.2.1 with
              txFwdOffload := Function.update join.2.1.txFwdOffload a join.2.2 }
            if env.err ≠ 0 then
              let leave := broadcastLeave fs ops dp u st
              (dsaPortBridgeDestroy dp leave.2).map fun st => (env.err, st)
            else some (0, st)

/-- `dsa_port_bridge_leave`. -/
def dsaPortBridgeLeave (dp : PortRef) (st : State σ) : Option (State σ) :=
  match st.bridges.member dp with
  | none => some st
  | some a =>
      (st.bridges.heap a).bind fun b =>
        let u := st.bridgeCopy a b
        (dsaPortBridgeDestroy dp st).map fun st =>
          (broadcastLeave fs ops dp u st).2

/-! ## Joining and leaving a LAG -/

/-- Change the LAGs of a tree. -/
def State.setLags (st : State σ) (dst : ℕ) (g : Lags) : State σ :=
  { st with lags := Function.update st.lags dst g }

/-- `dsa_port_lag_create`. -/
def dsaPortLagCreate (mem : Bool) (dp : PortRef) (lagDev : ℕ) (st : State σ) :
    Option (ℤ × State σ) :=
  let g := st.lags dp.dst
  match dsaTreeLagFind fs g dp.dst lagDev with
  | some a => (g.heap a).map fun b => (0, st.setLags dp.dst (g.join dp a b))
  | none =>
      if !mem then some (-ENOMEM, st)
      else
        let r := dsaLagMap g.pool g.next
        some (0, st.setLags dp.dst (g.start dp lagDev r.1 r.2))

/-- `dsa_port_lag_destroy`. -/
def dsaPortLagDestroy (dp : PortRef) (st : State σ) : Option (State σ) :=
  let g := st.lags dp.dst
  (g.member dp).bind fun a =>
    (g.heap a).map fun b =>
      { st.setLags dp.dst (g.leave dsaLagUnmap dp a b) with
        lagTxEnabled := Function.update st.lagTxEnabled dp false }

/-- `dsa_port_lag_join`. `bridgeDev` is the bridge that the LAG is in. -/
def dsaPortLagJoin (mem : Bool) (bridgeDev : Option ℕ) (env : JoinEnv) (dp : PortRef) (lagDev : ℕ)
    (st : State σ) : Option (ℤ × State σ) :=
  (dsaPortLagCreate fs mem dp lagDev st).bind fun r =>
    if r.1 ≠ 0 then some r
    else
      let g := r.2.lags dp.dst
      (g.member dp).bind fun a => (g.heap a).bind fun b =>
        let u : Upper := ⟨b.dev, b.num, false⟩
        let join := dsaTreeNotify fs
          (fun dst ds => dsaSwitchLagJoin (ops dst ds) dst ds dp u) dp.dst r.2
        if join.1 ≠ 0 then (dsaPortLagDestroy dp join.2).map fun st => (join.1, st)
        else
          match bridgeDev with
          | none => some (0, join.2)
          | some br =>
              (dsaPortBridgeJoin fs ops env dp br join.2).bind fun r =>
                if r.1 ≠ 0 then
                  let leave := dsaTreeNotify fs
                    (fun dst ds => dsaSwitchLagLeave (ops dst ds) dst ds dp u) dp.dst r.2
                  (dsaPortLagDestroy dp leave.2).map fun st => (r.1, st)
                else some (0, r.2)

/-- `dsa_port_lag_leave`. -/
def dsaPortLagLeave (dp : PortRef) (st : State σ) : Option (State σ) :=
  match (st.lags dp.dst).member dp with
  | none => some st
  | some a =>
      (dsaPortBridgeLeave fs ops dp st).bind fun st =>
        ((st.lags dp.dst).heap a).bind fun b =>
          let u : Upper := ⟨b.dev, b.num, false⟩
          (dsaPortLagDestroy dp st).map fun st =>
            (dsaTreeNotify fs (fun dst ds => dsaSwitchLagLeave (ops dst ds) dst ds dp u) dp.dst st).2

/-- `dsa_port_lag_change`. -/
def dsaPortLagChange (dp : PortRef) (linkUp txEnabled : Bool) (st : State σ) : ℤ × State σ :=
  if ((st.lags dp.dst).member dp).isNone then (0, st)
  else
    let txEnabled := linkUp && txEnabled
    if txEnabled = st.lagTxEnabled dp then (0, st)
    else
      dsaTreeNotify fs (fun dst ds => dsaSwitchLagChange (ops dst ds) dst ds dp ⟨0, 0, false⟩) dp.dst
        { st with lagTxEnabled := Function.update st.lagTxEnabled dp txEnabled }

end Port

/-! ## Runs -/

/-- What happens above a port. -/
inductive Event
  | bridgeJoin (env : JoinEnv) (dp : PortRef) (br : ℕ)
  | bridgeLeave (dp : PortRef)
  | lagJoin (mem : Bool) (bridgeDev : Option ℕ) (env : JoinEnv) (dp : PortRef) (lagDev : ℕ)
  | lagLeave (dp : PortRef)
  | lagChange (dp : PortRef) (linkUp txEnabled : Bool)

/-- A bad access: a freed object, or a bit behind the bitmap. -/
inductive UpperFault
  | badAccess
  deriving DecidableEq, Repr

/-- The result of an event, zero for one that returns nothing. -/
def Event.run (fs : Fabrics) (ops : ℕ → ℕ → DsaSwitchOps σ) (st : State σ) :
    Event → Option (ℤ × State σ)
  | bridgeJoin env dp br => dsaPortBridgeJoin fs ops env dp br st
  | bridgeLeave dp => (dsaPortBridgeLeave fs ops dp st).map fun st => (0, st)
  | lagJoin mem bridgeDev env dp lagDev => dsaPortLagJoin fs ops mem bridgeDev env dp lagDev st
  | lagLeave dp => (dsaPortLagLeave fs ops dp st).map fun st => (0, st)
  | lagChange dp linkUp txEnabled => some (dsaPortLagChange fs ops dp linkUp txEnabled st)

/-- A device has at most one upper, so a port joins only what is free. -/
def Event.enabled (fs : Fabrics) (st : State σ) : Event → Prop
  | bridgeJoin _ dp _ => dp ∈ fs.allPorts ∧ st.bridges.member dp = none
  | lagJoin _ _ _ dp _ =>
      dp ∈ fs.allPorts ∧ st.bridges.member dp = none ∧ (st.lags dp.dst).member dp = none
  | _ => True

/-- Joins and leaves in any order, with any drivers. -/
def upperMachine (fs : Fabrics) (ops : ℕ → ℕ → DsaSwitchOps σ) :
    Machine (State σ) Event UpperFault where
  enabled := Event.enabled fs
  exec st e :=
    match e.run fs ops st with
    | none => .error .badAccess
    | some r => .ok r.2

/-- No port is in a bridge or in a LAG. -/
def State.init (fs : Fabrics) (drv : σ) : State σ where
  bridges := ⟨fun _ => none, 0, fun _ => none, 0⟩
  txFwdOffload _ := false
  lags dst := ⟨fun _ => none, 0, fun _ => none, List.replicate (fs.lagsLen dst) none⟩
  lagTxEnabled _ := false
  drv := drv
  calls := []

end Axm57104.Dsa.Uppers
