import Axm57104.Dsa.TreeSetup

/-!
# The ledger of a tree

`base` is what the switches and ports that are set up hold. A set up or tear down of a port or of a switch
keeps the ledger at `base` and a set of other things, whatever the answers to its calls are, except that a
switch whose MDIO bus fails stays connected to the tagger.
-/

namespace Axm57104.Dsa.TreeSetup

open Common
open Fabric (PortId)

variable {cfg : Config} {t t' u : Tree} {p q : PortId} {ds : ℕ} {io : Calls Res} {N X : Set Res}

/-! ## What no set up or tear down changes -/

/-- What only a registration changes. -/
def Tree.core (t : Tree) : ℕ × List ℕ × List PortId × Option ℕ × (ℕ → ℕ) × ℕ × List ℕ :=
  (t.refcount, t.members, t.ports, t.tagOps, t.tagRefs, t.defaultProto, t.lostLinks)

/-- How a port is wired. An unused port may have been a user port. -/
def Port.wiring (dp : Port) : Bool × Bool × ℕ × Option ℕ :=
  (dp.type = .cpu, dp.type = .dsa, dp.conduit, dp.dn)

/-- `t'` comes from `t` by setting up and tearing down. -/
structure Keeps (t t' : Tree) : Prop where
  core : t'.core = t.core
  wiring : ∀ p, (t'.port p).wiring = (t.port p).wiring
  marks : t.marks <+: t'.marks

namespace Keeps

/-- Nothing that matters is changed. -/
theorem of_eq (hcore : t'.core = t.core) (hport : t'.port = t.port) (hmarks : t'.marks = t.marks) : Keeps t t' :=
  ⟨hcore, fun p => by rw [hport], by rw [hmarks]⟩

theorem refl (t : Tree) : Keeps t t := .of_eq rfl rfl rfl

theorem trans (h : Keeps t t') (h' : Keeps t' u) : Keeps t u :=
  ⟨h'.core.trans h.core, fun p => (h'.wiring p).trans (h.wiring p), h.marks.trans h'.marks⟩

theorem ports (h : Keeps t t') : t'.ports = t.ports := congrArg (fun c => c.2.2.1) h.core

theorem tagOps (h : Keeps t t') : t'.tagOps = t.tagOps := congrArg (fun c => c.2.2.2.1) h.core

theorem lostLinks (h : Keeps t t') : t'.lostLinks = t.lostLinks := congrArg (fun c => c.2.2.2.2.2.2) h.core

theorem cpu (h : Keeps t t') (p : PortId) : (t'.port p).type = .cpu ↔ (t.port p).type = .cpu :=
  decide_eq_decide.mp (congrArg (fun w => w.1) (h.wiring p))

theorem dsa (h : Keeps t t') (p : PortId) : (t'.port p).type = .dsa ↔ (t.port p).type = .dsa :=
  decide_eq_decide.mp (congrArg (fun w => w.2.1) (h.wiring p))

theorem conduit (h : Keeps t t') (p : PortId) : (t'.port p).conduit = (t.port p).conduit :=
  congrArg (fun w => w.2.2.1) (h.wiring p)

/-- A port whose wiring is kept is written. -/
theorem setPort {dp : Port} (hport : t'.port = Function.update t.port p dp)
    (hw : dp.wiring = (t.port p).wiring) (hcore : t'.core = t.core) (hmarks : t'.marks = t.marks) :
    Keeps t t' := by
  refine ⟨hcore, fun q => ?_, by rw [hmarks]⟩
  rw [hport]
  by_cases hq : q = p
  · subst hq
    rw [Function.update_self, hw]
  · rw [Function.update_of_ne hq]

/-- The loops that do not stop. -/
theorem foldl {round : Tree → PortId → Tree} (h : ∀ u p, Keeps u (round u p)) (ps : List PortId)
    (t : Tree) : Keeps t (ps.foldl round t) :=
  List.foldlRecOn ps round (.refl t) fun u hu p _ => hu.trans (h u p)

/-- The loops that stop at an error. -/
theorem chain {round : PortId → Tree → ℤ × Tree} (h : ∀ p u, Keeps u (round p u).2) (ps : List PortId)
    (t : Tree) : Keeps t (notifyChain round ps t).2 :=
  notifyChain_keeps (fun p u hu => hu.trans (h p u)) ps (.refl t)

/-- A round that is made only for some ports. -/
theorem ite {c : Prop} [Decidable c] (h : Keeps t t') (h' : Keeps t u) : Keeps t (if c then t' else u) := by
  split
  · exact h
  · exact h'

end Keeps

theorem keeps_dsaPortSetup (p : PortId) (t : Tree) : Keeps t (dsaPortSetup p t).2 := by
  simp only [dsaPortSetup]
  split
  · exact .refl t
  · split
    · exact .of_eq rfl rfl rfl
    · split
      · exact .setPort rfl rfl rfl rfl
      · exact .setPort rfl rfl rfl rfl

theorem keeps_dsaPortTeardown (p : PortId) (t : Tree) : Keeps t (dsaPortTeardown p t) := by
  rw [dsaPortTeardown]
  split
  · exact .setPort rfl rfl rfl rfl
  · exact .refl t

theorem keeps_teardownLoop (b : Bool) (t : Tree) : Keeps t (teardownLoop b t) :=
  .foldl (fun u p => .ite (keeps_dsaPortTeardown p u) (.refl u)) t.ports t

theorem keeps_dsaTreeTeardownPorts (t : Tree) : Keeps t (dsaTreeTeardownPorts t) :=
  (keeps_teardownLoop false t).trans (keeps_teardownLoop true _)

theorem keeps_setupShared (p : PortId) (t : Tree) : Keeps t (setupShared p t).2 := by
  rw [setupShared]
  split
  · exact keeps_dsaPortSetup p t
  · exact .refl t

/-- A port that is neither a CPU port nor a DSA port becomes unused. -/
theorem keeps_unused (h : (t.port p).shared = false) :
    Keeps t { t with port := Function.update t.port p { t.port p with type := .unused } } := by
  refine .setPort rfl ?_ rfl rfl
  have htype : (t.port p).type ≠ .dsa ∧ (t.port p).type ≠ .cpu :=
    not_or.mp (of_decide_eq_false h)
  simp [Port.wiring, htype.1, htype.2]

theorem Keeps.shared (h : Keeps t t') (p : PortId) : (t'.port p).shared = (t.port p).shared := by
  rw [Port.shared, Port.shared, decide_eq_decide, h.cpu, h.dsa]

theorem keeps_setupUnshared (p : PortId) (t : Tree) : Keeps t (setupUnshared p t).2 := by
  simp only [setupUnshared]
  split
  · exact .refl t
  · rename_i hs
    have hset := keeps_dsaPortSetup p t
    split
    · refine hset.trans (Keeps.trans (keeps_unused ?_) (keeps_dsaPortSetup p _))
      rw [hset.shared]
      exact Bool.eq_false_iff.mpr hs
    · exact hset

theorem keeps_dsaTreeSetupPorts (t : Tree) : Keeps t (dsaTreeSetupPorts t).2 := by
  have hfirst := Keeps.chain keeps_setupShared t.ports t
  simp only [dsaTreeSetupPorts]
  split
  · exact hfirst.trans (keeps_dsaTreeTeardownPorts _)
  · have hsecond := hfirst.trans (Keeps.chain keeps_setupUnshared (notifyChain setupShared t.ports t).2.ports _)
    split
    · exact hsecond.trans (keeps_dsaTreeTeardownPorts _)
    · exact hsecond

theorem keeps_dsaSwitchSetup (cfg : Config) (ds : ℕ) (t : Tree) : Keeps t (dsaSwitchSetup cfg ds t).2 := by
  simp only [dsaSwitchSetup]
  repeat' split
  all_goals first | exact .of_eq rfl rfl rfl | exact ⟨rfl, fun _ => rfl, List.prefix_append _ _⟩

theorem keeps_dsaSwitchTeardown (ds : ℕ) (t : Tree) : Keeps t (dsaSwitchTeardown cfg ds t) := by
  simp only [dsaSwitchTeardown]
  split
  · exact .of_eq rfl rfl rfl
  · exact .refl t

theorem keeps_dsaTreeTeardownSwitches (cfg : Config) (t : Tree) : Keeps t (dsaTreeTeardownSwitches cfg t) :=
  .foldl (fun u p => keeps_dsaSwitchTeardown p.ds u) _ _

theorem keeps_dsaTreeSetupSwitches (cfg : Config) (t : Tree) : Keeps t (dsaTreeSetupSwitches cfg t).2 := by
  have hchain := Keeps.chain (fun p u => keeps_dsaSwitchSetup cfg p.ds u) t.ports t
  simp only [dsaTreeSetupSwitches]
  split
  · exact hchain.trans (keeps_dsaTreeTeardownSwitches cfg _)
  · exact hchain

theorem keeps_setupConduit (p : PortId) (t : Tree) : Keeps t (setupConduit cfg p t).2 := by
  simp only [setupConduit, dsaConduitSetup]
  repeat' split
  all_goals exact .of_eq rfl rfl rfl

theorem keeps_dsaTreeSetupConduit (cfg : Config) (t : Tree) : Keeps t (dsaTreeSetupConduit cfg t).2 :=
  .chain keeps_setupConduit _ _

theorem keeps_dsaTreeTeardownConduit (cfg : Config) (t : Tree) : Keeps t (dsaTreeTeardownConduit cfg t) := by
  rw [dsaTreeTeardownConduit]
  refine .foldl (fun u p => ?_) _ _
  exact .ite (.of_eq rfl rfl rfl) (.refl u)

theorem keeps_dsaTreeSetupLags (cfg : Config) (t : Tree) : Keeps t (dsaTreeSetupLags cfg t).2 := by
  simp only [dsaTreeSetupLags]
  repeat' split
  all_goals first | exact .of_eq rfl rfl rfl | exact ⟨rfl, fun _ => rfl, List.prefix_append _ _⟩

/-! ## What is held -/

/-- Who takes a thing. -/
inductive Owner
  | switch (ds : ℕ)
  | port (dp : PortId)
  | dev (dev : ℕ)
  | tree
  deriving DecidableEq

def Res.owner : Res → Owner
  | devlink ds | notifier ds | driver ds | tagger ds | miiBus ds | miiReg ds | devlinkReg ds => .switch ds
  | portDevlink p | link p | enabled p | user p => .port p
  | promisc dev | ethtool dev | sysfs dev => .dev dev
  | lags | dsaLink _ => .tree

/-- What the `switch` statement of `dsa_port_setup` takes. -/
def upRes (p : PortId) (dp : Port) : List Res :=
  match dp.type with
  | .unused => []
  | .cpu | .dsa => (if dp.dn.isSome then [.link p] else []) ++ [.enabled p]
  | .user => [.user p]

/-- What a port holds. -/
def portRes (p : PortId) (dp : Port) : List Res := if dp.setup then .portDevlink p :: upRes p dp else []

/-- The connection of a switch to the tagger. -/
def tagRes (cfg : Config) (tagOps ds : ℕ) : List Res := if cfg.connects tagOps then [.tagger ds] else []

/-- What `dsa_switch_setup` takes up to `ops->setup`. -/
def driverRes (cfg : Config) (ds : ℕ) : List Res :=
  [.devlink ds, .notifier ds] ++ if cfg.teardown ds then [.driver ds] else []

/-- The MDIO bus of a switch. -/
def miiRes (ds : ℕ) (bus : Bool) : List Res :=
  (if bus then [.miiBus ds] else []) ++ if bus then [.miiReg ds] else []

/-- What a switch holds. -/
def switchRes (cfg : Config) (tagOps ds : ℕ) (sw : Switch) : List Res :=
  if sw.setup then
    driverRes cfg ds ++ tagRes cfg tagOps ds ++ miiRes ds (sw.userMiiBus && cfg.phyRead ds) ++ [.devlinkReg ds]
  else []

/-- What the ports and switches hold. -/
def base (cfg : Config) (t : Tree) : Set Res :=
  {r | (∃ p, r ∈ portRes p (t.port p)) ∨ ∃ ds, r ∈ switchRes cfg (t.tagOps.getD 0) ds (t.sw ds)}

@[simp] theorem mem_driverRes {r : Res} :
    r ∈ driverRes cfg ds ↔ r = .devlink ds ∨ r = .notifier ds ∨ cfg.teardown ds = true ∧ r = .driver ds := by
  simp [driverRes]

@[simp] theorem mem_tagRes {tagOps : ℕ} {r : Res} :
    r ∈ tagRes cfg tagOps ds ↔ cfg.connects tagOps = true ∧ r = .tagger ds := by
  simp [tagRes]

@[simp] theorem mem_miiRes {bus : Bool} {r : Res} :
    r ∈ miiRes ds bus ↔ bus = true ∧ (r = .miiBus ds ∨ r = .miiReg ds) := by
  simp [miiRes, and_or_left]

theorem owner_of_mem_upRes {dp : Port} {r : Res} (h : r ∈ upRes p dp) : r.owner = .port p := by
  have hshared : ∀ b : Bool, r ∈ (if b then [.link p] else []) ++ [.enabled p] → r.owner = .port p := by
    intro b h
    simp only [List.mem_append, List.mem_ite_nil_right, List.mem_singleton] at h
    rcases h with ⟨-, rfl⟩ | rfl <;> rfl
  rw [upRes] at h
  split at h
  · cases h
  · exact hshared _ h
  · exact hshared _ h
  · rw [List.mem_singleton.mp h]
    rfl

theorem owner_of_mem_portRes {dp : Port} {r : Res} (h : r ∈ portRes p dp) : r.owner = .port p := by
  rw [portRes, List.mem_ite_nil_right, List.mem_cons] at h
  rcases h with ⟨-, rfl | h⟩
  · rfl
  · exact owner_of_mem_upRes h

theorem owner_of_mem_switchRes {tagOps : ℕ} {sw : Switch} {r : Res}
    (h : r ∈ switchRes cfg tagOps ds sw) : r.owner = .switch ds := by
  simp only [switchRes, List.mem_ite_nil_right, List.mem_append, mem_driverRes, mem_tagRes, mem_miiRes,
    List.mem_singleton] at h
  obtain ⟨-, (((rfl | rfl | ⟨-, rfl⟩) | ⟨-, rfl⟩) | ⟨-, rfl | rfl⟩) | rfl⟩ := h <;> rfl

/-- Only the part of the port changes. -/
theorem base_setPort (t : Tree) (p : PortId) (dp : Port) (io : Calls Res) :
    base cfg { t with port := Function.update t.port p dp, io := io } =
      {r ∈ base cfg t | r.owner ≠ .port p} ∪ {r | r ∈ portRes p dp} := by
  ext r
  simp only [base, Set.mem_union, Set.mem_ofPred_eq]
  constructor
  · rintro (⟨q, hq⟩ | hsw)
    · by_cases hqp : q = p
      · subst hqp
        rw [Function.update_self] at hq
        exact .inr hq
      · rw [Function.update_of_ne hqp] at hq
        refine .inl ⟨.inl ⟨q, hq⟩, ?_⟩
        rw [owner_of_mem_portRes hq]
        exact fun h => hqp (Owner.port.inj h)
    · obtain ⟨ds, hds⟩ := hsw
      refine .inl ⟨.inr ⟨ds, hds⟩, ?_⟩
      rw [owner_of_mem_switchRes hds]
      exact Owner.noConfusion
  · rintro (⟨⟨q, hq⟩ | hsw, howner⟩ | hp)
    · refine .inl ⟨q, ?_⟩
      rw [Function.update_of_ne]
      · exact hq
      · rintro rfl
        exact howner (owner_of_mem_portRes hq)
    · exact .inr hsw
    · refine .inl ⟨p, ?_⟩
      rwa [Function.update_self]

/-- Only the part of the switch changes. -/
theorem base_setSwitch (t : Tree) (ds : ℕ) (sw : Switch) (io : Calls Res) (marks : List Mark) :
    base cfg { t with sw := Function.update t.sw ds sw, io := io, marks := marks } =
      {r ∈ base cfg t | r.owner ≠ .switch ds} ∪ {r | r ∈ switchRes cfg (t.tagOps.getD 0) ds sw} := by
  ext r
  simp only [base, Set.mem_union, Set.mem_ofPred_eq]
  constructor
  · rintro (hport | ⟨d, hd⟩)
    · obtain ⟨q, hq⟩ := hport
      refine .inl ⟨.inl ⟨q, hq⟩, ?_⟩
      rw [owner_of_mem_portRes hq]
      exact Owner.noConfusion
    · by_cases hdds : d = ds
      · subst hdds
        rw [Function.update_self] at hd
        exact .inr hd
      · rw [Function.update_of_ne hdds] at hd
        refine .inl ⟨.inr ⟨d, hd⟩, ?_⟩
        rw [owner_of_mem_switchRes hd]
        exact fun h => hdds (Owner.switch.inj h)
  · rintro (⟨hport | ⟨d, hd⟩, howner⟩ | hds)
    · exact .inl hport
    · refine .inr ⟨d, ?_⟩
      rw [Function.update_of_ne]
      · exact hd
      · rintro rfl
        exact howner (owner_of_mem_switchRes hd)
    · refine .inr ⟨ds, ?_⟩
      rwa [Function.update_self]

theorem mem_portRes_of_owner {r : Res} (h : r ∈ base cfg t) (howner : r.owner = .port p) :
    r ∈ portRes p (t.port p) := by
  rcases h with ⟨q, hq⟩ | ⟨ds, hds⟩
  · obtain rfl : q = p := Owner.port.inj ((owner_of_mem_portRes hq).symm.trans howner)
    exact hq
  · exact Owner.noConfusion ((owner_of_mem_switchRes hds).symm.trans howner)

theorem mem_switchRes_of_owner {r : Res} (h : r ∈ base cfg t) (howner : r.owner = .switch ds) :
    r ∈ switchRes cfg (t.tagOps.getD 0) ds (t.sw ds) := by
  rcases h with ⟨q, hq⟩ | ⟨d, hd⟩
  · exact Owner.noConfusion ((owner_of_mem_portRes hq).symm.trans howner)
  · obtain rfl : d = ds := Owner.switch.inj ((owner_of_mem_switchRes hd).symm.trans howner)
    exact hd

theorem owner_ne_port_of_mem_base {r : Res} (h : r ∈ base cfg t) (hp : (t.port p).setup = false) :
    r.owner ≠ .port p := by
  intro howner
  have hr := mem_portRes_of_owner h howner
  rw [portRes, hp] at hr
  cases hr

theorem owner_ne_switch_of_mem_base {r : Res} (h : r ∈ base cfg t) (hds : (t.sw ds).setup = false) :
    r.owner ≠ .switch ds := by
  intro howner
  have hr := mem_switchRes_of_owner h howner
  rw [switchRes, hds] at hr
  cases hr

/-! ## Ports -/

/-- A port holds a user interface exactly while it is a user port that is set up. -/
def UserOk (t : Tree) : Prop := ∀ p, (t.port p).user = decide ((t.port p).setup = true ∧ (t.port p).type = .user)

/-- What is taken beyond `N` by the owner `o`, of which nothing was held. -/
theorem notMem_of_owner {o : Owner} {r : Res} (hN : ∀ r ∈ N, r.owner ≠ o) (hr : r.owner = o) : r ∉ N :=
  fun h => hN r h hr

theorem sharedPortUp_stack (dp : Port) (h : io.Stack N [.portDevlink p]) (hN : ∀ r ∈ N, r.owner ≠ .port p) :
    let u := sharedPortUp p dp io
    u.user = dp.user ∧
      (u.err ≠ 0 ∧ (portUndo p u).Owns N ∨
        u.err = 0 ∧
          u.io.Stack N (.portDevlink p :: ((if dp.dn.isSome then [.link p] else []) ++ [.enabled p]))) := by
  simp only [sharedPortUp]
  have hlink := h.tryTakeIf (b := dp.dn.isSome) (k := .link p) (notMem_of_owner hN rfl) (by simp)
  rcases hlink with ⟨herr, hst⟩ | ⟨h0, hst⟩
  · rw [if_pos herr]
    exact ⟨rfl, .inl ⟨herr, (Calls.Stack.give (l := []) hst).empty⟩⟩
  · rw [if_neg (not_not.mpr h0)]
    have hne : Res.enabled p ∉ [.portDevlink p] ++ if dp.dn.isSome = true then [.link p] else [] := by
      split <;> simp
    rcases hst.tryTake (notMem_of_owner hN rfl) hne with ⟨herr, hst⟩ | ⟨h0, hst⟩
    · rw [if_pos herr]
      exact ⟨rfl, .inl ⟨herr, (Calls.Stack.give (l := []) hst.giveIf).empty⟩⟩
    · rw [if_neg (not_not.mpr h0)]
      refine ⟨rfl, .inr ⟨rfl, ?_⟩⟩
      rwa [List.append_assoc] at hst

theorem portUp_stack (dp : Port) (h : io.Stack N [.portDevlink p]) (hN : ∀ r ∈ N, r.owner ≠ .port p)
    (hu : dp.user = false) :
    let u := portUp p dp io
    u.err ≠ 0 ∧ u.user = false ∧ (portUndo p u).Owns N ∨
      u.err = 0 ∧ u.user = decide (dp.type = .user) ∧ u.io.Stack N (.portDevlink p :: upRes p dp) := by
  simp only [portUp, upRes]
  cases htype : dp.type with
  | unused => exact .inr ⟨rfl, hu, h⟩
  | cpu =>
      obtain ⟨huser, ⟨herr, hown⟩ | ⟨h0, hst⟩⟩ := sharedPortUp_stack dp h hN
      · exact .inl ⟨herr, huser.trans hu, hown⟩
      · exact .inr ⟨h0, huser.trans hu, hst⟩
  | dsa =>
      obtain ⟨huser, ⟨herr, hown⟩ | ⟨h0, hst⟩⟩ := sharedPortUp_stack dp h hN
      · exact .inl ⟨herr, huser.trans hu, hown⟩
      · exact .inr ⟨h0, huser.trans hu, hst⟩
  | user =>
      rcases h.tryTake (k := .user p) (notMem_of_owner hN rfl) (by simp) with ⟨herr, hst⟩ | ⟨h0, hst⟩
      · simp only [if_pos herr]
        exact .inl ⟨herr, trivial, (Calls.Stack.give (l := []) hst).empty⟩
      · simp only [if_neg (not_not.mpr h0)]
        exact .inr ⟨trivial, rfl, hst⟩

/-- **Set up of a port.** It fails and changes nothing, or the port holds all it needs. -/
theorem dsaPortSetup_owns (h : t.io.Owns N) (hN : ∀ r ∈ N, r.owner ≠ .port p)
    (hset : (t.port p).setup = false) (hu : (t.port p).user = false) :
    (∃ e io', e ≠ 0 ∧ dsaPortSetup p t = (e, { t with io := io' }) ∧ io'.Owns N) ∨
      ∃ dp io', dp = { t.port p with user := decide ((t.port p).type = .user), setup := true } ∧
        dsaPortSetup p t = (0, { t with port := Function.update t.port p dp, io := io' }) ∧
        io'.Owns (N ∪ {r | r ∈ portRes p dp}) := by
  simp only [dsaPortSetup]
  rw [if_neg (by rw [hset]; exact Bool.noConfusion)]
  have hfree : Res.portDevlink p ∉ N := notMem_of_owner hN rfl
  rcases (Calls.Stack.nil h).tryTake hfree List.not_mem_nil with ⟨herr, hst⟩ | ⟨h0, hst⟩
  · rw [if_pos herr]
    exact .inl ⟨_, _, herr, rfl, hst.empty⟩
  · rw [if_neg (not_not.mpr h0)]
    rcases portUp_stack (t.port p) hst hN hu with ⟨herr, huser, hown⟩ | ⟨h0, huser, hst⟩
    · rw [if_pos herr, huser]
      refine .inl ⟨_, _, herr, ?_, hown⟩
      have hsame : { t.port p with user := false } = t.port p := by rw [← hu]
      rw [hsame, Function.update_eq_self]
    · rw [if_neg (not_not.mpr h0), huser]
      exact .inr ⟨_, _, rfl, rfl, hst.owns⟩

theorem portRes_nodup (p : PortId) (dp : Port) : (portRes p dp).Nodup := by
  rw [portRes, upRes]
  cases dp.type <;> cases dp.dn <;> cases dp.setup <;> simp

theorem portDown_stack (dp : Port) (hu : dp.user = decide (dp.type = .user))
    (h : io.Stack N (.portDevlink p :: upRes p dp)) : (portDown p dp io).Stack N [.portDevlink p] := by
  -- CPU ports and DSA ports are torn down alike
  have hshared : io.Stack N (.portDevlink p :: ((if dp.dn.isSome then [.link p] else []) ++ [.enabled p])) →
      ((io.give (.enabled p)).giveIf dp.dn.isSome (.link p)).Stack N [.portDevlink p] := by
    intro h
    rw [← List.cons_append] at h
    exact Calls.Stack.giveIf (l := [Res.portDevlink p]) h.give
  rw [portDown]
  rw [upRes] at h
  cases htype : dp.type with
  | unused =>
      rw [htype] at h
      exact h
  | cpu =>
      rw [htype] at h
      exact hshared h
  | dsa =>
      rw [htype] at h
      exact hshared h
  | user =>
      rw [htype] at h hu
      simp only [hu, decide_true]
      exact Calls.Stack.give (l := [Res.portDevlink p]) h

/-- **Tear down of a port.** -/
theorem dsaPortTeardown_owns (h : t.io.Owns N) (hsub : ∀ r ∈ portRes p (t.port p), r ∈ N) (hu : UserOk t) :
    ∃ dp io', dp = { t.port p with user := false, setup := false } ∧
      dsaPortTeardown p t = { t with port := Function.update t.port p dp, io := io' } ∧
      io'.Owns (N \ {r | r ∈ portRes p (t.port p)}) := by
  have hstack := Calls.Stack.of_subset h hsub (portRes_nodup p (t.port p))
  have huser := hu p
  rw [dsaPortTeardown]
  cases hset : (t.port p).setup with
  | true =>
      rw [hset] at huser
      simp only [true_and] at huser
      have hno : ((t.port p).user && decide ((t.port p).type ≠ .user)) = false := by
        rw [huser, decide_not, Bool.and_not_self]
      refine ⟨_, (portDown p (t.port p) t.io).give (.portDevlink p), rfl, ?_, ?_⟩
      · rw [if_pos rfl, hno]
      · rw [portRes, if_pos hset] at hstack ⊢
        exact (Calls.Stack.give (l := []) (portDown_stack (t.port p) huser hstack)).empty
  | false =>
      rw [hset] at huser
      simp only [Bool.false_eq_true, false_and, decide_false] at huser
      -- nothing is to be torn down
      have hsame : { t.port p with user := false, setup := false } = t.port p := by
        conv_rhs => rw [show t.port p = { t.port p with user := (t.port p).user, setup := (t.port p).setup } from rfl,
          huser, hset]
      refine ⟨_, t.io, rfl, ?_, ?_⟩
      · rw [if_neg Bool.false_ne_true, hsame, Function.update_eq_self]
      · rw [portRes, hset]
        exact h.congr (by simp)

/-! ## Ports: the ledger of the tree -/

/-- The ledger comes out at what the ports and switches hold, and `X`. -/
structure Bal (cfg : Config) (X : Set Res) (t : Tree) : Prop where
  owns : t.io.Owns (base cfg t ∪ X)
  user : UserOk t

/-- Nothing in `X` is of a port. -/
def NoPort (X : Set Res) : Prop := ∀ r ∈ X, ∀ p, r.owner ≠ .port p

theorem UserOk.setPort {dp : Port} (h : UserOk t)
    (hdp : dp.user = decide (dp.setup = true ∧ dp.type = .user)) :
    UserOk { t with port := Function.update t.port p dp, io := io } := by
  intro q
  by_cases hq : q = p
  · subst hq
    simp only [Function.update_self]
    exact hdp
  · simp only [Function.update_of_ne hq]
    exact h q

theorem Bal.dsaPortSetup (h : Bal cfg X t) (hX : NoPort X) (p : PortId) :
    Bal cfg X (dsaPortSetup p t).2 := by
  cases hset : (t.port p).setup with
  | true =>
      rw [TreeSetup.dsaPortSetup, if_pos hset]
      exact h
  | false =>
      have huser : (t.port p).user = false := by rw [h.user p, hset]; simp
      -- a port that is not set up holds nothing
      have hN : ∀ r ∈ base cfg t ∪ X, r.owner ≠ .port p := by
        rintro r (hr | hr)
        · exact owner_ne_port_of_mem_base hr hset
        · exact hX r hr p
      rcases dsaPortSetup_owns h.owns hN hset huser with ⟨e, io', -, heq, hown⟩ | ⟨dp, io', rfl, heq, hown⟩
      · rw [heq]
        exact ⟨hown, h.user⟩
      · rw [heq]
        -- what the others hold, and what the port holds now
        refine ⟨hown.congr ?_, h.user.setPort (by simp)⟩
        rw [base_setPort]
        ext r
        simp only [Set.mem_union, Set.mem_ofPred_eq]
        constructor
        · rintro ((hr | hr) | hr)
          · exact .inl (.inl ⟨hr, hN r (.inl hr)⟩)
          · exact .inr hr
          · exact .inl (.inr hr)
        · rintro ((hr | hr) | hr)
          · exact .inl (.inl hr.1)
          · exact .inr hr
          · exact .inl (.inr hr)

theorem Bal.dsaPortTeardown (h : Bal cfg X t) (hX : NoPort X) (p : PortId) :
    Bal cfg X (dsaPortTeardown p t) := by
  obtain ⟨dp, io', rfl, heq, hown⟩ :=
    dsaPortTeardown_owns (p := p) h.owns (fun r hr => .inl (.inl ⟨p, hr⟩)) h.user
  rw [heq]
  refine ⟨hown.congr ?_, h.user.setPort (by simp)⟩
  rw [base_setPort]
  ext r
  simp only [Set.mem_sdiff, Set.mem_union, Set.mem_ofPred_eq]
  constructor
  · rintro ⟨hr | hr, hnot⟩
    · exact .inl (.inl ⟨hr, fun howner => hnot (mem_portRes_of_owner hr howner)⟩)
    · exact .inr hr
  · rintro ((⟨hr, howner⟩ | hr) | hr)
    · exact ⟨.inl hr, fun hmem => howner (owner_of_mem_portRes hmem)⟩
    · rw [portRes] at hr
      cases hr
    · exact ⟨.inr hr, fun hmem => hX r hr p (owner_of_mem_portRes hmem)⟩

/-- The links of the routing table, the number of links so far, and the lost ones. -/
def Tree.links (t : Tree) : List Link × ℕ × List ℕ := (t.rtable, t.linkCount, t.lostLinks)

/-- What the set up and tear down of ports does not change. -/
def Tree.offPorts (t : Tree) :
    (ℕ → Switch) × (List Link × ℕ × List ℕ) × Bool × Bool × (ℕ → Option PortId) × List Mark :=
  (t.sw, t.links, t.setup, t.lags, t.dsaPtr, t.marks)

/-- `t'` comes from `t` by setting up and tearing down ports of the list `ps`. -/
structure PortStage (cfg : Config) (ps : List PortId) (t t' : Tree) : Prop where
  keeps : Keeps t t'
  rest : t'.offPorts = t.offPorts
  bal : ∀ {X}, NoPort X → Bal cfg X t → Bal cfg X t'
  off : ∀ q ∉ ps, t'.port q = t.port q

namespace PortStage

variable {ps qs : List PortId}

theorem refl (t : Tree) : PortStage cfg ps t t := ⟨.refl t, rfl, fun _ h => h, fun _ _ => rfl⟩

theorem trans (h : PortStage cfg ps t t') (h' : PortStage cfg ps t' u) : PortStage cfg ps t u :=
  ⟨h.keeps.trans h'.keeps, h'.rest.trans h.rest, fun hX hb => h'.bal hX (h.bal hX hb),
    fun q hq => (h'.off q hq).trans (h.off q hq)⟩

theorem foldl {round : Tree → PortId → Tree} (h : ∀ u, ∀ p ∈ ps, PortStage cfg ps u (round u p))
    (t : Tree) : PortStage cfg ps t (ps.foldl round t) :=
  List.foldlRecOn ps round (.refl t) fun u hu p hp => hu.trans (h u p hp)

theorem chain {round : PortId → Tree → ℤ × Tree} (h : ∀ p ∈ ps, ∀ u, PortStage cfg ps u (round p u).2)
    (t : Tree) : PortStage cfg ps t (notifyChain round ps t).2 :=
  notifyChain_keeps_mem (fun p hp u hu => hu.trans (h p hp u)) (.refl t)

theorem sw (h : PortStage cfg ps t t') : t'.sw = t.sw := congrArg (fun r => r.1) h.rest

end PortStage

theorem portStage_dsaPortSetup {ps : List PortId} (hp : p ∈ ps) (t : Tree) :
    PortStage cfg ps t (dsaPortSetup p t).2 := by
  refine ⟨keeps_dsaPortSetup p t, ?_, fun hX hb => hb.dsaPortSetup hX p, fun q hq => ?_⟩
  · simp only [dsaPortSetup]
    repeat' split
    all_goals rfl
  · have hqp : q ≠ p := fun h => hq (h ▸ hp)
    simp only [dsaPortSetup]
    repeat' split
    all_goals first | rfl | exact Function.update_of_ne hqp _ _

theorem portStage_dsaPortTeardown {ps : List PortId} (hp : p ∈ ps) (t : Tree) :
    PortStage cfg ps t (dsaPortTeardown p t) := by
  refine ⟨keeps_dsaPortTeardown p t, ?_, fun hX hb => hb.dsaPortTeardown hX p, fun q hq => ?_⟩
  · rw [dsaPortTeardown]
    split <;> rfl
  · have hqp : q ≠ p := fun h => hq (h ▸ hp)
    rw [dsaPortTeardown]
    split
    · exact Function.update_of_ne hqp _ _
    · rfl

/-- A user port that could not be set up becomes unused, which costs it nothing. -/
theorem portStage_unused {ps : List PortId} (hp : p ∈ ps) (hs : (t.port p).shared = false)
    (hset : (t.port p).setup = false) :
    PortStage cfg ps t { t with port := Function.update t.port p { t.port p with type := .unused } } := by
  refine ⟨keeps_unused hs, rfl, fun {X} hX hb => ⟨?_, ?_⟩, fun q hq => ?_⟩
  · refine hb.owns.congr ?_
    rw [show ({ t with port := Function.update t.port p { t.port p with type := .unused } } : Tree) =
      { t with port := Function.update t.port p { t.port p with type := .unused }, io := t.io } from rfl,
      base_setPort]
    ext r
    simp only [Set.mem_union, Set.mem_ofPred_eq, portRes, hset]
    constructor
    · rintro (hr | hr)
      · exact .inl (.inl ⟨hr, owner_ne_port_of_mem_base hr hset⟩)
      · exact .inr hr
    · rintro ((hr | hr) | hr)
      · exact .inl hr.1
      · cases hr
      · exact .inr hr
  · refine hb.user.setPort ?_
    rw [hb.user p]
    simp [hset]
  · have hqp : q ≠ p := fun h => hq (h ▸ hp)
    exact Function.update_of_ne hqp _ _

theorem dsaPortSetup_setup (h : (dsaPortSetup p t).1 ≠ 0) : ((dsaPortSetup p t).2.port p).setup = false := by
  simp only [dsaPortSetup] at h ⊢
  split
  · rename_i hset
    rw [if_pos hset] at h
    exact absurd rfl h
  · rename_i hset
    rw [if_neg hset] at h
    split
    · exact Bool.eq_false_iff.mpr hset
    · rename_i hdev
      rw [if_neg hdev] at h
      split
      · simp only [Function.update_self]
        exact Bool.eq_false_iff.mpr hset
      · rename_i hup
        rw [if_neg hup] at h
        exact absurd rfl h

theorem portStage_setupShared {ps : List PortId} (hp : p ∈ ps) (t : Tree) :
    PortStage cfg ps t (setupShared p t).2 := by
  rw [setupShared]
  split
  · exact portStage_dsaPortSetup hp t
  · exact .refl t

theorem portStage_setupUnshared {ps : List PortId} (hp : p ∈ ps) (t : Tree) :
    PortStage cfg ps t (setupUnshared p t).2 := by
  simp only [setupUnshared]
  split
  · exact .refl t
  · rename_i hs
    have hset : PortStage cfg ps t (dsaPortSetup p t).2 := portStage_dsaPortSetup hp t
    split
    · rename_i herr
      -- the port that failed is set up a second time, as an unused one
      refine (hset.trans (portStage_unused hp ?_ (dsaPortSetup_setup herr))).trans
        (portStage_dsaPortSetup hp _)
      rw [hset.keeps.shared]
      exact Bool.eq_false_iff.mpr hs
    · exact hset

theorem portStage_teardownLoop {ps : List PortId} (hps : t.ports = ps) (b : Bool) :
    PortStage cfg ps t (teardownLoop b t) := by
  subst hps
  refine .foldl (fun u p hp => ?_) t
  split
  · exact portStage_dsaPortTeardown hp u
  · exact .refl u

theorem portStage_dsaTreeTeardownPorts {ps : List PortId} (hps : t.ports = ps) :
    PortStage cfg ps t (dsaTreeTeardownPorts t) := by
  -- first the ports that are not shared, then the others
  have hfirst : PortStage cfg ps t (teardownLoop false t) := portStage_teardownLoop hps false
  exact hfirst.trans (portStage_teardownLoop (hfirst.keeps.ports.trans hps) true)

/-- A tear down of ports does not set one up. -/
theorem dsaPortTeardown_setup (q : PortId) (h : (t.port p).setup = false) :
    ((dsaPortTeardown q t).port p).setup = false := by
  rw [dsaPortTeardown]
  split
  · by_cases hpq : p = q
    · subst hpq
      simp only [Function.update_self]
    · simp only [Function.update_of_ne hpq]
      exact h
  · exact h

theorem dsaPortTeardown_self (p : PortId) (t : Tree) : ((dsaPortTeardown p t).port p).setup = false := by
  rw [dsaPortTeardown]
  split
  · simp only [Function.update_self]
  · rename_i h
    exact Bool.eq_false_iff.mpr h

theorem teardownLoop_setup (b : Bool) (h : (t.port p).setup = false) :
    ((teardownLoop b t).port p).setup = false := by
  refine List.foldlRecOn (motive := fun u : Tree => (u.port p).setup = false) _ _ h fun u hu q _ => ?_
  split
  · exact dsaPortTeardown_setup q hu
  · exact hu

theorem teardownLoop_down (b : Bool) (t : Tree) :
    ∀ p ∈ t.ports, ((teardownLoop b t).port p).shared = b → ((teardownLoop b t).port p).setup = false := by
  refine foldl_achieves (Q := fun p (u : Tree) => (u.port p).shared = b → (u.port p).setup = false) ?_ ?_
  · intro p q u h
    split
    · rw [(keeps_dsaPortTeardown q u).shared]
      exact fun hs => dsaPortTeardown_setup q (h hs)
    · exact h
  · intro p u hs
    split at hs
    · rw [if_pos (by assumption)]
      exact dsaPortTeardown_self p u
    · exact absurd hs (by assumption)

/-- After `dsa_tree_teardown_ports` no port is set up, if no port was that is not on the list. -/
theorem dsaTreeTeardownPorts_down (hoff : ∀ p ∉ t.ports, (t.port p).setup = false) (p : PortId) :
    ((dsaTreeTeardownPorts t).port p).setup = false := by
  by_cases hp : p ∈ t.ports
  · have hkeeps := keeps_teardownLoop false t
    -- each of the two loops tears down its own kind and does not set the other one up
    cases hs : ((teardownLoop false t).port p).shared with
    | false => exact teardownLoop_setup true (teardownLoop_down false t p hp hs)
    | true =>
        refine teardownLoop_down true (teardownLoop false t) p (hkeeps.ports ▸ hp) ?_
        rw [(keeps_teardownLoop true _).shared, hs]
  · exact teardownLoop_setup true (teardownLoop_setup false (hoff p hp))

end Axm57104.Dsa.TreeSetup
