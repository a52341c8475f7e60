import Axm57104.Dsa.TreeStages

/-!
# How the set up of a tree ends

The stages of `dsa_tree_setup` one after the other. `setupStages_cases` says how they can end: everything
is torn down again, or something is left behind on a marked path, or everything is set up.
-/

namespace Axm57104.Dsa.TreeSetup

open Common
open Fabric (PortId)

variable {cfg : Config} {t t' u : Tree} {p q : PortId} {ds : ℕ} {io : Calls Res} {L N X : Set Res}

/-! ## The assignment of CPU ports -/

/-- `t'` comes from `t` by changing CPU port pointers. -/
structure CpuStage (t t' : Tree) : Prop where
  rest : t' = { t with port := t'.port }
  port : ∀ p, t'.port p = { t.port p with cpuDp := (t'.port p).cpuDp }

namespace CpuStage

theorem refl (t : Tree) : CpuStage t t := ⟨rfl, fun _ => rfl⟩

theorem trans (h : CpuStage t t') (h' : CpuStage t' u) : CpuStage t u := by
  refine ⟨?_, fun p => ?_⟩
  · rw [h'.rest, h.rest]
  · rw [h'.port p, h.port p]

theorem foldl {round : Tree → PortId → Tree} (h : ∀ u p, CpuStage u (round u p)) (ps : List PortId)
    (t : Tree) : CpuStage t (ps.foldl round t) :=
  List.foldlRecOn ps round (.refl t) fun u hu p _ => hu.trans (h u p)

theorem setCpu (t : Tree) (p : PortId) (c : Option PortId) :
    CpuStage t { t with port := Function.update t.port p { t.port p with cpuDp := c } } := by
  refine ⟨rfl, fun q => ?_⟩
  by_cases hq : q = p
  · subst hq
    simp only [Function.update_self]
  · simp only [Function.update_of_ne hq]

theorem keeps (h : CpuStage t t') : Keeps t t' := by
  refine ⟨?_, fun p => ?_, ?_⟩
  · rw [h.rest]
    rfl
  · rw [h.port p]
    rfl
  · rw [h.rest]

theorem base (h : CpuStage t t') : base cfg t' = base cfg t := by
  have hres : ∀ p, portRes p (t'.port p) = portRes p (t.port p) := by
    intro p
    rw [h.port p]
    rfl
  have hrest : t'.tagOps = t.tagOps ∧ t'.sw = t.sw := by
    rw [h.rest]
    exact ⟨rfl, rfl⟩
  rw [TreeSetup.base, TreeSetup.base, hrest.1, hrest.2]
  simp only [hres]

theorem userOk (h : CpuStage t t') (hu : UserOk t) : UserOk t' := by
  intro p
  rw [h.port p]
  exact hu p

theorem setup (h : CpuStage t t') (p : PortId) : (t'.port p).setup = (t.port p).setup := by
  rw [h.port p]

end CpuStage

theorem cpuStage_assignCpu (c : PortId) (t : Tree) (p : PortId) : CpuStage t (assignCpu c t p) := by
  rw [assignCpu]
  split
  · exact .refl t
  · split
    · exact .setCpu t p _
    · exact .refl t

theorem cpuStage_dsaTreeSetupDefaultCpu (t : Tree) : CpuStage t (dsaTreeSetupDefaultCpu t).2 := by
  rw [dsaTreeSetupDefaultCpu]
  split
  · exact .refl t
  · exact .foldl (cpuStage_assignCpu _) _ _

theorem cpuStage_dsaTreeSetupCpuPorts (cfg : Config) (t : Tree) : CpuStage t (dsaTreeSetupCpuPorts cfg t).2 := by
  have hlocal : CpuStage t (t.ports.foldl (setupLocalCpu cfg) t) := by
    refine .foldl (fun u c => ?_) _ _
    rw [setupLocalCpu]
    split
    · exact .refl u
    · split
      · exact .refl u
      · exact .foldl (cpuStage_assignCpu c) _ _
  exact hlocal.trans (cpuStage_dsaTreeSetupDefaultCpu _)

theorem cpuStage_dsaTreeTeardownCpuPorts (t : Tree) : CpuStage t (dsaTreeTeardownCpuPorts t) := by
  rw [dsaTreeTeardownCpuPorts]
  refine .foldl (fun u p => ?_) _ _
  split
  · exact .setCpu u p none
  · exact .refl u

/-- A CPU port was found. -/
theorem exists_cpu_of_setupDefaultCpu (h : (dsaTreeSetupDefaultCpu t).1 = 0) :
    ∃ p ∈ t.ports, (t.port p).type = .cpu := by
  rw [dsaTreeSetupDefaultCpu] at h
  split at h
  · cases h
  · rename_i c hc
    exact ⟨c, List.mem_of_find?_eq_some hc, by simpa using List.find?_some hc⟩

/-! ## The stages -/

/-- No port and no switch is set up. -/
structure Down (t : Tree) : Prop where
  port : ∀ p, (t.port p).setup = false
  sw : ∀ ds, (t.sw ds).setup = false

theorem Down.base (h : Down t) : base cfg t = ∅ := by
  refine Set.eq_empty_iff_forall_notMem.mpr ?_
  rintro r (⟨p, hp⟩ | ⟨ds, hds⟩)
  · rw [portRes, h.port p] at hp
    cases hp
  · rw [switchRes, h.sw ds] at hds
    cases hds

/-- What is not changed once the CPU ports are assigned, whatever happens. -/
def Tree.routes (t : Tree) : (List Link × ℕ × List ℕ) × Bool := (t.links, t.setup)

/-- A set up that failed: the marks `m` were made, and `X` is left behind. -/
structure Failed (cfg : Config) (m : List Mark) (X : Set Res) (t t' : Tree) : Prop where
  keeps : Keeps t t'
  routes : t'.routes = t.routes
  marks : t'.marks = t.marks ++ m
  down : Down t'
  owns : t'.io.Owns X
  user : UserOk t'

/-- From ports that are down on, `dsa_tree_teardown_switches` and `dsa_tree_teardown_cpu_ports`. -/
theorem failed_of_ports (hkeeps : Keeps t u) (hroutes : u.routes = t.routes) {m : List Mark}
    (hmarks : u.marks = t.marks ++ m) (hport : ∀ p, (u.port p).setup = false)
    (hsw : ∀ ds, (∀ p ∈ u.ports, p.ds ≠ ds) → (u.sw ds).setup = false) (hX : Spare X u) (hb : Bal cfg X u) :
    Failed cfg m X t (dsaTreeTeardownCpuPorts (dsaTreeTeardownSwitches cfg u)) ∧
      (dsaTreeTeardownCpuPorts (dsaTreeTeardownSwitches cfg u)).dsaPtr = u.dsaPtr ∧
      (BusOk cfg u → BusOk cfg (dsaTreeTeardownCpuPorts (dsaTreeTeardownSwitches cfg u))) := by
  have hsd : SwitchDown cfg u (dsaTreeTeardownSwitches cfg u) := switchDown_dsaTreeTeardownSwitches u
  have hcpu := cpuStage_dsaTreeTeardownCpuPorts (dsaTreeTeardownSwitches cfg u)
  have hrest := hcpu.rest
  have hsdport : (dsaTreeTeardownSwitches cfg u).port = u.port := congrArg (fun r => r.1) hsd.rest
  have hdown : Down (dsaTreeTeardownCpuPorts (dsaTreeTeardownSwitches cfg u)) := by
    refine ⟨fun p => ?_, fun ds => ?_⟩
    · rw [hcpu.setup p, hsdport]
      exact hport p
    · rw [hrest]
      exact dsaTreeTeardownSwitches_down hsw ds
  have hbal := hsd.bal hX hb
  refine ⟨⟨hkeeps.trans (hsd.keeps.trans hcpu.keeps), ?_, ?_, hdown, ?_, hcpu.userOk hbal.user⟩, ?_, ?_⟩
  · rw [hrest]
    exact (congrArg (fun r => (r.2.1, r.2.2.1)) hsd.rest).trans hroutes
  · rw [hrest]
    exact hsd.marks.trans hmarks
  · have hio : (dsaTreeTeardownCpuPorts (dsaTreeTeardownSwitches cfg u)).io =
        (dsaTreeTeardownSwitches cfg u).io := by rw [hrest]
    rw [hio]
    refine hbal.owns.congr ?_
    rw [← hcpu.base, hdown.base, Set.empty_union]
  · rw [hrest]
    exact congrArg (fun r => r.2.2.2.2) hsd.rest
  · intro hbus
    rw [hrest]
    exact hsd.bus hbus

/-- The same after `dsa_tree_teardown_ports`. -/
theorem failed_of_teardownPorts (hkeeps : Keeps t u) (hroutes : u.routes = t.routes) {m : List Mark}
    (hmarks : u.marks = t.marks ++ m) (hport : ∀ p ∉ u.ports, (u.port p).setup = false)
    (hsw : ∀ ds, (∀ p ∈ u.ports, p.ds ≠ ds) → (u.sw ds).setup = false) (hno : NoPort X) (hX : Spare X u)
    (hb : Bal cfg X u) :
    let t' := dsaTreeTeardownCpuPorts (dsaTreeTeardownSwitches cfg (dsaTreeTeardownPorts u))
    Failed cfg m X t t' ∧ t'.dsaPtr = u.dsaPtr ∧ (BusOk cfg u → BusOk cfg t') := by
  have hps : PortStage cfg u.ports u (dsaTreeTeardownPorts u) := portStage_dsaTreeTeardownPorts rfl
  have hswEq := hps.sw
  obtain ⟨hfail, hptr, hbus⟩ := failed_of_ports (m := m)
    (hkeeps.trans hps.keeps) ((congrArg (fun r => (r.2.1, r.2.2.1)) hps.rest).trans hroutes)
    ((congrArg (fun r => r.2.2.2.2.2) hps.rest).trans hmarks) (dsaTreeTeardownPorts_down hport)
    (by rw [hps.keeps.ports, hswEq]; exact hsw) (by rw [Spare, hswEq]; exact hX) (hps.bal hno hb)
  refine ⟨hfail, hptr.trans (congrArg (fun r => r.2.2.2.2.1) hps.rest), fun h => hbus ?_⟩
  rw [BusOk, hswEq]
  exact h

/-- **The ports.** A failure leaves no port set up. -/
theorem dsaTreeSetupPorts_cases (cfg : Config) (hoff : ∀ p ∉ t.ports, (t.port p).setup = false) :
    PortStage cfg t.ports t (dsaTreeSetupPorts t).2 ∧
      ((dsaTreeSetupPorts t).1 ≠ 0 → ∀ p, ((dsaTreeSetupPorts t).2.port p).setup = false) := by
  have hdown : ∀ {u : Tree}, PortStage cfg t.ports t u → ∀ p, ((dsaTreeTeardownPorts u).port p).setup = false := by
    intro u hu
    refine dsaTreeTeardownPorts_down fun q hq => ?_
    rw [hu.keeps.ports] at hq
    rw [hu.off q hq]
    exact hoff q hq
  have hfirst : PortStage cfg t.ports t (notifyChain setupShared t.ports t).2 :=
    .chain (fun p hp u => portStage_setupShared hp u) t
  simp only [dsaTreeSetupPorts]
  split
  · exact ⟨hfirst.trans (portStage_dsaTreeTeardownPorts hfirst.keeps.ports), fun _ => hdown hfirst⟩
  · rw [hfirst.keeps.ports]
    have hsecond := hfirst.trans (.chain (fun p hp u => portStage_setupUnshared hp u) _)
    split
    · exact ⟨hsecond.trans (portStage_dsaTreeTeardownPorts hsecond.keeps.ports), fun _ => hdown hsecond⟩
    · exact ⟨hsecond, fun h => absurd rfl h⟩

/-- How `dsa_tree_setup_lags` ends. -/
theorem dsaTreeSetupLags_cases (cfg : Config) (t : Tree) :
    (dsaTreeSetupLags cfg t = (0, t) ∧ t.lags = false) ∨
    (dsaTreeSetupLags cfg t = (0, { t with marks := t.marks ++ [.lags] }) ∧ t.lags = true) ∨
    (∃ e, e ≠ 0 ∧ dsaTreeSetupLags cfg t = (e, { t with lags := false, io := t.io.ask.2 })) ∨
    dsaTreeSetupLags cfg t = (0, { t with lags := true, io := t.io.ask.2.take .lags }) := by
  simp only [dsaTreeSetupLags]
  split
  · cases hlags : t.lags with
    | false => exact .inl ⟨rfl, rfl⟩
    | true => exact .inr (.inl ⟨rfl, rfl⟩)
  · split
    · exact .inr (.inr (.inl ⟨_, by decide, rfl⟩))
    · exact .inr (.inr (.inr rfl))

/-- A set up that went through, with the marks `m`; what is held beyond the ports and switches is `X`. -/
structure Finished (cfg : Config) (m : List Mark) (X : Set Res) (t t' : Tree) : Prop where
  keeps : Keeps t t'
  links : t'.links = t.links
  setup : t'.setup = true
  marks : t'.marks = t.marks ++ m
  bal : Bal cfg X t'
  bus : BusOk cfg t'
  off : ∀ p ∉ t.ports, t'.port p = t.port p
  swOff : ∀ ds, (∀ p ∈ t.ports, p.ds ≠ ds) → t'.sw ds = t.sw ds
  ptr : ∀ p ∈ t.ports, (t.port p).type = .cpu → t'.dsaPtr (t.port p).conduit = some p
  other : ∀ dev, (∀ p ∈ t.ports, (t.port p).type = .cpu → (t.port p).conduit ≠ dev) →
    t'.dsaPtr dev = t.dsaPtr dev

theorem Keeps.conduitRes (h : Keeps t t') (ps : List PortId) : conduitRes cfg t' ps = conduitRes cfg t ps := by
  simp only [TreeSetup.conduitRes, h.cpu, h.conduit]

theorem Keeps.wired {ps : List PortId} (h : Keeps t t') (hw : Wired t ps) : Wired t' ps := by
  simp only [Wired, h.cpu, h.conduit]
  exact hw

theorem noPort_conduitRes (t : Tree) (ps : List PortId) : NoPort (conduitRes cfg t ps) := by
  rintro r ⟨q, -, -, hr⟩ p
  rw [owner_of_mem_devRes hr]
  exact Owner.noConfusion

theorem spare_conduitRes (t u : Tree) (ps : List PortId) : Spare (conduitRes cfg t ps) u := by
  rintro r ⟨q, -, -, hr⟩ ds howner
  exact Owner.noConfusion ((owner_of_mem_devRes hr).symm.trans howner)

theorem noDev_base (t u : Tree) (ps : List PortId) (hL : OfLinks L) : NoDev (base cfg t ∪ L) u ps := by
  rintro r ((⟨p, hp⟩ | ⟨ds, hds⟩) | hr) q - -
  · rw [owner_of_mem_portRes hp]
    exact Owner.noConfusion
  · rw [owner_of_mem_switchRes hds]
    exact Owner.noConfusion
  · rw [hL.owner hr]
    exact Owner.noConfusion

theorem NoPort.union (hL : NoPort L) (hX : NoPort X) : NoPort (L ∪ X) := fun r hr => hr.elim (hL r) (hX r)

theorem Spare.union (hL : Spare L t) (hX : Spare X t) : Spare (L ∪ X) t := fun r hr => hr.elim (hL r) (hX r)

/-- What `dsa_tree_setup` needs to start from, when the links `L` are held. -/
structure Ready (cfg : Config) (L : Set Res) (t : Tree) : Prop where
  nodup : t.ports.Nodup
  wired : Wired t t.ports
  down : Down t
  owns : t.io.Owns L
  links : OfLinks L
  user : UserOk t
  bus : BusOk cfg t
  ptr : ∀ dev, t.dsaPtr dev = none

/-- Some switches and ports of `t` have been set up, nothing else. -/
structure Mid (cfg : Config) (L : Set Res) (t t' : Tree) : Prop where
  keeps : Keeps t t'
  routes : t'.routes = t.routes
  marks : t'.marks = t.marks
  ptr : t'.dsaPtr = t.dsaPtr
  bal : Bal cfg L t'
  bus : BusOk cfg t'
  off : ∀ p ∉ t.ports, t'.port p = t.port p
  swOff : ∀ ds, (∀ p ∈ t.ports, p.ds ≠ ds) → t'.sw ds = t.sw ds

theorem SwitchUp.mid (h : SwitchUp cfg L t.ports t t') : Mid cfg L t t' := by
  have hport : t'.port = t.port := congrArg (fun r => r.1) h.rest
  exact ⟨h.keeps, congrArg (fun r => (r.2.1, r.2.2.1)) h.rest, h.marks, congrArg (fun r => r.2.2.2.2) h.rest,
    h.bal, h.bus, fun p _ => by rw [hport], h.off⟩

theorem Mid.ports (h : Mid cfg L t t') (hL : OfLinks L) (hs : PortStage cfg t'.ports t' u) : Mid cfg L t u := by
  have hsw := hs.sw
  rw [h.keeps.ports] at hs
  refine ⟨h.keeps.trans hs.keeps, (congrArg (fun r => (r.2.1, r.2.2.1)) hs.rest).trans h.routes,
    (congrArg (fun r => r.2.2.2.2.2) hs.rest).trans h.marks,
    (congrArg (fun r => r.2.2.2.2.1) hs.rest).trans h.ptr, hs.bal hL.noPort h.bal, ?_,
    fun p hp => (hs.off p hp).trans (h.off p hp), fun ds hds => ?_⟩
  · rw [BusOk, hsw]
    exact h.bus
  · rw [hsw]
    exact h.swOff ds hds

/-- The ports and switches that are not on the list are not set up. -/
theorem Mid.offDown (h : Mid cfg L t t') (hr : Ready cfg L t) :
    (∀ p ∉ t'.ports, (t'.port p).setup = false) ∧
      ∀ ds, (∀ p ∈ t'.ports, p.ds ≠ ds) → (t'.sw ds).setup = false := by
  rw [h.keeps.ports]
  refine ⟨fun p hp => ?_, fun ds hds => ?_⟩
  · rw [h.off p hp]
    exact hr.down.port p
  · rw [h.swOff ds hds]
    exact hr.down.sw ds

/-- A set up that failed and left nothing but the links behind. -/
def FailedClean (cfg : Config) (L : Set Res) (t t' : Tree) : Prop :=
  Failed cfg [] L t t' ∧ BusOk cfg t' ∧ ∀ dev, t'.dsaPtr dev = none

/-- The ports failed. -/
theorem ports_failed (hr : Ready cfg L t) (hmid : Mid cfg L t u) (hport : ∀ p, (u.port p).setup = false) :
    FailedClean cfg L t (dsaTreeTeardownCpuPorts (dsaTreeTeardownSwitches cfg u)) := by
  obtain ⟨hfail, hptr, hbus⟩ := failed_of_ports hmid.keeps hmid.routes (m := [])
    (by rw [List.append_nil]; exact hmid.marks) hport (hmid.offDown hr).2 (hr.links.spare u) hmid.bal
  refine ⟨hfail, hbus hmid.bus, fun dev => ?_⟩
  rw [hptr, hmid.ptr]
  exact hr.ptr dev

/-- The switches failed. -/
theorem switches_failed (hr : Ready cfg L t)
    (h : SwitchUp cfg L t.ports t u ∨ ∃ ds, SwitchStuck cfg L t.ports ds t u) :
    let t' := dsaTreeTeardownCpuPorts (dsaTreeTeardownSwitches cfg u)
    FailedClean cfg L t t' ∨
      ∃ ds, (∃ p ∈ t.ports, p.ds = ds) ∧
        Failed cfg [.mii ds] (L ∪ {r | r ∈ tagRes cfg (t.tagOps.getD 0) ds}) t t' := by
  rcases h with hup | ⟨ds, hst⟩
  · have hport : u.port = t.port := congrArg (fun r => r.1) hup.rest
    exact .inl (ports_failed hr hup.mid (by rw [hport]; exact hr.down.port))
  · have hport : u.port = t.port := congrArg (fun r => r.1) hst.rest
    -- the switch that is still connected is not set up, so that no tear down disconnects it
    have hspare : Spare {r | r ∈ tagRes cfg (t.tagOps.getD 0) ds} u := by
      rintro r hr d hd
      rw [(mem_tagRes.mp hr).2] at hd
      rw [← Owner.switch.inj hd]
      exact hst.down
    obtain ⟨hfail, -, -⟩ := failed_of_ports hst.keeps (congrArg (fun r => (r.2.1, r.2.2.1)) hst.rest)
      hst.marks (by rw [hport]; exact hr.down.port)
      (by
        rw [hst.keeps.ports]
        intro d hd
        rw [hst.off d hd]
        exact hr.down.sw d)
      ((hr.links.spare u).union hspare) hst.bal
    exact .inr ⟨ds, hst.mem, hfail⟩

theorem base_of_offConduits (hcore : u.core = t.core) (hrest : u.offConduits = t.offConduits) :
    base cfg u = base cfg t := by
  have hport : u.port = t.port := congrArg (fun r => r.1) hrest
  have hsw : u.sw = t.sw := congrArg (fun r => r.2.1) hrest
  have htag : u.tagOps = t.tagOps := congrArg (fun c => c.2.2.2.1) hcore
  rw [base, base, hport, hsw, htag]

/-- A conduit failed. -/
theorem conduits_failed (hr : Ready cfg L t) (hmid : Mid cfg L t u) {c : Tree} {pre : List PortId}
    (hcore : c.core = u.core) (hrest : c.offConduits = u.offConduits)
    (hown : c.io.Owns (base cfg u ∪ L ∪ conduitRes cfg u pre)) :
    let t' := dsaTreeTeardownCpuPorts (dsaTreeTeardownSwitches cfg
      (dsaTreeTeardownPorts { c with marks := c.marks ++ [.conduit] }))
    Failed cfg [.conduit] (L ∪ conduitRes cfg t pre) t t' ∧ t'.dsaPtr = c.dsaPtr := by
  have hport : c.port = u.port := congrArg (fun r => r.1) hrest
  have hsw : c.sw = u.sw := congrArg (fun r => r.2.1) hrest
  have hmarks : c.marks = u.marks := congrArg (fun r => r.2.2.2.2.2) hrest
  have hkeeps : Keeps u { c with marks := c.marks ++ [.conduit] } :=
    ⟨hcore, fun p => by simp only [hport], by rw [hmarks]; exact List.prefix_append _ _⟩
  have hbal : Bal cfg (L ∪ conduitRes cfg t pre) { c with marks := c.marks ++ [.conduit] } := by
    refine ⟨hown.congr ?_, fun p => ?_⟩
    · rw [hmid.keeps.conduitRes, ← base_of_offConduits hcore hrest, Set.union_assoc]
      rfl
    · simp only [hport]
      exact hmid.bal.user p
  obtain ⟨hoff, hswOff⟩ := hmid.offDown hr
  obtain ⟨hfail, hptr, -⟩ := failed_of_teardownPorts (hmid.keeps.trans hkeeps)
    ((congrArg (fun r => (r.2.2.1, r.2.2.2.1)) hrest).trans hmid.routes) (m := [.conduit])
    (congrArg (· ++ [Mark.conduit]) (hmarks.trans hmid.marks))
    (by rw [hkeeps.ports]; simp only [hport]; exact hoff)
    (by rw [hkeeps.ports]; simp only [hsw]; exact hswOff)
    (hr.links.noPort.union (noPort_conduitRes t pre)) ((hr.links.spare _).union (spare_conduitRes t _ pre)) hbal
  exact ⟨hfail, hptr⟩

/-- From `dsa_tree_teardown_conduit` on, with all conduits set up. -/
theorem failed_of_teardownConduit (cfg : Config) (hkeeps : Keeps t u) (hroutes : u.routes = t.routes) {m : List Mark}
    (hmarks : u.marks = t.marks ++ m) (hport : ∀ p ∉ u.ports, (u.port p).setup = false)
    (hsw : ∀ ds, (∀ p ∈ u.ports, p.ds ≠ ds) → (u.sw ds).setup = false) (hnodup : u.ports.Nodup)
    (hw : Wired u u.ports) (huser : UserOk u) (hL : OfLinks L)
    (hown : u.io.Owns (base cfg u ∪ L ∪ conduitRes cfg u u.ports))
    (hptr : ∀ dev, (∀ p ∈ u.ports, (u.port p).type = .cpu → (u.port p).conduit ≠ dev) → u.dsaPtr dev = none) :
    let t' := dsaTreeTeardownCpuPorts (dsaTreeTeardownSwitches cfg
      (dsaTreeTeardownPorts (dsaTreeTeardownConduit cfg u)))
    Failed cfg m L t t' ∧ (BusOk cfg u → BusOk cfg t') ∧ ∀ dev, t'.dsaPtr dev = none := by
  have hdown : ConduitDown (base cfg u ∪ L) u.ports u (dsaTreeTeardownConduit cfg u) :=
    teardownConduits hnodup hw hown (noDev_base u u u.ports hL)
  have hk : Keeps u (dsaTreeTeardownConduit cfg u) := keeps_dsaTreeTeardownConduit cfg u
  have hdport : (dsaTreeTeardownConduit cfg u).port = u.port := congrArg (fun r => r.1) hdown.rest
  have hdsw : (dsaTreeTeardownConduit cfg u).sw = u.sw := congrArg (fun r => r.2.1) hdown.rest
  have hdmarks : (dsaTreeTeardownConduit cfg u).marks = u.marks :=
    congrArg (fun r => r.2.2.2.2.2) hdown.rest
  have hbal : Bal cfg L (dsaTreeTeardownConduit cfg u) := by
    refine ⟨hdown.owns.congr ?_, by rw [UserOk, hdport]; exact huser⟩
    rw [base_of_offConduits hdown.core hdown.rest]
  obtain ⟨hfail, hfptr, hfbus⟩ := failed_of_teardownPorts (hkeeps.trans hk)
    ((congrArg (fun r => (r.2.2.1, r.2.2.2.1)) hdown.rest).trans hroutes) (hdmarks.trans hmarks)
    (by rw [hk.ports, hdport]; exact hport) (by rw [hk.ports, hdsw]; exact hsw) hL.noPort
    (hL.spare _) hbal
  refine ⟨hfail, fun hbus => hfbus (by rw [BusOk, hdsw]; exact hbus), fun dev => ?_⟩
  rw [hfptr]
  by_cases hdev : ∃ p ∈ u.ports, (u.port p).type = .cpu ∧ (u.port p).conduit = dev
  -- every conduit that points to a port is wired to one on the list
  · obtain ⟨p, hp, hcpu, rfl⟩ := hdev
    exact hdown.ptr p hp hcpu
  · exact hdown.other dev (hptr dev fun p hp hcpu heq => hdev ⟨p, hp, hcpu, heq⟩)

/-- The LAG table could not be allocated. -/
theorem lags_failed (hr : Ready cfg L t) (hmid : Mid cfg L t u) {c : Tree}
    (hc : ConduitUp cfg (base cfg u ∪ L) u.ports u c) :
    FailedClean cfg L t (dsaTreeTeardownCpuPorts (dsaTreeTeardownSwitches cfg (dsaTreeTeardownPorts
      (dsaTreeTeardownConduit cfg { c with lags := false, io := c.io.ask.2 })))) := by
  have hport : c.port = u.port := congrArg (fun r => r.1) hc.rest
  have hsw : c.sw = u.sw := congrArg (fun r => r.2.1) hc.rest
  have hmarks : c.marks = u.marks := congrArg (fun r => r.2.2.2.2.2) hc.rest
  have hports : c.ports = u.ports := congrArg (fun r => r.2.2.1) hc.core
  have hkeeps : Keeps u { c with lags := false, io := c.io.ask.2 } := .of_eq hc.core hport hmarks
  obtain ⟨hoff, hswOff⟩ := hmid.offDown hr
  obtain ⟨hfail, hbus, hptr⟩ := failed_of_teardownConduit cfg (hmid.keeps.trans hkeeps)
    ((congrArg (fun r => (r.2.2.1, r.2.2.2.1)) hc.rest).trans hmid.routes) (m := [])
    (by rw [List.append_nil]; exact hmarks.trans hmid.marks)
    (by simp only [hports, hport]; exact hoff) (by simp only [hports, hsw]; exact hswOff)
    (by simp only [hports, hmid.keeps.ports]; exact hr.nodup)
    (by
      simp only [hports, hmid.keeps.ports]
      exact hkeeps.wired (hmid.keeps.wired hr.wired))
    (by simp only [UserOk, hport]; exact hmid.bal.user) hr.links
    (by
      rw [hkeeps.conduitRes]
      simp only [hports]
      exact hc.owns.ask.congr (by rw [← base_of_offConduits hc.core hc.rest]; rfl))
    (by
      intro dev hdev
      simp only [hports, hport] at hdev
      rw [hc.other dev hdev, hmid.ptr]
      exact hr.ptr dev)
  exact ⟨hfail, hbus (by simp only [BusOk, hsw]; exact hmid.bus), hptr⟩

/-- Everything is set up, when `io` holds what the conduits need and `X`. -/
theorem finished_of (hmid : Mid cfg L t u) {c : Tree} (hc : ConduitUp cfg (base cfg u ∪ L) u.ports u c)
    (lags : Bool) {m : List Mark} (hown : io.Owns (base cfg u ∪ L ∪ conduitRes cfg u u.ports ∪ X)) :
    Finished cfg m (L ∪ conduitRes cfg t t.ports ∪ X) t
      { c with lags := lags, io := io, marks := c.marks ++ m, setup := true } := by
  have hport : c.port = u.port := congrArg (fun r => r.1) hc.rest
  have hsw : c.sw = u.sw := congrArg (fun r => r.2.1) hc.rest
  have hmarks : c.marks = u.marks := congrArg (fun r => r.2.2.2.2.2) hc.rest
  have hroutes := (congrArg (fun r => (r.2.2.1, r.2.2.2.1)) hc.rest).trans hmid.routes
  have hkeeps : Keeps u { c with lags := lags, io := io, marks := c.marks ++ m, setup := true } :=
    ⟨hc.core, fun p => by simp only [hport], by rw [hmarks]; exact List.prefix_append _ _⟩
  refine ⟨hmid.keeps.trans hkeeps, congrArg Prod.fst hroutes, rfl, ?_, ⟨?_, ?_⟩, ?_, ?_, ?_, ?_, ?_⟩
  · simp only [hmarks, hmid.marks]
  · refine hown.congr ?_
    rw [hmid.keeps.conduitRes, hmid.keeps.ports, Set.union_assoc, Set.union_assoc, ← Set.union_assoc L,
      ← base_of_offConduits hc.core hc.rest]
    rfl
  · simp only [UserOk, hport]
    exact hmid.bal.user
  · simp only [BusOk, hsw]
    exact hmid.bus
  · simp only [hport]
    exact hmid.off
  · simp only [hsw]
    exact hmid.swOff
  · intro p hp hcpu
    rw [← hmid.keeps.conduit p]
    exact hc.ptr p (by rwa [hmid.keeps.ports]) ((hmid.keeps.cpu p).mpr hcpu)
  · intro dev hdev
    rw [← hmid.ptr]
    refine hc.other dev fun p hp hcpu => ?_
    rw [hmid.keeps.conduit p]
    exact hdev p (by rwa [← hmid.keeps.ports]) ((hmid.keeps.cpu p).mp hcpu)

theorem lags_notMem_base : .lags ∉ base cfg t := by
  rintro (⟨p, hp⟩ | ⟨ds, hds⟩)
  · exact Owner.noConfusion (owner_of_mem_portRes hp)
  · exact Owner.noConfusion (owner_of_mem_switchRes hds)

theorem lags_notMem {ps : List PortId} (hL : OfLinks L) : .lags ∉ base cfg t ∪ L ∪ conduitRes cfg u ps := by
  rintro ((hmem | hmem) | ⟨q, -, -, hmem⟩)
  · exact lags_notMem_base hmem
  · obtain ⟨dl, hdl⟩ := hL _ hmem
    cases hdl
  · exact Owner.noConfusion (owner_of_mem_devRes hmem)

/-- The LAG table of a tree, if it has one. -/
def lagRes (t : Tree) : Set Res := {r | r = .lags ∧ t.lags = true}

/-- **How the set up of a tree can end.** -/
theorem setupStages_cases (hr : Ready cfg L t) :
    let s := setupStages cfg t
    (s.1 ≠ 0 ∧ (FailedClean cfg L t s.2 ∨
      (∃ ds, (∃ p ∈ t.ports, p.ds = ds) ∧
        Failed cfg [.mii ds] (L ∪ {r | r ∈ tagRes cfg (t.tagOps.getD 0) ds}) t s.2) ∨
      ∃ pre k post, t.ports = pre ++ k :: post ∧ (t.port k).type = .cpu ∧
        s.2.dsaPtr (t.port k).conduit = some k ∧ Failed cfg [.conduit] (L ∪ conduitRes cfg t pre) t s.2)) ∨
    (s.1 = 0 ∧ (Finished cfg [] (L ∪ conduitRes cfg t t.ports ∪ lagRes s.2) t s.2 ∨
      Finished cfg [.lags] (L ∪ conduitRes cfg t t.ports ∪ ∅) t s.2 ∧ s.2.lags = true)) := by
  simp only [setupStages]
  have hbal : Bal cfg L t := ⟨hr.owns.congr (by rw [hr.down.base, Set.empty_union]), hr.user⟩
  -- the stages in order; each error is dealt with before the next stage
  rcases dsaTreeSetupSwitches_cases hbal hr.links hr.bus with ⟨h0, hup⟩ | ⟨herr, v, hv, heq⟩
  rotate_left
  · rw [if_pos herr, heq]
    exact .inl ⟨herr, (switches_failed hr hv).imp id .inl⟩
  rw [if_neg (not_not.mpr h0)]
  obtain ⟨hstage, hpdown⟩ := dsaTreeSetupPorts_cases cfg (hup.mid.offDown hr).1
  have hmid := hup.mid.ports hr.links hstage
  by_cases h0 : (dsaTreeSetupPorts (dsaTreeSetupSwitches cfg t).2).1 = 0
  rotate_left
  · rw [if_pos h0]
    exact .inl ⟨h0, .inl (ports_failed hr hmid (hpdown h0))⟩
  rw [if_neg (not_not.mpr h0)]
  generalize (dsaTreeSetupPorts (dsaTreeSetupSwitches cfg t).2).2 = u at hmid
  have hnodup : u.ports.Nodup := by
    rw [hmid.keeps.ports]
    exact hr.nodup
  have hwired : Wired u u.ports := by
    rw [hmid.keeps.ports]
    exact hmid.keeps.wired hr.wired
  rcases dsaTreeSetupConduit_cases hnodup hwired hmid.bal.owns (noDev_base u u u.ports hr.links) with
    ⟨h0, hc⟩ | ⟨herr, pre, k, post, hps, hcpu, hcore, hrest, hptr, hio⟩
  rotate_left
  · rw [if_pos herr]
    obtain ⟨hfail, hfptr⟩ := conduits_failed hr hmid hcore hrest hio
    refine .inl ⟨herr, .inr (.inr ⟨pre, k, post, ?_, (hmid.keeps.cpu k).mp hcpu, ?_, hfail⟩)⟩
    · rw [← hmid.keeps.ports, hps]
    · rw [hfptr, ← hmid.keeps.conduit k, hptr]
  rw [if_neg (not_not.mpr h0)]
  generalize (dsaTreeSetupConduit cfg u).2 = c at hc
  -- no LAGs and no table, no LAGs but a stale table, no memory, a new table
  rcases dsaTreeSetupLags_cases cfg c with ⟨heq, hl⟩ | ⟨heq, hl⟩ | ⟨e, he, heq⟩ | heq
  · rw [heq, if_neg (not_not.mpr rfl)]
    refine .inr ⟨rfl, .inl ?_⟩
    have hnone : lagRes { c with setup := true } = ∅ := by simp [lagRes, hl]
    have hfin := finished_of hmid hc c.lags (m := []) (hc.owns.congr (Set.union_empty _).symm)
    rw [List.append_nil] at hfin
    rw [hnone]
    exact hfin
  · rw [heq, if_neg (not_not.mpr rfl)]
    refine .inr ⟨rfl, .inr ⟨?_, hl⟩⟩
    exact finished_of hmid hc c.lags (hc.owns.congr (Set.union_empty _).symm)
  · rw [heq, if_pos he]
    exact .inl ⟨he, .inl (lags_failed hr hmid hc)⟩
  · rw [heq, if_neg (not_not.mpr rfl)]
    refine .inr ⟨rfl, .inl ?_⟩
    have hown : (c.io.ask.2.take .lags).Owns (base cfg u ∪ L ∪ conduitRes cfg u u.ports ∪ {.lags}) :=
      (hc.owns.ask.take (lags_notMem hr.links)).congr Set.union_singleton.symm
    have hlags : lagRes { c with lags := true, io := c.io.ask.2.take .lags, setup := true } = {.lags} := by
      simp [lagRes]
    have hfin := finished_of hmid hc true (m := []) hown
    rw [List.append_nil] at hfin
    rw [hlags]
    exact hfin

end Axm57104.Dsa.TreeSetup
