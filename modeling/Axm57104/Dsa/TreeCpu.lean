import Mathlib.Data.List.Find
import Axm57104.Dsa.TreeEven

/-!
# The CPU ports of a tree

`dsa_tree_setup_cpu_ports` walks over the CPU ports and gives each one to the ports of its switch that have
none yet; `dsa_tree_setup_default_cpu` gives the first CPU port of the tree to the others. `cpuOf` says which
CPU port a port ends with, without the loops. While a tree is set up, its user and DSA ports have this CPU
port, and while it is not set up they have none.
-/

namespace Axm57104.Dsa.TreeSetup

open Common
open Fabric (PortId)

variable {cfg : Config} {t t' u v w : Tree} {c p q : PortId} {ds : ℕ} {r : Reg}

/-- `c` may be the CPU port of the ports of the switch `ds`: it is a CPU port of this switch, and the driver
does not prefer another one. -/
def Candidate (cfg : Config) (t : Tree) (ds : ℕ) (c : PortId) : Prop :=
  (t.port c).type = .cpu ∧ c.ds = ds ∧ ∀ c' ∈ dsaSwitchPreferredDefaultLocalCpuPort cfg t ds, c' = c

instance (ds : ℕ) : DecidablePred (Candidate cfg t ds) := fun _ =>
  inferInstanceAs (Decidable (_ ∧ _ ∧ ∀ _ ∈ _, _))

/-- The CPU port of the ports of the switch `ds`: the first candidate of the switch, or else the first CPU
port of the tree. -/
def cpuOf (cfg : Config) (t : Tree) (ds : ℕ) : Option PortId :=
  (t.ports.find? (Candidate cfg t ds)).or (dsaTreeFindFirstCpu t)

/-! ## The loops of the assignment -/

namespace CpuStage

theorem type (h : CpuStage t t') (p : PortId) : (t'.port p).type = (t.port p).type := by
  rw [h.port p]

theorem client (h : CpuStage t t') (p : PortId) : (t'.port p).client = (t.port p).client := by
  rw [h.port p]
  rfl

theorem ports (h : CpuStage t t') : t'.ports = t.ports := by
  rw [h.rest]

end CpuStage

/-- The choice depends on the types of the ports only. -/
theorem preferred_congr (htype : ∀ c, c.ds = ds → ((t'.port c).type = .cpu ↔ (t.port c).type = .cpu)) :
    dsaSwitchPreferredDefaultLocalCpuPort cfg t' ds = dsaSwitchPreferredDefaultLocalCpuPort cfg t ds := by
  rw [dsaSwitchPreferredDefaultLocalCpuPort, dsaSwitchPreferredDefaultLocalCpuPort]
  cases cfg.preferred ds with
  | none => rfl
  | some c =>
      rw [Option.filter_some, Option.filter_some]
      by_cases hc : c.ds = ds
      · simp only [htype c hc]
      · simp only [hc, and_false]

theorem candidate_congr (htype : ∀ c, c.ds = ds → ((t'.port c).type = .cpu ↔ (t.port c).type = .cpu)) (c : PortId) :
    Candidate cfg t' ds c ↔ Candidate cfg t ds c := by
  rw [Candidate, Candidate, preferred_congr htype]
  constructor
  · rintro ⟨hcpu, hc, hpref⟩
    exact ⟨(htype c hc).mp hcpu, hc, hpref⟩
  · rintro ⟨hcpu, hc, hpref⟩
    exact ⟨(htype c hc).mpr hcpu, hc, hpref⟩

theorem findFirstCpu_congr (hports : t'.ports = t.ports)
    (htype : ∀ c ∈ t.ports, (t'.port c).type = .cpu ↔ (t.port c).type = .cpu) :
    dsaTreeFindFirstCpu t' = dsaTreeFindFirstCpu t := by
  rw [dsaTreeFindFirstCpu, dsaTreeFindFirstCpu, hports]
  apply List.find?_congr
  intro c hc
  rw [decide_eq_decide]
  exact htype c hc

theorem cpuOf_congr (hports : t'.ports = t.ports)
    (hlocal : ∀ c, c.ds = ds → ((t'.port c).type = .cpu ↔ (t.port c).type = .cpu))
    (htype : ∀ c ∈ t.ports, (t'.port c).type = .cpu ↔ (t.port c).type = .cpu) :
    cpuOf cfg t' ds = cpuOf cfg t ds := by
  have hfirst : t'.ports.find? (Candidate cfg t' ds) = t.ports.find? (Candidate cfg t ds) := by
    rw [hports]
    apply List.find?_congr
    intro c _
    rw [decide_eq_decide]
    exact candidate_congr hlocal c
  rw [cpuOf, cpuOf, hfirst, findFirstCpu_congr hports htype]

theorem cpuDp_assignCpu (hq : (t.port q).client) (c p : PortId) :
    ((assignCpu c t p).port q).cpuDp = if q = p then (t.port q).cpuDp.or (some c) else (t.port q).cpuDp := by
  rw [assignCpu]
  by_cases hqp : q = p
  · subst hqp
    rw [if_pos rfl]
    cases hcpu : (t.port q).cpuDp with
    | some c' => simp [hcpu]
    | none => simp [hq]
  · rw [if_neg hqp]
    split
    · rfl
    · split
      · simp only [Function.update_of_ne hqp]
      · rfl

/-- One CPU port for all the ports on a list. -/
theorem cpuDp_foldl_assignCpu (hq : (t.port q).client) (c : PortId) (ps : List PortId) :
    ((ps.foldl (assignCpu c) t).port q).cpuDp =
      if q ∈ ps then (t.port q).cpuDp.or (some c) else (t.port q).cpuDp := by
  induction ps generalizing t with
  | nil => rfl
  | cons p ps ih =>
      have hstage := cpuStage_assignCpu c t p
      rw [List.foldl_cons, ih (by rw [hstage.client]; exact hq), cpuDp_assignCpu hq]
      by_cases hqp : q = p
      · subst hqp
        -- once it is assigned, a CPU port stays
        rw [if_pos rfl, if_pos List.mem_cons_self, Option.or_assoc, Option.or_self, ite_self]
      · rw [if_neg hqp]
        simp only [List.mem_cons, hqp, false_or]

theorem cpuStage_setupLocalCpu (cfg : Config) (t : Tree) (c : PortId) : CpuStage t (setupLocalCpu cfg t c) := by
  rw [setupLocalCpu]
  split
  · exact .refl t
  · split
    · exact .refl t
    · exact .foldl (cpuStage_assignCpu c) _ _

/-- One round of `dsa_tree_setup_cpu_ports` serves the ports for which its CPU port is a candidate. -/
theorem cpuDp_setupLocalCpu (hq : (t.port q).client) (hmem : q ∈ t.ports) (c : PortId) :
    ((setupLocalCpu cfg t c).port q).cpuDp =
      if Candidate cfg t q.ds c then (t.port q).cpuDp.or (some c) else (t.port q).cpuDp := by
  rw [setupLocalCpu]
  by_cases hcpu : (t.port c).type = .cpu
  -- either the driver prefers another CPU port, or `c` is a candidate of its switch
  · rw [if_neg (not_not.mpr hcpu)]
    by_cases hpref : ∃ c' ∈ dsaSwitchPreferredDefaultLocalCpuPort cfg t c.ds, c' ≠ c
    · rw [if_pos hpref, if_neg]
      rintro ⟨-, hds, hall⟩
      obtain ⟨c', hc', hne⟩ := hpref
      rw [hds] at hc'
      exact hne (hall c' hc')
    · rw [if_neg hpref, cpuDp_foldl_assignCpu hq]
      have hiff : q ∈ t.ports.filter (fun p => p.ds = c.ds) ↔ Candidate cfg t q.ds c := by
        rw [List.mem_filter, decide_eq_true_eq]
        constructor
        · rintro ⟨-, hds⟩
          refine ⟨hcpu, hds.symm, fun c' hc' => ?_⟩
          rw [hds] at hc'
          exact not_not.mp fun hne => hpref ⟨c', hc', hne⟩
        · rintro ⟨-, hds, -⟩
          exact ⟨hmem, hds.symm⟩
      simp only [hiff]
  · rw [if_pos hcpu, if_neg]
    rintro ⟨h, -⟩
    exact hcpu h

/-- **The walk over the CPU ports** gives a port without CPU port the first candidate of its switch. -/
theorem cpuDp_foldl_setupLocalCpu (hq : (t.port q).client) (hmem : q ∈ t.ports) (cs : List PortId) :
    ((cs.foldl (setupLocalCpu cfg) t).port q).cpuDp =
      (t.port q).cpuDp.or (cs.find? (Candidate cfg t q.ds)) := by
  induction cs generalizing t with
  | nil => rw [List.find?_nil, Option.or_none, List.foldl_nil]
  | cons c cs ih =>
      have hstage := cpuStage_setupLocalCpu cfg t c
      have hsame : cs.find? (Candidate cfg (setupLocalCpu cfg t c) q.ds) = cs.find? (Candidate cfg t q.ds) := by
        apply List.find?_congr
        intro c' _
        rw [decide_eq_decide]
        exact candidate_congr (fun d _ => by rw [hstage.type]) c'
      rw [List.foldl_cons, ih (by rw [hstage.client]; exact hq) (by rw [hstage.ports]; exact hmem), hsame,
        cpuDp_setupLocalCpu hq hmem, List.find?_cons]
      by_cases hc : Candidate cfg t q.ds c
      · rw [if_pos hc, decide_eq_true hc, Option.or_assoc, Option.some_or]
      · rw [if_neg hc, decide_eq_false hc]

theorem cpuDp_setupDefaultCpu (hq : (t.port q).client) (hmem : q ∈ t.ports) :
    ((dsaTreeSetupDefaultCpu t).2.port q).cpuDp = (t.port q).cpuDp.or (dsaTreeFindFirstCpu t) := by
  rw [dsaTreeSetupDefaultCpu]
  cases dsaTreeFindFirstCpu t with
  | none => rw [Option.or_none]
  | some c => exact (cpuDp_foldl_assignCpu hq c t.ports).trans (if_pos hmem)

/-- **The assignment of CPU ports.** -/
theorem cpuDp_dsaTreeSetupCpuPorts (hq : (t.port q).client) (hmem : q ∈ t.ports)
    (hnone : (t.port q).cpuDp = none) :
    ((dsaTreeSetupCpuPorts cfg t).2.port q).cpuDp = cpuOf cfg t q.ds := by
  have hstage : CpuStage t (t.ports.foldl (setupLocalCpu cfg) t) := .foldl (cpuStage_setupLocalCpu cfg) _ _
  have hfirst : dsaTreeFindFirstCpu (t.ports.foldl (setupLocalCpu cfg) t) = dsaTreeFindFirstCpu t :=
    findFirstCpu_congr hstage.ports fun c _ => by rw [hstage.type]
  rw [dsaTreeSetupCpuPorts,
    cpuDp_setupDefaultCpu (by rw [hstage.client]; exact hq) (by rw [hstage.ports]; exact hmem), hfirst,
    cpuDp_foldl_setupLocalCpu hq hmem, hnone, Option.none_or, cpuOf]

/-- Without a CPU port nothing is assigned. -/
theorem dsaTreeSetupCpuPorts_failed (h : (dsaTreeSetupCpuPorts cfg t).1 ≠ 0) : (dsaTreeSetupCpuPorts cfg t).2 = t := by
  have hstage : CpuStage t (t.ports.foldl (setupLocalCpu cfg) t) := .foldl (cpuStage_setupLocalCpu cfg) _ _
  rw [dsaTreeSetupCpuPorts, dsaTreeSetupDefaultCpu] at h ⊢
  split at h
  swap
  · exact absurd rfl h
  rename_i hfirst
  simp only
  have hno : ∀ c ∈ t.ports, (t.port c).type ≠ .cpu := by
    rw [findFirstCpu_congr hstage.ports fun c _ => by rw [hstage.type], dsaTreeFindFirstCpu, List.find?_eq_none] at hfirst
    simpa using hfirst
  refine List.foldlRecOn (motive := fun u => u = t) t.ports _ rfl fun u hu c hc => ?_
  rw [hu, setupLocalCpu, if_pos (hno c hc)]

/-! ## What setting up and tearing down does not change -/

/-- `t'` comes from `t` without a change to the CPU ports. A port may have become unused. -/
structure CpuFrame (t t' : Tree) : Prop where
  setup : t'.setup = t.setup
  cpuDp : ∀ p, (t'.port p).cpuDp = (t.port p).cpuDp
  client : ∀ p, (t'.port p).client → (t.port p).client

namespace CpuFrame

theorem of_eq (hset : t'.setup = t.setup) (hport : t'.port = t.port) : CpuFrame t t' :=
  ⟨hset, fun p => by rw [hport], fun p => by rw [hport]; exact id⟩

theorem refl (t : Tree) : CpuFrame t t := of_eq rfl rfl

theorem trans (h : CpuFrame t t') (h' : CpuFrame t' u) : CpuFrame t u :=
  ⟨h'.setup.trans h.setup, fun p => (h'.cpuDp p).trans (h.cpuDp p), fun p hp => h.client p (h'.client p hp)⟩

/-- One port is written. -/
theorem setPort {dp : Port} (hset : t'.setup = t.setup) (hport : t'.port = Function.update t.port p dp)
    (hcpu : dp.cpuDp = (t.port p).cpuDp) (hclient : dp.client → (t.port p).client) : CpuFrame t t' := by
  refine ⟨hset, fun q => ?_, fun q => ?_⟩
  all_goals
    rw [hport]
    by_cases hq : q = p
  · subst hq
    rw [Function.update_self, hcpu]
  · rw [Function.update_of_ne hq]
  · subst hq
    rw [Function.update_self]
    exact hclient
  · rw [Function.update_of_ne hq]
    exact id

theorem foldl {round : Tree → PortId → Tree} (h : ∀ u p, CpuFrame u (round u p)) (ps : List PortId) (t : Tree) :
    CpuFrame t (ps.foldl round t) :=
  List.foldlRecOn ps round (.refl t) fun u hu p _ => hu.trans (h u p)

theorem chain {round : PortId → Tree → ℤ × Tree} (h : ∀ p u, CpuFrame u (round p u).2) (ps : List PortId)
    (t : Tree) : CpuFrame t (notifyChain round ps t).2 :=
  notifyChain_keeps (fun p u hu => hu.trans (h p u)) ps (.refl t)

end CpuFrame

theorem cpuFrame_dsaPortSetup (p : PortId) (t : Tree) : CpuFrame t (dsaPortSetup p t).2 := by
  simp only [dsaPortSetup]
  split
  · exact .refl t
  · split
    · exact .of_eq rfl rfl
    · split
      · exact .setPort rfl rfl rfl id
      · exact .setPort rfl rfl rfl id

theorem cpuFrame_dsaPortTeardown (p : PortId) (t : Tree) : CpuFrame t (dsaPortTeardown p t) := by
  rw [dsaPortTeardown]
  split
  · exact .setPort rfl rfl rfl id
  · exact .refl t

theorem cpuFrame_dsaTreeTeardownPorts (t : Tree) : CpuFrame t (dsaTreeTeardownPorts t) := by
  have hloop : ∀ b (u : Tree), CpuFrame u (teardownLoop b u) := by
    intro b u
    refine .foldl (fun v p => ?_) u.ports u
    split
    · exact cpuFrame_dsaPortTeardown p v
    · exact .refl v
  exact (hloop false t).trans (hloop true _)

/-- A port that becomes unused is no client any more. -/
theorem cpuFrame_dsaPortSetupAsUnused (p : PortId) (t : Tree) : CpuFrame t (dsaPortSetupAsUnused p t).2 := by
  have hunused : CpuFrame t { t with port := Function.update t.port p { t.port p with type := .unused } } := by
    refine .setPort (p := p) rfl rfl rfl fun h => ?_
    simp [Port.client] at h
  exact hunused.trans (cpuFrame_dsaPortSetup p _)

theorem cpuFrame_dsaTreeSetupPorts (t : Tree) : CpuFrame t (dsaTreeSetupPorts t).2 := by
  have hfirst : CpuFrame t (notifyChain setupShared t.ports t).2 := by
    refine .chain (fun p u => ?_) t.ports t
    rw [setupShared]
    split
    · exact cpuFrame_dsaPortSetup p u
    · exact .refl u
  have hsecond : ∀ u : Tree, CpuFrame u (notifyChain setupUnshared u.ports u).2 := by
    refine fun u => .chain (fun p v => ?_) u.ports u
    simp only [setupUnshared]
    split
    · exact .refl v
    · have hset := cpuFrame_dsaPortSetup p v
      split
      · exact hset.trans (cpuFrame_dsaPortSetupAsUnused p _)
      · exact hset
  simp only [dsaTreeSetupPorts]
  split
  · exact hfirst.trans (cpuFrame_dsaTreeTeardownPorts _)
  · have hboth := hfirst.trans (hsecond _)
    split
    · exact hboth.trans (cpuFrame_dsaTreeTeardownPorts _)
    · exact hboth

theorem cpuFrame_dsaTreeTeardownSwitches (cfg : Config) (t : Tree) : CpuFrame t (dsaTreeTeardownSwitches cfg t) := by
  refine .foldl (fun u p => ?_) t.ports t
  rw [dsaSwitchTeardown]
  split
  · exact .of_eq rfl rfl
  · exact .refl u

theorem cpuFrame_dsaSwitchSetup (cfg : Config) (ds : ℕ) (t : Tree) : CpuFrame t (dsaSwitchSetup cfg ds t).2 := by
  simp only [dsaSwitchSetup]
  repeat' split
  all_goals exact .of_eq rfl rfl

theorem cpuFrame_dsaTreeSetupSwitches (cfg : Config) (t : Tree) : CpuFrame t (dsaTreeSetupSwitches cfg t).2 := by
  have hchain : CpuFrame t (notifyChain (fun p : PortId => dsaSwitchSetup cfg p.ds) t.ports t).2 :=
    .chain (fun p u => cpuFrame_dsaSwitchSetup cfg p.ds u) t.ports t
  simp only [dsaTreeSetupSwitches]
  split
  · exact hchain.trans (cpuFrame_dsaTreeTeardownSwitches cfg _)
  · exact hchain

theorem cpuFrame_dsaTreeSetupConduit (cfg : Config) (t : Tree) : CpuFrame t (dsaTreeSetupConduit cfg t).2 := by
  refine .chain (fun p u => ?_) t.ports t
  simp only [setupConduit, dsaConduitSetup]
  repeat' split
  all_goals exact .of_eq rfl rfl

theorem cpuFrame_dsaTreeTeardownConduit (cfg : Config) (t : Tree) : CpuFrame t (dsaTreeTeardownConduit cfg t) := by
  refine .foldl (fun u p => ?_) t.ports t
  split
  · exact .of_eq rfl rfl
  · exact .refl u

theorem cpuFrame_dsaTreeSetupLags (cfg : Config) (t : Tree) : CpuFrame t (dsaTreeSetupLags cfg t).2 := by
  simp only [dsaTreeSetupLags]
  repeat' split
  all_goals exact .of_eq rfl rfl

/-- After `dsa_tree_teardown_cpu_ports` no port has a CPU port. -/
theorem cpuDp_dsaTreeTeardownCpuPorts (hp : p ∈ t.ports) (hclient : ((dsaTreeTeardownCpuPorts t).port p).client) :
    ((dsaTreeTeardownCpuPorts t).port p).cpuDp = none := by
  rw [dsaTreeTeardownCpuPorts] at hclient ⊢
  refine foldl_achieves (Q := fun p (u : Tree) => (u.port p).client → (u.port p).cpuDp = none) ?_ ?_ p hp hclient
  · intro p q u hu
    split
    · by_cases hpq : p = q
      · subst hpq
        simp only [Function.update_self]
        exact fun _ => trivial
      · simp only [Function.update_of_ne hpq]
        exact hu
    · exact hu
  · intro p u hclient
    split
    · simp only [Function.update_self]
    · rename_i hnot
      rw [if_neg hnot] at hclient
      exact absurd hclient hnot

/-! ## One set up -/

/-- A tree that is not set up, without CPU ports assigned. -/
structure Bare (t : Tree) : Prop where
  setup : t.setup = false
  none : ∀ p ∈ t.ports, (t.port p).client → (t.port p).cpuDp = none

/-- A user or DSA port has its CPU port while the tree is set up, and none while it is not. -/
structure CpuOk (cfg : Config) (t : Tree) : Prop where
  off : t.setup = false → ∀ p ∈ t.ports, (t.port p).client → (t.port p).cpuDp = none
  up : t.setup = true → ∃ c ∈ t.ports, (t.port c).type = .cpu
  cpu : t.setup = true → ∀ p ∈ t.ports, (t.port p).client → (t.port p).cpuDp = cpuOf cfg t p.ds

theorem CpuOk.bare (h : CpuOk cfg t) (hset : t.setup = false) : Bare t := ⟨hset, h.off hset⟩

theorem Bare.cpuOk (h : Bare t) : CpuOk cfg t where
  off := fun _ => h.none
  up := fun hset => absurd (h.setup.symm.trans hset) Bool.false_ne_true
  cpu := fun hset => absurd (h.setup.symm.trans hset) Bool.false_ne_true

theorem port_setupRoutes (ps : List PortId) (t : Tree) : (setupRoutes cfg ps t).2.port = t.port := by
  have htouch : ∀ p link (u : Tree), (dsaLinkTouch p link u).2.port = u.port := by
    intro p link u
    simp only [dsaLinkTouch]
    repeat' split
    all_goals rfl
  have hlinks : ∀ p dns (u : Tree), (setupLinks p dns u).2.port = u.port := by
    intro p dns
    induction dns with
    | nil => exact fun u => rfl
    | cons dn dns ih =>
        intro u
        rw [setupLinks]
        split
        · rfl
        · simp only
          split
          · rw [ih, htouch]
          · exact htouch _ _ _
  induction ps generalizing t with
  | nil => rfl
  | cons p ps ih =>
      rw [setupRoutes]
      split
      · have hport : (dsaPortSetupRoutingTable cfg p t).2.port = t.port := hlinks _ _ _
        simp only
        split
        · rw [ih, hport]
        · exact hport
      · exact ih t

/-- What the error path of `dsa_tree_setup` ends with. -/
theorem bare_teardownCpuPorts (h : CpuFrame t u) (hset : t.setup = false) : Bare (dsaTreeTeardownCpuPorts u) := by
  have hstage := cpuStage_dsaTreeTeardownCpuPorts u
  refine ⟨?_, fun p hp hclient => ?_⟩
  · rw [hstage.rest]
    exact h.setup.trans hset
  · rw [hstage.ports] at hp
    exact cpuDp_dsaTreeTeardownCpuPorts hp hclient

/-- **The stages** keep the CPU ports, or take them back. -/
theorem setupStages_cpu (cfg : Config) (hset : t.setup = false) :
    (setupStages cfg t).1 ≠ 0 ∧ Bare (setupStages cfg t).2 ∨
      (setupStages cfg t).1 = 0 ∧ (setupStages cfg t).2.setup = true ∧
        ∃ u, CpuFrame t u ∧ (setupStages cfg t).2.port = u.port := by
  have hundo : ∀ u, CpuFrame t u →
      Bare (dsaTreeTeardownCpuPorts (dsaTreeTeardownSwitches cfg (dsaTreeTeardownPorts u))) := by
    intro u hu
    apply bare_teardownCpuPorts (t := t) _ hset
    exact hu.trans ((cpuFrame_dsaTreeTeardownPorts u).trans (cpuFrame_dsaTreeTeardownSwitches cfg _))
  have hs := cpuFrame_dsaTreeSetupSwitches cfg t
  simp only [setupStages]
  split
  · exact .inl ⟨by assumption, bare_teardownCpuPorts hs hset⟩
  have hp := hs.trans (cpuFrame_dsaTreeSetupPorts _)
  split
  · refine .inl ⟨by assumption, ?_⟩
    exact bare_teardownCpuPorts (hp.trans (cpuFrame_dsaTreeTeardownSwitches cfg _)) hset
  have hc := hp.trans (cpuFrame_dsaTreeSetupConduit cfg _)
  split
  · exact .inl ⟨by assumption, hundo _ ⟨hc.setup, hc.cpuDp, hc.client⟩⟩
  have hl := hc.trans (cpuFrame_dsaTreeSetupLags cfg _)
  split
  · dsimp only
    exact .inl ⟨by assumption, hundo _ (hl.trans (cpuFrame_dsaTreeTeardownConduit cfg _))⟩
  · exact .inr ⟨rfl, rfl, _, hl, rfl⟩

theorem fst_dsaTreeSetupDefaultCpu (t : Tree) :
    (dsaTreeSetupDefaultCpu t).1 = if (dsaTreeFindFirstCpu t).isSome then 0 else -EINVAL := by
  rw [dsaTreeSetupDefaultCpu]
  cases dsaTreeFindFirstCpu t <;> rfl

/-- **The assignment**, with the second call of `dsa_tree_setup_default_cpu`, which changes nothing any more. -/
theorem assigned_of_setupCpuPorts (h : Bare t) (h0 : (dsaTreeSetupCpuPorts cfg t).1 = 0) :
    (dsaTreeSetupDefaultCpu (dsaTreeSetupCpuPorts cfg t).2).1 = 0 ∧ (∃ c ∈ t.ports, (t.port c).type = .cpu) ∧
      ∀ p ∈ t.ports, (t.port p).client →
        ((dsaTreeSetupDefaultCpu (dsaTreeSetupCpuPorts cfg t).2).2.port p).cpuDp = cpuOf cfg t p.ds := by
  have hstage := cpuStage_dsaTreeSetupCpuPorts cfg t
  have hfirst : dsaTreeFindFirstCpu (dsaTreeSetupCpuPorts cfg t).2 = dsaTreeFindFirstCpu t :=
    findFirstCpu_congr hstage.ports fun c _ => by rw [hstage.type]
  have hsome : ∃ c ∈ t.ports, (t.port c).type = .cpu := by
    have hlocal : CpuStage t (t.ports.foldl (setupLocalCpu cfg) t) := .foldl (cpuStage_setupLocalCpu cfg) _ _
    obtain ⟨c, hc, hcpu⟩ := exists_cpu_of_setupDefaultCpu h0
    rw [hlocal.ports] at hc
    rw [hlocal.type] at hcpu
    exact ⟨c, hc, hcpu⟩
  refine ⟨?_, hsome, fun p hp hclient => ?_⟩
  · obtain ⟨c, hc, hcpu⟩ := hsome
    rw [fst_dsaTreeSetupDefaultCpu, hfirst, if_pos]
    rw [dsaTreeFindFirstCpu, List.find?_isSome]
    exact ⟨c, hc, decide_eq_true hcpu⟩
  · rw [cpuDp_setupDefaultCpu (by rw [hstage.client]; exact hclient) (by rw [hstage.ports]; exact hp), hfirst,
      cpuDp_dsaTreeSetupCpuPorts hclient hp (h.none p hp hclient), cpuOf, Option.or_assoc, Option.or_self]

/-- **The set up of a tree.** Either it ends with an error or with an incomplete tree, and no port has a CPU port,
or the tree is set up and every port has its own. -/
theorem dsaTreeSetup_cpu (h : Bare t) :
    Bare (dsaTreeSetup cfg t).2 ∨ (dsaTreeSetup cfg t).1 = 0 ∧ CpuOk cfg (dsaTreeSetup cfg t).2 := by
  rw [dsaTreeSetup, if_neg (by rw [h.setup]; exact Bool.false_ne_true)]
  have hidle : Idle t (dsaTreeSetupRoutingTable cfg t).2 := idle_setupRoutes t.ports t
  have hport : (dsaTreeSetupRoutingTable cfg t).2.port = t.port := port_setupRoutes t.ports t
  generalize dsaTreeSetupRoutingTable cfg t = s at hidle hport
  have hbare : Bare s.2 := by
    refine ⟨?_, ?_⟩
    · rw [hidle.rest]
      exact h.setup
    · rw [hidle.keeps.ports, hport]
      exact h.none
  simp only
  split
  · exact .inl hbare
  split
  · rename_i herr
    rw [dsaTreeSetupCpuPorts_failed herr]
    exact .inl hbare
  rename_i h0
  obtain ⟨hok, ⟨c, hc, hcpu⟩, hassigned⟩ := assigned_of_setupCpuPorts hbare (not_not.mp h0)
  rw [if_neg (not_not.mpr hok)]
  have hboth := (cpuStage_dsaTreeSetupCpuPorts cfg s.2).trans (cpuStage_dsaTreeSetupDefaultCpu _)
  have hset : (dsaTreeSetupDefaultCpu (dsaTreeSetupCpuPorts cfg s.2).2).2.setup = false := by
    rw [hboth.rest]
    exact hbare.setup
  have hkeeps := hboth.keeps.trans (keeps_setupStages cfg _)
  rcases setupStages_cpu cfg hset with ⟨-, hbare'⟩ | ⟨h0', hset', u, hframe, hport'⟩
  · exact .inl hbare'
  · refine .inr ⟨h0', fun hs => absurd (hset'.symm.trans hs) Bool.true_eq_false.mp, fun _ => ?_,
      fun _ p hp hclient => ?_⟩
    · exact ⟨c, by rw [hkeeps.ports]; exact hc, (hkeeps.cpu c).mpr hcpu⟩
    · rw [cpuOf_congr hkeeps.ports (fun c _ => hkeeps.cpu c) fun c _ => hkeeps.cpu c, hport', hframe.cpuDp]
      rw [hport'] at hclient
      -- a port that has become unused is no client any more
      apply hassigned p (by rw [← hkeeps.ports]; exact hp)
      rw [← hboth.client]
      exact hframe.client p hclient

/-! ## Parsing -/

/-- `t'` has the ports of `t`, with the same CPU ports. -/
structure SameCpu (t t' : Tree) : Prop where
  ports : t'.ports = t.ports
  cpuDp : ∀ q, (t'.port q).cpuDp = (t.port q).cpuDp

namespace SameCpu

theorem of_eq (hports : t'.ports = t.ports) (hport : t'.port = t.port) : SameCpu t t' :=
  ⟨hports, fun q => by rw [hport]⟩

theorem trans (h : SameCpu t t') (h' : SameCpu t' u) : SameCpu t u :=
  ⟨h'.ports.trans h.ports, fun q => (h'.cpuDp q).trans (h.cpuDp q)⟩

theorem set (t : Tree) {dp : Port} (h : dp.cpuDp = (t.port p).cpuDp) :
    SameCpu t { t with port := Function.update t.port p dp } := by
  refine ⟨rfl, fun q => ?_⟩
  by_cases hq : q = p
  · subst hq
    simp only [Function.update_self, h]
  · simp only [Function.update_of_ne hq]

end SameCpu

theorem sameCpu_setTagOps (g : ℕ) (t : Tree) : SameCpu t (setTagOps g t).2 := by
  simp only [setTagOps]
  repeat' split
  all_goals exact .of_eq rfl rfl

theorem sameCpu_dsaPortParseCpu (p : PortId) (conduit proto : ℕ) (userProtocol : Option (Option ℕ))
    (byId : Except ℤ ℕ) (t : Tree) : SameCpu t (dsaPortParseCpu cfg p conduit proto userProtocol byId t).2 := by
  simp only [dsaPortParseCpu]
  split
  · exact .of_eq rfl rfl
  split
  · exact .of_eq rfl rfl
  split
  · exact .of_eq rfl rfl
  · have hproto : SameCpu t { t with defaultProto := proto } := .of_eq rfl rfl
    have htag := fun g => hproto.trans (sameCpu_setTagOps g _)
    split
    · exact htag _
    · exact (htag _).trans (.set _ rfl)

theorem sameCpu_parsePort (ds : ℕ) (d : PortDesc) (t : Tree) : SameCpu t (parsePort cfg ds d t).2 := by
  rw [parsePort]
  split
  · simp only [dsaPortParse]
    have hdn : SameCpu t
        { t with port := Function.update t.port ⟨ds, d.index⟩ { t.port ⟨ds, d.index⟩ with dn := d.dn } } :=
      .set t rfl
    split
    · exact hdn
    · exact hdn.trans (sameCpu_dsaPortParseCpu _ _ _ _ _ _)
    · exact hdn.trans (.set _ rfl)
    · exact hdn.trans (.set _ rfl)
  · exact .of_eq rfl rfl

/-- The ports of a switch that is parsed have no CPU port yet. -/
theorem noCpu_dsaSwitchParse (cfg : Config) (hds : ∀ p ∈ t.ports, p.ds ≠ r.ds) :
    ∀ q ∈ (dsaSwitchParse cfg r t).2.ports, q.ds = r.ds → ((dsaSwitchParse cfg r t).2.port q).cpuDp = none := by
  have hstart : ∀ q ∈ t.ports, q.ds = r.ds → (t.port q).cpuDp = none := fun q hq hqds => absurd hqds (hds q hq)
  have htouch : ∀ q ∈ (dsaSwitchTouchPorts cfg r.ds r.addr t).2.ports, q.ds = r.ds →
      ((dsaSwitchTouchPorts cfg r.ds r.addr t).2.port q).cpuDp = none := by
    refine notifyChain_keeps (P := fun u : Tree => ∀ q ∈ u.ports, q.ds = r.ds → (u.port q).cpuDp = none) ?_ _ hstart
    intro i u hu
    simp only [dsaPortTouch]
    split
    · exact hu
    split
    · exact hu
    · intro q hq hqds
      by_cases hqi : q = ⟨r.ds, i⟩
      · subst hqi
        simp only [Function.update_self]
        rfl
      · simp only [Function.update_of_ne hqi]
        refine hu q ?_ hqds
        exact (List.mem_append.mp hq).resolve_right fun hmem => hqi (List.mem_singleton.mp hmem)
  simp only [dsaSwitchParse]
  split
  · exact hstart
  split
  · exact htouch
  · have hparse : SameCpu (dsaSwitchTouchPorts cfg r.ds r.addr t).2
        (notifyChain (parsePort cfg r.ds) r.ports (dsaSwitchTouchPorts cfg r.ds r.addr t).2).2 :=
      notifyChain_keeps (fun d u hu => SameCpu.trans hu (sameCpu_parsePort r.ds d u)) _ (.of_eq rfl rfl)
    split
    all_goals
      intro q hq hqds
      rw [hparse.ports] at hq
      exact (hparse.cpuDp q).trans (htouch q hq hqds)

/-! ## Runs -/

namespace Bare

theorem release (h : Bare t) (ds : ℕ) : Bare (dsaSwitchReleasePorts ds t) :=
  ⟨h.setup, fun p hp => h.none p (List.mem_filter.mp hp).1⟩

theorem put (h : Bare t) : Bare (dsaTreePut t) := by
  refine ⟨?_, ?_⟩
  · rw [dsaTreePut]
    split
    · rfl
    · exact h.setup
  · rw [ports_dsaTreePut, port_dsaTreePut]
    exact h.none

theorem parsing (h : Bare t) (hp : Parsing cfg r t v w) (hw : w = (dsaSwitchParse cfg r v).2) : Bare w := by
  refine ⟨?_, fun q hq hclient => ?_⟩
  · rw [hp.parsed.rest, hp.touched]
    exact h.setup
  · by_cases hqds : q.ds = r.ds
    · have hnone := noCpu_dsaSwitchParse cfg hp.fresh
      rw [← hw] at hnone
      exact hnone q hq hqds
    · have hmem : q ∈ t.ports := by
        rw [← hp.released]
        exact List.mem_filter.mpr ⟨hq, decide_eq_true hqds⟩
      rw [hp.port hqds] at hclient ⊢
      exact h.none q hmem hclient

end Bare

/-- `dsa_switch_probe`. -/
theorem cpuOk_probeTree {ms : List ℕ} (h : Bare w) (hl : Life cfg ms 1 w) (ds : ℕ) : CpuOk cfg (probeTree cfg ds w) := by
  have hget : Bare (dsaTreeGet w) := ⟨h.setup, h.none⟩
  have hcount : 1 < (dsaTreeSetup cfg (dsaTreeGet w)).2.refcount := by
    have := (hl.get.keeps (keeps_dsaTreeSetup cfg (dsaTreeGet w))).count
    omega
  simp only [probeTree]
  rcases dsaTreeSetup_cpu hget with hbare | ⟨h0, hok⟩
  · split
    · exact (hbare.release ds).put.put.cpuOk
    · have hput := hbare.put
      exact Bare.cpuOk ⟨hput.setup, hput.none⟩
  · rw [if_neg (not_not.mpr h0), dsaTreePut, if_neg (by omega)]
    exact ⟨hok.off, hok.up, hok.cpu⟩

/-- A registration with a tree that is set up. -/
theorem CpuOk.refused (h : CpuOk cfg t) (hl : Life cfg t.members 0 t) (hset : t.setup = true)
    (hp : Parsing cfg r t v w) : CpuOk cfg (dsaTreePut (dsaSwitchReleasePorts r.ds w)) := by
  obtain ⟨c, hc, hcpu⟩ := h.up hset
  have hcount : 1 < w.refcount := by
    have hpos : 0 < t.members.length := List.length_pos_of_mem (hl.owner c hc)
    rw [hp.life.count, hp.members]
    omega
  have hgt : ¬(dsaSwitchReleasePorts r.ds w).refcount ≤ 1 := not_le.mpr hcount
  have hports : (dsaTreePut (dsaSwitchReleasePorts r.ds w)).ports = t.ports := by
    rw [ports_dsaTreePut, hp.released]
  have hport : ∀ q, q.ds ≠ r.ds → (dsaTreePut (dsaSwitchReleasePorts r.ds w)).port q = t.port q := by
    intro q hq
    rw [port_dsaTreePut]
    exact hp.port hq
  have hset' : (dsaTreePut (dsaSwitchReleasePorts r.ds w)).setup = true := by
    rw [dsaTreePut, if_neg hgt]
    simp only [dsaSwitchReleasePorts]
    rw [hp.parsed.rest, hp.touched]
    exact hset
  refine ⟨fun hs => absurd (hset'.symm.trans hs) Bool.true_eq_false.mp, fun _ => ?_, fun _ q hq hclient => ?_⟩
  · refine ⟨c, ?_, ?_⟩
    · rw [hports]
      exact hc
    · rw [hport c (hp.ne hc)]
      exact hcpu
  · rw [hports] at hq
    rw [hport q (hp.ne hq)] at hclient ⊢
    rw [cpuOf_congr hports]
    · exact h.cpu hset q hq hclient
    · intro d hd
      rw [hport d (by rw [hd]; exact hp.ne hq)]
    · intro d hd
      rw [hport d (hp.ne hd)]

theorem CpuOk.register (h : CpuOk cfg t) (hl : Life cfg t.members 0 t) (hen : Enabled cfg t (.register r))
    (hex : dsaRegisterSwitch cfg r t = .ok t') : CpuOk cfg t' := by
  rcases hl.register_cases hen hex with rfl | ⟨v, w, hp, hw, ht'⟩
  · exact h
  cases hset : t.setup with
  | true =>
      have hput := h.refused hl hset hp
      rcases ht' with rfl | ⟨-, rfl⟩
      · exact hput
      · have hwset : w.setup = true := by
          rw [hp.parsed.rest, hp.touched]
          exact hset
        rw [probeTree_of_setup hwset (by rw [hp.life.count]; omega)]
        exact hput
  | false =>
      have hbare := (h.bare hset).parsing hp hw
      rcases ht' with rfl | ⟨-, rfl⟩
      · exact (hbare.release r.ds).put.cpuOk
      · exact cpuOk_probeTree hbare hp.life r.ds

theorem CpuOk.unregister (h : CpuOk cfg t) (ds : ℕ) : CpuOk cfg (dsaUnregisterSwitch cfg ds t) := by
  have hdown : Bare (dsaTreeTeardown cfg t) := by
    rw [dsaTreeTeardown]
    split
    · have hbare := cpuStage_dsaTreeTeardownCpuPorts (dsaTreeTeardownSwitches cfg
        (dsaTreeTeardownPorts (dsaTreeTeardownConduit cfg (dsaTreeTeardownLags t))))
      refine ⟨rfl, fun p hp => ?_⟩
      simp only [freeLinks, hbare.ports] at hp
      exact cpuDp_dsaTreeTeardownCpuPorts hp
    · exact h.bare (Bool.eq_false_iff.mpr (by assumption))
  have hput := (hdown.release ds).put
  exact Bare.cpuOk ⟨hput.setup, hput.none⟩

theorem cpuOk_run {es : List Event} (hrun : (treeMachine cfg).Run Tree.init es t) : CpuOk cfg t := by
  refine (hrun.invariant (I := fun t => Life cfg t.members 0 t ∧ CpuOk cfg t) ⟨life_init cfg, ?_⟩ ?_).2
  · exact Bare.cpuOk ⟨rfl, nofun⟩
  · intro t e t' ⟨hl, hok⟩ hen hex
    cases e with
    | register r => exact ⟨hl.register hen hex, hok.register hl hen hex⟩
    | unregister ds =>
        cases hex
        exact ⟨hl.unregister hen, hok.unregister ds⟩

/-- In every run, whatever fails on the way: while the tree is set up, each user or DSA port has a CPU port of
the tree, namely the one that its switch prefers, or else the first one of its switch, or else the first one of
the tree; and while it is not set up, it has none. -/
theorem cpu_ports_assigned {es : List Event} (hrun : (treeMachine cfg).Run Tree.init es t) (hp : p ∈ t.ports)
    (hclient : (t.port p).type = .user ∨ (t.port p).type = .dsa) :
    (t.setup = false → (t.port p).cpuDp = none) ∧
      (t.setup = true → (t.port p).cpuDp = cpuOf cfg t p.ds ∧
        ∃ c ∈ t.ports, (t.port c).type = .cpu ∧ (t.port p).cpuDp = some c) := by
  have h := cpuOk_run hrun
  have hcl : (t.port p).client := decide_eq_true hclient
  refine ⟨fun hset => h.off hset p hp hcl, fun hset => ⟨h.cpu hset p hp hcl, ?_⟩⟩
  obtain ⟨d, hd, hdcpu⟩ := h.up hset
  obtain ⟨c, hc⟩ : ∃ c, cpuOf cfg t p.ds = some c := by
    apply Option.isSome_iff_exists.mp
    rw [cpuOf, Option.isSome_or, dsaTreeFindFirstCpu, Bool.or_eq_true]
    exact .inr (List.find?_isSome.mpr ⟨d, hd, decide_eq_true hdcpu⟩)
  refine ⟨c, ?_, ?_, (h.cpu hset p hp hcl).trans hc⟩
  all_goals
    rw [cpuOf, Option.or_eq_some_iff] at hc
    rcases hc with hc | ⟨-, hc⟩
  · exact List.mem_of_find?_eq_some hc
  · exact List.mem_of_find?_eq_some hc
  · have hcand : Candidate cfg t p.ds c := by simpa using List.find?_some hc
    exact hcand.1
  · simpa using List.find?_some hc

theorem cpu_ports_assigned_of_pair :
    ∃ t, (treeMachine linkedPair).Run Tree.init pairEvents t ∧ t.setup = true ∧
      (t.port ⟨0, 0⟩).cpuDp = some ⟨1, 0⟩ := by
  have hsome : ((treeMachine linkedPair).replay Tree.init pairEvents).isSome = true := by decide
  have hrun := Machine.Run.of_isSome hsome Tree.init
  refine ⟨_, hrun, by decide, ?_⟩
  have hassigned := cpu_ports_assigned (p := ⟨0, 0⟩) hrun (by decide) (.inl (by decide))
  exact (hassigned.2 (by decide)).1.trans (by decide)

end Axm57104.Dsa.TreeSetup
