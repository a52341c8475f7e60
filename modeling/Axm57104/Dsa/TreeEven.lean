import Axm57104.Dsa.TreeLife

/-!
# Registrations that come out even

As long as none of the marked paths was taken, what is held is what the ports, switches, conduits and the
LAG table that are set up need, the links of the routing table, and the links that were lost with a tree that
was freed before it was set up; and a conduit points to a CPU port only while the tree is set up. `Left` says
what the first registration that takes a marked path leaves behind.
-/

namespace Axm57104.Dsa.TreeSetup

open Common
open Fabric (PortId)

variable {cfg : Config} {t t' u v w : Tree} {p q : PortId} {ds : ℕ} {r : Reg} {N X : Set Res}

/-- What has to be held. -/
def needs (cfg : Config) (t : Tree) : Set Res :=
  base cfg t ∪ linkRes (t.rtable.map Link.id) ∪
    {r | t.setup = true ∧ (r ∈ conduitRes cfg t t.ports ∨ r ∈ lagRes t)}

/-- What has to be held, and the links that were lost. -/
def holds (cfg : Config) (t : Tree) : Set Res := needs cfg t ∪ linkRes t.lostLinks

/-- A tree that is not set up, and for which nothing but links is held. -/
structure Resting (cfg : Config) (t : Tree) : Prop where
  setup : t.setup = false
  down : Down t
  linked : Linked t
  user : UserOk t
  bus : BusOk cfg t
  ptr : ∀ dev, t.dsaPtr dev = none

/-- A tree for which exactly what it needs and the lost links are held, except for `X`. -/
structure Clean (cfg : Config) (X : Set Res) (t : Tree) : Prop where
  owns : t.io.Owns (holds cfg t \ X)
  links : LinksOk t
  user : UserOk t
  bus : BusOk cfg t
  off : ∀ p ∉ t.ports, (t.port p).setup = false
  swOff : ∀ ds, (∀ p ∈ t.ports, p.ds ≠ ds) → (t.sw ds).setup = false
  down : t.setup = false → Down t
  up : t.setup = true → ∃ p ∈ t.ports, (t.port p).type = .cpu
  ptr : t.setup = true → ∀ p ∈ t.ports, (t.port p).type = .cpu → t.dsaPtr (t.port p).conduit = some p
  noPtr : ∀ dev, (t.setup = true → ∀ p ∈ t.ports, (t.port p).type = .cpu → (t.port p).conduit ≠ dev) →
    t.dsaPtr dev = none

theorem holds_eq (cfg : Config) (t : Tree) :
    holds cfg t = base cfg t ∪
      (linkRes t.heldLinks ∪ {r | t.setup = true ∧ (r ∈ conduitRes cfg t t.ports ∨ r ∈ lagRes t)}) := by
  rw [holds, needs, Tree.heldLinks, linkRes_append, Set.union_right_comm _ _ (linkRes t.lostLinks),
    Set.union_assoc (base cfg t), Set.union_assoc]

theorem holds_of_not_setup (h : t.setup = false) : holds cfg t = base cfg t ∪ linkRes t.heldLinks := by
  rw [holds_eq, h]
  simp

theorem holds_of_setup (h : t.setup = true) :
    holds cfg t = base cfg t ∪ (linkRes t.heldLinks ∪ conduitRes cfg t t.ports ∪ lagRes t) := by
  rw [holds_eq, Set.union_assoc (linkRes t.heldLinks)]
  simp only [h, true_and]
  rfl

theorem Clean.resting (h : Clean cfg ∅ t) (hset : t.setup = false) : Resting cfg t where
  setup := hset
  down := h.down hset
  linked := by
    refine ⟨h.links, h.owns.congr ?_⟩
    rw [Set.sdiff_empty, holds_of_not_setup hset, (h.down hset).base, Set.empty_union]
  user := h.user
  bus := h.bus
  ptr := fun dev => h.noPtr dev fun hs => absurd (hset.symm.trans hs) Bool.false_ne_true

theorem Resting.clean (h : Resting cfg t) : Clean cfg ∅ t where
  owns := h.linked.owns.congr (by rw [Set.sdiff_empty, holds_of_not_setup h.setup, h.down.base, Set.empty_union])
  links := h.linked.ok
  user := h.user
  bus := h.bus
  off := fun p _ => h.down.port p
  swOff := fun ds _ => h.down.sw ds
  down := fun _ => h.down
  up := fun hs => absurd (h.setup.symm.trans hs) Bool.false_ne_true
  ptr := fun hs => absurd (h.setup.symm.trans hs) Bool.false_ne_true
  noPtr := fun dev _ => h.ptr dev

/-- The reference count and the members do not matter. -/
theorem Clean.recount (h : Clean cfg X t) (n : ℕ) (ms : List ℕ) :
    Clean cfg X { t with refcount := n, members := ms } :=
  { h with
    links := ⟨h.links.nodup, h.links.lt⟩
    down := fun hs => ⟨(h.down hs).port, (h.down hs).sw⟩ }

/-! ## While the tree is not set up -/

namespace Resting

theorem ready (h : Resting cfg t) (hnodup : t.ports.Nodup) (hw : Wired t t.ports) :
    Ready cfg (linkRes t.heldLinks) t :=
  ⟨hnodup, hw, h.down, h.linked.owns, ofLinks_linkRes _, h.user, h.bus, h.ptr⟩

theorem release (h : Resting cfg t) (ds : ℕ) : Resting cfg (dsaSwitchReleasePorts ds t) :=
  ⟨h.setup, ⟨h.down.port, h.down.sw⟩, ⟨⟨h.linked.ok.nodup, h.linked.ok.lt⟩, h.linked.owns⟩, h.user, h.bus, h.ptr⟩

/-- The reference count and the members do not matter. -/
theorem recount (h : Resting cfg t) (n : ℕ) (ms : List ℕ) : Resting cfg { t with refcount := n, members := ms } :=
  ⟨h.setup, ⟨h.down.port, h.down.sw⟩, ⟨⟨h.linked.ok.nodup, h.linked.ok.lt⟩, h.linked.owns⟩, h.user, h.bus, h.ptr⟩

theorem put (h : Resting cfg t) : Resting cfg (dsaTreePut t) := by
  have hset : (dsaTreePut t).setup = false := by
    rw [dsaTreePut]
    split
    · rfl
    · exact h.setup
  refine ⟨hset, ⟨?_, ?_⟩, linked_dsaTreePut h.linked, ?_, ?_, ?_⟩
  · rw [port_dsaTreePut]
    exact h.down.port
  · rw [sw_dsaTreePut]
    exact h.down.sw
  · rw [UserOk, port_dsaTreePut]
    exact h.user
  · rw [BusOk, sw_dsaTreePut]
    exact h.bus
  · rw [dsaPtr_dsaTreePut]
    exact h.ptr

theorem idle (h : Resting cfg t) (hi : Idle t t') : Resting cfg t' := by
  have hrest := hi.rest
  have hset : ∀ p, (t'.port p).setup = (t.port p).setup := fun p => by rw [hi.port p]
  refine ⟨?_, ⟨fun p => (hset p).trans (h.down.port p), ?_⟩, hi.linked h.linked, fun p => ?_, ?_, ?_⟩
  · rw [hrest]
    exact h.setup
  · rw [hrest]
    exact h.down.sw
  · rw [hi.port p]
    exact h.user p
  · rw [hrest]
    exact h.bus
  · rw [hrest]
    exact h.ptr

theorem failed (h : Resting cfg t) (hf : FailedClean cfg (linkRes t.heldLinks) t t') : Resting cfg t' := by
  obtain ⟨hfail, hbus, hptr⟩ := hf
  have hlinks : t'.links = t.links := congrArg Prod.fst hfail.routes
  have hlinked : Linked t' := ⟨h.linked.ok.congr hlinks, hfail.owns.congr (by rw [heldLinks_congr hlinks])⟩
  exact ⟨(congrArg Prod.snd hfail.routes).trans h.setup, hfail.down, hlinked, hfail.user, hbus, hptr⟩

/-- The ports of the switch that registers are not set up. -/
theorem parsing (h : Resting cfg t) (hp : Parsing cfg r t v w) : Resting cfg w := by
  have hv := hp.touched
  have hrest := hp.parsed.rest
  have hport : v.port = t.port := by rw [hv]
  have hown := hp.parsed.own fun q _ => by
    rw [hport]
    refine ⟨h.down.port q, ?_⟩
    rw [h.user q, h.down.port q]
    simp
  have hsw : w.sw = t.sw := by rw [hrest, hv]
  have hlinks : w.links = t.links := by
    rw [hrest, hv]
    rfl
  have heq : ∀ q, q.ds ≠ r.ds → w.port q = t.port q := fun q hq => by rw [hp.parsed.others q hq, hport]
  refine ⟨?_, ⟨fun q => ?_, ?_⟩, ?_, fun q => ?_, ?_, ?_⟩
  · rw [hrest, hv]
    exact h.setup
  · by_cases hq : q.ds = r.ds
    · exact (hown q hq).1
    · rw [heq q hq]
      exact h.down.port q
  · rw [hsw]
    exact h.down.sw
  · obtain ⟨held, hheld, hmem⟩ := h.linked.owns
    refine ⟨h.linked.ok.congr hlinks, held, (hp.parsed.book.trans hp.book).trans hheld, ?_⟩
    rw [heldLinks_congr hlinks]
    exact hmem
  · by_cases hq : q.ds = r.ds
    · rw [(hown q hq).1, (hown q hq).2]
      simp
    · rw [heq q hq]
      exact h.user q
  · rw [BusOk, hsw]
    exact h.bus
  · rw [hrest, hv]
    exact h.ptr

end Resting

/-- The set up went through, with or without a mark. -/
theorem owns_of_finished {m : List Mark} {L Y : Set Res} (hr : Ready cfg L t) (hl : LinksOk t)
    (hcpu : ∃ p ∈ t.ports, (t.port p).type = .cpu) (h : Finished cfg m Y t t')
    (hX : base cfg t' ∪ Y = holds cfg t' \ X) : Clean cfg X t' := by
  have hports := h.keeps.ports
  refine ⟨h.bal.owns.congr hX, hl.congr h.links, h.bal.user, h.bus, fun p hp => ?_, fun ds hds => ?_, fun hs => ?_, fun _ => ?_,
    fun _ p hp hpc => ?_, fun dev hdev => ?_⟩
  · rw [hports] at hp
    rw [h.off p hp]
    exact hr.down.port p
  · rw [hports] at hds
    rw [h.swOff ds hds]
    exact hr.down.sw ds
  · exact absurd (h.setup.symm.trans hs) Bool.true_eq_false.mp
  · obtain ⟨p, hp, hpc⟩ := hcpu
    exact ⟨p, hports ▸ hp, (h.keeps.cpu p).mpr hpc⟩
  · rw [h.keeps.conduit p]
    exact h.ptr p (hports ▸ hp) ((h.keeps.cpu p).mp hpc)
  · refine (h.other dev fun p hp hpc => ?_).trans (hr.ptr dev)
    rw [← h.keeps.conduit p]
    exact hdev h.setup p (hports ▸ hp) ((h.keeps.cpu p).mpr hpc)

theorem clean_of_finished {L : Set Res} (hr : Ready cfg L t) (hl : LinksOk t)
    (hcpu : ∃ p ∈ t.ports, (t.port p).type = .cpu)
    (h : Finished cfg [] (linkRes t.heldLinks ∪ conduitRes cfg t t.ports ∪ lagRes t') t t') : Clean cfg ∅ t' := by
  refine owns_of_finished hr hl hcpu h ?_
  rw [Set.sdiff_empty, holds_of_setup h.setup, h.keeps.ports, h.keeps.conduitRes, heldLinks_congr h.links]

/-- The tree has the pointer to a LAG table that was freed. -/
theorem stale_of_finished {L : Set Res} (hr : Ready cfg L t) (hl : LinksOk t)
    (hcpu : ∃ p ∈ t.ports, (t.port p).type = .cpu)
    (h : Finished cfg [.lags] (linkRes t.heldLinks ∪ conduitRes cfg t t.ports ∪ ∅) t t') (hlags : t'.lags = true) :
    Clean cfg {.lags} t' := by
  refine owns_of_finished hr hl hcpu h ?_
  have hres : lagRes t' = {.lags} := by simp [lagRes, hlags]
  rw [holds_of_setup h.setup, hres, Set.union_singleton, Set.union_insert, h.keeps.ports, h.keeps.conduitRes,
    heldLinks_congr h.links, Set.union_empty, ← Set.union_assoc,
    Set.insert_sdiff_self_of_notMem (lags_notMem (ofLinks_linkRes _))]

/-! ## While the tree is set up -/

theorem Clean.put (h : Clean cfg X t) (hgt : 1 < t.refcount) : Clean cfg X (dsaTreePut t) := by
  rw [dsaTreePut, if_neg (by omega)]
  exact h.recount _ _

/-- A switch that registers with a tree that is set up leaves again. -/
theorem Clean.kept (h : Clean cfg X t) (hl : Life cfg t.members 0 t) (hset : t.setup = true)
    (hp : Parsing cfg r t v w) : Clean cfg X (dsaSwitchReleasePorts r.ds w) := by
  have hv := hp.touched
  have hrest := hp.parsed.rest
  have hport : v.port = t.port := by rw [hv]
  have hsw : w.sw = t.sw := by rw [hrest, hv]
  have hwset : w.setup = t.setup := by rw [hrest, hv]
  have hlags : w.lags = t.lags := by rw [hrest, hv]
  have hwptr : w.dsaPtr = t.dsaPtr := by rw [hrest, hv]
  have hlinks : (dsaSwitchReleasePorts r.ds w).links = t.links := by
    rw [hrest, hv]
    rfl
  obtain ⟨c, hc, hccpu⟩ := h.up hset
  have htag : w.tagOps = t.tagOps := by
    have hvtag : v.tagOps = t.tagOps := by rw [hv]
    rw [hp.parsed.tag (by rw [hvtag]; exact hl.cpuTag c hc hccpu), hvtag]
  have hne : ∀ p ∈ t.ports, p.ds ≠ r.ds := fun p hp' => hp.ne hp'
  have hsame : ∀ p ∈ t.ports, w.port p = t.port p := fun p hp' => hp.port (hne p hp')
  have hports := hp.released
  -- the ports of the new switch are not on the list of `t`, and so not set up
  have hnot : ∀ p, p.ds = r.ds → (t.port p).setup = false := fun p hpds => h.off p fun hmem => hne p hmem hpds
  have hown := hp.parsed.own fun q hq => by
    rw [hport, h.user q, hnot q hq]
    simp
  have hres : ∀ p, portRes p (w.port p) = portRes p (t.port p) := by
    intro p
    by_cases hpds : p.ds = r.ds
    · rw [portRes, portRes, (hown p hpds).1, hnot p hpds]
      rfl
    · rw [hp.parsed.others p hpds, hport]
  have hbase : base cfg (dsaSwitchReleasePorts r.ds w) = base cfg t := by
    simp only [base, dsaSwitchReleasePorts, hres, htag, hsw]
  have hconduit : conduitRes cfg (dsaSwitchReleasePorts r.ds w) t.ports = conduitRes cfg t t.ports := by
    ext x
    constructor <;> rintro ⟨p, hp', hpc, hx⟩ <;> refine ⟨p, hp', ?_⟩
    · rw [← hsame p hp']
      exact ⟨hpc, hx⟩
    · rw [← hsame p hp'] at hpc hx
      exact ⟨hpc, hx⟩
  refine ⟨?_, h.links.congr hlinks, fun p => ?_, ?_, fun p hp' => ?_, fun ds hds => ?_, fun hs => ?_, fun _ => ?_,
    fun _ p hp' => ?_, fun dev hdev => ?_⟩
  · obtain ⟨held, hheld, hmem⟩ := h.owns
    refine ⟨held, (hp.parsed.book.trans hp.book).trans hheld, fun x => (hmem x).trans ?_⟩
    rw [holds_eq, holds_eq, hbase, hports, hconduit, heldLinks_congr hlinks]
    simp only [dsaSwitchReleasePorts, lagRes, hwset, hlags]
  · by_cases hpds : p.ds = r.ds
    · simp only [dsaSwitchReleasePorts, (hown p hpds).1, (hown p hpds).2]
      simp
    · simp only [dsaSwitchReleasePorts, hp.parsed.others p hpds, hport]
      exact h.user p
  · simp only [BusOk, dsaSwitchReleasePorts, hsw]
    exact h.bus
  · rw [hports] at hp'
    by_cases hpds : p.ds = r.ds
    · exact (hown p hpds).1
    · simp only [dsaSwitchReleasePorts, hp.parsed.others p hpds, hport]
      exact h.off p hp'
  · rw [hports] at hds
    simp only [dsaSwitchReleasePorts, hsw]
    exact h.swOff ds hds
  · simp only [dsaSwitchReleasePorts, hwset, hset] at hs
    cases hs
  · rw [hports]
    exact ⟨c, hc, by rw [← hsame c hc] at hccpu; exact hccpu⟩
  · rw [hports] at hp'
    simp only [dsaSwitchReleasePorts, hsame p hp', hwptr]
    exact h.ptr hset p hp'
  · simp only [dsaSwitchReleasePorts, hwptr]
    refine h.noPtr dev fun _ p hp' hpc => ?_
    have hd := hdev (hwset.trans hset) p (by rw [hports]; exact hp')
    simp only [dsaSwitchReleasePorts, hsame p hp'] at hd
    exact hd hpc

/-- What is held after `dsa_tree_teardown_lags`. -/
theorem Clean.teardownLags (h : Clean cfg ∅ t) (hset : t.setup = true) :
    (dsaTreeTeardownLags t).io.Owns (base cfg t ∪ linkRes t.heldLinks ∪ conduitRes cfg t t.ports) := by
  have hown := h.owns
  rw [Set.sdiff_empty, holds_of_setup hset, ← Set.union_assoc, ← Set.union_assoc] at hown
  rw [dsaTreeTeardownLags, Calls.giveIf]
  cases hl : t.lags with
  | false => exact hown.congr (by simp [lagRes, hl])
  | true =>
      refine Calls.Owns.undo (hown.congr ?_) (lags_notMem (ofLinks_linkRes _))
      rw [← Set.union_singleton]
      simp [lagRes, hl]

/-- `dsa_tree_teardown`. -/
theorem Clean.teardown (h : Clean cfg ∅ t) (hl : Life cfg t.members 0 t) :
    Resting cfg (dsaTreeTeardown cfg t) ∧ (dsaTreeTeardown cfg t).marks = t.marks := by
  rw [dsaTreeTeardown]
  split
  · rename_i hset
    have hlags := h.teardownLags hset
    obtain ⟨hfail, hbus, hptr⟩ := failed_of_teardownConduit cfg (.refl (dsaTreeTeardownLags t)) rfl
      (List.append_nil _).symm h.off h.swOff hl.nodup hl.wired h.user (ofLinks_linkRes _) hlags
      (fun dev hdev => h.noPtr dev fun _ => hdev)
    have hlinks := congrArg Prod.fst hfail.routes
    -- the links go last
    have hfree := linked_freeLinks ⟨LinksOk.congr (t := t) h.links hlinks,
      hfail.owns.congr (by rw [heldLinks_congr (t := t) hlinks])⟩
    refine ⟨⟨rfl, ⟨hfail.down.port, hfail.down.sw⟩, ⟨⟨hfree.ok.nodup, hfree.ok.lt⟩, hfree.owns⟩, hfail.user,
      hbus h.bus, hptr⟩, ?_⟩
    exact hfail.marks.trans (List.append_nil _)
  · rename_i hset
    exact ⟨h.resting (Bool.eq_false_iff.mpr hset), rfl⟩

theorem Clean.unregister (h : Clean cfg ∅ t) (hl : Life cfg t.members 0 t) (ds : ℕ) :
    Clean cfg ∅ (dsaUnregisterSwitch cfg ds t) ∧ (dsaUnregisterSwitch cfg ds t).marks = t.marks := by
  obtain ⟨hrest, hmarks⟩ := h.teardown hl
  refine ⟨((hrest.release ds).put.recount _ _).clean, ?_⟩
  simp only [dsaUnregisterSwitch, marks_dsaTreePut]
  exact hmarks

/-! ## The first registration on a marked path -/

/-- What it leaves behind, beyond the links: the connection of one switch to the tagger; or the conduits `devs`, and the
pointer of one more to its CPU port; or a tree that is set up with a LAG table it does not have. -/
inductive Left (cfg : Config) (m : List Mark) (t : Tree) : Prop
  | tagger (ds g : ℕ) (marks : t.marks = m ++ [.mii ds]) (setup : t.setup = false) (down : Down t)
      (owns : t.io.Owns (linkRes t.heldLinks ∪ {r | r ∈ tagRes cfg g ds}))
  | conduits (devs : List ℕ) (dev : ℕ) (k : PortId) (marks : t.marks = m ++ [.conduit])
      (setup : t.setup = false) (down : Down t)
      (owns : t.io.Owns (linkRes t.heldLinks ∪ {r | ∃ d ∈ devs, r ∈ devRes cfg d}))
      (other : dev ∉ devs) (ptr : t.dsaPtr dev = some k)
  | lags (marks : t.marks = m ++ [.lags]) (setup : t.setup = true) (ptr : t.lags = true)
      (clean : Clean cfg {.lags} t)

/-- The switch that failed to register leaves the tree, and its references are given back. -/
theorem Left.leave {m : List Mark} (h : Left cfg m t) (hset : t.setup = false) (ds : ℕ) :
    Left cfg m (dsaTreePut (dsaTreePut (dsaSwitchReleasePorts ds t))) := by
  have hput : ∀ u : Tree, u.setup = false → (dsaTreePut u).setup = false := by
    intro u hu
    rw [dsaTreePut]
    split
    · rfl
    · exact hu
  have hset' := hput _ (hput (dsaSwitchReleasePorts ds t) hset)
  have hlinks : linkRes (dsaTreePut (dsaTreePut (dsaSwitchReleasePorts ds t))).heldLinks = linkRes t.heldLinks :=
    linkRes_perm ((heldLinks_dsaTreePut _).trans (heldLinks_dsaTreePut _))
  cases h with
  | tagger d g marks setup down owns =>
      refine .tagger d g ?_ hset' ⟨?_, ?_⟩ ?_
      · simpa only [marks_dsaTreePut, dsaSwitchReleasePorts] using marks
      · simpa only [port_dsaTreePut, dsaSwitchReleasePorts] using down.port
      · simpa only [sw_dsaTreePut, dsaSwitchReleasePorts] using down.sw
      · rw [hlinks]
        simpa only [io_dsaTreePut, dsaSwitchReleasePorts] using owns
  | conduits devs dev k marks setup down owns other ptr =>
      refine .conduits devs dev k ?_ hset' ⟨?_, ?_⟩ ?_ other ?_
      · simpa only [marks_dsaTreePut, dsaSwitchReleasePorts] using marks
      · simpa only [port_dsaTreePut, dsaSwitchReleasePorts] using down.port
      · simpa only [sw_dsaTreePut, dsaSwitchReleasePorts] using down.sw
      · rw [hlinks]
        simpa only [io_dsaTreePut, dsaSwitchReleasePorts] using owns
      · simpa only [dsaPtr_dsaTreePut, dsaSwitchReleasePorts] using ptr
  | lags marks setup => exact absurd (hset.symm.trans setup) Bool.false_ne_true

/-- The set up ended with an error and left nothing behind, or found the tree incomplete. -/
theorem probe_of_resting {s : ℤ × Tree} (hs : dsaTreeSetup cfg (dsaTreeGet w) = s) (h : Resting cfg s.2)
    (hmarks : s.2.marks = w.marks) :
    (probeTree cfg ds w).marks = w.marks ∧ Clean cfg ∅ (probeTree cfg ds w) := by
  simp only [probeTree, hs]
  split
  · refine ⟨?_, ((h.release ds).put.put).clean⟩
    simpa only [marks_dsaTreePut, dsaSwitchReleasePorts] using hmarks
  · refine ⟨?_, (h.put.recount _ _).clean⟩
    simpa only [marks_dsaTreePut, dsaSwitchReleasePorts] using hmarks

/-- What the conduits of the CPU ports in `ps` hold, conduit by conduit. -/
theorem conduitRes_eq (t : Tree) (ps : List PortId) :
    conduitRes cfg t ps = {r | ∃ d ∈ (ps.filter fun p => (t.port p).type = .cpu).map fun p => (t.port p).conduit,
      r ∈ devRes cfg d} := by
  ext r
  simp only [conduitRes, Set.mem_ofPred_eq, List.mem_map, List.mem_filter, decide_eq_true_eq]
  constructor
  · rintro ⟨p, hp, hpc, hr⟩
    exact ⟨_, ⟨p, ⟨hp, hpc⟩, rfl⟩, hr⟩
  · rintro ⟨_, ⟨p, ⟨hp, hpc⟩, rfl⟩, hr⟩
    exact ⟨p, hp, hpc, hr⟩

/-- The set up went through. -/
theorem probe_of_finished {s : ℤ × Tree} (hs : dsaTreeSetup cfg (dsaTreeGet w) = s) (h0 : s.1 = 0)
    (hcount : 1 < s.2.refcount) :
    probeTree cfg ds w = { s.2 with refcount := s.2.refcount - 1, members := s.2.members ++ [ds] } := by
  simp only [probeTree, hs]
  rw [if_neg (not_not.mpr h0), dsaTreePut, if_neg (by omega)]

theorem probe_cases {ms : List ℕ} (hrest : Resting cfg w) (hl : Life cfg ms 1 w) (ds : ℕ) :
    (probeTree cfg ds w).marks = w.marks ∧ Clean cfg ∅ (probeTree cfg ds w) ∨
      Left cfg w.marks (probeTree cfg ds w) := by
  have hget : Resting cfg (dsaTreeGet w) := hrest.recount (w.refcount + 1) w.members
  rcases dsaTreeSetup_cases cfg (dsaTreeGet w) with ⟨hset, -⟩ | ⟨-, hidle⟩ | ⟨-, d, hidle, hcpu, hs⟩
  · exact absurd (hget.setup.symm.trans hset) Bool.false_ne_true
  · refine .inl (probe_of_resting rfl (hget.idle hidle) ?_)
    rw [hidle.rest]
    rfl
  have hdrest := hget.idle hidle
  have hdmarks : d.marks = w.marks := by
    rw [hidle.rest]
    rfl
  have hdl := hl.get.keeps hidle.keeps
  have hready := hdrest.ready hdl.nodup hdl.wired
  have hleft : ∀ {s : ℤ × Tree}, dsaTreeSetup cfg (dsaTreeGet w) = s → s.1 ≠ 0 → s.2.setup = false →
      Left cfg d.marks s.2 → Left cfg w.marks (probeTree cfg ds w) := by
    intro s hs herr hset h
    simp only [probeTree, hs]
    rw [if_pos herr, ← hdmarks]
    exact h.leave hset ds
  -- the references of the registration itself keep the tree alive
  have hcount : 1 < (setupStages cfg d).2.refcount := by
    have := (hdl.keeps (keeps_setupStages cfg d)).count
    omega
  rcases setupStages_cases hready with ⟨herr, hend⟩ | ⟨h0, hend⟩
  · rcases hend with hclean | ⟨d', hd', hfail⟩ | ⟨pre, k, post, hps, hkcpu, hptr, hfail⟩
    · refine .inl (probe_of_resting hs (hdrest.failed hclean) ?_)
      rw [hclean.1.marks, List.append_nil, hdmarks]
    · have hset := (congrArg Prod.snd hfail.routes).trans hdrest.setup
      have hlinks := heldLinks_congr (t := d) (congrArg Prod.fst hfail.routes)
      refine .inr (hleft hs herr hset ?_)
      exact .tagger d' _ hfail.marks hset hfail.down (hfail.owns.congr (by rw [hlinks]))
    · have hset := (congrArg Prod.snd hfail.routes).trans hdrest.setup
      have hlinks := heldLinks_congr (t := d) (congrArg Prod.fst hfail.routes)
      refine .inr (hleft hs herr hset ?_)
      refine .conduits ((pre.filter fun p => (d.port p).type = .cpu).map fun p => (d.port p).conduit) _ k
        hfail.marks hset hfail.down (hfail.owns.congr ?_) ?_ hptr
      · rw [hlinks, conduitRes_eq]
      · simp only [List.mem_map, List.mem_filter, decide_eq_true_eq]
        -- the conduit that failed is wired to `k` only
        rintro ⟨p, ⟨hp, hpc⟩, heq⟩
        have hnodup := hdl.nodup
        rw [hps] at hnodup
        have hpk : p = k := hdl.wired p (by rw [hps]; exact List.mem_append_left _ hp) k
          (by rw [hps]; exact List.mem_append_right _ List.mem_cons_self) hpc hkcpu heq
        exact List.disjoint_of_nodup_append hnodup hp (hpk ▸ List.mem_cons_self)
  · rw [probe_of_finished hs h0 hcount, ← hdmarks]
    rcases hend with hfin | ⟨hfin, hlags⟩
    · exact .inl ⟨hfin.marks.trans (List.append_nil _), (clean_of_finished hready hdrest.linked.ok hcpu hfin).recount _ _⟩
    · exact .inr (.lags hfin.marks hfin.setup hlags ((stale_of_finished hready hdrest.linked.ok hcpu hfin hlags).recount _ _))

/-! ## Steps and runs -/

theorem marks_of_parsing (hp : Parsing cfg r t v w) : w.marks = t.marks := by
  rw [hp.parsed.rest, hp.touched]

/-- `dsa_tree_setup` returns `-EEXIST` for a tree that is set up. -/
theorem probeTree_of_setup (hset : t.setup = true) (hpos : 0 < t.refcount) (ds : ℕ) :
    probeTree cfg ds t = dsaTreePut (dsaSwitchReleasePorts ds t) := by
  have hgt : ¬(dsaSwitchReleasePorts ds (dsaTreeGet t)).refcount ≤ 1 := by
    simp only [dsaSwitchReleasePorts, dsaTreeGet]
    omega
  have hback : dsaTreePut (dsaSwitchReleasePorts ds (dsaTreeGet t)) = dsaSwitchReleasePorts ds t := by
    rw [dsaTreePut, if_neg hgt]
    rfl
  have hexist : dsaTreeSetup cfg (dsaTreeGet t) = (-EEXIST, dsaTreeGet t) := by
    rw [dsaTreeSetup, if_pos (by exact hset)]
  simp only [probeTree, hexist]
  rw [if_pos (by decide), hback]

/-- A registration with a tree that is set up is refused, and nothing is left of it. -/
theorem Clean.refuse (h : Clean cfg X t) (hl : Life cfg t.members 0 t) (hset : t.setup = true)
    (hp : Parsing cfg r t v w) :
    Clean cfg X (dsaTreePut (dsaSwitchReleasePorts r.ds w)) ∧
      probeTree cfg r.ds w = dsaTreePut (dsaSwitchReleasePorts r.ds w) ∧
      (dsaTreePut (dsaSwitchReleasePorts r.ds w)).setup = true ∧
      (dsaTreePut (dsaSwitchReleasePorts r.ds w)).lags = t.lags := by
  have hcount : 1 < w.refcount := by
    obtain ⟨p, hp', -⟩ := h.up hset
    have hpos : 0 < t.members.length := List.length_pos_of_mem (hl.owner p hp')
    rw [hp.life.count, hp.members]
    omega
  have hwset : w.setup = true := by
    rw [hp.parsed.rest, hp.touched]
    exact hset
  have hgt : ¬(dsaSwitchReleasePorts r.ds w).refcount ≤ 1 := not_le.mpr hcount
  refine ⟨(h.kept hl hset hp).put hcount, probeTree_of_setup hwset (by omega) r.ds, ?_, ?_⟩
  · rw [dsaTreePut, if_neg hgt]
    exact hwset
  · rw [dsaTreePut, if_neg hgt]
    simp only [dsaSwitchReleasePorts]
    rw [hp.parsed.rest, hp.touched]

/-- Registrations with a tree that is set up are refused. -/
theorem Clean.refused (h : Clean cfg X t) (hl : Life cfg t.members 0 t) (hset : t.setup = true)
    (hen : Enabled cfg t (.register r)) (hex : dsaRegisterSwitch cfg r t = .ok t') :
    Clean cfg X t' ∧ t'.setup = true ∧ t'.lags = t.lags := by
  rcases hl.register_cases hen hex with rfl | ⟨v, w, hp, -, ht'⟩
  · exact ⟨h, hset, rfl⟩
  · obtain ⟨hput, hprobe, hset', hlags⟩ := h.refuse hl hset hp
    have ht : t' = dsaTreePut (dsaSwitchReleasePorts r.ds w) := ht'.elim id fun h => h.2.trans hprobe
    rw [ht]
    exact ⟨hput, hset', hlags⟩

/-- **One registration.** -/
theorem Clean.register (h : Clean cfg ∅ t) (hl : Life cfg t.members 0 t) (hen : Enabled cfg t (.register r))
    (hex : dsaRegisterSwitch cfg r t = .ok t') :
    t'.marks = t.marks ∧ Clean cfg ∅ t' ∨ Left cfg t.marks t' := by
  rcases hl.register_cases hen hex with rfl | ⟨v, w, hp, -, ht'⟩
  · exact .inl ⟨rfl, h⟩
  have hmarks := marks_of_parsing hp
  cases hset : t.setup with
  | true =>
      obtain ⟨hput, hprobe, -⟩ := h.refuse hl hset hp
      have ht : t' = dsaTreePut (dsaSwitchReleasePorts r.ds w) := ht'.elim id fun h => h.2.trans hprobe
      rw [ht]
      exact .inl ⟨(marks_dsaTreePut _).trans hmarks, hput⟩
  | false =>
      have hrest := (h.resting hset).parsing hp
      rcases ht' with rfl | ⟨-, rfl⟩
      · exact .inl ⟨(marks_dsaTreePut _).trans hmarks, (hrest.release r.ds).put.clean⟩
      · rw [← hmarks]
        exact probe_cases hrest hp.life r.ds

/-- Marks stay. -/
theorem marks_register (hl : Life cfg t.members 0 t) (hen : Enabled cfg t (.register r))
    (hex : dsaRegisterSwitch cfg r t = .ok t') : t.marks <+: t'.marks := by
  rcases hl.register_cases hen hex with rfl | ⟨v, w, hp, -, rfl | ⟨-, rfl⟩⟩
  · exact List.prefix_refl _
  · rw [marks_dsaTreePut, ← marks_of_parsing hp]
    exact List.prefix_refl _
  · have hset : w.marks <+: (dsaTreeSetup cfg (dsaTreeGet w)).2.marks := (keeps_dsaTreeSetup cfg (dsaTreeGet w)).marks
    rw [← marks_of_parsing hp, probeTree]
    simp only
    split
    · rw [marks_dsaTreePut, marks_dsaTreePut]
      exact hset
    · rw [marks_dsaTreePut]
      exact hset

theorem clean_init (cfg : Config) : Clean cfg ∅ Tree.init :=
  Resting.clean
    { setup := rfl
      down := ⟨fun _ => rfl, fun _ => rfl⟩
      linked := ⟨⟨.nil, nofun⟩, ∅, rfl, fun _ => by simp [linkRes, Tree.heldLinks, Tree.init]⟩
      user := fun _ => rfl
      bus := fun _ => by simp [Tree.init]
      ptr := fun _ => rfl }

/-- **Runs without a mark.** -/
theorem clean_run {es : List Event} (hrun : (treeMachine cfg).Run Tree.init es t) (hmarks : t.marks = []) :
    Clean cfg ∅ t := by
  refine (hrun.invariant (I := fun t => Life cfg t.members 0 t ∧ (t.marks = [] → Clean cfg ∅ t))
    ⟨life_init cfg, fun _ => clean_init cfg⟩ ?_).2 hmarks
  intro t e t' ⟨hl, hclean⟩ hen hex
  cases e with
  | register r =>
      refine ⟨hl.register hen hex, fun hnil => ?_⟩
      have hstart : t.marks = [] := by
        have hpre := marks_register hl hen hex
        rw [hnil] at hpre
        exact List.prefix_nil.mp hpre
      rcases (hclean hstart).register hl hen hex with ⟨-, hend⟩ | hleft
      · exact hend
      · -- a registration on a marked path leaves a mark
        cases hleft with
        | tagger _ _ hm => simp [hm] at hnil
        | conduits _ _ _ hm => simp [hm] at hnil
        | lags hm => simp [hm] at hnil
  | unregister ds =>
      cases hex
      refine ⟨hl.unregister hen, fun hnil => ?_⟩
      have hpre : t.marks <+: (dsaUnregisterSwitch cfg ds t).marks := by
        simp only [dsaUnregisterSwitch, marks_dsaTreePut]
        exact (keeps_dsaTreeTeardown cfg t).marks
      rw [hnil] at hpre
      exact ((hclean (List.prefix_nil.mp hpre)).unregister hl ds).1

/-- No link was lost, or the tree was freed and some were. -/
def Drops (t t' : Tree) : Prop :=
  t'.lostLinks = t.lostLinks ∨
    t'.refcount = 0 ∧ t'.setup = false ∧ t'.rtable = [] ∧ ∃ dls, dls ≠ [] ∧ t'.lostLinks = t.lostLinks ++ dls

theorem Drops.put (h : Drops t u) : Drops t (dsaTreePut u) := by
  rw [dsaTreePut]
  split
  · rcases h with hsame | ⟨-, -, hnil, hdls⟩
    · cases hrt : u.rtable with
      | nil => exact .inl (by simp [dsaTreeFree, hrt, hsame])
      | cons dl dls =>
          refine .inr ⟨rfl, rfl, rfl, dl.id :: dls.map Link.id, List.cons_ne_nil _ _, ?_⟩
          simp [dsaTreeFree, hrt, hsame]
    · -- it was freed before, and has no links any more
      refine .inr ⟨rfl, rfl, rfl, ?_⟩
      simpa [dsaTreeFree, hnil] using hdls
  · rename_i hgt
    rcases h with hsame | ⟨h0, -⟩
    · exact .inl hsame
    · omega

section Fault

variable {f : LedgerFault Res}

theorem dsaPortTeardown_fault (h : t.io.book = .error f) (p : PortId) : (dsaPortTeardown p t).io.book = .error f := by
  rw [dsaPortTeardown]
  split
  · refine Calls.give_of_fault ?_
    rw [portDown]
    split
    · exact h
    · exact Calls.giveIf_of_fault (Calls.give_of_fault h)
    · exact Calls.giveIf_of_fault (Calls.give_of_fault h)
    · exact Calls.giveIf_of_fault h
  · exact h

theorem dsaTreeTeardownPorts_fault (h : t.io.book = .error f) : (dsaTreeTeardownPorts t).io.book = .error f := by
  have hloop : ∀ b (u : Tree), u.io.book = .error f → (teardownLoop b u).io.book = .error f := by
    intro b u hu
    refine List.foldlRecOn (motive := fun v : Tree => v.io.book = .error f) u.ports _ hu fun v hv p _ => ?_
    split
    · exact dsaPortTeardown_fault hv p
    · exact hv
  exact hloop true _ (hloop false t h)

theorem dsaTreeTeardownConduit_fault (cfg : Config) (h : t.io.book = .error f) :
    (dsaTreeTeardownConduit cfg t).io.book = .error f := by
  refine List.foldlRecOn (motive := fun v : Tree => v.io.book = .error f) t.ports _ h fun v hv p _ => ?_
  split
  · exact Calls.giveIf_of_fault (Calls.give_of_fault (Calls.give_of_fault hv))
  · exact hv

theorem dsaTreeTeardownSwitches_fault (cfg : Config) (h : t.io.book = .error f) :
    (dsaTreeTeardownSwitches cfg t).io.book = .error f := by
  refine List.foldlRecOn (motive := fun v : Tree => v.io.book = .error f) t.ports _ h fun v hv p _ => ?_
  rw [dsaSwitchTeardown]
  split
  · refine Calls.give_of_fault (Calls.give_of_fault (Calls.giveIf_of_fault (Calls.giveIf_of_fault ?_)))
    exact Calls.giveIf_of_fault (Calls.giveIf_of_fault (Calls.give_of_fault hv))
  · exact hv

theorem freeLinks_fault (h : t.io.book = .error f) : (freeLinks t).io.book = .error f :=
  List.foldlRecOn (motive := fun io : Calls Res => io.book = .error f) t.rtable _ h
    fun _ hio _ _ => Calls.give_of_fault hio

end Fault

/-- When the first mark of a run is about the LAG table, the next switch that unregisters makes
`dsa_tree_teardown_lags` free the table that was already freed, whatever registrations come before it. -/
theorem lags_freed_twice {es es' : List Event} (hrun : (treeMachine cfg).Run Tree.init es t) (hmarks : t.marks = [])
    (hen : Enabled cfg t (.register r)) (hex : dsaRegisterSwitch cfg r t = .ok t') (hmark : t'.marks = [.lags])
    (hregs : ∀ e ∈ es', ∃ r, e = .register r) (hrun' : (treeMachine cfg).Run t' es' u) (ds : ℕ) :
    (dsaUnregisterSwitch cfg ds u).io.book = .error (.notTaken .lags) := by
  have hl := life_run hrun
  have hstale : Clean cfg {.lags} t' ∧ t'.setup = true ∧ t'.lags = true := by
    rcases (clean_run hrun hmarks).register hl hen hex with ⟨hsame, -⟩ | hleft
    · rw [hsame, hmarks] at hmark
      cases hmark
    · rw [hmarks] at hleft
      cases hleft with
      | tagger _ _ hm => simp [hm] at hmark
      | conduits _ _ _ hm => simp [hm] at hmark
      | lags _ hset hptr hclean => exact ⟨hclean, hset, hptr⟩
  -- until the next unregistration
  have hrun'' := hrun'.restrict (c := fun _ e => ∃ r, e = .register r) fun e he _ => hregs e he
  obtain ⟨-, hclean, hset, hptr⟩ := hrun''.invariant
    (I := fun u => Life cfg u.members 0 u ∧ Clean cfg {.lags} u ∧ u.setup = true ∧ u.lags = true)
    ⟨hl.register hen hex, hstale⟩ (by
      rintro u _ u' ⟨hl, hclean, hset, hptr⟩ ⟨hen, r, rfl⟩ hex
      obtain ⟨hclean', hset', hlags⟩ := hclean.refused hl hset hen hex
      exact ⟨hl.register hen hex, hclean', hset', hlags.trans hptr⟩)
  have hfault : (dsaTreeTeardownLags u).io.book = .error (.notTaken .lags) := by
    rw [dsaTreeTeardownLags, hptr]
    exact hclean.owns.give_of_notMem fun hmem => hmem.2 rfl
  rw [dsaUnregisterSwitch]
  simp only [io_dsaTreePut, dsaSwitchReleasePorts]
  rw [dsaTreeTeardown, if_pos hset]
  have hdown := dsaTreeTeardownSwitches_fault cfg
    (dsaTreeTeardownPorts_fault (dsaTreeTeardownConduit_fault cfg hfault))
  exact freeLinks_fault ((congrArg (fun v : Tree => v.io.book) (cpuStage_dsaTreeTeardownCpuPorts _).rest).trans hdown)

/-- The switch that has LAGs is replaced by one that has none. -/
theorem lags_freed_twice_of_pair :
    ∃ t t', (treeMachine linkedPair).Run Tree.init (pairEvents ++ [.unregister 0]) t ∧
      dsaRegisterSwitch linkedPair (leafSwitch 2) t = .ok t' ∧ t'.members = [1, 2] ∧
      (dsaUnregisterSwitch linkedPair 2 t').io.book = .error (.notTaken .lags) := by
  have hsome : ((treeMachine linkedPair).replay Tree.init (pairEvents ++ [.unregister 0])).isSome = true := by decide
  have hrun := Machine.Run.of_isSome hsome Tree.init
  have hen : Enabled linkedPair (((treeMachine linkedPair).replay Tree.init (pairEvents ++ [.unregister 0])).getD
      Tree.init) (.register (leafSwitch 2)) := by decide
  refine ⟨_, _, hrun, rfl, by decide, ?_⟩
  exact lags_freed_twice hrun (by decide) hen rfl (by decide) (fun e he => absurd he List.not_mem_nil) .nil 2

end Axm57104.Dsa.TreeSetup
