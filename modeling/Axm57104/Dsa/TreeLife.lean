import Axm57104.Dsa.TreeRuns

/-!
# The life of a tree

A tree lives as long as a switch is registered with it: its reference count is the number of registered
switches, its ports are theirs, and the module of the tagger is referenced once while there is a tagger. A
registration that fails, for whatever reason, leaves all this as it was.
-/

namespace Axm57104.Dsa.TreeSetup

open Common
open Fabric (PortId)

variable {cfg : Config} {t t' u : Tree} {p q : PortId} {ds : ℕ} {io : Calls Res} {ms : List ℕ} {n : ℕ}

/-- One reference to the module of the tagger of the tree, and none to others. -/
def TagCounted (t : Tree) : Prop := ∀ g, t.tagRefs g = if t.tagOps = some g then 1 else 0

/-- `ms` are the switches with ports on the list, and there are `n` references beyond those of the members. -/
structure Life (cfg : Config) (ms : List ℕ) (n : ℕ) (t : Tree) : Prop where
  count : t.refcount = t.members.length + n
  distinct : t.members.Nodup
  nodup : t.ports.Nodup
  owner : ∀ p ∈ t.ports, p.ds ∈ ms
  index : ∀ p ∈ t.ports, p.index < cfg.numPorts p.ds
  full : ∀ ds ∈ t.members, ∀ i < cfg.numPorts ds, ⟨ds, i⟩ ∈ t.ports
  wired : Wired t t.ports
  cpuTag : ∀ p ∈ t.ports, (t.port p).type = .cpu → t.tagOps.isSome
  counted : TagCounted t
  alive : t.refcount = 0 → t.tagOps = none

theorem life_init (cfg : Config) : Life cfg [] 0 Tree.init where
  count := rfl
  distinct := .nil
  nodup := .nil
  owner := nofun
  index := nofun
  full := nofun
  wired := nofun
  cpuTag := nofun
  counted := fun _ => rfl
  alive := fun _ => rfl

/-! ## The links of the routing table -/

/-- The links that were not freed: those of the routing table, and the lost ones. -/
def Tree.heldLinks (t : Tree) : List ℕ := t.rtable.map Link.id ++ t.lostLinks

/-- What the links `dls` hold. -/
def linkRes (dls : List ℕ) : Set Res := {r | ∃ dl ∈ dls, r = .dsaLink dl}

@[simp] theorem dsaLink_mem_linkRes {dl : ℕ} {dls : List ℕ} : .dsaLink dl ∈ linkRes dls ↔ dl ∈ dls := by
  simp [linkRes]

theorem linkRes_cons (dl : ℕ) (dls : List ℕ) : linkRes (dl :: dls) = insert (.dsaLink dl) (linkRes dls) := by
  ext r
  simp [linkRes]

theorem linkRes_append (dls dls' : List ℕ) : linkRes (dls ++ dls') = linkRes dls ∪ linkRes dls' := by
  ext r
  simp only [linkRes, List.mem_append, or_and_right, exists_or]
  rfl

theorem linkRes_perm {dls dls' : List ℕ} (h : dls.Perm dls') : linkRes dls = linkRes dls' := by
  ext r
  simp only [linkRes, h.mem_iff]

theorem ofLinks_linkRes (dls : List ℕ) : OfLinks (linkRes dls) := fun _ ⟨dl, _, hr⟩ => ⟨dl, hr⟩

/-- No link is on two lists, and the next one is none of them. -/
structure LinksOk (t : Tree) : Prop where
  nodup : t.heldLinks.Nodup
  lt : ∀ dl ∈ t.heldLinks, dl < t.linkCount

/-- Exactly the links are held. -/
structure Linked (t : Tree) : Prop where
  ok : LinksOk t
  owns : t.io.Owns (linkRes t.heldLinks)

theorem LinksOk.perm (h : LinksOk t) (hperm : t'.heldLinks.Perm t.heldLinks) (hcount : t'.linkCount = t.linkCount) :
    LinksOk t' := by
  refine ⟨hperm.nodup_iff.mpr h.nodup, fun dl hdl => ?_⟩
  rw [hcount]
  exact h.lt dl (hperm.subset hdl)

theorem heldLinks_congr (hlinks : t'.links = t.links) : t'.heldLinks = t.heldLinks :=
  congrArg (fun l : List Link × ℕ × List ℕ => l.1.map Link.id ++ l.2.2) hlinks

theorem LinksOk.congr (h : LinksOk t) (hlinks : t'.links = t.links) : LinksOk t' :=
  h.perm (.of_eq (heldLinks_congr hlinks)) (congrArg (fun l => l.2.1) hlinks)

/-- **A link.** It is taken under a name of its own. -/
theorem linked_dsaLinkTouch (h : Linked t) (p link : PortId) : Linked (dsaLinkTouch p link t).2 := by
  have hnew : .dsaLink t.linkCount ∉ linkRes t.heldLinks := by
    rw [dsaLink_mem_linkRes]
    exact fun hmem => lt_irrefl _ (h.ok.lt _ hmem)
  simp only [dsaLinkTouch]
  split
  · exact h
  rcases h.owns.tryTake hnew with ⟨herr, hown⟩ | ⟨h0, hown⟩
  · rw [if_pos herr]
    exact ⟨⟨h.ok.nodup, h.ok.lt⟩, hown⟩
  · rw [if_neg (not_not.mpr h0)]
    have hperm : ((t.rtable ++ [Link.mk t.linkCount (t.port p).addr (t.port link).addr]).map Link.id ++
        t.lostLinks).Perm (t.linkCount :: t.heldLinks) := by
      rw [List.map_append, List.append_assoc]
      exact List.perm_middle
    refine ⟨⟨hperm.nodup_iff.mpr (List.nodup_cons.mpr ⟨?_, h.ok.nodup⟩), fun dl hdl => ?_⟩, ?_⟩
    · exact fun hmem => lt_irrefl _ (h.ok.lt _ hmem)
    · rcases List.mem_cons.mp (hperm.subset hdl) with rfl | hmem
      · exact Nat.lt_succ_self _
      · exact Nat.lt_succ_of_lt (h.ok.lt dl hmem)
    · exact hown.congr ((linkRes_perm hperm).trans (linkRes_cons _ _)).symm

theorem giveLinks_owns {dls : List Link} {ids : List ℕ} (hnodup : (dls.map Link.id ++ ids).Nodup)
    (h : io.Owns (linkRes (dls.map Link.id ++ ids))) :
    (dls.foldl (fun io dl => io.give (.dsaLink dl.id)) io).Owns (linkRes ids) := by
  induction dls generalizing io with
  | nil => exact h
  | cons dl dls ih =>
      rw [List.map_cons, List.cons_append] at hnodup h
      obtain ⟨hdl, hnodup⟩ := List.nodup_cons.mp hnodup
      rw [linkRes_cons] at h
      exact ih hnodup (h.undo (by rwa [dsaLink_mem_linkRes]))

/-- The links of the routing table are freed, the lost ones are not. -/
theorem linked_freeLinks (h : Linked t) : Linked (freeLinks t) :=
  ⟨⟨h.ok.nodup.of_append_right, fun dl hdl => h.ok.lt dl (List.mem_append_right _ hdl)⟩,
    giveLinks_owns h.ok.nodup h.owns⟩

/-! ## Setting up and tearing down -/

/-- `t'` comes from `t` by changing the routing table and the CPU port pointers. -/
structure Idle (t t' : Tree) : Prop where
  rest : t' = { t with port := t'.port, rtable := t'.rtable, linkCount := t'.linkCount, io := t'.io }
  port : ∀ p, t'.port p = { t.port p with cpuDp := (t'.port p).cpuDp }
  linked : Linked t → Linked t'

namespace Idle

theorem refl (t : Tree) : Idle t t := ⟨rfl, fun _ => rfl, id⟩

theorem trans (h : Idle t t') (h' : Idle t' u) : Idle t u := by
  refine ⟨?_, fun p => ?_, h'.linked ∘ h.linked⟩
  · rw [h'.rest, h.rest]
  · rw [h'.port p, h.port p]

theorem of_cpuStage (h : CpuStage t t') : Idle t t' := by
  refine ⟨?_, h.port, fun hl => ?_⟩
  · rw [h.rest]
  · rw [h.rest]
    exact ⟨⟨hl.ok.nodup, hl.ok.lt⟩, hl.owns⟩

theorem keeps (h : Idle t t') : Keeps t t' := by
  refine ⟨?_, fun p => ?_, ?_⟩
  · rw [h.rest]
    rfl
  · rw [h.port p]
    rfl
  · rw [h.rest]

end Idle

theorem idle_setupLinks (p : PortId) (dns : List ℕ) (t : Tree) : Idle t (setupLinks p dns t).2 := by
  induction dns generalizing t with
  | nil => exact .refl t
  | cons dn dns ih =>
      rw [setupLinks]
      split
      · exact .refl t
      · rename_i link _
        have htouch : Idle t (dsaLinkTouch p link t).2 := by
          refine ⟨?_, fun q => ?_, fun hl => linked_dsaLinkTouch hl p link⟩
          · simp only [dsaLinkTouch]
            repeat' split
            all_goals rfl
          · simp only [dsaLinkTouch]
            repeat' split
            all_goals rfl
        simp only
        split
        · exact htouch.trans (ih _)
        · exact htouch

theorem idle_setupRoutes (ps : List PortId) (t : Tree) : Idle t (setupRoutes cfg ps t).2 := by
  induction ps generalizing t with
  | nil => exact .refl t
  | cons p ps ih =>
      rw [setupRoutes]
      split
      · simp only
        have hlinks : Idle t (dsaPortSetupRoutingTable cfg p t).2 := idle_setupLinks p _ t
        split
        · exact hlinks.trans (ih _)
        · exact hlinks
      · exact ih t

theorem keeps_setupStages (cfg : Config) (t : Tree) : Keeps t (setupStages cfg t).2 := by
  have hs := keeps_dsaTreeSetupSwitches cfg t
  have hcpu : ∀ u, Keeps u (dsaTreeTeardownCpuPorts u) := fun u => (cpuStage_dsaTreeTeardownCpuPorts u).keeps
  have hundo : ∀ u, Keeps u (dsaTreeTeardownCpuPorts (dsaTreeTeardownSwitches cfg (dsaTreeTeardownPorts u))) :=
    fun u => (keeps_dsaTreeTeardownPorts u).trans ((keeps_dsaTreeTeardownSwitches cfg _).trans (hcpu _))
  have hmark : ∀ u m, Keeps u (dsaTreeTeardownCpuPorts (dsaTreeTeardownSwitches cfg
      (dsaTreeTeardownPorts { u with marks := u.marks ++ [m] }))) := by
    intro u m
    have h := hundo { u with marks := u.marks ++ [m] }
    exact ⟨h.core, h.wiring, (List.prefix_append _ _).trans h.marks⟩
  simp only [setupStages]
  split
  · exact hs.trans (hcpu _)
  have hp := hs.trans (keeps_dsaTreeSetupPorts _)
  split
  · exact hp.trans ((keeps_dsaTreeTeardownSwitches cfg _).trans (hcpu _))
  have hc := hp.trans (keeps_dsaTreeSetupConduit cfg _)
  split
  · exact hc.trans (hmark _ _)
  have hl := hc.trans (keeps_dsaTreeSetupLags cfg _)
  split
  · dsimp only
    exact hl.trans ((keeps_dsaTreeTeardownConduit cfg _).trans (hundo _))
  · exact hl.trans (.of_eq rfl rfl rfl)

/-- The part of `dsa_tree_setup` before the stages, when it gets there. -/
theorem dsaTreeSetup_cases (cfg : Config) (t : Tree) :
    (t.setup = true ∧ dsaTreeSetup cfg t = (-EEXIST, t)) ∨
    (t.setup = false ∧ Idle t (dsaTreeSetup cfg t).2) ∨
    (t.setup = false ∧ ∃ d, Idle t d ∧ (∃ p ∈ d.ports, (d.port p).type = .cpu) ∧
      dsaTreeSetup cfg t = setupStages cfg d) := by
  simp only [dsaTreeSetup]
  cases hset : t.setup with
  | true => exact .inl ⟨rfl, rfl⟩
  | false =>
      have hroute : Idle t (dsaTreeSetupRoutingTable cfg t).2 := idle_setupRoutes t.ports t
      rw [if_neg Bool.false_ne_true]
      split
      · exact .inr (.inl ⟨rfl, hroute⟩)
      have hcpu := hroute.trans (.of_cpuStage (cpuStage_dsaTreeSetupCpuPorts cfg _))
      split
      · exact .inr (.inl ⟨rfl, hcpu⟩)
      have hdef := hcpu.trans (.of_cpuStage (cpuStage_dsaTreeSetupDefaultCpu _))
      split
      · exact .inr (.inl ⟨rfl, hdef⟩)
      · rename_i h0
        have hk := (cpuStage_dsaTreeSetupDefaultCpu (dsaTreeSetupCpuPorts cfg (dsaTreeSetupRoutingTable cfg t).2).2).keeps
        obtain ⟨p, hp, hpcpu⟩ := exists_cpu_of_setupDefaultCpu (not_not.mp h0)
        exact .inr (.inr ⟨rfl, _, hdef, ⟨p, hk.ports ▸ hp, (hk.cpu p).mpr hpcpu⟩, rfl⟩)

theorem keeps_dsaTreeSetup (cfg : Config) (t : Tree) : Keeps t (dsaTreeSetup cfg t).2 := by
  rcases dsaTreeSetup_cases cfg t with ⟨-, heq⟩ | ⟨-, hidle⟩ | ⟨-, d, hidle, -, heq⟩
  · rw [heq]
    exact .refl t
  · exact hidle.keeps
  · rw [heq]
    exact hidle.keeps.trans (keeps_setupStages cfg d)

theorem keeps_dsaTreeTeardown (cfg : Config) (t : Tree) : Keeps t (dsaTreeTeardown cfg t) := by
  rw [dsaTreeTeardown]
  split
  · have hlags : Keeps t (dsaTreeTeardownLags t) := .of_eq rfl rfl rfl
    have hdown := (hlags.trans (keeps_dsaTreeTeardownConduit cfg _)).trans
      ((keeps_dsaTreeTeardownPorts _).trans (keeps_dsaTreeTeardownSwitches cfg _))
    have hcpu := hdown.trans (cpuStage_dsaTreeTeardownCpuPorts _).keeps
    exact ⟨hcpu.core, hcpu.wiring, hcpu.marks⟩
  · exact .refl t

theorem Life.keeps (h : Life cfg ms n t) (hk : Keeps t t') : Life cfg ms n t' := by
  have href : t'.refcount = t.refcount := congrArg (fun c => c.1) hk.core
  have hmem : t'.members = t.members := congrArg (fun c => c.2.1) hk.core
  have hrefs : t'.tagRefs = t.tagRefs := congrArg (fun c => c.2.2.2.2.1) hk.core
  refine ⟨?_, ?_, ?_, ?_, ?_, ?_, ?_, ?_, ?_, ?_⟩
  · rw [href, hmem]
    exact h.count
  · rw [hmem]
    exact h.distinct
  · rw [hk.ports]
    exact h.nodup
  · rw [hk.ports]
    exact h.owner
  · rw [hk.ports]
    exact h.index
  · rw [hk.ports, hmem]
    exact h.full
  · rw [hk.ports]
    exact hk.wired h.wired
  · simp only [hk.ports, hk.tagOps, hk.cpu]
    exact h.cpuTag
  · rw [TagCounted, hrefs, hk.tagOps]
    exact h.counted
  · rw [href, hk.tagOps]
    exact h.alive

/-! ## Parsing a switch -/

/-- `t'` comes from `t` by parsing ports of the switch `ds`, as described by `descs`. -/
structure Parsed (ds : ℕ) (descs : List PortDesc) (t t' : Tree) : Prop where
  rest : t' = { t with
    ports := t'.ports, port := t'.port, tagOps := t'.tagOps, tagRefs := t'.tagRefs
    defaultProto := t'.defaultProto, io := t'.io }
  book : t'.io.book = t.io.book
  ports : ∃ new, t'.ports = t.ports ++ new ∧ ∀ p ∈ new, p.ds = ds
  nodup : t'.ports.Nodup
  others : ∀ q, q.ds ≠ ds → t'.port q = t.port q
  own : (∀ q, q.ds = ds → (t.port q).setup = false ∧ (t.port q).user = false) →
    ∀ q, q.ds = ds → (t'.port q).setup = false ∧ (t'.port q).user = false
  cpu : ∀ q ∈ t'.ports, q.ds = ds → (t'.port q).type = .cpu →
    t'.tagOps.isSome ∧ ∃ d ∈ descs, d.index = q.index ∧ d.conduit = some (t'.port q).conduit
  tag : t.tagOps.isSome → t'.tagOps = t.tagOps
  counted : TagCounted t'

namespace Parsed

variable {descs : List PortDesc}

theorem start (hnodup : t.ports.Nodup) (hds : ∀ p ∈ t.ports, p.ds ≠ ds) (hcount : TagCounted t) :
    Parsed ds descs t t where
  rest := rfl
  book := rfl
  ports := ⟨[], (List.append_nil _).symm, nofun⟩
  nodup := hnodup
  others := fun _ _ => rfl
  own := fun h => h
  cpu := fun q hq hqds => absurd hqds (hds q hq)
  tag := fun _ => rfl
  counted := hcount

theorem touch (h : Parsed ds descs t u) (addr : ℕ → ℕ) (i : ℕ) :
    Parsed ds descs t (dsaPortTouch ds addr i u).2 := by
  simp only [dsaPortTouch]
  split
  · exact h
  · rename_i hnot
    split
    · refine { h with rest := ?_, book := h.book }
      rw [h.rest]
    · obtain ⟨new, hnew, hds⟩ := h.ports
      refine ⟨?_, h.book, ⟨new ++ [⟨ds, i⟩], ?_, ?_⟩, ?_, fun q hq => ?_, fun hown q hq => ?_, ?_, h.tag, h.counted⟩
      · rw [h.rest]
      · rw [hnew, List.append_assoc]
      · intro p hp
        rcases List.mem_append.mp hp with hp | hp
        · exact hds p hp
        · rw [List.mem_singleton.mp hp]
      · exact h.nodup.append (List.nodup_singleton _) fun p hp hpi => hnot (List.mem_singleton.mp hpi ▸ hp)
      · refine (Function.update_of_ne ?_ _ _).trans (h.others q hq)
        rintro rfl
        exact hq rfl
      · by_cases hqi : q = ⟨ds, i⟩
        · subst hqi
          simp only [Function.update_self]
          exact ⟨rfl, rfl⟩
        · simp only [Function.update_of_ne hqi]
          exact h.own hown q hq
      · intro q hq hqds hcpu
        by_cases hqi : q = ⟨ds, i⟩
        · subst hqi
          simp only [Function.update_self] at hcpu
          cases hcpu
        · simp only [Function.update_of_ne hqi] at hcpu ⊢
          refine h.cpu q ?_ hqds hcpu
          exact (List.mem_append.mp hq).resolve_right fun hmem => hqi (List.mem_singleton.mp hmem)

/-- A port of the switch that is not set up is written. -/
theorem setPort (h : Parsed ds descs t u) {i : ℕ} {dp : Port}
    (hdp : dp.setup = (u.port ⟨ds, i⟩).setup ∧ dp.user = (u.port ⟨ds, i⟩).user)
    (hcpu : dp.type = .cpu → u.tagOps.isSome ∧ ∃ d ∈ descs, d.index = i ∧ d.conduit = some dp.conduit) :
    Parsed ds descs t { u with port := Function.update u.port ⟨ds, i⟩ dp } := by
  refine ⟨?_, h.book, h.ports, h.nodup, fun q hq => ?_, fun hown q hq => ?_, ?_, h.tag, h.counted⟩
  · rw [h.rest]
  · refine (Function.update_of_ne ?_ _ _).trans (h.others q hq)
    rintro rfl
    exact hq rfl
  · by_cases hqi : q = ⟨ds, i⟩
    · subst hqi
      simp only [Function.update_self]
      rw [hdp.1, hdp.2]
      exact h.own hown ⟨ds, i⟩ rfl
    · simp only [Function.update_of_ne hqi]
      exact h.own hown q hq
  · intro q hq hqds hqcpu
    by_cases hqi : q = ⟨ds, i⟩
    · subst hqi
      simp only [Function.update_self] at hqcpu ⊢
      exact hcpu hqcpu
    · simp only [Function.update_of_ne hqi] at hqcpu ⊢
      exact h.cpu q hq hqds hqcpu

/-- The tree gets the tagger, or has it, or has another one. -/
theorem setTagOps (h : Parsed ds descs t u) (g : ℕ) :
    Parsed ds descs t (setTagOps g u).2 ∧ (setTagOps g u).2.ports = u.ports ∧
      (setTagOps g u).2.port = u.port ∧
      ((setTagOps g u).1 = 0 → (setTagOps g u).2.tagOps.isSome) := by
  have hback : Function.update (Function.update u.tagRefs g (u.tagRefs g + 1)) g
      (Function.update u.tagRefs g (u.tagRefs g + 1) g - 1) = u.tagRefs := by
    rw [Function.update_self, Nat.add_sub_cancel, Function.update_idem, Function.update_eq_self]
  simp only [TreeSetup.setTagOps]
  cases htag : u.tagOps with
  | some g' =>
      simp only [hback]
      -- the reference that was taken is given back, whether or not it is the same tagger
      have hput : Parsed ds descs t { u with tagOps := some g' } := by
        rw [← htag]
        exact h
      split
      · exact ⟨hput, rfl, rfl, fun h0 => nomatch h0⟩
      · exact ⟨hput, rfl, rfl, fun _ => rfl⟩
  | none =>
      -- the reference that was taken is the only one
      refine ⟨⟨?_, h.book, h.ports, h.nodup, h.others, h.own, ?_, ?_, ?_⟩, rfl, rfl, fun _ => rfl⟩
      · rw [h.rest]
      · intro q hq hqds hcpu
        exact ⟨rfl, (h.cpu q hq hqds hcpu).2⟩
      · intro hsome
        rw [← h.tag hsome, htag] at hsome
        cases hsome
      · intro g'
        have hzero : u.tagRefs g' = 0 := by rw [h.counted g', htag, if_neg nofun]
        by_cases hg : g' = g
        · subst hg
          simp only [Function.update_self, hzero, if_true]
        · have hne : ¬some g = some g' := fun heq => hg (Option.some.inj heq).symm
          simp only [Function.update_of_ne hg, hzero, if_neg hne]

/-- One port is parsed. -/
theorem parse (h : Parsed ds descs t u) (hfull : ∀ i < cfg.numPorts ds, ⟨ds, i⟩ ∈ u.ports) {d : PortDesc}
    (hd : d ∈ descs) :
    Parsed ds descs t (parsePort cfg ds d u).2 ∧ (parsePort cfg ds d u).2.ports = u.ports := by
  rw [parsePort]
  split
  swap
  · exact ⟨h, rfl⟩
  rename_i hi
  have hdn : Parsed ds descs t
      { u with port := Function.update u.port ⟨ds, d.index⟩ { u.port ⟨ds, d.index⟩ with dn := d.dn } } :=
    h.setPort ⟨rfl, rfl⟩ fun hcpu => h.cpu _ (hfull _ hi) rfl hcpu
  simp only [dsaPortParse]
  split
  · exact ⟨hdn, rfl⟩
  · rename_i conduit proto userProtocol byId hdesc
    simp only [dsaPortParseCpu]
    split
    · exact ⟨hdn, rfl⟩
    · have hproto : ∀ {v : Tree}, Parsed ds descs t v → Parsed ds descs t { v with defaultProto := proto } :=
        fun {v} hv => { hv with rest := by rw [hv.rest] }
      split
      · exact ⟨hproto hdn, rfl⟩
      · split
        · exact ⟨hproto hdn, rfl⟩
        · rename_i g _
          obtain ⟨htag, hports, hport, hsome⟩ := (hproto hdn).setTagOps g
          split
          · exact ⟨htag, hports⟩
          · rename_i h0
            refine ⟨htag.setPort ⟨rfl, rfl⟩ fun _ => ⟨hsome (not_not.mp h0), d, hd, rfl, ?_⟩, hports⟩
            rw [PortDesc.conduit, hdesc]
  · exact ⟨hdn.setPort ⟨rfl, rfl⟩ fun hcpu => (nomatch hcpu), rfl⟩
  · exact ⟨hdn.setPort ⟨rfl, rfl⟩ fun hcpu => (nomatch hcpu), rfl⟩

end Parsed

theorem mem_ports_dsaPortTouch {addr : ℕ → ℕ} {i : ℕ} (h : p ∈ t.ports) :
    p ∈ (dsaPortTouch ds addr i t).2.ports := by
  simp only [dsaPortTouch]
  split
  · exact h
  · split
    · exact h
    · exact List.mem_append_left _ h

theorem mem_dsaPortTouch {addr : ℕ → ℕ} {i : ℕ} (h : (dsaPortTouch ds addr i t).1 = 0) :
    ⟨ds, i⟩ ∈ (dsaPortTouch ds addr i t).2.ports := by
  simp only [dsaPortTouch] at h ⊢
  split
  · assumption
  · rename_i hnot
    rw [if_neg hnot] at h
    split
    · rename_i herr
      rw [if_pos herr] at h
      cases h
    · exact List.mem_append_right _ (List.mem_singleton_self _)

theorem index_dsaPortTouch {addr : ℕ → ℕ} {i n : ℕ} (hi : i < n) (h : ∀ p ∈ t.ports, p.ds = ds → p.index < n) :
    ∀ p ∈ (dsaPortTouch ds addr i t).2.ports, p.ds = ds → p.index < n := by
  simp only [dsaPortTouch]
  split
  · exact h
  · split
    · exact h
    · intro p hp hpds
      rcases List.mem_append.mp hp with hp | hp
      · exact h p hp hpds
      · rw [List.mem_singleton.mp hp]
        exact hi

/-- **Parsing.** Whether it succeeds or not, only the ports of the switch and the tagger are concerned. -/
theorem parsed_dsaSwitchParse {r : Reg} (hnodup : t.ports.Nodup) (hds : ∀ p ∈ t.ports, p.ds ≠ r.ds)
    (hcount : TagCounted t) :
    Parsed r.ds r.ports t (dsaSwitchParse cfg r t).2 ∧
      ((dsaSwitchParse cfg r t).1 = 0 →
        ∀ i < cfg.numPorts r.ds, ⟨r.ds, i⟩ ∈ (dsaSwitchParse cfg r t).2.ports) ∧
      ∀ p ∈ (dsaSwitchParse cfg r t).2.ports, p.ds = r.ds → p.index < cfg.numPorts r.ds := by
  have hstart : Parsed r.ds r.ports t t := .start hnodup hds hcount
  have hnone : ∀ p ∈ t.ports, p.ds = r.ds → p.index < cfg.numPorts r.ds := fun p hp heq => absurd heq (hds p hp)
  have htouch : Parsed r.ds r.ports t (dsaSwitchTouchPorts cfg r.ds r.addr t).2 :=
    notifyChain_keeps (fun i u hu => hu.touch r.addr i) _ hstart
  have hindex : ∀ p ∈ (dsaSwitchTouchPorts cfg r.ds r.addr t).2.ports, p.ds = r.ds → p.index < cfg.numPorts r.ds :=
    notifyChain_keeps_mem (P := fun u : Tree => ∀ p ∈ u.ports, p.ds = r.ds → p.index < cfg.numPorts r.ds)
      (fun i hi u hu => index_dsaPortTouch (List.mem_range.mp hi) hu) hnone
  simp only [dsaSwitchParse]
  split
  · exact ⟨hstart, fun h0 => (nomatch h0), hnone⟩
  split
  · rename_i herr
    exact ⟨htouch, fun h0 => absurd h0 herr, hindex⟩
  rename_i h0
  have hfull : ∀ i < cfg.numPorts r.ds, ⟨r.ds, i⟩ ∈ (dsaSwitchTouchPorts cfg r.ds r.addr t).2.ports := by
    intro i hi
    refine notifyChain_achieves (Q := fun i (u : Tree) => ⟨r.ds, i⟩ ∈ u.ports) ?_ ?_ (not_not.mp h0) i
      (List.mem_range.mpr hi)
    · exact fun i j u hmem => mem_ports_dsaPortTouch hmem
    · exact fun i u hok => mem_dsaPortTouch hok
  have hparse := notifyChain_keeps_mem
    (P := fun u => Parsed r.ds r.ports t u ∧ u.ports = (dsaSwitchTouchPorts cfg r.ds r.addr t).2.ports)
    (fun d hd u hu => (hu.1.parse (by rw [hu.2]; exact hfull) hd).imp id fun h => h.trans hu.2) ⟨htouch, rfl⟩
  have hindex' : ∀ p ∈ (notifyChain (parsePort cfg r.ds) r.ports (dsaSwitchTouchPorts cfg r.ds r.addr t).2).2.ports,
      p.ds = r.ds → p.index < cfg.numPorts r.ds := by
    rw [hparse.2]
    exact hindex
  split
  · rename_i herr
    exact ⟨hparse.1, fun h0 => absurd h0 herr, hindex'⟩
  · refine ⟨hparse.1, fun _ => ?_, hindex'⟩
    rw [hparse.2]
    exact hfull

/-! ## Registering and unregistering -/

-- what `dsa_tree_put` does not change, even if it frees the tree

@[simp] theorem members_dsaTreePut (t : Tree) : (dsaTreePut t).members = t.members := by
  rw [dsaTreePut]
  split <;> rfl

@[simp] theorem ports_dsaTreePut (t : Tree) : (dsaTreePut t).ports = t.ports := by
  rw [dsaTreePut]
  split <;> rfl

@[simp] theorem port_dsaTreePut (t : Tree) : (dsaTreePut t).port = t.port := by
  rw [dsaTreePut]
  split <;> rfl

@[simp] theorem sw_dsaTreePut (t : Tree) : (dsaTreePut t).sw = t.sw := by
  rw [dsaTreePut]
  split <;> rfl

@[simp] theorem dsaPtr_dsaTreePut (t : Tree) : (dsaTreePut t).dsaPtr = t.dsaPtr := by
  rw [dsaTreePut]
  split <;> rfl

@[simp] theorem marks_dsaTreePut (t : Tree) : (dsaTreePut t).marks = t.marks := by
  rw [dsaTreePut]
  split <;> rfl

@[simp] theorem io_dsaTreePut (t : Tree) : (dsaTreePut t).io = t.io := by
  rw [dsaTreePut]
  split <;> rfl

@[simp] theorem linkCount_dsaTreePut (t : Tree) : (dsaTreePut t).linkCount = t.linkCount := by
  rw [dsaTreePut]
  split <;> rfl

/-- A link that is lost is still held. -/
theorem heldLinks_dsaTreePut (t : Tree) : (dsaTreePut t).heldLinks.Perm t.heldLinks := by
  rw [dsaTreePut]
  split
  · have hfree : (dsaTreeFree t).heldLinks = t.lostLinks ++ t.rtable.map Link.id := rfl
    rw [hfree]
    exact List.perm_append_comm
  · exact .refl _

theorem linked_dsaTreePut (h : Linked t) : Linked (dsaTreePut t) := by
  have hperm := heldLinks_dsaTreePut t
  refine ⟨h.ok.perm hperm (linkCount_dsaTreePut t), ?_⟩
  rw [io_dsaTreePut, linkRes_perm hperm]
  exact h.owns

theorem dsaTreePut_setMembers (t : Tree) (ms : List ℕ) :
    { dsaTreePut t with members := ms } = dsaTreePut { t with members := ms } := by
  simp only [dsaTreePut]
  by_cases h : t.refcount ≤ 1
  · simp only [if_pos h, dsaTreeFree]
  · simp only [if_neg h]

namespace Life

theorem get (h : Life cfg ms n t) : Life cfg ms (n + 1) (dsaTreeGet t) :=
  { h with
    count := by rw [dsaTreeGet, h.count, Nat.add_assoc]
    alive := fun h0 => (nomatch h0) }

theorem touch (h : Life cfg ms 0 t) (ht : dsaTreeTouch t = some t') :
    Life cfg ms 1 t' ∧ t' = { t with refcount := t.refcount + 1, io := t'.io } ∧ t'.io.book = t.io.book := by
  rw [dsaTreeTouch] at ht
  split at ht
  · rename_i h0
    simp only at ht
    split at ht
    · cases ht
    · obtain rfl := Option.some.inj ht
      refine ⟨{ h with count := ?_, alive := fun h1 => (nomatch h1) }, by rw [h0], rfl⟩
      -- a tree that does not exist has no members
      have hlen : t.members.length = 0 := h.count.symm.trans h0
      simp only [hlen]
  · obtain rfl := Option.some.inj ht
    exact ⟨h.get, rfl, rfl⟩

theorem put (h : Life cfg ms (n + 1) t) (hlast : t.members.length + n = 0 → t.ports = []) :
    Life cfg ms n (dsaTreePut t) := by
  rw [dsaTreePut]
  split
  · rename_i hle
    have hzero : t.members.length + n = 0 := by
      have := h.count
      omega
    have hports := hlast hzero
    refine { h with count := hzero.symm, cpuTag := ?_, counted := ?_, alive := fun _ => rfl }
    · intro p hp
      rw [dsaTreeFree, hports] at hp
      cases hp
    · intro g
      simp only [dsaTreeFree]
      cases htag : t.tagOps with
      | none =>
          have := h.counted g
          rwa [htag] at this
      | some g' =>
          have hg := h.counted g
          rw [htag] at hg
          by_cases hgg : g = g'
          · subst hgg
            simp [hg]
          · have hne : g' ≠ g := fun heq => hgg heq.symm
            simp [Function.update_of_ne hgg, hg, hne]
  · rename_i hgt
    refine { h with count := ?_, alive := fun h0 => ?_ }
    · have := h.count
      simp only
      omega
    · simp only at h0
      omega

theorem release (h : Life cfg (ms ++ [ds]) n t) (hds : ds ∉ t.members) :
    Life cfg ms n (dsaSwitchReleasePorts ds t) := by
  have hsub : ∀ p ∈ (dsaSwitchReleasePorts ds t).ports, p ∈ t.ports ∧ p.ds ≠ ds := by
    intro p hp
    exact ⟨(List.mem_filter.mp hp).1, by simpa using (List.mem_filter.mp hp).2⟩
  refine { h with nodup := h.nodup.filter _, owner := ?_, index := ?_, full := ?_, wired := ?_, cpuTag := ?_ }
  · intro p hp
    rcases List.mem_append.mp (h.owner p (hsub p hp).1) with hmem | hmem
    · exact hmem
    · exact absurd (List.mem_singleton.mp hmem) (hsub p hp).2
  · exact fun p hp => h.index p (hsub p hp).1
  · intro d hd i hi
    refine List.mem_filter.mpr ⟨h.full d hd i hi, ?_⟩
    simp only [decide_eq_true_eq]
    rintro rfl
    exact hds hd
  · exact h.wired.mono fun p hp => (hsub p hp).1
  · exact fun p hp => h.cpuTag p (hsub p hp).1

theorem parsed {descs : List PortDesc} (h : Life cfg ms (n + 1) t) (hp : Parsed ds descs t t')
    (hindex : ∀ p ∈ t'.ports, p.ds = ds → p.index < cfg.numPorts ds)
    (hone : ∀ d ∈ descs, ∀ d' ∈ descs, d.conduit.isSome → d.conduit = d'.conduit → d.index = d'.index)
    (hnew : ∀ d ∈ descs, ∀ p ∈ t.ports, (t.port p).type = .cpu → d.conduit ≠ some (t.port p).conduit) :
    Life cfg (ms ++ [ds]) (n + 1) t' := by
  obtain ⟨new, hports, hnewds⟩ := hp.ports
  have href : t'.refcount = t.refcount := by rw [hp.rest]
  have hmem : t'.members = t.members := by rw [hp.rest]
  have hold : ∀ p ∈ t'.ports, p.ds ≠ ds → p ∈ t.ports ∧ t'.port p = t.port p := by
    intro p hp' hpds
    rw [hports] at hp'
    refine ⟨(List.mem_append.mp hp').resolve_right fun h => hpds (hnewds p h), hp.others p hpds⟩
  refine ⟨?_, ?_, hp.nodup, fun p hpm => ?_, fun p hpm => ?_, ?_, fun p hpm q hqm hpc hqc heq => ?_,
    fun p hpm hpc => ?_, hp.counted, fun h0 => ?_⟩
  · rw [href, hmem]
    exact h.count
  · rw [hmem]
    exact h.distinct
  · rw [hports] at hpm
    rcases List.mem_append.mp hpm with hpm | hpm
    · exact List.mem_append_left _ (h.owner p hpm)
    · exact List.mem_append_right _ (List.mem_singleton.mpr (hnewds p hpm))
  · by_cases hpds : p.ds = ds
    · rw [hpds]
      exact hindex p hpm hpds
    · exact h.index p (hold p hpm hpds).1
  · rw [hmem, hports]
    exact fun d hd i hi => List.mem_append_left _ (h.full d hd i hi)
  -- two new ports, a new and an old one, or two old ones
  · by_cases hpds : p.ds = ds
    · obtain ⟨-, d, hd, hdi, hdc⟩ := hp.cpu p hpm hpds hpc
      by_cases hqds : q.ds = ds
      · obtain ⟨-, d', hd', hdi', hdc'⟩ := hp.cpu q hqm hqds hqc
        have hi := hone d hd d' hd' (by rw [hdc]; rfl) (by rw [hdc, hdc', heq])
        have hpq : p.index = q.index := hdi.symm.trans (hi.trans hdi')
        cases p
        cases q
        simp only at hpds hqds hpq
        rw [hpds, hqds, hpq]
      · obtain ⟨hqt, hqeq⟩ := hold q hqm hqds
        rw [hqeq] at hqc heq
        exact absurd (hdc.trans (congrArg some heq)) (hnew d hd q hqt hqc)
    · obtain ⟨hpt, hpeq⟩ := hold p hpm hpds
      rw [hpeq] at hpc heq
      by_cases hqds : q.ds = ds
      · obtain ⟨-, d', hd', hdi', hdc'⟩ := hp.cpu q hqm hqds hqc
        exact absurd (hdc'.trans (congrArg some heq.symm)) (hnew d' hd' p hpt hpc)
      · obtain ⟨hqt, hqeq⟩ := hold q hqm hqds
        rw [hqeq] at hqc heq
        exact h.wired p hpt q hqt hpc hqc heq
  · by_cases hpds : p.ds = ds
    · exact (hp.cpu p hpm hpds hpc).1
    · obtain ⟨hpt, hpeq⟩ := hold p hpm hpds
      rw [hpeq] at hpc
      have hsome := h.cpuTag p hpt hpc
      rwa [hp.tag hsome]
  · rw [href, h.count] at h0
    exact nomatch h0

/-- The last reference but those of the members. -/
theorem putMembers (h : Life cfg ms 1 t) (hms : t.members = ms) : Life cfg ms 0 (dsaTreePut t) := by
  refine h.put fun h0 => List.eq_nil_iff_forall_not_mem.mpr fun p hp => ?_
  have hmem := h.owner p hp
  rw [← hms, List.length_eq_zero_iff.mp h0] at hmem
  cases hmem

/-- `dsa_switch_probe` after the parsing. -/
theorem probe (h : Life cfg (t.members ++ [ds]) 1 t) (hds : ds ∉ t.members)
    (hfull : ∀ i < cfg.numPorts ds, ⟨ds, i⟩ ∈ t.ports) :
    Life cfg (probeTree cfg ds t).members 0 (probeTree cfg ds t) := by
  have hk := keeps_dsaTreeSetup cfg (dsaTreeGet t)
  have hset := h.get.keeps hk
  have hmem : (dsaTreeSetup cfg (dsaTreeGet t)).2.members = t.members := congrArg (fun c => c.2.1) hk.core
  simp only [probeTree]
  split
  · have hrel := (hset.release (by rwa [hmem])).put (fun h0 => (nomatch h0))
    have hms : (dsaTreePut (dsaSwitchReleasePorts ds (dsaTreeSetup cfg (dsaTreeGet t)).2)).members = t.members :=
      (members_dsaTreePut _).trans hmem
    rw [members_dsaTreePut, hms]
    exact hrel.putMembers hms
  · have hput := hset.put (fun h0 => (nomatch h0))
    have hpm := members_dsaTreePut (dsaTreeSetup cfg (dsaTreeGet t)).2
    have hcount := hput.count
    rw [hpm, hmem] at hcount
    refine { hput with count := ?_, distinct := ?_, owner := ?_, full := ?_ }
    · simp only [hmem, List.length_append, List.length_singleton]
      exact hcount
    · simp only [hmem]
      exact (hmem ▸ hset.distinct).append (List.nodup_singleton ds)
        fun d hd hds' => hds (List.mem_singleton.mp hds' ▸ hd)
    · simp only [hmem]
      exact hput.owner
    · simp only [hmem]
      intro d hd i hi
      rcases List.mem_append.mp hd with hd | hd
      · exact hput.full d (by rwa [hpm, hmem]) i hi
      · rw [ports_dsaTreePut, hk.ports]
        obtain rfl := List.mem_singleton.mp hd
        exact hfull i hi

end Life

/-- A registration that gets to the parsing: `v` is the tree with one more reference, `w` the tree with the
ports of the switch. -/
structure Parsing (cfg : Config) (r : Reg) (t v w : Tree) : Prop where
  touched : v = { t with refcount := t.refcount + 1, io := v.io }
  book : v.io.book = t.io.book
  fresh : ∀ p ∈ v.ports, p.ds ≠ r.ds
  parsed : Parsed r.ds r.ports v w
  life : Life cfg (t.members ++ [r.ds]) 1 w
  members : w.members = t.members

namespace Parsing

variable {r : Reg} {v w : Tree}

theorem ne (h : Parsing cfg r t v w) (hp : p ∈ t.ports) : p.ds ≠ r.ds := by
  refine h.fresh p ?_
  rw [h.touched]
  exact hp

/-- The ports that were there before are not touched. -/
theorem port (h : Parsing cfg r t v w) (hp : p.ds ≠ r.ds) : w.port p = t.port p := by
  rw [h.parsed.others p hp, h.touched]

/-- Without the ports of the switch there are the ports that were there before. -/
theorem released (h : Parsing cfg r t v w) : (dsaSwitchReleasePorts r.ds w).ports = t.ports := by
  have hvports : v.ports = t.ports := by rw [h.touched]
  obtain ⟨new, hnew, hnewds⟩ := h.parsed.ports
  rw [dsaSwitchReleasePorts, hnew, hvports, List.filter_append]
  have hfirst : t.ports.filter (fun p => p.ds ≠ r.ds) = t.ports :=
    List.filter_eq_self.mpr fun p hp => decide_eq_true (h.ne hp)
  have hsecond : new.filter (fun p => p.ds ≠ r.ds) = [] :=
    List.filter_eq_nil_iff.mpr fun p hp => by simpa using hnewds p hp
  rw [hfirst, hsecond, List.append_nil]

end Parsing

/-- **How a registration can go.** -/
theorem Life.register_cases {r : Reg} (h : Life cfg t.members 0 t) (hen : Enabled cfg t (.register r))
    (hex : dsaRegisterSwitch cfg r t = .ok t') :
    t' = t ∨ ∃ v w, Parsing cfg r t v w ∧ w = (dsaSwitchParse cfg r v).2 ∧
      (t' = dsaTreePut (dsaSwitchReleasePorts r.ds w) ∨
        (∀ i < cfg.numPorts r.ds, ⟨r.ds, i⟩ ∈ w.ports) ∧ t' = probeTree cfg r.ds w) := by
  obtain ⟨hds, hone, hnew, -⟩ := hen
  rw [dsaRegisterSwitch] at hex
  split at hex
  · cases hex
    exact .inl rfl
  split at hex
  · cases hex
  split at hex
  · cases hex
  rename_i v htouch
  -- the answers are those of this registration
  have hans : Life cfg t.members 0 { t with io := { t.io with answers := r.answers } } := { h with }
  obtain ⟨hv, hveq, hbook⟩ := hans.touch htouch
  have hvds : ∀ p ∈ v.ports, p.ds ≠ r.ds := by
    rw [hveq]
    intro p hp heq
    exact hds (heq ▸ h.owner p hp)
  obtain ⟨hparsed, hfull, hindex⟩ := parsed_dsaSwitchParse hv.nodup hvds hv.counted
  have hmem : (dsaSwitchParse cfg r v).2.members = t.members := by rw [hparsed.rest, hveq]
  have hlife := hv.parsed hparsed hindex hone (by rw [hveq]; exact hnew)
  refine .inr ⟨v, _, ⟨hveq, hbook, hvds, hparsed, hlife, hmem⟩, rfl, ?_⟩
  cases hex
  split
  · exact .inl rfl
  · rename_i h0
    exact .inr ⟨hfull (not_not.mp h0), rfl⟩

theorem Life.register {r : Reg} (h : Life cfg t.members 0 t) (hen : Enabled cfg t (.register r))
    (hex : dsaRegisterSwitch cfg r t = .ok t') : Life cfg t'.members 0 t' := by
  rcases h.register_cases hen hex with rfl | ⟨v, w, hp, -, rfl | ⟨hfull, rfl⟩⟩
  · exact h
  · have hrel := hp.life.release (by rw [hp.members]; exact hen.1)
    rw [members_dsaTreePut, show (dsaSwitchReleasePorts r.ds w).members = t.members from hp.members]
    exact hrel.putMembers hp.members
  · have hlife := hp.life
    rw [← hp.members] at hlife
    exact hlife.probe (by rw [hp.members]; exact hen.1) hfull

theorem Life.unregister (h : Life cfg t.members 0 t) (hds : ds ∈ t.members) :
    Life cfg (dsaUnregisterSwitch cfg ds t).members 0 (dsaUnregisterSwitch cfg ds t) := by
  have hk := keeps_dsaTreeTeardown cfg t
  have hdown := h.keeps hk
  have hmem : (dsaTreeTeardown cfg t).members = t.members := congrArg (fun c => c.2.1) hk.core
  have hperm : t.members.Perm (ds :: t.members.erase ds) := List.perm_cons_erase hds
  have hlen : t.members.length = (t.members.erase ds).length + 1 := by
    rw [hperm.length_eq, List.length_cons]
  -- the members without the switch, which still has its ports
  have hwithout : Life cfg (t.members.erase ds ++ [ds]) 1 { dsaTreeTeardown cfg t with members := t.members.erase ds } := by
    refine { hdown with count := ?_, distinct := h.distinct.erase ds, owner := ?_, full := ?_ }
    · have := hdown.count
      rw [hmem, hlen] at this
      exact this
    · intro p hp
      have hmemp := hperm.subset (hdown.owner p hp)
      rcases List.mem_cons.mp hmemp with heq | hin
      · exact List.mem_append_right _ (List.mem_singleton.mpr heq)
      · exact List.mem_append_left _ hin
    · exact fun d hd => hdown.full d (hmem ▸ List.mem_of_mem_erase hd)
  have hrel := hwithout.release h.distinct.not_mem_erase
  have hput := hrel.putMembers rfl
  have heq : dsaUnregisterSwitch cfg ds t =
      dsaTreePut (dsaSwitchReleasePorts ds { dsaTreeTeardown cfg t with members := t.members.erase ds }) := by
    rw [dsaUnregisterSwitch, members_dsaTreePut, dsaTreePut_setMembers, dsaSwitchReleasePorts,
      dsaSwitchReleasePorts, hmem]
  rw [heq, members_dsaTreePut]
  exact hput

/-- Every run keeps the life of the tree. -/
theorem life_run {es : List Event} (hrun : (treeMachine cfg).Run Tree.init es t) :
    Life cfg t.members 0 t := by
  refine hrun.invariant (I := fun t => Life cfg t.members 0 t) (life_init cfg) ?_
  intro t e t' h hen hex
  cases e with
  | register r => exact h.register hen hex
  | unregister ds =>
      cases hex
      exact h.unregister hen

/-- In every run of registrations and unregistrations the reference count of the tree is the number of
registered switches; its ports are exactly theirs; the module of its tagger is referenced once and no other
one; and when no switch is registered any more, nothing of this is left. -/
theorem tree_lifetime {es : List Event} (hrun : (treeMachine cfg).Run Tree.init es t) :
    t.refcount = t.members.length ∧ t.members.Nodup ∧ t.ports.Nodup ∧
      (∀ p ∈ t.ports, p.ds ∈ t.members ∧ p.index < cfg.numPorts p.ds) ∧
      (∀ ds ∈ t.members, ∀ i < cfg.numPorts ds, ⟨ds, i⟩ ∈ t.ports) ∧
      (∀ g, t.tagRefs g = if t.tagOps = some g then 1 else 0) ∧
      (t.members = [] → t.ports = [] ∧ t.tagOps = none) := by
  have h := life_run hrun
  refine ⟨h.count, h.distinct, h.nodup, fun p hp => ⟨h.owner p hp, h.index p hp⟩, h.full, h.counted,
    fun hnone => ⟨?_, ?_⟩⟩
  · refine List.eq_nil_iff_forall_not_mem.mpr fun p hp => ?_
    have hmem := h.owner p hp
    rw [hnone] at hmem
    cases hmem
  · refine h.alive ?_
    rw [h.count, hnone]
    rfl

/-- Two DSA ports with the device nodes 1 and 11, linked to each other. The first switch has LAGs. -/
def linkedPair : Config where
  index := id
  numPorts := fun _ => 2
  numLagIds := fun ds => if ds = 0 then 4 else 0
  teardown := fun _ => true
  phyRead := fun _ => true
  changeTagProtocol := fun _ => false
  connectTagProtocol := fun _ => false
  preferred := fun _ => none
  connects := fun _ => true
  proto := id
  links := fun dn => if dn = 11 then [1] else if dn = 1 then [11] else []
  promisc := fun _ => true

/-- A switch with a CPU port and one other port. -/
def hostSwitch (other : PortDesc) (answers : List ℤ) : Reg where
  ds := 1
  of := true
  member := true
  ports := [⟨0, none, .cpu (some 7) 3 none (.ok 3)⟩, other]
  addr := id
  answers := answers

/-- A switch behind it. -/
def leafSwitch (ds : ℕ) : Reg where
  ds := ds
  of := true
  member := true
  ports := [⟨0, none, .user⟩, ⟨1, some 1, .dsa⟩]
  addr := fun i => 10 + i
  answers := []

/-- The first registration waits for the second one. -/
def pairEvents : List Event := [.register (hostSwitch ⟨1, some 11, .dsa⟩ []), .register (leafSwitch 0)]

theorem tree_lifetime_of_pair :
    ∃ t, (treeMachine linkedPair).Run Tree.init pairEvents t ∧ t.members = [1, 0] ∧
      t.refcount = t.members.length := by
  have hsome : ((treeMachine linkedPair).replay Tree.init pairEvents).isSome = true := by decide
  have hrun := Machine.Run.of_isSome hsome Tree.init
  exact ⟨_, hrun, by decide, (tree_lifetime hrun).1⟩

end Axm57104.Dsa.TreeSetup
