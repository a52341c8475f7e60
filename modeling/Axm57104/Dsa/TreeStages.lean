import Axm57104.Dsa.TreeBook

/-!
# The ledger of a tree: switches, conduits and the whole set up

Each stage of `dsa_tree_setup` either goes through or fails and takes back what it has taken, and then the
stages before it are torn down. `stages_cases` lists how the set up can end.
-/

namespace Axm57104.Dsa.TreeSetup

open Common
open Fabric (PortId)

variable {cfg : Config} {t t' u : Tree} {p q : PortId} {ds : ℕ} {io : Calls Res} {L N X : Set Res}

/-! ## Switches -/

theorem setupTagProtocol_stack (cfg : Config) (tagOps defaultProto : ℕ) {l : List Res} (h : io.Stack N l)
    (hN : .tagger ds ∉ N) (hl : .tagger ds ∉ l) :
    let g := dsaSwitchSetupTagProtocol cfg tagOps defaultProto ds io
    g.1 ≠ 0 ∧ g.2.Stack N l ∨ g.1 = 0 ∧ g.2.Stack N (l ++ tagRes cfg tagOps ds) := by
  simp only [dsaSwitchSetupTagProtocol]
  split
  · rename_i herr
    exact .inl ⟨herr, h.askIf⟩
  · rcases h.askIf.tryTakeIf hN hl with ⟨herr, hst⟩ | ⟨h0, hst⟩
    · rw [if_pos herr]
      exact .inl ⟨herr, hst⟩
    · rw [if_neg (not_not.mpr h0)]
      split
      · rename_i herr
        exact .inl ⟨herr, hst.askIf.giveIf⟩
      · exact .inr ⟨rfl, hst.askIf⟩

theorem setupMiiBus_stack (cfg : Config) {l : List Res} {sw : Switch} (h : io.Stack N l) (hsw : sw.userMiiBus = false)
    (hN : ∀ r ∈ N, r.owner ≠ .switch ds) (hl : ∀ r ∈ [Res.miiBus ds, .miiReg ds], r ∉ l) :
    let b := setupMiiBus cfg ds sw io
    b.1 ≠ 0 ∧ b.2.2.Stack N l ∨
      b.1 = 0 ∧ b.2.1 = cfg.phyRead ds ∧ b.2.2.Stack N (l ++ miiRes ds (cfg.phyRead ds)) := by
  simp only [setupMiiBus, hsw, true_and, miiRes]
  cases hphy : cfg.phyRead ds with
  | false => exact .inr ⟨rfl, rfl, by simpa using h⟩
  | true =>
      simp only [if_true]
      split
      · exact .inl ⟨by simp, h.ask⟩
      · have hbus := h.ask.take (k := .miiBus ds) (notMem_of_owner hN rfl) (hl _ (by simp))
        split
        · rename_i hneg
          exact .inl ⟨hneg.ne, hbus.ask.give⟩
        · refine .inr ⟨rfl, rfl, ?_⟩
          have hreg := hbus.ask.take (k := .miiReg ds) (notMem_of_owner hN rfl) ?_
          · rwa [List.append_assoc] at hreg
          · simpa using hl (.miiReg ds) (by simp)

theorem switchUndo_owns (h : io.Stack N (driverRes cfg ds)) : (switchUndo cfg ds io).Owns N :=
  (Calls.Stack.give (l := []) (Calls.Stack.give (l := [_]) h.giveIf)).empty

/-- The connection to the tagger stays. -/
theorem leaveTagger {l : List Res} {tagOps : ℕ} (h : io.Stack N (l ++ tagRes cfg tagOps ds)) :
    io.Stack (N ∪ {r | r ∈ tagRes cfg tagOps ds}) l := by
  rw [tagRes] at h ⊢
  split
  · rw [if_pos (by assumption)] at h
    have hl := h.leave
    rwa [← Set.union_singleton, show ({.tagger ds} : Set Res) = {r | r ∈ [Res.tagger ds]} by simp] at hl
  · rw [if_neg (by assumption), List.append_nil] at h
    simpa using h

/-- **Set up of a switch.** It fails and changes nothing; or its MDIO bus fails, and it stays connected to
the tagger; or the switch holds all it needs. -/
theorem dsaSwitchSetup_owns (cfg : Config) (h : t.io.Owns N) (hN : ∀ r ∈ N, r.owner ≠ .switch ds)
    (hset : (t.sw ds).setup = false) (hbus : (t.sw ds).userMiiBus = false) :
    (∃ e io', e ≠ 0 ∧ dsaSwitchSetup cfg ds t = (e, { t with io := io' }) ∧ io'.Owns N) ∨
    (∃ e bus io', e ≠ 0 ∧
      dsaSwitchSetup cfg ds t = (e, { t with
        sw := Function.update t.sw ds ⟨bus, false⟩, io := io', marks := t.marks ++ [.mii ds] }) ∧
      io'.Owns (N ∪ {r | r ∈ tagRes cfg (t.tagOps.getD 0) ds})) ∨
    ∃ io', dsaSwitchSetup cfg ds t =
        (0, { t with sw := Function.update t.sw ds ⟨cfg.phyRead ds, true⟩, io := io' }) ∧
      io'.Owns (N ∪ {r | r ∈ switchRes cfg (t.tagOps.getD 0) ds ⟨cfg.phyRead ds, true⟩}) := by
  have hfree : ∀ {r : Res}, r.owner = .switch ds → r ∉ N := notMem_of_owner hN
  simp only [dsaSwitchSetup]
  rw [if_neg (by rw [hset]; exact Bool.noConfusion)]
  rcases (Calls.Stack.nil h).tryTake (k := .devlink ds) (hfree rfl) List.not_mem_nil with ⟨herr, hst⟩ | ⟨h0, hst⟩
  · rw [if_pos herr]
    exact .inl ⟨_, _, herr, rfl, hst.empty⟩
  rw [if_neg (not_not.mpr h0)]
  rcases hst.tryTake (k := .notifier ds) (hfree rfl) (by simp) with ⟨herr, hst⟩ | ⟨h0, hst⟩
  · rw [if_pos herr]
    exact .inl ⟨_, _, herr, rfl, hst.give.empty⟩
  rw [if_neg (not_not.mpr h0)]
  split
  · rename_i hneg
    exact .inl ⟨_, _, hneg.ne, rfl, hst.ask.give.give.empty⟩
  -- from here on an error goes to the label `teardown`
  have hdrv := hst.ask.takeIf (b := cfg.teardown ds) (k := .driver ds) (hfree rfl) (by simp)
  rcases setupTagProtocol_stack cfg (t.tagOps.getD 0) t.defaultProto (l := driverRes cfg ds) hdrv (hfree rfl)
    (by simp) with ⟨herr, hst⟩ | ⟨h0, hst⟩
  · rw [if_pos herr]
    exact .inl ⟨_, _, herr, rfl, switchUndo_owns hst⟩
  rw [if_neg (not_not.mpr h0)]
  rcases setupMiiBus_stack cfg hst hbus hN (by simp) with
    ⟨herr, hst⟩ | ⟨h0, hbus', hst⟩
  · rw [if_pos herr]
    -- `switchUndo` starts below the tagger, which was taken last
    exact .inr (.inl ⟨_, _, _, herr, rfl, switchUndo_owns (leaveTagger hst)⟩)
  · rw [if_neg (not_not.mpr h0), hbus']
    refine .inr (.inr ⟨_, rfl, ?_⟩)
    rw [switchRes, if_pos rfl, Bool.and_self]
    exact (hst.take (hfree rfl) (by simp)).owns

theorem switchRes_nodup (cfg : Config) (tagOps ds : ℕ) (sw : Switch) :
    (switchRes cfg tagOps ds sw).Nodup := by
  rw [switchRes, driverRes, tagRes, miiRes]
  cases sw.setup <;> cases cfg.teardown ds <;> cases cfg.connects tagOps <;>
    cases sw.userMiiBus && cfg.phyRead ds <;> simp

/-- **Tear down of a switch.** -/
theorem dsaSwitchTeardown_owns (h : t.io.Owns N)
    (hsub : ∀ r ∈ switchRes cfg (t.tagOps.getD 0) ds (t.sw ds), r ∈ N) (hset : (t.sw ds).setup = true) :
    ∃ io', dsaSwitchTeardown cfg ds t = { t with
        sw := Function.update t.sw ds ⟨(t.sw ds).userMiiBus && !((t.sw ds).userMiiBus && cfg.phyRead ds), false⟩
        io := io' } ∧
      io'.Owns (N \ {r | r ∈ switchRes cfg (t.tagOps.getD 0) ds (t.sw ds)}) := by
  have hst := Calls.Stack.of_subset h hsub (switchRes_nodup cfg (t.tagOps.getD 0) ds (t.sw ds))
  rw [switchRes, if_pos hset] at hst ⊢
  simp only [dsaSwitchTeardown]
  rw [if_pos hset]
  refine ⟨_, rfl, switchUndo_owns ?_⟩
  have hreg := hst.give
  rw [miiRes, ← List.append_assoc] at hreg ⊢
  exact hreg.giveIf.giveIf.giveIf

/-- What the set up and tear down of switches does not change. -/
def Tree.offSwitches (t : Tree) :
    (PortId → Port) × (List Link × ℕ × List ℕ) × Bool × Bool × (ℕ → Option PortId) :=
  (t.port, t.links, t.setup, t.lags, t.dsaPtr)

/-- Nothing in `X` is of a switch that is set up. -/
def Spare (X : Set Res) (t : Tree) : Prop := ∀ r ∈ X, ∀ ds, r.owner = .switch ds → (t.sw ds).setup = false

/-- Only a switch that is set up and has `phy_read` has an MDIO bus. -/
def BusOk (cfg : Config) (t : Tree) : Prop :=
  ∀ ds, (t.sw ds).userMiiBus = true → (t.sw ds).setup = true ∧ cfg.phyRead ds = true

theorem Bal.dsaSwitchTeardown (h : Bal cfg X t) (hX : Spare X t) (ds : ℕ) :
    Bal cfg X (dsaSwitchTeardown cfg ds t) := by
  cases hset : (t.sw ds).setup with
  | false =>
      rw [TreeSetup.dsaSwitchTeardown, if_neg (by rw [hset]; exact Bool.noConfusion)]
      exact h
  | true =>
      obtain ⟨io', heq, hown⟩ := dsaSwitchTeardown_owns h.owns (fun r hr => .inl (.inr ⟨ds, hr⟩)) hset
      rw [heq]
      refine ⟨hown.congr ?_, h.user⟩
      rw [base_setSwitch]
      ext r
      simp only [Set.mem_sdiff, Set.mem_union, Set.mem_ofPred_eq]
      constructor
      · rintro ⟨hr | hr, hnot⟩
        · exact .inl (.inl ⟨hr, fun howner => hnot (mem_switchRes_of_owner hr howner)⟩)
        · exact .inr hr
      · rintro ((⟨hr, howner⟩ | hr) | hr)
        · exact ⟨.inl hr, fun hmem => howner (owner_of_mem_switchRes hmem)⟩
        · rw [switchRes] at hr
          cases hr
        · refine ⟨.inr hr, fun hmem => ?_⟩
          have hdown := hX r hr ds (owner_of_mem_switchRes hmem)
          rw [hset] at hdown
          cases hdown

/-- `t'` comes from `t` by tearing down switches. -/
structure SwitchDown (cfg : Config) (t t' : Tree) : Prop where
  keeps : Keeps t t'
  rest : t'.offSwitches = t.offSwitches
  marks : t'.marks = t.marks
  le : ∀ ds, (t.sw ds).setup = false → (t'.sw ds).setup = false
  bal : ∀ {X}, Spare X t → Bal cfg X t → Bal cfg X t'
  bus : BusOk cfg t → BusOk cfg t'

namespace SwitchDown

theorem refl (t : Tree) : SwitchDown cfg t t :=
  ⟨.refl t, rfl, rfl, fun _ h => h, fun _ h => h, fun h => h⟩

theorem spare (h : SwitchDown cfg t t') (hX : Spare X t) : Spare X t' :=
  fun r hr ds howner => h.le ds (hX r hr ds howner)

theorem trans (h : SwitchDown cfg t t') (h' : SwitchDown cfg t' u) : SwitchDown cfg t u :=
  ⟨h.keeps.trans h'.keeps, h'.rest.trans h.rest, h'.marks.trans h.marks, fun ds hd => h'.le ds (h.le ds hd),
    fun hX hb => h'.bal (h.spare hX) (h.bal hX hb), fun hb => h'.bus (h.bus hb)⟩

end SwitchDown

/-- The switch after its tear down. -/
theorem dsaSwitchTeardown_self (ds : ℕ) (t : Tree) :
    ((dsaSwitchTeardown cfg ds t).sw ds).setup = false ∧
      (BusOk cfg t → ((dsaSwitchTeardown cfg ds t).sw ds).userMiiBus = false) := by
  simp only [dsaSwitchTeardown]
  split
  · simp only [Function.update_self, Bool.and_eq_false_imp, Bool.not_eq_false', Bool.and_eq_true]
    exact ⟨trivial, fun hb hbus => ⟨hbus, (hb ds hbus).2⟩⟩
  · rename_i h
    refine ⟨Bool.eq_false_iff.mpr h, fun hb => Bool.eq_false_iff.mpr fun hbus => h (hb ds hbus).1⟩

theorem dsaSwitchTeardown_of_ne {d : ℕ} (h : d ≠ ds) : (dsaSwitchTeardown cfg ds t).sw d = t.sw d := by
  simp only [dsaSwitchTeardown]
  split
  · exact Function.update_of_ne h _ _
  · rfl

theorem switchDown_dsaSwitchTeardown (cfg : Config) (ds : ℕ) (t : Tree) :
    SwitchDown cfg t (dsaSwitchTeardown cfg ds t) := by
  refine ⟨keeps_dsaSwitchTeardown ds t, ?_, ?_, fun d hd => ?_, fun hX hb => hb.dsaSwitchTeardown hX ds,
    fun hb d hd => ?_⟩
  · simp only [dsaSwitchTeardown]
    split <;> rfl
  · simp only [dsaSwitchTeardown]
    split <;> rfl
  · by_cases hdds : d = ds
    · subst hdds
      exact (dsaSwitchTeardown_self d t).1
    · rwa [dsaSwitchTeardown_of_ne hdds]
  · by_cases hdds : d = ds
    · subst hdds
      rw [(dsaSwitchTeardown_self d t).2 hb] at hd
      cases hd
    · rw [dsaSwitchTeardown_of_ne hdds] at hd ⊢
      exact hb d hd

theorem switchDown_dsaTreeTeardownSwitches (t : Tree) :
    SwitchDown cfg t (dsaTreeTeardownSwitches cfg t) :=
  List.foldlRecOn t.ports _ (.refl t) fun u hu p _ => hu.trans (switchDown_dsaSwitchTeardown cfg p.ds u)

/-- After `dsa_tree_teardown_switches` no switch is set up, if none was that has no port on the list. -/
theorem dsaTreeTeardownSwitches_down (hoff : ∀ ds, (∀ p ∈ t.ports, p.ds ≠ ds) → (t.sw ds).setup = false)
    (ds : ℕ) : ((dsaTreeTeardownSwitches cfg t).sw ds).setup = false := by
  by_cases hds : ∃ p ∈ t.ports, p.ds = ds
  · obtain ⟨p, hp, rfl⟩ := hds
    refine foldl_achieves (Q := fun (p : PortId) (u : Tree) => (u.sw p.ds).setup = false) ?_ ?_ p hp
    · exact fun p q u h => (switchDown_dsaSwitchTeardown cfg q.ds u).le p.ds h
    · exact fun p u => (dsaSwitchTeardown_self p.ds u).1
  · refine (switchDown_dsaTreeTeardownSwitches t).le ds (hoff ds fun p hp h => hds ⟨p, hp, h⟩)

/-- `L` are links of the routing table, which no set up or tear down of a switch, port or conduit takes. -/
def OfLinks (L : Set Res) : Prop := ∀ r ∈ L, ∃ dl, r = .dsaLink dl

theorem OfLinks.owner {r : Res} (hL : OfLinks L) (hr : r ∈ L) : r.owner = .tree := by
  obtain ⟨dl, rfl⟩ := hL r hr
  rfl

theorem OfLinks.noPort (hL : OfLinks L) : NoPort L := by
  intro r hr p
  rw [hL.owner hr]
  exact Owner.noConfusion

theorem OfLinks.spare (hL : OfLinks L) (t : Tree) : Spare L t := by
  intro r hr ds howner
  exact Owner.noConfusion ((hL.owner hr).symm.trans howner)

/-- The switches so far are set up, or were before; nothing but `L` is left behind. -/
structure SwitchUp (cfg : Config) (L : Set Res) (ps : List PortId) (t t' : Tree) : Prop where
  keeps : Keeps t t'
  rest : t'.offSwitches = t.offSwitches
  marks : t'.marks = t.marks
  off : ∀ ds, (∀ p ∈ ps, p.ds ≠ ds) → t'.sw ds = t.sw ds
  bal : Bal cfg L t'
  bus : BusOk cfg t'

/-- The MDIO bus of the switch `ds` failed; nothing but `L` and its connection to the tagger is left behind. -/
structure SwitchStuck (cfg : Config) (L : Set Res) (ps : List PortId) (ds : ℕ) (t t' : Tree) : Prop where
  keeps : Keeps t t'
  rest : t'.offSwitches = t.offSwitches
  marks : t'.marks = t.marks ++ [.mii ds]
  off : ∀ d, (∀ p ∈ ps, p.ds ≠ d) → t'.sw d = t.sw d
  mem : ∃ p ∈ ps, p.ds = ds
  down : (t'.sw ds).setup = false
  bal : Bal cfg (L ∪ {r | r ∈ tagRes cfg (t.tagOps.getD 0) ds}) t'

theorem base_switchUp (hset : (t.sw ds).setup = false) (sw : Switch) (io : Calls Res) (marks : List Mark) :
    base cfg { t with sw := Function.update t.sw ds sw, io := io, marks := marks } =
      base cfg t ∪ {r | r ∈ switchRes cfg (t.tagOps.getD 0) ds sw} := by
  rw [base_setSwitch]
  congr 1
  ext r
  exact ⟨fun hr => hr.1, fun hr => ⟨hr, owner_ne_switch_of_mem_base hr hset⟩⟩

theorem SwitchUp.dsaSwitchSetup {ps : List PortId} (h : SwitchUp cfg L ps t u) (hL : OfLinks L) (hp : p ∈ ps) :
    SwitchUp cfg L ps t (dsaSwitchSetup cfg p.ds u).2 ∨
      (dsaSwitchSetup cfg p.ds u).1 ≠ 0 ∧ SwitchStuck cfg L ps p.ds t (dsaSwitchSetup cfg p.ds u).2 := by
  have hkeeps := h.keeps.trans (keeps_dsaSwitchSetup cfg p.ds u)
  cases hset : (u.sw p.ds).setup with
  | true =>
      rw [TreeSetup.dsaSwitchSetup, if_pos hset]
      exact .inl h
  | false =>
      have hbus : (u.sw p.ds).userMiiBus = false := by
        refine Bool.eq_false_iff.mpr fun hb => ?_
        rw [(h.bus p.ds hb).1] at hset
        cases hset
      have hN : ∀ r ∈ base cfg u ∪ L, r.owner ≠ .switch p.ds := by
        rintro r (hr | hr)
        · exact owner_ne_switch_of_mem_base hr hset
        · rw [hL.owner hr]
          exact Owner.noConfusion
      have hoff : ∀ {sw : Switch} d, (∀ q ∈ ps, q.ds ≠ d) → Function.update u.sw p.ds sw d = t.sw d := by
        intro sw d hd
        rw [Function.update_of_ne (hd p hp).symm]
        exact h.off d hd
      rcases dsaSwitchSetup_owns cfg h.bal.owns hN hset hbus with
        ⟨e, io', -, heq, hio⟩ | ⟨e, bus, io', herr, heq, hio⟩ | ⟨io', heq, hio⟩
      · rw [heq] at hkeeps ⊢
        exact .inl ⟨hkeeps, h.rest, h.marks, h.off, ⟨hio, h.bal.user⟩, h.bus⟩
      · rw [heq] at hkeeps ⊢
        refine .inr ⟨herr, hkeeps, h.rest, congrArg (· ++ [Mark.mii p.ds]) h.marks, fun d hd => hoff d hd,
          ⟨p, hp, rfl⟩, ?_, ?_, h.bal.user⟩
        · simp only [Function.update_self]
        · refine hio.congr ?_
          rw [base_switchUp hset, h.keeps.tagOps, switchRes, Set.union_assoc]
          simp
      · rw [heq] at hkeeps ⊢
        refine .inl ⟨hkeeps, h.rest, h.marks, fun d hd => hoff d hd, ⟨?_, h.bal.user⟩, fun d hd => ?_⟩
        · refine hio.congr ?_
          rw [Set.union_right_comm, ← base_switchUp hset _ io' u.marks]
        · by_cases hdp : d = p.ds
          · subst hdp
            simp only [Function.update_self] at hd ⊢
            exact ⟨trivial, hd⟩
          · simp only [Function.update_of_ne hdp] at hd ⊢
            exact h.bus d hd

/-- **The switches.** They are all set up; or one failed and all are torn down; or the MDIO bus of one failed,
and it stays connected to the tagger. -/
theorem dsaTreeSetupSwitches_cases (h : Bal cfg L t) (hL : OfLinks L) (hbus : BusOk cfg t) :
    (dsaTreeSetupSwitches cfg t).1 = 0 ∧ SwitchUp cfg L t.ports t (dsaTreeSetupSwitches cfg t).2 ∨
    (dsaTreeSetupSwitches cfg t).1 ≠ 0 ∧
      ∃ u, (SwitchUp cfg L t.ports t u ∨ ∃ ds, SwitchStuck cfg L t.ports ds t u) ∧
        (dsaTreeSetupSwitches cfg t).2 = dsaTreeTeardownSwitches cfg u := by
  -- a switch with several ports on the list is set up in the round of the first one
  have hstart : SwitchUp cfg L t.ports t t := ⟨.refl t, rfl, rfl, fun _ _ => rfl, h, hbus⟩
  have hok : ∀ p ∈ t.ports, ∀ u, SwitchUp cfg L t.ports t u → (dsaSwitchSetup cfg p.ds u).1 = 0 →
      SwitchUp cfg L t.ports t (dsaSwitchSetup cfg p.ds u).2 :=
    fun p hp u hu h0 => (hu.dsaSwitchSetup hL hp).resolve_right fun hs => hs.1 h0
  have herr : ∀ p ∈ t.ports, ∀ u, SwitchUp cfg L t.ports t u → (dsaSwitchSetup cfg p.ds u).1 ≠ 0 →
      SwitchUp cfg L t.ports t (dsaSwitchSetup cfg p.ds u).2 ∨
        ∃ ds, SwitchStuck cfg L t.ports ds t (dsaSwitchSetup cfg p.ds u).2 :=
    fun p hp u hu _ => (hu.dsaSwitchSetup hL hp).imp id fun hs => ⟨p.ds, hs.2⟩
  simp only [dsaTreeSetupSwitches]
  rcases notifyChain_rule (Q := fun u => SwitchUp cfg L t.ports t u ∨ ∃ ds, SwitchStuck cfg L t.ports ds t u)
    hok herr hstart with ⟨h0, hup⟩ | ⟨herr, hfail⟩
  · rw [if_neg (not_not.mpr h0)]
    exact .inl ⟨h0, hup⟩
  · rw [if_pos herr]
    exact .inr ⟨herr, _, hfail, rfl⟩

/-! ## Conduits -/

/-- What a conduit that is set up holds. -/
def devRes (cfg : Config) (dev : ℕ) : List Res :=
  (if cfg.promisc dev then [.promisc dev] else []) ++ [.ethtool dev] ++ [.sysfs dev]

@[simp] theorem mem_devRes {dev : ℕ} {r : Res} :
    r ∈ devRes cfg dev ↔ cfg.promisc dev = true ∧ r = .promisc dev ∨ r = .ethtool dev ∨ r = .sysfs dev := by
  simp [devRes]

theorem owner_of_mem_devRes {dev : ℕ} {r : Res} (h : r ∈ devRes cfg dev) : r.owner = .dev dev := by
  obtain ⟨-, rfl⟩ | rfl | rfl := mem_devRes.mp h <;> rfl

/-- What the conduits of the CPU ports in `ps` hold. -/
def conduitRes (cfg : Config) (t : Tree) (ps : List PortId) : Set Res :=
  {r | ∃ p ∈ ps, (t.port p).type = .cpu ∧ r ∈ devRes cfg (t.port p).conduit}

/-- No two CPU ports in `ps` have the same conduit. -/
def Wired (t : Tree) (ps : List PortId) : Prop :=
  ∀ p ∈ ps, ∀ q ∈ ps, (t.port p).type = .cpu → (t.port q).type = .cpu →
    (t.port p).conduit = (t.port q).conduit → p = q

/-- What the set up and tear down of conduits does not change. -/
def Tree.offConduits (t : Tree) :
    (PortId → Port) × (ℕ → Switch) × (List Link × ℕ × List ℕ) × Bool × Bool × List Mark :=
  (t.port, t.sw, t.links, t.setup, t.lags, t.marks)

/-- **Set up of a conduit.** It fails and gives back what it took, or holds all it needs. The conduit points
to its CPU port in both cases. -/
theorem dsaConduitSetup_owns (cfg : Config) {dev : ℕ} (h : t.io.Owns N) (hN : ∀ r ∈ N, r.owner ≠ .dev dev) :
    ∃ e io', dsaConduitSetup cfg dev p t =
        (e, { t with dsaPtr := Function.update t.dsaPtr dev (some p), io := io' }) ∧
      (e ≠ 0 ∧ io'.Owns N ∨ e = 0 ∧ io'.Owns (N ∪ {r | r ∈ devRes cfg dev})) := by
  have hfree : ∀ {r : Res}, r.owner = .dev dev → r ∉ N := notMem_of_owner hN
  simp only [dsaConduitSetup]
  have hpromisc := (Calls.Stack.nil h).takeIf (b := cfg.promisc dev) (k := .promisc dev) (hfree rfl) (by simp)
  rcases hpromisc.tryTake (k := .ethtool dev) (hfree rfl) (by simp) with ⟨herr, hst⟩ | ⟨h0, hst⟩
  · rw [if_pos herr]
    exact ⟨_, _, rfl, .inl ⟨herr, hst.giveIf.empty⟩⟩
  rw [if_neg (not_not.mpr h0)]
  rcases hst.tryTake (k := .sysfs dev) (hfree rfl) (by simp) with ⟨herr, hst⟩ | ⟨h0, hst⟩
  · rw [if_pos herr]
    exact ⟨_, _, rfl, .inl ⟨herr, hst.give.giveIf.empty⟩⟩
  · rw [if_neg (not_not.mpr h0)]
    exact ⟨_, _, rfl, .inr ⟨rfl, hst.owns⟩⟩

/-- **Tear down of a conduit.** -/
theorem dsaConduitTeardown_owns {dev : ℕ} (h : t.io.Owns N) (hsub : ∀ r ∈ devRes cfg dev, r ∈ N) :
    (dsaConduitTeardown cfg dev t).io.Owns (N \ {r | r ∈ devRes cfg dev}) := by
  have hnodup : (devRes cfg dev).Nodup := by
    rw [devRes]
    cases cfg.promisc dev <;> simp
  have hst := Calls.Stack.of_subset h hsub hnodup
  exact (Calls.Stack.giveIf (l := []) hst.give.give).empty

/-- The conduits of the CPU ports in `ps` are set up, beyond `N`. -/
structure ConduitUp (cfg : Config) (N : Set Res) (ps : List PortId) (t t' : Tree) : Prop where
  core : t'.core = t.core
  rest : t'.offConduits = t.offConduits
  owns : t'.io.Owns (N ∪ conduitRes cfg t ps)
  ptr : ∀ p ∈ ps, (t.port p).type = .cpu → t'.dsaPtr (t.port p).conduit = some p
  other : ∀ dev, (∀ p ∈ ps, (t.port p).type = .cpu → (t.port p).conduit ≠ dev) →
    t'.dsaPtr dev = t.dsaPtr dev

theorem conduitRes_cons_cpu {ps : List PortId} (hp : (t.port p).type = .cpu) :
    conduitRes cfg t (p :: ps) = {r | r ∈ devRes cfg (t.port p).conduit} ∪ conduitRes cfg t ps := by
  ext r
  simp only [conduitRes, List.mem_cons, exists_eq_or_imp, hp, true_and]
  rfl

theorem conduitRes_cons_of_ne {ps : List PortId} (hp : (t.port p).type ≠ .cpu) :
    conduitRes cfg t (p :: ps) = conduitRes cfg t ps := by
  ext r
  simp only [conduitRes, List.mem_cons, exists_eq_or_imp, hp, false_and, false_or]

/-- Nothing in `N` is of a conduit of a CPU port in `ps`. -/
def NoDev (N : Set Res) (t : Tree) (ps : List PortId) : Prop :=
  ∀ r ∈ N, ∀ p ∈ ps, (t.port p).type = .cpu → r.owner ≠ .dev (t.port p).conduit

theorem Wired.mono {ps qs : List PortId} (h : Wired t qs) (hsub : ps ⊆ qs) : Wired t ps :=
  fun a ha b hb => h a (hsub ha) b (hsub hb)

theorem NoDev.mono {ps qs : List PortId} (h : NoDev N t qs) (hsub : ps ⊆ qs) : NoDev N t ps :=
  fun r hr a ha => h r hr a (hsub ha)

/-- The conduits of the others are different ones. -/
theorem Wired.head {ps : List PortId} (h : Wired t (p :: ps)) (hp : p ∉ ps) (hcpu : (t.port p).type = .cpu)
    (hq : q ∈ ps) (hqcpu : (t.port q).type = .cpu) : (t.port p).conduit ≠ (t.port q).conduit := by
  intro heq
  obtain rfl := h p List.mem_cons_self q (List.mem_cons_of_mem p hq) hcpu hqcpu heq
  exact hp hq

theorem ConduitUp.cons_cpu {ps : List PortId} (hcpu : (t.port p).type = .cpu) (hp : p ∉ ps)
    (hw : Wired t (p :: ps))
    (h : ConduitUp cfg (N ∪ {r | r ∈ devRes cfg (t.port p).conduit}) ps
      { t with dsaPtr := Function.update t.dsaPtr (t.port p).conduit (some p), io := io } t') :
    ConduitUp cfg N (p :: ps) t t' := by
  refine ⟨h.core, h.rest, ?_, fun q hq hqcpu => ?_, fun dev hdev => ?_⟩
  · rw [conduitRes_cons_cpu hcpu, ← Set.union_assoc]
    exact h.owns
  · rcases List.mem_cons.mp hq with rfl | hq
    · rw [h.other _ fun r hr hrcpu => (hw.head hp hcpu hr hrcpu).symm]
      exact Function.update_self _ _ _
    · exact h.ptr q hq hqcpu
  · rw [h.other dev fun q hq => hdev q (List.mem_cons_of_mem p hq)]
    exact Function.update_of_ne (hdev p List.mem_cons_self hcpu).symm _ _

theorem ConduitUp.cons_of_ne {ps : List PortId} (hcpu : (t.port p).type ≠ .cpu) (h : ConduitUp cfg N ps t t') :
    ConduitUp cfg N (p :: ps) t t' := by
  refine ⟨h.core, h.rest, ?_, fun q hq hqcpu => ?_, fun dev hdev => ?_⟩
  · rw [conduitRes_cons_of_ne hcpu]
    exact h.owns
  · rcases List.mem_cons.mp hq with rfl | hq
    · exact absurd hqcpu hcpu
    · exact h.ptr q hq hqcpu
  · exact h.other dev fun q hq => hdev q (List.mem_cons_of_mem p hq)

theorem NoDev.cons_cpu {ps : List PortId} (h : NoDev N t (p :: ps)) (hcpu : (t.port p).type = .cpu)
    (hp : p ∉ ps) (hw : Wired t (p :: ps)) :
    NoDev (N ∪ {r | r ∈ devRes cfg (t.port p).conduit}) t ps := by
  rintro r (hr | hr) q hq hqcpu
  · exact h r hr q (List.mem_cons_of_mem p hq) hqcpu
  · rw [owner_of_mem_devRes hr]
    exact fun heq => hw.head hp hcpu hq hqcpu (Owner.dev.inj heq)

theorem setupConduits_ok {ps : List PortId} (hnodup : ps.Nodup) (hw : Wired t ps) (h : t.io.Owns N)
    (hN : NoDev N t ps) (h0 : (notifyChain (setupConduit cfg) ps t).1 = 0) :
    ConduitUp cfg N ps t (notifyChain (setupConduit cfg) ps t).2 := by
  induction ps generalizing t N with
  | nil =>
      refine ⟨rfl, rfl, h.congr ?_, (fun p hp => nomatch hp), fun _ _ => rfl⟩
      simp [conduitRes]
  | cons p ps ih =>
      obtain ⟨hp, hnodup⟩ := List.nodup_cons.mp hnodup
      by_cases hcpu : (t.port p).type = .cpu
      · obtain ⟨e, io', heq, hio⟩ := dsaConduitSetup_owns cfg (p := p) h
          fun r hr => hN r hr p List.mem_cons_self hcpu
        rw [← show setupConduit cfg p t = _ from if_pos hcpu] at heq
        by_cases hrc : (setupConduit cfg p t).1 = 0
        · rw [notifyChain_cons_of_ok hrc, heq] at h0 ⊢
          rw [heq] at hrc
          have hown := (hio.resolve_left fun herr => herr.1 hrc).2
          -- what this conduit holds is among `N` for the rest of the list
          exact .cons_cpu hcpu hp hw (ih hnodup (hw.mono (List.subset_cons_self p ps)) hown (hN.cons_cpu hcpu hp hw) h0)
        · rw [notifyChain_cons_of_error hrc] at h0
          exact absurd h0 hrc
      · have hround : setupConduit cfg p t = (0, t) := if_neg hcpu
        have hrc : (setupConduit cfg p t).1 = 0 := by rw [hround]
        rw [notifyChain_cons_of_ok hrc, hround] at h0 ⊢
        exact .cons_of_ne hcpu
          (ih hnodup (hw.mono (List.subset_cons_self p ps)) h (hN.mono (List.subset_cons_self p ps)) h0)

/-- **The conduits.** They are all set up; or the one of a port `k` failed, and those of the ports before `k`
are still set up. -/
theorem dsaTreeSetupConduit_cases (hnodup : t.ports.Nodup) (hw : Wired t t.ports) (h : t.io.Owns N)
    (hN : NoDev N t t.ports) :
    (dsaTreeSetupConduit cfg t).1 = 0 ∧ ConduitUp cfg N t.ports t (dsaTreeSetupConduit cfg t).2 ∨
    (dsaTreeSetupConduit cfg t).1 ≠ 0 ∧ ∃ pre k post, t.ports = pre ++ k :: post ∧ (t.port k).type = .cpu ∧
      (dsaTreeSetupConduit cfg t).2.core = t.core ∧
      (dsaTreeSetupConduit cfg t).2.offConduits = t.offConduits ∧
      (dsaTreeSetupConduit cfg t).2.dsaPtr (t.port k).conduit = some k ∧
      (dsaTreeSetupConduit cfg t).2.io.Owns (N ∪ conduitRes cfg t pre) := by
  rw [dsaTreeSetupConduit]
  by_cases h0 : (notifyChain (setupConduit cfg) t.ports t).1 = 0
  · exact .inl ⟨h0, setupConduits_ok hnodup hw h hN h0⟩
  · refine .inr ⟨h0, ?_⟩
    obtain ⟨pre, k, post, hps, hpre, hk, heq⟩ := notifyChain_failed h0
    have hsub : pre ⊆ t.ports := hps ▸ List.subset_append_left pre (k :: post)
    have hkps : k ∈ t.ports := hps ▸ List.mem_append_right pre List.mem_cons_self
    have hkpre : k ∉ pre := by
      rw [hps] at hnodup
      exact fun hmem => List.disjoint_of_nodup_append hnodup hmem List.mem_cons_self
    have hprenodup : pre.Nodup := by
      rw [hps] at hnodup
      exact hnodup.of_append_left
    have hup := setupConduits_ok hprenodup (hw.mono hsub) h (hN.mono hsub) hpre
    have hport : (notifyChain (setupConduit cfg) pre t).2.port = t.port :=
      congrArg (fun r => r.1) hup.rest
    have hcpu : (t.port k).type = .cpu := by
      by_contra hne
      rw [setupConduit, if_neg (by rwa [hport])] at hk
      exact hk rfl
    rw [setupConduit, if_pos (by rwa [hport]), hport] at hk heq
    -- no other port is wired to the conduit that failed
    have hfree : ∀ r ∈ N ∪ conduitRes cfg t pre, r.owner ≠ .dev (t.port k).conduit := by
      rintro r (hr | ⟨q, hq, hqcpu, hr⟩)
      · exact hN r hr k hkps hcpu
      · rw [owner_of_mem_devRes hr]
        intro hdev
        obtain rfl := hw q (hsub hq) k hkps hqcpu hcpu (Owner.dev.inj hdev)
        exact hkpre hq
    obtain ⟨e, io', hround, hio⟩ := dsaConduitSetup_owns cfg (p := k) hup.owns hfree
    rw [hround] at hk heq
    rw [heq]
    refine ⟨pre, k, post, hps, hcpu, hup.core, hup.rest, Function.update_self _ _ _, ?_⟩
    exact (hio.resolve_right fun hok => hk hok.1).2

/-- The conduits of the CPU ports in `ps` are torn down; `N` is still held. -/
structure ConduitDown (N : Set Res) (ps : List PortId) (t t' : Tree) : Prop where
  core : t'.core = t.core
  rest : t'.offConduits = t.offConduits
  owns : t'.io.Owns N
  ptr : ∀ p ∈ ps, (t.port p).type = .cpu → t'.dsaPtr (t.port p).conduit = none
  other : ∀ dev, t.dsaPtr dev = none → t'.dsaPtr dev = none

theorem teardownConduits {ps : List PortId} (hnodup : ps.Nodup) (hw : Wired t ps)
    (h : t.io.Owns (N ∪ conduitRes cfg t ps)) (hN : NoDev N t ps) :
    ConduitDown N ps t (ps.foldl
      (fun t p => if (t.port p).type = .cpu then dsaConduitTeardown cfg (t.port p).conduit t else t) t) := by
  induction ps generalizing t with
  | nil =>
      refine ⟨rfl, rfl, h.congr ?_, (fun p hp => nomatch hp), fun _ h => h⟩
      simp [conduitRes]
  | cons p ps ih =>
      obtain ⟨hp, hnodup⟩ := List.nodup_cons.mp hnodup
      have hw' := hw.mono (List.subset_cons_self p ps)
      have hN' := hN.mono (List.subset_cons_self p ps)
      rw [List.foldl_cons]
      by_cases hcpu : (t.port p).type = .cpu
      · rw [if_pos hcpu]
        rw [conduitRes_cons_cpu hcpu] at h
        have hdown := dsaConduitTeardown_owns h fun r hr => .inr (.inl hr)
        have hset : (N ∪ ({r | r ∈ devRes cfg (t.port p).conduit} ∪ conduitRes cfg t ps)) \
            {r | r ∈ devRes cfg (t.port p).conduit} = N ∪ conduitRes cfg t ps := by
          ext r
          simp only [Set.mem_sdiff, Set.mem_union, Set.mem_ofPred_eq]
          constructor
          · rintro ⟨hr | hr | hr, hnot⟩
            · exact .inl hr
            · exact absurd hr hnot
            · exact .inr hr
          · rintro (hr | hr)
            · exact ⟨.inl hr, fun hmem => hN r hr p List.mem_cons_self hcpu (owner_of_mem_devRes hmem)⟩
            -- a conduit further down the list is another one
            · refine ⟨.inr (.inr hr), fun hmem => ?_⟩
              obtain ⟨q, hq, hqcpu, hqr⟩ := hr
              have heq := (owner_of_mem_devRes hmem).symm.trans (owner_of_mem_devRes hqr)
              exact hw.head hp hcpu hq hqcpu (Owner.dev.inj heq)
        have hrest := ih (t := dsaConduitTeardown cfg (t.port p).conduit t) hnodup hw'
          (hdown.congr hset) hN'
        refine ⟨hrest.core, hrest.rest, hrest.owns, fun q hq hqcpu => ?_, fun dev hdev => ?_⟩
        · rcases List.mem_cons.mp hq with rfl | hq
          · exact hrest.other _ (Function.update_self _ _ _)
          · exact hrest.ptr q hq hqcpu
        · refine hrest.other dev ?_
          by_cases hd : dev = (t.port p).conduit
          · rw [hd]
            exact Function.update_self _ _ _
          · exact (Function.update_of_ne hd _ _).trans hdev
      · rw [if_neg hcpu]
        rw [conduitRes_cons_of_ne hcpu] at h
        have hrest := ih hnodup hw' h hN'
        refine ⟨hrest.core, hrest.rest, hrest.owns, fun q hq hqcpu => ?_, hrest.other⟩
        rcases List.mem_cons.mp hq with rfl | hq
        · exact absurd hqcpu hcpu
        · exact hrest.ptr q hq hqcpu

end Axm57104.Dsa.TreeSetup
