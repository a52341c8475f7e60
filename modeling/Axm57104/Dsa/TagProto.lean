import Axm57104.Common.Machine
import Axm57104.Common.Notifier
import Axm57104.Dsa.Fabric

/-!
# Changing the tagging protocol of a tree

Writing the name of another tagger to the `tagging` attribute of a conduit (`conduit.c`) asks all switches
of the tree to change to it, one after the other, and then connects them to it; on an error the switches
are asked to change back (`dsa2.c`, `switch.c`). A switch that changes also hands the new tagger to its
CPU ports, and then lets its user ports copy the transmit function of their CPU port.

The user ports of a switch without a CPU port of its own copy from another switch. If that switch comes
later in the chain it has not changed yet, and they keep the old tagger.

The drivers and the taggers are arbitrary functions on a state of their own. Taggers are numbers.
-/

namespace Axm57104.Dsa.TagProto

open Common
open Fabric (PortId EOPNOTSUPP)

variable {σ : Type*}

@[simp] abbrev EBUSY : ℤ := 16

/-- The switches of a tree in the order of the notifier chain, its CPU ports, and the CPU port of each
user port. -/
structure TagTree where
  switches : List ℕ
  nodup : switches.Nodup
  isCpu : PortId → Bool
  cpuDp : PortId → Option PortId
  cpu : ∀ {p c}, cpuDp p = some c → isCpu c = true ∧ c.ds ∈ switches

/-- A call to a tagger about a switch. -/
inductive TagCall
  | connect (tagOps ds : ℕ) (err : ℤ)
  | disconnect (tagOps ds : ℕ)
  deriving DecidableEq, Repr

/-- The operations of the drivers of the switches and of the taggers. `taggerData` tells whether
`ds->tagger_data` is set. -/
structure TagOps (σ : Type*) where
  proto : ℕ → ℕ
  changeTagProtocol : ℕ → Option (ℕ → σ → ℤ × σ)
  connectTagProtocol : ℕ → Option (ℕ → σ → ℤ × σ)
  connect : ℕ → Option (ℕ → σ → ℤ × σ)
  disconnect : ℕ → Option (ℕ → σ → σ)
  taggerData : σ → ℕ → Bool

/-- The tagger of the tree, of each CPU port and of the transmit function of each user port, and the
protocol that each driver accepted last. `stuck`: a driver refused to change back. -/
structure State (σ : Type*) where
  tagOps : ℕ
  cpuTag : PortId → ℕ
  xmit : PortId → ℕ
  drvProto : ℕ → ℕ
  stuck : Bool
  drv : σ
  calls : List TagCall

section Model

variable (tree : TagTree) (ops : TagOps σ)

/-- `dsa_port_set_tag_protocol` for the CPU ports of a switch. -/
def State.setCpuTags (st : State σ) (ds tagOps : ℕ) : State σ :=
  { st with cpuTag := fun c => if c.ds = ds ∧ tree.isCpu c then tagOps else st.cpuTag c }

/-- `dsa_user_setup_tagger` for the user ports of a switch. -/
def State.setupTaggers (st : State σ) (ds : ℕ) : State σ :=
  { st with xmit := fun p => if p.ds = ds then (tree.cpuDp p).elim (st.xmit p) st.cpuTag else st.xmit p }

/-- `dsa_switch_change_tag_proto`. -/
def dsaSwitchChangeTagProto (tagOps ds : ℕ) (st : State σ) : ℤ × State σ :=
  match ops.changeTagProtocol ds with
  | none => (-EOPNOTSUPP, st)
  | some f =>
      let r := f (ops.proto tagOps) st.drv
      if r.1 ≠ 0 then (r.1, { st with drv := r.2 })
      else
        let st := { st with
          drv := r.2
          drvProto := Function.update st.drvProto ds (ops.proto tagOps) }
        (0, (st.setCpuTags tree ds tagOps).setupTaggers tree ds)

/-- A call of `tag_ops->disconnect`, if there is one. -/
def State.tagDisconnect (st : State σ) (tagOps ds : ℕ) : State σ :=
  match ops.disconnect tagOps with
  | none => st
  | some f => { st with drv := f ds st.drv, calls := st.calls ++ [.disconnect tagOps ds] }

/-- A call of `tag_ops->connect`, if there is one. -/
def State.tagConnect (st : State σ) (tagOps ds : ℕ) : ℤ × State σ :=
  match ops.connect tagOps with
  | none => (0, st)
  | some f =>
      let r := f ds st.drv
      (r.1, { st with drv := r.2, calls := st.calls ++ [.connect tagOps ds r.1] })

/-- `dsa_switch_connect_tag_proto`. -/
def dsaSwitchConnectTagProto (tagOps ds : ℕ) (st : State σ) : ℤ × State σ :=
  let r := st.tagConnect ops tagOps ds
  if r.1 ≠ 0 then r
  else
    match ops.connectTagProtocol ds with
    | none => (-EOPNOTSUPP, r.2)
    | some f =>
        let c := f (ops.proto tagOps) r.2.drv
        let st := { r.2 with drv := c.2 }
        if c.1 ≠ 0 then (c.1, st.tagDisconnect ops tagOps ds) else (0, st)

/-- `dsa_switch_disconnect_tag_proto`. -/
def dsaSwitchDisconnectTagProto (tagOps ds : ℕ) (st : State σ) : ℤ × State σ :=
  (0, if ops.taggerData st.drv ds then st.tagDisconnect ops tagOps ds else st)

/-- `dsa_tree_bind_tag_proto`. -/
def dsaTreeBindTagProto (tagOps : ℕ) (st : State σ) : ℤ × State σ :=
  let oldTagOps := st.tagOps
  let r := notifyChain (dsaSwitchConnectTagProto ops tagOps) tree.switches { st with tagOps := tagOps }
  if r.1 ≠ 0 ∧ r.1 ≠ -EOPNOTSUPP then
    let d := notifyChain (dsaSwitchDisconnectTagProto ops tagOps) tree.switches r.2
    (r.1, { d.2 with tagOps := oldTagOps })
  else (0, (notifyChain (dsaSwitchDisconnectTagProto ops oldTagOps) tree.switches r.2).2)

/-- `out_unwind_tagger` of `dsa_tree_change_tag_proto`. -/
def unwindTagger (oldTagOps : ℕ) (st : State σ) : State σ :=
  let r := notifyChain (dsaSwitchChangeTagProto tree ops oldTagOps) tree.switches st
  { r.2 with stuck := r.2.stuck || decide (r.1 ≠ 0) }

/-- `dsa_tree_change_tag_proto` under the lock. `busy`: a conduit or a user port is up. -/
def dsaTreeChangeTagProto (busy : Bool) (tagOps oldTagOps : ℕ) (st : State σ) : ℤ × State σ :=
  if busy then (-EBUSY, st)
  else
    let r := notifyChain (dsaSwitchChangeTagProto tree ops tagOps) tree.switches st
    if r.1 ≠ 0 then (r.1, unwindTagger tree ops oldTagOps r.2)
    else
      let b := dsaTreeBindTagProto tree ops tagOps r.2
      if b.1 ≠ 0 then (b.1, unwindTagger tree ops oldTagOps b.2) else (0, b.2)

/-- `tagging_store` for the conduit of a CPU port, once the tagger was found. -/
def taggingStore (busy : Bool) (cpuDp : PortId) (newTagOps : ℕ) (st : State σ) : ℤ × State σ :=
  if newTagOps = st.cpuTag cpuDp then (0, st)
  else dsaTreeChangeTagProto tree ops busy newTagOps (st.cpuTag cpuDp) st

end Model

/-! ## One pass over the switches -/

/-- Switch `c` is not after switch `d` in the chain. -/
def NotAfter (is : List ℕ) (c d : ℕ) : Prop := c ∈ is.takeWhile (fun i => i ≠ d) ∨ c = d

instance NotAfter.decidable (is : List ℕ) (c d : ℕ) : Decidable (NotAfter is c d) :=
  inferInstanceAs (Decidable (_ ∨ _))

/-- The switches `is` changed to a tagger, one after the other. -/
structure Passed (tree : TagTree) (ops : TagOps σ) (tagOps : ℕ) (is : List ℕ) (st st' : State σ) : Prop
    where
  drvProto : ∀ ds, st'.drvProto ds = if ds ∈ is then ops.proto tagOps else st.drvProto ds
  cpuTag : ∀ c, st'.cpuTag c = if c.ds ∈ is ∧ tree.isCpu c then tagOps else st.cpuTag c
  xmit : ∀ p c, tree.cpuDp p = some c → st'.xmit p =
    if p.ds ∈ is then if NotAfter is c.ds p.ds then tagOps else st.cpuTag c else st.xmit p
  others : st'.tagOps = st.tagOps ∧ st'.stuck = st.stuck ∧ st'.calls = st.calls

section Pass

variable {tree : TagTree} {ops : TagOps σ} {tagOps ds : ℕ} {is : List ℕ} {st st' : State σ}

/-- A switch that refuses keeps everything. -/
theorem dsaSwitchChangeTagProto_error (h : (dsaSwitchChangeTagProto tree ops tagOps ds st).1 ≠ 0) :
    ∃ drv', (dsaSwitchChangeTagProto tree ops tagOps ds st).2 = { st with drv := drv' } := by
  simp only [dsaSwitchChangeTagProto] at h ⊢
  split
  · exact ⟨st.drv, rfl⟩
  · next f hf =>
    simp only [hf] at h
    split
    · exact ⟨_, rfl⟩
    · next hrc =>
      rw [if_neg hrc] at h
      exact absurd rfl h

theorem dsaSwitchChangeTagProto_ok (h : (dsaSwitchChangeTagProto tree ops tagOps ds st).1 = 0) :
    ∃ drv', (dsaSwitchChangeTagProto tree ops tagOps ds st).2 =
      (State.setCpuTags tree { st with
        drv := drv'
        drvProto := Function.update st.drvProto ds (ops.proto tagOps) } ds tagOps).setupTaggers tree
          ds := by
  simp only [dsaSwitchChangeTagProto] at h ⊢
  split
  · next hf =>
    simp only [hf] at h
    norm_num at h
  · next f hf =>
    simp only [hf] at h
    split
    · next hrc =>
      rw [if_pos hrc] at h
      exact absurd h hrc
    · exact ⟨_, rfl⟩

/-- One switch that changes. -/
theorem dsaSwitchChangeTagProto_passed (h : (dsaSwitchChangeTagProto tree ops tagOps ds st).1 = 0) :
    Passed tree ops tagOps [ds] st (dsaSwitchChangeTagProto tree ops tagOps ds st).2 := by
  obtain ⟨drv', heq⟩ := dsaSwitchChangeTagProto_ok h
  rw [heq]
  refine ⟨fun d => ?_, fun c => ?_, fun p c hc => ?_, rfl, rfl, rfl⟩
  · by_cases hd : d = ds
    · simp [State.setupTaggers, State.setCpuTags, hd]
    · simp [State.setupTaggers, State.setCpuTags, hd]
  · simp [State.setupTaggers, State.setCpuTags]
  · by_cases hp : p.ds = ds
    · obtain ⟨hcpu, -⟩ := tree.cpu hc
      simp [State.setupTaggers, State.setCpuTags, hp, hc, NotAfter, hcpu]
    · simp [State.setupTaggers, State.setCpuTags, hp]

theorem Passed.nil : Passed tree ops tagOps [] st st :=
  ⟨fun _ => rfl, fun _ => (if_neg (fun h => nomatch h.1)).symm, fun _ _ _ => rfl, rfl, rfl, rfl⟩

/-- A switch and then those after it. -/
theorem Passed.cons {st₁ : State σ} (hds : ds ∉ is) (h : Passed tree ops tagOps [ds] st st₁)
    (h' : Passed tree ops tagOps is st₁ st') : Passed tree ops tagOps (ds :: is) st st' where
  drvProto d := by
    rw [h'.drvProto, h.drvProto]
    by_cases hd : d ∈ is
    · simp [hd]
    · simp [hd]
  cpuTag c := by
    rw [h'.cpuTag, h.cpuTag]
    by_cases hc : c.ds ∈ is
    · by_cases hcpu : tree.isCpu c = true
      · simp [hc, hcpu]
      · simp [hcpu]
    · simp [hc]
  xmit p c hc := by
    obtain ⟨hcpu, -⟩ := tree.cpu hc
    rw [h'.xmit p c hc, h.xmit p c hc, h.cpuTag]
    by_cases hp : p.ds = ds
    · -- no later switch changes the port again
      simp [hp, NotAfter, hds]
    · by_cases hmem : p.ds ∈ is
      · simp only [hmem, List.mem_cons, hp, if_true, or_true, NotAfter,
          List.takeWhile_cons_of_pos (p := fun i => decide (i ≠ p.ds)) (decide_eq_true (Ne.symm hp)),
          List.not_mem_nil, hcpu, and_true, or_false]
        by_cases hcd : c.ds = ds
        · simp [hcd]
        · simp [hcd]
      · simp [hp, hmem]
  others := ⟨h'.others.1.trans h.others.1, h'.others.2.1.trans h.others.2.1,
    h'.others.2.2.trans h.others.2.2⟩

/-- **A pass that succeeds.** -/
theorem notifyChain_passed (hn : is.Nodup)
    (h : (notifyChain (dsaSwitchChangeTagProto tree ops tagOps) is st).1 = 0) :
    Passed tree ops tagOps is st (notifyChain (dsaSwitchChangeTagProto tree ops tagOps) is st).2 := by
  induction is generalizing st with
  | nil => exact .nil
  | cons ds is ih =>
      obtain ⟨hds, hn⟩ := List.nodup_cons.mp hn
      by_cases hrc : (dsaSwitchChangeTagProto tree ops tagOps ds st).1 = 0
      · rw [notifyChain_cons_of_ok hrc] at h ⊢
        exact .cons hds (dsaSwitchChangeTagProto_passed hrc) (ih hn h)
      · rw [notifyChain_cons_of_error hrc] at h
        exact absurd h hrc

end Pass

/-! ## Connecting to the tagger -/

section Bind

variable {tree : TagTree} {ops : TagOps σ} {tagOps oldTagOps ds : ℕ} {is : List ℕ} {st st' : State σ}

/-- Who uses which tagger is unchanged. -/
structure SameTags (st st' : State σ) : Prop where
  drvProto : st'.drvProto = st.drvProto
  cpuTag : st'.cpuTag = st.cpuTag
  xmit : st'.xmit = st.xmit
  tagOps : st'.tagOps = st.tagOps
  stuck : st'.stuck = st.stuck

theorem SameTags.refl : SameTags st st := ⟨rfl, rfl, rfl, rfl, rfl⟩

theorem SameTags.trans {st₁ : State σ} (h : SameTags st st₁) (h' : SameTags st₁ st') : SameTags st st' :=
  ⟨h'.drvProto.trans h.drvProto, h'.cpuTag.trans h.cpuTag, h'.xmit.trans h.xmit,
    h'.tagOps.trans h.tagOps, h'.stuck.trans h.stuck⟩

theorem tagDisconnect_same (ops : TagOps σ) (st : State σ) (tagOps ds : ℕ) :
    SameTags st (st.tagDisconnect ops tagOps ds) := by
  rw [State.tagDisconnect]
  split <;> exact ⟨rfl, rfl, rfl, rfl, rfl⟩

theorem tagConnect_same (ops : TagOps σ) (st : State σ) (tagOps ds : ℕ) :
    SameTags st (st.tagConnect ops tagOps ds).2 := by
  rw [State.tagConnect]
  split <;> exact ⟨rfl, rfl, rfl, rfl, rfl⟩

theorem dsaSwitchConnectTagProto_same : SameTags st (dsaSwitchConnectTagProto ops tagOps ds st).2 := by
  have hconnect := tagConnect_same ops st tagOps ds
  simp only [dsaSwitchConnectTagProto]
  split
  · exact hconnect
  split
  · exact hconnect
  · next f _ =>
    have hdrv : SameTags (st.tagConnect ops tagOps ds).2 { (st.tagConnect ops tagOps ds).2 with
        drv := (f (ops.proto tagOps) (st.tagConnect ops tagOps ds).2.drv).2 } :=
      ⟨rfl, rfl, rfl, rfl, rfl⟩
    split
    · exact hconnect.trans (hdrv.trans (tagDisconnect_same ops _ tagOps ds))
    · exact hconnect.trans hdrv

theorem dsaSwitchDisconnectTagProto_same :
    SameTags st (dsaSwitchDisconnectTagProto ops tagOps ds st).2 := by
  simp only [dsaSwitchDisconnectTagProto]
  split
  · exact tagDisconnect_same ops st tagOps ds
  · exact .refl

theorem connectChain_same (ops : TagOps σ) (tagOps : ℕ) (is : List ℕ) (st : State σ) :
    SameTags st (notifyChain (dsaSwitchConnectTagProto ops tagOps) is st).2 :=
  notifyChain_keeps (P := SameTags st) (fun _ _ h => h.trans dsaSwitchConnectTagProto_same) is .refl

theorem disconnectChain_same (ops : TagOps σ) (tagOps : ℕ) (is : List ℕ) (st : State σ) :
    SameTags st (notifyChain (dsaSwitchDisconnectTagProto ops tagOps) is st).2 :=
  notifyChain_keeps (P := SameTags st) (fun _ _ h => h.trans dsaSwitchDisconnectTagProto_same) is .refl

/-- The tree is bound to the new tagger, or as before. -/
theorem dsaTreeBindTagProto_cases (tree : TagTree) (ops : TagOps σ) (tagOps : ℕ) (st : State σ) :
    (dsaTreeBindTagProto tree ops tagOps st).1 = 0 ∧
        SameTags { st with tagOps := tagOps } (dsaTreeBindTagProto tree ops tagOps st).2 ∨
      (dsaTreeBindTagProto tree ops tagOps st).1 ≠ 0 ∧
        SameTags st (dsaTreeBindTagProto tree ops tagOps st).2 := by
  simp only [dsaTreeBindTagProto]
  have hconnect := connectChain_same ops tagOps tree.switches { st with tagOps := tagOps }
  split
  · next herr =>
    have hdis := hconnect.trans (disconnectChain_same ops tagOps tree.switches _)
    exact .inr ⟨herr.1, hdis.drvProto, hdis.cpuTag, hdis.xmit, rfl, hdis.stuck⟩
  · exact .inl ⟨rfl, hconnect.trans (disconnectChain_same ops _ tree.switches _)⟩

end Bind

/-! ## A change of the tagger -/

section Change

variable {tree : TagTree} {ops : TagOps σ} {tagOps oldTagOps : ℕ} {busy : Bool} {st st' : State σ}
  {err : ℤ}

/-- The unwinding succeeded if nobody is stuck. -/
theorem unwindTagger_passed (h : (unwindTagger tree ops oldTagOps st).stuck = false) :
    Passed tree ops oldTagOps tree.switches st (unwindTagger tree ops oldTagOps st) := by
  simp only [unwindTagger, Bool.or_eq_false_iff, decide_eq_false_iff_not, not_not] at h ⊢
  obtain ⟨hdrv, hcpu, hxmit, htag, hstuck, hcalls⟩ := notifyChain_passed tree.nodup h.2
  exact ⟨hdrv, hcpu, hxmit, htag, by simp [h.1, h.2, ← hstuck], hcalls⟩

/-- The switches `served` are those that changed to the tagger: the notification reached `st₁` with
them, and the next one refused if there is one. -/
def Served (tree : TagTree) (ops : TagOps σ) (tagOps : ℕ) (st : State σ) (served : List ℕ)
    (st₁ : State σ) : Prop :=
  notifyChain (dsaSwitchChangeTagProto tree ops tagOps) served st = (0, st₁) ∧
    (served = tree.switches ∨ ∃ k post, tree.switches = served ++ k :: post ∧
      (dsaSwitchChangeTagProto tree ops tagOps k st₁).1 ≠ 0)

theorem Served.passed {served : List ℕ} {st₁ : State σ} (h : Served tree ops tagOps st served st₁) :
    Passed tree ops tagOps served st st₁ := by
  obtain ⟨hchain, hnext⟩ := h
  have hnodup : served.Nodup := by
    rcases hnext with rfl | ⟨k, post, hsw, -⟩
    · exact tree.nodup
    · exact (List.nodup_append.mp (hsw ▸ tree.nodup)).1
  have hpass := notifyChain_passed hnodup (congrArg Prod.fst hchain)
  rwa [hchain] at hpass

/-- **What a request can do**: nothing, a change to the new tagger, or a change of the switches `served`
to the new and then of all back to the old one. -/
inductive Changed (tree : TagTree) (ops : TagOps σ) (busy : Bool) (tagOps oldTagOps : ℕ)
    (st : State σ) : ℤ → State σ → Prop
  | refused {err : ℤ} : busy = true → err ≠ 0 → Changed tree ops busy tagOps oldTagOps st err st
  | changed {st₁ st' : State σ} : Passed tree ops tagOps tree.switches st st₁ →
      SameTags { st₁ with tagOps := tagOps } st' → Changed tree ops busy tagOps oldTagOps st 0 st'
  | unwound {err : ℤ} {served : List ℕ} {st₁ st₂ st' : State σ} : err ≠ 0 →
      Served tree ops tagOps st served st₁ → SameTags st₁ st₂ →
      Passed tree ops oldTagOps tree.switches st₂ st' → Changed tree ops busy tagOps oldTagOps st err st'

theorem dsaTreeChangeTagProto_changed
    (h : dsaTreeChangeTagProto tree ops busy tagOps oldTagOps st = (err, st'))
    (hstuck : st'.stuck = false) : Changed tree ops busy tagOps oldTagOps st err st' := by
  simp only [dsaTreeChangeTagProto] at h
  split at h
  · next hbusy =>
    cases h
    exact .refused hbusy (by norm_num)
  split at h
  · next hrc =>
    cases h
    obtain ⟨pre, k, post, hsw, hpre, hk, heq⟩ := notifyChain_failed hrc
    obtain ⟨drv', hdrv⟩ := dsaSwitchChangeTagProto_error hk
    have hsame : SameTags (notifyChain (dsaSwitchChangeTagProto tree ops tagOps) pre st).2
        (notifyChain (dsaSwitchChangeTagProto tree ops tagOps) tree.switches st).2 := by
      rw [heq, hdrv]
      exact ⟨rfl, rfl, rfl, rfl, rfl⟩
    exact .unwound hrc ⟨Prod.ext hpre rfl, .inr ⟨k, post, hsw, hk⟩⟩ hsame
      (unwindTagger_passed hstuck)
  next hrc =>
  have hchain := not_not.mp hrc
  rcases dsaTreeBindTagProto_cases tree ops tagOps
    (notifyChain (dsaSwitchChangeTagProto tree ops tagOps) tree.switches st).2
    with ⟨hok, hsame⟩ | ⟨hfail, hsame⟩
  · rw [if_neg (not_not.mpr hok)] at h
    cases h
    exact .changed (notifyChain_passed tree.nodup hchain) hsame
  · rw [if_pos hfail] at h
    cases h
    exact .unwound hfail ⟨Prod.ext hchain rfl, .inl rfl⟩ hsame (unwindTagger_passed hstuck)

end Change

/-! ## Runs of changes -/

/-- A write to the `tagging` attribute of the conduit of a CPU port. -/
structure Store where
  busy : Bool
  cpuDp : PortId
  newTagOps : ℕ

inductive NoFault

/-- Changes of the tagger through any conduit, to any tagger. -/
def tagMachine (tree : TagTree) (ops : TagOps σ) : Machine (State σ) Store NoFault where
  enabled _ e := tree.isCpu e.cpuDp = true ∧ e.cpuDp.ds ∈ tree.switches
  exec st e := .ok (taggingStore tree ops e.busy e.cpuDp e.newTagOps st).2

/-- All switches, all CPU ports and the tree use one tagger. -/
structure Agree (tree : TagTree) (ops : TagOps σ) (st : State σ) : Prop where
  drv : ∀ ds ∈ tree.switches, st.drvProto ds = ops.proto st.tagOps
  cpu : ∀ c, tree.isCpu c = true → c.ds ∈ tree.switches → st.cpuTag c = st.tagOps

/-- The user ports transmit for the tagger of the tree. -/
def UsersAgree (tree : TagTree) (st : State σ) : Prop :=
  ∀ p c, tree.cpuDp p = some c → p.ds ∈ tree.switches → st.xmit p = st.tagOps

/-- The switch of a user port is not before the switch of its CPU port. -/
def Ordered (tree : TagTree) : Prop :=
  ∀ p c, tree.cpuDp p = some c → p.ds ∈ tree.switches → NotAfter tree.switches c.ds p.ds

section Runs

variable {tree : TagTree} {ops : TagOps σ} {tagOps oldTagOps : ℕ} {busy : Bool} {st st' : State σ}
  {e : Store} {err : ℤ} {es : List Store}

/-- All switches changed to the tagger that is now the tree's. -/
theorem Passed.agree (h : Passed tree ops tagOps tree.switches st st') (ht : st'.tagOps = tagOps) :
    Agree tree ops st' where
  drv ds hds := by
    rw [h.drvProto, if_pos hds, ht]
  cpu c hc hds := by
    rw [h.cpuTag, if_pos ⟨hds, hc⟩, ht]

theorem Passed.usersAgree (hord : Ordered tree) (h : Passed tree ops tagOps tree.switches st st')
    (ht : st'.tagOps = tagOps) : UsersAgree tree st' := by
  intro p c hc hp
  rw [h.xmit p c hc, if_pos hp, if_pos (hord p c hc hp), ht]

theorem SameTags.agree (h : SameTags st st') (ha : Agree tree ops st) : Agree tree ops st' where
  drv ds hds := by
    rw [h.drvProto, h.tagOps]
    exact ha.drv ds hds
  cpu c hc hds := by
    rw [h.cpuTag, h.tagOps]
    exact ha.cpu c hc hds

theorem SameTags.usersAgree (h : SameTags st st') (ha : UsersAgree tree st) : UsersAgree tree st' := by
  intro p c hc hp
  rw [h.xmit, h.tagOps]
  exact ha p c hc hp

/-- A pass that is followed by a change of `dst->tag_ops`. -/
theorem Passed.retag (h : Passed tree ops tagOps tree.switches st st') :
    Agree tree ops { st' with tagOps := tagOps } where
  drv ds hds := (h.drvProto ds).trans (if_pos hds)
  cpu c hc hds := (h.cpuTag c).trans (if_pos ⟨hds, hc⟩)

/-- One request keeps the agreement. -/
theorem Changed.agree (h : Changed tree ops busy tagOps oldTagOps st err st') (ha : Agree tree ops st)
    (hold : oldTagOps = st.tagOps) :
    Agree tree ops st' ∧ (Ordered tree → UsersAgree tree st → UsersAgree tree st') := by
  cases h with
  | refused _ _ => exact ⟨ha, fun _ hu => hu⟩
  | changed hpass hsame =>
      refine ⟨hsame.agree hpass.retag, fun hord _ => hsame.usersAgree fun p c hc hp => ?_⟩
      exact (hpass.xmit p c hc).trans ((if_pos hp).trans (if_pos (hord p c hc hp)))
  | unwound _ hserved hsame hback =>
      have ht : st'.tagOps = oldTagOps := by
        rw [hback.others.1, hsame.tagOps, hserved.passed.others.1, hold]
      exact ⟨hback.agree ht, fun hord _ => hback.usersAgree hord ht⟩

/-- A request that nobody got stuck in was made to a tree that was not stuck. -/
theorem Changed.stuck (h : Changed tree ops busy tagOps oldTagOps st err st') : st'.stuck = st.stuck := by
  cases h with
  | refused _ _ => rfl
  | changed hpass hsame => exact hsame.stuck.trans hpass.others.2.1
  | unwound _ hserved hsame hback =>
      exact hback.others.2.1.trans (hsame.stuck.trans hserved.passed.others.2.1)

theorem taggingStore_changed {c : PortId}
    (h : taggingStore tree ops busy c tagOps st = (err, st')) (hne : tagOps ≠ st.cpuTag c)
    (hstuck : st'.stuck = false) : Changed tree ops busy tagOps (st.cpuTag c) st err st' := by
  rw [taggingStore, if_neg hne] at h
  exact dsaTreeChangeTagProto_changed h hstuck

/-- A tree whose switches, ports and users all use the tagger `t`. -/
def State.fresh (ops : TagOps σ) (t : ℕ) (drv : σ) : State σ where
  tagOps := t
  cpuTag _ := t
  xmit _ := t
  drvProto _ := ops.proto t
  stuck := false
  drv := drv
  calls := []

theorem agree_run {t : ℕ} {drv : σ} (hr : (tagMachine tree ops).Run (State.fresh ops t drv) es st)
    (hstuck : st.stuck = false) : Agree tree ops st ∧ (Ordered tree → UsersAgree tree st) := by
  revert hstuck
  refine hr.invariant
    (I := fun st => st.stuck = false → Agree tree ops st ∧ (Ordered tree → UsersAgree tree st)) ?_ ?_
  · exact fun _ => ⟨⟨fun _ _ => rfl, fun _ _ _ => rfl⟩, fun _ _ _ _ _ => rfl⟩
  · intro st e st' ih hen hex hstuck
    obtain rfl := Except.ok.inj hex
    by_cases hne : e.newTagOps = st.cpuTag e.cpuDp
    · rw [taggingStore, if_pos hne] at hstuck ⊢
      exact ih hstuck
    · have hch := taggingStore_changed rfl hne hstuck
      obtain ⟨ha, hu⟩ := ih (hch.stuck.symm.trans hstuck)
      obtain ⟨ha', hu'⟩ := hch.agree ha (ha.cpu _ hen.1 hen.2)
      exact ⟨ha', fun hord => hu' hord (hu hord)⟩

/-- **One tagger for all.** After any requests to change the tagger, whatever the drivers and taggers
answer, as long as no driver refused to change back: all drivers, all CPU ports and the tree agree on the
tagger, and so do the user ports if no switch comes before the switch of its CPU ports. -/
theorem tagger_agreement (tree : TagTree) (ops : TagOps σ) (t : ℕ) (drv : σ) (es : List Store)
    (st : State σ) (hr : (tagMachine tree ops).Run (State.fresh ops t drv) es st)
    (hstuck : st.stuck = false) :
    Agree tree ops st ∧ (Ordered tree → UsersAgree tree st) :=
  agree_run hr hstuck

/-- Three switches, the second of which has the CPU port of all. -/
def leafFirst : TagTree where
  switches := [0, 1, 2]
  nodup := by decide
  isCpu c := c = ⟨1, 5⟩
  cpuDp p := if p.index = 0 then some ⟨1, 5⟩ else none
  cpu {p c} h := by
    split at h
    · cases h
      decide
    · cases h

/-- The third switch refuses the protocol 9, the second one cannot be connected. -/
def leafOps : TagOps Unit where
  proto t := t
  changeTagProtocol ds := some fun p s => (if ds = 2 ∧ p = 9 then -95 else 0, s)
  connectTagProtocol ds := if ds = 1 then none else some fun _ s => (0, s)
  connect _ := some fun _ s => (0, s)
  disconnect _ := none
  taggerData _ _ := false

/-- A change that all accept. -/
theorem tagger_agreement_leafFirst : ∃ st : State Unit,
    (tagMachine leafFirst leafOps).Run (State.fresh leafOps 4 ()) [⟨false, ⟨1, 5⟩, 7⟩] st ∧
      st.tagOps = 7 ∧ st.stuck = false ∧ Agree leafFirst leafOps st := by
  have hr : (tagMachine leafFirst leafOps).Run (State.fresh leafOps 4 ()) [⟨false, ⟨1, 5⟩, 7⟩] _ :=
    .cons ⟨rfl, by decide⟩ rfl .nil
  exact ⟨_, hr, rfl, rfl, (tagger_agreement leafFirst leafOps 4 () _ _ hr rfl).1⟩

/-- The calls of a step connect at most the switches `is`. -/
def ConnectsOnly (is : List ℕ) (st st' : State σ) : Prop :=
  ∃ cs, st'.calls = st.calls ++ cs ∧ ∀ t d err, .connect t d err ∈ cs → d ∈ is

theorem ConnectsOnly.of_calls {is : List ℕ} (h : st'.calls = st.calls) : ConnectsOnly is st st' :=
  ⟨[], by rw [h, List.append_nil], fun _ _ _ hc => nomatch hc⟩

theorem ConnectsOnly.trans {is : List ℕ} {st₁ : State σ} (h : ConnectsOnly is st st₁)
    (h' : ConnectsOnly is st₁ st') : ConnectsOnly is st st' := by
  obtain ⟨cs, hcs, hin⟩ := h
  obtain ⟨cs', hcs', hin'⟩ := h'
  refine ⟨cs ++ cs', by rw [hcs', hcs, List.append_assoc], fun t d err hc => ?_⟩
  rcases List.mem_append.mp hc with hc | hc
  · exact hin t d err hc
  · exact hin' t d err hc

theorem tagConnect_only (ops : TagOps σ) (st : State σ) (tagOps : ℕ) {ds : ℕ} {is : List ℕ}
    (hds : ds ∈ is) : ConnectsOnly is st (st.tagConnect ops tagOps ds).2 := by
  rw [State.tagConnect]
  split
  · exact .of_calls rfl
  · refine ⟨_, rfl, fun t d err hc => ?_⟩
    cases List.mem_singleton.mp hc
    exact hds

theorem tagDisconnect_only (ops : TagOps σ) (st : State σ) (tagOps ds : ℕ) (is : List ℕ) :
    ConnectsOnly is st (st.tagDisconnect ops tagOps ds) := by
  rw [State.tagDisconnect]
  split
  · exact .of_calls rfl
  · refine ⟨_, rfl, fun t d err hc => ?_⟩
    cases List.mem_singleton.mp hc

theorem dsaSwitchConnectTagProto_only (ops : TagOps σ) (st : State σ) (tagOps : ℕ) {ds : ℕ}
    {is : List ℕ} (hds : ds ∈ is) :
    ConnectsOnly is st (dsaSwitchConnectTagProto ops tagOps ds st).2 := by
  have hconnect := tagConnect_only ops st tagOps hds
  simp only [dsaSwitchConnectTagProto]
  split
  · exact hconnect
  split
  · exact hconnect
  · next f _ =>
    have hdrv : ConnectsOnly is (st.tagConnect ops tagOps ds).2 { (st.tagConnect ops tagOps ds).2 with
        drv := (f (ops.proto tagOps) (st.tagConnect ops tagOps ds).2.drv).2 } := .of_calls rfl
    split
    · exact hconnect.trans (hdrv.trans (tagDisconnect_only ops _ tagOps ds is))
    · exact hconnect.trans hdrv

/-- A switch that cannot be connected stops the chain, whatever the tagger says. -/
theorem dsaSwitchConnectTagProto_stops {k : ℕ} (hk : ops.connectTagProtocol k = none) (st : State σ) :
    (dsaSwitchConnectTagProto ops tagOps k st).1 ≠ 0 := by
  simp only [dsaSwitchConnectTagProto, hk]
  split
  · next hrc => exact hrc
  · norm_num

theorem disconnectChain_only (ops : TagOps σ) (tagOps : ℕ) (sw is : List ℕ) (st : State σ) :
    ConnectsOnly is st (notifyChain (dsaSwitchDisconnectTagProto ops tagOps) sw st).2 := by
  refine notifyChain_keeps (P := ConnectsOnly is st) (fun ds a h => h.trans ?_) sw (.of_calls rfl)
  simp only [dsaSwitchDisconnectTagProto]
  split
  · exact tagDisconnect_only ops a tagOps ds is
  · exact .of_calls rfl

theorem changeChain_only (tree : TagTree) (ops : TagOps σ) (tagOps : ℕ) (sw is : List ℕ)
    (st : State σ) :
    ConnectsOnly is st (notifyChain (dsaSwitchChangeTagProto tree ops tagOps) sw st).2 := by
  refine notifyChain_keeps (P := ConnectsOnly is st) (fun ds a h => h.trans (.of_calls ?_)) sw
    (.of_calls rfl)
  by_cases hrc : (dsaSwitchChangeTagProto tree ops tagOps ds a).1 = 0
  · exact (dsaSwitchChangeTagProto_passed hrc).others.2.2
  · obtain ⟨drv', heq⟩ := dsaSwitchChangeTagProto_error hrc
    rw [heq]

theorem dsaTreeBindTagProto_only {pre post : List ℕ} {k : ℕ} (hsw : tree.switches = pre ++ k :: post)
    (hk : ops.connectTagProtocol k = none) (tagOps : ℕ) (st : State σ) :
    ConnectsOnly (pre ++ [k]) st (dsaTreeBindTagProto tree ops tagOps st).2 := by
  have hconnect : ConnectsOnly (pre ++ [k]) st (notifyChain (dsaSwitchConnectTagProto ops tagOps)
      tree.switches { st with tagOps := tagOps }).2 := by
    rw [hsw, notifyChain_stop (dsaSwitchConnectTagProto_stops hk)]
    exact notifyChain_keeps_mem (P := ConnectsOnly (pre ++ [k]) st)
      (fun ds hds a h => h.trans (dsaSwitchConnectTagProto_only ops a tagOps hds)) (.of_calls rfl)
  simp only [dsaTreeBindTagProto]
  split
  · exact (hconnect.trans (disconnectChain_only ops tagOps tree.switches _ _)).trans (.of_calls rfl)
  · exact hconnect.trans (disconnectChain_only ops _ tree.switches _ _)

theorem taggingStore_only {pre post : List ℕ} {k : ℕ} (hsw : tree.switches = pre ++ k :: post)
    (hk : ops.connectTagProtocol k = none) (busy : Bool) (c : PortId) (st : State σ) :
    ConnectsOnly (pre ++ [k]) st (taggingStore tree ops busy c tagOps st).2 := by
  have hchange := changeChain_only tree ops tagOps tree.switches (pre ++ [k]) st
  have hunwind : ∀ old st₁, ConnectsOnly (pre ++ [k]) st₁ (unwindTagger tree ops old st₁) := by
    intro old st₁
    exact (changeChain_only tree ops old tree.switches (pre ++ [k]) st₁).trans (.of_calls rfl)
  simp only [taggingStore, dsaTreeChangeTagProto]
  split
  · exact .of_calls rfl
  split
  · exact .of_calls rfl
  split
  · exact hchange.trans (hunwind _ _)
  have hbind := hchange.trans (dsaTreeBindTagProto_only hsw hk tagOps _)
  split
  · exact hbind.trans (hunwind _ _)
  · exact hbind

/-- **Connections stop at the first switch that cannot be told**: in every run, no switch behind one
without `connect_tag_protocol` is ever connected to a tagger. -/
theorem connects_stop_at_unsupported (tree : TagTree) (ops : TagOps σ) (t : ℕ) (drv : σ)
    (es : List Store) (st : State σ) (hr : (tagMachine tree ops).Run (State.fresh ops t drv) es st)
    (pre post : List ℕ) (k : ℕ) (hsw : tree.switches = pre ++ k :: post)
    (hk : ops.connectTagProtocol k = none) (tagOps d : ℕ) (err : ℤ)
    (hc : .connect tagOps d err ∈ st.calls) : d ∈ pre ++ [k] := by
  have hrun : ConnectsOnly (pre ++ [k]) (State.fresh ops t drv) st := by
    refine hr.invariant (.of_calls rfl) fun h _ hex => ?_
    obtain rfl := Except.ok.inj hex
    exact h.trans (taggingStore_only hsw hk _ _ _)
  obtain ⟨cs, hcs, hin⟩ := hrun
  rw [hcs] at hc
  exact hin tagOps d err hc

/-- The third switch changes to the tagger without being connected to it. -/
theorem connects_stop_at_unsupported_leafFirst : ∃ st : State Unit,
    (tagMachine leafFirst leafOps).Run (State.fresh leafOps 4 ()) [⟨false, ⟨1, 5⟩, 7⟩] st ∧
      st.drvProto 2 = 7 ∧ .connect 7 1 0 ∈ st.calls ∧ ∀ t err, .connect t 2 err ∉ st.calls := by
  have hr : (tagMachine leafFirst leafOps).Run (State.fresh leafOps 4 ()) [⟨false, ⟨1, 5⟩, 7⟩] _ :=
    .cons ⟨rfl, by decide⟩ rfl .nil
  refine ⟨_, hr, rfl, by decide, fun t err hc => ?_⟩
  have hin := connects_stop_at_unsupported leafFirst leafOps 4 () _ _ hr [0] [2] 1 rfl rfl t 2 err hc
  simp at hin

end Runs

end Axm57104.Dsa.TagProto
