import Axm57104.Dsa.UpperNums

/-!
# What the drivers know of the bridges

Each driver is told which ports join and leave a bridge, those of its own switch and, if it has the
cross-chip operations, those of all others. A port that is in a bridge is known to be there by every
driver that can be told. The converse needs drivers that do not refuse: when one of them does, those that
were asked before it have accepted the port, and they are not told that it is not in the bridge after
all.
-/

namespace Axm57104.Dsa.Uppers

open Common
open Fabric (ENOMEM EOPNOTSUPP)

variable {σ : Type*} {fs : Fabrics} {ops : ℕ → ℕ → DsaSwitchOps σ} {drv : σ} {st st' : State σ}
  {es : List Event} {e : Event} {err : ℤ}

/-- What a call tells the driver of switch `s` of tree `t` about the bridge of `p`: a device and a
number. -/
def viewStep (t s : ℕ) (p : PortRef) (v : Option (ℕ × ℕ)) (c : UpperCall) : Option (ℕ × ℕ) :=
  if c.dst = t ∧ c.ds = s ∧ c.port = p then
    match c.op with
    | .bridgeJoin => if c.err = 0 then some (c.upper.dev, c.upper.num) else v
    | .bridgeLeave => none
    | _ => v
  else v

/-- The bridge that the driver takes the port to be in. -/
def bridgeView (t s : ℕ) (p : PortRef) (calls : List UpperCall) : Option (ℕ × ℕ) :=
  calls.foldl (viewStep t s p) none

/-- The driver of switch `s` of tree `t` can be told that `p` joins a bridge. -/
def HearsJoin (ops : ℕ → ℕ → DsaSwitchOps σ) (t s : ℕ) (p : PortRef) : Prop :=
  if p.dst = t ∧ p.ds = s then (ops t s).portBridgeJoin ≠ none
  else (ops t s).crosschipBridgeJoin ≠ none

/-- The driver can be told that `p` leaves a bridge. -/
def HearsLeave (ops : ℕ → ℕ → DsaSwitchOps σ) (t s : ℕ) (p : PortRef) : Prop :=
  if p.dst = t ∧ p.ds = s then (ops t s).portBridgeLeave ≠ none
  else (ops t s).crosschipBridgeLeave ≠ none

/-- Every driver takes its own ports, nobody refuses a join, and who hears joins hears leaves. -/
structure Obliging (ops : ℕ → ℕ → DsaSwitchOps σ) : Prop where
  own : ∀ t s, ∃ f, (ops t s).portBridgeJoin = some f ∧ ∀ p u d, (f p u d).1 = 0
  cross : ∀ t s f, (ops t s).crosschipBridgeJoin = some f → ∀ p u d, (f p u d).1 = 0
  leave : ∀ t s p, HearsJoin ops t s p → HearsLeave ops t s p

section Calls

variable {t s : ℕ} {p : PortRef} {c : UpperCall} {drv' : σ}

theorem bridgeView_called :
    bridgeView t s p (st.called c drv').calls = viewStep t s p (bridgeView t s p st.calls) c :=
  List.foldl_concat _ _ _ _

theorem viewStep_of_port_ne {v : Option (ℕ × ℕ)} (h : c.port ≠ p) : viewStep t s p v c = v :=
  if_neg fun hc => h hc.2.2

/-- Calls about LAGs say nothing about bridges. -/
theorem viewStep_of_op {v : Option (ℕ × ℕ)} (hj : c.op ≠ .bridgeJoin) (hl : c.op ≠ .bridgeLeave) :
    viewStep t s p v c = v := by
  simp only [viewStep]
  split <;> rfl

end Calls

/-! ## Notifications about a port -/

section Switch

variable {dst ds t s : ℕ} {p dp : PortRef} {u : Upper} {o : DsaSwitchOps σ} {a : State σ × Bool}

/-- A join is told or not, and the answer is the result. -/
theorem dsaSwitchBridgeJoin_calls (o : DsaSwitchOps σ) (dst ds : ℕ) (dp : PortRef) (u : Upper)
    (a : State σ × Bool) :
    (dsaSwitchBridgeJoin o dst ds dp u a).2.1 = a.1 ∨
      ∃ drv', (dsaSwitchBridgeJoin o dst ds dp u a).2.1 =
        a.1.called ⟨dst, ds, .bridgeJoin, dp, u, (dsaSwitchBridgeJoin o dst ds dp u a).1⟩ drv' := by
  simp only [dsaSwitchBridgeJoin]
  split <;> split
  · exact .inl rfl
  · exact .inr ⟨_, rfl⟩
  · exact .inl rfl
  · exact .inr ⟨_, rfl⟩

/-- Who hears of the join and accepts it knows the bridge. -/
theorem dsaSwitchBridgeJoin_told (hear : HearsJoin ops dst ds dp)
    (h : (dsaSwitchBridgeJoin (ops dst ds) dst ds dp u a).1 = 0) :
    bridgeView dst ds dp (dsaSwitchBridgeJoin (ops dst ds) dst ds dp u a).2.1.calls =
      some (u.dev, u.num) := by
  have hcalls : ∃ drv', (dsaSwitchBridgeJoin (ops dst ds) dst ds dp u a).2.1 =
      a.1.called ⟨dst, ds, .bridgeJoin, dp, u, (dsaSwitchBridgeJoin (ops dst ds) dst ds dp u a).1⟩
        drv' := by
    simp only [dsaSwitchBridgeJoin]
    split
    · next hown =>
      rw [HearsJoin, if_pos hown] at hear
      split
      · next hnone => exact absurd hnone hear
      · exact ⟨_, rfl⟩
    · next hown =>
      rw [HearsJoin, if_neg hown] at hear
      split
      · next hnone => exact absurd hnone hear
      · exact ⟨_, rfl⟩
  obtain ⟨drv', hcalls⟩ := hcalls
  rw [hcalls, bridgeView_called, h]
  simp [viewStep]

theorem dsaSwitchBridgeJoin_view_of_ne (hp : dp ≠ p) :
    bridgeView t s p (dsaSwitchBridgeJoin o dst ds dp u a).2.1.calls = bridgeView t s p a.1.calls := by
  rcases dsaSwitchBridgeJoin_calls o dst ds dp u a with h | ⟨drv', h⟩
  · rw [h]
  · rw [h, bridgeView_called, viewStep_of_port_ne hp]

/-- Who knows the bridge keeps knowing it. -/
theorem dsaSwitchBridgeJoin_view_keeps (h : bridgeView t s dp a.1.calls = some (u.dev, u.num)) :
    bridgeView t s dp (dsaSwitchBridgeJoin o dst ds dp u a).2.1.calls = some (u.dev, u.num) := by
  rcases dsaSwitchBridgeJoin_calls o dst ds dp u a with hc | ⟨drv', hc⟩
  · rw [hc, h]
  · rw [hc, bridgeView_called, h]
    simp only [viewStep]
    split
    · split <;> rfl
    · rfl

/-- A leave is told or not. -/
theorem dsaSwitchBridgeLeave_calls (o : DsaSwitchOps σ) (dst ds : ℕ) (dp : PortRef) (u : Upper)
    (st : State σ) :
    (dsaSwitchBridgeLeave o dst ds dp u st).2 = st ∨
      ∃ drv', (dsaSwitchBridgeLeave o dst ds dp u st).2 =
        st.called ⟨dst, ds, .bridgeLeave, dp, u, 0⟩ drv' := by
  simp only [dsaSwitchBridgeLeave]
  split
  · exact .inl rfl
  · exact .inr ⟨_, rfl⟩

theorem dsaSwitchBridgeLeave_view_of_ne (hp : dp ≠ p) :
    bridgeView t s p (dsaSwitchBridgeLeave o dst ds dp u st).2.calls = bridgeView t s p st.calls := by
  rcases dsaSwitchBridgeLeave_calls o dst ds dp u st with h | ⟨drv', h⟩
  · rw [h]
  · rw [h, bridgeView_called, viewStep_of_port_ne hp]

theorem dsaSwitchBridgeLeave_view_keeps (h : bridgeView t s dp st.calls = none) :
    bridgeView t s dp (dsaSwitchBridgeLeave o dst ds dp u st).2.calls = none := by
  rcases dsaSwitchBridgeLeave_calls o dst ds dp u st with hc | ⟨drv', hc⟩
  · rw [hc, h]
  · rw [hc, bridgeView_called, h]
    simp only [viewStep]
    split <;> rfl

theorem dsaSwitchBridgeLeave_told (hear : HearsLeave ops dst ds dp) :
    bridgeView dst ds dp (dsaSwitchBridgeLeave (ops dst ds) dst ds dp u st).2.calls = none := by
  have hcalls : ∃ drv', (dsaSwitchBridgeLeave (ops dst ds) dst ds dp u st).2 =
      st.called ⟨dst, ds, .bridgeLeave, dp, u, 0⟩ drv' := by
    simp only [dsaSwitchBridgeLeave]
    split
    · next hnone =>
      rw [HearsLeave] at hear
      split at hear <;> rename_i hown
      · rw [if_pos hown] at hnone
        exact absurd hnone hear
      · rw [if_neg hown] at hnone
        exact absurd hnone hear
    · exact ⟨_, rfl⟩
  obtain ⟨drv', hcalls⟩ := hcalls
  rw [hcalls, bridgeView_called]
  simp [viewStep]

end Switch

/-! ## Broadcasts -/

section Chain

variable {α : Type*} {a : α}

theorem dsaBroadcast_ok {event : ℕ → ℕ → α → ℤ × α} (h : ∀ t s a, (event t s a).1 = 0) :
    (dsaBroadcast fs event a).1 = 0 :=
  notifyChain_ok fun t _ => notifyChain_ok (h t)

theorem dsaBroadcast_achieves {event : ℕ → ℕ → α → ℤ × α} {Q : ℕ → ℕ → α → Prop}
    (hkeep : ∀ t s t' s' a, Q t s a → Q t s (event t' s' a).2)
    (hdone : ∀ t s a, (event t s a).1 = 0 → Q t s (event t s a).2)
    (h0 : (dsaBroadcast fs event a).1 = 0) {t s : ℕ} (ht : t ∈ fs.trees) (hs : s ∈ fs.switches t) :
    Q t s (dsaBroadcast fs event a).2 := by
  refine notifyChain_achieves (Q := fun t a => ∀ s ∈ fs.switches t, Q t s a) ?_ ?_ h0 t ht s hs
  · intro t t' a hq s hs
    exact dsaTreeNotify_keeps (fun t' s' a => hkeep t s t' s' a) t' (hq s hs)
  · intro t a h s hs
    exact notifyChain_achieves (fun s s' a => hkeep t s t s' a) (fun s a => hdone t s a) h s hs

end Chain

section Broadcast

variable {t s : ℕ} {p dp : PortRef} {u : Upper} {tx : Bool}

theorem broadcastJoin_view_of_ne (hp : dp ≠ p) :
    bridgeView t s p (broadcastJoin fs ops dp u st).2.1.calls = bridgeView t s p st.calls :=
  dsaBroadcast_keeps
    (P := fun a : State σ × Bool => bridgeView t s p a.1.calls = bridgeView t s p st.calls)
    (fun _ _ _ h => (dsaSwitchBridgeJoin_view_of_ne hp).trans h) rfl

theorem broadcastLeave_view_of_ne (hp : dp ≠ p) :
    bridgeView t s p (broadcastLeave fs ops dp u st).2.calls = bridgeView t s p st.calls :=
  dsaBroadcast_keeps
    (P := fun a : State σ => bridgeView t s p a.calls = bridgeView t s p st.calls)
    (fun _ _ _ h => (dsaSwitchBridgeLeave_view_of_ne hp).trans h) rfl

/-- After a join that all accepted, who can hear of it knows it. -/
theorem broadcastJoin_told (h0 : (broadcastJoin fs ops dp u st).1 = 0) (ht : t ∈ fs.trees)
    (hs : s ∈ fs.switches t) (hear : HearsJoin ops t s dp) :
    bridgeView t s dp (broadcastJoin fs ops dp u st).2.1.calls = some (u.dev, u.num) := by
  refine dsaBroadcast_achieves (Q := fun t s (a : State σ × Bool) => HearsJoin ops t s dp →
    bridgeView t s dp a.1.calls = some (u.dev, u.num)) ?_ ?_ h0 ht hs hear
  · exact fun t s t' s' a hq hear => dsaSwitchBridgeJoin_view_keeps (hq hear)
  · exact fun t s a hok hear => dsaSwitchBridgeJoin_told hear hok

/-- Leaves are never refused. -/
theorem broadcastLeave_ok : (broadcastLeave fs ops dp u st).1 = 0 := by
  refine dsaBroadcast_ok fun dst ds a => ?_
  simp only [dsaSwitchBridgeLeave]
  split <;> rfl

theorem broadcastLeave_told (ht : t ∈ fs.trees) (hs : s ∈ fs.switches t)
    (hear : HearsLeave ops t s dp) :
    bridgeView t s dp (broadcastLeave fs ops dp u st).2.calls = none := by
  refine dsaBroadcast_achieves (Q := fun t s (a : State σ) => HearsLeave ops t s dp →
    bridgeView t s dp a.calls = none) ?_ ?_ broadcastLeave_ok ht hs hear
  · exact fun t s t' s' a hq hear => dsaSwitchBridgeLeave_view_keeps (hq hear)
  · exact fun t s a _ hear => dsaSwitchBridgeLeave_told hear

/-- Obliging drivers accept. -/
theorem broadcastJoin_ok (ho : Obliging ops) : (broadcastJoin fs ops dp u st).1 = 0 := by
  refine dsaBroadcast_ok fun dst ds a => ?_
  simp only [dsaSwitchBridgeJoin]
  split
  · obtain ⟨f, hf, hok⟩ := ho.own dst ds
    rw [hf]
    exact hok _ _ _
  · split
    · rfl
    · next f hf => exact ho.cross dst ds f hf _ _ _

end Broadcast

/-! ## Events -/

/-- The bridge of a port, its device and number, as the drivers are told them. -/
def placeOf (g : Bridges) (p : PortRef) : Option (ℕ × ℕ) := g.fieldOf (fun b => (b.dev.2, b.num)) p

/-- Neither the bridges nor what the drivers know of them changed. -/
def Quiet (st st' : State σ) : Prop :=
  st'.bridges = st.bridges ∧ ∀ t s p, bridgeView t s p st'.calls = bridgeView t s p st.calls

/-- What an event about `dp` does to the bridges and to what the drivers know of them. -/
structure Views (fs : Fabrics) (ops : ℕ → ℕ → DsaSwitchOps σ) (dp : PortRef) (st st' : State σ) :
    Prop where
  others : ∀ t s p, p ≠ dp → bridgeView t s p st'.calls = bridgeView t s p st.calls
  places : ∀ p, p ≠ dp → placeOf st'.bridges p = placeOf st.bridges p
  told : ∀ x, placeOf st'.bridges dp = some x → ∀ t ∈ fs.trees, ∀ s ∈ fs.switches t,
    HearsJoin ops t s dp → bridgeView t s dp st'.calls = some x
  untold : Obliging ops → placeOf st'.bridges dp = none → ∀ t ∈ fs.trees, ∀ s ∈ fs.switches t,
    HearsJoin ops t s dp → bridgeView t s dp st.calls = placeOf st.bridges dp →
    bridgeView t s dp st'.calls = none

section Events

variable {dp : PortRef} {br : ℕ} {env : JoinEnv} {st₁ : State σ}

theorem Views.after (hq : Quiet st st₁) (h : Views fs ops dp st₁ st') : Views fs ops dp st st' where
  others t s p hp := (h.others t s p hp).trans (hq.2 t s p)
  places p hp := by
    rw [h.places p hp, hq.1]
  told := h.told
  untold ho hnone t ht s hs hear hv := by
    refine h.untold ho hnone t ht s hs hear ?_
    rw [hq.2, hq.1]
    exact hv

theorem Views.before (h : Views fs ops dp st st₁) (hq : Quiet st₁ st') : Views fs ops dp st st' where
  others t s p hp := (hq.2 t s p).trans (h.others t s p hp)
  places p hp := by
    rw [hq.1]
    exact h.places p hp
  told x hx t ht s hs hear := by
    rw [hq.1] at hx
    rw [hq.2]
    exact h.told x hx t ht s hs hear
  untold ho hnone t ht s hs hear hv := by
    rw [hq.1] at hnone
    rw [hq.2]
    exact h.untold ho hnone t ht s hs hear hv

/-- Nothing happened to a port outside of all bridges. -/
theorem Views.of_quiet (hq : Quiet st st') (hfree : placeOf st.bridges dp = none) :
    Views fs ops dp st st' where
  others t s p _ := hq.2 t s p
  places p _ := by rw [hq.1]
  told x hx := by
    rw [hq.1, hfree] at hx
    cases hx
  untold _ _ t _ s _ _ hv := by
    rw [hq.2, hv, hfree]

theorem placeOf_eq_none {g : Bridges} {p : PortRef} (h : g.member p = none) : placeOf g p = none := by
  rw [placeOf, Groups.fieldOf, h, Option.bind_none]

theorem placeOf_created {g g' : Bridges} (h : BridgesLive fs g) (hc : BridgeCreated fs dp br g g')
    {p : PortRef} (hp : p ≠ dp) : placeOf g' p = placeOf g p := by
  rcases hc with ⟨-, hb⟩ | ⟨-, -⟩
  · rw [placeOf, Groups.fieldOf_join (fun _ _ => rfl) hb, if_neg hp]
    rfl
  · rw [placeOf, h.toLive.fieldOf_start, if_neg hp]
    rfl

theorem placeOf_leave {g : Bridges} (h : BridgesLive fs g) {a : ℕ} {b : GroupObj (ℕ × ℕ)}
    (ha : g.member dp = some a) (hb : g.heap a = some b) {p : PortRef} (hp : p ≠ dp) :
    placeOf (g.leave dsaBridgeNumPut dp a b) p = placeOf g p := by
  rw [placeOf, h.toLive.fieldOf_leave (fun _ _ => rfl) ha hb, if_neg hp]
  rfl

/-- A port that left, or joined and left, is known to be outside by those who were told so. -/
theorem Views.of_leave {g : Bridges} (hlive : BridgesLive fs g) {a : ℕ} {b : GroupObj (ℕ × ℕ)}
    (ha : g.member dp = some a) (hb : g.heap a = some b)
    (hg : ∀ p, p ≠ dp → placeOf g p = placeOf st.bridges p)
    (hst' : st'.bridges = g.leave dsaBridgeNumPut dp a b)
    (hothers : ∀ t s p, p ≠ dp → bridgeView t s p st'.calls = bridgeView t s p st.calls)
    (htold : Obliging ops → ∀ t ∈ fs.trees, ∀ s ∈ fs.switches t, HearsJoin ops t s dp →
      bridgeView t s dp st'.calls = none) : Views fs ops dp st st' where
  others := hothers
  places p hp := by
    rw [hst', placeOf_leave hlive ha hb hp, hg p hp]
  told x hx := by
    rw [hst', placeOf_eq_none (by rw [Groups.member_leave, Function.update_self])] at hx
    cases hx
  untold ho _ t ht s hs hear _ := htold ho t ht s hs hear

/-- **What a join tells.** -/
theorem dsaPortBridgeJoin_views (h : BridgesLive fs st.bridges) (hp : dp ∈ fs.allPorts)
    (hfree : st.bridges.member dp = none)
    (hex : dsaPortBridgeJoin fs ops env dp br st = some (err, st')) : Views fs ops dp st st' := by
  obtain ⟨-, -, hrun⟩ := dsaPortBridgeJoin_run hex
  generalize hg : st'.bridges = g at hrun
  generalize hc : st'.calls = calls at hrun
  cases hrun with
  | refused _ => exact .of_quiet ⟨hg, fun _ _ _ => by rw [hc]⟩ (placeOf_eq_none hfree)
  | @denied st₁ a b hask hj =>
      refine .of_leave (h.created hp hfree hask.created) hask.member hask.heap
        (fun p => placeOf_created h hask.created) hg (fun t s p hpd => ?_)
        (fun ho => absurd (broadcastJoin_ok ho) hj)
      rw [hc, broadcastJoin_view_of_ne (Ne.symm hpd), hask.calls]
  | @undone st₁ st₂ a b hask hj hst₂ _ =>
      refine .of_leave (h.created hp hfree hask.created) hask.member hask.heap
        (fun p => placeOf_created h hask.created) hg (fun t s p hpd => ?_)
        (fun ho t ht s hs hear => ?_)
      · rw [hc, broadcastLeave_view_of_ne (Ne.symm hpd), hst₂,
          broadcastJoin_view_of_ne (Ne.symm hpd), hask.calls]
      · rw [hc]
        exact broadcastLeave_told ht hs (ho.leave t s dp hear)
  | @joined st₁ a b hask hj =>
      have hplace : placeOf st'.bridges dp = some (b.dev.2, b.num) := by
        rw [hg]
        exact Groups.fieldOf_eq _ hask.member hask.heap
      refine ⟨fun t s p hpd => ?_, fun p hpd => ?_, fun x hx t ht s hs hear => ?_, fun _ hx => ?_⟩
      · rw [hc, broadcastJoin_view_of_ne (Ne.symm hpd), hask.calls]
      · rw [hg]
        exact placeOf_created h hask.created hpd
      · rw [hplace] at hx
        rw [hc, ← hx]
        exact broadcastJoin_told hj ht hs hear
      · rw [hplace] at hx
        cases hx

theorem dsaPortBridgeLeave_views (h : BridgesLive fs st.bridges)
    (hex : dsaPortBridgeLeave fs ops dp st = some st') : Views fs ops dp st st' := by
  simp only [dsaPortBridgeLeave] at hex
  split at hex
  · next hm =>
    cases hex
    exact .of_quiet ⟨rfl, fun _ _ _ => rfl⟩ (placeOf_eq_none hm)
  · next a ha =>
    obtain ⟨b, hb, hrest⟩ := Option.bind_eq_some_iff.mp hex
    obtain ⟨st₁, hd, heq⟩ := Option.map_eq_some_iff.mp hrest
    obtain ⟨a', b', ha', hb', rfl⟩ := dsaPortBridgeDestroy_cases hd
    cases heq
    have hsame := broadcast_leave_same fs ops dp (st.bridgeCopy a b)
      { st with bridges := st.bridges.leave dsaBridgeNumPut dp a' b' }
    refine .of_leave h ha' hb' (fun p _ => rfl) ?_
      (fun t s p hpd => broadcastLeave_view_of_ne (Ne.symm hpd))
      (fun ho t ht s hs hear => broadcastLeave_told ht hs (ho.leave t s dp hear))
    rw [hsame.1]

/-! ## LAGs -/

section Lag

variable {u : Upper} {t s : ℕ} {p : PortRef} {dst : ℕ}

/-- A call about a LAG. -/
theorem quiet_called {c : UpperCall} {drv' : σ} (hj : c.op ≠ .bridgeJoin) (hl : c.op ≠ .bridgeLeave) :
    Quiet st (st.called c drv') :=
  ⟨rfl, fun _ _ _ => bridgeView_called.trans (viewStep_of_op hj hl)⟩

theorem Quiet.trans (h : Quiet st st₁) (h' : Quiet st₁ st') : Quiet st st' :=
  ⟨h'.1.trans h.1, fun t s p => (h'.2 t s p).trans (h.2 t s p)⟩

theorem Quiet.refl : Quiet st st := ⟨rfl, fun _ _ _ => rfl⟩

theorem notify_quiet {event : ℕ → ℕ → State σ → ℤ × State σ}
    (h : ∀ dst ds st, Quiet st (event dst ds st).2) : Quiet st (dsaTreeNotify fs event dst st).2 :=
  dsaTreeNotify_keeps (P := Quiet st) (fun dst ds a hq => hq.trans (h dst ds a)) dst .refl

theorem notify_lagJoin_quiet : Quiet st
    (dsaTreeNotify fs (fun dst ds => dsaSwitchLagJoin (ops dst ds) dst ds dp u) dst st).2 := by
  refine notify_quiet fun dst ds st => ?_
  simp only [dsaSwitchLagJoin]
  split
  · exact .refl
  · exact quiet_called (by simp) (by simp)

theorem notify_lagLeave_quiet : Quiet st
    (dsaTreeNotify fs (fun dst ds => dsaSwitchLagLeave (ops dst ds) dst ds dp u) dst st).2 := by
  refine notify_quiet fun dst ds st => ?_
  simp only [dsaSwitchLagLeave]
  split
  · exact .refl
  · exact quiet_called (by simp) (by simp)

theorem notify_lagChange_quiet : Quiet st
    (dsaTreeNotify fs (fun dst ds => dsaSwitchLagChange (ops dst ds) dst ds dp u) dst st).2 := by
  refine notify_quiet fun dst ds st => ?_
  simp only [dsaSwitchLagChange]
  split
  · exact .refl
  · exact quiet_called (by simp) (by simp)

theorem dsaPortLagDestroy_quiet (h : dsaPortLagDestroy dp st = some st') : Quiet st st' := by
  obtain ⟨a, b, -, -, rfl⟩ := dsaPortLagDestroy_cases h
  exact ⟨rfl, fun _ _ _ => rfl⟩

theorem dsaPortLagJoin_views {mem : Bool} {bridgeDev : Option ℕ} {lagDev : ℕ} (h : Inv fs st)
    (hen : (Event.lagJoin mem bridgeDev env dp lagDev).enabled fs st)
    (hex : dsaPortLagJoin fs ops mem bridgeDev env dp lagDev st = some (err, st')) :
    Views fs ops dp st st' := by
  obtain ⟨hp, hfree, -⟩ := hen
  have hnone := placeOf_eq_none hfree
  simp only [dsaPortLagJoin] at hex
  obtain ⟨⟨rc, st₁⟩, hcreate, hrest⟩ := Option.bind_eq_some_iff.mp hex
  have hquiet : Quiet st st₁ := by
    rcases dsaPortLagCreate_cases hcreate with ⟨-, rfl⟩ | ⟨-, g, -, rfl⟩
    · exact .refl
    · exact ⟨rfl, fun _ _ _ => rfl⟩
  split at hrest
  · cases hrest
    exact .of_quiet hquiet hnone
  obtain ⟨a, -, hrest⟩ := Option.bind_eq_some_iff.mp hrest
  obtain ⟨b, -, hrest⟩ := Option.bind_eq_some_iff.mp hrest
  simp only at hrest
  have hjoin : Quiet st (dsaTreeNotify fs (fun dst ds => dsaSwitchLagJoin (ops dst ds) dst ds dp
      ⟨b.dev, b.num, false⟩) dp.dst st₁).2 := hquiet.trans notify_lagJoin_quiet
  split at hrest
  · obtain ⟨st₂, hd, heq⟩ := Option.map_eq_some_iff.mp hrest
    cases heq
    exact .of_quiet (hjoin.trans (dsaPortLagDestroy_quiet hd)) hnone
  rcases bridgeDev with - | br
  · cases hrest
    exact .of_quiet hjoin hnone
  · obtain ⟨⟨rc', st₂⟩, hbj, hrest⟩ := Option.bind_eq_some_iff.mp hrest
    -- the bridge part of the join is an event of its own
    have hviews := Views.after hjoin (dsaPortBridgeJoin_views (by rw [hjoin.1]; exact h.bridges) hp
      (by rw [hjoin.1]; exact hfree) hbj)
    split at hrest
    · obtain ⟨st₃, hd, heq⟩ := Option.map_eq_some_iff.mp hrest
      cases heq
      exact hviews.before (notify_lagLeave_quiet.trans (dsaPortLagDestroy_quiet hd))
    · cases hrest
      exact hviews

theorem dsaPortLagLeave_views (h : Inv fs st) (hex : dsaPortLagLeave fs ops dp st = some st') :
    Views fs ops dp st st' ∨ Quiet st st' := by
  simp only [dsaPortLagLeave] at hex
  split at hex
  · cases hex
    exact .inr .refl
  · obtain ⟨st₁, hleave, hrest⟩ := Option.bind_eq_some_iff.mp hex
    obtain ⟨b, -, hrest⟩ := Option.bind_eq_some_iff.mp hrest
    obtain ⟨st₂, hd, heq⟩ := Option.map_eq_some_iff.mp hrest
    cases heq
    exact .inl ((dsaPortBridgeLeave_views h.bridges hleave).before
      ((dsaPortLagDestroy_quiet hd).trans notify_lagLeave_quiet))

end Lag

/-! ## Runs -/

/-- The drivers that can be told know the bridges of all ports, and if they are obliging they know
nothing else. -/
def Known (fs : Fabrics) (ops : ℕ → ℕ → DsaSwitchOps σ) (st : State σ) : Prop :=
  ∀ p, ∀ t ∈ fs.trees, ∀ s ∈ fs.switches t, HearsJoin ops t s p →
    (∀ x, placeOf st.bridges p = some x → bridgeView t s p st.calls = some x) ∧
      (Obliging ops → bridgeView t s p st.calls = placeOf st.bridges p)

theorem Known.quiet (h : Known fs ops st) (hq : Quiet st st') : Known fs ops st' := by
  intro p t ht s hs hear
  rw [hq.1, hq.2]
  exact h p t ht s hs hear

theorem Known.views (h : Known fs ops st) (hv : Views fs ops dp st st') : Known fs ops st' := by
  intro p t ht s hs hear
  obtain ⟨hknown, hexact⟩ := h p t ht s hs hear
  by_cases hp : p = dp
  · subst hp
    refine ⟨fun x hx => hv.told x hx t ht s hs hear, fun ho => ?_⟩
    cases hplace : placeOf st'.bridges p with
    | some x => exact hv.told x hplace t ht s hs hear
    | none => exact hv.untold ho hplace t ht s hs hear (hexact ho)
  · rw [hv.others t s p hp, hv.places p hp]
    exact ⟨hknown, hexact⟩

theorem Known.step (h : Known fs ops st) (hi : Inv fs st) (hen : e.enabled fs st)
    (hex : e.run fs ops st = some (err, st')) : Known fs ops st' := by
  cases e with
  | bridgeJoin env dp br => exact h.views (dsaPortBridgeJoin_views hi.bridges hen.1 hen.2 hex)
  | bridgeLeave dp =>
      obtain ⟨st₁, hleave, heq⟩ := Option.map_eq_some_iff.mp hex
      cases heq
      exact h.views (dsaPortBridgeLeave_views hi.bridges hleave)
  | lagJoin mem bridgeDev env dp lagDev => exact h.views (dsaPortLagJoin_views hi hen hex)
  | lagLeave dp =>
      obtain ⟨st₁, hleave, heq⟩ := Option.map_eq_some_iff.mp hex
      cases heq
      rcases dsaPortLagLeave_views hi hleave with hv | hq
      · exact h.views hv
      · exact h.quiet hq
  | lagChange dp linkUp txEnabled =>
      have heq := Option.some.inj hex
      simp only [dsaPortLagChange] at heq
      split at heq
      · cases heq
        exact h
      · split at heq
        · cases heq
          exact h
        · have hq : Quiet st st' := by
            have hst' := congrArg Prod.snd heq
            simp only at hst'
            rw [← hst']
            exact Quiet.trans ⟨rfl, fun _ _ _ => rfl⟩ notify_lagChange_quiet
          exact h.quiet hq

/-- **Drivers know the bridges**: in every run, every driver that can hear of a port's joins takes it to
be in the bridge that it is in, with the right number; and if no driver refuses a join and all hear the
leaves, it takes no other port to be in a bridge. -/
theorem bridge_views_agree (fs : Fabrics) (ops : ℕ → ℕ → DsaSwitchOps σ) (drv : σ) (es : List Event)
    (st : State σ) (hr : (upperMachine fs ops).Run (State.init fs drv) es st) (p : PortRef) (t s : ℕ)
    (ht : t ∈ fs.trees) (hs : s ∈ fs.switches t) (hear : HearsJoin ops t s p) :
    (∀ x, placeOf st.bridges p = some x → bridgeView t s p st.calls = some x) ∧
      (Obliging ops → bridgeView t s p st.calls = placeOf st.bridges p) := by
  have h : Inv fs st ∧ Known fs ops st := by
    refine hr.invariant (I := fun st => Inv fs st ∧ Known fs ops st) ⟨.init fs drv, ?_⟩ ?_
    · exact fun p t _ s _ _ => ⟨(fun x hx => nomatch hx), fun _ => rfl⟩
    · intro st e st' h hen hex
      obtain ⟨err, hrun⟩ := upperMachine_exec hex
      exact ⟨h.1.step hen hrun, h.2.step h.1 hen hrun⟩
  exact h.2 p t ht s hs hear

/-- The driver of the other tree knows the port and its number. -/
theorem bridge_views_agree_twoTrees : ∃ st : State Unit,
    (upperMachine twoTrees fun _ _ => acceptAll).Run (State.init twoTrees ())
      [.bridgeJoin plainJoin ⟨0, 0, 0⟩ 10, .bridgeJoin plainJoin ⟨0, 0, 1⟩ 11,
        .bridgeLeave ⟨0, 0, 1⟩] st ∧
    bridgeView 1 0 ⟨0, 0, 0⟩ st.calls = some (10, 1) ∧
    bridgeView 1 0 ⟨0, 0, 1⟩ st.calls = placeOf st.bridges ⟨0, 0, 1⟩ := by
  have hr : (upperMachine twoTrees fun _ _ => acceptAll).Run (State.init twoTrees ())
      [.bridgeJoin plainJoin ⟨0, 0, 0⟩ 10, .bridgeJoin plainJoin ⟨0, 0, 1⟩ 11,
        .bridgeLeave ⟨0, 0, 1⟩] _ :=
    .cons ⟨by decide, rfl⟩ rfl (.cons ⟨by decide, rfl⟩ rfl (.cons trivial rfl .nil))
  have hear : ∀ p, HearsJoin (fun _ _ => acceptAll) 1 0 p := by
    intro p
    simp [HearsJoin, acceptAll]
  have ho : Obliging fun _ _ => acceptAll := by
    refine ⟨fun _ _ => ⟨_, rfl, fun _ _ _ => rfl⟩, fun _ _ f hf => ?_, fun _ _ _ _ => ?_⟩
    · cases hf
      exact fun _ _ _ => rfl
    · simp [HearsLeave, acceptAll]
  exact ⟨_, hr, (bridge_views_agree twoTrees _ () _ _ hr ⟨0, 0, 0⟩ 1 0 (by decide) (by decide)
    (hear _)).1 (10, 1) rfl, (bridge_views_agree twoTrees _ () _ _ hr ⟨0, 0, 1⟩ 1 0 (by decide)
    (by decide) (hear _)).2 ho⟩

/-! ## Joins that a driver refuses -/

/-- The calls of a broadcast of a join. -/
structure JoinCalls (dp : PortRef) (u : Upper) (old : List UpperCall) (err : ℤ) (calls cs : List UpperCall) :
    Prop where
  eq : calls = old ++ cs
  join : ∀ c ∈ cs, c.op = .bridgeJoin ∧ c.port = dp ∧ c.upper = u
  ok : err = 0 → ∀ c ∈ cs, c.err = 0

/-- The calls of one notifier after the other. -/
theorem notifyChain_joinCalls {ι : Type*} {u : Upper} {event : ι → State σ × Bool → ℤ × State σ × Bool}
    (h : ∀ i a, ∃ cs, JoinCalls dp u a.1.calls (event i a).1 (event i a).2.1.calls cs) (is : List ι)
    (a : State σ × Bool) : ∃ cs, JoinCalls dp u a.1.calls (notifyChain event is a).1
      (notifyChain event is a).2.1.calls cs := by
  induction is generalizing a with
  | nil => exact ⟨[], (List.append_nil _).symm, (fun c hc => nomatch hc), fun _ c hc => nomatch hc⟩
  | cons i is ih =>
      obtain ⟨cs, hcs⟩ := h i a
      by_cases hrc : (event i a).1 = 0
      · rw [notifyChain_cons_of_ok hrc]
        obtain ⟨cs', hcs'⟩ := ih (event i a).2
        refine ⟨cs ++ cs', ?_, fun c hc => ?_, fun h0 c hc => ?_⟩
        · rw [hcs'.eq, hcs.eq, List.append_assoc]
        · rcases List.mem_append.mp hc with hc | hc
          · exact hcs.join c hc
          · exact hcs'.join c hc
        · rcases List.mem_append.mp hc with hc | hc
          · exact hcs.ok hrc c hc
          · exact hcs'.ok h0 c hc
      · rw [notifyChain_cons_of_error hrc]
        exact ⟨cs, hcs⟩

theorem broadcastJoin_calls (fs : Fabrics) (ops : ℕ → ℕ → DsaSwitchOps σ) (dp : PortRef) (u : Upper)
    (st : State σ) : ∃ cs, JoinCalls dp u st.calls (broadcastJoin fs ops dp u st).1
      (broadcastJoin fs ops dp u st).2.1.calls cs := by
  refine notifyChain_joinCalls (fun t a => notifyChain_joinCalls (fun s a => ?_) _ a) _ (st, false)
  rcases dsaSwitchBridgeJoin_calls (ops t s) t s dp u a with hc | ⟨drv', hc⟩
  · refine ⟨[], ?_, (fun c hc => nomatch hc), fun _ c hc => nomatch hc⟩
    rw [hc, List.append_nil]
  · refine ⟨[_], by rw [hc]; rfl, fun c hc' => ?_, fun h0 c hc' => ?_⟩
    · rw [List.mem_singleton.mp hc']
      exact ⟨rfl, rfl, rfl⟩
    · rw [List.mem_singleton.mp hc']
      exact h0

/-- A driver that accepted once in a broadcast knows the bridge. -/
theorem JoinCalls.view {u : Upper} {old calls cs : List UpperCall} (h : JoinCalls dp u old err calls cs)
    {c : UpperCall} (hc : c ∈ cs) (hok : c.err = 0) :
    bridgeView c.dst c.ds dp calls = some (u.dev, u.num) := by
  have hfold : ∀ ds : List UpperCall, (∀ d ∈ ds, d.op = .bridgeJoin ∧ d.port = dp ∧ d.upper = u) →
      ∀ v, v = some (u.dev, u.num) ∨ c ∈ ds →
        ds.foldl (viewStep c.dst c.ds dp) v = some (u.dev, u.num) := by
    intro ds
    induction ds with
    | nil =>
        rintro - v (hv | hmem)
        · exact hv
        · cases hmem
    | cons d ds ih =>
        intro hjoin v hv
        refine ih (fun d' hd' => hjoin d' (List.mem_cons_of_mem _ hd')) _ ?_
        obtain ⟨hop, hport, hupper⟩ := hjoin d List.mem_cons_self
        by_cases hdc : d = c
        · left
          rw [hdc] at hop hport hupper ⊢
          simp [viewStep, hop, hport, hupper, hok]
        · rcases hv with rfl | hv
          · left
            simp only [viewStep, hop, hupper]
            split
            · split <;> rfl
            · rfl
          · exact .inr ((List.mem_cons.mp hv).resolve_left fun h => hdc h.symm)
  rw [h.eq, bridgeView, List.foldl_append]
  exact hfold cs h.join _ (.inr hc)

/-- The calls of a broadcast of a leave. -/
theorem broadcastLeave_calls (fs : Fabrics) (ops : ℕ → ℕ → DsaSwitchOps σ) (dp : PortRef) (u : Upper)
    (st : State σ) : ∃ cs, (broadcastLeave fs ops dp u st).2.calls = st.calls ++ cs ∧
      ∀ c ∈ cs, c.op = .bridgeLeave := by
  refine dsaBroadcast_keeps (P := fun a : State σ => ∃ cs, a.calls = st.calls ++ cs ∧
    ∀ c ∈ cs, c.op = .bridgeLeave) (fun dst ds a h => ?_)
    ⟨[], (List.append_nil _).symm, fun c hc => nomatch hc⟩
  obtain ⟨cs, hcs, hop⟩ := h
  rcases dsaSwitchBridgeLeave_calls (ops dst ds) dst ds dp u a with hc | ⟨drv', hc⟩
  · rw [hc]
    exact ⟨cs, hcs, hop⟩
  · rw [hc]
    refine ⟨cs ++ [⟨dst, ds, .bridgeLeave, dp, u, 0⟩], ?_, fun c hc => ?_⟩
    · rw [← List.append_assoc, ← hcs]
      rfl
    · rcases List.mem_append.mp hc with hc | hc
      · exact hop c hc
      · rw [List.mem_singleton.mp hc]

/-- **A refused join is not taken back**: if a driver refuses a join, nobody is told a leave, so the
drivers that accepted before it go on to take the port to be in the bridge, and the port is in none. -/
theorem refused_join_not_taken_back (fs : Fabrics) (ops : ℕ → ℕ → DsaSwitchOps σ) (drv : σ)
    (es : List Event) (st st' : State σ) (env : JoinEnv) (dp : PortRef) (br : ℕ) (err : ℤ)
    (cs : List UpperCall) (hr : (upperMachine fs ops).Run (State.init fs drv) es st)
    (hex : dsaPortBridgeJoin fs ops env dp br st = some (err, st')) (hcs : st'.calls = st.calls ++ cs)
    (href : ∃ c ∈ cs, c.op = .bridgeJoin ∧ c.err ≠ 0) :
    placeOf st'.bridges dp = none ∧ (∀ c ∈ cs, c.op ≠ .bridgeLeave) ∧
      ∀ c ∈ cs, c.err = 0 → (bridgeView c.dst c.ds dp st'.calls).map Prod.fst = some br := by
  obtain ⟨bad, hbad, hop, hrefused⟩ := href
  have h := (Inv.run hr).bridges
  obtain ⟨-, -, hrun⟩ := dsaPortBridgeJoin_run hex
  generalize hg : st'.bridges = g at hrun ⊢
  rw [hcs] at hrun ⊢
  generalize hc : st.calls ++ cs = calls at hrun ⊢
  cases hrun with
  | refused _ =>
      obtain rfl := List.self_eq_append_right.mp hc.symm
      cases hbad
  | @denied st₁ a b hask hj =>
      obtain ⟨js, hjs⟩ := broadcastJoin_calls fs ops dp (st₁.bridgeCopy a b) st₁
      rw [hask.calls] at hjs
      obtain rfl : cs = js := List.append_cancel_left (hc.trans hjs.eq)
      have hdev : b.dev.2 = br := by
        have hdev := h.toLive.devOf_created (h.finds _ _) hask.created dp
        rw [if_pos rfl, Groups.devOf, Groups.fieldOf_eq _ hask.member hask.heap] at hdev
        rw [Option.some.inj hdev]
      refine ⟨placeOf_eq_none ?_, fun c hc => ?_, fun c hc hok => ?_⟩
      · rw [Groups.member_leave, Function.update_self]
      · rw [(hjs.join c hc).1]
        simp
      · rw [hjs.view hc hok, Option.map_some]
        exact congrArg some hdev
  | @undone st₁ st₂ a b hask hj hst₂ _ =>
      -- nobody refused, and leaves are not refused
      obtain ⟨js, hjs⟩ := broadcastJoin_calls fs ops dp (st₁.bridgeCopy a b) st₁
      obtain ⟨ls, hls, hleaves⟩ := broadcastLeave_calls fs ops dp (st₁.bridgeCopy a b) st₂
      rw [hst₂, hjs.eq, hask.calls, List.append_assoc] at hls
      obtain rfl := List.append_cancel_left (hc.trans hls)
      rcases List.mem_append.mp hbad with hmem | hmem
      · exact absurd (hjs.ok hj bad hmem) hrefused
      · rw [hleaves bad hmem] at hop
        cases hop
  | @joined st₁ a b hask hj =>
      obtain ⟨js, hjs⟩ := broadcastJoin_calls fs ops dp (st₁.bridgeCopy a b) st₁
      rw [hask.calls] at hjs
      obtain rfl : cs = js := List.append_cancel_left (hc.trans hjs.eq)
      exact absurd (hjs.ok hj bad hbad) hrefused

/-- The driver of the second tree refuses. -/
def refuseCross (t _ : ℕ) : DsaSwitchOps Unit :=
  if t = 1 then { acceptAll with crosschipBridgeJoin := some fun _ _ s => (-95, s) } else acceptAll

theorem refused_join_not_taken_back_twoTrees : ∃ st' : State Unit, ∃ cs,
    dsaPortBridgeJoin twoTrees refuseCross plainJoin ⟨0, 0, 0⟩ 10 (State.init twoTrees ()) =
      some (-95, st') ∧ st'.calls = [] ++ cs ∧ placeOf st'.bridges ⟨0, 0, 0⟩ = none ∧
    (bridgeView 0 0 ⟨0, 0, 0⟩ st'.calls).map Prod.fst = some 10 := by
  have hex : dsaPortBridgeJoin twoTrees refuseCross plainJoin ⟨0, 0, 0⟩ 10 (State.init twoTrees ()) =
      some (-95, _) := rfl
  obtain ⟨hnone, -, hview⟩ := refused_join_not_taken_back twoTrees refuseCross () [] _ _ plainJoin
    ⟨0, 0, 0⟩ 10 (-95) [⟨0, 0, .bridgeJoin, ⟨0, 0, 0⟩, ⟨10, 1, false⟩, 0⟩,
      ⟨1, 0, .bridgeJoin, ⟨0, 0, 0⟩, ⟨10, 1, false⟩, -95⟩] .nil hex rfl
    ⟨_, List.mem_cons_of_mem _ List.mem_cons_self, rfl, by simp⟩
  exact ⟨_, _, hex, rfl, hnone, hview _ List.mem_cons_self rfl⟩

end Events

end Axm57104.Dsa.Uppers
