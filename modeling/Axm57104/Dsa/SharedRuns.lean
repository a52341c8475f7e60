import Axm57104.Dsa.Shared

/-!
# Runs of notifications

Whatever the drivers answer and whichever allocations fail, a driver is asked to add a counted object
only while it is not installed and to delete it only while it is, and an object is installed exactly as
long as it has references. As long as all notifications succeed, the references of an object are the
adds less the deletes. A notification that fails is not undone.

The addresses of a LAG are counted once for all switches, not once for each of them: if the LAG has
ports of several switches, an address is added to the first of them and deleted from the last.
-/

namespace Axm57104.Dsa.Fabric

open Common

variable {σ : Type*}

/-! ## References after a notification -/

section Refs

variable {dst : DsaTree} {mem : PortId → Bool} {op : DrvOp} {lacks : List Obj → Prop} {o : Obj}
  {os : List Obj} {st : State σ} {a : ℤ × State σ}

/-- A request for another object leaves the references of this one alone. -/
theorem Effect.refs_of_ne {o' : Obj} (h : Effect dst mem op o' st a) (hne : o ≠ o') :
    a.2.refs o = st.refs o := by
  by_cases hc : dst.counted o' = true ∧ a.1 = 0
  · rw [(h.ok hc.1 hc.2).1, Function.update_of_ne hne]
  · rw [h.same]
    rwa [not_and_or, Bool.not_eq_true] at hc

/-- The calls to drivers that were accepted, as the objects they were about. -/
def acceptedObjs (cs : List DrvCall) : List Obj := (cs.filter fun c => c.rc = 0).map DrvCall.obj

/-- The objects `done` were served and nothing was taken back. The calls `cs` were made meanwhile: none of
them asks for the opposite, each one that was accepted is for one of these objects, and each object that
is not counted has one. -/
structure FirstPart (dst : DsaTree) (op : DrvOp) (done : List Obj) (cs : List DrvCall)
    (st st' : State σ) : Prop where
  refs : ∀ o, dst.counted o = true → st'.refs o = op.apply^[done.count o] (st.refs o)
  calls : st'.calls = st.calls ++ cs
  ops : ∀ c ∈ cs, c.op = op
  accepted : (acceptedObjs cs).Sublist done
  direct : (done.filter fun o => !dst.counted o).Sublist (acceptedObjs cs)

theorem Refused.append {cs : List DrvCall} {refs : ℕ∞} {rc : ℤ} (h : Refused dst mem op o refs cs rc)
    (cs' : List DrvCall) : Refused dst mem op o refs (cs' ++ cs) rc := by
  cases h with
  | driver hlast => exact .driver (by rw [List.getLast?_append, hlast]; rfl)
  | noMemory hop hc hrefs hp hm => exact .noMemory hop hc hrefs hp hm
  | unknown hop hc hrefs => exact .unknown hop hc hrefs

/-- The accepted call of a request that succeeded. -/
theorem Asked.acceptedObjs {c : Option DrvCall} (h : Asked dst mem op o st a c) (h0 : a.1 = 0) :
    (acceptedObjs c.toList).Sublist [o] ∧
      (dst.counted o = false → Fabric.acceptedObjs c.toList = [o]) := by
  cases c with
  | none => exact ⟨List.nil_sublist _, fun hc => absurd rfl (h.direct hc)⟩
  | some x =>
      obtain ⟨-, hobj, hrc⟩ := h.about x rfl
      have heq : Fabric.acceptedObjs (some x).toList = [o] := by
        simp [Fabric.acceptedObjs, hrc, h0, hobj]
      rw [heq]
      exact ⟨List.Sublist.refl _, fun _ => rfl⟩

/-- One more object is served before the others. -/
theorem FirstPart.cons {o' : Obj} {done : List Obj} {cs : List DrvCall} {c : Option DrvCall}
    {st₁ st' : State σ} (he : Effect dst mem op o' st (0, st₁)) (hc : Asked dst mem op o' st (0, st₁) c)
    (hpart : FirstPart dst op done cs st₁ st') :
    FirstPart dst op (o' :: done) (c.toList ++ cs) st st' := by
  obtain ⟨hsub, hdirect⟩ := hc.acceptedObjs rfl
  have haccepted : acceptedObjs (c.toList ++ cs) = acceptedObjs c.toList ++ acceptedObjs cs := by
    rw [acceptedObjs, List.filter_append, List.map_append]
    rfl
  refine ⟨fun o ho => ?_, ?_, fun x hx => ?_, ?_, ?_⟩
  · rw [hpart.refs o ho]
    by_cases heq : o' = o
    · subst heq
      rw [List.count_cons_self, Function.iterate_succ_apply, (he.ok ho rfl).1, Function.update_self]
    · rw [List.count_cons_of_ne heq, he.refs_of_ne (Ne.symm heq)]
  · rw [hpart.calls, hc.calls, List.append_assoc]
  · rcases List.mem_append.mp hx with hx | hx
    · exact (hc.about x (Option.mem_toList.mp hx)).1
    · exact hpart.ops x hx
  · rw [haccepted]
    exact hsub.append hpart.accepted
  · rw [haccepted]
    cases hcount : dst.counted o' with
    | true =>
        rw [List.filter_cons_of_neg (by simp [hcount])]
        exact hpart.direct.trans (List.sublist_append_right _ _)
    | false =>
        rw [List.filter_cons_of_pos (by simp [hcount]), hdirect hcount]
        exact hpart.direct.cons_cons o'

/-- An add that succeeds counts once for each time it names the object, as long as that fits. -/
theorem Served.refs_add (h : Served dst mem .add lacks os st a) (hrc : a.1 = 0) (ho : dst.counted o = true)
    {m : ℕ} (hm : st.refs o = m) (hmax : m + os.count o ≤ 2147483647) :
    a.2.refs o = (m + os.count o : ℕ) := by
  induction h generalizing m with
  | nil => exact hm
  | @cons o' os st st' a he _ ih =>
      by_cases heq : o' = o
      · subst heq
        rw [List.count_cons_self] at hmax ⊢
        have hstep : st'.refs o' = (m + 1 : ℕ) := by
          rw [(he.ok ho rfl).1, Function.update_self, hm]
          exact oneMore_natCast (by omega)
        rw [ih hrc hstep (by omega)]
        congr 1
        omega
      · rw [List.count_cons_of_ne heq] at hmax ⊢
        exact ih hrc ((he.refs_of_ne (Ne.symm heq)).trans hm) hmax
  | failed _ h0 => exact absurd hrc h0
  | unsupported _ => exact absurd hrc (by norm_num)

/-- A delete that succeeds gives back a reference each time it names the object. -/
theorem Served.refs_del (h : Served dst mem .del lacks os st a) (hrc : a.1 = 0) (ho : dst.counted o = true)
    {m : ℕ} (hm : st.refs o = m) : os.count o ≤ m ∧ a.2.refs o = (m - os.count o : ℕ) := by
  induction h generalizing m with
  | nil => exact ⟨Nat.zero_le _, hm⟩
  | @cons o' os st st' a he _ ih =>
      by_cases heq : o' = o
      · subst heq
        obtain ⟨hrefs, hpos⟩ := he.ok ho rfl
        have hm0 : m ≠ 0 := by
          rintro rfl
          exact hpos rfl hm
        have hstep : st'.refs o' = (m - 1 : ℕ) := by
          rw [hrefs, Function.update_self, hm]
          exact (ENat.natCast_sub m 1).symm
        obtain ⟨hle, heq⟩ := ih hrc hstep
        rw [List.count_cons_self]
        refine ⟨by omega, ?_⟩
        rw [heq]
        congr 1
        omega
      · rw [List.count_cons_of_ne heq]
        exact ih hrc ((he.refs_of_ne (Ne.symm heq)).trans hm)
  | failed _ h0 => exact absurd hrc h0
  | unsupported _ => exact absurd hrc (by norm_num)

end Refs

/-! ## Runs of notifications -/

/-- An access through a null pointer. -/
inductive FabricFault
  | nullPointer
  deriving DecidableEq, Repr

/-- Notifications in any order, about any port and any object, each with the allocations that succeed. -/
def fabricMachine (dst : DsaTree) (ops : ℕ → DsaSwitchOps σ) :
    Machine (State σ) ((PortId → Bool) × Notification) FabricFault where
  enabled _ _ := True
  exec st e :=
    match dsaTreeNotify dst ops e.1 e.2 st with
    | none => .error .nullPointer
    | some a => .ok a.2

/-- A tree whose lists are empty. -/
def fresh (s : σ) : State σ := ⟨fun _ => [], s, []⟩

section Runs

variable {dst : DsaTree} {ops : ℕ → DsaSwitchOps σ} {s : σ} {st : State σ}
  {es : List ((PortId → Bool) × Notification)}

theorem sound_fresh : Sound dst (fresh s) where
  wellFormed _ := RefTable.wellFormed_nil
  installed := ⟨∅, rfl, fun _ _ => iff_of_false (Finset.notMem_empty _) fun h => h rfl⟩

theorem fabricMachine_exec {e : (PortId → Bool) × Notification} {st' : State σ}
    (h : (fabricMachine dst ops).exec st e = .ok st') :
    ∃ rc, dsaTreeNotify dst ops e.1 e.2 st = some (rc, st') := by
  simp only [fabricMachine] at h
  split at h
  · cases h
  · rename_i a ha
    cases h
    exact ⟨a.1, ha⟩

theorem Sound.of_run (hr : (fabricMachine dst ops).Run (fresh s) es st) : Sound dst st := by
  refine hr.invariant sound_fresh fun hst _ hex => ?_
  obtain ⟨rc, h⟩ := fabricMachine_exec hex
  exact (dsaTreeNotify_served hst h).sound hst

/-- **The drivers are asked once for each object.** Whatever the drivers answer and whichever
allocations fail, in every run a driver is asked to add a counted object only while it is not installed
and to delete it only while it is, and what is installed is what has references. -/
theorem shared_installed_iff_refs (hr : (fabricMachine dst ops).Run (fresh s) es st) :
    ∃ held, settle (booked dst st.calls) ∅ = .ok held ∧
      ∀ o, dst.counted o = true → (o ∈ held ↔ st.refs o ≠ 0) :=
  (Sound.of_run hr).installed

/-- One switch with two user ports and a CPU port. -/
def smallTree : DsaTree where
  switches := [0]
  numPorts _ := 3
  ports := [⟨⟨0, 0⟩, .user, some ⟨0, 2⟩, false, none⟩, ⟨⟨0, 1⟩, .user, some ⟨0, 2⟩, false, none⟩,
    ⟨⟨0, 2⟩, .cpu, none, false, none⟩]
  rtable := []
  unique := by simp

/-- A driver that takes two adds. -/
def countingOps : DsaSwitchOps ℕ where
  portFdbAdd := none
  portFdbDel := none
  lagFdbAdd := none
  lagFdbDel := none
  portMdbAdd := none
  portMdbDel := none
  portVlanAdd := some fun _ _ s => if s < 2 then (0, s + 1) else (-28, s)
  portVlanDel := some fun _ _ s => (0, s - 1)

/-- VLAN 7 for the CPU, on behalf of one user port and then the other. -/
def hostVlans : List ((PortId → Bool) × Notification) :=
  [(fun _ => true, .hostVlanAdd ⟨⟨0, 0⟩, .user, some ⟨0, 2⟩, false, none⟩ ⟨⟨7, 0⟩, false⟩),
    (fun _ => true, .hostVlanAdd ⟨⟨0, 1⟩, .user, some ⟨0, 2⟩, false, none⟩ ⟨⟨7, 0⟩, false⟩)]

theorem shared_installed_iff_refs_hostVlans :
    ∃ st, (fabricMachine smallTree fun _ => countingOps).Run (fresh 0) hostVlans st ∧
      st.calls.length = 1 ∧ ∃ held, settle (booked smallTree st.calls) ∅ = .ok held ∧
        ∀ o, smallTree.counted o = true → (o ∈ held ↔ st.refs o ≠ 0) := by
  have hr : (fabricMachine smallTree fun _ => countingOps).Run (fresh 0) hostVlans _ :=
    .cons trivial rfl (.cons trivial rfl .nil)
  exact ⟨_, hr, rfl, shared_installed_iff_refs hr⟩

/-- The notification returns zero. -/
def succeeds (dst : DsaTree) (ops : ℕ → DsaSwitchOps σ) (st : State σ)
    (e : (PortId → Bool) × Notification) : Prop :=
  (dsaTreeNotify dst ops e.1 e.2 st).map Prod.fst = some 0

/-- How often the notifications name an object to add it, or to delete it. -/
def requested (dst : DsaTree) (op : DrvOp) (es : List ((PortId → Bool) × Notification)) (o : Obj) : ℕ :=
  (es.map fun e => if e.2.op = op then (e.2.objects dst).count o else 0).sum

theorem requested_append (op : DrvOp) (e : (PortId → Bool) × Notification) (o : Obj) :
    requested dst op (es ++ [e]) o =
      requested dst op es o + if e.2.op = op then (e.2.objects dst).count o else 0 := by
  rw [requested, List.map_append, List.sum_append]
  simp [requested]

/-- **References are outstanding requests.** In a run of notifications that all return zero, the
references of a counted object are the adds that named it less the deletes, and no more is deleted than
was added. -/
theorem shared_refs_eq_outstanding
    (hr : ((fabricMachine dst ops).restrict (succeeds dst ops)).Run (fresh s) es st) {o : Obj}
    (ho : dst.counted o = true) (hmax : requested dst .add es o ≤ 2147483647) :
    requested dst .del es o ≤ requested dst .add es o ∧
      st.refs o = (requested dst .add es o - requested dst .del es o : ℕ) := by
  induction hr with
  | nil => exact ⟨le_rfl, rfl⟩
  | @snoc es t u e hr hen hex ih =>
      have hst := Sound.of_run hr.of_restrict
      obtain ⟨rc, h⟩ := fabricMachine_exec hex
      have hrc : rc = 0 := by
        have hsucc := hen.2
        rw [succeeds, h] at hsucc
        exact Option.some.inj hsucc
      subst hrc
      have hserved := dsaTreeNotify_served hst h
      rw [requested_append] at hmax
      obtain ⟨hle, hrefs⟩ := ih (by omega)
      rw [requested_append, requested_append]
      cases hop : e.2.op with
      | add =>
          rw [hop] at hserved hmax
          rw [if_pos rfl] at hmax
          rw [if_pos rfl, if_neg (by simp)]
          refine ⟨by omega, ?_⟩
          rw [hserved.refs_add rfl ho hrefs (by omega)]
          congr 1
          omega
      | del =>
          rw [hop] at hserved
          obtain ⟨hcount, hrefs'⟩ := hserved.refs_del rfl ho hrefs
          rw [if_pos rfl, if_neg (by simp)]
          refine ⟨by omega, ?_⟩
          rw [hrefs']
          congr 1
          omega

theorem shared_refs_eq_outstanding_hostVlans :
    ∃ st, ((fabricMachine smallTree fun _ => countingOps).restrict
          (succeeds smallTree fun _ => countingOps)).Run (fresh 0) hostVlans st ∧
      0 ≤ requested smallTree .add hostVlans ⟨.vlans ⟨0, 2⟩, .vlan 7⟩ ∧
        st.refs ⟨.vlans ⟨0, 2⟩, .vlan 7⟩ = 2 := by
  have hr : ((fabricMachine smallTree fun _ => countingOps).restrict
      (succeeds smallTree fun _ => countingOps)).Run (fresh 0) hostVlans _ :=
    .cons ⟨trivial, rfl⟩ rfl (.cons ⟨trivial, rfl⟩ rfl .nil)
  have h := shared_refs_eq_outstanding hr (o := ⟨.vlans ⟨0, 2⟩, .vlan 7⟩) rfl
    (by decide)
  exact ⟨_, hr, h.1, h.2⟩

end Runs

/-! ## LAGs over several switches -/

section Lag

variable {dst : DsaTree} {st st' : State σ} {ds : ℕ} {o : Obj} {f : σ → ℤ × σ} {mem : Bool}

/-- An add that succeeds reaches the driver if the object is new. -/
theorem acquire_ok (hst : Sound dst st) (h : st.acquire ds o mem f = (0, st')) :
    st'.calls = st.calls ++ if st.refs o = 0 then [⟨ds, .add, o, 0⟩] else [] := by
  rcases (hst.wellFormed o.list).acquire_cases o.key mem ENOMEM (callDriver ds .add o f)
      (st.drv, st.calls) with
    ⟨hne, l', heq, -⟩ | ⟨-, -, heq⟩ | ⟨-, -, hrc, heq⟩ | ⟨hz, -, hrc, l', heq, -⟩
  all_goals
    rw [State.acquire, State.with_list_eq heq] at h
    obtain ⟨h0, rfl⟩ := Prod.mk.inj h
  · have hrefs : st.refs o ≠ 0 := hne
    rw [if_neg hrefs, List.append_nil]
  · norm_num at h0
  · exact absurd h0 hrc
  · rw [show st.refs o = 0 from hz, if_pos rfl]
    simp only [callDriver] at hrc ⊢
    rw [hrc]

/-- An add for which there is memory and that the driver does not refuse succeeds. -/
theorem acquire_succeeds (ds : ℕ) (hst : Sound dst st) (hmem : mem = true) (hf : ∀ s, (f s).1 = 0) :
    ∃ st', st.acquire ds o mem f = (0, st') := by
  rcases (hst.wellFormed o.list).acquire_cases o.key mem ENOMEM (callDriver ds .add o f)
      (st.drv, st.calls) with
    ⟨-, l', heq, -⟩ | ⟨-, hm, -⟩ | ⟨-, -, hrc, -⟩ | ⟨-, -, -, l', heq, -⟩
  · rw [State.acquire, State.with_list_eq heq]
    exact ⟨_, rfl⟩
  · rw [hmem] at hm
    cases hm
  · exact absurd (hf st.drv) hrc
  · rw [State.acquire, State.with_list_eq heq]
    exact ⟨_, rfl⟩

/-- A delete that succeeds reaches the driver if the reference is the last one. -/
theorem release_ok (hst : Sound dst st) (h : st.release ds o f = (0, st')) :
    st'.calls = st.calls ++ if st.refs o = 1 then [⟨ds, .del, o, 0⟩] else [] := by
  rcases (hst.wellFormed o.list).release_cases o.key ENOENT (callDriver ds .del o f)
      (st.drv, st.calls) with
    ⟨-, heq⟩ | ⟨-, hone, l', heq, -⟩ | ⟨-, hrc, heq⟩ | ⟨hone, hrc, l', heq, -⟩
  all_goals
    rw [State.release, State.with_list_eq heq] at h
    obtain ⟨h0, rfl⟩ := Prod.mk.inj h
  · norm_num at h0
  · have hrefs : st.refs o ≠ 1 := hone
    rw [if_neg hrefs, List.append_nil]
  · exact absurd h0 hrc
  · rw [show st.refs o = 1 from hone, if_pos rfl]
    simp only [callDriver] at hrc ⊢
    rw [hrc]

/-- A delete of something that is there succeeds if the driver does not refuse it. -/
theorem release_succeeds (ds : ℕ) (hst : Sound dst st) (h0 : st.refs o ≠ 0) (hf : ∀ s, (f s).1 = 0) :
    ∃ st', st.release ds o f = (0, st') := by
  rcases (hst.wellFormed o.list).release_cases o.key ENOENT (callDriver ds .del o f)
      (st.drv, st.calls) with
    ⟨hz, -⟩ | ⟨-, -, l', heq, -⟩ | ⟨-, hrc, -⟩ | ⟨-, -, l', heq, -⟩
  · exact absurd hz h0
  · rw [State.release, State.with_list_eq heq]
    exact ⟨_, rfl⟩
  · exact absurd (hf st.drv) hrc
  · rw [State.release, State.with_list_eq heq]
    exact ⟨_, rfl⟩

/-- The switches of the chain with a port in the LAG. -/
def lagSwitches (dst : DsaTree) (lag : ℕ) (chain : List ℕ) : List ℕ :=
  chain.filter fun ds => (lagMember dst ds lag).isSome

variable {ops : ℕ → DsaSwitchOps σ} {lag : ℕ} {addr : MacAddr} {vid : ℕ} {db : DsaDb}
  {mems : PortId → Bool} {chain : List ℕ}

theorem lagSwitches_cons_none (h : lagMember dst ds lag = none) :
    lagSwitches dst lag (ds :: chain) = lagSwitches dst lag chain :=
  List.filter_cons_of_neg (by simp [h])

theorem lagSwitches_cons_some {p : DsaPort} (h : lagMember dst ds lag = some p) :
    lagSwitches dst lag (ds :: chain) = ds :: lagSwitches dst lag chain :=
  List.filter_cons_of_pos (by simp [h])

/-- A switch that returns zero has counted the address if it has a port in the LAG. -/
theorem lagFdbAdd_ok
    (h : dsaSwitchEvent dst (ops ds) mems ds (.lagFdbAdd lag addr vid db) st = some (0, st')) :
    lagMember dst ds lag = none ∧ st' = st ∨ ∃ p f, lagMember dst ds lag = some p ∧
      st.acquire ds ⟨.lagFdbs lag, .mac addr vid db.key⟩ (mems p.id) f = (0, st') := by
  simp only [dsaSwitchEvent, dsaSwitchLagFdbAdd] at h
  split at h
  · cases h
  · next f _ =>
    split at h
    · next p hp => exact .inr ⟨p, _, hp, Option.some.inj h⟩
    · next hnone =>
      cases h
      exact .inl ⟨hnone, rfl⟩

theorem lagFdbDel_ok
    (h : dsaSwitchEvent dst (ops ds) mems ds (.lagFdbDel lag addr vid db) st = some (0, st')) :
    lagMember dst ds lag = none ∧ st' = st ∨ ∃ p f, lagMember dst ds lag = some p ∧
      st.release ds ⟨.lagFdbs lag, .mac addr vid db.key⟩ f = (0, st') := by
  simp only [dsaSwitchEvent, dsaSwitchLagFdbDel] at h
  split at h
  · cases h
  · next f _ =>
    split at h
    · next p hp => exact .inr ⟨p, _, hp, Option.some.inj h⟩
    · next hnone =>
      cases h
      exact .inl ⟨hnone, rfl⟩

/-- A chain that returns zero: its first switch does, and the others. -/
theorem notifyChain_cons_ok {event : ℕ → State σ → Option (ℤ × State σ)}
    (h : notifyChain event (ds :: chain) st = some (0, st')) :
    ∃ st₁, event ds st = some (0, st₁) ∧ notifyChain event chain st₁ = some (0, st') := by
  rw [notifyChain, Option.bind_eq_some_iff] at h
  obtain ⟨⟨rc, st₁⟩, hevent, h⟩ := h
  by_cases hrc : rc = 0
  · subst hrc
    exact ⟨st₁, hevent, h⟩
  · rw [if_pos hrc] at h
    cases h
    exact absurd rfl hrc

/-- Of the switches in the LAG the first adds the address, unless it is known already. -/
theorem lagChain_add (hst : Sound dst st) {m : ℕ}
    (hm : st.refs ⟨.lagFdbs lag, .mac addr vid db.key⟩ = m)
    (hmax : m + (lagSwitches dst lag chain).length ≤ 2147483647)
    (h : notifyChain (fun ds => dsaSwitchEvent dst (ops ds) mems ds (.lagFdbAdd lag addr vid db))
      chain st = some (0, st')) :
    Sound dst st' ∧
      st'.refs ⟨.lagFdbs lag, .mac addr vid db.key⟩ = (m + (lagSwitches dst lag chain).length : ℕ) ∧
      st'.calls = st.calls ++ if m = 0 then (lagSwitches dst lag chain).head?.toList.map
        (⟨·, .add, ⟨.lagFdbs lag, .mac addr vid db.key⟩, 0⟩) else [] := by
  induction chain generalizing st m with
  | nil =>
      cases h
      exact ⟨hst, hm, by simp [lagSwitches]⟩
  | cons ds chain ih =>
      obtain ⟨st₁, hevent, hrest⟩ := notifyChain_cons_ok h
      rcases lagFdbAdd_ok hevent with ⟨hp, rfl⟩ | ⟨p, f, hp, hacq⟩
      · rw [lagSwitches_cons_none hp] at hmax ⊢
        exact ih hst hm hmax hrest
      · rw [lagSwitches_cons_some hp] at hmax ⊢
        rw [List.length_cons] at hmax ⊢
        have hfills : dst.fills p.id (.lagFdbs lag) :=
          ⟨p, (lagMember_spec hp).1, rfl, (lagMember_spec hp).2⟩
        have heff := Sound.acquire ds f hst (o := ⟨.lagFdbs lag, .mac addr vid db.key⟩) rfl mems
          hfills
        rw [hacq] at heff
        have hm₁ : st₁.refs ⟨.lagFdbs lag, .mac addr vid db.key⟩ = (m + 1 : ℕ) := by
          rw [(heff.ok rfl rfl).1, Function.update_self, hm]
          exact oneMore_natCast (by omega)
        obtain ⟨hst', hrefs, hcalls⟩ := ih heff.sound hm₁ (by omega) hrest
        refine ⟨hst', ?_, ?_⟩
        · rw [hrefs]
          congr 1
          omega
        · rw [hcalls, acquire_ok hst hacq, if_neg (Nat.succ_ne_zero m), List.append_nil, hm]
          simp only [Nat.cast_eq_zero]
          rfl

/-- Of the switches in the LAG the last deletes the address. -/
theorem lagChain_del (hst : Sound dst st)
    (hm : st.refs ⟨.lagFdbs lag, .mac addr vid db.key⟩ = ((lagSwitches dst lag chain).length : ℕ))
    (h : notifyChain (fun ds => dsaSwitchEvent dst (ops ds) mems ds (.lagFdbDel lag addr vid db))
      chain st = some (0, st')) :
    st'.refs ⟨.lagFdbs lag, .mac addr vid db.key⟩ = 0 ∧
      st'.calls = st.calls ++ (lagSwitches dst lag chain).getLast?.toList.map
        (⟨·, .del, ⟨.lagFdbs lag, .mac addr vid db.key⟩, 0⟩) := by
  induction chain generalizing st with
  | nil =>
      cases h
      exact ⟨hm, by simp [lagSwitches]⟩
  | cons ds chain ih =>
      obtain ⟨st₁, hevent, hrest⟩ := notifyChain_cons_ok h
      rcases lagFdbDel_ok hevent with ⟨hp, rfl⟩ | ⟨p, f, hp, hrel⟩
      · rw [lagSwitches_cons_none hp] at hm ⊢
        exact ih hst hm hrest
      · rw [lagSwitches_cons_some hp] at hm ⊢
        rw [List.length_cons] at hm
        have heff := Sound.release ds f hst (o := ⟨.lagFdbs lag, .mac addr vid db.key⟩) rfl mems
        rw [hrel] at heff
        have hm₁ : st₁.refs ⟨.lagFdbs lag, .mac addr vid db.key⟩ =
            ((lagSwitches dst lag chain).length : ℕ) := by
          rw [(heff.ok rfl rfl).1, Function.update_self, hm]
          exact (ENat.natCast_sub _ 1).symm
        obtain ⟨hrefs, hcalls⟩ := ih heff.sound hm₁ hrest
        refine ⟨hrefs, ?_⟩
        rw [hcalls, release_ok hst hrel, hm]
        -- the last reference is the one of the last switch
        cases hl : lagSwitches dst lag chain with
        | nil => simp
        | cons d ds' => simp [List.getLast?_cons_cons]

/-- The drivers have the operations for LAGs, and none of them fails. -/
structure LagOps (ops : ℕ → DsaSwitchOps σ) : Prop where
  add : ∀ ds, ∃ f, (ops ds).lagFdbAdd = some f ∧ ∀ lag addr vid db s, (f lag addr vid db s).1 = 0
  del : ∀ ds, ∃ f, (ops ds).lagFdbDel = some f ∧ ∀ lag addr vid db s, (f lag addr vid db s).1 = 0

theorem LagOps.chain_add (hops : LagOps ops) (hmem : ∀ p, mems p = true) (chain : List ℕ)
    (hst : Sound dst st) : ∃ st', notifyChain (fun ds =>
      dsaSwitchEvent dst (ops ds) mems ds (.lagFdbAdd lag addr vid db)) chain st = some (0, st') := by
  induction chain generalizing st with
  | nil => exact ⟨st, rfl⟩
  | cons ds chain ih =>
      obtain ⟨f, hf, hrc⟩ := hops.add ds
      have hevent : ∃ st₁, dsaSwitchEvent dst (ops ds) mems ds (.lagFdbAdd lag addr vid db) st =
          some (0, st₁) := by
        simp only [dsaSwitchEvent, dsaSwitchLagFdbAdd, hf, dsaSwitchDoLagFdbAdd]
        split
        · next p _ =>
          obtain ⟨st₁, h₁⟩ := acquire_succeeds (o := ⟨.lagFdbs lag, .mac addr vid db.key⟩) ds hst
            (hmem p.id) (hrc lag addr vid db)
          exact ⟨st₁, congrArg some h₁⟩
        · exact ⟨st, rfl⟩
      obtain ⟨st₁, h₁⟩ := hevent
      obtain ⟨st', h⟩ := ih ((dsaSwitchEvent_served hst h₁).sound hst)
      refine ⟨st', ?_⟩
      simp only [notifyChain, h₁]
      exact h

theorem LagOps.chain_del (hops : LagOps ops) (mems : PortId → Bool) (chain : List ℕ)
    (hst : Sound dst st)
    (hm : st.refs ⟨.lagFdbs lag, .mac addr vid db.key⟩ = ((lagSwitches dst lag chain).length : ℕ)) :
    ∃ st', notifyChain (fun ds =>
      dsaSwitchEvent dst (ops ds) mems ds (.lagFdbDel lag addr vid db)) chain st = some (0, st') := by
  induction chain generalizing st with
  | nil => exact ⟨st, rfl⟩
  | cons ds chain ih =>
      obtain ⟨f, hf, hrc⟩ := hops.del ds
      have hevent : ∃ st₁, dsaSwitchEvent dst (ops ds) mems ds (.lagFdbDel lag addr vid db) st =
          some (0, st₁) ∧ Sound dst st₁ ∧ st₁.refs ⟨.lagFdbs lag, .mac addr vid db.key⟩ =
            ((lagSwitches dst lag chain).length : ℕ) := by
        simp only [dsaSwitchEvent, dsaSwitchLagFdbDel, hf, dsaSwitchDoLagFdbDel]
        split
        · next p hp =>
          rw [lagSwitches_cons_some hp, List.length_cons] at hm
          obtain ⟨st₁, h₁⟩ := release_succeeds (o := ⟨.lagFdbs lag, .mac addr vid db.key⟩) ds hst
            (by rw [hm]; exact_mod_cast Nat.succ_ne_zero (lagSwitches dst lag chain).length) (hrc lag addr vid db)
          have heff := hst.release ds (f lag addr vid db)
            (o := ⟨.lagFdbs lag, .mac addr vid db.key⟩) rfl mems
          rw [h₁] at heff
          refine ⟨st₁, congrArg some h₁, heff.sound, ?_⟩
          rw [(heff.ok rfl rfl).1, Function.update_self, hm]
          exact (ENat.natCast_sub _ 1).symm
        · next hp =>
          rw [lagSwitches_cons_none hp] at hm
          exact ⟨st, rfl, hst, hm⟩
      obtain ⟨st₁, h₁, hst₁, hm₁⟩ := hevent
      obtain ⟨st', h⟩ := ih hst₁ hm₁
      refine ⟨st', ?_⟩
      simp only [notifyChain, h₁]
      exact h

/-- **An address of a LAG over several switches.** If both notifications return zero, as they do if every
driver has both operations, no driver refuses and no allocation fails, the address is added to the first
switch of the chain that has a port in the LAG, and deleted from the last one. -/
theorem lag_fdb_first_and_last {s : σ} {es : List ((PortId → Bool) × Notification)}
    (hr : (fabricMachine dst ops).Run (fresh s) es st)
    (hnew : st.refs ⟨.lagFdbs lag, .mac addr vid db.key⟩ = 0)
    (hmax : dst.switches.length ≤ 2147483647) :
    (∀ st₁ st₂, dsaTreeNotify dst ops mems (.lagFdbAdd lag addr vid db) st = some (0, st₁) →
      dsaTreeNotify dst ops mems (.lagFdbDel lag addr vid db) st₁ = some (0, st₂) →
      st₂.refs ⟨.lagFdbs lag, .mac addr vid db.key⟩ = 0 ∧
      st₁.calls = st.calls ++ (lagSwitches dst lag dst.switches).head?.toList.map
        (⟨·, .add, ⟨.lagFdbs lag, .mac addr vid db.key⟩, 0⟩) ∧
      st₂.calls = st₁.calls ++ (lagSwitches dst lag dst.switches).getLast?.toList.map
        (⟨·, .del, ⟨.lagFdbs lag, .mac addr vid db.key⟩, 0⟩)) ∧
    (LagOps ops → (∀ p, mems p = true) → ∃ st₁ st₂,
      dsaTreeNotify dst ops mems (.lagFdbAdd lag addr vid db) st = some (0, st₁) ∧
      dsaTreeNotify dst ops mems (.lagFdbDel lag addr vid db) st₁ = some (0, st₂)) := by
  have hst := Sound.of_run hr
  have hlen : 0 + (lagSwitches dst lag dst.switches).length ≤ 2147483647 := by
    rw [Nat.zero_add]
    exact (List.length_filter_le _ _).trans hmax
  have hadded : ∀ st₁, dsaTreeNotify dst ops mems (.lagFdbAdd lag addr vid db) st = some (0, st₁) → _ :=
    fun st₁ h => lagChain_add hst (m := 0) hnew hlen h
  simp only [Nat.zero_add] at hadded
  constructor
  · intro st₁ st₂ hadd hdel
    obtain ⟨hst₁, hrefs, hcalls⟩ := hadded st₁ hadd
    obtain ⟨hrefs', hcalls'⟩ := lagChain_del hst₁ hrefs hdel
    exact ⟨hrefs', hcalls, hcalls'⟩
  · intro hops hmem
    obtain ⟨st₁, hadd⟩ := hops.chain_add hmem dst.switches hst
    obtain ⟨hst₁, hrefs, -⟩ := hadded st₁ hadd
    obtain ⟨st₂, hdel⟩ := hops.chain_del mems dst.switches hst₁ hrefs
    exact ⟨st₁, st₂, hadd, hdel⟩

/-- Two switches, each with a port in LAG 1. -/
def lagTree : DsaTree where
  switches := [0, 1]
  numPorts _ := 2
  ports := [⟨⟨0, 0⟩, .user, some ⟨0, 1⟩, false, some 1⟩, ⟨⟨0, 1⟩, .cpu, none, false, none⟩,
    ⟨⟨1, 0⟩, .user, some ⟨0, 1⟩, false, some 1⟩]
  rtable := []
  unique := by simp

/-- A driver that takes every address of a LAG. -/
def lagOps : DsaSwitchOps Unit where
  portFdbAdd := none
  portFdbDel := none
  lagFdbAdd := some fun _ _ _ _ s => (0, s)
  lagFdbDel := some fun _ _ _ _ s => (0, s)
  portMdbAdd := none
  portMdbDel := none
  portVlanAdd := none
  portVlanDel := none

theorem lag_fdb_first_and_last_lagTree :
    ∃ st₁ st₂, dsaTreeNotify lagTree (fun _ => lagOps) (fun _ => true)
        (.lagFdbAdd 1 (.replicate 6 2) 0 (.lag 1)) (fresh ()) = some (0, st₁) ∧
      dsaTreeNotify lagTree (fun _ => lagOps) (fun _ => true)
        (.lagFdbDel 1 (.replicate 6 2) 0 (.lag 1)) st₁ = some (0, st₂) ∧
      st₂.refs ⟨.lagFdbs 1, .mac (.replicate 6 2) 0 (.lag 1)⟩ = 0 ∧
      st₁.calls = [⟨0, .add, ⟨.lagFdbs 1, .mac (.replicate 6 2) 0 (.lag 1)⟩, 0⟩] ∧
      st₂.calls = st₁.calls ++ [⟨1, .del, ⟨.lagFdbs 1, .mac (.replicate 6 2) 0 (.lag 1)⟩, 0⟩] := by
  have hr : (fabricMachine lagTree fun _ => lagOps).Run (fresh ()) [] _ := .nil
  have hops : LagOps fun _ => lagOps :=
    ⟨fun _ => ⟨_, rfl, fun _ _ _ _ _ => rfl⟩, fun _ => ⟨_, rfl, fun _ _ _ _ _ => rfl⟩⟩
  obtain ⟨hcalls, hzero⟩ := @lag_fdb_first_and_last _ _ _ _ 1 (.replicate 6 2) 0 (.lag 1)
    (fun _ => true) _ _ hr rfl (by decide)
  obtain ⟨st₁, st₂, hadd, hdel⟩ := hzero hops fun _ => rfl
  exact ⟨st₁, st₂, hadd, hdel, hcalls st₁ st₂ hadd hdel⟩

end Lag

end Axm57104.Dsa.Fabric
