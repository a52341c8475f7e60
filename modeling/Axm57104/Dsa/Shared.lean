import Axm57104.Dsa.Fabric

/-!
# What shared ports carry

A notification about an object visits ports of several switches, and on each of them it adds or deletes
an object. `Notification.objects` lists these objects, and `Served` is what is left of a notification
once the tree is forgotten: the objects are served in this order, up to the first error.
`dsaTreeNotify_served` is the specification that the results about runs of notifications use.
-/

namespace Axm57104.Dsa.Fabric

open Common

variable {σ : Type*}

/-! ## Counted objects -/

/-- Port `p` is a CPU port or a link between switches. -/
def DsaTree.isShared (dst : DsaTree) (p : PortId) : Bool :=
  dst.ports.any fun dp => dp.id = p ∧ dp.shared

/-- The objects of shared ports and of LAGs are counted. -/
def DsaTree.counted (dst : DsaTree) (o : Obj) : Bool :=
  match o.list with
  | .fdbs p => dst.isShared p
  | .mdbs p => dst.isShared p
  | .vlans p => dst.isShared p
  | .lagFdbs _ => true

theorem DsaTree.isShared_eq {dst : DsaTree} {dp : DsaPort} (h : dp ∈ dst.ports) :
    dst.isShared dp.id = dp.shared := by
  rw [Bool.eq_iff_iff, isShared, List.any_eq_true]
  constructor
  · rintro ⟨dp', hdp', heq⟩
    have heq := of_decide_eq_true heq
    rw [← List.inj_on_of_nodup_map dst.unique hdp' h heq.1]
    exact heq.2
  · intro hs
    exact ⟨dp, h, decide_eq_true ⟨rfl, hs⟩⟩

/-- The references of an object. -/
def State.refs (st : State σ) (o : Obj) : ℕ∞ := (st.lists o.list).refs o.key

/-- What a request that succeeds does to the references. -/
def DrvOp.apply : DrvOp → ℕ∞ → ℕ∞
  | add, n => oneMore n
  | del, n => n - 1

/-- A call to the driver as a booking of the object: what is refused must have been in order too. -/
def DrvCall.acts (c : DrvCall) : List (Act Obj) :=
  match c.op with
  | .add => if c.rc = 0 then [.take c.obj] else [.take c.obj, .give c.obj]
  | .del => if c.rc = 0 then [.give c.obj] else [.use c.obj]

/-- The bookings of counted objects. -/
def booked (dst : DsaTree) (calls : List DrvCall) : List (Act Obj) :=
  (calls.filter fun c => dst.counted c.obj).flatMap DrvCall.acts

/-- The lists are well formed, every call to a driver was in order, and the counted objects that are
installed are those with references. -/
structure Sound (dst : DsaTree) (st : State σ) : Prop where
  wellFormed : ∀ l, (st.lists l).WellFormed
  installed : ∃ held, settle (booked dst st.calls) ∅ = .ok held ∧
    ∀ o, dst.counted o = true → (o ∈ held ↔ st.refs o ≠ 0)

section Objects

variable {dst : DsaTree} {mem : PortId → Bool} {st : State σ} {ds : ℕ} {o : Obj} {f : σ → ℤ × σ}

theorem booked_append (calls : List DrvCall) (c : DrvCall) :
    booked dst (calls ++ [c]) =
      booked dst calls ++ if dst.counted c.obj then c.acts else [] := by
  rw [booked, List.filter_append, List.flatMap_append]
  congr 1
  by_cases h : dst.counted c.obj <;> simp [h]

/-- A change of one list changes the references of one object. -/
theorem refs_update {t : RefTable ObjKey} {n : ℕ∞} (s : σ) (calls : List DrvCall)
    (h : t.refs = Function.update (st.lists o.list).refs o.key n) :
    State.refs ⟨Function.update st.lists o.list t, s, calls⟩ = Function.update st.refs o n := by
  funext x
  by_cases hx : x = o
  · subst hx
    simp only [State.refs, Function.update_self, h]
  · rw [Function.update_of_ne hx]
    simp only [State.refs]
    by_cases hl : x.list = o.list
    · have hk : x.key ≠ o.key := fun hk => hx (by cases x; cases o; simp_all)
      rw [hl, Function.update_self, h, Function.update_of_ne hk]
    · rw [Function.update_of_ne hl]

/-- What a driver was asked for leaves the state sound if it was in order and the references follow. -/
theorem Sound.of_call {st' : State σ} (h : Sound dst st) (hwf : ∀ l, (st'.lists l).WellFormed)
    {c : DrvCall} (hcalls : st'.calls = st.calls ++ [c]) (ho : dst.counted c.obj = true)
    (horder : c.op = .add ∧ st.refs c.obj = 0 ∨ c.op = .del ∧ st.refs c.obj ≠ 0)
    (hself : st'.refs c.obj ≠ 0 ↔ (c.op = .add ↔ c.rc = 0))
    (hrefs : ∀ x, x ≠ c.obj → st'.refs x = st.refs x) : Sound dst st' := by
  obtain ⟨held, hheld, hmem⟩ := h.installed
  have hobj := hmem _ ho
  refine ⟨hwf, ?_⟩
  -- it is enough to book the new call on what is held
  suffices ∃ held', settle c.acts held = .ok held' ∧
      ∀ x, x ∈ held' ↔ if x = c.obj then (c.op = .add ↔ c.rc = 0) else x ∈ held by
    obtain ⟨held', hacts, hmem'⟩ := this
    refine ⟨held', ?_, fun x hx => ?_⟩
    · rw [hcalls, booked_append, if_pos ho, settle_append, hheld]
      exact hacts
    · rw [hmem']
      by_cases hxo : x = c.obj
      · rw [if_pos hxo, hxo, hself]
      · rw [if_neg hxo, hmem x hx, hrefs x hxo]
  rcases horder with ⟨hop, hzero⟩ | ⟨hop, hpos⟩
  · have hfree : c.obj ∉ held := fun hin => hobj.mp hin hzero
    by_cases hrc : c.rc = 0
    · refine ⟨insert c.obj held, by simp [DrvCall.acts, hop, hrc, settle, hfree], fun x => ?_⟩
      by_cases hxo : x = c.obj <;> simp [hxo, hop, hrc]
    · refine ⟨held, by simp [DrvCall.acts, hop, hrc, settle, hfree], fun x => ?_⟩
      by_cases hxo : x = c.obj <;> simp [hxo, hop, hrc, hfree]
  · have hin : c.obj ∈ held := hobj.mpr hpos
    by_cases hrc : c.rc = 0
    · refine ⟨held.erase c.obj, by simp [DrvCall.acts, hop, hrc, settle, hin], fun x => ?_⟩
      by_cases hxo : x = c.obj <;> simp [hxo, hop, hrc]
    · refine ⟨held, by simp [DrvCall.acts, hop, hrc, settle, hin], fun x => ?_⟩
      by_cases hxo : x = c.obj <;> simp [hxo, hop, hrc, hin]

/-- Other calls do not touch counted objects. -/
theorem Sound.of_uncounted (h : Sound dst st) {c : DrvCall} (hc : dst.counted c.obj = false) {s : σ} :
    Sound dst { st with drv := s, calls := st.calls ++ [c] } := by
  refine ⟨h.wellFormed, ?_⟩
  simp only [booked_append, hc, Bool.false_eq_true, if_false, List.append_nil]
  exact h.installed

theorem wellFormed_update (h : Sound dst st) {l : ObjList} {t : RefTable ObjKey} (ht : t.WellFormed)
    (l' : ObjList) : (Function.update st.lists l t l').WellFormed := by
  by_cases hl : l' = l
  · rw [hl, Function.update_self]
    exact ht
  · rw [Function.update_of_ne hl]
    exact h.wellFormed l'

/-- The ports whose entries a list has. -/
def DsaTree.fills (dst : DsaTree) (p : PortId) : ObjList → Prop
  | .fdbs q => q = p
  | .mdbs q => q = p
  | .vlans q => q = p
  | .lagFdbs lag => ∃ dp ∈ dst.ports, dp.id = p ∧ dp.lag = some lag

/-- Why an object with `refs` references is refused: by the driver in the last of the calls `cs`, for
want of memory, or because it is not there to be deleted. -/
inductive Refused (dst : DsaTree) (mem : PortId → Bool) (op : DrvOp) (o : Obj) (refs : ℕ∞)
    (cs : List DrvCall) : ℤ → Prop
  | driver {ds : ℕ} {rc : ℤ} : cs.getLast? = some ⟨ds, op, o, rc⟩ →
      Refused dst mem op o refs cs rc
  | noMemory {p : PortId} : op = .add → dst.counted o = true → refs = 0 → dst.fills p o.list →
      mem p = false → Refused dst mem op o refs cs (-ENOMEM)
  | unknown : op = .del → dst.counted o = true → refs = 0 → Refused dst mem op o refs cs (-ENOENT)

/-- The calls that a request for an object made, at most one, and why it failed if it did. -/
structure Asked (dst : DsaTree) (mem : PortId → Bool) (op : DrvOp) (o : Obj) (st : State σ)
    (a : ℤ × State σ) (c : Option DrvCall) : Prop where
  calls : a.2.calls = st.calls ++ c.toList
  about : ∀ x, c = some x → x.op = op ∧ x.obj = o ∧ x.rc = a.1
  direct : dst.counted o = false → c ≠ none
  refused : a.1 ≠ 0 → Refused dst mem op o (st.refs o) c.toList a.1

/-- What a request does: if it is counted and succeeds the references follow it, and there was one to
give back; else they stay as they are. -/
structure Effect (dst : DsaTree) (mem : PortId → Bool) (op : DrvOp) (o : Obj) (st : State σ)
    (a : ℤ × State σ) : Prop where
  sound : Sound dst a.2
  ok : dst.counted o = true → a.1 = 0 →
    a.2.refs = Function.update st.refs o (op.apply (st.refs o)) ∧ (op = .del → st.refs o ≠ 0)
  same : dst.counted o = false ∨ a.1 ≠ 0 → a.2.refs = st.refs
  asked : ∃ c, Asked dst mem op o st a c

/-- The counted case of `Effect`. -/
theorem Effect.of_counted {op : DrvOp} {a : ℤ × State σ} (ho : dst.counted o = true)
    (sound : Sound dst a.2)
    (ok : a.1 = 0 → a.2.refs = Function.update st.refs o (op.apply (st.refs o)))
    (err : a.1 ≠ 0 → a.2.refs = st.refs) (had : a.1 = 0 → op = .del → st.refs o ≠ 0)
    (asked : ∃ c, Asked dst mem op o st a c) : Effect dst mem op o st a where
  sound := sound
  ok _ h0 := ⟨ok h0, had h0⟩
  same h := err (h.resolve_left (by rw [ho]; exact Bool.noConfusion))
  asked := asked

/-- The request reached the driver. -/
theorem asked_of_call {op : DrvOp} {a : ℤ × State σ} {rc : ℤ}
    (hcalls : a.2.calls = st.calls ++ [⟨ds, op, o, rc⟩]) (hrc : rc = a.1) :
    ∃ c, Asked dst mem op o st a c := by
  subst hrc
  refine ⟨some ⟨ds, op, o, a.1⟩, hcalls, fun x hx => ?_, fun _ => nofun, fun _ => .driver rfl⟩
  cases hx
  exact ⟨rfl, rfl, rfl⟩

/-- The request was settled without the driver. -/
theorem asked_of_counted {op : DrvOp} {a : ℤ × State σ} (ho : dst.counted o = true)
    (hcalls : a.2.calls = st.calls)
    (hrefused : a.1 ≠ 0 → Refused dst mem op o (st.refs o) [] a.1) :
    ∃ c, Asked dst mem op o st a c :=
  ⟨none, hcalls.trans (List.append_nil _).symm, nofun,
    fun h => absurd h (by rw [ho]; exact Bool.noConfusion), hrefused⟩

/-- The lists with another list for the object, after a call to the driver or without one. -/
theorem State.with_list_eq {a : ℤ × RefTable ObjKey × σ × List DrvCall}
    {rc : ℤ} {t : RefTable ObjKey} {s : σ × List DrvCall} (h : a = (rc, t, s)) :
    ((a.1, ⟨Function.update st.lists o.list a.2.1, a.2.2.1, a.2.2.2⟩) : ℤ × State σ) =
      (rc, ⟨Function.update st.lists o.list t, s.1, s.2⟩) := by
  subst h
  rfl

theorem Sound.acquire (ds : ℕ) (f : σ → ℤ × σ) (h : Sound dst st) (ho : dst.counted o = true)
    (mem : PortId → Bool) {p : PortId} (hp : dst.fills p o.list) :
    Effect dst mem .add o st (st.acquire ds o (mem p) f) := by
  rcases (h.wellFormed o.list).acquire_cases o.key (mem p) ENOMEM (callDriver ds .add o f)
      (st.drv, st.calls) with
    ⟨hne, l', heq, hwf', hrefs⟩ | ⟨hz, hm, heq⟩ | ⟨hz, -, hrc, heq⟩ | ⟨hz, -, hrc, l', heq, hwf', hrefs⟩
  all_goals rw [State.acquire, State.with_list_eq heq]
  · -- the object is installed
    have href := refs_update st.drv st.calls hrefs
    obtain ⟨held, hheld, hmem⟩ := h.installed
    refine .of_counted ho ⟨wellFormed_update h hwf', held, hheld, fun x hx => ?_⟩ (fun _ => href)
      (fun hrc => absurd rfl hrc) nofun (asked_of_counted ho rfl fun h0 => absurd rfl h0)
    rw [hmem x hx, href]
    by_cases hxo : x = o
    · subst hxo
      rw [Function.update_self]
      exact iff_of_true hne (oneMore_ne_zero _)
    · rw [Function.update_of_ne hxo]
  · -- no memory
    rw [Function.update_eq_self]
    exact .of_counted ho h (fun hrc => absurd hrc (by norm_num)) (fun _ => rfl) nofun
      (asked_of_counted ho rfl fun _ => .noMemory rfl ho hz hp hm)
  · -- the driver refuses
    rw [Function.update_eq_self]
    refine .of_counted ho (h.of_call h.wellFormed rfl ho (.inl ⟨rfl, hz⟩) ?_ fun _ _ => rfl)
      (fun h0 => absurd h0 hrc) (fun _ => rfl) nofun (asked_of_call rfl rfl)
    exact iff_of_false (fun hx => hx hz) fun hiff => hrc (hiff.mp rfl)
  · -- the driver installs it
    have href := refs_update (callDriver ds .add o f (st.drv, st.calls)).2.1
      (callDriver ds .add o f (st.drv, st.calls)).2.2 hrefs
    refine .of_counted ho
      (h.of_call (wellFormed_update h hwf') rfl ho (.inl ⟨rfl, hz⟩) ?_ fun x hxo => ?_)
      (fun _ => href) (fun h0 => absurd rfl h0) nofun (asked_of_call rfl hrc)
    · rw [href, Function.update_self]
      exact iff_of_true (oneMore_ne_zero _) (iff_of_true rfl hrc)
    · rw [href, Function.update_of_ne hxo]

theorem Sound.release (ds : ℕ) (f : σ → ℤ × σ) (h : Sound dst st) (ho : dst.counted o = true)
    (mem : PortId → Bool) : Effect dst mem .del o st (st.release ds o f) := by
  rcases (h.wellFormed o.list).release_cases o.key ENOENT (callDriver ds .del o f)
      (st.drv, st.calls) with
    ⟨hz, heq⟩ | ⟨hne, hone, l', heq, hwf', hrefs⟩ | ⟨hone, hrc, heq⟩ | ⟨hone, hrc, l', heq, hwf', hrefs⟩
  all_goals rw [State.release, State.with_list_eq heq]
  · -- nothing to give back
    rw [Function.update_eq_self]
    exact .of_counted ho h (fun hrc => absurd hrc (by norm_num)) (fun _ => rfl)
      (fun hrc => absurd hrc (by norm_num)) (asked_of_counted ho rfl fun _ => .unknown rfl ho hz)
  · -- not the last reference
    have href := refs_update st.drv st.calls hrefs
    obtain ⟨held, hheld, hmem⟩ := h.installed
    refine .of_counted ho ⟨wellFormed_update h hwf', held, hheld, fun x hx => ?_⟩ (fun _ => href)
      (fun hrc => absurd rfl hrc) (fun _ _ => hne) (asked_of_counted ho rfl fun h0 => absurd rfl h0)
    rw [hmem x hx, href]
    by_cases hxo : x = o
    · subst hxo
      rw [Function.update_self]
      refine iff_of_true hne ?_
      rw [Ne, tsub_eq_zero_iff_le, not_le]
      exact lt_of_le_of_ne (Order.one_le_iff_ne_zero.mpr hne) (Ne.symm hone)
    · rw [Function.update_of_ne hxo]
  · -- the driver refuses
    have hpos : st.refs o ≠ 0 := by
      rw [State.refs, hone]
      exact one_ne_zero
    rw [Function.update_eq_self]
    refine .of_counted ho (h.of_call h.wellFormed rfl ho (.inr ⟨rfl, hpos⟩) ?_ fun _ _ => rfl)
      (fun h0 => absurd h0 hrc) (fun _ => rfl) (fun _ _ => hpos) (asked_of_call rfl rfl)
    exact iff_of_true hpos (iff_of_false nofun hrc)
  · -- the driver removes it
    have hpos : st.refs o ≠ 0 := by
      rw [State.refs, hone]
      exact one_ne_zero
    have href := refs_update (callDriver ds .del o f (st.drv, st.calls)).2.1
      (callDriver ds .del o f (st.drv, st.calls)).2.2 hrefs
    refine .of_counted ho
      (h.of_call (wellFormed_update h hwf') rfl ho (.inr ⟨rfl, hpos⟩) ?_ fun x hxo => ?_)
      (fun _ => href) (fun h0 => absurd rfl h0) (fun _ _ => hpos) (asked_of_call rfl hrc)
    · rw [href, Function.update_self, hone, tsub_self]
      exact iff_of_false (fun hx => hx rfl) fun hiff => nomatch hiff.mpr hrc
    · rw [href, Function.update_of_ne hxo]

theorem Sound.direct (h : Sound dst st) (ho : dst.counted o = false) (op : DrvOp) :
    Effect dst mem op o st (st.direct ds op o f) where
  sound := h.of_uncounted ho
  ok h1 := absurd h1 (by rw [ho]; exact Bool.false_ne_true)
  same _ := rfl
  asked := asked_of_call rfl rfl

end Objects

/-! ## Objects one after the other -/

/-- The objects are served in this order, up to the first error. `lacks`: those that are left begin with
the objects of a switch whose driver does not have the operation. -/
inductive Served (dst : DsaTree) (mem : PortId → Bool) (op : DrvOp) (lacks : List Obj → Prop) :
    List Obj → State σ → ℤ × State σ → Prop
  | nil {st : State σ} : Served dst mem op lacks [] st (0, st)
  | cons {o : Obj} {os : List Obj} {st st' : State σ} {a : ℤ × State σ} :
      Effect dst mem op o st (0, st') → Served dst mem op lacks os st' a →
      Served dst mem op lacks (o :: os) st a
  | failed {o : Obj} {os : List Obj} {st : State σ} {a : ℤ × State σ} :
      Effect dst mem op o st a → a.1 ≠ 0 → Served dst mem op lacks (o :: os) st a
  | unsupported {os : List Obj} {st : State σ} :
      lacks os → Served dst mem op lacks os st (-EOPNOTSUPP, st)

section Served

variable {dst : DsaTree} {mem : PortId → Bool} {op : DrvOp} {lacks lacks' : List Obj → Prop} {o : Obj}
  {os os' : List Obj} {st st' : State σ} {a a' : ℤ × State σ}

theorem Served.single (h : Effect dst mem op o st a) : Served dst mem op lacks [o] st a := by
  by_cases hrc : a.1 = 0
  · obtain ⟨rc, st'⟩ := a
    cases hrc
    exact .cons h .nil
  · exact .failed h hrc

theorem Served.sound (h : Served dst mem op lacks os st a) (hst : Sound dst st) : Sound dst a.2 := by
  induction h with
  | nil => exact hst
  | cons he _ ih => exact ih he.sound
  | failed he _ => exact he.sound
  | unsupported _ => exact hst

theorem Served.append (h : Served dst mem op lacks os st a)
    (hlacks : ∀ l, lacks l → lacks' (l ++ os'))
    (h' : a.1 = 0 → Served dst mem op lacks' os' a.2 a') (hstop : a.1 ≠ 0 → a' = a) :
    Served dst mem op lacks' (os ++ os') st a' := by
  induction h with
  | nil => exact h' rfl
  | cons he _ ih => exact .cons he (ih h' hstop)
  | failed he hrc =>
      rw [hstop hrc]
      exact .failed he hrc
  | unsupported hl =>
      rw [hstop (by norm_num)]
      exact .unsupported (hlacks _ hl)

end Served

/-! ## The objects of a notification -/

def Notification.op : Notification → DrvOp
  | fdbAdd .. => .add
  | fdbDel .. => .del
  | hostFdbAdd .. => .add
  | hostFdbDel .. => .del
  | lagFdbAdd .. => .add
  | lagFdbDel .. => .del
  | mdbAdd .. => .add
  | mdbDel .. => .del
  | hostMdbAdd .. => .add
  | hostMdbDel .. => .del
  | vlanAdd .. => .add
  | vlanDel .. => .del
  | hostVlanAdd .. => .add
  | hostVlanDel .. => .del

/-- The driver does not have the operation that the notification asks for. -/
def DsaSwitchOps.lacks (ops : DsaSwitchOps σ) : Notification → Prop
  | .fdbAdd .. => ops.portFdbAdd = none
  | .fdbDel .. => ops.portFdbDel = none
  | .hostFdbAdd .. => ops.portFdbAdd = none
  | .hostFdbDel .. => ops.portFdbDel = none
  | .lagFdbAdd .. => ops.lagFdbAdd = none
  | .lagFdbDel .. => ops.lagFdbDel = none
  | .mdbAdd .. => ops.portMdbAdd = none
  | .mdbDel .. => ops.portMdbDel = none
  | .hostMdbAdd .. => ops.portMdbAdd = none
  | .hostMdbDel .. => ops.portMdbDel = none
  | .vlanAdd .. => ops.portVlanAdd = none
  | .vlanDel .. => ops.portVlanDel = none
  | .hostVlanAdd .. => ops.portVlanAdd = none
  | .hostVlanDel .. => ops.portVlanDel = none

section Objects

variable (dst : DsaTree) (ds : ℕ)

/-- The ports of a switch that match. -/
def matching (isMatch : DsaPort → Option Bool) : List DsaPort :=
  (dst.portsOf ds).filter fun p => isMatch p = some true

/-- A host address on an upstream port: on the LAG of the CPU port if the targeted port uses it. -/
def hostFdbObjs (targeted : DsaPort) (key : ObjKey) (p : DsaPort) : List Obj :=
  if p.type = .cpu ∧ targeted.cpuPortInLag then p.lag.toList.map fun lag => ⟨.lagFdbs lag, key⟩
  else [⟨.fdbs p.id, key⟩]

/-- A VLAN that is added to a port. -/
def vlanAddObjs (vlan : PortVlan) (p : DsaPort) : List Obj :=
  if p.shared ∧ vlan.changed then [] else [⟨.vlans p.id, .vlan vlan.vid⟩]

/-- What a notification is about on switch `ds`. -/
def Notification.objectsOn : Notification → List Obj
  | fdbAdd dp addr vid db =>
      (towardsTarget dst ds dp).toList.map fun p => ⟨.fdbs p.id, .mac addr vid db.key⟩
  | fdbDel dp addr vid db =>
      (towardsTarget dst ds dp).toList.map fun p => ⟨.fdbs p.id, .mac addr vid db.key⟩
  | hostFdbAdd dp addr vid db =>
      (matching dst ds (dsaPortHostAddressMatch dst dp)).flatMap
        (hostFdbObjs dp (.mac addr vid db.key))
  | hostFdbDel dp addr vid db =>
      (matching dst ds (dsaPortHostAddressMatch dst dp)).flatMap
        (hostFdbObjs dp (.mac addr vid db.key))
  | lagFdbAdd lag addr vid db =>
      (lagMember dst ds lag).toList.map fun _ => ⟨.lagFdbs lag, .mac addr vid db.key⟩
  | lagFdbDel lag addr vid db =>
      (lagMember dst ds lag).toList.map fun _ => ⟨.lagFdbs lag, .mac addr vid db.key⟩
  | mdbAdd dp addr vid db =>
      (towardsTarget dst ds dp).toList.map fun p => ⟨.mdbs p.id, .mac addr vid db.key⟩
  | mdbDel dp addr vid db =>
      (towardsTarget dst ds dp).toList.map fun p => ⟨.mdbs p.id, .mac addr vid db.key⟩
  | hostMdbAdd dp addr vid db =>
      (matching dst ds (dsaPortHostAddressMatch dst dp)).flatMap fun p =>
        [⟨.mdbs p.id, .mac addr vid db.key⟩]
  | hostMdbDel dp addr vid db =>
      (matching dst ds (dsaPortHostAddressMatch dst dp)).flatMap fun p =>
        [⟨.mdbs p.id, .mac addr vid db.key⟩]
  | vlanAdd dp vlan =>
      (matching dst ds fun p => some (dsaPortVlanMatch dp p)).flatMap (vlanAddObjs vlan)
  | vlanDel dp vlan =>
      (matching dst ds fun p => some (dsaPortVlanMatch dp p)).flatMap fun p =>
        [⟨.vlans p.id, .vlan vlan.vid⟩]
  | hostVlanAdd dp vlan =>
      (matching dst ds (dsaPortHostVlanMatch dst dp)).flatMap (vlanAddObjs vlan)
  | hostVlanDel dp vlan =>
      (matching dst ds (dsaPortHostVlanMatch dst dp)).flatMap fun p =>
        [⟨.vlans p.id, .vlan vlan.vid⟩]

/-- What a notification is about, switch after switch. -/
def Notification.objects (n : Notification) : List Obj :=
  dst.switches.flatMap fun ds => n.objectsOn dst ds

end Objects

section Notify

variable {dst : DsaTree} {mem : PortId → Bool} {ds : ℕ} {st : State σ} {dp : DsaPort} {obj : Obj}
  {f : σ → ℤ × σ} {a : ℤ × State σ} {op : DrvOp} {lacks : List Obj → Prop}

theorem dsaPortDoAdd_effect (hst : Sound dst st) (ho : dst.counted obj = dp.shared)
    (hp : dst.fills dp.id obj.list) :
    Effect dst mem .add obj st (dsaPortDoAdd dp obj (mem dp.id) f st) := by
  rw [dsaPortDoAdd]
  split
  · rename_i hs
    exact hst.acquire _ _ (ho.trans hs) mem hp
  · rename_i hs
    exact hst.direct (ho.trans (Bool.eq_false_iff.mpr hs)) .add

theorem dsaPortDoDel_effect (hst : Sound dst st) (ho : dst.counted obj = dp.shared) :
    Effect dst mem .del obj st (dsaPortDoDel dp obj f st) := by
  rw [dsaPortDoDel]
  split
  · rename_i hs
    exact hst.release _ _ (ho.trans hs) mem
  · rename_i hs
    exact hst.direct (ho.trans (Bool.eq_false_iff.mpr hs)) .del

theorem dsaSwitchDoLagFdbAdd_effect {lagFdbAdd : Option (ℕ → MacAddr → ℕ → DsaDb → σ → ℤ × σ)}
    {lag : ℕ} {addr : MacAddr} {vid : ℕ} {db : DsaDb} (hst : Sound dst st) (hp : dp ∈ dst.ports)
    (hlag : dp.lag = some lag)
    (h : dsaSwitchDoLagFdbAdd lagFdbAdd ds lag addr vid db (mem dp.id) st = some a) :
    Effect dst mem .add ⟨.lagFdbs lag, .mac addr vid db.key⟩ st a := by
  have hfills : dst.fills dp.id (.lagFdbs lag) := ⟨dp, hp, rfl, hlag⟩
  cases lagFdbAdd with
  | some f =>
      cases h
      exact hst.acquire _ _ rfl mem hfills
  | none =>
      simp only [dsaSwitchDoLagFdbAdd] at h
      split at h
      · cases h
      · cases h
        exact hst.acquire _ _ rfl mem hfills

theorem dsaSwitchDoLagFdbDel_effect {lagFdbDel : Option (ℕ → MacAddr → ℕ → DsaDb → σ → ℤ × σ)}
    {lag : ℕ} {addr : MacAddr} {vid : ℕ} {db : DsaDb} (hst : Sound dst st)
    (h : dsaSwitchDoLagFdbDel lagFdbDel ds lag addr vid db st = some a) :
    Effect dst mem .del ⟨.lagFdbs lag, .mac addr vid db.key⟩ st a := by
  cases lagFdbDel with
  | some f =>
      cases h
      exact hst.release _ _ rfl mem
  | none =>
      simp only [dsaSwitchDoLagFdbDel] at h
      split at h
      · cases h
      · cases h
        exact hst.release _ _ rfl mem

/-- Ports that are served one after the other. -/
theorem forEachPort_served {isMatch : DsaPort → Option Bool} {objs : DsaPort → List Obj}
    {step : DsaPort → State σ → Option (ℤ × State σ)} {dps : List DsaPort}
    (hstep : ∀ p ∈ dps, ∀ st a, Sound dst st → step p st = some a →
      Served dst mem op (fun _ => False) (objs p) st a)
    (hst : Sound dst st) (h : forEachPort isMatch step dps st = some a) :
    Served dst mem op lacks ((dps.filter fun p => isMatch p = some true).flatMap objs) st a := by
  induction dps generalizing st with
  | nil =>
      cases h
      exact .nil
  | cons p dps ih =>
      have hrest := fun q hq => hstep q (List.mem_cons_of_mem p hq)
      rw [forEachPort, Option.bind_eq_some_iff] at h
      obtain ⟨hit, hmatch, h⟩ := h
      cases hit with
      | false =>
          rw [List.filter_cons_of_neg (by simp [hmatch])]
          exact ih hrest hst h
      | true =>
          rw [if_pos rfl, Option.bind_eq_some_iff] at h
          obtain ⟨b, hb, h⟩ := h
          have hserved := hstep p List.mem_cons_self st b hst hb
          rw [List.filter_cons_of_pos (by simp [hmatch]), List.flatMap_cons]
          refine hserved.append (fun _ h => h.elim) (fun hrc => ?_) fun hrc => ?_
          · rw [if_neg (not_not.mpr hrc)] at h
            exact ih hrest (hserved.sound hst) h
          · rw [if_pos hrc] at h
            cases h
            rfl

theorem mem_ports (h : dp ∈ dst.portsOf ds) : dp ∈ dst.ports := List.mem_of_mem_filter h

theorem lagMember_spec {lag : ℕ} (h : lagMember dst ds lag = some dp) :
    dp ∈ dst.ports ∧ dp.lag = some lag :=
  ⟨mem_ports (List.mem_of_find?_eq_some h), by simpa using List.find?_some h⟩

theorem Served.of_unsupported {os : List Obj} (hl : lacks os) (h : some (-EOPNOTSUPP, st) = some a) :
    Served dst mem op lacks os st a := by
  cases h
  exact .unsupported hl

/-- The port towards the target is served. -/
theorem towards_served {objOf : DsaPort → Obj} {step : DsaPort → ℤ × State σ}
    (hstep : ∀ p ∈ dst.ports, Effect dst mem op (objOf p) st (step p))
    (h : (towardsTarget dst ds dp).map step = some a) :
    Served dst mem op lacks ((towardsTarget dst ds dp).toList.map objOf) st a := by
  obtain ⟨p, hp, rfl⟩ := Option.map_eq_some_iff.mp h
  rw [hp]
  exact .single (hstep p (List.mem_of_find?_eq_some hp))

theorem dsaPortDoVlanAdd_served {portVlanAdd : ℕ → PortVlan → σ → ℤ × σ} {vlan : PortVlan}
    (hst : Sound dst st) (hp : dp ∈ dst.ports) :
    Served dst mem .add lacks (vlanAddObjs vlan dp) st
      (dsaPortDoVlanAdd portVlanAdd vlan (mem dp.id) dp st) := by
  rw [dsaPortDoVlanAdd, vlanAddObjs]
  split
  · exact .nil
  · exact .single (dsaPortDoAdd_effect hst (DsaTree.isShared_eq hp) rfl)

/-- **One switch** serves its part of the objects. -/
theorem dsaSwitchEvent_served {ops : DsaSwitchOps σ} {n : Notification} (hst : Sound dst st)
    (h : dsaSwitchEvent dst ops mem ds n st = some a) :
    Served dst mem n.op (fun os => ops.lacks n ∧ os = n.objectsOn dst ds) (n.objectsOn dst ds) st
      a := by
  cases n with
  | fdbAdd dp addr vid db =>
      simp only [dsaSwitchEvent, dsaSwitchFdbAdd] at h
      split at h
      · next hnone => exact .of_unsupported ⟨hnone, rfl⟩ h
      · exact towards_served (fun p hp => dsaPortDoAdd_effect hst (DsaTree.isShared_eq hp) rfl) h
  | fdbDel dp addr vid db =>
      simp only [dsaSwitchEvent, dsaSwitchFdbDel] at h
      split at h
      · next hnone => exact .of_unsupported ⟨hnone, rfl⟩ h
      · exact towards_served (fun p hp => dsaPortDoDel_effect hst (DsaTree.isShared_eq hp)) h
  | hostFdbAdd dp addr vid db =>
      simp only [dsaSwitchEvent, dsaSwitchHostFdbAdd] at h
      split at h
      · next hnone => exact .of_unsupported ⟨hnone, rfl⟩ h
      · refine forEachPort_served (fun p hp st a hst hp' => ?_) hst h
        rw [hostFdbObjs]
        split at hp'
        · rename_i hlag
          obtain ⟨lag, hl, hp'⟩ := Option.bind_eq_some_iff.mp hp'
          rw [if_pos hlag, hl]
          exact .single (dsaSwitchDoLagFdbAdd_effect hst (mem_ports hp) hl hp')
        · rename_i hlag
          cases hp'
          rw [if_neg hlag]
          exact .single (dsaPortDoAdd_effect hst (DsaTree.isShared_eq (mem_ports hp)) rfl)
  | hostFdbDel dp addr vid db =>
      simp only [dsaSwitchEvent, dsaSwitchHostFdbDel] at h
      split at h
      · next hnone => exact .of_unsupported ⟨hnone, rfl⟩ h
      · refine forEachPort_served (fun p hp st a hst hp' => ?_) hst h
        rw [hostFdbObjs]
        split at hp'
        · rename_i hlag
          obtain ⟨lag, hl, hp'⟩ := Option.bind_eq_some_iff.mp hp'
          rw [if_pos hlag, hl]
          exact .single (dsaSwitchDoLagFdbDel_effect hst hp')
        · rename_i hlag
          cases hp'
          rw [if_neg hlag]
          exact .single (dsaPortDoDel_effect hst (DsaTree.isShared_eq (mem_ports hp)))
  | lagFdbAdd lag addr vid db =>
      simp only [dsaSwitchEvent, dsaSwitchLagFdbAdd] at h
      rw [Notification.objectsOn]
      split at h
      · next hnone => exact .of_unsupported ⟨hnone, rfl⟩ h
      · split at h
        · rename_i hlag
          rw [hlag]
          exact .single (dsaSwitchDoLagFdbAdd_effect hst (lagMember_spec hlag).1 (lagMember_spec hlag).2 h)
        · rename_i hlag
          cases h
          rw [hlag]
          exact .nil
  | lagFdbDel lag addr vid db =>
      simp only [dsaSwitchEvent, dsaSwitchLagFdbDel] at h
      rw [Notification.objectsOn]
      split at h
      · next hnone => exact .of_unsupported ⟨hnone, rfl⟩ h
      · split at h
        · rename_i hlag
          rw [hlag]
          exact .single (dsaSwitchDoLagFdbDel_effect hst h)
        · rename_i hlag
          cases h
          rw [hlag]
          exact .nil
  | mdbAdd dp addr vid db =>
      simp only [dsaSwitchEvent, dsaSwitchMdbAdd] at h
      split at h
      · next hnone => exact .of_unsupported ⟨hnone, rfl⟩ h
      · exact towards_served (fun p hp => dsaPortDoAdd_effect hst (DsaTree.isShared_eq hp) rfl) h
  | mdbDel dp addr vid db =>
      simp only [dsaSwitchEvent, dsaSwitchMdbDel] at h
      split at h
      · next hnone => exact .of_unsupported ⟨hnone, rfl⟩ h
      · exact towards_served (fun p hp => dsaPortDoDel_effect hst (DsaTree.isShared_eq hp)) h
  | hostMdbAdd dp addr vid db =>
      simp only [dsaSwitchEvent, dsaSwitchHostMdbAdd] at h
      split at h
      · next hnone => exact .of_unsupported ⟨hnone, rfl⟩ h
      · refine forEachPort_served (fun p hp st a hst hp' => ?_) hst h
        cases hp'
        exact .single (dsaPortDoAdd_effect hst (DsaTree.isShared_eq (mem_ports hp)) rfl)
  | hostMdbDel dp addr vid db =>
      simp only [dsaSwitchEvent, dsaSwitchHostMdbDel] at h
      split at h
      · next hnone => exact .of_unsupported ⟨hnone, rfl⟩ h
      · refine forEachPort_served (fun p hp st a hst hp' => ?_) hst h
        cases hp'
        exact .single (dsaPortDoDel_effect hst (DsaTree.isShared_eq (mem_ports hp)))
  | vlanAdd dp vlan =>
      simp only [dsaSwitchEvent, dsaSwitchVlanAdd] at h
      split at h
      · next hnone => exact .of_unsupported ⟨hnone, rfl⟩ h
      · refine forEachPort_served (fun p hp st a hst hp' => ?_) hst h
        cases hp'
        exact dsaPortDoVlanAdd_served hst (mem_ports hp)
  | vlanDel dp vlan =>
      simp only [dsaSwitchEvent, dsaSwitchVlanDel] at h
      split at h
      · next hnone => exact .of_unsupported ⟨hnone, rfl⟩ h
      · refine forEachPort_served (fun p hp st a hst hp' => ?_) hst h
        cases hp'
        exact .single (dsaPortDoDel_effect hst (DsaTree.isShared_eq (mem_ports hp)))
  | hostVlanAdd dp vlan =>
      simp only [dsaSwitchEvent, dsaSwitchHostVlanAdd] at h
      split at h
      · next hnone => exact .of_unsupported ⟨hnone, rfl⟩ h
      · refine forEachPort_served (fun p hp st a hst hp' => ?_) hst h
        cases hp'
        exact dsaPortDoVlanAdd_served hst (mem_ports hp)
  | hostVlanDel dp vlan =>
      simp only [dsaSwitchEvent, dsaSwitchHostVlanDel] at h
      split at h
      · next hnone => exact .of_unsupported ⟨hnone, rfl⟩ h
      · refine forEachPort_served (fun p hp st a hst hp' => ?_) hst h
        cases hp'
        exact .single (dsaPortDoDel_effect hst (DsaTree.isShared_eq (mem_ports hp)))

/-- The objects of a switch whose driver does not have the operation, and of those behind it. -/
def LackedFrom (dst : DsaTree) (ops : ℕ → DsaSwitchOps σ) (n : Notification) (os : List Obj) : Prop :=
  ∃ before ds after, dst.switches = before ++ ds :: after ∧ (ops ds).lacks n ∧
    os = (ds :: after).flatMap fun ds => n.objectsOn dst ds

/-- **A notification** serves its objects, switch after switch. -/
theorem dsaTreeNotify_served {ops : ℕ → DsaSwitchOps σ} {n : Notification} (hst : Sound dst st)
    (h : dsaTreeNotify dst ops mem n st = some a) :
    Served dst mem n.op (LackedFrom dst ops n) (n.objects dst) st a := by
  rw [dsaTreeNotify] at h
  rw [Notification.objects]
  -- the induction is on the switches that are left of the chain
  suffices ∀ chain before st, dst.switches = before ++ chain → Sound dst st →
      notifyChain (fun ds => dsaSwitchEvent dst (ops ds) mem ds n) chain st = some a →
      Served dst mem n.op (LackedFrom dst ops n) (chain.flatMap fun ds => n.objectsOn dst ds) st a from
    this dst.switches [] st rfl hst h
  intro chain
  induction chain with
  | nil =>
      intro before st _ hst h
      cases h
      exact .nil
  | cons ds chain ih =>
      intro before st hchain hst h
      rw [notifyChain, Option.bind_eq_some_iff] at h
      obtain ⟨b, hb, h⟩ := h
      have hserved := dsaSwitchEvent_served hst hb
      rw [List.flatMap_cons]
      refine hserved.append (fun os hos => ?_) (fun hrc => ?_) fun hrc => ?_
      · exact ⟨before, ds, chain, hchain, hos.1, by rw [hos.2, List.flatMap_cons]⟩
      · rw [if_neg (not_not.mpr hrc)] at h
        exact ih (before ++ [ds]) b.2 (by rw [hchain, List.append_assoc]; rfl) (hserved.sound hst) h
      · rw [if_pos hrc] at h
        cases h
        rfl

end Notify

end Axm57104.Dsa.Fabric
