import Axm57104.Switch.Ptp
import Axm57104.Switch.Served

/-!
# Interleaved operations on the switch

The clock operations and the Qbv handlers share the two selectors, and take no lock. Two operations
whose accesses are interleaved have the effect of one after the other, and hit the timers and ports
they have selected, if the accesses of one of them can be moved to the front: none of them comes
after an access of the other operation that it conflicts with.

`Selects` is about the code of an operation (it selects before it accesses a bank), `OwnSelection`
about the accesses it has made.
-/

namespace Axm57104.Switch

open Common

/-- The operations that access the banks. -/
inductive SwitchOp
  | gettime64 (clock : PtpClock)
  | settime64 (clock : PtpClock) (ts : Timespec64)
  | adjtime (clock : PtpClock) (delta : Int64)
  | adjfine (clock : PtpClock) (scaledPpm : Int64)
  | configChange
  | timerChange
  | timerValueChange

/-- The code of an operation, with the time that `ax_ptp_gettime64` fills in as its result. -/
def SwitchOp.prog (scaledPpmToPpb : Int64 → Int64) (cfg : SwitchConfig) :
    SwitchOp → SwitchM (Option Timespec64)
  | .gettime64 clock => axPtpGettime64 clock >>= fun ts => pure (some ts)
  | .settime64 clock ts => axPtpSettime64 clock ts >>= fun _ => pure none
  | .adjtime clock delta => axPtpAdjtime clock delta >>= fun _ => pure none
  | .adjfine clock scaledPpm => axPtpAdjfine scaledPpmToPpb clock scaledPpm >>= fun _ => pure none
  | .configChange => axIrqConfigChange cfg >>= fun _ => pure none
  | .timerChange => axIrqTimerChange cfg >>= fun _ => pure none
  | .timerValueChange => axIrqTimerValueChange cfg >>= fun _ => pure none

/-! ## Selections -/

/-- The timer selected after an access, if `t` was selected before. -/
def Access.timerAfter (t : Option UInt32) : Access → Option UInt32
  | .write .asTSelector v => some v
  | _ => t

/-- The port selected after an access, if `p` was selected before. -/
def Access.portAfter (p : Option UInt32) : Access → Option UInt32
  | .write .qbvPortSelector v => some v
  | _ => p

/-- Every access of the list to a banked register hit the timer or port that was selected last, in
the list or before it. -/
def OwnSelection : Option UInt32 → Option UInt32 → List (Access × Resp) → Prop
  | _, _, [] => True
  | t, p, (a, resp) :: l =>
      (match a.reg with
        | .timer r => ∃ i, t = some i ∧ resp.cell = .timer i r
        | .qbv r => ∃ i, p = some i ∧ resp.cell = .port i r
        | _ => True) ∧
      OwnSelection (a.timerAfter t) (a.portAfter p) l

/-- The code accesses the timers (ports) only after it has selected one; `t` (`p`): it has. -/
def Selects {α : Type} : Bool → Bool → SwitchM α → Prop
  | _, _, .ret _ => True
  | _, _, .fail _ => True
  | t, p, .op o k =>
      (match o.reg with
        | .timer _ => t = true
        | .qbv _ => p = true
        | _ => True) ∧
      ∀ v, Selects ((o.timerAfter none).isSome || t) ((o.portAfter none).isSome || p) (k v)

section Selects

variable {α β : Type} {t p t' p' : Bool}

theorem Selects.mono {m : SwitchM α} (hm : Selects t p m) (ht : t = true → t' = true)
    (hp : p = true → p' = true) : Selects t' p' m := by
  induction m generalizing t p t' p' with
  | ret a => trivial
  | fail e => trivial
  | op o k ih =>
      obtain ⟨hreg, hrest⟩ := hm
      refine ⟨?_, fun v => ih v (hrest v) ?_ ?_⟩
      · cases hr : o.reg with
        | timer r =>
            rw [hr] at hreg
            exact ht hreg
        | qbv r =>
            rw [hr] at hreg
            exact hp hreg
        | _ => trivial
      · intro h
        rcases Bool.or_eq_true_iff.mp h with h | h
        · rw [h, Bool.true_or]
        · rw [ht h, Bool.or_true]
      · intro h
        rcases Bool.or_eq_true_iff.mp h with h | h
        · rw [h, Bool.true_or]
        · rw [hp h, Bool.or_true]

theorem Selects.bind {m : SwitchM α} {f : α → SwitchM β} (hm : Selects t p m)
    (hf : ∀ a, Selects t p (f a)) : Selects t p (m >>= f) := by
  induction m generalizing t p with
  | ret a => exact hf a
  | fail e => trivial
  | op o k ih =>
      refine ⟨hm.1, fun v => ih v (hm.2 v) fun a => (hf a).mono ?_ ?_⟩
      · intro h
        rw [h, Bool.or_true]
      · intro h
        rw [h, Bool.or_true]

theorem selects_selectTimer {v : UInt32} {k : Unit → SwitchM α} (hk : Selects true p (k ())) :
    Selects t p (writeReg .asTSelector v >>= k) :=
  ⟨trivial, fun _ => hk⟩

theorem selects_selectPort {v : UInt32} {k : Unit → SwitchM α} (hk : Selects t true (k ())) :
    Selects t p (writeReg .qbvPortSelector v >>= k) :=
  ⟨trivial, fun _ => hk⟩

theorem selects_readTimer {r : TimerReg} {k : UInt32 → SwitchM α} (hk : ∀ v, Selects true p (k v)) :
    Selects true p (readReg (.timer r) >>= k) :=
  ⟨rfl, fun _ => hk _⟩

theorem selects_writeTimer (r : TimerReg) (v : UInt32) : Selects true p (writeReg (.timer r) v) :=
  ⟨rfl, fun _ => trivial⟩

theorem selects_readQbv {r : QbvReg} {k : UInt32 → SwitchM α} (hk : ∀ v, Selects t true (k v)) :
    Selects t true (readReg (.qbv r) >>= k) :=
  ⟨rfl, fun _ => hk _⟩

theorem selects_writeQbv (r : QbvReg) (v : UInt32) : Selects t true (writeReg (.qbv r) v) :=
  ⟨rfl, fun _ => trivial⟩

theorem selects_ofNext (o : Option UInt64) : Selects t p (ofNext o) := by
  cases o <;> trivial

theorem selects_readPortTime : Selects t true readPortTime := by
  refine selects_readQbv fun domain => selects_selectTimer ?_
  exact selects_readTimer fun sec => selects_readTimer fun nsec => trivial

theorem selects_applyCycleStartTime (current base : UInt64) (cycle : UInt32) :
    Selects t true (applyCycleStartTime current base cycle) := by
  rw [applyCycleStartTime, getCycleStartTime_eq]
  refine (selects_ofNext _).bind fun start => ?_
  exact (selects_writeQbv _ _).bind fun _ => (selects_writeQbv _ _).bind fun _ => selects_writeQbv _ _

theorem selects_retimeDecide (current base : UInt64) (cycle : UInt32) :
    Selects t true (retimeDecide current base cycle) := by
  refine selects_readQbv fun state => ?_
  split
  · refine selects_readQbv fun cctHi => selects_readQbv fun cctLo => ?_
    split
    · exact selects_writeQbv _ _
    · exact (selects_applyCycleStartTime _ _ _).bind fun _ => selects_writeQbv _ _
  · exact selects_applyCycleStartTime _ _ _

theorem selects_retimePort (hi lo : QbvReg) : Selects t true (retimePort hi lo) := by
  refine (selects_writeQbv _ _).bind fun _ => selects_readQbv fun cycle => ?_
  refine selects_readQbv fun hi => selects_readQbv fun lo => ?_
  exact selects_readPortTime.bind fun current => selects_retimeDecide _ _ _

theorem selects_configChangePort : Selects t true configChangePort := by
  refine selects_readQbv fun cycle => selects_readQbv fun hi => selects_readQbv fun lo => ?_
  refine selects_readPortTime.bind fun current => ?_
  rw [getConfigChangeTime_eq]
  refine (selects_ofNext _).bind fun time => ?_
  exact (selects_writeQbv _ _).bind fun _ => (selects_writeQbv _ _).bind fun _ => selects_writeQbv _ _

theorem selects_timerValueChangePorts (i : UInt32) (ports : List UInt32) :
    Selects t p (timerValueChangePorts i ports) := by
  induction ports with
  | nil => trivial
  | cons q ports ih =>
      refine Selects.bind (selects_selectPort (selects_readQbv fun gate => ?_)) fun _ => ih
      split
      · refine selects_readQbv fun domain => ?_
        split
        · exact selects_retimePort _ _
        · trivial
      · trivial

/-- Reading and clearing a request register needs no selection. -/
theorem selects_handler {r : ReqReg} {body : UInt32 → SwitchM Unit}
    (hbody : ∀ mask, Selects t p (body mask)) : Selects t p (handler r body) :=
  ⟨trivial, fun _ => (hbody _).bind fun _ => ⟨trivial, fun _ => trivial⟩⟩

/-- Every operation selects before it accesses a bank. -/
theorem SwitchOp.selects (scaledPpmToPpb : Int64 → Int64) (cfg : SwitchConfig) (op : SwitchOp) :
    Selects false false (op.prog scaledPpmToPpb cfg) := by
  cases op with
  | gettime64 clock =>
      refine Selects.bind (selects_selectTimer ?_) fun _ => trivial
      exact selects_readTimer fun sec => selects_readTimer fun nsec => trivial
  | settime64 clock ts =>
      refine Selects.bind (selects_selectTimer ?_) fun _ => trivial
      exact (selects_writeTimer _ _).bind fun _ => selects_writeTimer _ _
  | adjtime clock delta =>
      refine Selects.bind (selects_selectTimer ?_) fun _ => trivial
      refine selects_readTimer fun sec => selects_readTimer fun nsec => ?_
      exact (selects_writeTimer _ _).bind fun _ => selects_writeTimer _ _
  | adjfine clock scaledPpm =>
      exact Selects.bind (selects_selectTimer (selects_writeTimer _ _)) fun _ => trivial
  | configChange =>
      refine Selects.bind (selects_handler fun mask => ?_) fun _ => trivial
      rw [configChangeBody]
      split
      · exact selects_selectPort selects_configChangePort
      · trivial
  | timerChange =>
      refine Selects.bind (selects_handler fun mask => ?_) fun _ => trivial
      rw [timerChangeBody]
      split
      · refine selects_selectPort (selects_readQbv fun gate => ?_)
        split
        · exact selects_retimePort _ _
        · trivial
      · trivial
  | timerValueChange =>
      exact Selects.bind (selects_handler fun mask => selects_timerValueChangePorts _ _) fun _ => trivial

end Selects

/-! ## Selections along a trace -/

theorem isSome_timerAfter (a : Access) (t : Option UInt32) :
    (a.timerAfter t).isSome = ((a.timerAfter none).isSome || t.isSome) := by
  cases a with
  | read r => rfl
  | write r v => cases r <;> rfl

theorem isSome_portAfter (a : Access) (p : Option UInt32) :
    (a.portAfter p).isSome = ((a.portAfter none).isSome || p.isSome) := by
  cases a with
  | read r => rfl
  | write r v => cases r <;> rfl

theorem switchDev_asTSelector {a : Access} {s : SwitchRegs} {t : Option UInt32}
    (h : ∀ i, t = some i → s .asTSelector = i) :
    ∀ i, a.timerAfter t = some i → (switchDev a s).2 .asTSelector = i := by
  intro i hi
  cases a with
  | read r => exact h i hi
  | write r v =>
      cases r with
      | asTSelector =>
          cases hi
          exact switchDev_write_self .asTSelector _ s
      | _ =>
          refine Eq.trans (switchDev_write_of_ne ?_) (h i hi)
          intro hcell
          cases hcell

theorem switchDev_qbvPortSelector {a : Access} {s : SwitchRegs} {p : Option UInt32}
    (h : ∀ i, p = some i → s .qbvPortSelector = i) :
    ∀ i, a.portAfter p = some i → (switchDev a s).2 .qbvPortSelector = i := by
  intro i hi
  cases a with
  | read r => exact h i hi
  | write r v =>
      cases r with
      | qbvPortSelector =>
          cases hi
          exact switchDev_write_self .qbvPortSelector _ s
      | _ =>
          refine Eq.trans (switchDev_write_of_ne ?_) (h i hi)
          intro hcell
          cases hcell

/-- Code that selects first, and that the device answers without interference, accesses what it has
selected. -/
theorem Selects.ownSelection {α : Type} {m m' : SwitchM α} {l : List (Access × Resp)}
    {s u : SwitchRegs} {t p : Option UInt32} (hm : Selects t.isSome p.isSome m)
    (hfollows : Prog.Follows m l m') (hexec : Prog.Exec switchDev s l u)
    (ht : ∀ i, t = some i → s .asTSelector = i) (hp : ∀ i, p = some i → s .qbvPortSelector = i) :
    OwnSelection t p l := by
  induction hfollows generalizing s t p with
  | nil m => trivial
  | @cons o k v l m' _ ih =>
      cases hexec with
      | @cons _ w _ _ _ _ hstep hrest =>
      obtain ⟨hreg, hk⟩ := hm
      have hcell : v.cell = o.reg.cell s := by
        cases o <;> exact (congrArg (fun x => x.1.cell) hstep).symm
      have hw : w = (switchDev o s).2 := (congrArg Prod.snd hstep).symm
      constructor
      · cases hr : o.reg with
        | timer r =>
            rw [hr] at hreg hcell
            obtain ⟨i, hi⟩ := Option.isSome_iff_exists.mp hreg
            exact ⟨i, hi, by rw [hcell, Reg.cell, ht i hi]⟩
        | qbv r =>
            rw [hr] at hreg hcell
            obtain ⟨i, hi⟩ := Option.isSome_iff_exists.mp hreg
            exact ⟨i, hi, by rw [hcell, Reg.cell, hp i hi]⟩
        | _ => trivial
      · apply ih (s := w) _ hrest
        · rw [hw]
          exact switchDev_asTSelector ht
        · rw [hw]
          exact switchDev_qbvPortSelector hp
        · rw [isSome_timerAfter, isSome_portAfter]
          exact hk v

/-! ## Two operations -/

/-- No access of the operation named first comes after an access of the other one that it conflicts
with. -/
def Orderly (first : Side) (trace : List (Side × Access × Resp)) : Prop :=
  trace.Pairwise fun x y => x.1 ≠ first → y.1 = first → ¬ Conflict x.2 y.2

instance (first : Side) (trace : List (Side × Access × Resp)) : Decidable (Orderly first trace) :=
  inferInstanceAs (Decidable (List.Pairwise _ trace))

theorem Orderly.serialFirst {first : Side} {trace : List (Side × Access × Resp)}
    (h : Orderly first trace) : SerialFirst switchDev first trace :=
  h.imp fun hxy hx hy => swappable_of_not_conflict (hxy hx hy)

/-- `p` and then `q`, each run alone, return these results and leave this state. -/
def Serial (p q : SwitchM (Option Timespec64)) (s : SwitchRegs)
    (rp rq : Except SwitchFault (Option Timespec64)) (final : SwitchRegs) : Prop :=
  (p.run switchDev s).result = rp ∧ (q.run switchDev (p.run switchDev s).final).result = rq ∧
    (q.run switchDev (p.run switchDev s).final).final = final

/-- Two operations are atomic in an interleaving: once they have ended, results and state are those of
one of the serial orders, and none has accessed a timer or port that it had not selected. -/
def Atomic (p q : SwitchM (Option Timespec64)) (s : SwitchRegs) (sched : List Side) : Prop :=
  let j := interleave switchDev sched p q s
  (∀ rp rq, j.left.ended = some rp → j.right.ended = some rq →
      Serial p q s rp rq j.state ∨ Serial q p s rq rp j.state) ∧
    OwnSelection none none (ofSide .left j.trace) ∧ OwnSelection none none (ofSide .right j.trace)

/-- Two traces one after the other, each of code that selects first. -/
theorem ownSelection_of_exec {α β : Type} {m m' : SwitchM α} {n n' : SwitchM β}
    {l l' : List (Access × Resp)} {s u : SwitchRegs} (hm : Selects false false m)
    (hn : Selects false false n) (hl : Prog.Follows m l m') (hl' : Prog.Follows n l' n')
    (hexec : Prog.Exec switchDev s (l ++ l') u) :
    OwnSelection none none l ∧ OwnSelection none none l' := by
  obtain ⟨w, hfirst, hsecond⟩ := hexec.append_inv
  have hnone : ∀ {v : UInt32} (i : UInt32), none = some i → v = i := fun _ h => nomatch h
  exact ⟨hm.ownSelection (t := none) (p := none) hl hfirst hnone hnone,
    hn.ownSelection (t := none) (p := none) hl' hsecond hnone hnone⟩

/-- **Atomicity.** Two operations are atomic in every interleaving in which one of them can be named
first, so that none of its accesses comes after a conflicting access of the other. -/
theorem interleave_atomic (scaledPpmToPpb : Int64 → Int64) (cfg : SwitchConfig) (a b : SwitchOp)
    (s : SwitchRegs) (sched : List Side)
    (h : ∃ first, Orderly first (interleave switchDev sched (a.prog scaledPpmToPpb cfg)
      (b.prog scaledPpmToPpb cfg) s).trace) :
    Atomic (a.prog scaledPpmToPpb cfg) (b.prog scaledPpmToPpb cfg) s sched := by
  obtain ⟨first, horder⟩ := h
  have hserial := horder.serialFirst
  have ha := a.selects scaledPpmToPpb cfg
  have hb := b.selects scaledPpmToPpb cfg
  obtain ⟨hexec, hleft, hright⟩ :=
    interleave_spec switchDev sched (a.prog scaledPpmToPpb cfg) (b.prog scaledPpmToPpb cfg) s
  cases first with
  | left =>
      refine ⟨fun ra rb hra hrb => Or.inl ?_, ?_⟩
      · obtain ⟨u, hp, hq⟩ := interleave_serial_left hra hrb hserial
        rw [Serial, hp, hq]
        exact ⟨rfl, rfl, rfl⟩
      · have hsorted := exec_sorted (by decide : Side.left ≠ .right) hexec hserial
        exact ownSelection_of_exec ha hb hleft hright hsorted
  | right =>
      refine ⟨fun ra rb hra hrb => Or.inr ?_, ?_⟩
      · obtain ⟨u, hq, hp⟩ := interleave_serial_right hra hrb hserial
        rw [Serial, hq, hp]
        exact ⟨rfl, rfl, rfl⟩
      · have hsorted := exec_sorted (by decide : Side.right ≠ .left) hexec hserial
        exact (ownSelection_of_exec hb ha hright hleft hsorted).symm

/-- Timer 1 shows 5 ns, timer 2 shows 7 ns. -/
def twoTimers : SwitchRegs
  | .timer 1 .valLo => 5
  | .timer 2 .valLo => 7
  | _ => 0

/-- The clock of domain `i`. -/
def domainClock (i : UInt32) : PtpClock := ⟨i, 1000⟩

/-- Both clocks are read; the second selection comes before the first clock has been read. The first
call gets the time of the other clock. -/
theorem gettime64_not_atomic :
    ¬ Atomic (SwitchOp.prog ppmToPpb smallConfig (.gettime64 (domainClock 0)))
      (SwitchOp.prog ppmToPpb smallConfig (.gettime64 (domainClock 1))) twoTimers
      [.left, .right, .left, .left, .right, .right] := by
  intro h
  rcases h.1 (.ok (some ⟨0, 7⟩)) (.ok (some ⟨0, 7⟩)) rfl rfl with h | h
  · exact absurd (show (some ⟨0, 5⟩ : Option Timespec64) = some ⟨0, 7⟩ from Except.ok.inj h.1) (by decide)
  · exact absurd (show (some ⟨0, 5⟩ : Option Timespec64) = some ⟨0, 7⟩ from Except.ok.inj h.2.1)
      (by decide)

/-- Two readings of one clock that overlap. -/
theorem interleave_atomic_same_clock :
    Atomic (SwitchOp.prog ppmToPpb smallConfig (.gettime64 (domainClock 0)))
      (SwitchOp.prog ppmToPpb smallConfig (.gettime64 (domainClock 0))) twoTimers
      [.left, .right, .right, .left, .left, .right] := by
  apply interleave_atomic
  refine ⟨.left, ?_⟩
  decide

end Axm57104.Switch
