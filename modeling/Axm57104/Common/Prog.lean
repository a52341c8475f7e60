import Mathlib.Algebra.GroupWithZero.Nat
import Mathlib.Data.List.Basic
import Mathlib.Tactic.Common

/-!
# Programs over a shared device

A `Prog` performs accesses one at a time; each access is atomic and gets a response from the device,
on which the rest of the program depends. `Prog.run` executes a program alone and logs its accesses,
`interleave` executes two programs under a schedule.

Serialisability is argued on traces of accesses with their responses. `Swappable x y` says that `x`
and then `y`, answered as they were, could have been performed the other way round with the same
answers and to the same effect. If every access of one program is swappable with the accesses of the
other that precede it, the interleaving is the first program's run followed by the second's
(`interleave_serial`).
-/

namespace Common

/-- Programs with accesses in `ω`, responses in `ν`, failures in `φ` and results in `α`. -/
inductive Prog (ω ν φ α : Type) : Type
  | ret (a : α)
  | fail (f : φ)
  | op (o : ω) (k : ν → Prog ω ν φ α)

/-- What performing an access does to the state of a device, and what it answers. -/
abbrev Device (σ ω ν : Type) : Type := ω → σ → ν × σ

/-- How a run ended, the state it left and the accesses it made. -/
structure Outcome (σ ω ν φ α : Type) : Type where
  result : Except φ α
  final : σ
  log : List (ω × ν)

/-- One more access in front of a run. -/
def Outcome.cons {σ ω ν φ α : Type} (x : ω × ν) (o : Outcome σ ω ν φ α) : Outcome σ ω ν φ α :=
  { o with log := x :: o.log }

/-- More accesses in front of a run. -/
def Outcome.prepend {σ ω ν φ α : Type} (l : List (ω × ν)) (o : Outcome σ ω ν φ α) :
    Outcome σ ω ν φ α :=
  { o with log := l ++ o.log }

@[simp] theorem Outcome.result_cons {σ ω ν φ α : Type} (x : ω × ν) (o : Outcome σ ω ν φ α) :
    (o.cons x).result = o.result := rfl

@[simp] theorem Outcome.log_cons {σ ω ν φ α : Type} (x : ω × ν) (o : Outcome σ ω ν φ α) :
    (o.cons x).log = x :: o.log := rfl

namespace Prog

variable {σ ω ν φ α β : Type}

protected def bind : Prog ω ν φ α → (α → Prog ω ν φ β) → Prog ω ν φ β
  | ret a, f => f a
  | fail e, _ => fail e
  | op o k, f => op o fun v => (k v).bind f

instance : Monad (Prog ω ν φ) where
  pure := ret
  bind := Prog.bind

@[simp] theorem ret_bind (a : α) (f : α → Prog ω ν φ β) : ret a >>= f = f a := rfl

@[simp] theorem fail_bind (e : φ) (f : α → Prog ω ν φ β) : fail e >>= f = fail e := rfl

@[simp] theorem op_bind (o : ω) (k : ν → Prog ω ν φ α) (f : α → Prog ω ν φ β) :
    op o k >>= f = op o fun v => k v >>= f := rfl

theorem bind_bind {γ : Type} (p : Prog ω ν φ α) (f : α → Prog ω ν φ β) (g : β → Prog ω ν φ γ) :
    p >>= f >>= g = p >>= fun a => f a >>= g := by
  induction p with
  | ret a => rfl
  | fail e => rfl
  | op o k ih => exact congrArg (op o) (funext fun v => ih v)

theorem bind_ret (p : Prog ω ν φ α) : p >>= ret = p := by
  induction p with
  | ret a => rfl
  | fail e => rfl
  | op o k ih => exact congrArg (op o) (funext fun v => ih v)

@[simp] theorem pure_eq_ret (a : α) : (pure a : Prog ω ν φ α) = ret a := rfl

/-- A program run alone. -/
def run (dev : Device σ ω ν) : Prog ω ν φ α → σ → Outcome σ ω ν φ α
  | ret a, s => ⟨.ok a, s, []⟩
  | fail e, s => ⟨.error e, s, []⟩
  | op o k, s => (run dev (k (dev o s).1) (dev o s).2).cons (o, (dev o s).1)

theorem run_bind_ok {dev : Device σ ω ν} {p : Prog ω ν φ α} {s : σ} {a : α}
    (h : (p.run dev s).result = .ok a) (f : α → Prog ω ν φ β) :
    (p >>= f).run dev s = ((f a).run dev (p.run dev s).final).prepend (p.run dev s).log := by
  induction p generalizing s with
  | ret b =>
      cases h
      rfl
  | fail e => cases h
  | op o k ih =>
      rw [op_bind, run]
      simp only [ih _ h]
      rfl

theorem run_bind_error {dev : Device σ ω ν} {p : Prog ω ν φ α} {s : σ} {e : φ}
    (h : (p.run dev s).result = .error e) (f : α → Prog ω ν φ β) :
    (p >>= f).run dev s = ⟨.error e, (p.run dev s).final, (p.run dev s).log⟩ := by
  induction p generalizing s with
  | ret b => cases h
  | fail e' =>
      cases h
      rfl
  | op o k ih =>
      rw [op_bind, run]
      simp only [ih _ h]
      rfl

/-! ## What a program may access -/

/-- Every access the program can make satisfies `P`. -/
def All (P : ω → Prop) : Prog ω ν φ α → Prop
  | ret _ => True
  | fail _ => True
  | op o k => P o ∧ ∀ v, (k v).All P

theorem All.bind {P : ω → Prop} {p : Prog ω ν φ α} {f : α → Prog ω ν φ β} (hp : p.All P)
    (hf : ∀ a, (f a).All P) : (p >>= f).All P := by
  induction p with
  | ret a => exact hf a
  | fail e => trivial
  | op o k ih => exact ⟨hp.1, fun v => ih v (hp.2 v)⟩

theorem All.mono {P Q : ω → Prop} (h : ∀ o, P o → Q o) {p : Prog ω ν φ α} (hp : p.All P) :
    p.All Q := by
  induction p with
  | ret a => trivial
  | fail e => trivial
  | op o k ih => exact ⟨h o hp.1, fun v => ih v (hp.2 v)⟩

/-- What every access of the program keeps, its run keeps. -/
theorem All.invariant {P : ω → Prop} {dev : Device σ ω ν} {I : σ → Prop}
    (hdev : ∀ o, P o → ∀ s, I s → I (dev o s).2) {p : Prog ω ν φ α} (hp : p.All P) {s : σ}
    (h : I s) : I (p.run dev s).final := by
  induction p generalizing s with
  | ret a => exact h
  | fail e => exact h
  | op o k ih => exact ih _ (hp.2 _) (hdev o hp.1 s h)

/-- The accesses of a run are among those the program can make. -/
theorem All.mem_log {P : ω → Prop} {dev : Device σ ω ν} {p : Prog ω ν φ α} (hp : p.All P) {s : σ}
    {x : ω × ν} (hx : x ∈ (p.run dev s).log) : P x.1 := by
  induction p generalizing s with
  | ret a => cases hx
  | fail e => cases hx
  | op o k ih =>
      rcases List.mem_cons.mp hx with rfl | hx
      · exact hp.1
      · exact ih _ (hp.2 _) hx

/-- **Simulation.** A program does the same on two devices that give the same answers to the accesses
it makes. -/
theorem All.simulates {τ : Type} {P : ω → Prop} {dev : Device σ ω ν} {dev' : Device τ ω ν}
    {I : σ → τ → Prop}
    (hdev : ∀ o, P o → ∀ s t, I s t → (dev o s).1 = (dev' o t).1 ∧ I (dev o s).2 (dev' o t).2)
    {p : Prog ω ν φ α} (hp : p.All P) {s : σ} {t : τ} (h : I s t) :
    (p.run dev s).result = (p.run dev' t).result ∧ (p.run dev s).log = (p.run dev' t).log ∧
      I (p.run dev s).final (p.run dev' t).final := by
  induction p generalizing s t with
  | ret a => exact ⟨rfl, rfl, h⟩
  | fail e => exact ⟨rfl, rfl, h⟩
  | op o k ih =>
      obtain ⟨hanswer, hnext⟩ := hdev o hp.1 s t h
      obtain ⟨hresult, hlog, hfinal⟩ := ih _ (hp.2 _) hnext
      simp only [run, Outcome.cons, hanswer] at hresult hlog hfinal ⊢
      exact ⟨hresult, congrArg _ hlog, hfinal⟩

/-! ## What a program may return -/

/-- Whatever the responses, the program does not fail and its result satisfies `P`. -/
def Returns (P : α → Prop) : Prog ω ν φ α → Prop
  | ret a => P a
  | fail _ => False
  | op _ k => ∀ v, (k v).Returns P

theorem Returns.bind {P : α → Prop} {Q : β → Prop} {p : Prog ω ν φ α} {f : α → Prog ω ν φ β}
    (hp : p.Returns P) (hf : ∀ a, P a → (f a).Returns Q) : (p >>= f).Returns Q := by
  induction p with
  | ret a => exact hf a hp
  | fail e => exact hp
  | op o k ih => exact fun v => ih v (hp v)

/-- A program without failures returns. -/
theorem returns_of_isEmpty [IsEmpty φ] (p : Prog ω ν φ α) : p.Returns fun _ => True := by
  induction p with
  | ret a => trivial
  | fail e => exact isEmptyElim e
  | op o k ih => exact ih

theorem Returns.run {P : α → Prop} {p : Prog ω ν φ α} (hp : p.Returns P) (dev : Device σ ω ν)
    (s : σ) : ∃ a, (p.run dev s).result = .ok a ∧ P a := by
  induction p generalizing s with
  | ret a => exact ⟨a, rfl, hp⟩
  | fail e => exact hp.elim
  | op o k ih => exact ih _ (hp _) _

/-! ## Along a run -/

/-- Every access of the run from `s` satisfies `P` in the state in which it is made. -/
def Along (dev : Device σ ω ν) (P : σ → ω → Prop) : Prog ω ν φ α → σ → Prop
  | ret _, _ => True
  | fail _, _ => True
  | op o k, s => P s o ∧ (k (dev o s).1).Along dev P (dev o s).2

theorem Along.bind {dev : Device σ ω ν} {P : σ → ω → Prop} {p : Prog ω ν φ α}
    {f : α → Prog ω ν φ β} {s : σ} (hp : p.Along dev P s)
    (hf : ∀ a, (p.run dev s).result = .ok a → (f a).Along dev P (p.run dev s).final) :
    (p >>= f).Along dev P s := by
  induction p generalizing s with
  | ret a => exact hf a rfl
  | fail e => trivial
  | op o k ih => exact ⟨hp.1, ih _ hp.2 hf⟩

/-- What the accesses of a program keep can be assumed at each of them. -/
theorem All.along {Q : ω → Prop} {dev : Device σ ω ν} {P : σ → ω → Prop} {I : σ → Prop}
    (hdev : ∀ o, Q o → ∀ s, I s → I (dev o s).2) (hP : ∀ o, Q o → ∀ s, I s → P s o)
    {p : Prog ω ν φ α} (hp : p.All Q) {s : σ} (h : I s) : p.Along dev P s := by
  induction p generalizing s with
  | ret a => trivial
  | fail e => trivial
  | op o k ih => exact ⟨hP o hp.1 s h, ih _ (hp.2 _) (hdev o hp.1 s h)⟩

/-! ## Traces -/

/-- A sequence of accesses with the responses the device gives to them. -/
inductive Exec (dev : Device σ ω ν) : σ → List (ω × ν) → σ → Prop
  | nil (s : σ) : Exec dev s [] s
  | cons {s u t : σ} {o : ω} {v : ν} {l : List (ω × ν)} :
      dev o s = (v, u) → Exec dev u l t → Exec dev s ((o, v) :: l) t

/-- Answered as in the list, the program makes these accesses and is left with the rest. -/
inductive Follows : Prog ω ν φ α → List (ω × ν) → Prog ω ν φ α → Prop
  | nil (p : Prog ω ν φ α) : Follows p [] p
  | cons {o : ω} {k : ν → Prog ω ν φ α} {v : ν} {l : List (ω × ν)} {p : Prog ω ν φ α} :
      Follows (k v) l p → Follows (op o k) ((o, v) :: l) p

/-- The program has come to its end. -/
def ended : Prog ω ν φ α → Option (Except φ α)
  | ret a => some (.ok a)
  | fail e => some (.error e)
  | op _ _ => none

theorem Exec.append_inv {dev : Device σ ω ν} {l l' : List (ω × ν)} {s t : σ}
    (h : Exec dev s (l ++ l') t) : ∃ u, Exec dev s l u ∧ Exec dev u l' t := by
  induction l generalizing s with
  | nil => exact ⟨s, .nil s, h⟩
  | cons x l ih =>
      cases h with
      | cons hx hrest =>
          obtain ⟨u, hl, hl'⟩ := ih hrest
          exact ⟨u, hl.cons hx, hl'⟩

theorem Exec.snoc {dev : Device σ ω ν} {l : List (ω × ν)} {s t u : σ} {o : ω} {v : ν}
    (h : Exec dev s l t) (ho : dev o t = (v, u)) : Exec dev s (l ++ [(o, v)]) u := by
  induction h with
  | nil s => exact .cons ho (.nil u)
  | cons hx _ ih => exact .cons hx (ih ho)

theorem Follows.snoc {p : Prog ω ν φ α} {l : List (ω × ν)} {o : ω} {k : ν → Prog ω ν φ α}
    (h : Follows p l (op o k)) (v : ν) : Follows p (l ++ [(o, v)]) (k v) := by
  generalize hq : op o k = q at h
  induction h with
  | nil p =>
      subst hq
      exact .cons (.nil _)
  | cons _ ih => exact .cons (ih hq)

/-- A program that follows a trace of the device to its end has run alone. -/
theorem Follows.run_eq {dev : Device σ ω ν} {p p' : Prog ω ν φ α} {l : List (ω × ν)} {s t : σ}
    {r : Except φ α} (hf : Follows p l p') (he : Exec dev s l t) (hend : p'.ended = some r) :
    p.run dev s = ⟨r, t, l⟩ := by
  induction hf generalizing s with
  | nil p =>
      cases he
      cases p with
      | ret a =>
          cases hend
          rfl
      | fail e =>
          cases hend
          rfl
      | op o k => cases hend
  | cons _ ih =>
      cases he with
      | cons ho hrest => simp only [run, ho, ih hrest hend, Outcome.cons]

/-! ## Exchanging accesses -/

/-- Two consecutive accesses, answered as given, can be exchanged. -/
def Swappable (dev : Device σ ω ν) (x y : ω × ν) : Prop :=
  ∀ s u t, dev x.1 s = (x.2, u) → dev y.1 u = (y.2, t) →
    ∃ u', dev y.1 s = (y.2, u') ∧ dev x.1 u' = (x.2, t)

/-- An access that is swappable with all of `l` can be made after `l`. -/
theorem Exec.move_right {dev : Device σ ω ν} {x : ω × ν} {l l' : List (ω × ν)} {s t : σ}
    (h : Exec dev s (x :: (l ++ l')) t) (hswap : ∀ y ∈ l, Swappable dev x y) :
    Exec dev s (l ++ x :: l') t := by
  induction l generalizing s with
  | nil => exact h
  | cons y l ih =>
      rcases h with _ | ⟨hx, hrest⟩
      rcases hrest with _ | ⟨hy, hrest⟩
      obtain ⟨u', hy', hx'⟩ := hswap _ (List.mem_cons_self ..) _ _ _ hx hy
      apply Exec.cons hy'
      apply ih
      · exact Exec.cons hx' hrest
      · exact fun z hz => hswap z (List.mem_cons_of_mem _ hz)

end Prog

/-! ## Two programs -/

/-- Which of two programs makes a step. -/
inductive Side
  | left
  | right
  deriving DecidableEq, Repr

/-- Two programs after some of their steps. -/
structure Joint (σ ω ν φ α β : Type) : Type where
  left : Prog ω ν φ α
  right : Prog ω ν φ β
  state : σ
  trace : List (Side × ω × ν)

section Interleave

open Prog

variable {σ ω ν φ α β : Type}

/-- Two programs under a schedule; a program that has ended lets its turns pass. -/
def interleave (dev : Device σ ω ν) :
    List Side → Prog ω ν φ α → Prog ω ν φ β → σ → Joint σ ω ν φ α β
  | [], p, q, s => ⟨p, q, s, []⟩
  | .left :: sched, .op o k, q, s =>
      let rest := interleave dev sched (k (dev o s).1) q (dev o s).2
      { rest with trace := (.left, o, (dev o s).1) :: rest.trace }
  | .right :: sched, p, .op o k, s =>
      let rest := interleave dev sched p (k (dev o s).1) (dev o s).2
      { rest with trace := (.right, o, (dev o s).1) :: rest.trace }
  | _ :: sched, p, q, s => interleave dev sched p q s

/-- The accesses of one side. -/
def ofSide (side : Side) (trace : List (Side × ω × ν)) : List (ω × ν) :=
  (trace.filter fun e => e.1 = side).map Prod.snd

theorem ofSide_cons_self (side : Side) (x : ω × ν) (trace : List (Side × ω × ν)) :
    ofSide side ((side, x) :: trace) = x :: ofSide side trace := by
  simp [ofSide]

theorem ofSide_cons_ne {side side' : Side} (h : side' ≠ side) (x : ω × ν)
    (trace : List (Side × ω × ν)) : ofSide side ((side', x) :: trace) = ofSide side trace := by
  simp [ofSide, h]

/-- An interleaving is a trace of the device, and each program follows its own part of it. -/
theorem interleave_spec (dev : Device σ ω ν) (sched : List Side) (p : Prog ω ν φ α)
    (q : Prog ω ν φ β) (s : σ) :
    let j := interleave dev sched p q s
    Exec dev s (j.trace.map Prod.snd) j.state ∧ Follows p (ofSide .left j.trace) j.left ∧
      Follows q (ofSide .right j.trace) j.right := by
  fun_induction interleave dev sched p q s with
  | case1 p q s => exact ⟨.nil s, .nil p, .nil q⟩
  | case2 sched q s o k rest ih =>
      obtain ⟨hexec, hleft, hright⟩ := ih
      refine ⟨hexec.cons rfl, ?_, ?_⟩
      · rw [ofSide_cons_self]
        exact hleft.cons
      · rwa [ofSide_cons_ne (by decide)]
  | case3 sched p s o k rest ih =>
      obtain ⟨hexec, hleft, hright⟩ := ih
      refine ⟨hexec.cons rfl, ?_, ?_⟩
      · rwa [ofSide_cons_ne (by decide)]
      · rw [ofSide_cons_self]
        exact hright.cons
  | case4 => assumption

/-- A trace in which the accesses of `first` can be moved in front of the others'. -/
def SerialFirst (dev : Device σ ω ν) (first : Side) (trace : List (Side × ω × ν)) : Prop :=
  trace.Pairwise fun x y => x.1 ≠ first → y.1 = first → Swappable dev x.2 y.2

/-- Sorting a trace: all accesses of `first`, then all of the other side. -/
theorem exec_sorted {dev : Device σ ω ν} {first second : Side} (hne : first ≠ second)
    {trace : List (Side × ω × ν)} {s t : σ} (hexec : Exec dev s (trace.map Prod.snd) t)
    (hserial : SerialFirst dev first trace) :
    Exec dev s (ofSide first trace ++ ofSide second trace) t := by
  induction trace generalizing s with
  | nil => exact hexec
  | cons x trace ih =>
      obtain ⟨side, o, v⟩ := x
      obtain ⟨hx, hrest⟩ := List.pairwise_cons.mp hserial
      rw [List.map_cons] at hexec
      rcases hexec with _ | ⟨ho, hexec⟩
      have hsorted := (ih hexec hrest).cons ho
      by_cases hside : side = first
      · subst hside
        rw [ofSide_cons_self, ofSide_cons_ne hne]
        exact hsorted
      · have hsecond : side = second := by
          cases side <;> cases first <;> cases second <;> simp_all
        subst hsecond
        rw [ofSide_cons_ne hside, ofSide_cons_self]
        apply hsorted.move_right
        intro y hy
        obtain ⟨e, he, rfl⟩ := List.mem_map.mp hy
        obtain ⟨hmem, hfirst⟩ := List.mem_filter.mp he
        exact hx e hmem hside (of_decide_eq_true hfirst)

/-- **Serialisation.** An interleaving of two programs that both came to their end, and in which the
left program's accesses can be moved to the front, is the left program's run followed by the right
one's: the same results, the same accesses with the same answers, the same state. -/
theorem interleave_serial_left {dev : Device σ ω ν} {sched : List Side} {p : Prog ω ν φ α}
    {q : Prog ω ν φ β} {s : σ} {ra : Except φ α} {rb : Except φ β}
    (hleft : (interleave dev sched p q s).left.ended = some ra)
    (hright : (interleave dev sched p q s).right.ended = some rb)
    (hserial : SerialFirst dev .left (interleave dev sched p q s).trace) :
    let j := interleave dev sched p q s
    ∃ u, p.run dev s = ⟨ra, u, ofSide .left j.trace⟩ ∧
      q.run dev u = ⟨rb, j.state, ofSide .right j.trace⟩ := by
  obtain ⟨hexec, hl, hr⟩ := interleave_spec dev sched p q s
  have hne : Side.left ≠ Side.right := by decide
  obtain ⟨u, hu, hu'⟩ := (exec_sorted hne hexec hserial).append_inv
  exact ⟨u, hl.run_eq hu hleft, hr.run_eq hu' hright⟩

/-- The same with the right program first. -/
theorem interleave_serial_right {dev : Device σ ω ν} {sched : List Side} {p : Prog ω ν φ α}
    {q : Prog ω ν φ β} {s : σ} {ra : Except φ α} {rb : Except φ β}
    (hleft : (interleave dev sched p q s).left.ended = some ra)
    (hright : (interleave dev sched p q s).right.ended = some rb)
    (hserial : SerialFirst dev .right (interleave dev sched p q s).trace) :
    let j := interleave dev sched p q s
    ∃ u, q.run dev s = ⟨rb, u, ofSide .right j.trace⟩ ∧
      p.run dev u = ⟨ra, j.state, ofSide .left j.trace⟩ := by
  obtain ⟨hexec, hl, hr⟩ := interleave_spec dev sched p q s
  have hne : Side.right ≠ Side.left := by decide
  obtain ⟨u, hu, hu'⟩ := (exec_sorted hne hexec hserial).append_inv
  exact ⟨u, hr.run_eq hu hright, hl.run_eq hu' hleft⟩

end Interleave

end Common
