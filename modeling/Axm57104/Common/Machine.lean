import Mathlib.Algebra.GroupWithZero.Nat
import Mathlib.Data.List.Basic
import Mathlib.Data.Nat.Notation

/-!
# Machines with faults, and what holds along their runs

A `Machine` is a deterministic step function driven by events, together with the condition under
which its environment may deliver each event. A step may fault: a fault ends the run, so a safety
result about a machine has two halves, what every run preserves and which faults no run reaches.

`Machine.Run.invariant` is the induction rule for both halves. `Machine.restrict` narrows the
environment to the events that meet a further condition on the state before the step, which is how
a conditional safety result is stated over whole runs.
-/

namespace Common

universe u v

/-- A sequence of fallible steps succeeds exactly when each of them does. -/
theorem bind_eq_ok {φ : Type u} {α β : Type v} {x : Except φ α} {f : α → Except φ β} {b : β} :
    x >>= f = .ok b ↔ ∃ a, x = .ok a ∧ f a = .ok b := by
  cases x with
  | error e =>
      constructor
      · intro h
        cases h
      · rintro ⟨_, h, _⟩
        cases h
  | ok a =>
      constructor
      · exact fun h => ⟨a, rfl, h⟩
      · rintro ⟨_, h, hf⟩
        cases h
        exact hf

/-- A sequence of fallible steps fails when its first step does, or a later one. -/
theorem bind_eq_error {φ : Type u} {α β : Type v} {x : Except φ α} {f : α → Except φ β} {e : φ} :
    x >>= f = .error e ↔ x = .error e ∨ ∃ a, x = .ok a ∧ f a = .error e := by
  cases x with
  | error e' =>
      constructor
      · intro h
        cases h
        exact Or.inl rfl
      · rintro (h | ⟨_, h, _⟩)
        · cases h
          rfl
        · cases h
  | ok a =>
      constructor
      · exact fun h => Or.inr ⟨a, rfl, h⟩
      · rintro (h | ⟨_, h, hf⟩)
        · cases h
        · cases h
          exact hf

/-- A step function over states `σ` and events `ε`, with faults in `φ`. -/
structure Machine (σ ε φ : Type*) where
  /-- The environment may deliver the event in this state. -/
  enabled : σ → ε → Prop
  /-- What the event does. -/
  exec : σ → ε → Except φ σ

namespace Machine

variable {σ ε φ : Type*} {m : Machine σ ε φ} {s t u : σ} {e : ε} {es es' : List ε}

/-- `m.Run s es t`: the enabled events `es` lead from `s` to `t` without a fault. -/
inductive Run (m : Machine σ ε φ) (s : σ) : List ε → σ → Prop
  | nil : Run m s [] s
  | snoc {es : List ε} {t u : σ} {e : ε} :
      Run m s es t → m.enabled t e → m.exec t e = .ok u → Run m s (es ++ [e]) u

/-- No run from `s` ends in a state where an enabled event raises the fault `f`. -/
def Unreachable (m : Machine σ ε φ) (s : σ) (f : φ) : Prop :=
  ∀ es t e, m.Run s es t → m.enabled t e → m.exec t e ≠ .error f

/-- The machine whose environment also respects `c`, a condition on the state before the step. -/
def restrict (m : Machine σ ε φ) (c : σ → ε → Prop) : Machine σ ε φ where
  enabled s e := m.enabled s e ∧ c s e
  exec := m.exec

@[simp] theorem restrict_enabled (c : σ → ε → Prop) :
    (m.restrict c).enabled s e ↔ m.enabled s e ∧ c s e := Iff.rfl

@[simp] theorem restrict_exec (c : σ → ε → Prop) : (m.restrict c).exec s e = m.exec s e := rfl

instance restrict_decidable {c : σ → ε → Prop} [∀ s e, Decidable (m.enabled s e)]
    [∀ s e, Decidable (c s e)] (s : σ) (e : ε) : Decidable ((m.restrict c).enabled s e) :=
  inferInstanceAs (Decidable (m.enabled s e ∧ c s e))

/-- **The invariant rule.** What holds initially and is kept by every enabled step that does not
fault holds at the end of every run. -/
theorem Run.invariant {I : σ → Prop} (hr : m.Run s es t) (h0 : I s)
    (hstep : ∀ {t e u}, I t → m.enabled t e → m.exec t e = .ok u → I u) : I t := by
  induction hr with
  | nil => exact h0
  | snoc _ hen hex ih => exact hstep ih hen hex

theorem Run.single (hen : m.enabled s e) (hex : m.exec s e = .ok t) : m.Run s [e] t :=
  Run.snoc .nil hen hex

theorem Run.append (h₁ : m.Run s es t) (h₂ : m.Run t es' u) : m.Run s (es ++ es') u := by
  induction h₂ with
  | nil => rwa [List.append_nil]
  | snoc _ hen hex ih =>
      rw [← List.append_assoc]
      exact ih.snoc hen hex

theorem Run.cons (hen : m.enabled s e) (hex : m.exec s e = .ok t) (h : m.Run t es u) :
    m.Run s (e :: es) u :=
  (Run.single hen hex).append h

/-- Deliver the events one after the other, as long as they are enabled and do not fault. -/
def replay (m : Machine σ ε φ) [∀ s e, Decidable (m.enabled s e)] : σ → List ε → Option σ
  | s, [] => some s
  | s, e :: es =>
      if m.enabled s e then
        match m.exec s e with
        | .ok t => replay m t es
        | .error _ => none
      else none

theorem Run.of_replay [∀ s e, Decidable (m.enabled s e)] (h : m.replay s es = some t) :
    m.Run s es t := by
  induction es generalizing s with
  | nil =>
      cases h
      exact .nil
  | cons e es ih =>
      rw [replay] at h
      split at h
      · rename_i hen
        split at h
        · rename_i u hex
          exact .cons hen hex (ih h)
        · cases h
      · cases h

/-- The run of a replay that went through. -/
theorem Run.of_isSome [∀ s e, Decidable (m.enabled s e)] (h : (m.replay s es).isSome = true) (d : σ) :
    m.Run s es ((m.replay s es).getD d) := by
  obtain ⟨t, ht⟩ := Option.isSome_iff_exists.mp h
  rw [ht, Option.getD_some]
  exact .of_replay ht

/-- A run of events that meet the condition in every state. -/
theorem Run.restrict {c : σ → ε → Prop} (h : m.Run s es t) (hc : ∀ e ∈ es, ∀ s, c s e) :
    (m.restrict c).Run s es t := by
  induction h with
  | nil => exact .nil
  | snoc _ hen hex ih =>
      refine (ih fun e he => hc e (List.mem_append_left _ he)).snoc ⟨hen, hc _ ?_ _⟩ hex
      exact List.mem_append_right _ (List.mem_singleton_self _)

/-- A run in a narrower environment is a run. -/
theorem Run.of_restrict {c : σ → ε → Prop} (h : (m.restrict c).Run s es t) : m.Run s es t := by
  induction h with
  | nil => exact .nil
  | snoc _ hen hex ih => exact ih.snoc hen.1 hex

/-- A machine that simulates another step by step simulates its runs. -/
theorem Run.map {τ δ ψ : Type*} {n : Machine τ δ ψ} (f : σ → τ) (g : ε → δ)
    (hen : ∀ s e, m.enabled s e → n.enabled (f s) (g e))
    (hex : ∀ s e t, m.exec s e = .ok t → n.exec (f s) (g e) = .ok (f t)) (h : m.Run s es t) :
    n.Run (f s) (es.map g) (f t) := by
  induction h with
  | nil => exact .nil
  | snoc _ henabled hexec ih =>
      rw [List.map_append]
      exact ih.snoc (hen _ _ henabled) (hex _ _ _ hexec)

/-- A machine that can follow every step of another, in a related state, can follow its runs. -/
theorem Run.simulate {τ ψ : Type*} {n : Machine τ ε ψ} {R : σ → τ → Prop} {s' : τ}
    (hstep : ∀ {s s' e t}, R s s' → m.enabled s e → m.exec s e = .ok t →
      n.enabled s' e ∧ ∃ t', n.exec s' e = .ok t' ∧ R t t')
    (h0 : R s s') (h : m.Run s es t) : ∃ t', n.Run s' es t' ∧ R t t' := by
  induction h with
  | nil => exact ⟨s', .nil, h0⟩
  | snoc _ hen hex ih =>
      obtain ⟨t', hrun, hrel⟩ := ih
      obtain ⟨hen', u', hex', hrel'⟩ := hstep hrel hen hex
      exact ⟨u', hrun.snoc hen' hex', hrel'⟩

end Machine

/-! ## Step functions with outputs -/

section Transduce

variable {σ τ ε ρ : Type*}

/-- Feed a list of inputs to a step function, and collect the outputs. -/
def transduce (step : σ → ε → σ × ρ) : σ → List ε → σ × List ρ
  | s, [] => (s, [])
  | s, e :: es =>
      let rest := transduce step (step s e).1 es
      (rest.1, (step s e).2 :: rest.2)

/-- **The simulation rule.** Step functions that keep a relation between their states and agree on
the output of every step agree on the outputs of every run, and end in related states. -/
theorem transduce_simulation {f : σ → ε → σ × ρ} {g : τ → ε → τ × ρ} {R : σ → τ → Prop}
    (hstep : ∀ {s t}, R s t → ∀ e, R (f s e).1 (g t e).1 ∧ (f s e).2 = (g t e).2) {s : σ} {t : τ}
    (h : R s t) (es : List ε) :
    R (transduce f s es).1 (transduce g t es).1 ∧ (transduce f s es).2 = (transduce g t es).2 := by
  induction es generalizing s t with
  | nil => exact ⟨h, rfl⟩
  | cons e es ih =>
      obtain ⟨hnext, hout⟩ := hstep h e
      obtain ⟨hlast, houts⟩ := ih hnext
      refine ⟨hlast, ?_⟩
      simp only [transduce]
      rw [hout, houts]

end Transduce

end Common
