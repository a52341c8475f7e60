import Mathlib.Data.Int.Notation
import Mathlib.Data.List.Basic
import Mathlib.Data.Nat.Notation

/-!
# Chains of notifiers

A chain calls its notifiers one after the other on a state, up to the first one that returns an error,
which is then the result of the chain. What was done before is not undone.

Answers are zero or negative, as kernel callbacks give them. A positive answer is out of scope: the
conversion of an errno to a notifier code and back would stop the chain at it and return zero.
-/

namespace Common

variable {α ι : Type*}

/-- The notifiers in order, up to the first error; an answer is zero or a negative errno. -/
def notifyChain (event : ι → α → ℤ × α) : List ι → α → ℤ × α
  | [], a => (0, a)
  | i :: is, a =>
      let r := event i a
      if r.1 ≠ 0 then r else notifyChain event is r.2

section Chain

variable {event : ι → α → ℤ × α} {i : ι} {is js : List ι} {a : α}

theorem notifyChain_cons_of_ok (h : (event i a).1 = 0) :
    notifyChain event (i :: is) a = notifyChain event is (event i a).2 := by
  rw [notifyChain]
  exact if_neg (not_not.mpr h)

theorem notifyChain_cons_of_error (h : (event i a).1 ≠ 0) :
    notifyChain event (i :: is) a = event i a := by
  rw [notifyChain]
  exact if_pos h

/-- What every notifier of the chain keeps, the chain keeps. -/
theorem notifyChain_keeps_mem {P : α → Prop} (h : ∀ i ∈ is, ∀ a, P a → P (event i a).2) {a : α}
    (ha : P a) : P (notifyChain event is a).2 := by
  induction is generalizing a with
  | nil => exact ha
  | cons i is ih =>
      have hi := h i List.mem_cons_self a ha
      by_cases hrc : (event i a).1 = 0
      · rw [notifyChain_cons_of_ok hrc]
        exact ih (fun j hj => h j (List.mem_cons_of_mem _ hj)) hi
      · rw [notifyChain_cons_of_error hrc]
        exact hi

theorem notifyChain_keeps {P : α → Prop} (h : ∀ i a, P a → P (event i a).2) (is : List ι) {a : α}
    (ha : P a) : P (notifyChain event is a).2 :=
  notifyChain_keeps_mem (fun i _ => h i) ha

/-- What each notifier achieves by its success and the others keep holds when the chain succeeds. -/
theorem notifyChain_achieves {Q : ι → α → Prop} (hkeep : ∀ i j a, Q i a → Q i (event j a).2)
    (hdone : ∀ i a, (event i a).1 = 0 → Q i (event i a).2) (h0 : (notifyChain event is a).1 = 0) :
    ∀ i ∈ is, Q i (notifyChain event is a).2 := by
  induction is generalizing a with
  | nil => exact fun i hi => nomatch hi
  | cons i is ih =>
      by_cases hrc : (event i a).1 = 0
      · rw [notifyChain_cons_of_ok hrc] at h0 ⊢
        intro j hj
        rcases List.mem_cons.mp hj with rfl | hj
        · exact notifyChain_keeps (fun i a => hkeep j i a) is (hdone j a hrc)
        · exact ih h0 j hj
      · rw [notifyChain_cons_of_error hrc] at h0
        exact absurd h0 hrc

/-- A chain of notifiers that do not fail. -/
theorem notifyChain_ok (h : ∀ i a, (event i a).1 = 0) : (notifyChain event is a).1 = 0 := by
  induction is generalizing a with
  | nil => rfl
  | cons i is ih =>
      rw [notifyChain_cons_of_ok (h i a)]
      exact ih

/-- Nobody after a notifier that always fails is called. -/
theorem notifyChain_stop (h : ∀ a, (event i a).1 ≠ 0) :
    notifyChain event (is ++ i :: js) a = notifyChain event (is ++ [i]) a := by
  induction is generalizing a with
  | nil =>
      rw [List.nil_append, List.nil_append, notifyChain_cons_of_error (h a),
        notifyChain_cons_of_error (h a)]
  | cons k is ih =>
      rw [List.cons_append, List.cons_append]
      by_cases hrc : (event k a).1 = 0
      · rw [notifyChain_cons_of_ok hrc, notifyChain_cons_of_ok hrc]
        exact ih
      · rw [notifyChain_cons_of_error hrc, notifyChain_cons_of_error hrc]

/-- A chain that fails served a first part and then the notifier that failed. -/
theorem notifyChain_failed (h : (notifyChain event is a).1 ≠ 0) :
    ∃ pre k post, is = pre ++ k :: post ∧ (notifyChain event pre a).1 = 0 ∧
      (event k (notifyChain event pre a).2).1 ≠ 0 ∧
      notifyChain event is a = event k (notifyChain event pre a).2 := by
  induction is generalizing a with
  | nil => exact absurd rfl h
  | cons i is ih =>
      by_cases hrc : (event i a).1 = 0
      · rw [notifyChain_cons_of_ok hrc] at h
        obtain ⟨pre, k, post, rfl, hpre, hk, heq⟩ := ih h
        refine ⟨i :: pre, k, post, rfl, ?_, ?_, ?_⟩
        · rw [notifyChain_cons_of_ok hrc, hpre]
        · rwa [notifyChain_cons_of_ok hrc]
        · rw [notifyChain_cons_of_ok hrc, notifyChain_cons_of_ok hrc, heq]
      · refine ⟨[], i, is, rfl, rfl, hrc, ?_⟩
        rw [notifyChain_cons_of_error hrc]
        rfl

/-- **The rule of the chain.** `P` is kept as long as the notifiers succeed; the one that fails, if any,
turns it into `Q`. -/
theorem notifyChain_rule {P Q : α → Prop} (hok : ∀ i ∈ is, ∀ a, P a → (event i a).1 = 0 → P (event i a).2)
    (herr : ∀ i ∈ is, ∀ a, P a → (event i a).1 ≠ 0 → Q (event i a).2) {a : α} (ha : P a) :
    (notifyChain event is a).1 = 0 ∧ P (notifyChain event is a).2 ∨
      (notifyChain event is a).1 ≠ 0 ∧ Q (notifyChain event is a).2 := by
  induction is generalizing a with
  | nil => exact .inl ⟨rfl, ha⟩
  | cons i is ih =>
      by_cases hrc : (event i a).1 = 0
      · rw [notifyChain_cons_of_ok hrc]
        exact ih (fun j hj => hok j (List.mem_cons_of_mem _ hj))
          (fun j hj => herr j (List.mem_cons_of_mem _ hj)) (hok i List.mem_cons_self a ha hrc)
      · rw [notifyChain_cons_of_error hrc]
        exact .inr ⟨hrc, herr i List.mem_cons_self a ha hrc⟩

end Chain

/-- What each round of a loop achieves and the others keep holds after the loop. -/
theorem foldl_achieves {round : α → ι → α} {Q : ι → α → Prop} {is : List ι} {a : α}
    (hkeep : ∀ i j a, Q i a → Q i (round a j)) (hdone : ∀ i a, Q i (round a i)) :
    ∀ i ∈ is, Q i (is.foldl round a) := by
  induction is generalizing a with
  | nil => exact fun i hi => nomatch hi
  | cons i is ih =>
      intro j hj
      rw [List.foldl_cons]
      rcases List.mem_cons.mp hj with rfl | hj
      · exact List.foldlRecOn is round (hdone j a) fun b hb k _ => hkeep j k b hb
      · exact ih j hj

end Common
