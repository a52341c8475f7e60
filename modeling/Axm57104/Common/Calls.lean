import Mathlib.Data.Set.Insert
import Mathlib.Data.Int.Notation
import Axm57104.Common.Ledger

/-!
# Calls that may fail, and what they take

`Calls` is the side of a program that its environment sees: the ledger of what the program holds, and the
answers of the environment to the calls that may fail, in the order in which they are made. After the last
answer every call succeeds.

`Owns` says that the ledger is without a fault and what is held. `Stack` also says what was taken last and
in which order, so that it can be given back in the reverse order without looking again whether it is held.
-/

namespace Common

variable {κ : Type*}

/-- The ledger and the answers to come; an answer other than 0 is an error. -/
structure Calls (κ : Type*) where
  book : Except (LedgerFault κ) (Finset κ)
  answers : List ℤ

namespace Calls

/-- A call that may fail. -/
def ask (io : Calls κ) : ℤ × Calls κ := (io.answers.headD 0, { io with answers := io.answers.tail })

/-- A call that is made if `b`. -/
def askIf (b : Bool) (io : Calls κ) : ℤ × Calls κ := if b then io.ask else (0, io)

/-- There was no fault, and exactly `N` is held. -/
def Owns (io : Calls κ) (N : Set κ) : Prop :=
  ∃ held : Finset κ, io.book = .ok held ∧ ∀ k, k ∈ held ↔ k ∈ N

variable {io : Calls κ} {N : Set κ} {k : κ}

theorem Owns.congr {M : Set κ} (h : io.Owns N) (hN : N = M) : io.Owns M := hN ▸ h

theorem Owns.ask (h : io.Owns N) : io.ask.2.Owns N := h

/-- `N` is held, and beyond it `l`, which was taken in this order. -/
structure Stack (io : Calls κ) (N : Set κ) (l : List κ) : Prop where
  owns : io.Owns (N ∪ {k | k ∈ l})
  fresh : ∀ k ∈ l, k ∉ N
  nodup : l.Nodup

namespace Stack

variable {l : List κ}

theorem nil (h : io.Owns N) : io.Stack N [] where
  owns := h.congr (by simp)
  fresh := fun k hk => nomatch hk
  nodup := List.nodup_nil

theorem ask (h : io.Stack N l) : io.ask.2.Stack N l := ⟨h.owns, h.fresh, h.nodup⟩

theorem askIf {b : Bool} (h : io.Stack N l) : (io.askIf b).2.Stack N l := by
  rw [Calls.askIf]
  split
  · exact h.ask
  · exact h

/-- When everything was given back. -/
theorem empty (h : io.Stack N []) : io.Owns N := h.owns.congr (by simp)

/-- A part of what is held. -/
theorem of_subset (h : io.Owns N) (hl : ∀ k ∈ l, k ∈ N) (hnodup : l.Nodup) :
    io.Stack (N \ {k | k ∈ l}) l := by
  refine ⟨h.congr ?_, fun k hk hmem => hmem.2 hk, hnodup⟩
  ext k
  simp only [Set.mem_union, Set.mem_sdiff, Set.mem_ofPred_eq]
  constructor
  · intro hk
    by_cases hkl : k ∈ l
    · exact .inr hkl
    · exact .inl ⟨hk, hkl⟩
  · rintro (hk | hk)
    · exact hk.1
    · exact hl k hk

theorem union_append (N : Set κ) (l : List κ) (k : κ) :
    N ∪ {j | j ∈ l ++ [k]} = insert k (N ∪ {j | j ∈ l}) := by
  ext j
  simp only [Set.mem_insert_iff, Set.mem_union, Set.mem_ofPred_eq, List.mem_append, List.mem_singleton]
  tauto

/-- What was taken last stays. -/
theorem leave (h : io.Stack N (l ++ [k])) : io.Stack (insert k N) l := by
  have hl : k ∉ l := fun hk => List.disjoint_of_nodup_append h.nodup hk (List.mem_singleton_self k)
  refine ⟨h.owns.congr ((union_append N l k).trans Set.insert_union.symm), fun j hj => ?_, ?_⟩
  · rintro (rfl | hN)
    · exact hl hj
    · exact h.fresh j (List.mem_append_left _ hj) hN
  · exact h.nodup.of_append_left

end Stack

variable [DecidableEq κ]

def take (k : κ) (io : Calls κ) : Calls κ := { io with book := io.book.bind (settle [.take k]) }

def give (k : κ) (io : Calls κ) : Calls κ := { io with book := io.book.bind (settle [.give k]) }

/-- A call that takes `k` unless it fails. -/
def tryTake (k : κ) (io : Calls κ) : ℤ × Calls κ :=
  let a := io.ask
  if a.1 ≠ 0 then a else (0, a.2.take k)

def takeIf (b : Bool) (k : κ) (io : Calls κ) : Calls κ := if b then io.take k else io

def giveIf (b : Bool) (k : κ) (io : Calls κ) : Calls κ := if b then io.give k else io

def tryTakeIf (b : Bool) (k : κ) (io : Calls κ) : ℤ × Calls κ := if b then io.tryTake k else (0, io)

theorem Owns.take (h : io.Owns N) (hk : k ∉ N) : (io.take k).Owns (insert k N) := by
  obtain ⟨held, hbook, hmem⟩ := h
  refine ⟨insert k held, ?_, fun j => ?_⟩
  · have hfree : k ∉ held := fun hin => hk ((hmem k).mp hin)
    simp only [Calls.take, hbook, Except.bind, settle, if_neg hfree]
  · rw [Finset.mem_insert, Set.mem_insert_iff, hmem j]

theorem Owns.give (h : io.Owns N) (hk : k ∈ N) : (io.give k).Owns (N \ {k}) := by
  obtain ⟨held, hbook, hmem⟩ := h
  refine ⟨held.erase k, ?_, fun j => ?_⟩
  · simp only [Calls.give, hbook, Except.bind, settle, if_pos ((hmem k).mpr hk)]
  · rw [Finset.mem_erase, hmem j, Set.mem_sdiff, Set.mem_singleton_iff]
    exact and_comm

/-- Give back what was taken last. -/
theorem Owns.undo (h : io.Owns (insert k N)) (hk : k ∉ N) : (io.give k).Owns N :=
  (h.give (Set.mem_insert k N)).congr (Set.insert_sdiff_self_of_notMem hk)

theorem Owns.tryTake (h : io.Owns N) (hk : k ∉ N) :
    (io.tryTake k).1 ≠ 0 ∧ (io.tryTake k).2.Owns N ∨
      (io.tryTake k).1 = 0 ∧ (io.tryTake k).2.Owns (insert k N) := by
  rw [Calls.tryTake]
  split
  · exact .inl ⟨by assumption, h.ask⟩
  · exact .inr ⟨rfl, h.ask.take hk⟩

/-- Giving back what is not held is a fault. -/
theorem Owns.give_of_notMem (h : io.Owns N) (hk : k ∉ N) : (io.give k).book = .error (.notTaken k) := by
  obtain ⟨held, hbook, hmem⟩ := h
  have hfree : k ∉ held := fun hin => hk ((hmem k).mp hin)
  simp only [Calls.give, hbook, Except.bind, settle, if_neg hfree]

/-- A fault stays. -/
theorem give_of_fault {f : LedgerFault κ} (h : io.book = .error f) : (io.give k).book = .error f := by
  rw [Calls.give, h]
  rfl

theorem giveIf_of_fault {f : LedgerFault κ} {b : Bool} (h : io.book = .error f) : (io.giveIf b k).book = .error f := by
  rw [Calls.giveIf]
  split
  · exact give_of_fault h
  · exact h

namespace Stack

variable {l : List κ}

theorem take (h : io.Stack N l) (hN : k ∉ N) (hl : k ∉ l) : (io.take k).Stack N (l ++ [k]) := by
  refine ⟨(h.owns.take (not_or.mpr ⟨hN, hl⟩)).congr (union_append N l k).symm, fun j hj => ?_, ?_⟩
  · rcases List.mem_append.mp hj with hj | hj
    · exact h.fresh j hj
    · rwa [List.mem_singleton.mp hj]
  · refine h.nodup.append (List.nodup_singleton k) fun j hj hk => hl ?_
    rwa [← List.mem_singleton.mp hk]

theorem give (h : io.Stack N (l ++ [k])) : (io.give k).Stack N l := by
  have hl : k ∉ l := fun hk => List.disjoint_of_nodup_append h.nodup hk (List.mem_singleton_self k)
  have hN : k ∉ N := h.fresh k (List.mem_append_right l (List.mem_singleton_self k))
  refine ⟨(h.owns.congr (union_append N l k)).undo (not_or.mpr ⟨hN, hl⟩), ?_, h.nodup.of_append_left⟩
  exact fun j hj => h.fresh j (List.mem_append_left _ hj)

theorem tryTake (h : io.Stack N l) (hN : k ∉ N) (hl : k ∉ l) :
    (io.tryTake k).1 ≠ 0 ∧ (io.tryTake k).2.Stack N l ∨
      (io.tryTake k).1 = 0 ∧ (io.tryTake k).2.Stack N (l ++ [k]) := by
  rw [Calls.tryTake]
  split
  · exact .inl ⟨by assumption, h.ask⟩
  · exact .inr ⟨rfl, h.ask.take hN hl⟩

variable {b : Bool}

theorem takeIf (h : io.Stack N l) (hN : k ∉ N) (hl : k ∉ l) :
    (io.takeIf b k).Stack N (l ++ if b then [k] else []) := by
  rw [Calls.takeIf]
  split
  · exact h.take hN hl
  · rwa [List.append_nil]

theorem giveIf (h : io.Stack N (l ++ if b then [k] else [])) : (io.giveIf b k).Stack N l := by
  rw [Calls.giveIf]
  split
  · rw [if_pos (by assumption)] at h
    exact h.give
  · rwa [if_neg (by assumption), List.append_nil] at h

theorem tryTakeIf (h : io.Stack N l) (hN : k ∉ N) (hl : k ∉ l) :
    (io.tryTakeIf b k).1 ≠ 0 ∧ (io.tryTakeIf b k).2.Stack N l ∨
      (io.tryTakeIf b k).1 = 0 ∧ (io.tryTakeIf b k).2.Stack N (l ++ if b then [k] else []) := by
  rw [Calls.tryTakeIf]
  split
  · exact h.tryTake hN hl
  · exact .inr ⟨rfl, by rwa [List.append_nil]⟩

end Stack

end Calls

end Common
