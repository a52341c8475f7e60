import Mathlib.Data.Finset.Basic
import Mathlib.Data.Finset.Lattice.Lemmas
import Mathlib.Data.Finset.Dedup
import Mathlib.Data.Finset.SDiff
import Axm57104.Common.Machine

/-!
# Ledgers: what is taken must be given back

A program that takes and gives back resources is described by the calls it makes, in order. `settle`
books such a list of calls against what is held: taking something twice, or giving back or using
something that is not held, is a fault. Functions of a program then only have to say which calls they
make.
-/

namespace Common

variable {κ : Type*}

/-- A call: take `k`, give it back, or use it. -/
inductive Act (κ : Type*)
  | take (k : κ)
  | give (k : κ)
  | use (k : κ)
  deriving DecidableEq

/-- `k` was already taken, or was not. -/
inductive LedgerFault (κ : Type*)
  | taken (k : κ)
  | notTaken (k : κ)
  deriving DecidableEq

variable [DecidableEq κ] {k : κ} {l l' : List (Act κ)} {held held' : Finset κ}

/-- Book a list of calls. -/
def settle : List (Act κ) → Finset κ → Except (LedgerFault κ) (Finset κ)
  | [], held => .ok held
  | .take k :: l, held => if k ∈ held then .error (.taken k) else settle l (insert k held)
  | .give k :: l, held => if k ∈ held then settle l (held.erase k) else .error (.notTaken k)
  | .use k :: l, held => if k ∈ held then settle l held else .error (.notTaken k)

/-- Calls one after the other are booked one after the other. -/
theorem settle_append (l l' : List (Act κ)) (held : Finset κ) :
    settle (l ++ l') held = (settle l held).bind (settle l') := by
  induction l generalizing held with
  | nil => rfl
  | cons a l ih =>
      cases a with
      | take k =>
          rw [List.cons_append, settle, settle]
          split
          · rfl
          · exact ih _
      | give k =>
          rw [List.cons_append, settle, settle]
          split
          · exact ih _
          · rfl
      | use k =>
          rw [List.cons_append, settle, settle]
          split
          · exact ih _
          · rfl

/-- Take what is not held, each once. -/
theorem settle_takes {ks : List κ} (hnodup : ks.Nodup) (hfree : ∀ k ∈ ks, k ∉ held) :
    settle (ks.map .take) held = .ok (held ∪ ks.toFinset) := by
  induction ks generalizing held with
  | nil => rw [List.map_nil, settle, List.toFinset_nil, Finset.union_empty]
  | cons k ks ih =>
      obtain ⟨hk, hnodup⟩ := List.nodup_cons.mp hnodup
      rw [List.map_cons, settle, if_neg (hfree k List.mem_cons_self), ih hnodup]
      · rw [List.toFinset_cons, Finset.insert_union, Finset.union_insert]
      · intro j hj hheld
        rcases Finset.mem_insert.mp hheld with rfl | hheld
        · exact hk hj
        · exact hfree j (List.mem_cons_of_mem _ hj) hheld

/-- Give back what is held, each once. -/
theorem settle_gives {ks : List κ} (hnodup : ks.Nodup) (hheld : ∀ k ∈ ks, k ∈ held) :
    settle (ks.map .give) held = .ok (held \ ks.toFinset) := by
  induction ks generalizing held with
  | nil => rw [List.map_nil, settle, List.toFinset_nil, Finset.sdiff_empty]
  | cons k ks ih =>
      obtain ⟨hk, hnodup⟩ := List.nodup_cons.mp hnodup
      rw [List.map_cons, settle, if_pos (hheld k List.mem_cons_self), ih hnodup]
      · rw [List.toFinset_cons, Finset.sdiff_insert, Finset.erase_sdiff_comm]
      · intro j hj
        refine Finset.mem_erase.mpr ⟨?_, hheld j (List.mem_cons_of_mem _ hj)⟩
        rintro rfl
        exact hk hj

/-- What is given back was held before, or is taken by the same calls. -/
theorem held_of_give (h : settle l held = .ok held') (hk : .give k ∈ l) : k ∈ held ∨ .take k ∈ l := by
  induction l generalizing held with
  | nil => cases hk
  | cons a l ih =>
      cases a with
      | take j =>
          rw [settle] at h
          split at h
          · cases h
          · rcases ih h ((List.mem_cons.mp hk).resolve_left nofun) with hmem | htake
            · rcases Finset.mem_insert.mp hmem with rfl | hmem
              · exact .inr List.mem_cons_self
              · exact .inl hmem
            · exact .inr (List.mem_cons_of_mem _ htake)
      | give j =>
          rw [settle] at h
          split at h
          · rename_i hj
            rcases List.mem_cons.mp hk with heq | hk
            · cases heq
              exact .inl hj
            · rcases ih h hk with hmem | htake
              · exact .inl (Finset.mem_of_mem_erase hmem)
              · exact .inr (List.mem_cons_of_mem _ htake)
          · cases h
      | use j =>
          rw [settle] at h
          split at h
          · rcases ih h ((List.mem_cons.mp hk).resolve_left nofun) with hmem | htake
            · exact .inl hmem
            · exact .inr (List.mem_cons_of_mem _ htake)
          · cases h

/-- What is taken was not held before, or is given back by the same calls. -/
theorem free_of_take (h : settle l held = .ok held') (hk : .take k ∈ l) : k ∉ held ∨ .give k ∈ l := by
  induction l generalizing held with
  | nil => cases hk
  | cons a l ih =>
      cases a with
      | take j =>
          rw [settle] at h
          split at h
          · cases h
          · rename_i hj
            rcases List.mem_cons.mp hk with heq | hk
            · cases heq
              exact .inl hj
            · rcases ih h hk with hmem | hgive
              · exact .inl fun hheld => hmem (Finset.mem_insert_of_mem hheld)
              · exact .inr (List.mem_cons_of_mem _ hgive)
      | give j =>
          rw [settle] at h
          split at h
          · rcases ih h ((List.mem_cons.mp hk).resolve_left nofun) with hmem | hgive
            · by_cases heq : k = j
              · subst heq
                exact .inr List.mem_cons_self
              · exact .inl fun hheld => hmem (Finset.mem_erase.mpr ⟨heq, hheld⟩)
            · exact .inr (List.mem_cons_of_mem _ hgive)
          · cases h
      | use j =>
          rw [settle] at h
          split at h
          · rcases ih h ((List.mem_cons.mp hk).resolve_left nofun) with hmem | hgive
            · exact .inl hmem
            · exact .inr (List.mem_cons_of_mem _ hgive)
          · cases h

end Common
