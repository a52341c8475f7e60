import Mathlib.Data.ENat.Basic
import Mathlib.Data.List.Nodup
import Mathlib.Tactic.NormNum
import Axm57104.Common.Machine

/-!
# Reference counted objects

Several users may ask for the same object of a resource that can hold it only once. The first request
installs it, later ones are counted, and the last one that is given back removes it. `acquire` and
`release` are these two requests on a list of counted keys; `hw` installs or removes the object and may
fail, and so may the allocation of a list entry.

The counters are those of `refcount_t`: an `int` that sticks at `REFCOUNT_SATURATED` once it would
leave the range of positive numbers, in either direction. What such a counter stands for is an
element of `ℕ∞`, with `⊤` for a saturated one: `RefTable.refs` is the number of references of a key,
zero if the list has no entry for it. `acquire_cases` and `release_cases` say what the requests do in
these terms.
-/

namespace Common

/-! ## Saturating counters -/

/-- `INT_MAX`. -/
@[simp] abbrev REFCOUNT_MAX : ℤ := 2147483647

/-- `INT_MIN / 2`. -/
@[simp] abbrev REFCOUNT_SATURATED : ℤ := -1073741824

/-- Count one more, unless the counter is zero, negative or at its maximum. -/
def refcountInc (r : ℤ) : ℤ :=
  if r ≤ 0 ∨ REFCOUNT_MAX ≤ r then REFCOUNT_SATURATED else r + 1

/-- Count one less, and tell whether that was the last one. -/
def refcountDecAndTest (r : ℤ) : Bool × ℤ :=
  if r = 1 then (true, 0) else if r ≤ 0 then (false, REFCOUNT_SATURATED) else (false, r - 1)

/-- The counter of an object that is in use. -/
def RefcountLive (r : ℤ) : Prop := r = REFCOUNT_SATURATED ∨ 1 ≤ r ∧ r ≤ REFCOUNT_MAX

/-- The references that a counter stands for. -/
def refcountRefs (r : ℤ) : ℕ∞ := if r < 0 then ⊤ else (r.toNat : ℕ∞)

/-- One reference more. -/
def oneMore (n : ℕ∞) : ℕ∞ := if n < 2147483647 then n + 1 else ⊤

@[simp] theorem oneMore_zero : oneMore 0 = 1 := by
  rw [oneMore, if_pos (by norm_num), zero_add]

@[simp] theorem oneMore_top : oneMore ⊤ = ⊤ := by
  rw [oneMore, if_neg (by simp)]

theorem oneMore_natCast {n : ℕ} (h : n < 2147483647) : oneMore n = ((n + 1 : ℕ) : ℕ∞) := by
  rw [oneMore, if_pos (by exact_mod_cast h)]
  norm_cast

theorem oneMore_ne_zero (n : ℕ∞) : oneMore n ≠ 0 := by
  rw [oneMore]
  split
  · exact (add_pos_of_right zero_lt_one n).ne'
  · exact ENat.top_ne_zero

section Counter

variable {r : ℤ}

theorem refcountRefs_saturated : refcountRefs REFCOUNT_SATURATED = ⊤ := if_pos (by norm_num)

theorem refcountRefs_of_pos (h : 1 ≤ r) : refcountRefs r = (r.toNat : ℕ∞) := if_neg (by omega)

theorem refcountRefs_one : refcountRefs 1 = 1 := by
  rw [refcountRefs_of_pos le_rfl]
  rfl

theorem RefcountLive.one : RefcountLive 1 := .inr ⟨le_rfl, by norm_num⟩

theorem RefcountLive.saturated : RefcountLive REFCOUNT_SATURATED := .inl rfl

theorem RefcountLive.refs_ne_zero (h : RefcountLive r) : refcountRefs r ≠ 0 := by
  rcases h with rfl | ⟨hpos, -⟩
  · rw [refcountRefs_saturated]
    exact ENat.top_ne_zero
  · rw [refcountRefs_of_pos hpos]
    exact_mod_cast (by omega : r.toNat ≠ 0)

/-- Only the counter `1` stands for one reference. -/
theorem RefcountLive.refs_eq_one (h : RefcountLive r) : refcountRefs r = 1 ↔ r = 1 := by
  rcases h with rfl | ⟨hpos, -⟩
  · rw [refcountRefs_saturated]
    constructor
    · intro h
      exact absurd h (by simp)
    · intro h
      norm_num at h
  · rw [refcountRefs_of_pos hpos]
    constructor
    · intro h
      have : r.toNat = 1 := by exact_mod_cast h
      omega
    · rintro rfl
      rfl

theorem RefcountLive.inc (h : RefcountLive r) :
    RefcountLive (refcountInc r) ∧ refcountRefs (refcountInc r) = oneMore (refcountRefs r) := by
  rcases h with rfl | ⟨hpos, hmax⟩
  · rw [refcountInc, if_pos (by norm_num)]
    exact ⟨.saturated, by rw [refcountRefs_saturated, oneMore_top]⟩
  · rw [refcountRefs_of_pos hpos, refcountInc]
    rcases eq_or_lt_of_le hmax with rfl | hlt
    · rw [if_pos (by norm_num), refcountRefs_saturated, oneMore, if_neg (by norm_num)]
      exact ⟨.saturated, rfl⟩
    · simp only [REFCOUNT_MAX] at hlt
      rw [if_neg (by simp only [REFCOUNT_MAX]; omega), refcountRefs_of_pos (by omega),
        oneMore_natCast (by omega), show (r + 1).toNat = r.toNat + 1 by omega]
      exact ⟨.inr ⟨by omega, by simp only [REFCOUNT_MAX]; omega⟩, rfl⟩

/-- The last reference is the only one. -/
theorem refcountDecAndTest_eq_true (h : (refcountDecAndTest r).1 = true) : r = 1 := by
  by_contra hne
  rw [refcountDecAndTest, if_neg hne] at h
  split at h <;> cases h

/-- A reference that is not the last one is given back. -/
theorem RefcountLive.dec (h : RefcountLive r) (hne : r ≠ 1) :
    (refcountDecAndTest r).1 = false ∧ RefcountLive (refcountDecAndTest r).2 ∧
      refcountRefs (refcountDecAndTest r).2 = refcountRefs r - 1 := by
  rw [refcountDecAndTest, if_neg hne]
  rcases h with rfl | ⟨hpos, hmax⟩
  · rw [if_pos (by norm_num)]
    refine ⟨rfl, .saturated, ?_⟩
    rw [refcountRefs_saturated]
    rfl
  · simp only [REFCOUNT_MAX] at hmax
    rw [if_neg (by omega)]
    refine ⟨rfl, .inr ⟨by omega, by simp only [REFCOUNT_MAX]; omega⟩, ?_⟩
    rw [refcountRefs_of_pos hpos, refcountRefs_of_pos (by omega),
      show (r - 1).toNat = r.toNat - 1 by omega]
    norm_cast

end Counter

/-! ## Lists of counted keys -/

/-- A key with the counter of its references. -/
structure Counted (κ : Type*) where
  key : κ
  refcount : ℤ
  deriving DecidableEq, Repr

/-- What is installed, in the order of installation. -/
abbrev RefTable (κ : Type*) := List (Counted κ)

namespace RefTable

variable {κ : Type*} [DecidableEq κ]

/-- The first entry of the key. -/
def find (l : RefTable κ) (k : κ) : Option (Counted κ) := l.find? fun e => e.key = k

/-- Set the counter of the first entry of the key. -/
def setCount : RefTable κ → κ → ℤ → RefTable κ
  | [], _, _ => []
  | e :: l, k, r => if e.key = k then ⟨e.key, r⟩ :: l else e :: setCount l k r

/-- Unlink the first entry of the key. -/
def remove (l : RefTable κ) (k : κ) : RefTable κ := l.eraseP fun e => e.key = k

/-- The references of a key. -/
def refs (l : RefTable κ) (k : κ) : ℕ∞ := ((l.find k).map fun e => refcountRefs e.refcount).getD 0

/-- No key has two entries, and every entry is in use. -/
structure WellFormed (l : RefTable κ) : Prop where
  nodup : (l.map Counted.key).Nodup
  live : ∀ e ∈ l, RefcountLive e.refcount

variable {l : RefTable κ} {e : Counted κ} {k : κ} {r : ℤ}

@[simp] theorem refs_nil : refs [] k = 0 := rfl

omit [DecidableEq κ] in
theorem wellFormed_nil : WellFormed ([] : RefTable κ) := ⟨List.nodup_nil, by simp⟩

omit [DecidableEq κ] in
theorem WellFormed.tail (h : WellFormed (e :: l)) : WellFormed l where
  nodup := (List.nodup_cons.mp h.nodup).2
  live x hx := h.live x (List.mem_cons_of_mem _ hx)

theorem find_cons : find (e :: l) k = if e.key = k then some e else find l k := by
  simp only [find, List.find?_cons]
  split <;> simp_all

theorem refs_cons : refs (e :: l) k = if e.key = k then refcountRefs e.refcount else refs l k := by
  rw [refs, find_cons]
  split
  · rfl
  · rfl

theorem find_eq_none : l.find k = none ↔ k ∉ l.map Counted.key := by
  simp [find, List.find?_eq_none]

theorem find_eq_some (h : l.find k = some e) : e ∈ l ∧ e.key = k := by
  refine ⟨List.mem_of_find?_eq_some h, ?_⟩
  simpa using List.find?_some h

theorem refs_of_find_none (h : l.find k = none) : l.refs k = 0 := by
  rw [refs, h]
  rfl

theorem refs_of_find_some (h : l.find k = some e) : l.refs k = refcountRefs e.refcount := by
  rw [refs, h]
  rfl

/-! ### The three changes of a list -/

@[simp] theorem map_key_setCount : (l.setCount k r).map Counted.key = l.map Counted.key := by
  induction l with
  | nil => rfl
  | cons e l ih =>
      rw [setCount]
      split
      · rfl
      · rw [List.map_cons, List.map_cons, ih]

theorem mem_setCount (h : e ∈ l.setCount k r) : e ∈ l ∨ e.refcount = r := by
  induction l with
  | nil => exact .inl h
  | cons x l ih =>
      rw [setCount] at h
      split at h
      · rcases List.mem_cons.mp h with rfl | h
        · exact .inr rfl
        · exact .inl (List.mem_cons_of_mem _ h)
      · rcases List.mem_cons.mp h with rfl | h
        · exact .inl List.mem_cons_self
        · exact (ih h).imp_left (List.mem_cons_of_mem _)

theorem WellFormed.setCount (h : WellFormed l) (hr : RefcountLive r) : WellFormed (l.setCount k r) where
  nodup := by
    rw [map_key_setCount]
    exact h.nodup
  live e he := by
    rcases mem_setCount he with he | rfl
    · exact h.live e he
    · exact hr

theorem refs_setCount (h : l.find k ≠ none) :
    (l.setCount k r).refs = Function.update l.refs k (refcountRefs r) := by
  induction l with
  | nil => exact absurd rfl h
  | cons e l ih =>
      funext j
      rw [RefTable.setCount]
      split
      · rename_i hk
        subst hk
        by_cases hj : j = e.key
        · subst hj
          rw [refs_cons, if_pos rfl, Function.update_self]
        · rw [refs_cons, if_neg (Ne.symm hj), Function.update_of_ne hj, refs_cons,
            if_neg (Ne.symm hj)]
      · rename_i hk
        rw [find_cons, if_neg hk] at h
        rw [refs_cons, ih h]
        by_cases hj : j = k
        · subst hj
          rw [if_neg hk, Function.update_self, Function.update_self]
        · rw [Function.update_of_ne hj, Function.update_of_ne hj, refs_cons]

/-- Set back to what it was, the list is the one before. -/
theorem setCount_self (h : l.find k = some e) : l.setCount k e.refcount = l := by
  induction l with
  | nil => rfl
  | cons x l ih =>
      rw [RefTable.setCount]
      rw [find_cons] at h
      split
      · rename_i hk
        rw [if_pos hk] at h
        cases h
        rfl
      · rename_i hk
        rw [if_neg hk] at h
        rw [ih h]

theorem setCount_setCount (r' : ℤ) : (l.setCount k r).setCount k r' = l.setCount k r' := by
  induction l with
  | nil => rfl
  | cons x l ih =>
      rw [RefTable.setCount, RefTable.setCount]
      split
      · rename_i hk
        rw [RefTable.setCount, if_pos hk]
      · rename_i hk
        rw [RefTable.setCount, if_neg hk, ih]

theorem remove_setCount : (l.setCount k r).remove k = l.remove k := by
  induction l with
  | nil => rfl
  | cons x l ih =>
      rw [RefTable.setCount]
      split
      · rename_i hk
        simp [remove, hk]
      · rename_i hk
        simpa [remove, List.eraseP_cons, hk] using ih

theorem WellFormed.append (h : WellFormed l) (hf : l.find k = none) (hr : RefcountLive r) :
    WellFormed (l ++ [⟨k, r⟩]) where
  nodup := by
    rw [List.map_append, List.map_singleton, ← List.concat_eq_append]
    exact h.nodup.concat (find_eq_none.mp hf)
  live e he := by
    rcases List.mem_append.mp he with he | he
    · exact h.live e he
    · rw [List.mem_singleton.mp he]
      exact hr

theorem refs_append (hf : l.find k = none) :
    refs (l ++ [⟨k, r⟩]) = Function.update l.refs k (refcountRefs r) := by
  induction l with
  | nil =>
      funext j
      rw [List.nil_append, refs_cons]
      by_cases hj : j = k
      · rw [hj, if_pos rfl, Function.update_self]
      · rw [if_neg (Ne.symm hj), Function.update_of_ne hj]
  | cons e l ih =>
      have hk : e.key ≠ k := by
        rintro rfl
        rw [find_cons, if_pos rfl] at hf
        cases hf
      rw [find_cons, if_neg hk] at hf
      funext j
      rw [List.cons_append, refs_cons, ih hf]
      by_cases hj : j = k
      · rw [hj, if_neg hk, Function.update_self, Function.update_self]
      · rw [Function.update_of_ne hj, Function.update_of_ne hj, refs_cons]

theorem WellFormed.remove (h : WellFormed l) : WellFormed (l.remove k) where
  nodup := h.nodup.sublist (List.eraseP_sublist.map _)
  live e he := h.live e (List.mem_of_mem_eraseP he)

theorem WellFormed.refs_remove (h : WellFormed l) :
    (l.remove k).refs = Function.update l.refs k 0 := by
  induction l with
  | nil =>
      funext j
      by_cases hj : j = k
      · rw [hj, Function.update_self]
        rfl
      · rw [Function.update_of_ne hj]
        rfl
  | cons e l ih =>
      funext j
      rw [RefTable.remove, List.eraseP_cons]
      by_cases hk : e.key = k
      · subst hk
        rw [decide_eq_true rfl, cond_true]
        by_cases hj : j = e.key
        · rw [hj, Function.update_self]
          exact refs_of_find_none (find_eq_none.mpr (List.nodup_cons.mp h.nodup).1)
        · rw [Function.update_of_ne hj, refs_cons, if_neg (Ne.symm hj)]
      · rw [decide_eq_false hk, cond_false, refs_cons, ← RefTable.remove, ih h.tail]
        by_cases hj : j = k
        · rw [hj, if_neg hk, Function.update_self, Function.update_self]
        · rw [Function.update_of_ne hj, Function.update_of_ne hj, refs_cons]

/-! ### The two requests -/

section Requests

variable {σ : Type*}

/-- Ask for the object of key `k`: count the request if it is installed, else allocate an entry (which
succeeds if `mem`), install it and link the entry. -/
def acquire (l : RefTable κ) (k : κ) (mem : Bool) (enomem : ℤ) (hw : σ → ℤ × σ) (s : σ) :
    ℤ × RefTable κ × σ :=
  match l.find k with
  | some e => (0, l.setCount k (refcountInc e.refcount), s)
  | none =>
      if mem then
        let a := hw s
        if a.1 ≠ 0 then (a.1, l, a.2) else (0, l ++ [⟨k, 1⟩], a.2)
      else (-enomem, l, s)

/-- Give one request back, and remove the object with the last one. If that fails the counter is set
back to one. -/
def release (l : RefTable κ) (k : κ) (enoent : ℤ) (hw : σ → ℤ × σ) (s : σ) : ℤ × RefTable κ × σ :=
  match l.find k with
  | none => (-enoent, l, s)
  | some e =>
      let d := refcountDecAndTest e.refcount
      let l' := l.setCount k d.2
      if d.1 then
        let a := hw s
        if a.1 ≠ 0 then (a.1, l'.setCount k 1, a.2) else (0, l'.remove k, a.2)
      else (0, l', s)

/-- **What a request does**: it counts, or it fails for want of memory, or it installs the object. -/
theorem WellFormed.acquire_cases (h : WellFormed l) (k : κ) (mem : Bool) (enomem : ℤ)
    (hw : σ → ℤ × σ) (s : σ) :
    (l.refs k ≠ 0 ∧ ∃ l', l.acquire k mem enomem hw s = (0, l', s) ∧ WellFormed l' ∧
        l'.refs = Function.update l.refs k (oneMore (l.refs k))) ∨
      (l.refs k = 0 ∧ mem = false ∧ l.acquire k mem enomem hw s = (-enomem, l, s)) ∨
      (l.refs k = 0 ∧ mem = true ∧ (hw s).1 ≠ 0 ∧
        l.acquire k mem enomem hw s = ((hw s).1, l, (hw s).2)) ∨
      (l.refs k = 0 ∧ mem = true ∧ (hw s).1 = 0 ∧ ∃ l',
        l.acquire k mem enomem hw s = (0, l', (hw s).2) ∧ WellFormed l' ∧
          l'.refs = Function.update l.refs k (oneMore (l.refs k))) := by
  cases hf : l.find k with
  | some e =>
      have hlive := h.live e (find_eq_some hf).1
      refine .inl ⟨?_, _, by rw [acquire, hf], h.setCount hlive.inc.1, ?_⟩
      · rw [refs_of_find_some hf]
        exact hlive.refs_ne_zero
      · rw [refs_setCount (by rw [hf]; exact Option.some_ne_none e), hlive.inc.2,
          refs_of_find_some hf]
  | none =>
      have h0 := refs_of_find_none hf
      simp only [acquire, hf]
      cases mem with
      | false => exact .inr (.inl ⟨h0, rfl, rfl⟩)
      | true =>
          by_cases hrc : (hw s).1 = 0
          · refine .inr (.inr (.inr ⟨h0, rfl, hrc, l ++ [⟨k, 1⟩], ?_, h.append hf .one, ?_⟩))
            · simp [hrc]
            · rw [refs_append hf, refcountRefs_one, h0, oneMore_zero]
          · refine .inr (.inr (.inl ⟨h0, rfl, hrc, ?_⟩))
            simp [hrc]

/-- **What giving back does**: there is nothing to give back, or it counts, or it was the last one and
the object is removed, unless that fails. -/
theorem WellFormed.release_cases (h : WellFormed l) (k : κ) (enoent : ℤ) (hw : σ → ℤ × σ) (s : σ) :
    (l.refs k = 0 ∧ l.release k enoent hw s = (-enoent, l, s)) ∨
      (l.refs k ≠ 0 ∧ l.refs k ≠ 1 ∧ ∃ l', l.release k enoent hw s = (0, l', s) ∧ WellFormed l' ∧
        l'.refs = Function.update l.refs k (l.refs k - 1)) ∨
      (l.refs k = 1 ∧ (hw s).1 ≠ 0 ∧ l.release k enoent hw s = ((hw s).1, l, (hw s).2)) ∨
      (l.refs k = 1 ∧ (hw s).1 = 0 ∧ ∃ l', l.release k enoent hw s = (0, l', (hw s).2) ∧
        WellFormed l' ∧ l'.refs = Function.update l.refs k (l.refs k - 1)) := by
  cases hf : l.find k with
  | none => exact .inl ⟨refs_of_find_none hf, by rw [release, hf]⟩
  | some e =>
      have hsome : l.find k ≠ none := by
        rw [hf]
        exact Option.some_ne_none e
      have hlive := h.live e (find_eq_some hf).1
      have href := refs_of_find_some hf
      by_cases hone : e.refcount = 1
      · have hrefs : l.refs k = 1 := by rw [href, hone, refcountRefs_one]
        have hback : l.setCount k 1 = l := by
          rw [← hone]
          exact setCount_self hf
        simp only [release, hf, hone, refcountDecAndTest, if_true]
        by_cases hrc : (hw s).1 = 0
        · refine .inr (.inr (.inr ⟨hrefs, hrc, l.remove k, ?_, h.remove, ?_⟩))
          · simp [hrc, remove_setCount]
          · rw [h.refs_remove, hrefs, tsub_self]
        · refine .inr (.inr (.inl ⟨hrefs, hrc, ?_⟩))
          simp [hrc, setCount_setCount, hback]
      · obtain ⟨hlast, hlive', hrefs⟩ := hlive.dec hone
        refine .inr (.inl ⟨?_, ?_, l.setCount k (refcountDecAndTest e.refcount).2, ?_,
          h.setCount hlive', ?_⟩)
        · rw [href]
          exact hlive.refs_ne_zero
        · rw [href]
          exact fun h1 => hone (hlive.refs_eq_one.mp h1)
        · simp [release, hf, hlast]
        · rw [refs_setCount hsome, hrefs, href]

end Requests

end RefTable

end Common
