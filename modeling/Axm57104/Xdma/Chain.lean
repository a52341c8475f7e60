import Axm57104.Xdma.Engine

/-!
# The chains of a descriptor ring

`transfer_desc_init` builds both chains of a ring and the table of their heads in one loop. Here the
chains are read back the way the device reads them, from an address in `list_desc` along the
`next_hi:next_lo` pointers, and shown to be the two halves of the ring.
-/

namespace Axm57104.Xdma

/-- The index of the descriptor at `addr`, in a ring of `count` descriptors at `bus`. -/
def descIndex (bus count addr : ℕ) : Option ℕ :=
  (blockIndex bus XDMA_DESC_SIZE addr).filter (· < count)

theorem descIndex_add {bus count i : ℕ} (hi : i < count) :
    descIndex bus count (bus + XDMA_DESC_SIZE * i) = some i := by
  rw [descIndex, blockIndex_add bus i (Nat.succ_pos 31), Option.filter_some, if_pos]
  exact decide_eq_true hi

/-- `Follows bus count desc addr is`: the walk along the next pointers that starts at `addr` fetches
the descriptors `is` in this order, all of them inside the ring, and ends at a descriptor whose next
pointer is zero. -/
inductive Follows (bus count : ℕ) (desc : ℕ → XdmaDesc) : ℕ → List ℕ → Prop
  | last {addr i : ℕ} : descIndex bus count addr = some i → (desc i).next = 0 →
      Follows bus count desc addr [i]
  | link {addr i : ℕ} {is : List ℕ} : descIndex bus count addr = some i → (desc i).next ≠ 0 →
      Follows bus count desc (desc i).next is → Follows bus count desc addr (i :: is)

section Follows

variable {bus count addr : ℕ} {desc : ℕ → XdmaDesc} {is js : List ℕ}

/-- A descriptor has one next pointer, so there is one walk. -/
theorem Follows.unique (h₁ : Follows bus count desc addr is) (h₂ : Follows bus count desc addr js) :
    is = js := by
  induction h₁ generalizing js with
  | last hi hnext =>
      cases h₂ with
      | last hj _ => rw [Option.some.inj (hi.symm.trans hj)]
      | link hj hne _ =>
          obtain rfl := Option.some.inj (hi.symm.trans hj)
          exact absurd hnext hne
  | link hi hne _ ih =>
      cases h₂ with
      | last hj hnext =>
          obtain rfl := Option.some.inj (hi.symm.trans hj)
          exact absurd hnext hne
      | link hj _ hrest =>
          obtain rfl := Option.some.inj (hi.symm.trans hj)
          rw [ih hrest]

/-- A walk over `n + 1` neighbouring descriptors, each linked to the next and the last to none. -/
theorem Follows.of_linked {start n : ℕ} (hin : start + n < count)
    (hlink : ∀ i, start ≤ i → i < start + n → (desc i).next = bus + XDMA_DESC_SIZE * (i + 1))
    (hlast : (desc (start + n)).next = 0) :
    Follows bus count desc (bus + XDMA_DESC_SIZE * start) (List.range' start (n + 1)) := by
  induction n generalizing start with
  | zero => exact .last (descIndex_add hin) hlast
  | succ n ih =>
      have hnext := hlink start le_rfl (by omega)
      rw [List.range'_succ]
      refine .link (descIndex_add (by omega)) ?_ ?_
      · rw [hnext]
        simp only [XDMA_DESC_SIZE]
        omega
      · rw [hnext]
        refine ih (by omega) (fun i hi hlt => hlink i (by omega) (by omega)) ?_
        rw [show start + 1 + n = start + (n + 1) by omega]
        exact hlast

end Follows

/-! ## The table of chain heads -/

/-- No iteration writes `list_desc` past its end. -/
theorem transferDescInitStep_listDesc (tempCount : ℕ) (st : DescInit) (i : ℕ) {k : ℕ}
    (hk : DESC_LIST_NUM ≤ k) :
    (transferDescInitStep tempCount st i).listDesc k = st.listDesc k := by
  simp only [transferDescInitStep]
  split
  · by_cases hroom : st.listCount < DESC_LIST_NUM
    · simp only [if_pos hroom]
      exact Function.update_of_ne (by omega) _ _
    · simp only [if_neg hroom]
  · rfl

theorem transferDescInitLoop_listDesc (tempCount : ℕ) (is : List ℕ) (st : DescInit) {k : ℕ}
    (hk : DESC_LIST_NUM ≤ k) :
    (is.foldl (transferDescInitStep tempCount) st).listDesc k = st.listDesc k := by
  induction is generalizing st with
  | nil => rfl
  | cons i is ih => rw [List.foldl_cons, ih, transferDescInitStep_listDesc tempCount st i hk]

theorem transferDescInit_listDesc {desc desc' : ℕ → XdmaDesc} {t t' : XdmaTransfer} {count k : ℕ}
    (h : transferDescInit desc t count = some (desc', t')) (hk : DESC_LIST_NUM ≤ k) :
    t'.listDesc k = t.listDesc k := by
  simp only [transferDescInit] at h
  split at h
  · cases h
  · cases h
    dsimp only
    rw [transferDescInitLoop_listDesc _ _ _ hk]
    refine Function.update_of_ne ?_ _ _
    simp only [DESC_LIST_NUM] at hk
    omega

/-! ## The two chains -/

theorem descList_cases {k : ℕ} (hk : k < DESC_LIST_NUM) : k = 0 ∨ k = 1 := by
  simp only [DESC_LIST_NUM] at hk
  omega

/-- The last descriptors of the two halves. -/
theorem last_of_half_iff {half i : ℕ} (hhalf : 0 < half) (hi : i < 2 * half) :
    i % half = half - 1 ↔ ∃ k < DESC_LIST_NUM, i = (k + 1) * half - 1 := by
  rw [last_of_chain_iff hhalf hi]
  constructor
  · rintro (h | h)
    · exact ⟨0, by decide, by omega⟩
    · exact ⟨1, by decide, by omega⟩
  · rintro ⟨k, hk, rfl⟩
    obtain rfl | rfl := descList_cases hk
    · omega
    · omega

theorem initDesc_next_last {bus half : ℕ} {desc : ℕ → XdmaDesc} {i : ℕ} (h : i % half = half - 1) :
    (initDesc bus half desc i).next = 0 := by
  simp only [initDesc, if_pos h, XdmaDesc.next, dmaAddr, Nat.zero_mul, Nat.add_zero]

/-- The chain of half `k` of an initialised ring. -/
theorem Follows.of_initDesc {bus half k : ℕ} {desc desc' : ℕ → XdmaDesc} (hhalf : 0 < half)
    (hk : k < DESC_LIST_NUM) (hdesc : ∀ i < 2 * half, desc' i = initDesc bus half desc i) :
    Follows bus (2 * half) desc' (bus + XDMA_DESC_SIZE * (k * half))
      (List.range' (k * half) half) := by
  have hend : k * half + half ≤ 2 * half := by
    rw [← Nat.succ_mul]
    exact Nat.mul_le_mul_right half hk
  have hmod : ∀ j < half, (k * half + j) % half = j := fun j hj => by
    rw [Nat.mul_comm, Nat.mul_add_mod, Nat.mod_eq_of_lt hj]
  obtain ⟨n, rfl⟩ : ∃ n, half = n + 1 := ⟨half - 1, by omega⟩
  refine Follows.of_linked (by omega) (fun i hi hlt => ?_) ?_
  · rw [hdesc i (by omega)]
    refine initDesc_next ?_
    have h := hmod (i - k * (n + 1)) (by omega)
    rw [show k * (n + 1) + (i - k * (n + 1)) = i by omega] at h
    omega
  · rw [hdesc _ (by omega)]
    refine initDesc_next_last ?_
    rw [hmod n (Nat.lt_succ_self n), Nat.add_sub_cancel]

/-- Every descriptor of the ring lies in exactly one half. -/
theorem existsUnique_half {half i : ℕ} (hi : i < 2 * half) :
    ∃! k, k < DESC_LIST_NUM ∧ i ∈ List.range' (k * half) half := by
  simp only [List.mem_range'_1]
  by_cases h : i < half
  · refine ⟨0, ⟨by decide, by omega, by omega⟩, ?_⟩
    rintro k ⟨hk, hle, -⟩
    by_contra hne
    have := Nat.mul_le_mul_right half (Nat.pos_of_ne_zero hne)
    omega
  · refine ⟨1, ⟨by decide, by omega, by omega⟩, ?_⟩
    rintro k ⟨hk, -, hlt⟩
    obtain rfl | rfl := descList_cases hk
    · omega
    · rfl

/-- **The chains partition the ring.** -/
theorem transferDescInit_partitions (desc : ℕ → XdmaDesc) (t : XdmaTransfer) {count : ℕ}
    (heven : count % 2 = 0) (hmin : 2 ≤ count) (hmax : count ≤ XDMA_TRANSFER_MAX_DESC)
    (hfits : t.descBus + XDMA_DESC_SIZE * count ≤ 2 ^ 64) :
    ∃ desc' t', transferDescInit desc t count = some (desc', t') ∧
      (∀ k < DESC_LIST_NUM, ∀ is, Follows t.descBus count desc' (t'.listDesc k) is ↔
        is = List.range' (k * (count / 2)) (count / 2)) ∧
      (∀ i < count, (desc' i).isStopped = true ↔
        ∃ k < DESC_LIST_NUM, i = (k + 1) * (count / 2) - 1) ∧
      (∀ i < count, ∃! k, k < DESC_LIST_NUM ∧
        ∃ is, Follows t.descBus count desc' (t'.listDesc k) is ∧ i ∈ is) ∧
      (∀ i, count ≤ i → desc' i = desc i) ∧
      ∀ k, DESC_LIST_NUM ≤ k → t'.listDesc k = t.listDesc k := by
  obtain ⟨half, rfl⟩ : ∃ half, count = 2 * half := ⟨count / 2, by omega⟩
  have hhalf : 0 < half := by omega
  obtain ⟨desc', t', hinit, hdone, hrest, -, -, hfirst, hsecond⟩ :=
    transferDescInit_spec desc t hhalf hmax hfits
  rw [Nat.mul_div_cancel_left half Nat.two_pos]
  have hhead : ∀ k < DESC_LIST_NUM, t'.listDesc k = t.descBus + XDMA_DESC_SIZE * (k * half) := by
    intro k hk
    obtain rfl | rfl := descList_cases hk
    · rw [hfirst, Nat.zero_mul, Nat.mul_zero, Nat.add_zero]
    · rw [hsecond, Nat.one_mul]
  have hchain : ∀ k < DESC_LIST_NUM, ∀ is, Follows t.descBus (2 * half) desc' (t'.listDesc k) is ↔
      is = List.range' (k * half) half := by
    intro k hk is
    have hfollows := Follows.of_initDesc hhalf hk hdone
    rw [hhead k hk]
    exact ⟨fun h => h.unique hfollows, fun h => h ▸ hfollows⟩
  refine ⟨desc', t', hinit, hchain, fun i hi => ?_, fun i hi => ?_, hrest,
    fun k hk => transferDescInit_listDesc hinit hk⟩
  · rw [hdone i hi, initDesc_isStopped, decide_eq_true_iff, last_of_half_iff hhalf hi]
  · obtain ⟨k, ⟨hk, hmem⟩, huniq⟩ := existsUnique_half hi
    refine ⟨k, ⟨hk, _, (hchain k hk _).mpr rfl, hmem⟩, ?_⟩
    rintro k' ⟨hk', is, his, hmem'⟩
    refine huniq k' ⟨hk', ?_⟩
    rwa [(hchain k' hk' is).mp his] at hmem'

/-- A ring of six descriptors whose second chain starts across a 32-bit boundary. -/
theorem transferDescInit_partitions_six :
    ∃ desc' t', transferDescInit (fun _ => ⟨0, 0, 0, 0, 0, 0, 0, 0⟩)
        { descBus := 2 ^ 32 - 64, listDesc := fun _ => 0, currentList := 0 } 6 = some (desc', t') ∧
      Follows (2 ^ 32 - 64) 6 desc' (t'.listDesc 1) [3, 4, 5] := by
  obtain ⟨desc', t', hinit, hchain, -⟩ :=
    transferDescInit_partitions (fun _ => ⟨0, 0, 0, 0, 0, 0, 0, 0⟩)
      { descBus := 2 ^ 32 - 64, listDesc := fun _ => 0, currentList := 0 }
      (by decide : 6 % 2 = 0) (by decide) (by decide) (by decide)
  exact ⟨desc', t', hinit, (hchain 1 (by decide) [3, 4, 5]).mpr rfl⟩

end Axm57104.Xdma
