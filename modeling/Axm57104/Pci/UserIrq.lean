import Axm57104.Common.Words
import Axm57104.Pci.IrqLines

/-!
# User interrupts

The switch shows its interrupts in bits 16 to 31 of `SWITCH_ISR`. Without MSI-X `xdma_isr` serves
all of them in a loop; with MSI-X each has a vector of its own. Both end in the handlers that
`xdma_user_isr_register` has put into `user_irq[]`, and which of its two tables that is depends on
the capabilities of the device.

The tables do not agree. The MSI-X table has the Qbv handlers at 8, 9 and 10, as the masks
`CONFIG_CHANGE_BIT`, `TIMER_CHANGE_BIT` and `TIMER_VALUE_CHANGE_BIT` have; the other one has two of
them at 4 and 6 and the third nowhere. What each mode does is put in one form first: the fold of
`serve` over the pending interrupts.
-/

namespace Axm57104.Pci

open Common Net

/-! ## Handlers -/

/-- What `handler` of a `struct xdma_user_irq` may point to. -/
inductive UserHandler
  | axTsnIrqPtp
  | axTsnIrqConfigChange
  | axTsnIrqTimerChange
  | axMsixTsnIrqConfigChange
  | axMsixTsnIrqTimerChange
  | axMsixTsnIrqTimerValueChange
  deriving DecidableEq, Repr

/-- The handlers of the Qbv code. -/
inductive QbvHandler
  | axIrqConfigChange
  | axIrqTimerChange
  | axIrqTimerValueChange
  deriving DecidableEq, Repr

/-- The Qbv handler that a handler calls. -/
def UserHandler.qbv : UserHandler → Option QbvHandler
  | axTsnIrqPtp => none
  | axTsnIrqConfigChange => some .axIrqConfigChange
  | axTsnIrqTimerChange => some .axIrqTimerChange
  | axMsixTsnIrqConfigChange => some .axIrqConfigChange
  | axMsixTsnIrqTimerChange => some .axIrqTimerChange
  | axMsixTsnIrqTimerValueChange => some .axIrqTimerValueChange

/-- The fields `handler` of `user_irq[]`. -/
abbrev UserIrqTable : Type := ℕ → Option UserHandler

/-- `user_irq[]` as `alloc_dev_instance` leaves it. -/
def noHandlers : UserIrqTable := fun _ => none

/-- `xdma_user_isr_register`. Without MSI-X only the first eight entries are written. -/
def xdmaUserIsrRegister (msixCapable : Bool) (userIrq : UserIrqTable) : UserIrqTable := fun i =>
  if msixCapable then
    if i = 8 then some .axMsixTsnIrqConfigChange
    else if i = 9 then some .axMsixTsnIrqTimerChange
    else if i = 10 then some .axMsixTsnIrqTimerValueChange
    else if i < 16 then none
    else userIrq i
  else
    if i = 0 then some .axTsnIrqPtp
    else if i = 4 then some .axTsnIrqConfigChange
    else if i = 6 then some .axTsnIrqTimerChange
    else if i < 8 then none
    else userIrq i

/-! ## The register and what is done -/

/-- `SWITCH_ISR`, with what was written to it and the handlers called so far. -/
structure UserIrqState where
  switchIsr : ℕ
  acks : List ℕ
  ran : List UserHandler

/-- A write to `SWITCH_ISR`, which clears the bits of `mask`. -/
def UserIrqState.ack (s : UserIrqState) (mask : ℕ) : UserIrqState :=
  { s with switchIsr := Nat.ldiff s.switchIsr mask, acks := s.acks ++ [mask] }

def UserIrqState.call (s : UserIrqState) (h : UserHandler) : UserIrqState :=
  { s with ran := s.ran ++ [h] }

/-- `user_irq_service`. -/
def userIrqService (handler : Option UserHandler) (s : UserIrqState) : UserIrqState :=
  match handler with
  | none => s
  | some h => s.call h

/-- One iteration of the loop of `xdma_isr`, with the variable `user_irq` beside the state. -/
def isrUserStep (table : UserIrqTable) (st : ℕ × UserIrqState) (user : ℕ) : ℕ × UserIrqState :=
  let mask := 2 ^ (16 + user)
  if st.1 &&& mask ≠ 0 then
    (Nat.ldiff st.1 mask, userIrqService (table user) (st.2.ack (st.1 &&& mask)))
  else st

/-- The part of `xdma_isr` for the user interrupts. -/
def xdmaIsrUser (table : UserIrqTable) (s : UserIrqState) : UserIrqState :=
  let userIrq := s.switchIsr
  if userIrq ≠ 0 then ((List.range 16).foldl (isrUserStep table) (userIrq, s)).2 else s

/-- A vector handler calls through an entry of `user_irq[]` that is `NULL`. -/
inductive UserIrqFault
  | nullHandler
  deriving DecidableEq, Repr

/-- The common body of the three vector handlers of the Qbv interrupts. They differ in the mask that
they clear in the interrupt-enable register. -/
def userIrqChange (table : UserIrqTable) (i : ℕ) (s : UserIrqState) :
    Except UserIrqFault UserIrqState :=
  if s.switchIsr &&& 2 ^ (16 + i) ≠ 0 then
    match table i with
    | none => .error .nullHandler
    | some h => .ok ((s.ack (2 ^ (16 + i))).call h)
  else .ok s

/-- `xdma_user_irq_config_change`. -/
def xdmaUserIrqConfigChange := userIrqChange

/-- `xdma_user_irq_timer_change`. -/
def xdmaUserIrqTimerChange := userIrqChange

/-- `xdma_user_irq_timer_value_change`. -/
def xdmaUserIrqTimerValueChange := userIrqChange

/-- `xdma_user_irq`; its `msix_user_irq_service` calls no handler. -/
def xdmaUserIrq (i : ℕ) (s : UserIrqState) : UserIrqState :=
  if s.switchIsr &&& 2 ^ (16 + i) ≠ 0 then s.ack (2 ^ (16 + i)) else s

/-- The vector of user interrupt `i` fires. -/
def userVector (table : UserIrqTable) (i : ℕ) (s : UserIrqState) :
    Except UserIrqFault UserIrqState :=
  match userHandler i with
  | some .xdmaUserIrqConfigChange => xdmaUserIrqConfigChange table i s
  | some .xdmaUserIrqTimerChange => xdmaUserIrqTimerChange table i s
  | some .xdmaUserIrqTimerValueChange => xdmaUserIrqTimerValueChange table i s
  | some .xdmaUserIrq => .ok (xdmaUserIrq i s)
  | _ => .ok s

/-- The user interrupts pending in a value of `SWITCH_ISR`. -/
def pendingUsers (v : ℕ) : List ℕ := (List.range MAX_USER_IRQ).filter fun i => v.testBit (16 + i)

/-- The vectors of all pending user interrupts fire, one after the other. -/
def msixUser (table : UserIrqTable) (s : UserIrqState) : Except UserIrqFault UserIrqState :=
  (pendingUsers s.switchIsr).foldlM (fun s i => userVector table i s) s

/-! ## Both modes in one form -/

/-- User interrupt `i` is acknowledged and its handler, if there is one, is called. -/
def serve (table : UserIrqTable) (s : UserIrqState) (i : ℕ) : UserIrqState :=
  userIrqService (table i) (s.ack (2 ^ (16 + i)))

section Serve

variable (table : UserIrqTable)

theorem serve_switchIsr (s : UserIrqState) (i : ℕ) :
    (serve table s i).switchIsr = Nat.ldiff s.switchIsr (2 ^ (16 + i)) := by
  unfold serve userIrqService
  split <;> rfl

theorem serve_acks (s : UserIrqState) (i : ℕ) :
    (serve table s i).acks = s.acks ++ [2 ^ (16 + i)] := by
  unfold serve userIrqService
  split <;> rfl

theorem serve_ran (s : UserIrqState) (i : ℕ) :
    (serve table s i).ran = s.ran ++ (table i).toList := by
  unfold serve userIrqService
  split
  · rename_i hnone
    rw [hnone, Option.toList_none, List.append_nil]
    rfl
  · rename_i h hsome
    rw [hsome]
    rfl

theorem foldl_serve_acks (is : List ℕ) (s : UserIrqState) :
    (is.foldl (serve table) s).acks = s.acks ++ is.map fun i => 2 ^ (16 + i) := by
  induction is generalizing s with
  | nil => simp
  | cons i is ih => rw [List.foldl_cons, ih, serve_acks, List.append_assoc, List.map_cons]; rfl

theorem foldl_serve_ran (is : List ℕ) (s : UserIrqState) :
    (is.foldl (serve table) s).ran = s.ran ++ is.filterMap table := by
  induction is generalizing s with
  | nil => simp
  | cons i is ih =>
      rw [List.foldl_cons, ih, serve_ran, List.append_assoc, List.filterMap_cons]
      cases table i <;> rfl

/-- The loop of `xdma_isr`: the variable `user_irq` loses only bits of interrupts that are done. -/
theorem foldl_isrUserStep {v : ℕ} {is : List ℕ} (his : is.Nodup) {st : ℕ × UserIrqState}
    (hst : ∀ i ∈ is, st.1.testBit (16 + i) = v.testBit (16 + i)) :
    (is.foldl (isrUserStep table) st).2 =
      (is.filter fun i => v.testBit (16 + i)).foldl (serve table) st.2 := by
  induction is generalizing st with
  | nil => rfl
  | cons i is ih =>
      obtain ⟨hi, his⟩ := List.nodup_cons.mp his
      have htest := and_two_pow_ne_zero_iff st.1 (16 + i)
      rw [hst i List.mem_cons_self] at htest
      rw [List.foldl_cons, List.filter_cons]
      by_cases hbit : v.testBit (16 + i) = true
      · have hmask : st.1 &&& 2 ^ (16 + i) = 2 ^ (16 + i) := by
          rw [Nat.and_two_pow, hst i List.mem_cons_self, hbit, Bool.toNat_true, Nat.one_mul]
        rw [isrUserStep, if_pos (htest.mpr hbit), if_pos hbit, ih his, hmask]
        · rfl
        · intro j hj
          have hne : 16 + i ≠ 16 + j := fun h => hi (Nat.add_left_cancel h ▸ hj)
          rw [← hst j (List.mem_cons_of_mem _ hj)]
          exact testBit_ldiff_two_pow hne
      · rw [isrUserStep, if_neg (mt htest.mp hbit), if_neg hbit]
        exact ih his fun j hj => hst j (List.mem_cons_of_mem _ hj)

theorem xdmaIsrUser_eq (s : UserIrqState) :
    xdmaIsrUser table s = (pendingUsers s.switchIsr).foldl (serve table) s := by
  have hloop : ((List.range 16).foldl (isrUserStep table) (s.switchIsr, s)).2 =
      (pendingUsers s.switchIsr).foldl (serve table) s :=
    foldl_isrUserStep table List.nodup_range fun _ _ => rfl
  unfold xdmaIsrUser
  by_cases hzero : s.switchIsr = 0
  · have hnone : pendingUsers s.switchIsr = [] := by
      rw [pendingUsers, hzero]
      simp only [Nat.zero_testBit, List.filter_false]
    rw [if_neg (not_not.mpr hzero), hnone]
    rfl
  · rw [if_pos hzero]
    exact hloop

end Serve

/-- With the MSI-X table a vector handler does what the loop would do with this table. -/
theorem userVector_eq {i : ℕ} (hi : i < MAX_USER_IRQ) {s : UserIrqState}
    (hbit : s.switchIsr.testBit (16 + i) = true) :
    userVector (xdmaUserIsrRegister true noHandlers) i s =
      .ok (serve (xdmaUserIsrRegister true noHandlers) s i) := by
  have hset := (and_two_pow_ne_zero_iff s.switchIsr (16 + i)).mpr hbit
  by_cases h8 : i = 8
  · subst h8
    exact if_pos hset
  by_cases h9 : i = 9
  · subst h9
    exact if_pos hset
  by_cases h10 : i = 10
  · subst h10
    exact if_pos hset
  have hhandler : userHandler i = some .xdmaUserIrq := by
    rw [userHandler, if_neg h8, if_neg h9, if_neg h10, if_pos hi]
  have hnone : xdmaUserIsrRegister true noHandlers i = none := by
    rw [xdmaUserIsrRegister, if_pos rfl, if_neg h8, if_neg h9, if_neg h10, if_pos hi]
  simp only [userVector, hhandler, xdmaUserIrq, if_pos hset, serve, hnone, userIrqService]

theorem foldlM_userVector {is : List ℕ} (his : is.Nodup) {s : UserIrqState}
    (hs : ∀ i ∈ is, i < MAX_USER_IRQ ∧ s.switchIsr.testBit (16 + i) = true) :
    is.foldlM (fun s i => userVector (xdmaUserIsrRegister true noHandlers) i s) s =
      .ok (is.foldl (serve (xdmaUserIsrRegister true noHandlers)) s) := by
  induction is generalizing s with
  | nil => rfl
  | cons i is ih =>
      obtain ⟨hi, his⟩ := List.nodup_cons.mp his
      obtain ⟨hlt, hbit⟩ := hs i List.mem_cons_self
      rw [List.foldlM_cons, userVector_eq hlt hbit, List.foldl_cons]
      apply ih his
      intro j hj
      have hne : 16 + i ≠ 16 + j := fun h => hi (Nat.add_left_cancel h ▸ hj)
      rw [serve_switchIsr, testBit_ldiff_two_pow hne]
      exact hs j (List.mem_cons_of_mem _ hj)

theorem msixUser_eq (s : UserIrqState) : msixUser (xdmaUserIsrRegister true noHandlers) s =
    .ok ((pendingUsers s.switchIsr).foldl (serve (xdmaUserIsrRegister true noHandlers)) s) := by
  apply foldlM_userVector (List.nodup_range.filter _)
  intro i hi
  obtain ⟨hrange, hbit⟩ := List.mem_filter.mp hi
  exact ⟨List.mem_range.mp hrange, hbit⟩

/-! ## Which handlers are reached -/

/-- Qbv handler `q` was called. -/
def UserIrqState.Ran (s : UserIrqState) (q : QbvHandler) : Prop := ∃ h ∈ s.ran, h.qbv = some q

/-- Bit `b` of `SWITCH_ISR` was acknowledged. -/
def UserIrqState.Acked (s : UserIrqState) (b : ℕ) : Prop := ∃ m ∈ s.acks, m.testBit b = true

/-- `SWITCH_ISR` reads `v`, and nothing is done yet. -/
def pendingIsr (v : ℕ) : UserIrqState := ⟨v, [], []⟩

/-- The entry of a Qbv handler in the table without MSI-X. -/
def legacyEntry : QbvHandler → Option ℕ
  | .axIrqConfigChange => some 4
  | .axIrqTimerChange => some 6
  | .axIrqTimerValueChange => none

/-- The entry of a Qbv handler in the MSI-X table. -/
def msixEntry : QbvHandler → ℕ
  | .axIrqConfigChange => 8
  | .axIrqTimerChange => 9
  | .axIrqTimerValueChange => 10

theorem ran_foldl_serve_iff (table : UserIrqTable) (v : ℕ) (q : QbvHandler) :
    ((pendingUsers v).foldl (serve table) (pendingIsr v)).Ran q ↔
      ∃ i < MAX_USER_IRQ, v.testBit (16 + i) = true ∧ (table i).bind UserHandler.qbv = some q := by
  unfold UserIrqState.Ran
  rw [foldl_serve_ran]
  simp only [pendingIsr, List.nil_append, List.mem_filterMap, pendingUsers, List.mem_filter,
    List.mem_range, Option.bind_eq_some_iff]
  constructor
  · rintro ⟨h, ⟨i, ⟨hi, hbit⟩, htable⟩, hq⟩
    exact ⟨i, hi, hbit, h, htable, hq⟩
  · rintro ⟨i, hi, hbit, h, htable, hq⟩
    exact ⟨h, ⟨i, ⟨hi, hbit⟩, htable⟩, hq⟩

theorem legacyTable_qbv_iff (i : ℕ) (q : QbvHandler) :
    (xdmaUserIsrRegister false noHandlers i).bind UserHandler.qbv = some q ↔
      legacyEntry q = some i := by
  unfold xdmaUserIsrRegister noHandlers
  cases q <;> grind [UserHandler.qbv, legacyEntry]

theorem msixTable_qbv_iff (i : ℕ) (q : QbvHandler) :
    (xdmaUserIsrRegister true noHandlers i).bind UserHandler.qbv = some q ↔ msixEntry q = i := by
  unfold xdmaUserIsrRegister noHandlers
  cases q <;> grind [UserHandler.qbv, msixEntry]

theorem legacyEntry_lt {q : QbvHandler} {i : ℕ} (h : legacyEntry q = some i) : i < MAX_USER_IRQ := by
  cases q <;> cases h <;> simp only [MAX_USER_IRQ] <;> omega

/-- What `xdma_isr` runs for `SWITCH_ISR = v`. -/
theorem legacy_ran_iff (v : ℕ) (q : QbvHandler) :
    (xdmaIsrUser (xdmaUserIsrRegister false noHandlers) (pendingIsr v)).Ran q ↔
      ∃ i, legacyEntry q = some i ∧ v.testBit (16 + i) = true := by
  rw [xdmaIsrUser_eq]
  apply (ran_foldl_serve_iff _ v q).trans
  simp only [legacyTable_qbv_iff]
  constructor
  · rintro ⟨i, -, hbit, hentry⟩
    exact ⟨i, hentry, hbit⟩
  · rintro ⟨i, hentry, hbit⟩
    exact ⟨i, legacyEntry_lt hentry, hbit, hentry⟩

/-- What the vectors run. -/
theorem msix_ran_iff (v : ℕ) (q : QbvHandler) :
    ((pendingUsers v).foldl (serve (xdmaUserIsrRegister true noHandlers)) (pendingIsr v)).Ran q ↔
      v.testBit (16 + msixEntry q) = true := by
  rw [ran_foldl_serve_iff]
  simp only [msixTable_qbv_iff]
  constructor
  · rintro ⟨i, -, hbit, rfl⟩
    exact hbit
  · intro hbit
    refine ⟨msixEntry q, ?_, hbit, rfl⟩
    cases q <;> simp only [msixEntry, MAX_USER_IRQ] <;> omega

/-- The bits for which the two tables lead to the same handlers. -/
theorem entries_agree_iff (v : ℕ) :
    (∀ q, (∃ i, legacyEntry q = some i ∧ v.testBit (16 + i) = true) ↔
      v.testBit (16 + msixEntry q) = true) ↔
        v.testBit 20 = v.testBit 24 ∧ v.testBit 22 = v.testBit 25 ∧ v.testBit 26 = false := by
  constructor
  · intro h
    have hconfig := h .axIrqConfigChange
    have htimer := h .axIrqTimerChange
    have hvalue := h .axIrqTimerValueChange
    simp only [legacyEntry, msixEntry, Option.some.injEq, exists_eq_left', reduceCtorEq, false_and,
      exists_false, false_iff, Bool.not_eq_true] at hconfig htimer hvalue
    exact ⟨Bool.eq_iff_iff.mpr hconfig, Bool.eq_iff_iff.mpr htimer, hvalue⟩
  · rintro ⟨hconfig, htimer, hvalue⟩ q
    cases q with
    | axIrqConfigChange => simp [legacyEntry, msixEntry, hconfig]
    | axIrqTimerChange => simp [legacyEntry, msixEntry, htimer]
    | axIrqTimerValueChange => simp [legacyEntry, msixEntry, hvalue]

/-- The same Qbv handlers were run and the same status bits acknowledged. -/
def SameService (s s' : UserIrqState) : Prop :=
  (∀ q, s.Ran q ↔ s'.Ran q) ∧ ∀ b, s.Acked b ↔ s'.Acked b

/-- **The two interrupt modes.** For every value of `SWITCH_ISR` the MSI-X vectors run through, and
they do what `xdma_isr` does without MSI-X exactly if bits 20 and 24 agree, bits 22 and 25 agree and
bit 26 is clear. -/
theorem msixUser_same_iff (v : ℕ) :
    ∃ s, msixUser (xdmaUserIsrRegister true noHandlers) (pendingIsr v) = .ok s ∧
      (SameService (xdmaIsrUser (xdmaUserIsrRegister false noHandlers) (pendingIsr v)) s ↔
        v.testBit 20 = v.testBit 24 ∧ v.testBit 22 = v.testBit 25 ∧ v.testBit 26 = false) := by
  set s := (pendingUsers v).foldl (serve (xdmaUserIsrRegister true noHandlers)) (pendingIsr v)
    with hs
  have hmsix : msixUser (xdmaUserIsrRegister true noHandlers) (pendingIsr v) = .ok s := msixUser_eq _
  -- the acknowledged bits are those of the pending interrupts in both modes
  have hacks : ∀ b, (xdmaIsrUser (xdmaUserIsrRegister false noHandlers) (pendingIsr v)).Acked b ↔
      s.Acked b := by
    intro b
    unfold UserIrqState.Acked
    rw [xdmaIsrUser_eq, hs, foldl_serve_acks, foldl_serve_acks]
    rfl
  refine ⟨s, hmsix, ?_⟩
  unfold SameService
  rw [and_iff_left hacks, ← entries_agree_iff]
  simp only [legacy_ran_iff, hs, msix_ran_iff]

/-- A change of the configuration, bit 24, is acknowledged without MSI-X and not served. -/
theorem xdmaIsrUser_drops_configChange :
    ¬ (xdmaIsrUser (xdmaUserIsrRegister false noHandlers) (pendingIsr 0x01000000)).Ran
        .axIrqConfigChange ∧
      ∃ s, msixUser (xdmaUserIsrRegister true noHandlers) (pendingIsr 0x01000000) = .ok s ∧
        s.Ran .axIrqConfigChange ∧
        ¬ SameService (xdmaIsrUser (xdmaUserIsrRegister false noHandlers) (pendingIsr 0x01000000)) s := by
  have hlegacy : ¬ (xdmaIsrUser (xdmaUserIsrRegister false noHandlers)
      (pendingIsr 0x01000000)).Ran .axIrqConfigChange := by
    rw [legacy_ran_iff]
    rintro ⟨i, hi, hbit⟩
    cases hi
    cases hbit
  have hmsix := (msix_ran_iff 0x01000000 .axIrqConfigChange).mpr rfl
  exact ⟨hlegacy, _, msixUser_eq _, hmsix, fun h => hlegacy ((h.1 _).mpr hmsix)⟩

end Axm57104.Pci
