import Axm57104.Common.Words
import Axm57104.Net.Ioctl
import Mathlib.Tactic.IntervalCases

/-!
# Register accesses from user space

`ioctl_read_reg` and `ioctl_write_reg` access four bytes of a BAR at an offset that user space has
sent. Neither compares the offset with the length that `map_single_bar` has mapped. A write near
`DSA_OFFSET` of BAR 2 is followed by `ax_get_dsa_mac`, which decodes the eight DSA registers into
`ax_dsa.dsa_mac` again; the test for it looks at the offset alone, and misses a write that begins
just below the registers and reaches into them.

The BARs are memory here, byte by byte. What an access does outside the mapped length is not
described: the results are about which accesses are made.
-/

namespace Axm57104.Net

open Common

/-! ## BARs -/

@[simp] abbrev INT_MAX : ℕ := 2 ^ 31 - 1

/-- The length that `map_single_bar` maps of a BAR of length `barLen`; 0 for a BAR that is absent. -/
def mapSingleBar (barLen : ℕ) : ℕ :=
  if barLen = 0 then 0 else if INT_MAX < barLen then INT_MAX else barLen

local instance neZero_barNum : NeZero XDMA_BAR_NUM := ⟨by decide⟩

/-- The bytes behind the BARs. -/
abbrev BarMem : Type := Fin XDMA_BAR_NUM → ℕ → UInt8

/-- `ioread32`. -/
def BarMem.load (m : BarMem) (bar : Fin XDMA_BAR_NUM) (off : ℕ) : UInt32 :=
  ofLe32 fun k => m bar (off + k.val)

/-- `iowrite32`. -/
def BarMem.store (m : BarMem) (bar : Fin XDMA_BAR_NUM) (off : ℕ) (v : UInt32) : BarMem :=
  Function.update m bar fun a =>
    if h : off ≤ a ∧ a < off + 4 then byteOf v ⟨a - off, by omega⟩ else m bar a

/-- BARs that are memory. -/
def barDev : Device BarMem IoAccess UInt32
  | .read bar off, m => (m.load bar off.toNat, m)
  | .write bar off v, m => (0, m.store bar off.toNat v)

/-- The four bytes of an access lie in the mapped length of its BAR. -/
def Inside (barLen : Fin XDMA_BAR_NUM → ℕ) : IoAccess → Prop
  | .read bar off => off.toNat + 4 ≤ mapSingleBar (barLen bar)
  | .write bar off _ => off.toNat + 4 ≤ mapSingleBar (barLen bar)

theorem store_of_not_mem {m : BarMem} {bar : Fin XDMA_BAR_NUM} {off a : ℕ} {v : UInt32}
    (h : ¬ (off ≤ a ∧ a < off + 4)) (bar' : Fin XDMA_BAR_NUM) :
    m.store bar off v bar' a = m bar' a := by
  unfold BarMem.store
  by_cases hbar : bar' = bar
  · subst hbar
    rw [Function.update_self, dif_neg h]
  · rw [Function.update_of_ne hbar]

theorem store_of_ne {m : BarMem} {bar bar' : Fin XDMA_BAR_NUM} (hne : bar' ≠ bar) (off : ℕ)
    (v : UInt32) : m.store bar off v bar' = m bar' := Function.update_of_ne hne _ _

theorem store_of_mem {m : BarMem} {bar : Fin XDMA_BAR_NUM} {off a : ℕ} {v : UInt32}
    (hle : off ≤ a) (hlt : a < off + 4) :
    m.store bar off v bar a = byteOf v ⟨a - off, by omega⟩ := by
  unfold BarMem.store
  rw [Function.update_self, dif_pos ⟨hle, hlt⟩]

/-! ## The cached addresses -/

/-- The register that has byte `j` of address `t`, and its place there: two bytes of an address are
in the lower half of the first register, the other four in the second, high byte first. -/
def dsaReg (t j : ℕ) : ℕ := 2 * t + if j < 2 then 0 else 1

def dsaByte (j : ℕ) : ℕ := if j < 2 then 1 - j else 5 - j

/-- Byte `j` of address `t` as the DSA registers have it. -/
def dsaDecode (m : BarMem) (t j : ℕ) : UInt8 := m 2 (0x0C00 + 4 * dsaReg t j + dsaByte j)

/-- `dsa_mac` is the decoding of the DSA registers. -/
def Coherent (ax : IoctlDev) (m : BarMem) : Prop :=
  ∀ t < 4, ∀ j < 6, ax.dsaMac t j = dsaDecode m t j

theorem dsaByte_lt {j : ℕ} (hj : j < 6) : dsaByte j < 4 := by
  unfold dsaByte
  split <;> omega

theorem dsaReg_eq_iff (t j i : ℕ) : dsaReg t j = i ↔ t = i / 2 ∧ (i % 2 = 0 ↔ j < 2) := by
  unfold dsaReg
  split <;> omega

/-- An iteration of `ax_get_dsa_mac` writes the bytes of its register, and no other. -/
theorem dsaMacStep_apply (mac : ℕ → ℕ → UInt8) (i : ℕ) (v : UInt32) {t j : ℕ} (hj : j < 6) :
    dsaMacStep mac i v t j =
      if dsaReg t j = i then byteOf v ⟨dsaByte j, dsaByte_lt hj⟩ else mac t j := by
  have h0 : v.toUInt8 = byteOf v 0 := by
    rw [← toUInt8_shiftRight v (n := 0) rfl, UInt32.shiftRight_zero]
  have h1 : (v >>> 8).toUInt8 = byteOf v 1 := toUInt8_shiftRight v rfl
  have h2 : (v >>> 16).toUInt8 = byteOf v 2 := toUInt8_shiftRight v rfl
  have h3 : (v >>> 24).toUInt8 = byteOf v 3 := toUInt8_shiftRight v rfl
  unfold dsaMacStep
  by_cases ht : t = i / 2
  · subst ht
    simp only [Function.update_self, dsaReg_eq_iff, true_and, h0, h1, h2, h3]
    by_cases heven : i % 2 = 0
    · simp only [heven, if_true, true_iff]
      interval_cases j <;> rfl
    · simp only [heven, if_false, false_iff]
      interval_cases j <;> rfl
  · have hne : ¬ dsaReg t j = i := fun h => ht ((dsaReg_eq_iff t j i).mp h).1
    simp only [Function.update_of_ne ht, if_neg hne]

/-! ## What the handlers do to the BARs -/

/-- DSA register `i`, as `ax_get_dsa_mac` addresses it. -/
def dsaRegOffset (i : ℕ) : UInt64 := DSA_OFFSET + UInt64.ofNat (i * 4)

theorem toNat_dsaRegOffset {i : ℕ} (hi : i < 8) : (dsaRegOffset i).toNat = 0x0C00 + 4 * i := by
  rw [dsaRegOffset, UInt64.toNat_add, UInt64.toNat_ofNat']
  show (0x0C00 + i * 4 % 2 ^ 64) % 2 ^ 64 = _
  omega

/-- The accesses of `ax_get_dsa_mac` to the given registers. -/
def dsaReads (m : BarMem) (is : List ℕ) : List (IoAccess × UInt32) :=
  is.map fun i => (.read 2 (dsaRegOffset i), m.load 2 (dsaRegOffset i).toNat)

theorem axGetDsaMacFrom_run (is : List ℕ) (mac : ℕ → ℕ → UInt8) (m : BarMem) :
    (axGetDsaMacFrom is mac).run barDev m =
      ⟨.ok (is.foldl (fun mac i => dsaMacStep mac i (m.load 2 (dsaRegOffset i).toNat)) mac), m,
        dsaReads m is⟩ := by
  induction is generalizing mac with
  | nil => rfl
  | cons i is ih =>
      simp only [axGetDsaMacFrom, ioread32, Prog.op_bind, Prog.ret_bind, Prog.run, barDev]
      rw [ih]
      rfl

/-- After `n` registers the bytes they hold are decoded. -/
theorem foldl_dsaMacStep (m : BarMem) (mac : ℕ → ℕ → UInt8) {n : ℕ} (hn : n ≤ 8) {t j : ℕ}
    (hj : j < 6) (hreg : dsaReg t j < n) :
    (List.range n).foldl (fun mac i => dsaMacStep mac i (m.load 2 (dsaRegOffset i).toNat)) mac t j =
      dsaDecode m t j := by
  induction n with
  | zero => exact absurd hreg (Nat.not_lt_zero _)
  | succ n ih =>
      rw [List.range_succ, List.foldl_append, List.foldl_cons, List.foldl_nil, dsaMacStep_apply _ _ _ hj]
      split
      · rename_i heq
        rw [BarMem.load, byteOf_ofLe32, toNat_dsaRegOffset (by omega), dsaDecode, heq]
      · exact ih (by omega) (by omega)

/-- `ax_get_dsa_mac` makes the cached addresses coherent. -/
theorem axGetDsaMac_run (ax : IoctlDev) (m : BarMem) :
    ∃ ax', (axGetDsaMac ax).run barDev m = ⟨.ok ax', m, dsaReads m (List.range 8)⟩ ∧
      Coherent ax' m := by
  have hdecoded {t j : ℕ} (ht : t < 4) (hj : j < 6) :=
    foldl_dsaMacStep m ax.dsaMac (n := 8) le_rfl hj (t := t) (by unfold dsaReg; split <;> omega)
  have hrun := axGetDsaMacFrom_run (List.range 8) ax.dsaMac m
  generalize (List.range 8).foldl
    (fun mac i => dsaMacStep mac i (m.load 2 (dsaRegOffset i).toNat)) ax.dsaMac = mac at hdecoded hrun
  refine ⟨{ ax with dsaMac := mac }, ?_, fun t ht j hj => hdecoded ht hj⟩
  rw [axGetDsaMac, Prog.run_bind_ok (by rw [hrun]), hrun]
  simp only [Prog.pure_eq_ret, Prog.run, Outcome.prepend, List.append_nil]

/-! ## The window and the cache -/

/-- The test of `ioctl_write_reg` for a write to the DSA registers. -/
def Refreshes (cmd : AxCmdData) : Prop := cmd.bar = 2 ∧ cmd.offset &&& 0x0F00 = DSA_OFFSET

/-- Accesses are made, and all inside the mapped lengths; or none, and the command fails. -/
def Contained (barLen : Fin XDMA_BAR_NUM → ℕ) (status : ℤ) (log : List (IoAccess × UInt32)) : Prop :=
  (log ≠ [] ∧ ∀ x ∈ log, Inside barLen x.1) ∨ (log = [] ∧ status = AX_STATUS_FAILURE)

/-- What `ioctl_read_reg` should do. -/
def ReadContained (barLen : Fin XDMA_BAR_NUM → ℕ) (ioctl : Ioctl) (m : BarMem) : Prop :=
  let o := (ioctlReadReg ioctl).run barDev m
  ∃ ioctl', o.result = .ok ioctl' ∧ Contained barLen ioctl'.status o.log

/-- What `ioctl_write_reg` should do: besides, a write that succeeds keeps `dsa_mac` coherent. -/
def WriteContained (barLen : Fin XDMA_BAR_NUM → ℕ) (ax : IoctlDev) (ioctl : Ioctl) (m : BarMem) :
    Prop :=
  let o := (ioctlWriteReg ax ioctl).run barDev m
  ∃ ax' ioctl', o.result = .ok (ax', ioctl') ∧ Contained barLen ioctl'.status o.log ∧
    (Coherent ax m → ioctl'.status = AX_STATUS_SUCCESS → Coherent ax' o.final)

/-- The four bytes at the offset lie in the mapped length of the BAR. -/
def Fits (barLen : Fin XDMA_BAR_NUM → ℕ) (bar : Fin XDMA_BAR_NUM) (cmd : AxCmdData) : Prop :=
  cmd.offset.toNat + 4 ≤ mapSingleBar (barLen bar)

/-- A write to BAR 2 that begins below the DSA registers leaves the two bytes of the first register
that are decoded and that it can reach. -/
def KeepsDsa (cmd : AxCmdData) (m : BarMem) : Prop :=
  cmd.bar = 2 → cmd.offset.toNat < 0x0C00 → ∀ a, 0x0C00 ≤ a → a < 0x0C02 →
    ∀ h : a < cmd.offset.toNat + 4,
      byteOf cmd.value.toUInt32 ⟨a - cmd.offset.toNat, by omega⟩ = m 2 a

theorem barOf_eq_two {b : UInt32} {bar : Fin XDMA_BAR_NUM} (h : barOf b = some bar) :
    bar = 2 ↔ b = 2 := by
  unfold barOf at h
  split at h
  · cases h
    rw [Fin.ext_iff, ← UInt32.toNat_inj]
    rfl
  · cases h

/-- The test looks at bits 8 to 11 of the offset: it does not miss a write that begins in the DSA
registers, and misses every write that begins below and reaches into them. -/
theorem and_eq_dsaOffset_iff (o : UInt64) :
    o &&& 0x0F00 = DSA_OFFSET ↔ o.toNat / 2 ^ 8 % 2 ^ 4 = 0xC := by
  have hmask : o.toNat &&& 2 ^ 8 * (2 ^ 4 - 1) = 2 ^ 8 * (o.toNat / 2 ^ 8 % 2 ^ 4) := by
    rw [and_two_pow_mul, Nat.and_two_pow_sub_one_eq_mod]
  rw [← UInt64.toNat_inj, UInt64.toNat_and]
  show o.toNat &&& 2 ^ 8 * (2 ^ 4 - 1) = 2 ^ 8 * 0xC ↔ _
  rw [hmask]
  omega

section Runs

variable (barLen : Fin XDMA_BAR_NUM → ℕ) (ax : IoctlDev) (m : BarMem) {ioctl : Ioctl}
  {bar : Fin XDMA_BAR_NUM}

/-- The memory after the write of `ioctl_write_reg`. -/
def written (bar : Fin XDMA_BAR_NUM) (cmd : AxCmdData) (m : BarMem) : BarMem :=
  m.store bar cmd.offset.toNat cmd.value.toUInt32

theorem ioctlReadReg_run (hbar : barOf ioctl.cmdData.bar = some bar) :
    ∃ ioctl' v, (ioctlReadReg ioctl).run barDev m =
      ⟨.ok ioctl', m, [(.read bar ioctl.cmdData.offset, v)]⟩ := by
  unfold ioctlReadReg
  rw [hbar]
  exact ⟨_, _, rfl⟩

theorem ioctlWriteReg_run_refresh (hbar : barOf ioctl.cmdData.bar = some bar)
    (hrefresh : Refreshes ioctl.cmdData) :
    ∃ ax' ioctl', (ioctlWriteReg ax ioctl).run barDev m =
        ⟨.ok (ax', ioctl'), written bar ioctl.cmdData m,
          (.write bar ioctl.cmdData.offset ioctl.cmdData.value.toUInt32, 0) ::
            dsaReads (written bar ioctl.cmdData m) (List.range 8)⟩ ∧
      Coherent ax' (written bar ioctl.cmdData m) := by
  obtain ⟨ax', hrun, hcoherent⟩ := axGetDsaMac_run ax (written bar ioctl.cmdData m)
  refine ⟨ax', { ioctl with status := AX_STATUS_SUCCESS }, ?_, hcoherent⟩
  unfold ioctlWriteReg
  rw [hbar]
  simp only [iowrite32, Prog.op_bind, Prog.ret_bind, Prog.run, barDev]
  unfold Refreshes at hrefresh
  rw [if_pos hrefresh, Prog.run_bind_ok (a := ax') (by exact congrArg Outcome.result hrun)]
  show (Outcome.prepend ((axGetDsaMac ax).run barDev (written bar ioctl.cmdData m)).log
    ⟨_, ((axGetDsaMac ax).run barDev (written bar ioctl.cmdData m)).final, []⟩).cons _ = _
  rw [hrun]
  simp only [Outcome.prepend, Outcome.cons, List.append_nil]

theorem ioctlWriteReg_run_plain (hbar : barOf ioctl.cmdData.bar = some bar)
    (hrefresh : ¬ Refreshes ioctl.cmdData) :
    (ioctlWriteReg ax ioctl).run barDev m =
      ⟨.ok (ax, { ioctl with status := AX_STATUS_SUCCESS }), written bar ioctl.cmdData m,
        [(.write bar ioctl.cmdData.offset ioctl.cmdData.value.toUInt32, 0)]⟩ := by
  unfold ioctlWriteReg
  rw [hbar]
  simp only [iowrite32, Prog.op_bind, Prog.ret_bind, Prog.run, barDev]
  unfold Refreshes at hrefresh
  rw [if_neg hrefresh]
  rfl

theorem contained_cons_iff {status : ℤ} {x : IoAccess × UInt32} {log : List (IoAccess × UInt32)} :
    Contained barLen status (x :: log) ↔ Inside barLen x.1 ∧ ∀ y ∈ log, Inside barLen y.1 := by
  unfold Contained
  simp only [ne_eq, reduceCtorEq, not_false_eq_true, true_and, false_and, or_false,
    List.forall_mem_cons]

theorem inside_dsaReads_iff :
    (∀ x ∈ dsaReads m (List.range 8), Inside barLen x.1) ↔ 0x0C20 ≤ mapSingleBar (barLen 2) := by
  unfold dsaReads
  simp only [List.forall_mem_map, List.mem_range, Inside]
  constructor
  · intro h
    have h7 := h 7 (by omega)
    rw [toNat_dsaRegOffset (by omega)] at h7
    omega
  · intro h i hi
    rw [toNat_dsaRegOffset hi]
    omega

/-- A write after which the registers are not decoded keeps the coherence exactly if it keeps the
decoded bytes. -/
theorem coherent_written_iff (hbar : barOf ioctl.cmdData.bar = some bar)
    (hrefresh : ¬ Refreshes ioctl.cmdData) (hcoherent : Coherent ax m) :
    Coherent ax (written bar ioctl.cmdData m) ↔ KeepsDsa ioctl.cmdData m := by
  constructor
  · intro h htwo hlt a hle hlt' hreach
    obtain rfl := (barOf_eq_two hbar).mpr htwo
    -- byte `a` of BAR 2 is decoded as byte `0x0C01 - a` of the first address
    have hbyte : 0x0C00 + 4 * dsaReg 0 (0x0C01 - a) + dsaByte (0x0C01 - a) = a := by
      unfold dsaReg dsaByte
      rw [if_pos (by omega), if_pos (by omega)]
      omega
    have hold := hcoherent 0 (by omega) (0x0C01 - a) (by omega)
    have hnew := h 0 (by omega) (0x0C01 - a) (by omega)
    unfold dsaDecode at hold hnew
    rw [hbyte] at hold hnew
    rw [← hold, hnew, written, store_of_mem (by omega) hreach]
  · intro hkeeps t ht j hj
    rw [hcoherent t ht j hj]
    unfold dsaDecode written
    by_cases htwo : bar = 2
    · subst htwo
      have hbar2 := (barOf_eq_two hbar).mp rfl
      obtain ⟨a, ha⟩ : ∃ a, 0x0C00 + 4 * dsaReg t j + dsaByte j = a := ⟨_, rfl⟩
      have hrange : 0x0C00 ≤ a ∧ a < 0x0C20 ∧ (a < 0x0C04 → a < 0x0C02) := by
        unfold dsaReg dsaByte at ha
        split at ha <;> omega
      rw [ha]
      by_cases hmem : ioctl.cmdData.offset.toNat ≤ a ∧ a < ioctl.cmdData.offset.toNat + 4
      · -- a write that begins in the registers would have passed the test
        have hbelow : ioctl.cmdData.offset.toNat < 0x0C00 := by
          by_contra hge
          exact hrefresh ⟨hbar2, (and_eq_dsaOffset_iff _).mpr (by omega)⟩
        rw [store_of_mem hmem.1 hmem.2]
        exact (hkeeps hbar2 hbelow a hrange.1 (hrange.2.2 (by omega)) hmem.2).symm
      · rw [store_of_not_mem hmem]
    · rw [store_of_ne (Ne.symm htwo)]

/-- Where the registers are decoded again there is nothing to keep. -/
theorem keepsDsa_of_refreshes {cmd : AxCmdData} (hrefresh : Refreshes cmd) : KeepsDsa cmd m := by
  intro _ hlt a hle _ hreach
  have htest := (and_eq_dsaOffset_iff _).mp hrefresh.2
  omega

theorem readContained_iff :
    ReadContained barLen ioctl m ↔
      ∀ bar, barOf ioctl.cmdData.bar = some bar → Fits barLen bar ioctl.cmdData := by
  unfold ReadContained
  constructor
  · rintro ⟨ioctl', -, hcontained⟩ bar hbar
    obtain ⟨_, v, hrun⟩ := ioctlReadReg_run m hbar
    rw [hrun, contained_cons_iff] at hcontained
    exact hcontained.1
  · intro h
    obtain hbar | ⟨bar, hbar⟩ := Option.eq_none_or_eq_some (barOf ioctl.cmdData.bar)
    · unfold ioctlReadReg
      rw [hbar]
      exact ⟨_, rfl, .inr ⟨rfl, rfl⟩⟩
    · obtain ⟨ioctl', v, hrun⟩ := ioctlReadReg_run m hbar
      rw [hrun]
      refine ⟨ioctl', rfl, (contained_cons_iff barLen).mpr ⟨h bar hbar, ?_⟩⟩
      intro y hy
      cases hy

theorem writeContained_refresh_iff (hbar : barOf ioctl.cmdData.bar = some bar)
    (hrefresh : Refreshes ioctl.cmdData) :
    WriteContained barLen ax ioctl m ↔
      Fits barLen bar ioctl.cmdData ∧ 0x0C20 ≤ mapSingleBar (barLen 2) := by
  obtain ⟨ax', ioctl', hrun, hcoherent⟩ := ioctlWriteReg_run_refresh ax m hbar hrefresh
  unfold WriteContained
  rw [hrun, ← inside_dsaReads_iff barLen (written bar ioctl.cmdData m)]
  constructor
  · rintro ⟨_, _, -, hcontained, -⟩
    exact (contained_cons_iff barLen).mp hcontained
  · intro h
    exact ⟨ax', ioctl', rfl, (contained_cons_iff barLen).mpr h, fun _ _ => hcoherent⟩

theorem writeContained_plain_iff (hbar : barOf ioctl.cmdData.bar = some bar)
    (hrefresh : ¬ Refreshes ioctl.cmdData) :
    WriteContained barLen ax ioctl m ↔
      Fits barLen bar ioctl.cmdData ∧ (Coherent ax m → KeepsDsa ioctl.cmdData m) := by
  unfold WriteContained
  rw [ioctlWriteReg_run_plain ax m hbar hrefresh]
  constructor
  · rintro ⟨ax', ioctl', hresult, hcontained, hkeeps⟩
    cases hresult
    refine ⟨((contained_cons_iff barLen).mp hcontained).1, fun hcoherent => ?_⟩
    exact (coherent_written_iff ax m hbar hrefresh hcoherent).mp (hkeeps hcoherent rfl)
  · rintro ⟨hfits, hkeeps⟩
    refine ⟨_, _, rfl, (contained_cons_iff barLen).mpr ⟨hfits, ?_⟩, fun hcoherent _ =>
      (coherent_written_iff ax m hbar hrefresh hcoherent).mpr (hkeeps hcoherent)⟩
    intro y hy
    cases hy

theorem writeContained_iff :
    WriteContained barLen ax ioctl m ↔
      ∀ bar, barOf ioctl.cmdData.bar = some bar →
        Fits barLen bar ioctl.cmdData ∧
        (Refreshes ioctl.cmdData → 0x0C20 ≤ mapSingleBar (barLen 2)) ∧
        (Coherent ax m → KeepsDsa ioctl.cmdData m) := by
  obtain hbar | ⟨bar, hbar⟩ := Option.eq_none_or_eq_some (barOf ioctl.cmdData.bar)
  · simp only [hbar, reduceCtorEq, false_implies, implies_true, iff_true]
    unfold WriteContained ioctlWriteReg
    rw [hbar]
    have hne : AX_STATUS_FAILURE ≠ AX_STATUS_SUCCESS := by decide
    exact ⟨_, _, rfl, .inr ⟨rfl, rfl⟩, fun _ hstatus => absurd hstatus hne⟩
  simp only [hbar, Option.some.injEq, forall_eq']
  by_cases hrefresh : Refreshes ioctl.cmdData
  · rw [writeContained_refresh_iff barLen ax m hbar hrefresh]
    have hkeeps := keepsDsa_of_refreshes m hrefresh
    simp only [hrefresh, hkeeps, true_implies, implies_true, and_true]
  · rw [writeContained_plain_iff barLen ax m hbar hrefresh]
    simp only [hrefresh, false_implies, true_and]

end Runs

/-- **The register commands.** For every length of the BARs, every `bar` and every offset, the read
stays in the mapped length or is refused exactly if there is no such BAR or the four bytes fit; the
write does, and keeps `dsa_mac` the decoding of the DSA registers, exactly if besides the registers
fit where they are decoded again, and a write that begins below them leaves their decoded bytes. -/
theorem ioctlReg_contained_iff (barLen : Fin XDMA_BAR_NUM → ℕ) (ax : IoctlDev) (ioctl : Ioctl)
    (m : BarMem) :
    (ReadContained barLen ioctl m ↔
      ∀ bar, barOf ioctl.cmdData.bar = some bar → Fits barLen bar ioctl.cmdData) ∧
    (WriteContained barLen ax ioctl m ↔
      ∀ bar, barOf ioctl.cmdData.bar = some bar →
        Fits barLen bar ioctl.cmdData ∧
        (Refreshes ioctl.cmdData → 0x0C20 ≤ mapSingleBar (barLen 2)) ∧
        (Coherent ax m → KeepsDsa ioctl.cmdData m)) :=
  ⟨readContained_iff barLen m, writeContained_iff barLen ax m⟩

/-- A register command for the offset in the BAR. -/
def regCommand (bar : UInt32) (offset value : UInt64) : Ioctl := ⟨[], 0, 0, ⟨offset, value, bar⟩⟩

/-- A read of an absent BAR goes ahead; a write to BAR 2 two bytes below the DSA registers succeeds
and leaves `dsa_mac` with an address that the registers no longer have. -/
theorem ioctlReg_escapes :
    ¬ ReadContained (fun _ => 0) (regCommand 0 0 0) (fun _ _ => 0) ∧
      ¬ WriteContained (fun _ => 0) zeroIoctlDev (regCommand 0 0 0) (fun _ _ => 0) ∧
      Coherent zeroIoctlDev (fun _ _ => 0) ∧
      ¬ WriteContained (fun _ => 0x10000) zeroIoctlDev (regCommand 2 0x0BFE 0x00010000)
        (fun _ _ => 0) := by
  refine ⟨?_, ?_, fun _ _ _ _ => rfl, ?_⟩
  · rw [readContained_iff]
    intro h
    exact absurd (h 0 rfl) (by unfold Fits; decide)
  · rw [writeContained_iff]
    intro h
    exact absurd (h 0 rfl).1 (by unfold Fits; decide)
  · rw [writeContained_iff]
    intro h
    obtain ⟨-, -, hkeeps⟩ := h 2 rfl
    have hbyte := hkeeps (fun _ _ _ _ => rfl) rfl (by decide) 0x0C00 le_rfl (by decide) (by decide)
    exact absurd hbyte (by decide)

end Axm57104.Net
