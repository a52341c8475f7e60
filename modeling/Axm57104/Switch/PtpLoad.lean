import Axm57104.Common.Machine
import Axm57104.Switch.Ptp

/-!
# Loading and unloading the driver

`ax_ptp_init` takes the base addend of each clock from the register that `ax_ptp_adjfine` writes,
and the register keeps its contents when the driver is unloaded. The base addends are the original
ones in every run in which each clock is back at its base addend when the driver is unloaded.
-/

namespace Axm57104.Switch

open Common

/-- The loop of `ax_ptp_init` from clock `i` on, with `n` rounds to go. -/
def axPtpInitFrom : ℕ → ℕ → SwitchM (List PtpClock)
  | _, 0 => pure []
  | i, n + 1 => do
      writeReg .asTSelector (UInt32.ofNat i + 1)
      let baseAddendVal ← readReg (.timer .addend)
      let clocks ← axPtpInitFrom (i + 1) n
      pure (⟨UInt32.ofNat i, baseAddendVal⟩ :: clocks)

/-- `ax_ptp_init`: the clocks it sets up. -/
def axPtpInit : SwitchM (List PtpClock) := axPtpInitFrom 0 PTP_DOMAIN_NUM

/-- The clock `ax_ptp_init` sets up for domain `i`. -/
def clockAt (s : SwitchRegs) (i : ℕ) : PtpClock :=
  ⟨UInt32.ofNat i, s (.timer (UInt32.ofNat i + 1) .addend)⟩

theorem run_axPtpInitFrom (s : SwitchRegs) (i n : ℕ) :
    ((axPtpInitFrom i n).run switchDev s).result = .ok ((List.range' i n).map (clockAt s)) ∧
      ∀ k r, ((axPtpInitFrom i n).run switchDev s).final (.timer k r) = s (.timer k r) := by
  induction n generalizing s i with
  | zero => exact ⟨rfl, fun _ _ => rfl⟩
  | succ n ih =>
      set u := Function.update s .asTSelector (UInt32.ofNat i + 1) with hu
      have hsel : u .asTSelector = UInt32.ofNat i + 1 := Function.update_self _ _ _
      have htimer : ∀ k r, u (.timer k r) = s (.timer k r) :=
        fun k r => Function.update_of_ne (by simp) _ _
      have hclock : clockAt u = clockAt s := by
        funext j
        rw [clockAt, htimer, ← clockAt]
      obtain ⟨hres, hfinal⟩ := ih u (i + 1)
      rw [hclock] at hres
      rw [axPtpInitFrom, run_selectTimer, ← hu, run_readTimer hsel, htimer]
      rw [Outcome.result_cons, Outcome.result_cons, Prog.run_bind_ok hres]
      refine ⟨?_, fun k r => ?_⟩
      · rw [List.range'_succ, List.map_cons]
        rfl
      · exact (hfinal k r).trans (htimer k r)

/-! ## Runs -/

/-- The device, and the driver while it is loaded. -/
structure PtpLoad where
  dev : SwitchRegs
  clocks : Option (List PtpClock)
  /-- The addends of the timers when the driver was first loaded. -/
  first : Option (UInt32 → UInt32)
  /-- The last frequency adjustment of each clock since the driver was loaded. -/
  adjusted : ℕ → Option Int64

inductive PtpLoadEvent
  | init
  | remove
  | adjfine (i : ℕ) (scaledPpm : Int64)

section Machine

variable (scaledPpmToPpb : Int64 → Int64)

def ptpLoadExec (t : PtpLoad) : PtpLoadEvent → Except SwitchFault PtpLoad
  | .init =>
      match (axPtpInit.run switchDev t.dev).result with
      | .ok clocks => .ok {
          dev := (axPtpInit.run switchDev t.dev).final
          clocks := some clocks
          first := some (t.first.getD fun k => t.dev (.timer k .addend))
          adjusted := fun _ => none }
      | .error e => .error e
  -- `ax_ptp_remove` unregisters the clocks and leaves the registers alone
  | .remove => .ok { t with clocks := none }
  | .adjfine i scaledPpm =>
      match t.clocks.bind fun clocks => clocks[i]? with
      | none => .ok t
      | some clock => .ok { t with
          dev := ((axPtpAdjfine scaledPpmToPpb clock scaledPpm).run switchDev t.dev).final
          adjusted := Function.update t.adjusted i (some scaledPpm) }

/-- The driver is loaded on probe and unloaded on remove; the clocks are there in between. -/
def ptpLoadMachine : Machine PtpLoad PtpLoadEvent SwitchFault where
  enabled t
    | .init => t.clocks = none
    | .remove => t.clocks.isSome
    | .adjfine i _ => (t.clocks.bind fun clocks => clocks[i]?).isSome
  exec := ptpLoadExec scaledPpmToPpb

/-- When the driver is unloaded, the last adjustment of each clock was one that leaves the base
addend. -/
def BackAtBase (t : PtpLoad) : PtpLoadEvent → Prop
  | .remove => ∀ clocks, t.clocks = some clocks → ∀ i clock, clocks[i]? = some clock →
      ∀ scaledPpm, t.adjusted i = some scaledPpm →
        newAddendVal clock.baseAddendVal (scaledPpmToPpb scaledPpm) = clock.baseAddendVal
  | _ => True

/-! ## The base addends -/

/-- The addend of a clock after its last adjustment. -/
def addendAfter (base : UInt32) : Option Int64 → UInt32
  | none => base
  | some scaledPpm => newAddendVal base (scaledPpmToPpb scaledPpm)

/-- The selector index of the timer of domain `i`. -/
def domainTimer (i : ℕ) : UInt32 := UInt32.ofNat i + 1

theorem domainTimer_inj {i j : ℕ} (hi : i < PTP_DOMAIN_NUM) (hj : j < PTP_DOMAIN_NUM)
    (h : domainTimer i = domainTimer j) : i = j := by
  have hinj : ∀ i < PTP_DOMAIN_NUM, ∀ j < PTP_DOMAIN_NUM, domainTimer i = domainTimer j → i = j := by
    decide
  exact hinj i hi j hj h

/-- The clocks with the base addends `a`. -/
def clocksWith (a : UInt32 → UInt32) : List PtpClock :=
  (List.range' 0 PTP_DOMAIN_NUM).map fun i => ⟨UInt32.ofNat i, a (domainTimer i)⟩

theorem getElem?_clocksWith {a : UInt32 → UInt32} {i : ℕ} {clock : PtpClock} :
    (clocksWith a)[i]? = some clock ↔
      i < PTP_DOMAIN_NUM ∧ clock = ⟨UInt32.ofNat i, a (domainTimer i)⟩ := by
  by_cases hi : i < PTP_DOMAIN_NUM
  · simp [clocksWith, hi, eq_comm]
  · simp [clocksWith, hi]

/-- While the driver is loaded its clocks have the original addends for base, and the registers
follow the adjustments; while it is not, the registers have the original addends. -/
structure PtpLoad.Ok (t : PtpLoad) : Prop where
  loaded : ∀ clocks, t.clocks = some clocks → ∃ a, t.first = some a ∧
    clocks = clocksWith a ∧
    ∀ i < PTP_DOMAIN_NUM, t.dev (.timer (domainTimer i) .addend) =
      addendAfter scaledPpmToPpb (a (domainTimer i)) (t.adjusted i)
  unloaded : t.clocks = none → ∀ a, t.first = some a → ∀ i < PTP_DOMAIN_NUM,
    t.dev (.timer (domainTimer i) .addend) = a (domainTimer i)

variable {scaledPpmToPpb} {t u : PtpLoad}

theorem PtpLoad.Ok.init (ht : t.Ok scaledPpmToPpb) (hclocks : t.clocks = none)
    (hex : ptpLoadExec scaledPpmToPpb t .init = .ok u) : u.Ok scaledPpmToPpb := by
  obtain ⟨hres, hfinal⟩ := run_axPtpInitFrom t.dev 0 PTP_DOMAIN_NUM
  rw [ptpLoadExec, axPtpInit, hres] at hex
  -- what is read now is what was read first
  have haddend : ∀ i < PTP_DOMAIN_NUM, t.dev (.timer (domainTimer i) .addend) =
      (t.first.getD fun k => t.dev (.timer k .addend)) (domainTimer i) := by
    intro i hi
    cases hfirst : t.first with
    | none => rfl
    | some a => exact ht.unloaded hclocks a hfirst i hi
  cases hex
  refine ⟨fun clocks hc => ⟨_, rfl, ?_, fun i hi => ?_⟩, fun hc => by cases hc⟩
  · cases hc
    apply List.map_congr_left
    intro i hi
    rw [clockAt, ← haddend i (by simpa using hi)]
    rfl
  · exact (hfinal _ _).trans (haddend i hi)

theorem PtpLoad.Ok.remove (ht : t.Ok scaledPpmToPpb) (hc : BackAtBase scaledPpmToPpb t .remove)
    (hloaded : t.clocks.isSome) : ({ t with clocks := none } : PtpLoad).Ok scaledPpmToPpb := by
  obtain ⟨clocks, hclocks⟩ := Option.isSome_iff_exists.mp hloaded
  obtain ⟨a, hfirst, hlist, hdev⟩ := ht.loaded clocks hclocks
  constructor
  · intro clocks hsome
    cases hsome
  intro _ a' ha' i hi
  obtain rfl : a = a' := Option.some.inj (hfirst.symm.trans ha')
  change t.dev _ = _
  rw [hdev i hi]
  cases hadj : t.adjusted i with
  | none => rfl
  | some scaledPpm =>
      have hclock : clocks[i]? = some ⟨UInt32.ofNat i, a (domainTimer i)⟩ := by
        rw [hlist]
        exact getElem?_clocksWith.mpr ⟨hi, rfl⟩
      exact hc clocks hclocks i _ hclock scaledPpm hadj

theorem PtpLoad.Ok.adjfine (ht : t.Ok scaledPpmToPpb) {i : ℕ} {scaledPpm : Int64}
    (hen : (ptpLoadMachine scaledPpmToPpb).enabled t (.adjfine i scaledPpm))
    (hex : ptpLoadExec scaledPpmToPpb t (.adjfine i scaledPpm) = .ok u) : u.Ok scaledPpmToPpb := by
  obtain ⟨clock, hclock⟩ := Option.isSome_iff_exists.mp hen
  obtain ⟨clocks, hclocks, hget⟩ := Option.bind_eq_some_iff.mp hclock
  obtain ⟨a, hfirst, hlist, hdev⟩ := ht.loaded clocks hclocks
  rw [hlist] at hget
  obtain ⟨hi, rfl⟩ := getElem?_clocksWith.mp hget
  simp only [ptpLoadExec, hclock] at hex
  cases hex
  refine ⟨fun clocks' hc => ⟨a, hfirst, ?_, fun j hj => ?_⟩, fun hnone => ?_⟩
  · rw [← hlist]
    exact (Option.some.inj (hclocks.symm.trans hc)).symm
  · dsimp only
    rw [run_axPtpAdjfine]
    by_cases hij : j = i
    · subst hij
      rw [Function.update_self]
      exact Function.update_self _ _ _
    · have hne : domainTimer j ≠ domainTimer i := fun h => hij (domainTimer_inj hj hi h)
      have hcell : Cell.timer (domainTimer j) .addend ≠ Cell.timer (domainTimer i) .addend := by
        simpa using hne
      rw [Function.update_of_ne hij, ← hdev j hj]
      exact (Function.update_of_ne hcell _ _).trans (selectTimer_timer _ _ _ _)
  · rw [hclocks] at hnone
    cases hnone

/-- Every step of a run under the condition keeps the original addends. -/
theorem PtpLoad.Ok.step (ht : t.Ok scaledPpmToPpb) {e : PtpLoadEvent}
    (hen : ((ptpLoadMachine scaledPpmToPpb).restrict (BackAtBase scaledPpmToPpb)).enabled t e)
    (hex : ptpLoadExec scaledPpmToPpb t e = .ok u) : u.Ok scaledPpmToPpb := by
  obtain ⟨henabled, hc⟩ := hen
  cases e with
  | init => exact ht.init henabled hex
  | remove =>
      cases hex
      exact ht.remove hc henabled
  | adjfine i scaledPpm => exact ht.adjfine henabled hex

/-- The clocks have the addends of the first load for base, and an adjustment by zero restores
them. -/
def BaseKept (scaledPpmToPpb : Int64 → Int64) (t : PtpLoad) : Prop :=
  ∀ clocks, t.clocks = some clocks → ∀ clock ∈ clocks, ∃ a, t.first = some a ∧
    clock.baseAddendVal = a clock.timer ∧
    ∀ scaledPpm, scaledPpmToPpb scaledPpm = 0 →
      ((axPtpAdjfine scaledPpmToPpb clock scaledPpm).run switchDev t.dev).final
        (.timer clock.timer .addend) = a clock.timer

/-- **The original addends are kept** in every run in which each clock is back at its base addend
whenever the driver is unloaded. -/
theorem ptpLoadMachine_baseKept (scaledPpmToPpb : Int64 → Int64) (dev : SwitchRegs)
    (es : List PtpLoadEvent) (t : PtpLoad)
    (hrun : ((ptpLoadMachine scaledPpmToPpb).restrict (BackAtBase scaledPpmToPpb)).Run
      ⟨dev, none, none, fun _ => none⟩ es t) :
    BaseKept scaledPpmToPpb t := by
  have hinit : PtpLoad.Ok scaledPpmToPpb ⟨dev, none, none, fun _ => none⟩ := by
    constructor
    · intro _ h
      cases h
    · intro _ _ h
      cases h
  have ht : t.Ok scaledPpmToPpb := hrun.invariant hinit fun h hen hex => h.step hen hex
  intro clocks hclocks clock hmem
  obtain ⟨a, hfirst, hlist, -⟩ := ht.loaded clocks hclocks
  rw [hlist, clocksWith, List.mem_map] at hmem
  obtain ⟨i, -, rfl⟩ := hmem
  refine ⟨a, hfirst, rfl, fun scaledPpm hzero => ?_⟩
  rw [run_axPtpAdjfine, hzero, newAddendVal_zero]
  exact Function.update_self _ _ _

/-- A device with the addend 1000000000 in every timer, without the driver. -/
def nominalLoad : PtpLoad where
  dev
    | .timer _ .addend => 1000000000
    | _ => 0
  clocks := none
  first := none
  adjusted _ := none

instance (t : PtpLoad) (e : PtpLoadEvent) : Decidable ((ptpLoadMachine scaledPpmToPpb).enabled t e) :=
  match e with
  | .init => inferInstanceAs (Decidable (t.clocks = none))
  | .remove => inferInstanceAs (Decidable (t.clocks.isSome = true))
  | .adjfine i _ =>
      inferInstanceAs (Decidable ((t.clocks.bind fun clocks => clocks[i]?).isSome = true))

/-- The driver is loaded, clock 0 is adjusted by 1 ppm, and the driver is loaded again. -/
def adjustedReload : List PtpLoadEvent := [.init, .adjfine 0 65536, .remove, .init]

def reloaded : PtpLoad := ((ptpLoadMachine ppmToPpb).replay nominalLoad adjustedReload).getD nominalLoad

/-- After the second load, the base addend of clock 0 is the adjusted one. -/
theorem ptpLoadMachine_forgets_base :
    (ptpLoadMachine ppmToPpb).Run nominalLoad adjustedReload reloaded ∧
      ¬ BaseKept ppmToPpb reloaded := by
  refine ⟨.of_isSome (by decide) nominalLoad, fun hkept => ?_⟩
  have hclock : (reloaded.clocks.bind fun clocks => clocks[0]?) = some ⟨0, 1000001000⟩ := by decide
  have hfirst : reloaded.first.map (fun a => a 1) = some 1000000000 := by decide
  obtain ⟨clocks, hclocks, hget⟩ := Option.bind_eq_some_iff.mp hclock
  obtain ⟨a, ha, hbase, -⟩ := hkept clocks hclocks _ (List.mem_of_getElem? hget)
  rw [ha, Option.map_some] at hfirst
  have horig : a 1 = 1000000000 := Option.some.inj hfirst
  have hnow : (1000001000 : UInt32) = a 1 := hbase
  rw [horig] at hnow
  exact absurd hnow (by decide)

/-- Clock 0 is adjusted by 1 ppm and set back. -/
def setBack : PtpLoad :=
  ((ptpLoadMachine ppmToPpb).replay nominalLoad [.init, .adjfine 0 65536, .adjfine 0 0]).getD nominalLoad

theorem backAtBase_setBack : BackAtBase ppmToPpb setBack .remove := by
  have hclocks : setBack.clocks = some [⟨0, 1000000000⟩, ⟨1, 1000000000⟩] := by decide
  have hadjusted : setBack.adjusted 0 = some 0 ∧ setBack.adjusted 1 = none := by decide
  intro clocks hc i clock hget scaledPpm hadj
  cases hclocks.symm.trans hc
  match i with
  | 0 =>
      cases hget
      cases hadjusted.1.symm.trans hadj
      decide
  | 1 => cases hadjusted.2.symm.trans hadj
  | i + 2 => cases hget

theorem ptpLoadMachine_baseKept_reload :
    ∃ t, ((ptpLoadMachine ppmToPpb).restrict (BackAtBase ppmToPpb)).Run nominalLoad
        ([.init, .adjfine 0 65536, .adjfine 0 0] ++ [.remove] ++ [.init]) t ∧
      BaseKept ppmToPpb t := by
  have hrun : (ptpLoadMachine ppmToPpb).Run nominalLoad [.init, .adjfine 0 65536, .adjfine 0 0]
      setBack := .of_isSome (by decide) _
  have hrun₁ := hrun.restrict (c := BackAtBase ppmToPpb) (by
    intro e he _
    rcases e with _ | _ | _
    · trivial
    · simp at he
    · trivial)
  have hrun₂ := hrun₁.snoc ⟨by decide, backAtBase_setBack⟩ rfl
  have hinit : ((ptpLoadMachine ppmToPpb).restrict (BackAtBase ppmToPpb)).enabled
      { setBack with clocks := none } .init := ⟨rfl, trivial⟩
  have hrun₃ := hrun₂.snoc hinit rfl
  exact ⟨_, hrun₃, ptpLoadMachine_baseKept _ _ _ _ hrun₃⟩

end Machine

end Axm57104.Switch
