import Axm57104.Switch.Ptp
import Mathlib.Algebra.Group.Int.Defs
import Mathlib.Data.Int.Notation
import Mathlib.Data.List.Induction

/-!
# The clocks over sequences of calls

What the clocks show after any sequence of calls: a clock has the time it was last set to, plus the
adjustments since (`clockTime`), and the addend of its last frequency adjustment (`clockAddend`).
The step lemmas say it of one call, for the timer of the called clock and for the others.
-/

namespace Axm57104.Switch

open Common

/-- The calls on a clock. -/
inductive PtpCall
  | gettime64
  | settime64 (ts : Timespec64)
  | adjtime (delta : Int64)
  | adjfine (scaledPpm : Int64)
  deriving DecidableEq, Repr

/-- The clocks as `ax_ptp_init` sets them up, with the base addends it has read. -/
def ptpClock (base : Fin PTP_DOMAIN_NUM → UInt32) (i : Fin PTP_DOMAIN_NUM) : PtpClock :=
  ⟨UInt32.ofNat i, base i⟩

section Calls

variable (scaledPpmToPpb : Int64 → Int64)

/-- The registers after a call. -/
def PtpCall.exec (clock : PtpClock) (s : SwitchRegs) : PtpCall → SwitchRegs
  | .gettime64 => ((axPtpGettime64 clock).run switchDev s).final
  | .settime64 ts => ((axPtpSettime64 clock ts).run switchDev s).final
  | .adjtime delta => ((axPtpAdjtime clock delta).run switchDev s).final
  | .adjfine scaledPpm => ((axPtpAdjfine scaledPpmToPpb clock scaledPpm).run switchDev s).final

/-- The registers after a sequence of calls on the clocks. -/
def runCalls (base : Fin PTP_DOMAIN_NUM → UInt32) (s : SwitchRegs)
    (calls : List (Fin PTP_DOMAIN_NUM × PtpCall)) : SwitchRegs :=
  calls.foldl (fun s c => c.2.exec scaledPpmToPpb (ptpClock base c.1) s) s

/-! ## The time and the addend a clock should have -/

/-- What a call does to the time of its clock. -/
def PtpCall.time (t : ℤ) : PtpCall → ℤ
  | .settime64 ts => ts.tvSec.toInt * 10 ^ 9 + ts.tvNsec.toInt
  | .adjtime delta => t + delta.toInt
  | _ => t

/-- What a call does to the addend of its clock. -/
def PtpCall.addend (base a : UInt32) : PtpCall → UInt32
  | .adjfine scaledPpm => newAddendVal base (scaledPpmToPpb scaledPpm)
  | _ => a

/-- The time of clock `i` after some calls: the initial or last set time, and the deltas since. -/
def clockTime (i : Fin PTP_DOMAIN_NUM) (t : ℤ) (calls : List (Fin PTP_DOMAIN_NUM × PtpCall)) : ℤ :=
  calls.foldl (fun t c => if c.1 = i then c.2.time t else t) t

/-- The addend of clock `i` after some calls: the initial one, or that of the last adjustment. -/
def clockAddend (i : Fin PTP_DOMAIN_NUM) (base a : UInt32)
    (calls : List (Fin PTP_DOMAIN_NUM × PtpCall)) : UInt32 :=
  calls.foldl (fun a c => if c.1 = i then c.2.addend scaledPpmToPpb base a else a) a

/-- A call in range: a time to be set fits the registers, and so does an adjusted time. -/
def PtpCall.Valid (t : ℤ) : PtpCall → Prop
  | .settime64 ts =>
      (0 ≤ ts.tvSec.toInt ∧ ts.tvSec.toInt < 2 ^ 32) ∧ 0 ≤ ts.tvNsec.toInt ∧ ts.tvNsec.toInt < 10 ^ 9
  | .adjtime delta => 0 ≤ t + delta.toInt ∧ t + delta.toInt < 2 ^ 32 * 10 ^ 9
  | _ => True

/-- Every call of a sequence is in range at the time its clock then has. -/
def ValidCalls (t : Fin PTP_DOMAIN_NUM → ℤ) (calls : List (Fin PTP_DOMAIN_NUM × PtpCall)) : Prop :=
  ∀ before c after, calls = before ++ c :: after → c.2.Valid (clockTime c.1 (t c.1) before)

/-- The time of a timer, in nanoseconds. -/
def timerTime (s : SwitchRegs) (i : UInt32) : ℤ :=
  (s (.timer i .valHi)).toNat * 10 ^ 9 + (s (.timer i .valLo)).toNat

/-! ## One call -/

theorem toInt_eq_or (x : Int64) :
    x.toInt = x.toUInt64.toNat ∨ x.toInt = (x.toUInt64.toNat : ℤ) - 2 ^ 64 := by
  have h := BitVec.toInt_eq_toNat_cond x.toBitVec
  rw [Int64.toNat_toBitVec] at h
  split at h
  · exact Or.inl h
  · exact Or.inr h

/-- A number in range keeps its value when it is written to a register. -/
theorem toNat_toUInt32_of_range {x : Int64} (h0 : 0 ≤ x.toInt) (h1 : x.toInt < 2 ^ 32) :
    (x.toUInt64.toUInt32.toNat : ℤ) = x.toInt := by
  have hlt := x.toUInt64.toNat_lt
  rw [UInt64.toNat_toUInt32]
  rcases toInt_eq_or x with h | h <;> omega

section Load

variable (s : SwitchRegs) (clock : PtpClock) (second nanosecond : UInt32)

theorem loadTimer_valLo : loadTimer s clock second nanosecond (.timer clock.timer .valLo) =
    nanosecond :=
  Function.update_self _ _ _

theorem timerTime_loadTimer : timerTime (loadTimer s clock second nanosecond) clock.timer =
    second.toNat * 10 ^ 9 + nanosecond.toNat := by
  have hhi : loadTimer s clock second nanosecond (.timer clock.timer .valHi) = second := by
    rw [loadTimer, Function.update_of_ne (by simp), Function.update_self]
  rw [timerTime, hhi, loadTimer_valLo]

theorem loadTimer_addend (i : UInt32) :
    loadTimer s clock second nanosecond (.timer i .addend) = s (.timer i .addend) := by
  rw [loadTimer, Function.update_of_ne (by simp), Function.update_of_ne (by simp),
    selectTimer_timer]

theorem loadTimer_of_ne {i : UInt32} (hi : i ≠ clock.timer) (r : TimerReg) :
    loadTimer s clock second nanosecond (.timer i r) = s (.timer i r) := by
  rw [loadTimer, Function.update_of_ne (by simp [hi]), Function.update_of_ne (by simp [hi]),
    selectTimer_timer]

end Load

/-- The sum of the time and the delta, if it is in range. -/
theorem toNat_adjustedTime {s : SwitchRegs} {clock : PtpClock} {delta : Int64}
    (h0 : 0 ≤ timerTime s clock.timer + delta.toInt)
    (h1 : timerTime s clock.timer + delta.toInt < 2 ^ 32 * 10 ^ 9) :
    ((adjustedTime s clock delta).toNat : ℤ) = timerTime s clock.timer + delta.toInt := by
  have hdelta := delta.toUInt64.toNat_lt
  rw [adjustedTime, UInt64.toNat_add, toNat_currentTime]
  rw [timerTime] at h0 h1 ⊢
  have hs := (s (.timer clock.timer .valHi)).toNat_lt
  have hn := (s (.timer clock.timer .valLo)).toNat_lt
  rcases toInt_eq_or delta with h | h <;> omega

/-- **One call** on a clock, for the timer of the clock. -/
theorem exec_own {s : SwitchRegs} {clock : PtpClock} {c : PtpCall}
    (hvalid : c.Valid (timerTime s clock.timer)) :
    let u := c.exec scaledPpmToPpb clock s
    timerTime u clock.timer = c.time (timerTime s clock.timer) ∧
      u (.timer clock.timer .addend) =
        c.addend scaledPpmToPpb clock.baseAddendVal (s (.timer clock.timer .addend)) ∧
      ((s (.timer clock.timer .valLo)).toNat < 10 ^ 9 →
        (u (.timer clock.timer .valLo)).toNat < 10 ^ 9) := by
  intro u
  cases c with
  | gettime64 =>
      have hu : u = selectTimer s clock := (run_axPtpGettime64 s clock).1
      rw [hu, timerTime, selectTimer_timer, selectTimer_timer, selectTimer_timer]
      exact ⟨rfl, rfl, id⟩
  | settime64 ts =>
      obtain ⟨⟨hs0, hs1⟩, hn0, hn1⟩ := hvalid
      have hu : u = loadTimer s clock _ _ := run_axPtpSettime64 s clock ts
      have hsec := toNat_toUInt32_of_range hs0 hs1
      have hnsec := toNat_toUInt32_of_range hn0 (by omega)
      rw [hu, timerTime_loadTimer, loadTimer_addend, loadTimer_valLo]
      refine ⟨?_, rfl, fun _ => by omega⟩
      rw [hsec, hnsec]
      rfl
  | adjtime delta =>
      obtain ⟨h0, h1⟩ := hvalid
      have hu : u = loadTimer s clock _ _ := run_axPtpAdjtime s clock delta
      have hsum := toNat_adjustedTime h0 h1
      rw [hu, timerTime_loadTimer, loadTimer_addend, loadTimer_valLo]
      simp only [UInt64.toNat_toUInt32, UInt64.toNat_div, UInt64.toNat_mod, NS_PER_SEC,
        UInt64.reduceToNat, PtpCall.time]
      exact ⟨by omega, rfl, fun _ => by omega⟩
  | adjfine scaledPpm =>
      have hu : u = _ := run_axPtpAdjfine s clock scaledPpmToPpb scaledPpm
      rw [hu, timerTime, Function.update_of_ne (by simp), Function.update_of_ne (by simp),
        Function.update_self, selectTimer_timer, selectTimer_timer]
      exact ⟨rfl, rfl, id⟩

/-- **One call** on a clock, for the other timers. -/
theorem exec_other {s : SwitchRegs} {clock : PtpClock} (c : PtpCall) {i : UInt32}
    (hi : i ≠ clock.timer) (r : TimerReg) :
    c.exec scaledPpmToPpb clock s (.timer i r) = s (.timer i r) := by
  cases c with
  | gettime64 => rw [PtpCall.exec, (run_axPtpGettime64 s clock).1, selectTimer_timer]
  | settime64 ts => rw [PtpCall.exec, run_axPtpSettime64, loadTimer_of_ne s clock _ _ hi]
  | adjtime delta => rw [PtpCall.exec, run_axPtpAdjtime, loadTimer_of_ne s clock _ _ hi]
  | adjfine scaledPpm =>
      rw [PtpCall.exec, run_axPtpAdjfine, Function.update_of_ne (by simp [hi]), selectTimer_timer]

/-! ## Sequences of calls -/

section Runs

variable {base : Fin PTP_DOMAIN_NUM → UInt32} {s : SwitchRegs}
variable {calls : List (Fin PTP_DOMAIN_NUM × PtpCall)}

theorem ptpClock_timer_inj {i j : Fin PTP_DOMAIN_NUM}
    (h : (ptpClock base i).timer = (ptpClock base j).timer) : i = j := by
  have hinj : ∀ i j : Fin PTP_DOMAIN_NUM, UInt32.ofNat i + 1 = UInt32.ofNat j + 1 → i = j := by decide
  exact hinj i j h

theorem ptpClock_timer_ne_zero (i : Fin PTP_DOMAIN_NUM) : (ptpClock base i).timer ≠ 0 := by
  have hne : ∀ i : Fin PTP_DOMAIN_NUM, UInt32.ofNat i + 1 ≠ 0 := by decide
  exact hne i

theorem ValidCalls.init {t : Fin PTP_DOMAIN_NUM → ℤ} {c : Fin PTP_DOMAIN_NUM × PtpCall}
    (h : ValidCalls t (calls ++ [c])) : ValidCalls t calls := by
  intro before d after hcalls
  apply h before d (after ++ [c])
  rw [hcalls, List.append_assoc, List.cons_append]

/-- The timers that no call is about keep their registers. -/
theorem runCalls_other {k : UInt32} (hk : ∀ c ∈ calls, (ptpClock base c.1).timer ≠ k)
    (r : TimerReg) : runCalls scaledPpmToPpb base s calls (.timer k r) = s (.timer k r) := by
  induction calls generalizing s with
  | nil => rfl
  | cons c calls ih =>
      rw [runCalls, List.foldl_cons, ← runCalls, ih fun d hd => hk d (List.mem_cons_of_mem _ hd)]
      exact exec_other scaledPpmToPpb c.2 (hk c List.mem_cons_self).symm r

/-- The timer of a clock follows the clock's own calls. -/
theorem runCalls_own (i : Fin PTP_DOMAIN_NUM)
    (hvalid : ValidCalls (fun i => timerTime s (ptpClock base i).timer) calls) :
    let k := (ptpClock base i).timer
    let u := runCalls scaledPpmToPpb base s calls
    timerTime u k = clockTime i (timerTime s k) calls ∧
      u (.timer k .addend) = clockAddend scaledPpmToPpb i (base i) (s (.timer k .addend)) calls ∧
      ((s (.timer k .valLo)).toNat < 10 ^ 9 → (u (.timer k .valLo)).toNat < 10 ^ 9) := by
  intro k u
  -- the last call sees what the calls before it have left
  induction calls using List.reverseRecOn with
  | nil => exact ⟨rfl, rfl, id⟩
  | append_singleton calls c ih =>
      obtain ⟨htime, haddend, hnsec⟩ := ih hvalid.init
      have hlast := hvalid calls c [] rfl
      simp only [u, runCalls, clockTime, clockAddend, List.foldl_append, List.foldl_cons,
        List.foldl_nil]
      simp only [runCalls, clockTime, clockAddend] at htime haddend hnsec hlast
      set t := List.foldl (fun s c => c.2.exec scaledPpmToPpb (ptpClock base c.1) s) s calls
      by_cases hc : c.1 = i
      · subst hc
        rw [← htime] at hlast
        obtain ⟨hown, hownAddend, hownNsec⟩ := exec_own scaledPpmToPpb hlast
        simp only [if_true]
        rw [← htime, ← haddend]
        exact ⟨hown, hownAddend, fun h => hownNsec (hnsec h)⟩
      · have hne : k ≠ (ptpClock base c.1).timer := fun h => hc (ptpClock_timer_inj h).symm
        have hkeep := exec_other scaledPpmToPpb (s := t) c.2 hne
        rw [if_neg hc, if_neg hc, timerTime, hkeep, hkeep, hkeep]
        exact ⟨htime, haddend, hnsec⟩

theorem toInt_toUInt64_toInt64 (v : UInt32) : v.toUInt64.toInt64.toInt = v.toNat := by
  have hlt := v.toNat_lt
  have hnat : v.toUInt64.toBitVec.toNat = v.toNat := UInt32.toNat_toUInt64 v
  change v.toUInt64.toBitVec.toInt = _
  rw [BitVec.toInt_eq_toNat_of_lt (by omega), hnat]

/-- **The clocks over any sequence of calls.** The timer of a clock has the time that its calls have
given it, `ax_ptp_gettime64` returns it, and its addend is that of its last frequency adjustment;
the free-running timer and the timers of clocks that are not called keep their registers. -/
theorem runCalls_spec (scaledPpmToPpb : Int64 → Int64) (base : Fin PTP_DOMAIN_NUM → UInt32)
    (s : SwitchRegs) (calls : List (Fin PTP_DOMAIN_NUM × PtpCall))
    (hvalid : ValidCalls (fun i => timerTime s (ptpClock base i).timer) calls) :
    let u := runCalls scaledPpmToPpb base s calls
    (∀ i, let k := (ptpClock base i).timer
      timerTime u k = clockTime i (timerTime s k) calls ∧
        ((s (.timer k .valLo)).toNat < 10 ^ 9 → (u (.timer k .valLo)).toNat < 10 ^ 9) ∧
        u (.timer k .addend) = clockAddend scaledPpmToPpb i (base i) (s (.timer k .addend)) calls ∧
        ∃ ts, ((axPtpGettime64 (ptpClock base i)).run switchDev u).result = .ok ts ∧
          ts.tvSec.toInt = (u (.timer k .valHi)).toNat ∧
          ts.tvNsec.toInt = (u (.timer k .valLo)).toNat ∧
          ts.tvSec.toInt * 10 ^ 9 + ts.tvNsec.toInt = clockTime i (timerTime s k) calls) ∧
      (∀ r, u (.timer 0 r) = s (.timer 0 r)) ∧
      ∀ k, (∀ c ∈ calls, (ptpClock base c.1).timer ≠ k) → ∀ r, u (.timer k r) = s (.timer k r) := by
  intro u
  refine ⟨fun i => ?_, ?_, fun k hk => runCalls_other scaledPpmToPpb hk⟩
  · obtain ⟨htime, haddend, hnsec⟩ := runCalls_own scaledPpmToPpb i hvalid
    refine ⟨htime, hnsec, haddend, _, (run_axPtpGettime64 u (ptpClock base i)).2,
      toInt_toUInt64_toInt64 _, toInt_toUInt64_toInt64 _, ?_⟩
    rw [toInt_toUInt64_toInt64, toInt_toUInt64_toInt64]
    exact htime
  · exact runCalls_other scaledPpmToPpb fun c _ => ptpClock_timer_ne_zero c.1

/-- Clock 0 is set to 5 s and put back by 1.5 s. -/
def setAndAdjust : List (Fin PTP_DOMAIN_NUM × PtpCall) :=
  [(0, .settime64 ⟨5, 0⟩), (0, .adjtime (-1500000000))]

theorem validCalls_setAndAdjust :
    ValidCalls (fun i => timerTime (fun _ => 0) (ptpClock (fun _ => 1000) i).timer) setAndAdjust := by
  intro before c after hcalls
  rcases before with _ | ⟨b, _ | ⟨b', before⟩⟩
  · cases hcalls
    exact ⟨by decide, by decide⟩
  · cases hcalls
    exact ⟨by decide, by decide⟩
  · have hlength := congrArg List.length hcalls
    simp [setAndAdjust] at hlength

theorem runCalls_spec_borrow :
    timerTime (runCalls ppmToPpb (fun _ => 1000) (fun _ => 0) setAndAdjust) 1 = 3500000000 := by
  have h := runCalls_spec ppmToPpb (fun _ => 1000) (fun _ => 0) setAndAdjust validCalls_setAndAdjust
  have htime := (h.1 0).1
  have hexpected : clockTime 0 (timerTime (fun _ => 0) (ptpClock (fun _ => 1000) 0).timer)
      setAndAdjust = 3500000000 := by decide
  rw [hexpected] at htime
  exact htime

end Runs

end Calls

end Axm57104.Switch
