import Axm57104.Common.Prog
import Mathlib.Logic.Function.Basic

/-!
# The switch registers

The timers and the Qbv ports of the switch are banked: `AS_T_SELECTOR` chooses the timer behind the
`AS_T_*` registers and `QBV_PORT_SELECTOR` the port behind the `QBV_*` registers. A `Cell` is a
register of the device itself, an entry of a bank included; a `Reg` is what the driver addresses.

Every access answers with the cell it hit and what the cell held. The driver sees the value of a
read only: `readReg` and `writeReg` are the accesses it makes. `Conflict` is about two accesses with
their answers, and two that do not conflict can be exchanged (`swappable_of_not_conflict`).
-/

namespace Axm57104.Switch

open Common

/-- The registers of one timer. What is written to `AS_T_VAL_I_*` is read from `AS_T_VAL_O_*`. -/
inductive TimerReg
  | addend
  | valHi
  | valLo
  deriving DecidableEq, Repr

/-- The registers of one Qbv port. -/
inductive QbvReg
  | gateEnabled
  | adminCycleTime
  | adminBaseTimeNsHi
  | adminBaseTimeNsLo
  | operCycleTime
  | operBaseTimeNsHi
  | operBaseTimeNsLo
  | configChangeCtrl
  | configChangeState
  | configChangeTimeNsHi
  | configChangeTimeNsLo
  | cycleStartTimeCtrl
  | cycleStartTimeNsHi
  | cycleStartTimeNsLo
  | timerDomainIndex
  deriving DecidableEq, Repr

/-- The registers in which the device flags requests, one bit for each port or timer. -/
inductive ReqReg
  | asTIntMask
  | qbvConfigChangeReq
  | qbvTimerChangeRequest
  deriving DecidableEq, Repr

/-- What the driver addresses. -/
inductive Reg
  | asTSelector
  | qbvPortSelector
  | req (r : ReqReg)
  | timer (r : TimerReg)
  | qbv (r : QbvReg)
  deriving DecidableEq, Repr

/-- What the device holds. -/
inductive Cell
  | asTSelector
  | qbvPortSelector
  | req (r : ReqReg)
  | timer (i : UInt32) (r : TimerReg)
  | port (i : UInt32) (r : QbvReg)
  deriving DecidableEq, Repr

abbrev SwitchRegs : Type := Cell → UInt32

/-- The cell behind a register. -/
def Reg.cell (s : SwitchRegs) : Reg → Cell
  | .asTSelector => .asTSelector
  | .qbvPortSelector => .qbvPortSelector
  | .req r => .req r
  | .timer r => .timer (s .asTSelector) r
  | .qbv r => .port (s .qbvPortSelector) r

/-- The selector that decides which cell a register is. -/
def Reg.selector : Reg → Option Cell
  | .timer _ => some .asTSelector
  | .qbv _ => some .qbvPortSelector
  | _ => none

inductive Access
  | read (r : Reg)
  | write (r : Reg) (v : UInt32)
  deriving DecidableEq, Repr

def Access.reg : Access → Reg
  | .read r => r
  | .write r _ => r

/-- The cell an access hit, and what it held before. -/
structure Resp where
  cell : Cell
  old : UInt32
  deriving DecidableEq, Repr

/-- One access is one atomic step of the device. -/
def switchDev : Device SwitchRegs Access Resp
  | .read r, s => (⟨r.cell s, s (r.cell s)⟩, s)
  | .write r v, s => (⟨r.cell s, s (r.cell s)⟩, Function.update s (r.cell s) v)

/-- `div_u64` by zero. -/
inductive SwitchFault
  | divideError
  deriving DecidableEq, Repr

/-- The driver's code over the registers. -/
abbrev SwitchM : Type → Type := Prog Access Resp SwitchFault

def readReg (r : Reg) : SwitchM UInt32 := .op (.read r) fun resp => .ret resp.old

def writeReg (r : Reg) (v : UInt32) : SwitchM Unit := .op (.write r v) fun _ => .ret ()

/-! ## The accesses of a program -/

section All

variable {α : Type} {P : Access → Prop}

theorem all_readReg {r : Reg} {k : UInt32 → SwitchM α} (hr : P (.read r)) (hk : ∀ v, (k v).All P) :
    (readReg r >>= k).All P :=
  ⟨hr, fun _ => hk _⟩

theorem all_writeReg {r : Reg} {v : UInt32} (hr : P (.write r v)) : (writeReg r v).All P :=
  ⟨hr, fun _ => trivial⟩

end All

section Along

variable {α : Type} {P : SwitchRegs → Access → Prop} {s : SwitchRegs}

theorem along_readReg {r : Reg} {k : UInt32 → SwitchM α} (hr : P s (.read r))
    (hk : (k (s (r.cell s))).Along switchDev P s) : (readReg r >>= k).Along switchDev P s :=
  ⟨hr, hk⟩

theorem along_writeReg {r : Reg} {v : UInt32} {k : Unit → SwitchM α} (hw : P s (.write r v))
    (hk : (k ()).Along switchDev P (switchDev (.write r v) s).2) :
    (writeReg r v >>= k).Along switchDev P s :=
  ⟨hw, hk⟩

end Along

/-! ## Running the accesses -/

section Run

variable {α : Type} {s : SwitchRegs} {p : UInt32}

theorem run_readQbv (hp : s .qbvPortSelector = p) (q : QbvReg) (k : UInt32 → SwitchM α) :
    (readReg (.qbv q) >>= k).run switchDev s =
      ((k (s (.port p q))).run switchDev s).cons (.read (.qbv q), ⟨.port p q, s (.port p q)⟩) := by
  subst hp
  rfl

theorem run_writeQbv (hp : s .qbvPortSelector = p) (q : QbvReg) (v : UInt32)
    (k : Unit → SwitchM α) :
    (writeReg (.qbv q) v >>= k).run switchDev s =
      ((k ()).run switchDev (Function.update s (.port p q) v)).cons
        (.write (.qbv q) v, ⟨.port p q, s (.port p q)⟩) := by
  subst hp
  rfl

theorem run_writeQbv_ret (hp : s .qbvPortSelector = p) (q : QbvReg) (v : UInt32) :
    (writeReg (.qbv q) v).run switchDev s =
      ⟨.ok (), Function.update s (.port p q) v,
        [(.write (.qbv q) v, ⟨.port p q, s (.port p q)⟩)]⟩ := by
  subst hp
  rfl

theorem run_selectPort (v : UInt32) (k : Unit → SwitchM α) :
    (writeReg .qbvPortSelector v >>= k).run switchDev s =
      ((k ()).run switchDev (Function.update s .qbvPortSelector v)).cons
        (.write .qbvPortSelector v, ⟨.qbvPortSelector, s .qbvPortSelector⟩) := rfl

theorem run_selectTimer (v : UInt32) (k : Unit → SwitchM α) :
    (writeReg .asTSelector v >>= k).run switchDev s =
      ((k ()).run switchDev (Function.update s .asTSelector v)).cons
        (.write .asTSelector v, ⟨.asTSelector, s .asTSelector⟩) := rfl

theorem run_readTimer {i : UInt32} (hi : s .asTSelector = i) (q : TimerReg)
    (k : UInt32 → SwitchM α) :
    (readReg (.timer q) >>= k).run switchDev s =
      ((k (s (.timer i q))).run switchDev s).cons (.read (.timer q), ⟨.timer i q, s (.timer i q)⟩) := by
  subst hi
  rfl

theorem run_writeTimer {i : UInt32} (hi : s .asTSelector = i) (q : TimerReg) (v : UInt32)
    (k : Unit → SwitchM α) :
    (writeReg (.timer q) v >>= k).run switchDev s =
      ((k ()).run switchDev (Function.update s (.timer i q) v)).cons
        (.write (.timer q) v, ⟨.timer i q, s (.timer i q)⟩) := by
  subst hi
  rfl

theorem run_writeTimer_ret {i : UInt32} (hi : s .asTSelector = i) (q : TimerReg) (v : UInt32) :
    (writeReg (.timer q) v).run switchDev s =
      ⟨.ok (), Function.update s (.timer i q) v,
        [(.write (.timer q) v, ⟨.timer i q, s (.timer i q)⟩)]⟩ := by
  subst hi
  rfl

theorem run_readReq (q : ReqReg) (k : UInt32 → SwitchM α) :
    (readReg (.req q) >>= k).run switchDev s =
      ((k (s (.req q))).run switchDev s).cons (.read (.req q), ⟨.req q, s (.req q)⟩) := rfl

end Run

/-! ## Conflicts -/

/-- An access depends on a cell: the one it hit, or the selector in front of it. -/
def Touches (x : Access × Resp) (c : Cell) : Prop := c = x.2.cell ∨ some c = x.1.reg.selector

/-- An access changed a cell: it wrote another value than the cell held. -/
def Changes (x : Access × Resp) (c : Cell) : Prop :=
  ∃ r v, x.1 = .write r v ∧ v ≠ x.2.old ∧ c = x.2.cell

/-- Two accesses conflict when one of them changed a cell that both depend on. -/
def Conflict (x y : Access × Resp) : Prop :=
  ∃ c, Touches x c ∧ Touches y c ∧ (Changes x c ∨ Changes y c)

theorem Changes.touches {x : Access × Resp} {c : Cell} (h : Changes x c) : Touches x c := by
  obtain ⟨_, _, _, _, hc⟩ := h
  exact Or.inl hc

theorem changes_write {r : Reg} {v : UInt32} {resp : Resp} {c : Cell} :
    Changes (.write r v, resp) c ↔ v ≠ resp.old ∧ c = resp.cell := by
  constructor
  · rintro ⟨_, _, h, hrest⟩
    cases h
    exact hrest
  · exact fun h => ⟨r, v, rfl, h⟩

theorem not_changes_read {r : Reg} {resp : Resp} {c : Cell} : ¬ Changes (.read r, resp) c := by
  rintro ⟨_, _, h, _⟩
  cases h

instance (x : Access × Resp) (c : Cell) : Decidable (Touches x c) :=
  inferInstanceAs (Decidable (_ ∨ _))

instance : (x : Access × Resp) → (c : Cell) → Decidable (Changes x c)
  | (.read _, _), _ => isFalse not_changes_read
  | (.write _ _, _), _ => decidable_of_iff _ changes_write.symm

/-- The cell of a conflict is one of the two that were hit. -/
theorem conflict_iff {x y : Access × Resp} :
    Conflict x y ↔ ∃ c ∈ [x.2.cell, y.2.cell],
      Touches x c ∧ Touches y c ∧ (Changes x c ∨ Changes y c) := by
  constructor
  · rintro ⟨c, hx, hy, hchange⟩
    refine ⟨c, ?_, hx, hy, hchange⟩
    rcases hchange with ⟨_, _, _, _, hc⟩ | ⟨_, _, _, _, hc⟩
    · rw [hc]
      exact List.mem_cons_self
    · rw [hc]
      exact List.mem_cons_of_mem _ List.mem_cons_self
  · rintro ⟨c, -, h⟩
    exact ⟨c, h⟩

instance (x y : Access × Resp) : Decidable (Conflict x y) := decidable_of_iff _ conflict_iff.symm

theorem Reg.cell_congr {s s' : SwitchRegs} {r : Reg}
    (h : ∀ c, some c = r.selector → s c = s' c) : r.cell s = r.cell s' := by
  cases r with
  | timer r => simp only [Reg.cell, h .asTSelector rfl]
  | qbv r => simp only [Reg.cell, h .qbvPortSelector rfl]
  | asTSelector => rfl
  | qbvPortSelector => rfl
  | req r => rfl

/-- The state after an access differs from the one before in what the access changed. -/
theorem switchDev_frame {x : Access × Resp} {s u : SwitchRegs} (h : switchDev x.1 s = (x.2, u))
    {c : Cell} (hc : ¬ Changes x c) : u c = s c := by
  obtain ⟨a, resp⟩ := x
  cases a with
  | read r =>
      obtain ⟨-, rfl⟩ := Prod.mk.inj h
      rfl
  | write r v =>
      obtain ⟨rfl, rfl⟩ := Prod.mk.inj h
      by_cases hcell : c = r.cell s
      · subst hcell
        have hold : v = s (r.cell s) := by
          by_contra hne
          exact hc ⟨r, v, rfl, hne, rfl⟩
        rw [Function.update_self, hold]
      · exact Function.update_of_ne hcell _ _

theorem switchDev_write_self (r : Reg) (v : UInt32) (s : SwitchRegs) :
    (switchDev (.write r v) s).2 (r.cell s) = v :=
  Function.update_self _ _ _

theorem switchDev_write_of_ne {r : Reg} {v : UInt32} {s : SwitchRegs} {c : Cell} (h : c ≠ r.cell s) :
    (switchDev (.write r v) s).2 c = s c :=
  Function.update_of_ne h _ _

/-- An access answers the same in every state that agrees on what it touches, and changes it in the
same way. -/
theorem switchDev_local {x : Access × Resp} {s u : SwitchRegs} (h : switchDev x.1 s = (x.2, u))
    (s' : SwitchRegs) (hagree : ∀ c, Touches x c → s' c = s c) :
    ∃ u', switchDev x.1 s' = (x.2, u') ∧ ∀ c, Changes x c → u' c = u c := by
  obtain ⟨a, resp⟩ := x
  have hcell : a.reg.cell s' = a.reg.cell s :=
    Reg.cell_congr fun c hc => hagree c (Or.inr hc)
  cases a with
  | read r =>
      obtain ⟨rfl, rfl⟩ := Prod.mk.inj h
      have hr : r.cell s' = r.cell s := hcell
      have hold : s' (r.cell s) = s (r.cell s) := hagree _ (Or.inl rfl)
      refine ⟨s', ?_, ?_⟩
      · simp only [switchDev, hr, hold]
      · rintro c ⟨_, _, hw, _⟩
        cases hw
  | write r v =>
      obtain ⟨rfl, rfl⟩ := Prod.mk.inj h
      have hr : r.cell s' = r.cell s := hcell
      have hold : s' (r.cell s) = s (r.cell s) := hagree _ (Or.inl rfl)
      refine ⟨Function.update s' (r.cell s) v, ?_, ?_⟩
      · simp only [switchDev, hr, hold]
      · rintro c ⟨_, _, _, _, rfl⟩
        rw [Function.update_self, Function.update_self]

/-- Accesses that do not conflict can be exchanged. -/
theorem swappable_of_not_conflict {x y : Access × Resp} (h : ¬ Conflict x y) :
    Prog.Swappable switchDev x y := by
  intro s u t hx hy
  -- each access leaves alone what the other depends on
  have hxy : ∀ c, Touches y c → ¬ Changes x c := fun c hc hch => h ⟨c, hch.touches, hc, Or.inl hch⟩
  have hyx : ∀ c, Touches x c → ¬ Changes y c := fun c hc hch => h ⟨c, hc, hch.touches, Or.inr hch⟩
  obtain ⟨u', hy', hychange⟩ :=
    switchDev_local hy s fun c hc => (switchDev_frame hx (hxy c hc)).symm
  obtain ⟨t', hx', hxchange⟩ :=
    switchDev_local hx u' fun c hc => switchDev_frame hy' (hyx c hc)
  have ht : t' = t := by
    funext c
    by_cases hcx : Changes x c
    · have hcy : ¬ Changes y c := hyx c hcx.touches
      rw [hxchange c hcx, switchDev_frame hy hcy]
    · rw [switchDev_frame hx' hcx]
      by_cases hcy : Changes y c
      · exact hychange c hcy
      · rw [switchDev_frame hy' hcy, switchDev_frame hy hcy, switchDev_frame hx hcx]
  exact ⟨u', hy', ht ▸ hx'⟩

end Axm57104.Switch
