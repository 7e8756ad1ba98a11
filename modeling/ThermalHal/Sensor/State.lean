import ThermalHal.Lib.Worst

/-!
# Thermal states and their severity

The four states the service reports, ordered by `stateSeverity`. `moreSevere` is
the maximum of that order, so folding it over a list of states is `worst`.
-/

namespace ThermalHal

/-- The AIDL thermal states. -/
inductive State
  | normal
  | criticalTemperatureExceeded
  | criticalTemperatureRecovered
  | criticalShutdownImminent
  deriving DecidableEq, Repr, Inhabited

def stateSeverity : State → ℕ
  | .criticalShutdownImminent => 3
  | .criticalTemperatureExceeded => 2
  | .criticalTemperatureRecovered => 1
  | .normal => 0

def isActiveCriticalTemperatureState (state : State) : Bool :=
  state = .criticalTemperatureExceeded || state = .criticalShutdownImminent

def moreSevere (left right : State) : State :=
  if stateSeverity left < stateSeverity right then right else left

/-! ## The order -/

theorem stateSeverity_injective : Function.Injective stateSeverity := by
  intro a b h
  cases a <;> cases b <;> first | rfl | contradiction

instance : LinearOrder State where
  le a b := stateSeverity a ≤ stateSeverity b
  le_refl a := le_refl (stateSeverity a)
  le_trans _ _ _ := le_trans
  le_antisymm _ _ h h' := stateSeverity_injective (le_antisymm h h')
  le_total a b := le_total (stateSeverity a) (stateSeverity b)
  toDecidableLE a b := Nat.decLe (stateSeverity a) (stateSeverity b)
  toDecidableEq := inferInstance

instance : OrderBot State where
  bot := .normal
  bot_le a := Nat.zero_le (stateSeverity a)

theorem State.le_iff {a b : State} : a ≤ b ↔ stateSeverity a ≤ stateSeverity b := Iff.rfl
@[simp] theorem State.bot_eq : (⊥ : State) = .normal := rfl

theorem State.le_shutdown (a : State) : a ≤ .criticalShutdownImminent := by
  cases a <;> decide

@[simp] theorem moreSevere_eq_max (a b : State) : moreSevere a b = max a b := by
  cases a <;> cases b <;> decide

theorem isActive_iff {a : State} :
    isActiveCriticalTemperatureState a = true ↔ .criticalTemperatureExceeded ≤ a := by
  cases a <;> decide

end ThermalHal
