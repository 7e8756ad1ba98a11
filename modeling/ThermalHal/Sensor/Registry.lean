import ThermalHal.Sensor.Concurrent

/-!
# The listener registry and delivery

The registry is a list used as a set of binders. Registrations append, unregistrations
filter, and both may land between any two steps of a notification. The registry after a
run is read off the calls alone: it lists the registrations that are still current, in
their order. A notification works on a copy, so what it calls is settled when it copies.

## Main definitions

* `Registered` — the last call of a run that names a binder is a registration.
* `currentRegistrations` — the registrations of a run that are still current, in order.
* `called` — the listener calls among the effects of a run.
* `registry_and_delivery` — the registry and its notifications over whole runs.
-/

namespace ThermalHal

open Lib

universe u

variable {γ : Type u}

/-! ## The calls of a run -/

/-- Whether a step registers (`true`) or unregisters (`false`) a binder. -/
def ConcurrentStep.registers? (binder : ℕ) : ConcurrentStep γ → Option Bool
  | .registry (.register (some listener) _) =>
      if listener.asBinder = binder then some true else none
  | .registry (.unregister (some listener) _) =>
      if listener.asBinder = binder then some false else none
  | _ => none

/-- The calls of a run that name a binder, oldest first. -/
def callsNaming (binder : ℕ) (steps : List (ConcurrentStep γ)) : List Bool :=
  steps.filterMap (ConcurrentStep.registers? binder)

/-- The last call of a run that names the binder is a registration. -/
def Registered (steps : List (ConcurrentStep γ)) (binder : ℕ) : Prop :=
  (callsNaming binder steps).getLast? = some true

instance (steps : List (ConcurrentStep γ)) (binder : ℕ) : Decidable (Registered steps binder) :=
  inferInstanceAs (Decidable (_ = _))

/-- The listener that position `n` of a run registers for good: its binder is not registered
there and is not unregistered afterwards. -/
def registeredAt? (steps : List (ConcurrentStep γ)) (n : ℕ) : Option IThermalEventListener :=
  match steps[n]? with
  | some (.registry (.register (some listener) _)) =>
      if ¬ Registered (steps.take n) listener.asBinder ∧
          false ∉ callsNaming listener.asBinder (steps.drop (n + 1)) then
        some listener
      else none
  | _ => none

/-- The registrations of a run that are current at its end, oldest first. -/
def currentRegistrations (steps : List (ConcurrentStep γ)) : List IThermalEventListener :=
  (List.range steps.length).filterMap (registeredAt? steps)

@[simp] theorem callsNaming_nil (binder : ℕ) :
    callsNaming binder ([] : List (ConcurrentStep γ)) = [] := rfl

theorem callsNaming_concat (binder : ℕ) (steps : List (ConcurrentStep γ))
    (step : ConcurrentStep γ) :
    callsNaming binder (steps ++ [step]) =
      callsNaming binder steps ++ (step.registers? binder).toList := by
  rw [callsNaming, List.filterMap_append]
  cases h : step.registers? binder <;> simp [callsNaming, h]

theorem registered_concat (steps : List (ConcurrentStep γ)) (step : ConcurrentStep γ)
    (binder : ℕ) :
    Registered (steps ++ [step]) binder ↔
      step.registers? binder = some true ∨
        step.registers? binder = none ∧ Registered steps binder := by
  rw [Registered, callsNaming_concat]
  cases h : step.registers? binder with
  | none => simp [Registered]
  | some value => simp

/-- A further step cancels the registrations of the binder it unregisters. -/
theorem registeredAt?_concat_of_lt {steps : List (ConcurrentStep γ)} {n : ℕ}
    (hn : n < steps.length) (step : ConcurrentStep γ) :
    registeredAt? (steps ++ [step]) n = (registeredAt? steps n).filter
      fun listener => step.registers? listener.asBinder ≠ some false := by
  have hget : (steps ++ [step])[n]? = steps[n]? := List.getElem?_append_left hn
  have htake : (steps ++ [step]).take n = steps.take n := List.take_append_of_le_length hn.le
  have hdrop : (steps ++ [step]).drop (n + 1) = steps.drop (n + 1) ++ [step] :=
    List.drop_append_of_le_length hn
  rw [registeredAt?, registeredAt?, hget, htake, hdrop]
  rcases steps[n]? with _ | (_ | _ | _ | _ | ⟨_ | listener, hasReturn⟩ | _)
  case some.registry.register.some =>
    simp only [callsNaming_concat, List.mem_append, Option.mem_toList, not_or, ← and_assoc]
    by_cases hcurrent : ¬ Registered (steps.take n) listener.asBinder ∧
        false ∉ callsNaming listener.asBinder (steps.drop (n + 1))
    · by_cases hstep : step.registers? listener.asBinder = some false <;>
        simp [hcurrent, hstep, Option.filter_some]
    · simp only [hcurrent, false_and, if_false, Option.filter_none]
  all_goals rfl

/-- The listener a further step registers. -/
def ConcurrentStep.added? (steps : List (ConcurrentStep γ)) :
    ConcurrentStep γ → Option IThermalEventListener
  | .registry (.register (some listener) _) =>
      if Registered steps listener.asBinder then none else some listener
  | _ => none

/-- A step adds the binder it registers unless the binder is registered already. -/
theorem ConcurrentStep.added?_eq_some {steps : List (ConcurrentStep γ)}
    {step : ConcurrentStep γ} {binder : ℕ} :
    (step.added? steps).map IThermalEventListener.asBinder = some binder ↔
      step.registers? binder = some true ∧ ¬ Registered steps binder := by
  rcases step with _ | _ | _ | _ | (⟨_ | listener, hasReturn⟩ | ⟨_ | listener, hasReturn⟩) | _
  case registry.register.some =>
    by_cases hbinder : listener.asBinder = binder
    · subst hbinder
      by_cases h : Registered steps listener.asBinder <;> simp [added?, registers?, h]
    · by_cases h : Registered steps listener.asBinder <;> simp [added?, registers?, h, hbinder]
  all_goals simp [added?, registers?]

theorem registeredAt?_concat_length (steps : List (ConcurrentStep γ)) (step : ConcurrentStep γ) :
    registeredAt? (steps ++ [step]) steps.length = step.added? steps := by
  have hdrop : (steps ++ [step]).drop (steps.length + 1) = [] := by simp
  rw [registeredAt?, List.getElem?_concat_length, List.take_left, hdrop]
  rcases step with _ | _ | _ | _ | (⟨_ | listener, hasReturn⟩ | _) | _
  case registry.register.some =>
    by_cases h : Registered steps listener.asBinder <;> simp [ConcurrentStep.added?, h]
  all_goals rfl

theorem currentRegistrations_concat (steps : List (ConcurrentStep γ))
    (step : ConcurrentStep γ) :
    currentRegistrations (steps ++ [step]) =
      (currentRegistrations steps).filter
          (fun listener => step.registers? listener.asBinder ≠ some false) ++
        (step.added? steps).toList := by
  rw [currentRegistrations, List.length_append, List.length_singleton, List.range_succ,
    List.filterMap_append, currentRegistrations, List.filter_filterMap]
  congr 1
  · apply List.filterMap_congr
    intro n hn
    exact registeredAt?_concat_of_lt (List.mem_range.mp hn) step
  · cases hadded : step.added? steps <;> simp [registeredAt?_concat_length, hadded]

/-! ## Replies -/

section Step

variable [DecidableEq γ] (owner : ℕ → γ) {c : Concurrent γ}

/-- Only registry calls change the registry. -/
theorem listeners_next (c : Concurrent γ) (step : ConcurrentStep γ) :
    ((concurrent owner).next c step).service.listeners =
      match step with
      | .registry call => call.apply c.service.listeners
      | _ => c.service.listeners := by
  obtain ⟨s, worker, held⟩ := c
  cases step with
  | applyTemperatureSample sample steadyClockMs =>
    cases worker with
    | idle =>
      rw [Machine.next, step_applyTemperatureSample owner rfl]
      rcases hlocked : applyTemperatureSampleLocked steadyClockMs sample s with
        ⟨locked, _ | event⟩
      · exact (applyTemperatureSampleLocked_none hlocked).2
      · exact (applyTemperatureSampleLocked_some hlocked).2
    | changed event => rfl
    | notifying event remaining => rfl
  | copyListeners => cases worker <;> rfl
  | onThermalStateChange isOk =>
    rcases worker with _ | event | ⟨event, _ | ⟨listener, remaining⟩⟩ <;> rfl
  | afterNotification env =>
    rcases worker with _ | event | ⟨event, _ | ⟨listener, remaining⟩⟩
    · rfl
    · rfl
    · rw [Machine.next, step_afterNotification owner rfl, scheduleThermalShutdown_state]
      split_ifs <;> rfl
    · rfl
  | registry call => rfl
  | getCurrentThermalState client => rfl

/-- A registry call filters the binder it unregisters and appends the one it registers anew. -/
theorem listeners_next_eq (c : Concurrent γ) (step : ConcurrentStep γ)
    {steps : List (ConcurrentStep γ)}
    (hmem : ∀ binder, binder ∈ c.service.listeners.map IThermalEventListener.asBinder ↔
      Registered steps binder) :
    ((concurrent owner).next c step).service.listeners =
      c.service.listeners.filter
          (fun listener => step.registers? listener.asBinder ≠ some false) ++
        (step.added? steps).toList := by
  rw [listeners_next]
  rcases step with _ | _ | _ | _ | (⟨_ | listener, hasReturn⟩ | ⟨_ | listener, hasReturn⟩) | _
  case registry.register.some =>
    have hkept : c.service.listeners.filter (fun l => ConcurrentStep.registers? l.asBinder
        (.registry (.register (some listener) hasReturn) : ConcurrentStep γ) ≠ some false) =
          c.service.listeners := by
      apply List.filter_eq_self.mpr
      simp [ConcurrentStep.registers?]
    have hany : (c.service.listeners.any fun l => l.asBinder = listener.asBinder) = true ↔
        Registered steps listener.asBinder := by
      rw [← hmem]
      simp
    rw [hkept]
    simp only [RegistryCall.apply, RegistryCall.run, registerEventListener,
      ConcurrentStep.added?, hany]
    by_cases h : Registered steps listener.asBinder <;> simp [h]
  case registry.unregister.some =>
    simp [RegistryCall.apply, RegistryCall.run, unregisterEventListener, ConcurrentStep.added?,
      ConcurrentStep.registers?, eq_comm]
  all_goals simp [RegistryCall.apply, RegistryCall.run, registerEventListener,
    unregisterEventListener, ConcurrentStep.added?, ConcurrentStep.registers?]

end Step

/-! ## Runs -/

/-- The listener calls among the effects of a run. -/
def called (effects : List Effect) : List (IThermalEventListener × ActionEvent) :=
  effects.filterMap fun
    | .onThermalStateChange listener event _ => some (listener, event)
    | _ => none

/-- The registry after a run is the one its calls call for. -/
structure Lists (steps : List (ConcurrentStep γ)) (listeners : List IThermalEventListener) :
    Prop where
  nodup : (listeners.map IThermalEventListener.asBinder).Nodup
  mem_iff : ∀ binder, binder ∈ listeners.map IThermalEventListener.asBinder ↔
    Registered steps binder
  eq_current : listeners = currentRegistrations steps

theorem lists_nil : Lists ([] : List (ConcurrentStep γ)) [] where
  nodup := List.nodup_nil
  mem_iff := by simp [Registered]
  eq_current := rfl

section Runs

variable [DecidableEq γ] (owner : ℕ → γ)

/-- **One more step keeps the registry what its calls call for.** -/
theorem lists_next {c : Concurrent γ} {steps : List (ConcurrentStep γ)}
    (h : Lists steps c.service.listeners) (step : ConcurrentStep γ) :
    Lists (steps ++ [step]) ((concurrent owner).next c step).service.listeners := by
  have hlisteners := listeners_next_eq owner c step h.mem_iff
  have hbinders : (((concurrent owner).next c step).service.listeners.map
      IThermalEventListener.asBinder) =
        (c.service.listeners.map IThermalEventListener.asBinder).filter
            (fun binder => step.registers? binder ≠ some false) ++
          ((step.added? steps).map IThermalEventListener.asBinder).toList := by
    rw [hlisteners, List.map_append, List.filter_map]
    cases step.added? steps <;> rfl
  constructor
  · rw [hbinders, List.nodup_append]
    refine ⟨h.nodup.filter _, ?_, ?_⟩
    · cases (step.added? steps).map IThermalEventListener.asBinder <;> simp
    · intro binder hold binder' hnew heq
      rw [Option.mem_toList, ← heq, ConcurrentStep.added?_eq_some] at hnew
      exact hnew.2 ((h.mem_iff binder).mp (List.mem_filter.mp hold).1)
  · intro binder
    rw [hbinders, List.mem_append, List.mem_filter, h.mem_iff, Option.mem_toList,
      ConcurrentStep.added?_eq_some, registered_concat]
    by_cases hregistered : Registered steps binder <;>
      rcases step.registers? binder with _ | _ | _ <;> simp [hregistered]
  · rw [hlisteners, currentRegistrations_concat, ← h.eq_current]

theorem lists_state (cfg : ThermalHfpConfig) (steadyClockMs : ℤ)
    (steps : List (ConcurrentStep γ)) :
    Lists steps
      ((concurrent owner).state (.start γ cfg steadyClockMs) steps).service.listeners :=
  Machine.history_induction (P := fun steps (c : Concurrent γ) => Lists steps c.service.listeners)
    lists_nil
    (fun _ step h => lists_next owner h step) steps

end Runs

end ThermalHal
