import ThermalHal.Lib.Machine
import ThermalHal.Profile
import ThermalHal.Sensor.Policy

/-!
# Runs of the service

The service as a machine: its inputs are samples, each with the environment it
meets, and calls on the listener registry; its outputs are the calls it makes. Two
inversion lemmas say what one input does to the policy state, by whether the
profile accepts it, and everything about runs goes through them.

## Main definitions

* `Request`, `service` — the machine.
* `Request.accepted?` — sensor, temperature and timestamp of an accepted request.
* `announced` — the events among the calls of a run.
* `ThermalSensor.Reachable` — the states of a profile's runs.
-/

namespace ThermalHal

open Lib

/-- One input of the service. -/
inductive Request
  | sample (sample : TemperatureSample) (env : Environment)
  | registry (call : RegistryCall)

/-- The service as a machine. -/
def service : Machine ThermalSensor Request Effect where
  step s
    | .sample sample env => applyTemperatureSample env sample s
    | .registry call => ({ s with listeners := call.apply s.listeners }, [])

/-- An environment in which every call succeeds and no other thread gets in between. -/
def Environment.quiet (steadyClockMs : ℤ) : Environment where
  steadyClockMs
  betweenSections := []
  listenerStatus _ := true
  bootReason := ⟨true, true, true, true⟩
  poweroff := ⟨true, .child 1, 0, .reaped (.exited 0)⟩

/-- The sensor, temperature and stored timestamp of a request the profile accepts. -/
def Request.accepted? (cfg : ThermalHfpConfig) : Request → Option (ℕ × ℚ × ℤ)
  | .sample input env =>
      (acceptedSample? cfg input).map fun (i, t) =>
        (i, t, effectiveTimestampMs env.steadyClockMs input.timestampMonotonicMs)
  | .registry _ => none

theorem Request.accepted?_sample_eq_some {cfg : ThermalHfpConfig} {input : TemperatureSample}
    {env : Environment} {i : ℕ} {t : ℚ} {ts : ℤ} :
    (Request.sample input env).accepted? cfg = some (i, t, ts) ↔
      acceptedSample? cfg input = some (i, t) ∧
        ts = effectiveTimestampMs env.steadyClockMs input.timestampMonotonicMs := by
  simp only [Request.accepted?, Option.map_eq_some_iff, Prod.mk.injEq, Prod.exists]
  constructor
  · intro h
    obtain ⟨j, u, hacc, rfl, rfl, rfl⟩ := h
    exact ⟨hacc, rfl⟩
  · intro h
    exact ⟨i, t, h.1, rfl, rfl, h.2.symm⟩

/-- The event a call announces to the listeners. -/
def Effect.announced? : Effect → Option ActionEvent
  | .notifyListeners event => some event
  | _ => none

/-- The events announced by a sequence of calls. -/
def announced (effects : List Effect) : List ActionEvent := effects.filterMap Effect.announced?

@[simp] theorem announced_nil : announced [] = [] := rfl

@[simp] theorem announced_append (xs ys : List Effect) :
    announced (xs ++ ys) = announced xs ++ announced ys := List.filterMap_append

/-! ## The part of the state the policy reads -/

/-- The runtime records and the aggregate. -/
structure PolicyState where
  sensors : List SensorRuntime
  currentState : State
  deriving DecidableEq, Repr

def ThermalSensor.policy (s : ThermalSensor) : PolicyState := ⟨s.sensors, s.currentState⟩

theorem ThermalSensor.Configured.of_policy_eq {cfg : ThermalHfpConfig} {s s' : ThermalSensor}
    (h : s.Configured cfg) (heq : s'.policy = s.policy) : s'.Configured cfg := by
  have hsensors : s'.sensors = s.sensors := congrArg PolicyState.sensors heq
  rw [Configured, hsensors]
  exact h

theorem ThermalSensor.Configured.accept {cfg : ThermalHfpConfig} {s : ThermalSensor}
    (h : s.Configured cfg) (i : ℕ) (t : ℚ) (ts : ℤ) : (s.accept i t ts).1.Configured cfg := by
  rw [Configured, ← h, ThermalSensor.accept]
  apply List.ext_getElem?
  intro j
  simp only [List.getElem?_map, List.getElem?_modify]
  by_cases hij : i = j
  · cases s.sensors[j]? <;> simp [hij]
  · cases s.sensors[j]? <;> simp [hij]

/-! ## The shutdown path moves the flag alone -/

/-- The outcomes after which the request clears the shutdown flag: `fork` failed, or the
launcher exited with a status other than zero. -/
def PoweroffEnvironment.rearms (env : PoweroffEnvironment) : Bool :=
  env.accessible &&
    match env.fork, env.reap with
    | .failed, _ => true
    | .child _, .reaped (.exited status) => status ≠ 0
    | .child _, _ => false

/-- A request clears the flag in the re-arming outcomes and changes nothing otherwise. -/
theorem requestSystemPoweroff_state (env : PoweroffEnvironment) (s : ThermalSensor) :
    (requestSystemPoweroff env s).1 =
      { s with shutdownScheduled := s.shutdownScheduled && !env.rearms } := by
  cases ha : env.accessible with
  | false => simp [requestSystemPoweroff, PoweroffEnvironment.rearms, ha]
  | true =>
    cases hf : env.fork with
    | failed => simp [requestSystemPoweroff, PoweroffEnvironment.rearms, ha, hf]
    | child pid =>
      rcases hr : env.reap with _ | (_ | status) | _ | _ <;>
        simp [requestSystemPoweroff, PoweroffEnvironment.rearms, ha, hf, hr]

/-- Scheduling sets the flag unless the request it then makes clears it again. -/
theorem scheduleThermalShutdown_state (env : Environment) (reasonString : String)
    (s : ThermalSensor) :
    (scheduleThermalShutdown env reasonString s).1 =
      { s with shutdownScheduled := s.shutdownScheduled || !env.poweroff.rearms } := by
  cases hs : s.shutdownScheduled with
  | true =>
    simp only [scheduleThermalShutdown, hs, if_true, Bool.true_or]
    rw [← hs]
  | false =>
    simp only [scheduleThermalShutdown, hs, Bool.false_eq_true, if_false,
      requestSystemPoweroff_state, Bool.true_and, Bool.false_or]

@[simp] theorem policy_scheduleThermalShutdown (env : Environment) (reasonString : String)
    (s : ThermalSensor) : (scheduleThermalShutdown env reasonString s).1.policy = s.policy := by
  rw [scheduleThermalShutdown_state]
  rfl

@[simp] theorem announced_reapLauncher (interrupts : ℕ) (reap : ReapResult) :
    announced (reapLauncher interrupts reap) = [] := by
  induction interrupts with
  | zero => rfl
  | succ n ih => exact ih

@[simp] theorem announced_requestSystemPoweroff (env : PoweroffEnvironment) (s : ThermalSensor) :
    announced (requestSystemPoweroff env s).2 = [] := by
  have hreap : ∀ pid, announced (.requestSystemPoweroff :: .access true :: .fork (.child pid) ::
      reapLauncher env.interrupts env.reap) = [] := fun pid => announced_reapLauncher _ _
  unfold requestSystemPoweroff
  split
  · rfl
  · split
    · rfl
    · dsimp only
      split <;> exact hreap _

@[simp] theorem announced_recordThermalShutdownReason (env : BootReasonEnvironment)
    (reasonString : String) : announced (recordThermalShutdownReason env reasonString) = [] := by
  unfold recordThermalShutdownReason
  repeat' split
  all_goals rfl

@[simp] theorem announced_scheduleThermalShutdown (env : Environment) (reasonString : String)
    (s : ThermalSensor) : announced (scheduleThermalShutdown env reasonString s).2 = [] := by
  unfold scheduleThermalShutdown
  split
  · rfl
  · change announced (recordThermalShutdownReason _ _ ++ _) = []
    simp

@[simp] theorem announced_notifyListeners (env : Environment) (event : ActionEvent)
    (s : ThermalSensor) : announced (notifyListeners env event s) = [event] := by
  have hcalls : announced (s.listeners.map fun listener =>
      .onThermalStateChange listener event (env.listenerStatus listener)) = [] := by
    rw [announced, List.filterMap_map]
    exact List.filterMap_eq_nil_iff.mpr fun _ _ => rfl
  change event :: announced _ = [event]
  rw [hcalls]

/-! ## One request -/

section Step

variable {cfg : ThermalHfpConfig} {s : ThermalSensor} {r : Request}

/-- A request that is not an accepted sample leaves the policy state alone. -/
theorem next_of_rejected (h : s.Configured cfg) (hr : r.accepted? cfg = none) :
    (service.next s r).policy = s.policy ∧ announced (service.emit s r) = [] := by
  cases r with
  | registry call => exact ⟨rfl, rfl⟩
  | sample input env =>
    have hnone : acceptedSample? cfg input = none := by
      simpa [Request.accepted?] using hr
    change (applyTemperatureSample env input s).1.policy = s.policy ∧
      announced (applyTemperatureSample env input s).2 = []
    have hcases := handling h env input
    generalize applyTemperatureSample env input s = result at hcases ⊢
    cases hcases with
    | rejected hacc => exact ⟨rfl, rfl⟩
    | unchanged hacc haccept => simp [hnone] at hacc
    | notified hacc haccept hstate => simp [hnone] at hacc
    | shutdown hacc haccept hstate => simp [hnone] at hacc

/-- An accepted sample moves the policy state as `accept` does and announces its event. -/
theorem next_of_accepted (h : s.Configured cfg) {i : ℕ} {t : ℚ} {ts : ℤ}
    (hr : r.accepted? cfg = some (i, t, ts)) :
    (service.next s r).policy = (s.accept i t ts).1.policy ∧
      announced (service.emit s r) = (s.accept i t ts).2.toList := by
  cases r with
  | registry call => simp [Request.accepted?] at hr
  | sample input env =>
    obtain ⟨hsome, rfl⟩ := Request.accepted?_sample_eq_some.mp hr
    change (applyTemperatureSample env input s).1.policy = _ ∧
      announced (applyTemperatureSample env input s).2 = _
    have hcases := handling h env input
    generalize applyTemperatureSample env input s = result at hcases ⊢
    cases hcases with
    | rejected hacc => simp [hsome] at hacc
    | unchanged hacc haccept =>
      obtain ⟨rfl, rfl⟩ := Prod.mk.inj (Option.some.inj (hsome.symm.trans hacc))
      rw [haccept]
      exact ⟨rfl, rfl⟩
    | notified hacc haccept hstate =>
      obtain ⟨rfl, rfl⟩ := Prod.mk.inj (Option.some.inj (hsome.symm.trans hacc))
      rw [haccept]
      exact ⟨rfl, announced_notifyListeners ..⟩
    | shutdown hacc haccept hstate =>
      obtain ⟨rfl, rfl⟩ := Prod.mk.inj (Option.some.inj (hsome.symm.trans hacc))
      rw [haccept]
      exact ⟨policy_scheduleThermalShutdown .., by simp⟩

/-- An accepted sample belongs to a sensor that exists. -/
theorem exists_of_accepted (h : s.Configured cfg) {i : ℕ} {t : ℚ} {ts : ℤ}
    (hr : r.accepted? cfg = some (i, t, ts)) : ∃ it, s.sensors[i]? = some it := by
  cases r with
  | registry call => simp [Request.accepted?] at hr
  | sample input env =>
    obtain ⟨hacc, -⟩ := Request.accepted?_sample_eq_some.mp hr
    have hi := resolve_lt (acceptedSample?_eq_some.mp hacc).1
    rw [← h.length_eq] at hi
    exact ⟨s.sensors[i], List.getElem?_eq_getElem hi⟩

theorem configured_next (h : s.Configured cfg) (r : Request) :
    (service.next s r).Configured cfg := by
  cases hr : r.accepted? cfg with
  | none => exact h.of_policy_eq (next_of_rejected h hr).1
  | some acc =>
    obtain ⟨i, t, ts⟩ := acc
    exact (h.accept i t ts).of_policy_eq (next_of_accepted h hr).1

end Step

/-! ## Runs from start-up -/

theorem configured_initializeSensors (cfg : ThermalHfpConfig) (steadyClockMs : ℤ) :
    (initializeSensors cfg steadyClockMs).Configured cfg := by
  simp [ThermalSensor.Configured, initializeSensors, initialRuntime, Function.comp_def]

theorem configured_state (cfg : ThermalHfpConfig) (steadyClockMs : ℤ) (requests : List Request) :
    (service.state (initializeSensors cfg steadyClockMs) requests).Configured cfg :=
  Machine.invariant (P := ThermalSensor.Configured cfg) (fun _ r h => configured_next h r)
    (configured_initializeSensors cfg _) requests

/-- The states the service of a profile can be in between two requests. -/
def ThermalSensor.Reachable (cfg : ThermalHfpConfig) (s : ThermalSensor) : Prop :=
  ∃ steadyClockMs, service.Reachable (initializeSensors cfg steadyClockMs) s

theorem ThermalSensor.Reachable.next {cfg : ThermalHfpConfig} {s : ThermalSensor}
    (h : s.Reachable cfg) (r : Request) : (service.next s r).Reachable cfg := by
  obtain ⟨steadyClockMs, hs⟩ := h
  exact ⟨steadyClockMs, hs.next r⟩

theorem ThermalSensor.Reachable.state {cfg : ThermalHfpConfig} {s : ThermalSensor}
    (h : s.Reachable cfg) (requests : List Request) : (service.state s requests).Reachable cfg := by
  obtain ⟨steadyClockMs, earlier, rfl⟩ := h
  exact ⟨steadyClockMs, earlier ++ requests, Machine.state_append ..⟩

theorem ThermalSensor.Reachable.configured {cfg : ThermalHfpConfig} {s : ThermalSensor}
    (h : s.Reachable cfg) : s.Configured cfg := by
  obtain ⟨steadyClockMs, requests, rfl⟩ := h
  exact configured_state cfg steadyClockMs requests

end ThermalHal
