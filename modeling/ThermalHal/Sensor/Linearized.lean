import ThermalHal.Lib.Flow
import ThermalHal.Sensor.Events
import ThermalHal.Sensor.Registry

/-!
# Interleaved runs are sequential runs

A sample takes effect in the first critical section of `applyTemperatureSample`, a registry
call in its own. Whatever other threads do in between, the service is where the sequential
service is after these requests in the order they took effect. The events lag behind by at
most the one that the worker has raised and not announced yet.

## Main definitions

* `Concurrent.points` — the request that a step takes effect as.
* `sequential` — the requests of an interleaved run, in the order they took effect.
* `Concurrent.raised`, `Worker.unannounced` — the events on their way to the listeners.
* `ConcurrentMove` — what a step can do, one constructor for each way it can go.
* `interleaved_eq_sequential` — over every interleaving.
-/

namespace ThermalHal

open Lib

universe u

variable {γ : Type u}

/-! ## Where requests take effect -/

/-- The request that a step takes effect as. -/
def Concurrent.points (c : Concurrent γ) : ConcurrentStep γ → List Request
  | .applyTemperatureSample sample steadyClockMs =>
      match c.worker with
      | .idle => [.sample sample (.quiet steadyClockMs)]
      | _ => []
  | .registry call => [.registry call]
  | _ => []

/-- The event that a step raises. -/
def Concurrent.raised (c : Concurrent γ) : ConcurrentStep γ → List ActionEvent
  | .applyTemperatureSample sample steadyClockMs =>
      match c.worker with
      | .idle => (applyTemperatureSampleLocked steadyClockMs sample c.service).2.toList
      | _ => []
  | _ => []

/-- The event that is raised and not announced yet. -/
def Worker.unannounced : Worker → List ActionEvent
  | .changed event => [event]
  | _ => []

/-- The requests of an interleaved run, in the order they took effect. -/
def sequential [DecidableEq γ] (owner : ℕ → γ) (c : Concurrent γ)
    (steps : List (ConcurrentStep γ)) : List Request :=
  (concurrent owner).collect Concurrent.points c steps

/-- The two services agree on everything but the shutdown flag, which the worker sets later
than the sequential service does. -/
structure Agree (c : Concurrent γ) (s : ThermalSensor) : Prop where
  sensors_eq : c.service.sensors = s.sensors
  currentState_eq : c.service.currentState = s.currentState
  listeners_eq : c.service.listeners = s.listeners

/-! ## One sample -/

section Sample

variable {s s' : ThermalSensor}

/-- The locked update reads the records and the aggregate, and writes nothing else. -/
theorem applyTemperatureSampleLocked_congr (hsensors : s.sensors = s'.sensors)
    (hcurrent : s.currentState = s'.currentState) (steadyClockMs : ℤ)
    (sample : TemperatureSample) :
    (applyTemperatureSampleLocked steadyClockMs sample s).1.policy =
        (applyTemperatureSampleLocked steadyClockMs sample s').1.policy ∧
      (applyTemperatureSampleLocked steadyClockMs sample s).2 =
        (applyTemperatureSampleLocked steadyClockMs sample s').2 := by
  have hs : s.Configured { sensors := s.sensors.map SensorRuntime.config } := rfl
  have hs' : s'.Configured { sensors := s.sensors.map SensorRuntime.config } := by
    rw [ThermalSensor.Configured, hsensors]
  rw [applyTemperatureSampleLocked_eq hs, applyTemperatureSampleLocked_eq hs']
  cases acceptedSample? { sensors := s.sensors.map SensorRuntime.config } sample with
  | none => simp [ThermalSensor.policy, hsensors, hcurrent]
  | some acc => simp [ThermalSensor.policy, ThermalSensor.accept, hsensors, hcurrent]

/-- A sample in a quiet environment is the locked update, as far as the flag is not concerned. -/
theorem applyTemperatureSample_quiet (steadyClockMs : ℤ) (sample : TemperatureSample)
    (s : ThermalSensor) :
    (applyTemperatureSample (.quiet steadyClockMs) sample s).1.policy =
        (applyTemperatureSampleLocked steadyClockMs sample s).1.policy ∧
      (applyTemperatureSample (.quiet steadyClockMs) sample s).1.listeners = s.listeners ∧
      announced (applyTemperatureSample (.quiet steadyClockMs) sample s).2 =
        (applyTemperatureSampleLocked steadyClockMs sample s).2.toList := by
  have hclock : (Environment.quiet steadyClockMs).steadyClockMs = steadyClockMs := rfl
  rw [applyTemperatureSample, hclock]
  rcases hlocked : applyTemperatureSampleLocked steadyClockMs sample s with ⟨locked, _ | event⟩
  · exact ⟨rfl, (applyTemperatureSampleLocked_none hlocked).2, rfl⟩
  · -- no registry call comes between the two sections
    have hlisteners : (Environment.quiet steadyClockMs).betweenSections.foldl RegistryCall.apply
        locked.listeners = s.listeners := (applyTemperatureSampleLocked_some hlocked).2
    dsimp only
    rw [hlisteners]
    split_ifs
    · simp [scheduleThermalShutdown_state, ThermalSensor.policy]
    · simp [ThermalSensor.policy]

end Sample

/-! ## One step -/

/-- What a step makes of the machine, one constructor for each way it can go. -/
inductive ConcurrentMove [DecidableEq γ] (owner : ℕ → γ) (c : Concurrent γ) :
    ConcurrentStep γ → Concurrent γ → List Effect → Prop
  | still (step : ConcurrentStep γ) (hpoints : c.points step = []) (hraised : c.raised step = []) :
      ConcurrentMove owner c step c []
  | unchanged (sample : TemperatureSample) (steadyClockMs : ℤ) (locked : ThermalSensor)
      (hworker : c.worker = .idle)
      (hlocked : applyTemperatureSampleLocked steadyClockMs sample c.service = (locked, none)) :
      ConcurrentMove owner c (.applyTemperatureSample sample steadyClockMs)
        { c with service := locked, worker := .idle } []
  | changed (sample : TemperatureSample) (steadyClockMs : ℤ) (locked : ThermalSensor)
      (event : ActionEvent) (hworker : c.worker = .idle)
      (hlocked : applyTemperatureSampleLocked steadyClockMs sample c.service =
        (locked, some event)) :
      ConcurrentMove owner c (.applyTemperatureSample sample steadyClockMs)
        { c with service := locked, worker := .changed event } []
  | copied (event : ActionEvent) (hworker : c.worker = .changed event) :
      ConcurrentMove owner c .copyListeners
        { c with worker := .notifying event c.service.listeners } [.notifyListeners event]
  | called (event : ActionEvent) (listener : IThermalEventListener)
      (remaining : List IThermalEventListener) (isOk : Bool)
      (hworker : c.worker = .notifying event (listener :: remaining)) :
      ConcurrentMove owner c (.onThermalStateChange isOk)
        { c with
          worker := .notifying event remaining
          held := Function.update c.held (owner listener.asBinder) (some event.state) }
        [.onThermalStateChange listener event isOk]
  | finished (event : ActionEvent) (env : Environment) (hworker : c.worker = .notifying event [])
      (hstate : event.state ≠ .criticalShutdownImminent) :
      ConcurrentMove owner c (.afterNotification env) { c with worker := .idle } []
  | scheduled (event : ActionEvent) (env : Environment) (hworker : c.worker = .notifying event [])
      (hstate : event.state = .criticalShutdownImminent) :
      ConcurrentMove owner c (.afterNotification env)
        { c with
          service := (scheduleThermalShutdown env kThermalShutdownReason c.service).1
          worker := .idle }
        (scheduleThermalShutdown env kThermalShutdownReason c.service).2
  | registry (call : RegistryCall) :
      ConcurrentMove owner c (.registry call)
        { c with service := { c.service with listeners := call.apply c.service.listeners } } []
  | read (client : γ) :
      ConcurrentMove owner c (.getCurrentThermalState client)
        { c with
          held := Function.update c.held client (some (getCurrentThermalState c.service)) } []

/-- **Every step is one of these moves.** -/
theorem concurrentMove [DecidableEq γ] (owner : ℕ → γ) (c : Concurrent γ)
    (step : ConcurrentStep γ) :
    ConcurrentMove owner c step ((concurrent owner).next c step)
      ((concurrent owner).emit c step) := by
  obtain ⟨s, worker, held⟩ := c
  cases step with
  | applyTemperatureSample sample steadyClockMs =>
    cases worker with
    | idle =>
      rw [Machine.next, Machine.emit, step_applyTemperatureSample owner rfl]
      rcases hlocked : applyTemperatureSampleLocked steadyClockMs sample s with
        ⟨locked, _ | event⟩
      · exact .unchanged sample steadyClockMs locked rfl hlocked
      · exact .changed sample steadyClockMs locked event rfl hlocked
    | changed event => exact .still _ rfl rfl
    | notifying event remaining => exact .still _ rfl rfl
  | copyListeners =>
    cases worker with
    | changed event => exact .copied event rfl
    | idle => exact .still _ rfl rfl
    | notifying event remaining => exact .still _ rfl rfl
  | onThermalStateChange isOk =>
    rcases worker with _ | event | ⟨event, _ | ⟨listener, remaining⟩⟩
    case notifying.cons => exact .called event listener remaining isOk rfl
    all_goals exact .still _ rfl rfl
  | afterNotification env =>
    rcases worker with _ | event | ⟨event, _ | ⟨listener, remaining⟩⟩
    case notifying.nil =>
      rw [Machine.next, Machine.emit, step_afterNotification owner rfl]
      split_ifs with hstate
      · exact .scheduled event env rfl hstate
      · exact .finished event env rfl hstate
    all_goals exact .still _ rfl rfl
  | registry call => exact .registry call
  | getCurrentThermalState client => exact .read client

/-- The event a step raises is the one the sequential service announces. -/
theorem raised_eq {c : Concurrent γ} {s : ThermalSensor} (h : Agree c s)
    (step : ConcurrentStep γ) : c.raised step = announced (service.trace s (c.points step)) := by
  obtain ⟨t, worker, held⟩ := c
  cases step with
  | applyTemperatureSample sample steadyClockMs =>
    cases worker with
    | idle =>
      have hlocked := (applyTemperatureSampleLocked_congr h.sensors_eq h.currentState_eq
        steadyClockMs sample).2
      have hevents := (applyTemperatureSample_quiet steadyClockMs sample s).2.2
      change (applyTemperatureSampleLocked steadyClockMs sample t).2.toList =
        announced ((applyTemperatureSample (.quiet steadyClockMs) sample s).2 ++ [])
      rw [List.append_nil, hevents, hlocked]
    | changed event => rfl
    | notifying event remaining => rfl
  | _ => rfl

/-- A sample in agreement with the sequential service, whatever it raises. -/
theorem agree_sample {c : Concurrent γ} {s : ThermalSensor} (h : Agree c s) (steadyClockMs : ℤ)
    (sample : TemperatureSample) {locked : ThermalSensor} {event? : Option ActionEvent}
    (hlocked : applyTemperatureSampleLocked steadyClockMs sample c.service = (locked, event?))
    (worker : Worker) :
    Agree { c with service := locked, worker }
      (service.next s (.sample sample (.quiet steadyClockMs))) := by
  obtain ⟨hpolicy, hlisteners, -⟩ := applyTemperatureSample_quiet steadyClockMs sample s
  have hnext := (applyTemperatureSampleLocked_congr h.sensors_eq h.currentState_eq steadyClockMs
    sample).1.trans hpolicy.symm
  rw [hlocked] at hnext
  have hkept : locked.listeners = c.service.listeners := by
    cases event? with
    | none => exact (applyTemperatureSampleLocked_none hlocked).2
    | some event => exact (applyTemperatureSampleLocked_some hlocked).2
  exact ⟨congrArg PolicyState.sensors hnext, congrArg PolicyState.currentState hnext,
    hkept.trans (h.listeners_eq.trans hlisteners.symm)⟩

section Step

variable [DecidableEq γ] (owner : ℕ → γ) {c : Concurrent γ} {s : ThermalSensor}

/-- **A step is the requests it takes effect as.** -/
theorem agree_next (h : Agree c s) (step : ConcurrentStep γ) :
    Agree ((concurrent owner).next c step) (service.state s (c.points step)) := by
  have hmove := concurrentMove owner c step
  generalize (concurrent owner).next c step = c',
    (concurrent owner).emit c step = effects at hmove ⊢
  have ⟨hsensors, hcurrent, hlisteners⟩ := h
  cases hmove with
  | still step hpoints hraised =>
    rw [hpoints]
    exact h
  | unchanged sample steadyClockMs locked hworker hlocked
  | changed sample steadyClockMs locked event hworker hlocked =>
    simp only [Concurrent.points, hworker]
    exact agree_sample h steadyClockMs sample hlocked _
  | scheduled event env hworker hstate =>
    rw [scheduleThermalShutdown_state]
    exact ⟨hsensors, hcurrent, hlisteners⟩
  | registry call => exact ⟨hsensors, hcurrent, congrArg call.apply hlisteners⟩
  | copied | called | finished | read => exact ⟨hsensors, hcurrent, hlisteners⟩

/-- A raised event is unannounced until the worker copies the registry. -/
theorem unannounced_next (c : Concurrent γ) (step : ConcurrentStep γ) :
    c.worker.unannounced ++ c.raised step =
      announced ((concurrent owner).emit c step) ++
        ((concurrent owner).next c step).worker.unannounced := by
  have hmove := concurrentMove owner c step
  generalize (concurrent owner).next c step = c',
    (concurrent owner).emit c step = effects at hmove ⊢
  cases hmove with
  | still step hpoints hraised => simp [hraised]
  | unchanged sample steadyClockMs locked hworker hlocked
  | changed sample steadyClockMs locked event hworker hlocked =>
    simp [Concurrent.raised, Worker.unannounced, hworker, hlocked]
  | copied event hworker | called event listener remaining isOk hworker =>
    simp [Concurrent.raised, Worker.unannounced, hworker, announced, Effect.announced?]
  | finished event env hworker | scheduled event env hworker =>
    simp [Concurrent.raised, Worker.unannounced, hworker]
  | registry | read => simp [Concurrent.raised]

end Step

/-! ## Runs -/

theorem agree_start (cfg : ThermalHfpConfig) (steadyClockMs : ℤ) :
    Agree (.start γ cfg steadyClockMs) (initializeSensors cfg steadyClockMs) := ⟨rfl, rfl, rfl⟩

section Runs

variable [DecidableEq γ] (owner : ℕ → γ)

theorem agree_state {c : Concurrent γ} {s : ThermalSensor} (h : Agree c s)
    (steps : List (ConcurrentStep γ)) :
    Agree ((concurrent owner).state c steps) (service.state s (sequential owner c steps)) :=
  Machine.state_collect (M := concurrent owner) (N := service) (R := Agree)
    (fun _ _ step h => agree_next owner h step) h steps

/-- The events a run raises are those of the sequential run. -/
theorem collect_raised {c : Concurrent γ} {s : ThermalSensor} (h : Agree c s)
    (steps : List (ConcurrentStep γ)) :
    (concurrent owner).collect Concurrent.raised c steps =
      announced (service.trace s (sequential owner c steps)) :=
  Machine.collect_eq_trace (M := concurrent owner) (N := service) (R := Agree)
    (fun _ _ step h => agree_next owner h step) (fun _ _ step h => raised_eq h step) h steps

/-- What was unannounced and what a run raises is what it announces and what is unannounced at
its end. -/
theorem announced_trace (c : Concurrent γ) (steps : List (ConcurrentStep γ)) :
    c.worker.unannounced ++ (concurrent owner).collect Concurrent.raised c steps =
      announced ((concurrent owner).trace c steps) ++
        ((concurrent owner).state c steps).worker.unannounced := by
  rw [announced, ← Machine.collect_emit]
  exact Machine.conserved (P := fun _ => True) (Q := fun _ => True)
    (fun c : Concurrent γ => c.worker.unannounced) Concurrent.raised _ (fun _ _ _ _ => trivial)
    (fun c step _ _ => unannounced_next owner c step) trivial steps (fun _ _ => trivial)

/-- The service of an interleaved run is reachable for the sequential service. -/
theorem exists_reachable (cfg : ThermalHfpConfig) (steadyClockMs : ℤ)
    (steps : List (ConcurrentStep γ)) :
    ∃ s : ThermalSensor, s.Reachable cfg ∧
      Agree ((concurrent owner).state (.start γ cfg steadyClockMs) steps) s :=
  ⟨_, ⟨steadyClockMs, _, rfl⟩, agree_state owner (agree_start cfg steadyClockMs) steps⟩

/-- **Interleaved runs are sequential runs.** After every interleaving of the worker's steps
with registry calls and reads, the records, the aggregate and the registry are those of the
sequential service after the same requests in the order they took effect, and the announced
events are those of that run but for the one the worker has raised and not announced yet. -/
theorem interleaved_eq_sequential (cfg : ThermalHfpConfig) (steadyClockMs : ℤ)
    (steps : List (ConcurrentStep γ)) :
    let c := (concurrent owner).state (.start γ cfg steadyClockMs) steps
    let requests := sequential owner (.start γ cfg steadyClockMs) steps
    let s := service.state (initializeSensors cfg steadyClockMs) requests
    c.service.sensors = s.sensors ∧ c.service.currentState = s.currentState ∧
      c.service.listeners = s.listeners ∧
      announced ((concurrent owner).trace (.start γ cfg steadyClockMs) steps) ++
          c.worker.unannounced =
        announced (service.trace (initializeSensors cfg steadyClockMs) requests) := by
  intro c requests s
  have hagree := agree_state owner (agree_start (γ := γ) cfg steadyClockMs) steps
  refine ⟨hagree.sensors_eq, hagree.currentState_eq, hagree.listeners_eq, ?_⟩
  rw [← collect_raised owner (agree_start cfg steadyClockMs), ← announced_trace]
  rfl

end Runs

end ThermalHal
