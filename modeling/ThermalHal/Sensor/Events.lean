import Mathlib.Data.List.Chain
import ThermalHal.Sensor.Invariant

/-!
# The announced events

An event carries the reading of the sensor that was sampled and announces the
aggregate over all sensors. `accept_event` ties the two together: whenever the
aggregate changes, its new value is the new state of the sampled sensor. From there
the edges an announced aggregate can follow are those of one sensor, although many
sensors heat and cool independently.

## Main definitions

* `AggregateTransition` — the edges of the announced state machine.
* `ThermalTriggers.Explains` — a temperature that accounts for a state.
* `aggregate_transition_protocol`, `event_explained_by_reading` — over whole runs.
-/

namespace ThermalHal

open Lib

/-- The edges between consecutively announced states. -/
inductive AggregateTransition : State → State → Prop
  | normalExceeded : AggregateTransition .normal .criticalTemperatureExceeded
  | normalShutdown : AggregateTransition .normal .criticalShutdownImminent
  | exceededRecovered :
      AggregateTransition .criticalTemperatureExceeded .criticalTemperatureRecovered
  | exceededShutdown : AggregateTransition .criticalTemperatureExceeded .criticalShutdownImminent
  | recoveredNormal : AggregateTransition .criticalTemperatureRecovered .normal
  | recoveredExceeded :
      AggregateTransition .criticalTemperatureRecovered .criticalTemperatureExceeded
  | recoveredShutdown : AggregateTransition .criticalTemperatureRecovered .criticalShutdownImminent

/-- The temperatures that account for a state, by the thresholds of one sensor. -/
def ThermalTriggers.Explains (triggers : ThermalTriggers) (t : ℚ) : State → Prop
  | .criticalShutdownImminent => triggers.enteringCriticalShutdownCelsius ≤ t
  | .criticalTemperatureExceeded =>
      triggers.criticalTemperatureExceededCelsius ≤ t ∧ t < triggers.enteringCriticalShutdownCelsius
  | .criticalTemperatureRecovered => t ≤ triggers.criticalTemperatureRecoveredCelsius
  | .normal => t < triggers.criticalTemperatureExceededCelsius

theorem AggregateTransition.ne {a b : State} (h : AggregateTransition a b) : a ≠ b := by
  cases h <;> decide

theorem not_aggregateTransition_shutdown (b : State) :
    ¬ AggregateTransition .criticalShutdownImminent b := by
  intro h
  cases h

namespace AggregateTransition

theorem to_shutdown {a : State} (h : a ≠ .criticalShutdownImminent) :
    AggregateTransition a .criticalShutdownImminent := by
  cases a with
  | normal => exact .normalShutdown
  | criticalTemperatureExceeded => exact .exceededShutdown
  | criticalTemperatureRecovered => exact .recoveredShutdown
  | criticalShutdownImminent => exact absurd rfl h

theorem to_exceeded {a : State} (h : a ≠ .criticalShutdownImminent)
    (hne : a ≠ .criticalTemperatureExceeded) :
    AggregateTransition a .criticalTemperatureExceeded := by
  cases a with
  | normal => exact .normalExceeded
  | criticalTemperatureExceeded => exact absurd rfl hne
  | criticalTemperatureRecovered => exact .recoveredExceeded
  | criticalShutdownImminent => exact absurd rfl h

theorem to_normal {a : State} (h : isActiveCriticalTemperatureState a = false)
    (hne : a ≠ .normal) : AggregateTransition a .normal := by
  cases a with
  | normal => exact absurd rfl hne
  | criticalTemperatureExceeded => exact Bool.noConfusion h
  | criticalTemperatureRecovered => exact .recoveredNormal
  | criticalShutdownImminent => exact Bool.noConfusion h

end AggregateTransition

/-! ## One sensor among many -/

section Fold

variable {states : List State} {i : ℕ} {before after : State}

/-- **The unique hottest sensor.** When the fold changes below the latch, it becomes the
new state of the sensor that changed: a rise is that sensor's, and in a fall that sensor
alone held the old value, so it was active or recovered and cannot skip a step. -/
theorem worst_set_eq {triggers : ThermalTriggers} {t : ℚ} (hi : states[i]? = some before)
    (hspec : Evaluation triggers before t after) (hcold : worst states ≠ .criticalShutdownImminent)
    (hne : worst (states.set i after) ≠ worst states) : worst (states.set i after) = after := by
  have hlt : i < states.length := (List.getElem?_eq_some_iff.mp hi).1
  have hle : after ≤ worst (states.set i after) := le_worst_set hlt after
  rcases lt_or_gt_of_ne hne with hfall | hrise
  · have hbefore : before = worst states := by
      have hget := getElem?_of_worst_set_lt hfall
      rw [hi] at hget
      exact Option.some.inj hget
    rw [← hbefore] at hfall hcold
    generalize worst (states.set i after) = fold at hfall hle ⊢
    revert hle hfall hcold
    -- what is left is about three states: only one step of one sensor is possible
    cases hspec with
    | shutdown hs => cases before <;> cases fold <;> decide
    | exceeded hs he => cases before <;> cases fold <;> decide
    | cooling hs he ha hr => cases before <;> cases fold <;> revert ha <;> decide
    | recovered hs he ha hr => cases before <;> cases fold <;> revert ha <;> decide
    | normal hs he ha => cases before <;> cases fold <;> revert ha <;> decide
  · exact worst_set_of_lt hrise

/-- **A change of the fold is an edge, and the sample explains it.** -/
theorem worst_set_transition {triggers : ThermalTriggers} {t : ℚ} (hi : states[i]? = some before)
    (hspec : Evaluation triggers before t after) (hcold : worst states ≠ .criticalShutdownImminent)
    (hne : worst (states.set i after) ≠ worst states) :
    AggregateTransition (worst states) after ∧ triggers.Explains t after := by
  have heq := worst_set_eq hi hspec hcold hne
  rw [heq] at hne
  have hbefore : before ≤ worst states := le_worst (List.mem_of_getElem? hi)
  -- an active sensor below the latch makes the fold exceeded
  have hactive : isActiveCriticalTemperatureState before = true →
      worst states = .criticalTemperatureExceeded := by
    intro ha
    have hle : State.criticalTemperatureExceeded ≤ worst states :=
      (isActive_iff.mp ha).trans hbefore
    revert hle hcold
    cases worst states <;> decide
  cases hspec with
  | shutdown hs => exact ⟨.to_shutdown hcold, hs⟩
  | exceeded hs he => exact ⟨.to_exceeded hcold hne.symm, he, hs⟩
  | cooling hs he ha hr => exact absurd (hactive ha).symm hne
  | recovered hs he ha hr =>
    rw [hactive ha]
    exact ⟨.exceededRecovered, hr⟩
  | normal hs he ha =>
    -- the fold fell, so the sampled sensor held it
    have hfall : worst (states.set i .normal) < worst states := by
      rw [heq]
      exact bot_lt_iff_ne_bot.mpr hne.symm
    have hget := getElem?_of_worst_set_lt hfall
    rw [hi, Option.some.injEq] at hget
    rw [← hget] at hne ⊢
    exact ⟨.to_normal ha hne.symm, he⟩

end Fold

/-! ## The event of one accepted sample -/

namespace ThermalSensor

variable {s : ThermalSensor} {i : ℕ} {it : SensorRuntime} {t : ℚ} {ts : ℤ}

/-- A change of the aggregate, in one step of the policy. -/
theorem Aggregated.accept_changed (h : s.Aggregated) (hit : s.sensors[i]? = some it)
    (hne : (s.accept i t ts).1.currentState ≠ s.currentState) :
    (s.accept i t ts).1.currentState = evaluateSensorState it t ∧
      AggregateTransition s.currentState (evaluateSensorState it t) ∧
      it.config.triggers.Explains t (evaluateSensorState it t) := by
  have hcold : s.currentState ≠ .criticalShutdownImminent := by
    intro hc
    exact hne (by simp [accept, hc])
  have hbefore : s.currentState = worst (s.sensors.map SensorRuntime.state) := by
    rw [h.resolve_left hcold, aggregateOf_eq_worst]
  have hafter : (s.accept i t ts).1.currentState =
      worst ((s.sensors.map SensorRuntime.state).set i (evaluateSensorState it t)) := by
    have hcurrent : (s.accept i t ts).1.currentState =
        aggregateOf (s.accept i t ts).1.sensors := latch_of_ne hcold _
    rw [hcurrent, accept_sensors hit, aggregateOf_eq_worst, List.map_set]
    rfl
  have hi : (s.sensors.map SensorRuntime.state)[i]? = some it.state := by
    rw [List.getElem?_map, hit, Option.map_some]
  rw [hafter, hbefore] at hne
  rw [hbefore] at hcold
  rw [hafter, hbefore]
  have hspec := evaluateSensorState_spec it t
  exact ⟨worst_set_eq hi hspec hcold hne, worst_set_transition hi hspec hcold hne⟩

end ThermalSensor

/-! ## Runs -/

theorem mem_announced {event : ActionEvent} {effects : List Effect} :
    event ∈ announced effects ↔ .notifyListeners event ∈ effects := by
  rw [announced, List.mem_filterMap]
  constructor
  · intro h
    obtain ⟨effect, hmem, heq⟩ := h
    cases effect <;> simp_all [Effect.announced?]
  · intro h
    exact ⟨_, h, rfl⟩

/-- The states a sequence of calls announces. -/
def announcedStates (effects : List Effect) : List State :=
  (announced effects).map ActionEvent.state

theorem announcedStates_eq (effects : List Effect) :
    announcedStates effects =
      effects.filterMap fun effect => effect.announced?.map ActionEvent.state :=
  List.map_filterMap

/-- One request either announces nothing and keeps the aggregate, or announces the new
aggregate along an edge. -/
theorem announcedStates_emit {cfg : ThermalHfpConfig} {s : ThermalSensor}
    (hc : s.Configured cfg) (ha : s.Aggregated) (r : Request) :
    announcedStates (service.emit s r) = [] ∧ (service.next s r).currentState = s.currentState ∨
      announcedStates (service.emit s r) = [(service.next s r).currentState] ∧
        AggregateTransition s.currentState (service.next s r).currentState := by
  cases hr : r.accepted? cfg with
  | none =>
    obtain ⟨hpolicy, hevents⟩ := next_of_rejected hc hr
    left
    rw [announcedStates, hevents]
    exact ⟨rfl, congrArg PolicyState.currentState hpolicy⟩
  | some acc =>
    obtain ⟨i, t, ts⟩ := acc
    obtain ⟨it, hit⟩ := exists_of_accepted hc hr
    obtain ⟨hpolicy, hevents⟩ := next_of_accepted hc hr
    have hcurrent : (service.next s r).currentState = (s.accept i t ts).1.currentState :=
      congrArg PolicyState.currentState hpolicy
    rw [announcedStates, hevents, hcurrent]
    rcases haccept : s.accept i t ts with ⟨s', _ | event⟩
    · left
      exact ⟨rfl, ThermalSensor.accept_none haccept⟩
    · right
      obtain ⟨hnew, hne⟩ := ThermalSensor.accept_some haccept
      have hcurrent' : (s.accept i t ts).1.currentState = event.state :=
        (congrArg (fun x => x.1.currentState) haccept).trans hnew.symm
      obtain ⟨hstate, hedge, -⟩ := ha.accept_changed hit (hcurrent' ▸ hne)
      rw [← hstate, hcurrent'] at hedge
      rw [← hnew]
      exact ⟨rfl, hedge⟩

/-- A path along the edges ends at the imminent state. -/
theorem nil_of_isChain_shutdown {before after : List State}
    (h : List.IsChain AggregateTransition (before ++ .criticalShutdownImminent :: after)) :
    after = [] := by
  cases after with
  | nil => rfl
  | cons state rest =>
    have htail := (List.isChain_append.mp h).2.1
    exact absurd (List.isChain_cons_cons.mp htail).1 (not_aggregateTransition_shutdown state)

/-- **The aggregate transition protocol.** Over every run, the initial state followed by
the announced ones follows the edges of `AggregateTransition`, so it never repeats a
state, and nothing is announced after a shutdown. -/
theorem aggregate_transition_protocol (cfg : ThermalHfpConfig) (steadyClockMs : ℤ)
    (requests : List Request) :
    let states := .normal ::
      announcedStates (service.trace (initializeSensors cfg steadyClockMs) requests)
    List.IsChain AggregateTransition states ∧
      List.IsChain (· ≠ ·) states ∧
      ∀ before after, states = before ++ .criticalShutdownImminent :: after → after = [] := by
  intro states
  have hpath : List.IsChain AggregateTransition states := by
    have h := Machine.isChain_observed (M := service) (R := AggregateTransition)
      (P := fun s => s.Configured cfg ∧ s.Aggregated) ThermalSensor.currentState
      (fun effect => effect.announced?.map ActionEvent.state)
      (fun _ r h => ⟨configured_next h.1 r, aggregated_next h.1 h.2 r⟩)
      (fun s r h => by
        rw [← announcedStates_eq]
        exact announcedStates_emit h.1 h.2 r)
      ⟨configured_initializeSensors cfg steadyClockMs, aggregated_initializeSensors cfg _⟩ requests
    rwa [← announcedStates_eq] at h
  refine ⟨hpath, hpath.imp fun _ _ h => h.ne, ?_⟩
  intro before after heq
  rw [heq] at hpath
  exact nil_of_isChain_shutdown hpath

/-- **Every event is explained by the reading it carries.** An event that a sample emits in
a reachable state announces the new aggregate, which is the new state of the sensor whose
reading is attached, and that reading accounts for it. -/
theorem event_explained_by_reading {cfg : ThermalHfpConfig} {s : ThermalSensor}
    (h : s.Reachable cfg) (env : Environment) (sample : TemperatureSample) (event : ActionEvent)
    (hevent : .notifyListeners event ∈ (applyTemperatureSample env sample s).2) :
    ∃ i it, resolve cfg sample.sensorNameOrId = some i ∧
      (applyTemperatureSample env sample s).1.sensors[i]? = some it ∧
      event.temperatureReading = some it.reading ∧
      event.state = it.state ∧
      event.state = (applyTemperatureSample env sample s).1.currentState ∧
      it.config.triggers.Explains it.reading.temperatureCelsius event.state := by
  rw [← mem_announced] at hevent
  change event ∈ announced (service.emit s (.sample sample env)) at hevent
  have hc := h.configured
  cases hr : (Request.sample sample env).accepted? cfg with
  | none =>
    rw [(next_of_rejected hc hr).2] at hevent
    exact absurd hevent List.not_mem_nil
  | some acc =>
    obtain ⟨i, t, ts⟩ := acc
    obtain ⟨it, hit⟩ := exists_of_accepted hc hr
    obtain ⟨hpolicy, hevents⟩ := next_of_accepted hc hr
    have hsensors : (service.next s (.sample sample env)).sensors = (s.accept i t ts).1.sensors :=
      congrArg PolicyState.sensors hpolicy
    have hcurrent : (service.next s (.sample sample env)).currentState =
        (s.accept i t ts).1.currentState := congrArg PolicyState.currentState hpolicy
    rw [hevents, Option.mem_toList] at hevent
    obtain ⟨hne, rfl⟩ := (ThermalSensor.accept_event_eq_some hit).mp hevent
    obtain ⟨hstate, -, hexplains⟩ := h.aggregated.accept_changed hit hne
    refine ⟨i, it.sampled t ts, ?_, ?_, rfl, hstate, hcurrent.symm, ?_⟩
    · exact (acceptedSample?_eq_some.mp (Request.accepted?_sample_eq_some.mp hr).1).1
    · change (service.next s (.sample sample env)).sensors[i]? = _
      rw [hsensors]
      exact ThermalSensor.accept_getElem? hit t ts
    · rw [hstate]
      exact hexplains

theorem event_explained_by_reading_board :
    ∃ i it, resolve boardProfile "board" = some i ∧
      (applyTemperatureSample (.quiet 0) ⟨"board", .finite 71, 1⟩
        (initializeSensors boardProfile 0)).1.sensors[i]? = some it ∧
      some (makeReadingFromConfig boardSensor 71 1) = some it.reading ∧
      .criticalTemperatureExceeded = it.state ∧
      .criticalTemperatureExceeded = (applyTemperatureSample (.quiet 0) ⟨"board", .finite 71, 1⟩
        (initializeSensors boardProfile 0)).1.currentState ∧
      it.config.triggers.Explains it.reading.temperatureCelsius .criticalTemperatureExceeded :=
  event_explained_by_reading ⟨0, Machine.reachable_refl _ _⟩ (.quiet 0) ⟨"board", .finite 71, 1⟩
    ⟨.criticalTemperatureExceeded, 1, some (makeReadingFromConfig boardSensor 71 1)⟩
    (by decide +kernel)

end ThermalHal
