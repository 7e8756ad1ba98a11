import ThermalHal.Sensor.Run

/-!
# The aggregate along a run

`Evaluation` lists what the policy can make of one sample of one sensor.
`ThermalSensor.Aggregated` is the invariant that ties the aggregate to the stored
states: it is their fold, unless the latch holds it.

## Main definitions

* `Evaluation` — the outcomes of `evaluateSensorState`, one constructor per branch.
* `MostSevere` — the aggregate of a list of states, by `stateSeverity`.
* `ThermalSensor.Aggregated` — the invariant; `ThermalSensor.Reachable.aggregated`.
-/

namespace ThermalHal

open Lib

/-! ## One sensor -/

/-- What a sample makes of a sensor whose stored state is `before`. -/
inductive Evaluation (triggers : ThermalTriggers) (before : State) (t : ℚ) : State → Prop
  | shutdown (hs : triggers.enteringCriticalShutdownCelsius ≤ t) :
      Evaluation triggers before t .criticalShutdownImminent
  | exceeded (hs : t < triggers.enteringCriticalShutdownCelsius)
      (he : triggers.criticalTemperatureExceededCelsius ≤ t) :
      Evaluation triggers before t .criticalTemperatureExceeded
  | cooling (hs : t < triggers.enteringCriticalShutdownCelsius)
      (he : t < triggers.criticalTemperatureExceededCelsius)
      (ha : isActiveCriticalTemperatureState before = true)
      (hr : triggers.criticalTemperatureRecoveredCelsius < t) :
      Evaluation triggers before t .criticalTemperatureExceeded
  | recovered (hs : t < triggers.enteringCriticalShutdownCelsius)
      (he : t < triggers.criticalTemperatureExceededCelsius)
      (ha : isActiveCriticalTemperatureState before = true)
      (hr : t ≤ triggers.criticalTemperatureRecoveredCelsius) :
      Evaluation triggers before t .criticalTemperatureRecovered
  | normal (hs : t < triggers.enteringCriticalShutdownCelsius)
      (he : t < triggers.criticalTemperatureExceededCelsius)
      (ha : isActiveCriticalTemperatureState before = false) :
      Evaluation triggers before t .normal

theorem evaluateSensorState_spec (it : SensorRuntime) (t : ℚ) :
    Evaluation it.config.triggers it.state t (evaluateSensorState it t) := by
  unfold evaluateSensorState
  dsimp only
  split_ifs with hs he ha hr
  · exact .shutdown hs
  · exact .exceeded (not_le.mp hs) he
  · exact .recovered (not_le.mp hs) (not_le.mp he) ha hr
  · exact .cooling (not_le.mp hs) (not_le.mp he) ha (not_le.mp hr)
  · exact .normal (not_le.mp hs) (not_le.mp he) (Bool.not_eq_true _ ▸ ha)

/-- The imminent state is decided by the sample alone. -/
theorem evaluateSensorState_eq_shutdown_iff (it : SensorRuntime) (t : ℚ) :
    evaluateSensorState it t = .criticalShutdownImminent ↔
      it.config.triggers.enteringCriticalShutdownCelsius ≤ t := by
  have hspec := evaluateSensorState_spec it t
  generalize evaluateSensorState it t = after at hspec
  cases hspec with
  | shutdown hs => simp [hs]
  | exceeded hs he => simp [hs]
  | cooling hs he ha hr => simp [hs]
  | recovered hs he ha hr => simp [hs]
  | normal hs he ha => simp [hs]

/-! ## The fold -/

/-- The most severe of a list of states, `normal` when there is none. -/
def MostSevere (state : State) (states : List State) : Prop :=
  (∀ x ∈ states, stateSeverity x ≤ stateSeverity state) ∧
    (state ∈ states ∨ states = [] ∧ state = .normal)

theorem aggregateOf_eq_worst (sensors : List SensorRuntime) :
    aggregateOf sensors = worst (sensors.map SensorRuntime.state) := by
  rw [aggregateOf, worst, List.foldl_map]
  simp only [moreSevere_eq_max, State.bot_eq]

theorem mostSevere_aggregateOf (sensors : List SensorRuntime) :
    MostSevere (aggregateOf sensors) (sensors.map SensorRuntime.state) := by
  rw [aggregateOf_eq_worst]
  refine ⟨fun x hx => State.le_iff.mp (le_worst hx), ?_⟩
  by_cases hnil : sensors.map SensorRuntime.state = []
  · right
    rw [hnil]
    exact ⟨rfl, rfl⟩
  · exact Or.inl (worst_mem_of_ne_nil hnil)

theorem state_le_aggregateOf {sensors : List SensorRuntime} {it : SensorRuntime}
    (h : it ∈ sensors) : it.state ≤ aggregateOf sensors := by
  rw [aggregateOf_eq_worst]
  exact le_worst (List.mem_map_of_mem h)

/-- The fold reaches the imminent state exactly when some record has it. -/
theorem aggregateOf_eq_shutdown_iff (sensors : List SensorRuntime) :
    aggregateOf sensors = .criticalShutdownImminent ↔
      ∃ it ∈ sensors, it.state = .criticalShutdownImminent := by
  constructor
  · intro h
    have hmem : aggregateOf sensors ∈ sensors.map SensorRuntime.state := by
      rw [aggregateOf_eq_worst]
      apply worst_mem
      rw [← aggregateOf_eq_worst, h]
      decide
    rw [h] at hmem
    exact List.mem_map.mp hmem
  · intro h
    obtain ⟨it, hit, hstate⟩ := h
    have hle := state_le_aggregateOf hit
    rw [hstate] at hle
    exact le_antisymm (State.le_shutdown _) hle

/-! ## The invariant -/

/-- The aggregate is the fold of the stored states, or latched. -/
def ThermalSensor.Aggregated (s : ThermalSensor) : Prop :=
  s.currentState = .criticalShutdownImminent ∨ s.currentState = aggregateOf s.sensors

theorem ThermalSensor.Aggregated.of_policy_eq {s s' : ThermalSensor} (h : s.Aggregated)
    (heq : s'.policy = s.policy) : s'.Aggregated := by
  have hsensors : s'.sensors = s.sensors := congrArg PolicyState.sensors heq
  have hcurrent : s'.currentState = s.currentState := congrArg PolicyState.currentState heq
  rw [Aggregated, hsensors, hcurrent]
  exact h

theorem ThermalSensor.aggregated_accept (s : ThermalSensor) (i : ℕ) (t : ℚ) (ts : ℤ) :
    (s.accept i t ts).1.Aggregated := by
  unfold Aggregated accept
  by_cases h : s.currentState = .criticalShutdownImminent
  · left
    simp only [h, latch_shutdown]
  · right
    exact latch_of_ne h _

theorem ThermalSensor.Aggregated.state_le {s : ThermalSensor} (h : s.Aggregated)
    {it : SensorRuntime} (hit : it ∈ s.sensors) : it.state ≤ s.currentState := by
  rcases h with h | h
  · rw [h]
    exact State.le_shutdown _
  · rw [h]
    exact state_le_aggregateOf hit

theorem aggregated_next {cfg : ThermalHfpConfig} {s : ThermalSensor} (hc : s.Configured cfg)
    (h : s.Aggregated) (r : Request) : (service.next s r).Aggregated := by
  cases hr : r.accepted? cfg with
  | none => exact h.of_policy_eq (next_of_rejected hc hr).1
  | some acc =>
    obtain ⟨i, t, ts⟩ := acc
    exact (s.aggregated_accept i t ts).of_policy_eq (next_of_accepted hc hr).1

theorem aggregated_initializeSensors (cfg : ThermalHfpConfig) (steadyClockMs : ℤ) :
    (initializeSensors cfg steadyClockMs).Aggregated := by
  right
  have hle : aggregateOf (initializeSensors cfg steadyClockMs).sensors ≤ .normal := by
    rw [aggregateOf_eq_worst]
    apply worst_le
    intro x hx
    simp only [initializeSensors, List.map_map, List.mem_map, Function.comp_apply] at hx
    obtain ⟨config, -, rfl⟩ := hx
    exact le_rfl
  exact (le_bot_iff.mp hle).symm

/-- Both invariants hold of every reachable state. -/
theorem ThermalSensor.Reachable.aggregated {cfg : ThermalHfpConfig} {s : ThermalSensor}
    (h : s.Reachable cfg) : s.Aggregated := by
  obtain ⟨steadyClockMs, hs⟩ := h
  have hboth : s.Configured cfg ∧ s.Aggregated :=
    hs.invariant (P := fun s : ThermalSensor => s.Configured cfg ∧ s.Aggregated)
      (fun _ r hs => ⟨configured_next hs.1 r, aggregated_next hs.1 hs.2 r⟩)
      ⟨configured_initializeSensors cfg _, aggregated_initializeSensors cfg _⟩
  exact hboth.2

/-! ## An accepted sample -/

namespace ThermalSensor

variable {cfg : ThermalHfpConfig} {s : ThermalSensor} {i : ℕ} {it : SensorRuntime}

/-- **The aggregate becomes imminent by this very sample**, or was imminent before. -/
theorem Aggregated.accept_eq_shutdown_iff (h : s.Aggregated) (hit : s.sensors[i]? = some it)
    (t : ℚ) (ts : ℤ) :
    (s.accept i t ts).1.currentState = .criticalShutdownImminent ↔
      s.currentState = .criticalShutdownImminent ∨
        it.config.triggers.enteringCriticalShutdownCelsius ≤ t := by
  by_cases hc : s.currentState = .criticalShutdownImminent
  · simp [accept, hc]
  · have hagg : aggregateOf s.sensors ≠ .criticalShutdownImminent := by
      rw [← h.resolve_left hc]
      exact hc
    have hcold : ∀ x ∈ s.sensors, x.state ≠ .criticalShutdownImminent := by
      intro x hx hstate
      exact hagg ((aggregateOf_eq_shutdown_iff _).mpr ⟨x, hx, hstate⟩)
    have hcurrent : (s.accept i t ts).1.currentState =
        aggregateOf (s.accept i t ts).1.sensors := latch_of_ne hc _
    rw [hcurrent, aggregateOf_eq_shutdown_iff, accept_sensors hit,
      ← evaluateSensorState_eq_shutdown_iff]
    constructor
    · intro hex
      obtain ⟨x, hx, hstate⟩ := hex
      rcases List.mem_or_eq_of_mem_set hx with hx | rfl
      · exact absurd hstate (hcold x hx)
      · exact Or.inr hstate
    · intro hor
      have hstate := hor.resolve_left hc
      exact ⟨it.sampled t ts, List.mem_set (List.getElem?_eq_some_iff.mp hit).1 _, hstate⟩

end ThermalSensor

/-! ## The records along a run -/

section Records

variable {cfg : ThermalHfpConfig} {s : ThermalSensor} {r : Request}

/-- An accepted sample replaces the record of its sensor. -/
theorem next_getElem? (hc : s.Configured cfg) {i : ℕ} {t : ℚ} {ts : ℤ} {it : SensorRuntime}
    (hr : r.accepted? cfg = some (i, t, ts)) (hit : s.sensors[i]? = some it) :
    (service.next s r).sensors[i]? = some (it.sampled t ts) := by
  have hsensors : (service.next s r).sensors = (s.accept i t ts).1.sensors :=
    congrArg PolicyState.sensors (next_of_accepted hc hr).1
  rw [hsensors]
  exact ThermalSensor.accept_getElem? hit t ts

/-- A request leaves every record alone but that of a sensor it has a sample accepted for. -/
theorem next_getElem?_ne (hc : s.Configured cfg) {j : ℕ}
    (hr : ∀ t ts, r.accepted? cfg ≠ some (j, t, ts)) :
    (service.next s r).sensors[j]? = s.sensors[j]? := by
  cases hacc : r.accepted? cfg with
  | none =>
    have hsensors : (service.next s r).sensors = s.sensors :=
      congrArg PolicyState.sensors (next_of_rejected hc hacc).1
    rw [hsensors]
  | some acc =>
    obtain ⟨i, t, ts⟩ := acc
    have hij : i ≠ j := fun h => hr t ts (h ▸ hacc)
    have hsensors : (service.next s r).sensors = (s.accept i t ts).1.sensors :=
      congrArg PolicyState.sensors (next_of_accepted hc hacc).1
    rw [hsensors]
    exact ThermalSensor.accept_getElem?_ne t ts hij

/-- The temperature of an accepted request is in the range of its sensor. -/
theorem range_of_accepted {i : ℕ} {t : ℚ} {ts : ℤ} {config : ThermalSensorConfig}
    (hr : r.accepted? cfg = some (i, t, ts)) (hconfig : cfg.sensors[i]? = some config) :
    config.sensorReadingRangeCelsius.min ≤ t ∧ t ≤ config.sensorReadingRangeCelsius.max := by
  cases r with
  | registry call => simp [Request.accepted?] at hr
  | sample input env =>
    have hacc := (Request.accepted?_sample_eq_some.mp hr).1
    obtain ⟨-, -, found, hfound, hrange⟩ := acceptedSample?_eq_some.mp hacc
    rw [hconfig, Option.some.injEq] at hfound
    rw [hfound]
    exact hrange

/-- A property of single records that every sample in range keeps is kept by every request. -/
theorem forall_records_next {P : SensorRuntime → Prop} (hc : s.Configured cfg)
    (hstep : ∀ it t ts, it.config.sensorReadingRangeCelsius.min ≤ t →
      t ≤ it.config.sensorReadingRangeCelsius.max → P it → P (it.sampled t ts))
    (h : ∀ it ∈ s.sensors, P it) (r : Request) : ∀ it ∈ (service.next s r).sensors, P it := by
  intro it hmem
  obtain ⟨j, hj⟩ := List.mem_iff_getElem?.mp hmem
  by_cases hr : ∃ t ts, r.accepted? cfg = some (j, t, ts)
  · obtain ⟨t, ts, hr⟩ := hr
    obtain ⟨old, hold⟩ := exists_of_accepted hc hr
    have hrange := range_of_accepted hr (hc.config_eq hold)
    rw [next_getElem? hc hr hold, Option.some.injEq] at hj
    rw [← hj]
    exact hstep old t ts hrange.1 hrange.2 (h old (List.mem_of_getElem? hold))
  · have hr' : ∀ t ts, r.accepted? cfg ≠ some (j, t, ts) := fun t ts heq => hr ⟨t, ts, heq⟩
    rw [next_getElem?_ne hc hr'] at hj
    exact h it (List.mem_of_getElem? hj)

/-- **Invariants of single records.** -/
theorem ThermalSensor.Reachable.forall_records {P : SensorRuntime → Prop} (hs : s.Reachable cfg)
    (hinit : ∀ steadyClockMs, ∀ config ∈ cfg.sensors, P (initialRuntime steadyClockMs config))
    (hstep : ∀ it t ts, it.config.sensorReadingRangeCelsius.min ≤ t →
      t ≤ it.config.sensorReadingRangeCelsius.max → P it → P (it.sampled t ts)) :
    ∀ it ∈ s.sensors, P it := by
  obtain ⟨steadyClockMs, hs⟩ := hs
  have hboth : s.Configured cfg ∧ ∀ it ∈ s.sensors, P it := by
    refine hs.invariant (P := fun s : ThermalSensor => s.Configured cfg ∧ ∀ it ∈ s.sensors, P it)
      (fun _ r h => ⟨configured_next h.1 r, forall_records_next h.1 hstep h.2 r⟩)
      ⟨configured_initializeSensors cfg _, ?_⟩
    intro it hmem
    obtain ⟨config, hconfig, rfl⟩ := List.mem_map.mp hmem
    exact hinit _ config hconfig
  exact hboth.2

end Records

end ThermalHal
