import ThermalHal.Sensor.History

/-!
# Reported temperatures and reported states

A client reads temperatures and states separately. For a sensor that has been sampled
the two agree, whatever the sample was. Before its first sample a sensor reports a
temperature made up from its operational range together with `normal`, and nothing
relates the operational range to the triggers.

## Main definitions

* `SensorRuntime.Agrees` — the stored state is the one the reading calls for.
* `agrees_iff` — which sensors agree after a run.
* `ReadingsInRange`, `readingsInRange_iff` — when no reading leaves the measurable range.
-/

namespace ThermalHal

open Lib

/-- The stored state is the one the reading calls for. -/
structure SensorRuntime.Agrees (it : SensorRuntime) : Prop where
  imminent : it.config.triggers.enteringCriticalShutdownCelsius ≤ it.reading.temperatureCelsius →
    it.state = .criticalShutdownImminent
  exceeded : it.config.triggers.criticalTemperatureExceededCelsius ≤
      it.reading.temperatureCelsius →
    it.reading.temperatureCelsius < it.config.triggers.enteringCriticalShutdownCelsius →
    it.state = .criticalTemperatureExceeded
  recovered : it.reading.temperatureCelsius ≤
      it.config.triggers.criticalTemperatureRecoveredCelsius →
    it.state = .normal ∨ it.state = .criticalTemperatureRecovered

/-! ## One record -/

section Record

variable {it : SensorRuntime}

/-- After a sample the two agree. -/
theorem agrees_sampled (hvalid : it.config.Valid) (t : ℚ) (ts : ℤ) : (it.sampled t ts).Agrees := by
  have hlow := hvalid.recovered_lt
  have hhigh := hvalid.exceeded_lt
  have hspec := evaluateSensorState_spec it t
  constructor
  · intro h
    exact (evaluateSensorState_eq_shutdown_iff it t).mpr h
  · intro h h'
    change it.config.triggers.criticalTemperatureExceededCelsius ≤ t at h
    change t < it.config.triggers.enteringCriticalShutdownCelsius at h'
    change evaluateSensorState it t = .criticalTemperatureExceeded
    generalize evaluateSensorState it t = after at hspec ⊢
    cases hspec with
    | shutdown hs => exact absurd hs (not_le.mpr h')
    | exceeded hs he => rfl
    | cooling hs he ha hr => rfl
    | recovered hs he ha hr => exact absurd h (not_le.mpr he)
    | normal hs he ha => exact absurd h (not_le.mpr he)
  · intro h
    change t ≤ it.config.triggers.criticalTemperatureRecoveredCelsius at h
    change evaluateSensorState it t = .normal ∨
      evaluateSensorState it t = .criticalTemperatureRecovered
    generalize evaluateSensorState it t = after at hspec ⊢
    cases hspec with
    | shutdown hs => exact absurd (h.trans_lt (hlow.trans hhigh)) (not_lt.mpr hs)
    | exceeded hs he => exact absurd (h.trans_lt hlow) (not_lt.mpr he)
    | cooling hs he ha hr => exact absurd h (not_le.mpr hr)
    | recovered hs he ha hr => exact Or.inr rfl
    | normal hs he ha => exact Or.inl rfl

/-- A record in the normal state agrees with any reading below the exceeded threshold. -/
theorem agrees_iff_of_normal (hvalid : it.config.Valid) (hstate : it.state = .normal) :
    it.Agrees ↔
      it.reading.temperatureCelsius < it.config.triggers.criticalTemperatureExceededCelsius := by
  constructor
  · intro h
    by_contra hge
    rw [not_lt] at hge
    by_cases hs : it.config.triggers.enteringCriticalShutdownCelsius ≤ it.reading.temperatureCelsius
    · exact State.noConfusion (hstate.symm.trans (h.imminent hs))
    · exact State.noConfusion (hstate.symm.trans (h.exceeded hge (not_le.mp hs)))
  · intro h
    constructor
    · intro hs
      exact absurd (h.trans hvalid.exceeded_lt) (not_lt.mpr hs)
    · intro he _
      exact absurd h (not_lt.mpr he)
    · intro _
      exact Or.inl hstate

end Record

/-! ## Runs -/

/-- Every record is as the history of its sensor left it: untouched since start-up, or
agreeing with its last sample. -/
def Settled (cfg : ThermalHfpConfig) (requests : List Request) (s : ThermalSensor) : Prop :=
  ∀ i it, s.sensors[i]? = some it →
    (acceptedTemperatures cfg requests i = [] → it.state = .normal ∧
      it.reading.temperatureCelsius = initialTemperatureForSensor it.config) ∧
    (acceptedTemperatures cfg requests i ≠ [] → it.Agrees)

theorem settled_initializeSensors (cfg : ThermalHfpConfig) (steadyClockMs : ℤ) :
    Settled cfg [] (initializeSensors cfg steadyClockMs) := by
  intro i it hit
  obtain ⟨config, -, rfl⟩ := List.mem_map.mp (List.mem_of_getElem? hit)
  exact ⟨fun _ => ⟨rfl, rfl⟩, fun h => absurd rfl h⟩

theorem settled_next {cfg : ThermalHfpConfig} (hcfg : cfg.Valid) {requests : List Request}
    {s : ThermalSensor} (hc : s.Configured cfg) (h : Settled cfg requests s) (r : Request) :
    Settled cfg (requests ++ [r]) (service.next s r) := by
  refine forall_records_concat (P := fun temperatures it =>
    (temperatures = [] → it.state = .normal ∧
      it.reading.temperatureCelsius = initialTemperatureForSensor it.config) ∧
    (temperatures ≠ [] → it.Agrees)) hc ?_ h r
  intro temperatures it t ts hmem _
  refine ⟨fun hnil => absurd hnil (by simp), fun _ => ?_⟩
  exact agrees_sampled (hcfg.sensors _ hmem) t ts

theorem settled_state {cfg : ThermalHfpConfig} (hcfg : cfg.Valid) (steadyClockMs : ℤ)
    (requests : List Request) :
    Settled cfg requests (service.state (initializeSensors cfg steadyClockMs) requests) :=
  Machine.history_induction (settled_initializeSensors cfg steadyClockMs)
    (fun requests r h => settled_next hcfg (configured_state cfg steadyClockMs requests) h r)
    requests

/-- **Reported temperatures and reported states agree** for exactly the sensors that have
been sampled or whose start-up temperature is below their exceeded threshold; a reading at
or below the recovery threshold always does, no stored state is more severe than the
aggregate, and a sensor is in the normal state, at its start-up temperature, until it is
sampled. -/
theorem agrees_iff {cfg : ThermalHfpConfig} (hcfg : Accepted cfg) (steadyClockMs : ℤ)
    (requests : List Request) :
    let s := service.state (initializeSensors cfg steadyClockMs) requests
    (∀ i it, s.sensors[i]? = some it →
      (it.Agrees ↔ acceptedTemperatures cfg requests i ≠ [] ∨
        initialTemperatureForSensor it.config <
          it.config.triggers.criticalTemperatureExceededCelsius)) ∧
    (∀ it ∈ s.sensors,
      it.reading.temperatureCelsius ≤ it.config.triggers.criticalTemperatureRecoveredCelsius →
        it.state = .normal ∨ it.state = .criticalTemperatureRecovered) ∧
    (∀ it ∈ s.sensors, stateSeverity it.state ≤ stateSeverity (getCurrentThermalState s)) ∧
    (∀ i it, s.sensors[i]? = some it → acceptedTemperatures cfg requests i = [] →
      it.state = .normal ∧
        it.reading.temperatureCelsius = initialTemperatureForSensor it.config) := by
  intro s
  have hc : s.Configured cfg := configured_state cfg steadyClockMs requests
  have hsettled := settled_state hcfg.valid steadyClockMs requests
  refine ⟨?_, ?_, ?_, fun i it hit => (hsettled i it hit).1⟩
  · intro i it hit
    have hvalid := hcfg.valid.sensors _ (hc.config_mem hit)
    by_cases hnil : acceptedTemperatures cfg requests i = []
    · obtain ⟨hstate, htemperature⟩ := (hsettled i it hit).1 hnil
      rw [agrees_iff_of_normal hvalid hstate, htemperature]
      simp [hnil]
    · exact iff_of_true ((hsettled i it hit).2 hnil) (Or.inl hnil)
  · intro it hmem hle
    obtain ⟨i, hit⟩ := List.mem_iff_getElem?.mp hmem
    by_cases hnil : acceptedTemperatures cfg requests i = []
    · exact Or.inl ((hsettled i it hit).1 hnil).1
    · exact ((hsettled i it hit).2 hnil).recovered hle
  · intro it hmem
    have hreachable : s.Reachable cfg := ⟨steadyClockMs, requests, rfl⟩
    exact State.le_iff.mp (hreachable.aggregated.state_le hmem)

theorem agrees_iff_board :
    ((initialRuntime 0 boardSensor).sampled 75 1).Agrees ↔
      acceptedTemperatures boardProfile [.sample ⟨"board", .finite 75, 1⟩ (.quiet 0)] 0 ≠ [] ∨
        initialTemperatureForSensor boardSensor < 70 :=
  (agrees_iff boardProfile_accepted 0 [.sample ⟨"board", .finite 75, 1⟩ (.quiet 0)]).1 0 _
    (by decide +kernel)

/-- A sensor that operates above its shutdown threshold. -/
def warmProfile : ThermalHfpConfig :=
  { sensors := [{ boardSensor with operationalTemperatureCelsius := ⟨70, 80⟩ }] }

theorem warmProfile_accepted : Accepted warmProfile :=
  Accepted.of_parse (.ofEntries
    [boardEntry.take 4 ++ ("operational_temperature_celsius.min", "70") ::
      ("operational_temperature_celsius.max", "80") :: boardEntry.drop 6])
    "hfp.yaml" (by decide +kernel)

/-- The parser accepts a profile whose sensor starts at 75 °C, above its shutdown threshold,
in the normal state. -/
theorem not_agrees_warm :
    ¬ ∀ cfg, Accepted cfg → ∀ s : ThermalSensor, s.Reachable cfg →
      (∀ it ∈ s.sensors, it.Agrees) ∧
        ∀ it ∈ s.sensors, stateSeverity it.state ≤ stateSeverity (getCurrentThermalState s) := by
  intro h
  have hs : (initializeSensors warmProfile 0).Reachable warmProfile :=
    ⟨0, Machine.reachable_refl _ _⟩
  have hagrees := (h _ warmProfile_accepted _ hs).1
    (initialRuntime 0 { boardSensor with operationalTemperatureCelsius := ⟨70, 80⟩ })
    List.mem_cons_self
  have himminent := hagrees.imminent (by decide +kernel)
  exact State.noConfusion himminent

/-! ## The measurable range -/

/-- In every reachable state, every reported temperature lies in the measurable range of its
sensor. -/
def ReadingsInRange (cfg : ThermalHfpConfig) : Prop :=
  ∀ s : ThermalSensor, s.Reachable cfg →
    ∀ (i : ℕ) (config : ThermalSensorConfig) (reading : TemperatureReading),
      cfg.sensors[i]? = some config → (getCurrentTemperatures s)[i]? = some reading →
        config.sensorReadingRangeCelsius.min ≤ reading.temperatureCelsius ∧
          reading.temperatureCelsius ≤ config.sensorReadingRangeCelsius.max

/-- No sensor with a one-point operational range and a recovery threshold at or below zero
measures negative temperatures only. Such a sensor starts at zero. -/
def FallbackInRange (cfg : ThermalHfpConfig) : Prop :=
  ∀ config ∈ cfg.sensors,
    config.operationalTemperatureCelsius.min = config.operationalTemperatureCelsius.max →
      config.triggers.criticalTemperatureRecoveredCelsius ≤ 0 →
        0 ≤ config.sensorReadingRangeCelsius.max

/-- The three branches of the start-up temperature, each with its condition. -/
inductive InitialTemperature (config : ThermalSensorConfig) : ℚ → Prop
  | midpoint (h : config.operationalTemperatureCelsius.min <
        config.operationalTemperatureCelsius.max) :
      InitialTemperature config (config.operationalTemperatureCelsius.min +
        (config.operationalTemperatureCelsius.max - config.operationalTemperatureCelsius.min) / 2)
  | recovered (h : config.operationalTemperatureCelsius.max ≤
        config.operationalTemperatureCelsius.min)
      (hr : 0 < config.triggers.criticalTemperatureRecoveredCelsius) :
      InitialTemperature config config.triggers.criticalTemperatureRecoveredCelsius
  | zero (h : config.operationalTemperatureCelsius.max ≤
        config.operationalTemperatureCelsius.min)
      (hr : config.triggers.criticalTemperatureRecoveredCelsius ≤ 0) :
      InitialTemperature config 0

theorem initialTemperature_spec (config : ThermalSensorConfig) :
    InitialTemperature config (initialTemperatureForSensor config) := by
  rw [initialTemperatureForSensor]
  split_ifs with h hr
  · exact .midpoint h
  · exact .recovered (not_lt.mp h) hr
  · exact .zero (not_lt.mp h) (not_lt.mp hr)

/-- The start-up temperature of a valid sensor is in its measurable range unless it is the
last fallback and the range is negative. -/
theorem initialTemperature_inRange {config : ThermalSensorConfig} (hvalid : config.Valid)
    (h : config.operationalTemperatureCelsius.min = config.operationalTemperatureCelsius.max →
      config.triggers.criticalTemperatureRecoveredCelsius ≤ 0 →
        0 ≤ config.sensorReadingRangeCelsius.max) :
    config.sensorReadingRangeCelsius.min ≤ initialTemperatureForSensor config ∧
      initialTemperatureForSensor config ≤ config.sensorReadingRangeCelsius.max := by
  have hmin := hvalid.measurable_min_le
  have hmax := hvalid.le_measurable_max
  have hlow := hvalid.min_le_recovered
  have hspec := initialTemperature_spec config
  generalize initialTemperatureForSensor config = t at hspec ⊢
  cases hspec with
  | midpoint hlt => constructor <;> linarith
  | recovered hle hr =>
    have hshutdown := hvalid.recovered_lt.trans hvalid.exceeded_lt
    exact ⟨hlow, hshutdown.le.trans hvalid.shutdown_le_max⟩
  | zero hle hr => exact ⟨hlow.trans hr, h (le_antisymm hvalid.operational_le hle) hr⟩

/-- **Readings stay in the measurable range exactly when the last fallback does.** -/
theorem readingsInRange_iff {cfg : ThermalHfpConfig} (hcfg : Accepted cfg) :
    ReadingsInRange cfg ↔ FallbackInRange cfg := by
  constructor
  · intro h config hmem hpoint hr
    obtain ⟨i, hi⟩ := List.mem_iff_getElem?.mp hmem
    have hs : (initializeSensors cfg 0).Reachable cfg := ⟨0, Machine.reachable_refl _ _⟩
    have hreading : (getCurrentTemperatures (initializeSensors cfg 0))[i]? =
        some (initialRuntime 0 config).reading := by
      simp [getCurrentTemperatures, initializeSensors, hi]
    have hrange := (h _ hs i config _ hi hreading).2
    have hzero : initialTemperatureForSensor config = 0 := by
      rw [initialTemperatureForSensor, if_neg hpoint.not_lt, if_neg (not_lt.mpr hr)]
    change initialTemperatureForSensor config ≤ _ at hrange
    rw [hzero] at hrange
    exact hrange
  · intro h s hs i config reading hconfig hreading
    have hrecords := hs.forall_records
      (P := fun it => it.config.sensorReadingRangeCelsius.min ≤ it.reading.temperatureCelsius ∧
        it.reading.temperatureCelsius ≤ it.config.sensorReadingRangeCelsius.max)
      (fun _ config hmem =>
        initialTemperature_inRange (hcfg.valid.sensors config hmem) (h config hmem))
      (fun _ _ _ hmin hmax _ => ⟨hmin, hmax⟩)
    rw [getCurrentTemperatures, List.getElem?_map, Option.map_eq_some_iff] at hreading
    obtain ⟨it, hit, rfl⟩ := hreading
    rw [hs.configured.config_eq hit, Option.some.injEq] at hconfig
    rw [← hconfig]
    exact hrecords it (List.mem_of_getElem? hit)

theorem readingsInRange_iff_board : ReadingsInRange boardProfile ↔ FallbackInRange boardProfile :=
  readingsInRange_iff boardProfile_accepted

/-- A freezer sensor with a one-point operational range. -/
def freezerProfile : ThermalHfpConfig :=
  { sensors := [{ boardSensor with
      sensorReadingRangeCelsius := ⟨-40, -10⟩
      operationalTemperatureCelsius := ⟨-20, -20⟩
      triggers := ⟨-15, -14, -12⟩ }] }

theorem freezerProfile_accepted : Accepted freezerProfile :=
  Accepted.of_parse (.ofEntries
    [boardEntry.take 2 ++ [("sensor_reading_range_celsius.min", "-40"),
      ("sensor_reading_range_celsius.max", "-10"),
      ("operational_temperature_celsius.min", "-20"),
      ("operational_temperature_celsius.max", "-20"),
      ("triggers.critical_temperature_recovered_celsius", "-15"),
      ("triggers.critical_temperature_exceeded_celsius", "-14"),
      ("triggers.entering_critical_shutdown_celsius", "-12")]])
    "hfp.yaml" (by decide +kernel)

/-- The freezer reports 0 °C at start-up, ten degrees above what its sensor can measure. -/
theorem not_readingsInRange_freezer : ¬ ∀ cfg, Accepted cfg → ReadingsInRange cfg := by
  intro h
  have hs : (initializeSensors freezerProfile 0).Reachable freezerProfile :=
    ⟨0, Machine.reachable_refl _ _⟩
  have hrange := (h _ freezerProfile_accepted _ hs 0 _ _ rfl rfl).2
  revert hrange
  decide +kernel

end ThermalHal
