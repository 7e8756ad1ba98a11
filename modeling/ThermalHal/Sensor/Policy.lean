import ThermalHal.Sensor.Service

/-!
# What one sample does

Which sensor a key resolves to and whether its sample is accepted depends on the
profile alone. `applyTemperatureSampleLocked_eq` describes the locked update in those
terms: a sample that is not accepted changes nothing, an accepted one replaces one
runtime record and refolds the aggregate. Everything later is derived from it.

## Main definitions

* `resolve`, `acceptedSample?` — the sensor and the temperature of an accepted sample.
* `ThermalSensor.Configured` — the runtime records belong to the profile.
* `SensorRuntime.sampled`, `latch` — the new record and the new aggregate.
* `Handling` — a whole sample, one constructor per branch of the source.
-/

namespace ThermalHal

/-- The sensor a key resolves to: the first one it matches. -/
def resolve (cfg : ThermalHfpConfig) (sensorNameOrId : String) : Option ℕ :=
  cfg.sensors.findIdx? fun config => config.matchesKey sensorNameOrId

/-- The sensor and the temperature of a sample that passes every check. -/
def acceptedSample? (cfg : ThermalHfpConfig) (sample : TemperatureSample) : Option (ℕ × ℚ) := do
  let i ← resolve cfg sample.sensorNameOrId
  let config ← cfg.sensors[i]?
  let t ← sample.temperatureCelsius.finite?
  if config.sensorReadingRangeCelsius.min ≤ t ∧ t ≤ config.sensorReadingRangeCelsius.max then
    some (i, t)
  else none

/-- The timestamp that is stored: the client's, unless it is negative. -/
def effectiveTimestampMs (steadyClockMs timestampMonotonicMs : ℤ) : ℤ :=
  if 0 ≤ timestampMonotonicMs then timestampMonotonicMs else monotonicTimestampMs steadyClockMs

/-- A runtime record after an accepted sample. -/
def SensorRuntime.sampled (it : SensorRuntime) (t : ℚ) (timestampMs : ℤ) : SensorRuntime where
  config := it.config
  reading := makeReadingFromConfig it.config t timestampMs
  state := evaluateSensorState it t

/-- The latch on the aggregate. -/
def latch (current aggregate : State) : State :=
  if current = .criticalShutdownImminent then .criticalShutdownImminent else aggregate

/-- The runtime records are those of the profile. -/
def ThermalSensor.Configured (cfg : ThermalHfpConfig) (s : ThermalSensor) : Prop :=
  s.sensors.map SensorRuntime.config = cfg.sensors

@[simp] theorem SensorRuntime.sampled_config (it : SensorRuntime) (t : ℚ) (ts : ℤ) :
    (it.sampled t ts).config = it.config := rfl
@[simp] theorem SensorRuntime.sampled_state (it : SensorRuntime) (t : ℚ) (ts : ℤ) :
    (it.sampled t ts).state = evaluateSensorState it t := rfl
@[simp] theorem SensorRuntime.sampled_reading (it : SensorRuntime) (t : ℚ) (ts : ℤ) :
    (it.sampled t ts).reading = makeReadingFromConfig it.config t ts := rfl

@[simp] theorem latch_shutdown (aggregate : State) :
    latch .criticalShutdownImminent aggregate = .criticalShutdownImminent := rfl
theorem latch_of_ne {current : State} (h : current ≠ .criticalShutdownImminent)
    (aggregate : State) : latch current aggregate = aggregate := if_neg h

/-- The latch as the source tests for it. -/
theorem latch_eq (current aggregate : State) :
    (if current = .criticalShutdownImminent ∧ aggregate ≠ .criticalShutdownImminent then
      .criticalShutdownImminent else aggregate) = latch current aggregate := by
  by_cases hc : current = .criticalShutdownImminent
  · by_cases ha : aggregate = .criticalShutdownImminent <;> simp [latch, hc, ha]
  · simp [latch, hc]

/-- The locked update for a sample of sensor `i` that passed every check. -/
def ThermalSensor.accept (s : ThermalSensor) (i : ℕ) (t : ℚ) (timestampMs : ℤ) :
    ThermalSensor × Option ActionEvent :=
  let sensors := s.sensors.modify i fun it => it.sampled t timestampMs
  let aggregate := latch s.currentState (aggregateOf sensors)
  ({ s with sensors, currentState := aggregate },
    if aggregate = s.currentState then none
    else some ⟨aggregate, timestampMs, sensors[i]?.map SensorRuntime.reading⟩)

/-- `accept` with the record written out, as the source updates it. -/
theorem ThermalSensor.accept_eq (s : ThermalSensor) {i : ℕ} (hi : i < s.sensors.length) (t : ℚ)
    (ts : ℤ) :
    (let sensors := s.sensors.set i (s.sensors[i].sampled t ts)
     let aggregate := latch s.currentState (aggregateOf sensors)
     if aggregate ≠ s.currentState then
       ({ s with sensors, currentState := aggregate },
         some ⟨aggregate, ts, some (makeReadingFromConfig s.sensors[i].config t ts)⟩)
     else ({ s with sensors }, none)) = s.accept i t ts := by
  have hmodify : s.sensors.modify i (fun it => it.sampled t ts) =
      s.sensors.set i (s.sensors[i].sampled t ts) := by
    rw [List.modify_eq_set_getElem?, List.getElem?_eq_getElem hi]
    rfl
  have hget : (s.sensors.set i (s.sensors[i].sampled t ts))[i]? =
      some (s.sensors[i].sampled t ts) := List.getElem?_set_self hi
  dsimp only
  rw [accept, hmodify]
  by_cases hagg : latch s.currentState
      (aggregateOf (s.sensors.set i (s.sensors[i].sampled t ts))) = s.currentState
  · simp [hagg]
  · simp [hagg, hget]

/-! ## Resolution -/

theorem resolve_eq_some_iff {cfg : ThermalHfpConfig} {key : String} {i : ℕ} :
    resolve cfg key = some i ↔ ∃ h : i < cfg.sensors.length,
      cfg.sensors[i].matchesKey key = true ∧
        ∀ j (hj : j < i), ¬ cfg.sensors[j].matchesKey key = true :=
  List.findIdx?_eq_some_iff_getElem

theorem matchesKey_iff {config : ThermalSensorConfig} {key : String} :
    config.matchesKey key = true ↔ config.sensorName = key ∨ config.id = key := by
  simp [ThermalSensorConfig.matchesKey]

theorem resolve_eq_none_iff {cfg : ThermalHfpConfig} {key : String} :
    resolve cfg key = none ↔ ∀ config ∈ cfg.sensors, config.matchesKey key = false :=
  List.findIdx?_eq_none_iff

theorem resolve_lt {cfg : ThermalHfpConfig} {key : String} {i : ℕ}
    (h : resolve cfg key = some i) : i < cfg.sensors.length := by
  obtain ⟨hi, -⟩ := resolve_eq_some_iff.mp h
  exact hi

/-- A key resolves to a sensor only if it is one of the sensor's two keys. -/
theorem key_of_resolve {cfg : ThermalHfpConfig} {key : String} {i : ℕ}
    (h : resolve cfg key = some i) :
    ∃ config, cfg.sensors[i]? = some config ∧ (config.sensorName = key ∨ config.id = key) := by
  obtain ⟨hi, hkey, -⟩ := resolve_eq_some_iff.mp h
  exact ⟨cfg.sensors[i], List.getElem?_eq_getElem hi, matchesKey_iff.mp hkey⟩

theorem acceptedSample?_eq_some {cfg : ThermalHfpConfig} {sample : TemperatureSample} {i : ℕ}
    {t : ℚ} :
    acceptedSample? cfg sample = some (i, t) ↔
      resolve cfg sample.sensorNameOrId = some i ∧ sample.temperatureCelsius = .finite t ∧
        ∃ config, cfg.sensors[i]? = some config ∧ config.sensorReadingRangeCelsius.min ≤ t ∧
          t ≤ config.sensorReadingRangeCelsius.max := by
  simp only [acceptedSample?, Option.bind_eq_bind, Option.bind_eq_some_iff,
    Option.ite_none_right_eq_some, Option.some.injEq, Prod.mk.injEq, Double.finite?_eq_some]
  constructor
  · intro h
    obtain ⟨j, hj, config, hconfig, u, hu, hrange, rfl, rfl⟩ := h
    exact ⟨hj, hu, config, hconfig, hrange⟩
  · intro h
    obtain ⟨hi, ht, config, hconfig, hrange⟩ := h
    exact ⟨i, hi, config, hconfig, t, ht, hrange, rfl, rfl⟩

/-! ## The locked update -/

namespace ThermalSensor.Configured

variable {cfg : ThermalHfpConfig} {s : ThermalSensor}

theorem length_eq (h : s.Configured cfg) : s.sensors.length = cfg.sensors.length := by
  rw [← List.length_map (f := SensorRuntime.config), h]

theorem config_eq (h : s.Configured cfg) {i : ℕ} {it : SensorRuntime}
    (hit : s.sensors[i]? = some it) : cfg.sensors[i]? = some it.config := by
  rw [← h, List.getElem?_map, hit, Option.map_some]

theorem config_mem (h : s.Configured cfg) {i : ℕ} {it : SensorRuntime}
    (hit : s.sensors[i]? = some it) : it.config ∈ cfg.sensors :=
  List.mem_of_getElem? (h.config_eq hit)

/-- The lookup over the runtime records finds what the key resolves to. -/
theorem findSensor_eq (h : s.Configured cfg) (key : String) :
    findSensor s.sensors key =
      (resolve cfg key).bind fun i => s.sensors[i]?.map fun it => (it, i) := by
  have hresolve : resolve cfg key = (findSensor s.sensors key).map Prod.snd := by
    rw [resolve, ← h, List.findIdx?_map, List.findIdx?_eq_fst_find?_zipIdx]
    rfl
  rw [hresolve]
  cases hfind : findSensor s.sensors key with
  | none => rfl
  | some found =>
    obtain ⟨it, i⟩ := found
    have hget : s.sensors[i]? = some it :=
      List.mk_mem_zipIdx_iff_getElem?.mp (List.mem_of_find?_eq_some hfind)
    simp [hget]

theorem findSensor_eq_none_iff (h : s.Configured cfg) {key : String} :
    findSensor s.sensors key = none ↔ resolve cfg key = none := by
  rw [h.findSensor_eq]
  cases hresolve : resolve cfg key with
  | none => simp
  | some i =>
    have hi : i < s.sensors.length := h.length_eq ▸ resolve_lt hresolve
    simp [hi]

end ThermalSensor.Configured

/-- **The locked update in terms of the profile.** A sample that is not accepted changes
nothing and announces nothing; an accepted one is `accept`. -/
theorem applyTemperatureSampleLocked_eq {cfg : ThermalHfpConfig} {s : ThermalSensor}
    (h : s.Configured cfg) (steadyClockMs : ℤ) (sample : TemperatureSample) :
    applyTemperatureSampleLocked steadyClockMs sample s =
      match acceptedSample? cfg sample with
      | none => (s, none)
      | some (i, t) =>
          s.accept i t (effectiveTimestampMs steadyClockMs sample.timestampMonotonicMs) := by
  rw [applyTemperatureSampleLocked, h.findSensor_eq]
  cases hresolve : resolve cfg sample.sensorNameOrId with
  | none => simp [acceptedSample?, hresolve]
  | some i =>
    have hi : i < s.sensors.length := h.length_eq ▸ resolve_lt hresolve
    have hit : s.sensors[i]? = some s.sensors[i] := List.getElem?_eq_getElem hi
    have hconfig := h.config_eq hit
    cases ht : sample.temperatureCelsius.finite? with
    | none => simp [acceptedSample?, hresolve, hit, ht]
    | some t =>
      by_cases hrange : s.sensors[i].config.sensorReadingRangeCelsius.min ≤ t ∧
          t ≤ s.sensors[i].config.sensorReadingRangeCelsius.max
      · have hin := not_or.mpr ⟨not_lt.mpr hrange.1, not_lt.mpr hrange.2⟩
        have hacc : acceptedSample? cfg sample = some (i, t) := by
          simp [acceptedSample?, hresolve, hconfig, ht, hrange]
        simp only [Option.bind_some, hit, Option.map_some, if_neg hin, latch_eq, hacc]
        exact s.accept_eq hi t _
      · have hout := not_and_or.mp hrange
        rw [not_le, not_le] at hout
        simp [acceptedSample?, hresolve, hit, hconfig, ht, hrange, hout]

/-! ## The records after an accepted sample -/

namespace ThermalSensor

variable {s : ThermalSensor} {i : ℕ} {it : SensorRuntime}

theorem accept_sensors (hit : s.sensors[i]? = some it) (t : ℚ) (ts : ℤ) :
    (s.accept i t ts).1.sensors = s.sensors.set i (it.sampled t ts) := by
  rw [accept, List.modify_eq_set_getElem?, hit]
  rfl

theorem accept_getElem? (hit : s.sensors[i]? = some it) (t : ℚ) (ts : ℤ) :
    (s.accept i t ts).1.sensors[i]? = some (it.sampled t ts) := by
  rw [accept_sensors hit]
  exact List.getElem?_set_self (List.getElem?_eq_some_iff.mp hit).1

theorem accept_getElem?_ne (t : ℚ) (ts : ℤ) {j : ℕ} (hij : i ≠ j) :
    (s.accept i t ts).1.sensors[j]? = s.sensors[j]? := by
  rw [accept, List.getElem?_modify]
  simp [hij]

theorem accept_none {t : ℚ} {ts : ℤ} {s' : ThermalSensor} (h : s.accept i t ts = (s', none)) :
    s'.currentState = s.currentState := by
  simp only [accept, Prod.mk.injEq, ite_eq_left_iff, reduceCtorEq, imp_false, not_not] at h
  rw [← h.1]
  exact h.2

theorem accept_some {t : ℚ} {ts : ℤ} {s' : ThermalSensor} {event : ActionEvent}
    (h : s.accept i t ts = (s', some event)) :
    event.state = s'.currentState ∧ event.state ≠ s.currentState := by
  simp only [accept, Prod.mk.injEq, Option.ite_none_left_eq_some, Option.some.injEq] at h
  obtain ⟨rfl, hne, rfl⟩ := h
  exact ⟨rfl, hne⟩

/-- An event is announced exactly when the aggregate changes, and names its new value. -/
theorem accept_event_eq_some (hit : s.sensors[i]? = some it) {t : ℚ} {ts : ℤ}
    {event : ActionEvent} :
    (s.accept i t ts).2 = some event ↔
      (s.accept i t ts).1.currentState ≠ s.currentState ∧
        event = ⟨(s.accept i t ts).1.currentState, ts, some (it.sampled t ts).reading⟩ := by
  have hget : (s.sensors.modify i fun it => it.sampled t ts)[i]? = some (it.sampled t ts) :=
    accept_getElem? hit t ts
  simp only [accept, hget, Option.map_some, Option.ite_none_left_eq_some, Option.some.injEq]
  exact and_congr_right' eq_comm

end ThermalSensor

/-! ## The locked update in any state -/

section Locked

variable {s locked : ThermalSensor} {steadyClockMs : ℤ} {sample : TemperatureSample}

/-- Without an event the locked update has left the aggregate alone. -/
theorem applyTemperatureSampleLocked_none
    (h : applyTemperatureSampleLocked steadyClockMs sample s = (locked, none)) :
    locked.currentState = s.currentState ∧ locked.listeners = s.listeners := by
  have hc : s.Configured { sensors := s.sensors.map SensorRuntime.config } := rfl
  rw [applyTemperatureSampleLocked_eq hc] at h
  cases hacc : acceptedSample? { sensors := s.sensors.map SensorRuntime.config } sample with
  | none =>
    rw [hacc] at h
    obtain ⟨rfl, -⟩ := Prod.mk.inj h
    exact ⟨rfl, rfl⟩
  | some acc =>
    rw [hacc] at h
    exact ⟨ThermalSensor.accept_none h, congrArg (fun x => x.1.listeners) h.symm⟩

/-- An event announces the new aggregate. -/
theorem applyTemperatureSampleLocked_some {event : ActionEvent}
    (h : applyTemperatureSampleLocked steadyClockMs sample s = (locked, some event)) :
    event.state = locked.currentState ∧ locked.listeners = s.listeners := by
  have hc : s.Configured { sensors := s.sensors.map SensorRuntime.config } := rfl
  rw [applyTemperatureSampleLocked_eq hc] at h
  cases hacc : acceptedSample? { sensors := s.sensors.map SensorRuntime.config } sample with
  | none =>
    rw [hacc] at h
    cases h
  | some acc =>
    rw [hacc] at h
    exact ⟨(ThermalSensor.accept_some h).1, congrArg (fun x => x.1.listeners) h.symm⟩

end Locked

/-! ## The whole sample -/

/-- The registry `notifyListeners` copies. -/
def Environment.snapshot (env : Environment) (s : ThermalSensor) : List IThermalEventListener :=
  env.betweenSections.foldl RegistryCall.apply s.listeners

/-- The state `notifyListeners` finds when it takes the mutex. -/
def ThermalSensor.interleaved (env : Environment) (s : ThermalSensor) : ThermalSensor :=
  { s with listeners := env.snapshot s }

/-- What a sample makes of the service, one constructor per branch of the source. -/
inductive Handling (cfg : ThermalHfpConfig) (env : Environment) (sample : TemperatureSample)
    (s : ThermalSensor) : ThermalSensor × List Effect → Prop
  | rejected (hacc : acceptedSample? cfg sample = none) : Handling cfg env sample s (s, [])
  | unchanged {i : ℕ} {t : ℚ} {s' : ThermalSensor} (hacc : acceptedSample? cfg sample = some (i, t))
      (haccept : s.accept i t (effectiveTimestampMs env.steadyClockMs sample.timestampMonotonicMs) =
        (s', none)) :
      Handling cfg env sample s (s', [])
  | notified {i : ℕ} {t : ℚ} {s' : ThermalSensor} {event : ActionEvent}
      (hacc : acceptedSample? cfg sample = some (i, t))
      (haccept : s.accept i t (effectiveTimestampMs env.steadyClockMs sample.timestampMonotonicMs) =
        (s', some event))
      (hstate : event.state ≠ .criticalShutdownImminent) :
      Handling cfg env sample s
        (s'.interleaved env, notifyListeners env event (s'.interleaved env))
  | shutdown {i : ℕ} {t : ℚ} {s' : ThermalSensor} {event : ActionEvent}
      (hacc : acceptedSample? cfg sample = some (i, t))
      (haccept : s.accept i t (effectiveTimestampMs env.steadyClockMs sample.timestampMonotonicMs) =
        (s', some event))
      (hstate : event.state = .criticalShutdownImminent) :
      Handling cfg env sample s
        ((scheduleThermalShutdown env kThermalShutdownReason (s'.interleaved env)).1,
          notifyListeners env event (s'.interleaved env) ++
            (scheduleThermalShutdown env kThermalShutdownReason (s'.interleaved env)).2)

theorem handling {cfg : ThermalHfpConfig} {s : ThermalSensor} (h : s.Configured cfg)
    (env : Environment) (sample : TemperatureSample) :
    Handling cfg env sample s (applyTemperatureSample env sample s) := by
  have hlocked := applyTemperatureSampleLocked_eq h env.steadyClockMs sample
  rw [applyTemperatureSample, hlocked]
  cases hacc : acceptedSample? cfg sample with
  | none => exact .rejected hacc
  | some acc =>
    obtain ⟨i, t⟩ := acc
    dsimp only
    rcases haccept : s.accept i t (effectiveTimestampMs env.steadyClockMs
        sample.timestampMonotonicMs) with ⟨s', _ | event⟩
    · exact .unchanged hacc haccept
    · dsimp only
      split_ifs with hstate
      · exact .shutdown hacc haccept hstate
      · exact .notified hacc haccept hstate

end ThermalHal
