import ThermalHal.Sensor.Order

/-!
# Telemetry

A client reads one reading for each sensor of the profile, in the profile's order. The name,
the location and the vendor data in it are the profile's; the temperature and the timestamp
are those of the last sample that was accepted for the sensor. A sample that is not accepted
does nothing at all: its two checks come before the first assignment.

## Main definitions

* `TemperatureSample.Ignored` — the samples that the service has to ignore.
* `lastAccepted?` — the last sample of a run that was accepted for a sensor.
* `telemetry` — what a client has to read after a run.
* `telemetry_exact` — what it reads, and that an ignored sample changes nothing.
-/

namespace ThermalHal

open Lib

/-- The key is no sensor's id or name, or the temperature is not finite, or it is outside the
measurable range of the sensor the key resolves to. -/
inductive TemperatureSample.Ignored (cfg : ThermalHfpConfig) (sample : TemperatureSample) : Prop
  | unknown (h : ∀ config ∈ cfg.sensors, config.matchesKey sample.sensorNameOrId = false)
  | notFinite (h : ∀ t, sample.temperatureCelsius ≠ .finite t)
  | outOfRange {i : ℕ} {config : ThermalSensorConfig} {t : ℚ}
      (hres : resolve cfg sample.sensorNameOrId = some i) (hconfig : cfg.sensors[i]? = some config)
      (ht : sample.temperatureCelsius = .finite t)
      (h : t < config.sensorReadingRangeCelsius.min ∨ config.sensorReadingRangeCelsius.max < t)

/-- The temperature and the timestamp of the last sample of a run that was accepted for
sensor `i`. -/
def lastAccepted? (cfg : ThermalHfpConfig) (requests : List Request) (i : ℕ) : Option (ℚ × ℤ) :=
  ((samplesFor cfg requests i).filterMap (TemperatureSample.update? cfg)).getLast?

/-- The readings after a run, one for each sensor of the profile. -/
def telemetry (cfg : ThermalHfpConfig) (steadyClockMs : ℤ) (requests : List Request) :
    List TemperatureReading :=
  cfg.sensors.mapIdx fun i config =>
    let value := (lastAccepted? cfg requests i).getD
      (initialTemperatureForSensor config, monotonicTimestampMs steadyClockMs)
    { sensorName := if config.sensorName = "" then config.id else config.sensorName
      location := config.location
      temperatureCelsius := value.1
      timestampMonotonicMs := value.2
      vendorCode := config.vendor.vendorCode
      vendorInfo := config.vendor.vendorInfo }

/-! ## Samples that are not accepted -/

section Ignored

variable {cfg : ThermalHfpConfig} {sample : TemperatureSample}

/-- The samples that have to be ignored are those that the profile does not accept. -/
theorem acceptedSample?_eq_none_iff : acceptedSample? cfg sample = none ↔ sample.Ignored cfg := by
  constructor
  · intro hacc
    cases hres : resolve cfg sample.sensorNameOrId with
    | none => exact .unknown (resolve_eq_none_iff.mp hres)
    | some i =>
      have hi : i < cfg.sensors.length := resolve_lt hres
      have hconfig : cfg.sensors[i]? = some cfg.sensors[i] := List.getElem?_eq_getElem hi
      by_cases hfinite : ∃ t, sample.temperatureCelsius = .finite t
      · obtain ⟨t, ht⟩ := hfinite
        refine .outOfRange hres hconfig ht ?_
        by_contra hin
        rw [not_or, not_lt, not_lt] at hin
        have hsome : acceptedSample? cfg sample = some (i, t) :=
          acceptedSample?_eq_some.mpr ⟨hres, ht, _, hconfig, hin⟩
        rw [hacc] at hsome
        cases hsome
      · exact .notFinite fun t ht => hfinite ⟨t, ht⟩
  · intro hignored
    by_contra hsome
    obtain ⟨⟨i, t⟩, hacc⟩ := Option.ne_none_iff_exists'.mp hsome
    obtain ⟨hres, hfinite, config, hconfig, hmin, hmax⟩ := acceptedSample?_eq_some.mp hacc
    cases hignored with
    | unknown h =>
      rw [resolve_eq_none_iff.mpr h] at hres
      cases hres
    | notFinite h => exact h t hfinite
    | outOfRange hres' hconfig' ht h =>
      obtain rfl := Option.some.inj (hres.symm.trans hres')
      obtain rfl := Option.some.inj (hconfig.symm.trans hconfig')
      obtain rfl := Double.finite.inj (hfinite.symm.trans ht)
      rcases h with hlow | hhigh
      · exact absurd hmin (not_le.mpr hlow)
      · exact absurd hmax (not_le.mpr hhigh)

/-- **An ignored sample does nothing.** -/
theorem TemperatureSample.Ignored.apply_eq {s : ThermalSensor} (hc : s.Configured cfg)
    (h : sample.Ignored cfg) (env : Environment) :
    applyTemperatureSample env sample s = (s, []) := by
  have hcases := handling hc env sample
  generalize applyTemperatureSample env sample s = result at hcases ⊢
  cases hcases with
  | rejected => rfl
  | unchanged hacc | notified hacc | shutdown hacc =>
    rw [acceptedSample?_eq_none_iff.mpr h] at hacc
    cases hacc

end Ignored

/-! ## The last update of a record -/

section Record

variable {cfg : ThermalHfpConfig} {s : ThermalSensor} {it : SensorRuntime} {i : ℕ}

/-- Updates leave the configuration of a record alone. -/
theorem foldl_sampled_config (it : SensorRuntime) (updates : List (ℚ × ℤ)) :
    (updates.foldl (fun it u => it.sampled u.1 u.2) it).config = it.config := by
  induction updates using List.reverseRecOn with
  | nil => rfl
  | append_singleton updates u ih => simp [ih]

/-- Of several updates the last one decides the reading. -/
theorem foldl_sampled_reading (it : SensorRuntime) (updates : List (ℚ × ℤ)) :
    (updates.foldl (fun it u => it.sampled u.1 u.2) it).reading =
      updates.getLast?.elim it.reading fun u => makeReadingFromConfig it.config u.1 u.2 := by
  induction updates using List.reverseRecOn with
  | nil => rfl
  | append_singleton updates u ih => simp [foldl_sampled_config]

/-- **A reading is the last update of its record.** -/
theorem state_reading (hc : s.Configured cfg) (hit : s.sensors[i]? = some it)
    (requests : List Request) :
    (getCurrentTemperatures (service.state s requests))[i]? = some
      ((updatesFor cfg requests i).getLast?.elim it.reading fun u =>
        makeReadingFromConfig it.config u.1 u.2) := by
  have hrecord : (service.state s requests).sensors[i]? =
      some ((updatesFor cfg requests i).foldl (fun it u => it.sampled u.1 u.2) it) := by
    rw [state_record hc, hit]
    exact List.foldl_hom some fun _ _ => rfl
  rw [getCurrentTemperatures, List.getElem?_map, hrecord, Option.map_some, foldl_sampled_reading]

end Record

/-- **Telemetry is exactly the last accepted samples.** After any run of samples with
timestamps that are not negative, registry calls in between, a client reads `telemetry`; and
then an ignored sample leaves the whole service as it is and makes no call. -/
theorem telemetry_exact {cfg : ThermalHfpConfig} (steadyClockMs : ℤ) {requests : List Request}
    (ht : ∀ r ∈ requests, r.Timely) :
    let s := service.state (initializeSensors cfg steadyClockMs) requests
    getCurrentTemperatures s = telemetry cfg steadyClockMs requests ∧
      ∀ env sample, TemperatureSample.Ignored cfg sample →
        applyTemperatureSample env sample s = (s, []) := by
  intro s
  constructor
  · apply List.ext_getElem?
    intro i
    cases hconfig : cfg.sensors[i]? with
    | none =>
      have hlength : s.sensors.length = cfg.sensors.length :=
        (configured_state cfg steadyClockMs requests).length_eq
      have hi : cfg.sensors.length ≤ i := List.getElem?_eq_none_iff.mp hconfig
      simp [telemetry, getCurrentTemperatures, hlength, hi]
    | some config =>
      have hit : (initializeSensors cfg steadyClockMs).sensors[i]? =
          some (initialRuntime steadyClockMs config) := by
        simp [initializeSensors, hconfig]
      rw [state_reading (configured_initializeSensors cfg steadyClockMs) hit,
        updatesFor_eq ht, ← lastAccepted?]
      rw [telemetry, List.getElem?_mapIdx, hconfig]
      cases lastAccepted? cfg requests i with
      | none => rfl
      | some u => rfl
  · intro env sample hignored
    exact hignored.apply_eq (configured_state cfg steadyClockMs requests) env

/-- One sample is accepted, one is too hot for its sensor and one has no sensor. -/
theorem telemetry_exact_board :
    getCurrentTemperatures (service.state (initializeSensors boardProfile 0)
        [.sample ⟨"board", .finite 50, 7⟩ (.quiet 1), .sample ⟨"board", .finite 500, 8⟩ (.quiet 2),
          .sample ⟨"fan", .finite 20, 9⟩ (.quiet 3)]) =
      [⟨"Mainboard Ambient", "", 50, 7, 0, ""⟩] :=
  (telemetry_exact 0 (by simp [Request.Timely])).1.trans (by decide +kernel)

end ThermalHal
