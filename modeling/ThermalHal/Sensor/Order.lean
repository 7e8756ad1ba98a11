import ThermalHal.Sensor.Shutdown

/-!
# The order of samples of different sensors

The queue hands samples over in key order, not in order of arrival. Across sensors this
is harmless: a record is the fold of the samples of its own sensor, and the aggregate is
read off the records unless some sample has reached a shutdown threshold, which is a
property of the samples and not of their order.

## Main definitions

* `samplesFor` — the samples of a run whose keys resolve to a sensor.
* `Request.updateFor?` — what a request makes of the record of a sensor.
* `order_irrelevant` — runs with the same samples for each sensor end the same way.
-/

namespace ThermalHal

open Lib

/-- The sample of a request, if its key resolves to sensor `i`. -/
def Request.sampleFor? (cfg : ThermalHfpConfig) (i : ℕ) : Request → Option TemperatureSample
  | .sample input _ => if resolve cfg input.sensorNameOrId = some i then some input else none
  | .registry _ => none

/-- The samples of a run whose keys resolve to sensor `i`, oldest first. -/
def samplesFor (cfg : ThermalHfpConfig) (requests : List Request) (i : ℕ) :
    List TemperatureSample :=
  requests.filterMap (Request.sampleFor? cfg i)

/-- The control plane hands over no negative timestamp. -/
def Request.Timely : Request → Prop
  | .sample input _ => 0 ≤ input.timestampMonotonicMs
  | .registry _ => True

/-- The temperature and the timestamp a request has accepted for sensor `i`. -/
def Request.updateFor? (cfg : ThermalHfpConfig) (i : ℕ) (r : Request) : Option (ℚ × ℤ) :=
  (r.accepted? cfg).bind fun (j, t, ts) => if j = i then some (t, ts) else none

/-- The updates a run has had accepted for sensor `i`. -/
def updatesFor (cfg : ThermalHfpConfig) (requests : List Request) (i : ℕ) : List (ℚ × ℤ) :=
  requests.filterMap (Request.updateFor? cfg i)

/-- The temperature and the timestamp a sample stores if it is accepted, its timestamp not
being negative. -/
def TemperatureSample.update? (cfg : ThermalHfpConfig) (sample : TemperatureSample) :
    Option (ℚ × ℤ) :=
  (acceptedSample? cfg sample).map fun (_, t) => (t, sample.timestampMonotonicMs)

/-! ## Updates -/

section Updates

variable {cfg : ThermalHfpConfig} {r : Request} {i : ℕ}

theorem Request.updateFor?_eq_some {t : ℚ} {ts : ℤ} :
    r.updateFor? cfg i = some (t, ts) ↔ r.accepted? cfg = some (i, t, ts) := by
  rw [updateFor?, Option.bind_eq_some_iff]
  constructor
  · rintro ⟨⟨j, u, us⟩, hacc, hif⟩
    by_cases hj : j = i
    · simp only [hj, if_true, Option.some.injEq, Prod.mk.injEq] at hif
      rw [hacc, hj, hif.1, hif.2]
    · simp [hj] at hif
  · intro hacc
    exact ⟨(i, t, ts), hacc, by simp⟩

theorem Request.updateFor?_eq_none :
    r.updateFor? cfg i = none ↔ ∀ t ts, r.accepted? cfg ≠ some (i, t, ts) := by
  rw [Option.eq_none_iff_forall_ne_some]
  constructor
  · intro h t ts hacc
    exact h (t, ts) (updateFor?_eq_some.mpr hacc)
  · rintro h ⟨t, ts⟩ hupdate
    exact h t ts (updateFor?_eq_some.mp hupdate)

/-- **What a request does to a sensor is decided by its sample**, whatever the environment. -/
theorem Request.Timely.updateFor?_eq (h : r.Timely) :
    r.updateFor? cfg i = (r.sampleFor? cfg i).bind (TemperatureSample.update? cfg) := by
  cases r with
  | registry call => rfl
  | sample input env =>
    have hts : effectiveTimestampMs env.steadyClockMs input.timestampMonotonicMs =
        input.timestampMonotonicMs := if_pos h
    simp only [updateFor?, accepted?, sampleFor?, hts]
    cases hacc : acceptedSample? cfg input with
    | none => by_cases hres : resolve cfg input.sensorNameOrId = some i <;>
        simp [hres, TemperatureSample.update?, hacc]
    | some acc =>
      have hres := (acceptedSample?_eq_some.mp hacc).1
      by_cases hi : acc.1 = i
      · simp [hres, hi, TemperatureSample.update?, hacc]
      · simp [hres, hi]

/-- The samples of a sensor decide its updates. -/
theorem updatesFor_eq {requests : List Request} (h : ∀ r ∈ requests, r.Timely) (i : ℕ) :
    updatesFor cfg requests i =
      (samplesFor cfg requests i).filterMap (TemperatureSample.update? cfg) := by
  rw [samplesFor, List.filterMap_filterMap, updatesFor]
  exact List.filterMap_congr fun r hr => (h r hr).updateFor?_eq

/-- Some update is at or above the shutdown threshold of its sensor. -/
theorem exists_reachesShutdown_iff {requests : List Request} :
    (∃ r ∈ requests, r.reachesShutdown cfg = true) ↔
      ∃ i config, cfg.sensors[i]? = some config ∧ ∃ u ∈ updatesFor cfg requests i,
        config.triggers.enteringCriticalShutdownCelsius ≤ u.1 := by
  constructor
  · rintro ⟨r, hr, hreached⟩
    cases hacc : r.accepted? cfg with
    | none => simp [Request.reachesShutdown, hacc] at hreached
    | some acc =>
      obtain ⟨i, t, ts⟩ := acc
      simp only [Request.reachesShutdown, hacc, Option.any_eq_true, decide_eq_true_eq] at hreached
      obtain ⟨config, hconfig, hle⟩ := hreached
      have hmem : (t, ts) ∈ updatesFor cfg requests i :=
        List.mem_filterMap.mpr ⟨r, hr, Request.updateFor?_eq_some.mpr hacc⟩
      exact ⟨i, config, hconfig, (t, ts), hmem, hle⟩
  · rintro ⟨i, config, hconfig, ⟨t, ts⟩, hmem, hle⟩
    obtain ⟨r, hr, hupdate⟩ := List.mem_filterMap.mp hmem
    have hacc := Request.updateFor?_eq_some.mp hupdate
    exact ⟨r, hr, (Request.reachesShutdown_of_accepted hacc hconfig).mpr hle⟩

end Updates

/-! ## Runs -/

section Runs

variable {cfg : ThermalHfpConfig} {s : ThermalSensor}

/-- A request updates the record of sensor `i` as `updateFor?` says. -/
theorem next_record (hc : s.Configured cfg) (i : ℕ) (r : Request) :
    (service.next s r).sensors[i]? = (r.updateFor? cfg i).elim s.sensors[i]?
      fun u => s.sensors[i]?.map fun it => it.sampled u.1 u.2 := by
  cases hupdate : r.updateFor? cfg i with
  | none => exact next_getElem?_ne hc (Request.updateFor?_eq_none.mp hupdate)
  | some u =>
    have hacc : r.accepted? cfg = some (i, u.1, u.2) := Request.updateFor?_eq_some.mp hupdate
    obtain ⟨it, hit⟩ := exists_of_accepted hc hacc
    rw [next_getElem? hc hacc hit, Option.elim_some, hit, Option.map_some]

/-- **A record is the fold of its own updates.** -/
theorem state_record (hc : s.Configured cfg) (i : ℕ) (requests : List Request) :
    (service.state s requests).sensors[i]? = (updatesFor cfg requests i).foldl
      (fun record u => record.map fun it => it.sampled u.1 u.2) s.sensors[i]? :=
  Machine.view_eq_foldl (P := ThermalSensor.Configured cfg) (fun s => s.sensors[i]?)
    (Request.updateFor? cfg i) _ (fun _ r h => configured_next h r)
    (fun _ r h => next_record h i r) hc requests

/-- The same updates leave the same records. -/
theorem state_sensors_congr (hc : s.Configured cfg) {requests requests' : List Request}
    (h : ∀ i, updatesFor cfg requests i = updatesFor cfg requests' i) :
    (service.state s requests).sensors = (service.state s requests').sensors := by
  apply List.ext_getElem?
  intro i
  rw [state_record hc, state_record hc, h i]

end Runs

/-- **Cross-sensor order is irrelevant.** Two runs from a reachable state that contain the
same samples for each sensor, each in the same order, end with the same readings, states and
aggregate, and request power-off alike. Nothing relates their environments, their samples
with keys of no sensor or their registry calls. -/
theorem order_irrelevant {cfg : ThermalHfpConfig} {s : ThermalSensor} (hs : s.Reachable cfg)
    {requests requests' : List Request} (ht : ∀ r ∈ requests, r.Timely)
    (ht' : ∀ r ∈ requests', r.Timely)
    (h : ∀ i, samplesFor cfg requests i = samplesFor cfg requests' i) :
    let left := service.state s requests
    let right := service.state s requests'
    getCurrentTemperatures left = getCurrentTemperatures right ∧
      left.sensors.map SensorRuntime.state = right.sensors.map SensorRuntime.state ∧
      getCurrentThermalState left = getCurrentThermalState right ∧
      (.requestSystemPoweroff ∈ service.trace s requests ↔
        .requestSystemPoweroff ∈ service.trace s requests') := by
  intro left right
  have hupdates : ∀ i, updatesFor cfg requests i = updatesFor cfg requests' i := by
    intro i
    rw [updatesFor_eq ht, updatesFor_eq ht', h i]
  have hsensors : left.sensors = right.sensors := state_sensors_congr hs.configured hupdates
  have hreaches : (∃ r ∈ requests, r.reachesShutdown cfg = true) ↔
      ∃ r ∈ requests', r.reachesShutdown cfg = true := by
    simp only [exists_reachesShutdown_iff, hupdates]
  have hlatched : left.currentState = .criticalShutdownImminent ↔
      right.currentState = .criticalShutdownImminent := by
    rw [hs.imminent_state_iff, hs.imminent_state_iff, hreaches]
  have hcurrent : left.currentState = right.currentState := by
    by_cases himminent : left.currentState = .criticalShutdownImminent
    · rw [himminent, hlatched.mp himminent]
    · rw [(hs.state requests).aggregated.resolve_left himminent,
        (hs.state requests').aggregated.resolve_left (hlatched.not.mp himminent), hsensors]
  refine ⟨?_, ?_, hcurrent, ?_⟩
  · rw [getCurrentTemperatures, getCurrentTemperatures, hsensors]
  · rw [hsensors]
  · rw [hs.requestSystemPoweroff_mem_trace_iff, hs.requestSystemPoweroff_mem_trace_iff, hreaches]

/-- Two ambient sensors. -/
def twinProfile : ThermalHfpConfig :=
  { sensors := [boardSensor, { boardSensor with id := "rear", sensorName := "Rear" }] }

theorem order_irrelevant_twin :
    getCurrentThermalState (service.state (initializeSensors twinProfile 0)
        [.sample ⟨"board", .finite 71, 1⟩ (.quiet 0), .sample ⟨"Rear", .finite 75, 2⟩ (.quiet 0)]) =
      getCurrentThermalState (service.state (initializeSensors twinProfile 0)
        [.sample ⟨"Rear", .finite 75, 2⟩ (.quiet 5), .sample ⟨"board", .finite 71, 1⟩ (.quiet 6)]) := by
  have hs : (initializeSensors twinProfile 0).Reachable twinProfile :=
    ⟨0, Machine.reachable_refl _ _⟩
  have hboard : resolve twinProfile "board" = some 0 := by decide +kernel
  have hrear : resolve twinProfile "Rear" = some 1 := by decide +kernel
  refine (order_irrelevant hs ?_ ?_ ?_).2.2.1
  · simp [Request.Timely]
  · simp [Request.Timely]
  · intro i
    by_cases h0 : 0 = i
    · simp [samplesFor, Request.sampleFor?, hboard, hrear, ← h0]
    · by_cases h1 : 1 = i <;>
        simp [samplesFor, Request.sampleFor?, hboard, hrear, h0, h1]

end ThermalHal
