import ThermalHal.Lib.Hysteresis
import ThermalHal.Sensor.Invariant

/-!
# The history specification of the policy

The service keeps one state per sensor and refolds the aggregate after every sample.
The specification below keeps nothing: it reads the state of a sensor off the
temperatures accepted for it so far, and the aggregate off all of them.
`incremental_eq_history` says that the two agree after every run.

## Main definitions

* `historyState` — the state of a sensor, from its accepted temperatures.
* `acceptedTemperatures` — the temperatures a run has had accepted for a sensor.
* `ReachedShutdown` — some sensor has had an accepted sample at its shutdown point.
-/

namespace ThermalHal

open Lib

/-- A history is hot: it reached the exceeded threshold and has not come down to the
recovery threshold since. -/
def ThermalTriggers.Hot (triggers : ThermalTriggers) (temperatures : List ℚ) : Prop :=
  Lib.Hot triggers.criticalTemperatureRecoveredCelsius triggers.criticalTemperatureExceededCelsius
    temperatures

instance (triggers : ThermalTriggers) (temperatures : List ℚ) :
    Decidable (triggers.Hot temperatures) := decidableHot ..

/-- The state of a sensor as a function of its history. -/
def historyState (triggers : ThermalTriggers) (temperatures : List ℚ) : State :=
  match temperatures.getLast? with
  | none => .normal
  | some t =>
      if triggers.enteringCriticalShutdownCelsius ≤ t then .criticalShutdownImminent
      else if triggers.Hot temperatures then .criticalTemperatureExceeded
      else if triggers.Hot temperatures.dropLast then .criticalTemperatureRecovered
      else .normal

/-- The temperature a request has accepted for sensor `i`. -/
def Request.temperatureFor? (cfg : ThermalHfpConfig) (i : ℕ) (r : Request) : Option ℚ :=
  (r.accepted? cfg).bind fun (j, t, _) => if j = i then some t else none

/-- The temperatures a run has had accepted for sensor `i`, oldest first. -/
def acceptedTemperatures (cfg : ThermalHfpConfig) (requests : List Request) (i : ℕ) : List ℚ :=
  requests.filterMap (Request.temperatureFor? cfg i)

/-- Some sensor has had an accepted sample at or above its shutdown threshold. -/
def ReachedShutdown (cfg : ThermalHfpConfig) (requests : List Request) : Prop :=
  ∃ i config, cfg.sensors[i]? = some config ∧ ∃ t ∈ acceptedTemperatures cfg requests i,
    config.triggers.enteringCriticalShutdownCelsius ≤ t

/-! ## The recurrence of the specification -/

section Recurrence

variable {triggers : ThermalTriggers}

theorem hot_concat (triggers : ThermalTriggers) (temperatures : List ℚ) (t : ℚ) :
    triggers.Hot (temperatures ++ [t]) ↔
      triggers.criticalTemperatureExceededCelsius ≤ t ∨
        (triggers.Hot temperatures ∧ triggers.criticalTemperatureRecoveredCelsius < t) :=
  Lib.hot_concat ..

@[simp] theorem historyState_nil (triggers : ThermalTriggers) :
    historyState triggers [] = .normal := rfl

theorem historyState_concat (triggers : ThermalTriggers) (temperatures : List ℚ) (t : ℚ) :
    historyState triggers (temperatures ++ [t]) =
      if triggers.enteringCriticalShutdownCelsius ≤ t then .criticalShutdownImminent
      else if triggers.Hot (temperatures ++ [t]) then .criticalTemperatureExceeded
      else if triggers.Hot temperatures then .criticalTemperatureRecovered
      else .normal := by
  simp [historyState]

/-- **The stored state is active exactly when the history is hot.** -/
theorem isActive_historyState
    (hlt : triggers.criticalTemperatureExceededCelsius < triggers.enteringCriticalShutdownCelsius)
    (temperatures : List ℚ) :
    isActiveCriticalTemperatureState (historyState triggers temperatures) = true ↔
      triggers.Hot temperatures := by
  rcases List.eq_nil_or_concat temperatures with rfl | ⟨before, t, rfl⟩
  · exact iff_of_false (by rw [historyState_nil]; decide) (not_hot_nil _ _)
  · rw [List.concat_eq_append, historyState_concat]
    by_cases hs : triggers.enteringCriticalShutdownCelsius ≤ t
    · rw [if_pos hs]
      exact iff_of_true rfl ((hot_concat ..).mpr (Or.inl (hlt.le.trans hs)))
    · rw [if_neg hs]
      by_cases hh : triggers.Hot (before ++ [t])
      · rw [if_pos hh]
        exact iff_of_true rfl hh
      · rw [if_neg hh]
        by_cases hb : triggers.Hot before
        · rw [if_pos hb]
          exact iff_of_false (by decide) hh
        · rw [if_neg hb]
          exact iff_of_false (by decide) hh

/-- **One evaluation is one step of the specification.** -/
theorem evaluateSensorState_eq {it : SensorRuntime} (hvalid : it.config.Valid)
    {temperatures : List ℚ} (hstate : it.state = historyState it.config.triggers temperatures)
    (t : ℚ) :
    evaluateSensorState it t = historyState it.config.triggers (temperatures ++ [t]) := by
  have hactive := isActive_historyState hvalid.exceeded_lt temperatures
  rw [← hstate] at hactive
  have hhot := hot_concat it.config.triggers temperatures t
  have hspec := evaluateSensorState_spec it t
  rw [historyState_concat]
  generalize evaluateSensorState it t = after at hspec ⊢
  cases hspec with
  | shutdown hs => rw [if_pos hs]
  | exceeded hs he => rw [if_neg (not_le.mpr hs), if_pos (hhot.mpr (Or.inl he))]
  | cooling hs he ha hr =>
    rw [if_neg (not_le.mpr hs), if_pos (hhot.mpr (Or.inr ⟨hactive.mp ha, hr⟩))]
  | recovered hs he ha hr =>
    have hcold : ¬ it.config.triggers.Hot (temperatures ++ [t]) := by
      rw [hhot, not_or, not_and, not_lt, not_le]
      exact ⟨he, fun _ => hr⟩
    rw [if_neg (not_le.mpr hs), if_neg hcold, if_pos (hactive.mp ha)]
  | normal hs he ha =>
    have hbefore : ¬ it.config.triggers.Hot temperatures := by
      rw [← hactive, ha]
      exact Bool.false_ne_true
    have hcold : ¬ it.config.triggers.Hot (temperatures ++ [t]) := by
      rw [hhot, not_or, not_and, not_le]
      exact ⟨he, fun h => absurd h hbefore⟩
    rw [if_neg (not_le.mpr hs), if_neg hcold, if_neg hbefore]

end Recurrence

/-! ## Histories grow with the run -/

section Growth

variable {cfg : ThermalHfpConfig} {requests : List Request} {r : Request}

theorem acceptedTemperatures_concat (cfg : ThermalHfpConfig) (requests : List Request)
    (r : Request) (j : ℕ) :
    acceptedTemperatures cfg (requests ++ [r]) j =
      acceptedTemperatures cfg requests j ++ (r.temperatureFor? cfg j).toList := by
  rw [acceptedTemperatures, List.filterMap_append]
  cases h : r.temperatureFor? cfg j <;> simp [acceptedTemperatures, h]

theorem acceptedTemperatures_of_rejected (hr : r.accepted? cfg = none) (j : ℕ) :
    acceptedTemperatures cfg (requests ++ [r]) j = acceptedTemperatures cfg requests j := by
  simp [acceptedTemperatures_concat, Request.temperatureFor?, hr]

theorem acceptedTemperatures_of_accepted {i : ℕ} {t : ℚ} {ts : ℤ}
    (hr : r.accepted? cfg = some (i, t, ts)) (j : ℕ) :
    acceptedTemperatures cfg (requests ++ [r]) j =
      acceptedTemperatures cfg requests j ++ if i = j then [t] else [] := by
  rw [acceptedTemperatures_concat, Request.temperatureFor?, hr, Option.bind_some]
  by_cases hij : i = j <;> simp [hij]

/-- A request leaves the history of a sensor alone unless it has a sample accepted for it. -/
theorem acceptedTemperatures_of_ne {j : ℕ} (hr : ∀ t ts, r.accepted? cfg ≠ some (j, t, ts)) :
    acceptedTemperatures cfg (requests ++ [r]) j = acceptedTemperatures cfg requests j := by
  cases hacc : r.accepted? cfg with
  | none => exact acceptedTemperatures_of_rejected hacc j
  | some acc =>
    obtain ⟨i, t, ts⟩ := acc
    have hij : i ≠ j := fun heq => hr t ts (heq ▸ hacc)
    rw [acceptedTemperatures_of_accepted hacc, if_neg hij, List.append_nil]

/-- **A record and its history grow together**: what every accepted sample of a sensor keeps
between its accepted temperatures and its record, every request keeps. -/
theorem forall_records_concat {P : List ℚ → SensorRuntime → Prop} {s : ThermalSensor}
    (hc : s.Configured cfg)
    (hstep : ∀ temperatures it t ts, it.config ∈ cfg.sensors → P temperatures it →
      P (temperatures ++ [t]) (it.sampled t ts))
    (h : ∀ i it, s.sensors[i]? = some it → P (acceptedTemperatures cfg requests i) it)
    (r : Request) : ∀ i it, (service.next s r).sensors[i]? = some it →
      P (acceptedTemperatures cfg (requests ++ [r]) i) it := by
  intro i it hit
  by_cases hr : ∃ t ts, r.accepted? cfg = some (i, t, ts)
  · obtain ⟨t, ts, hr⟩ := hr
    obtain ⟨old, hold⟩ := exists_of_accepted hc hr
    rw [next_getElem? hc hr hold, Option.some.injEq] at hit
    rw [acceptedTemperatures_of_accepted hr, if_pos rfl, ← hit]
    exact hstep _ old t ts (hc.config_mem hold) (h i old hold)
  · have hr' : ∀ t ts, r.accepted? cfg ≠ some (i, t, ts) := fun t ts heq => hr ⟨t, ts, heq⟩
    rw [next_getElem?_ne hc hr'] at hit
    rw [acceptedTemperatures_of_ne hr']
    exact h i it hit

theorem reachedShutdown_of_rejected (hr : r.accepted? cfg = none) :
    ReachedShutdown cfg (requests ++ [r]) ↔ ReachedShutdown cfg requests := by
  simp only [ReachedShutdown, acceptedTemperatures_of_rejected hr]

theorem reachedShutdown_of_accepted {i : ℕ} {t : ℚ} {ts : ℤ} {config : ThermalSensorConfig}
    (hr : r.accepted? cfg = some (i, t, ts)) (hconfig : cfg.sensors[i]? = some config) :
    ReachedShutdown cfg (requests ++ [r]) ↔
      ReachedShutdown cfg requests ∨ config.triggers.enteringCriticalShutdownCelsius ≤ t := by
  simp only [ReachedShutdown, acceptedTemperatures_of_accepted hr]
  constructor
  · intro h
    obtain ⟨j, d, hd, u, hu, hle⟩ := h
    rcases List.mem_append.mp hu with hu | hu
    · exact Or.inl ⟨j, d, hd, u, hu, hle⟩
    · by_cases hij : i = j
      · rw [if_pos hij, List.mem_singleton] at hu
        rw [← hij, hconfig] at hd
        rw [Option.some.inj hd, ← hu]
        exact Or.inr hle
      · rw [if_neg hij] at hu
        exact absurd hu List.not_mem_nil
  · intro h
    rcases h with ⟨j, d, hd, u, hu, hle⟩ | hle
    · exact ⟨j, d, hd, u, List.mem_append_left _ hu, hle⟩
    · exact ⟨i, config, hconfig, t, by simp, hle⟩

end Growth

/-! ## The service follows its specification -/

/-- The state after a run as its history specifies it. -/
structure Follows (cfg : ThermalHfpConfig) (requests : List Request) (s : ThermalSensor) : Prop where
  configured : s.Configured cfg
  aggregated : s.Aggregated
  states : ∀ i it, s.sensors[i]? = some it →
    it.state = historyState it.config.triggers (acceptedTemperatures cfg requests i)
  imminent : s.currentState = .criticalShutdownImminent ↔ ReachedShutdown cfg requests

theorem follows_initializeSensors (cfg : ThermalHfpConfig) (steadyClockMs : ℤ) :
    Follows cfg [] (initializeSensors cfg steadyClockMs) where
  configured := configured_initializeSensors cfg _
  aggregated := aggregated_initializeSensors cfg _
  states := by
    intro i it hit
    simp only [initializeSensors, List.getElem?_map, Option.map_eq_some_iff] at hit
    obtain ⟨config, -, rfl⟩ := hit
    rfl
  imminent := by simp [initializeSensors, ReachedShutdown, acceptedTemperatures]

/-- One more request is one more step of the specification. -/
theorem follows_next {cfg : ThermalHfpConfig} (hcfg : cfg.Valid) {requests : List Request}
    {s : ThermalSensor} (h : Follows cfg requests s) (r : Request) :
    Follows cfg (requests ++ [r]) (service.next s r) := by
  refine ⟨configured_next h.configured r, aggregated_next h.configured h.aggregated r, ?_, ?_⟩
  · refine forall_records_concat (P := fun temperatures it =>
      it.state = historyState it.config.triggers temperatures) h.configured ?_ h.states r
    intro temperatures it t ts hmem hstate
    exact evaluateSensorState_eq (hcfg.sensors _ hmem) hstate t
  · cases hr : r.accepted? cfg with
    | none =>
      have hcurrent : (service.next s r).currentState = s.currentState :=
        congrArg PolicyState.currentState (next_of_rejected h.configured hr).1
      rw [hcurrent, reachedShutdown_of_rejected hr]
      exact h.imminent
    | some acc =>
      obtain ⟨i, t, ts⟩ := acc
      obtain ⟨it, hit⟩ := exists_of_accepted h.configured hr
      have hcurrent : (service.next s r).currentState = (s.accept i t ts).1.currentState :=
        congrArg PolicyState.currentState (next_of_accepted h.configured hr).1
      rw [hcurrent, h.aggregated.accept_eq_shutdown_iff hit, h.imminent,
        reachedShutdown_of_accepted hr (h.configured.config_eq hit)]

theorem follows_state {cfg : ThermalHfpConfig} (hcfg : cfg.Valid) (steadyClockMs : ℤ)
    (requests : List Request) :
    Follows cfg requests (service.state (initializeSensors cfg steadyClockMs) requests) :=
  Machine.history_induction (follows_initializeSensors cfg steadyClockMs)
    (fun _ r h => follows_next hcfg h r) requests

/-- **The incremental policy is its history specification.** After every run from
start-up, each sensor's stored state is the one its accepted temperatures specify; the
aggregate is imminent exactly when some sensor has reached its shutdown threshold, and
is otherwise the most severe of the stored states. -/
theorem incremental_eq_history {cfg : ThermalHfpConfig} (hcfg : Accepted cfg) (steadyClockMs : ℤ)
    (requests : List Request) :
    let s := service.state (initializeSensors cfg steadyClockMs) requests
    (∀ i config, cfg.sensors[i]? = some config →
      s.sensors[i]?.map SensorRuntime.state =
        some (historyState config.triggers (acceptedTemperatures cfg requests i))) ∧
    (s.currentState = .criticalShutdownImminent ↔
      ∃ i config, cfg.sensors[i]? = some config ∧ ∃ t ∈ acceptedTemperatures cfg requests i,
        config.triggers.enteringCriticalShutdownCelsius ≤ t) ∧
    (s.currentState ≠ .criticalShutdownImminent →
      MostSevere s.currentState (s.sensors.map SensorRuntime.state)) := by
  intro s
  have h : Follows cfg requests s := follows_state hcfg.valid steadyClockMs requests
  refine ⟨?_, h.imminent, ?_⟩
  · intro i config hconfig
    rw [← h.configured, List.getElem?_map, Option.map_eq_some_iff] at hconfig
    obtain ⟨it, hit, rfl⟩ := hconfig
    rw [hit, Option.map_some, h.states i it hit]
  · intro hne
    rw [h.aggregated.resolve_left hne]
    exact mostSevere_aggregateOf s.sensors

theorem incremental_eq_history_board :
    (service.state (initializeSensors boardProfile 0)
        [.sample ⟨"board", .finite 71, 1⟩ (.quiet 0),
          .sample ⟨"Mainboard Ambient", .finite 60, 2⟩ (.quiet 0)]).sensors[0]?.map
            SensorRuntime.state =
      some (historyState boardSensor.triggers (acceptedTemperatures boardProfile
        [.sample ⟨"board", .finite 71, 1⟩ (.quiet 0),
          .sample ⟨"Mainboard Ambient", .finite 60, 2⟩ (.quiet 0)] 0)) :=
  (incremental_eq_history boardProfile_accepted 0 _).1 0 boardSensor rfl

end ThermalHal
