import ThermalHal.Sensor.Events
import ThermalHal.Sensor.History
import ThermalHal.Sensor.Shutdown

/-!
# Cooling down

Below the latch the policy recovers: once the accepted samples are at or below the recovery
thresholds of their sensors, no aggregate rises any more, and two samples of a sensor bring it
back to normal, wherever it was. So the announcements still to come are known in advance, and
the run makes them in that order as the samples arrive.

## Main definitions

* `Request.Cools` — a request that heats no sensor.
* `recoveryPath` — the announcements between a state and `normal`.
* `cooling_recovers` — every sensor cooled twice.
-/

namespace ThermalHal

open Lib

/-- What the request has accepted, if anything, is at or below the recovery threshold. -/
def Request.Cools (cfg : ThermalHfpConfig) (r : Request) : Prop :=
  ∀ acc ∈ r.accepted? cfg, ∀ config ∈ cfg.sensors[acc.1]?,
    acc.2.1 ≤ config.triggers.criticalTemperatureRecoveredCelsius

instance (cfg : ThermalHfpConfig) (r : Request) : Decidable (r.Cools cfg) :=
  inferInstanceAs (Decidable (∀ acc ∈ r.accepted? cfg, ∀ config ∈ cfg.sensors[acc.1]?,
    acc.2.1 ≤ config.triggers.criticalTemperatureRecoveredCelsius))

/-- The announcements that bring an aggregate down to `normal`. -/
def recoveryPath : State → List State
  | .normal => []
  | .criticalTemperatureRecovered => [.normal]
  | .criticalTemperatureExceeded => [.criticalTemperatureRecovered, .normal]
  | .criticalShutdownImminent => []

/-! ## A cooled history -/

section History

variable {triggers : ThermalTriggers} {before after : List ℚ}

/-- One cool sample ends a hot history. -/
theorem not_hot_of_cool
    (hlt : triggers.criticalTemperatureRecoveredCelsius <
      triggers.criticalTemperatureExceededCelsius)
    (hcool : ∀ t ∈ after, t ≤ triggers.criticalTemperatureRecoveredCelsius) (hne : after ≠ []) :
    ¬ triggers.Hot (before ++ after) := by
  intro hhot
  have hlast : after.getLast hne ≤ triggers.criticalTemperatureRecoveredCelsius :=
    hcool _ (List.getLast_mem hne)
  rw [← List.dropLast_append_getLast hne, ← List.append_assoc, hot_concat] at hhot
  cases hhot with
  | inl hexceeded => exact absurd (hlast.trans_lt hlt) (not_lt.mpr hexceeded)
  | inr hkept => exact absurd hlast (not_le.mpr hkept.2)

/-- Two of them bring the sensor back to normal. -/
theorem historyState_of_cool {config : ThermalSensorConfig} (hvalid : config.Valid)
    (hcool : ∀ t ∈ after, t ≤ config.triggers.criticalTemperatureRecoveredCelsius)
    (htwo : 2 ≤ after.length) : historyState config.triggers (before ++ after) = .normal := by
  have hne : after ≠ [] := by
    intro hnil
    simp [hnil] at htwo
  have hinit : after.dropLast ≠ [] := by
    intro hnil
    have hlength := congrArg List.length hnil
    simp only [List.length_dropLast, List.length_nil] at hlength
    omega
  have hlast : after.getLast hne ≤ config.triggers.criticalTemperatureRecoveredCelsius :=
    hcool _ (List.getLast_mem hne)
  have hbelow : after.getLast hne < config.triggers.enteringCriticalShutdownCelsius :=
    hlast.trans_lt (hvalid.recovered_lt.trans hvalid.exceeded_lt)
  have hcold : ¬ config.triggers.Hot (before ++ after) :=
    not_hot_of_cool hvalid.recovered_lt hcool hne
  have hcold' : ¬ config.triggers.Hot (before ++ after.dropLast) :=
    not_hot_of_cool hvalid.recovered_lt (fun t ht => hcool t (List.dropLast_subset after ht)) hinit
  have hsplit : before ++ after = before ++ after.dropLast ++ [after.getLast hne] := by
    rw [List.append_assoc, List.dropLast_append_getLast hne]
  rw [hsplit] at hcold
  rw [hsplit, historyState_concat, if_neg (not_le.mpr hbelow), if_neg hcold, if_neg hcold']

end History

/-! ## One request -/

section Step

variable {cfg : ThermalHfpConfig} {s : ThermalSensor} {r : Request}

/-- The temperature a cooling request has accepted. -/
theorem Request.Cools.le_recovered (hcools : r.Cools cfg) (hc : s.Configured cfg) {i : ℕ} {t : ℚ}
    {ts : ℤ} {it : SensorRuntime} (hr : r.accepted? cfg = some (i, t, ts))
    (hit : s.sensors[i]? = some it) :
    t ≤ it.config.triggers.criticalTemperatureRecoveredCelsius :=
  hcools (i, t, ts) hr it.config (hc.config_eq hit)

/-- When a cooling request changes the aggregate, it lowers it. -/
theorem next_of_cools (hcfg : cfg.Valid) (hc : s.Configured cfg) (ha : s.Aggregated)
    (hcools : r.Cools cfg) (hne : (service.next s r).currentState ≠ s.currentState) :
    (service.next s r).currentState = .criticalTemperatureRecovered ∨
      (service.next s r).currentState = .normal := by
  cases hr : r.accepted? cfg with
  | none => exact absurd (congrArg PolicyState.currentState (next_of_rejected hc hr).1) hne
  | some acc =>
    obtain ⟨i, t, ts⟩ := acc
    obtain ⟨it, hit⟩ := exists_of_accepted hc hr
    have hcurrent : (service.next s r).currentState = (s.accept i t ts).1.currentState :=
      congrArg PolicyState.currentState (next_of_accepted hc hr).1
    rw [hcurrent] at hne ⊢
    obtain ⟨hstate, -, hexplains⟩ := ha.accept_changed hit hne
    have hcool := hcools.le_recovered hc hr hit
    have hvalid := hcfg.sensors _ (hc.config_mem hit)
    have hexceeded := hcool.trans_lt hvalid.recovered_lt
    rw [hstate]
    -- the sample accounts for the new aggregate, and a cool one does not account for the hot states
    generalize evaluateSensorState it t = after at hexplains ⊢
    cases after with
    | normal => exact Or.inr rfl
    | criticalTemperatureRecovered => exact Or.inl rfl
    | criticalTemperatureExceeded => exact absurd hexceeded (not_lt.mpr hexplains.1)
    | criticalShutdownImminent =>
      exact absurd (hexceeded.trans hvalid.exceeded_lt) (not_lt.mpr hexplains)

/-- **One cooling request** makes the first of the announcements still to come, or none. -/
theorem recoveryPath_next (hcfg : cfg.Valid) (hc : s.Configured cfg) (ha : s.Aggregated)
    (hcold : s.currentState ≠ .criticalShutdownImminent) (hcools : r.Cools cfg) :
    announcedStates (service.emit s r) ++ recoveryPath (service.next s r).currentState =
        recoveryPath s.currentState ∧
      (service.next s r).currentState ≠ .criticalShutdownImminent := by
  rcases announcedStates_emit hc ha r with ⟨hnone, hsame⟩ | ⟨hone, hedge⟩
  · rw [hnone, hsame]
    exact ⟨rfl, hcold⟩
  · have hlower := next_of_cools hcfg hc ha hcools hedge.ne.symm
    rw [hone]
    generalize (service.next s r).currentState = b at hedge hlower ⊢
    generalize s.currentState = a at hedge ⊢
    cases hedge with
    | exceededRecovered | recoveredNormal => exact ⟨rfl, by decide⟩
    | normalExceeded | normalShutdown | exceededShutdown | recoveredExceeded
    | recoveredShutdown => simp at hlower

end Step

/-! ## Runs -/

section Runs

variable {cfg : ThermalHfpConfig} {s : ThermalSensor}

/-- A cooling run makes announcements of the path only, from its start on. -/
theorem recoveryPath_state (hcfg : cfg.Valid) (hs : s.Reachable cfg)
    (hcold : s.currentState ≠ .criticalShutdownImminent) {requests : List Request}
    (hcools : ∀ r ∈ requests, r.Cools cfg) :
    announcedStates (service.trace s requests) ++
        recoveryPath (service.state s requests).currentState =
        recoveryPath s.currentState ∧
      (service.state s requests).currentState ≠ .criticalShutdownImminent := by
  induction requests generalizing s with
  | nil => exact ⟨rfl, hcold⟩
  | cons r requests ih =>
    obtain ⟨hpath, hcold'⟩ := recoveryPath_next hcfg hs.configured hs.aggregated hcold
      (hcools r List.mem_cons_self)
    obtain ⟨hrest, hend⟩ := ih (hs.next r) hcold' fun q hq => hcools q (List.mem_cons_of_mem r hq)
    rw [Machine.trace_cons, Machine.state_cons]
    refine ⟨?_, hend⟩
    calc announcedStates (service.emit s r ++ service.trace (service.next s r) requests) ++
          recoveryPath (service.state (service.next s r) requests).currentState
        = announcedStates (service.emit s r) ++
            (announcedStates (service.trace (service.next s r) requests) ++
              recoveryPath (service.state (service.next s r) requests).currentState) := by
          simp [announcedStates, announced]
      _ = announcedStates (service.emit s r) ++
            recoveryPath (service.next s r).currentState := by rw [hrest]
      _ = recoveryPath s.currentState := hpath

theorem temperature_le_of_cools {requests : List Request} (hcools : ∀ r ∈ requests, r.Cools cfg)
    {i : ℕ} {config : ThermalSensorConfig} (hconfig : cfg.sensors[i]? = some config) :
    ∀ t ∈ acceptedTemperatures cfg requests i,
      t ≤ config.triggers.criticalTemperatureRecoveredCelsius := by
  intro t ht
  obtain ⟨r, hr, hrt⟩ := List.mem_filterMap.mp ht
  rw [Request.temperatureFor?, Option.bind_eq_some_iff] at hrt
  obtain ⟨⟨j, u, ts⟩, hacc, hju⟩ := hrt
  dsimp only at hju
  by_cases hij : j = i
  · rw [if_pos hij, Option.some.injEq] at hju
    rw [← hju]
    exact hcools r hr (j, u, ts) hacc config (hij ▸ hconfig)
  · simp [hij] at hju

/-- **Cooling down.** From every reachable state below the latch, a run that accepts no sample
above a recovery threshold, and at least two samples for each sensor, leaves every sensor and
the aggregate normal, and it announces exactly the states in between, in order. -/
theorem cooling_recovers (hcfg : Accepted cfg) (hs : s.Reachable cfg)
    (hcold : s.currentState ≠ .criticalShutdownImminent) {requests : List Request}
    (hcools : ∀ r ∈ requests, r.Cools cfg)
    (htwice : ∀ i < cfg.sensors.length, 2 ≤ (acceptedTemperatures cfg requests i).length) :
    (∀ it ∈ (service.state s requests).sensors, it.state = .normal) ∧
      (service.state s requests).currentState = .normal ∧
      announcedStates (service.trace s requests) = recoveryPath s.currentState := by
  have hvalid := hcfg.valid
  obtain ⟨hpath, hend⟩ := recoveryPath_state hvalid hs hcold hcools
  have hnormal : ∀ it ∈ (service.state s requests).sensors, it.state = .normal := by
    intro it hmem
    obtain ⟨i, hit⟩ := List.mem_iff_getElem?.mp hmem
    obtain ⟨steadyClockMs, earlier, hearlier⟩ := hs
    have hfollows := follows_state hvalid steadyClockMs (earlier ++ requests)
    rw [Machine.state_append, hearlier] at hfollows
    have hconfig := hfollows.configured.config_eq hit
    have hlt : i < cfg.sensors.length := (List.getElem?_eq_some_iff.mp hconfig).1
    rw [hfollows.states i it hit, acceptedTemperatures, List.filterMap_append]
    exact historyState_of_cool (hvalid.sensors _ (hfollows.configured.config_mem hit))
      (temperature_le_of_cools hcools hconfig) (htwice i hlt)
  have hcurrent : (service.state s requests).currentState = .normal := by
    have haggregated := (hs.state requests).aggregated.resolve_left hend
    rw [haggregated, aggregateOf_eq_worst, ← State.bot_eq]
    refine le_bot_iff.mp (worst_le ?_)
    intro state hstate
    obtain ⟨it, hmem, rfl⟩ := List.mem_map.mp hstate
    exact (hnormal it hmem).le
  refine ⟨hnormal, hcurrent, ?_⟩
  rw [hcurrent] at hpath
  simpa [recoveryPath] using hpath

end Runs

/-- The board heats up and cools down again, in two steps. -/
theorem cooling_recovers_board :
    announcedStates (service.trace
        (service.state (initializeSensors boardProfile 0)
          [.sample ⟨"board", .finite 71, 1⟩ (.quiet 0)])
        [.sample ⟨"board", .finite 60, 2⟩ (.quiet 0),
          .sample ⟨"board", .finite 45, 3⟩ (.quiet 0)]) =
      [.criticalTemperatureRecovered, .normal] :=
  (cooling_recovers boardProfile_accepted
    ⟨0, [.sample ⟨"board", .finite 71, 1⟩ (.quiet 0)], rfl⟩
    (by decide +kernel) (by decide +kernel) (by decide +kernel)).2.2

end ThermalHal
