import ThermalHal.Sensor.Shutdown

/-!
# Hotter is never safer

Two runs over the same keys, the second at least as hot at every sample. The evaluation of
one sample is monotone in the temperature and in the stored state together: `recovered`
ranks above `normal` but is as inactive, and an active state stays active in the hotter
run. The aggregate follows, since it is latched no later.

## Main definitions

* `Hotter` — corresponding requests of the two runs.
* `Dominates` — what the second run keeps over the first.
* `hotter_never_safer` — severity and power-off after every step.
-/

namespace ThermalHal

open Lib

/-- Corresponding requests: accepted samples under one key, the second at least as hot, or
calls on the registry, which the policy does not see. -/
inductive Hotter (cfg : ThermalHfpConfig) : Request → Request → Prop
  | sample {input input' : TemperatureSample} {env env' : Environment} {i i' : ℕ} {t t' : ℚ}
      (hkey : input.sensorNameOrId = input'.sensorNameOrId)
      (hacc : acceptedSample? cfg input = some (i, t))
      (hacc' : acceptedSample? cfg input' = some (i', t')) (hle : t ≤ t') :
      Hotter cfg (.sample input env) (.sample input' env')
  | registry (call call' : RegistryCall) : Hotter cfg (.registry call) (.registry call')

/-! ## One evaluation -/

section Evaluation

variable {it it' : SensorRuntime} {t t' : ℚ}

/-- An exceeded or shutdown evaluation does not become milder when the sample is hotter. -/
theorem exceeded_le_evaluateSensorState (hactive : .criticalTemperatureExceeded ≤ it'.state ∨
      it'.config.triggers.criticalTemperatureExceededCelsius ≤ t')
    (hr : it'.config.triggers.criticalTemperatureRecoveredCelsius < t') :
    .criticalTemperatureExceeded ≤ evaluateSensorState it' t' := by
  have hspec := evaluateSensorState_spec it' t'
  generalize evaluateSensorState it' t' = after at hspec ⊢
  cases hspec with
  | shutdown hs => exact State.le_shutdown _
  | exceeded hs he => exact le_rfl
  | cooling hs he ha hr' => exact le_rfl
  | recovered hs he ha hr' => exact absurd hr (not_lt.mpr hr')
  | normal hs he ha =>
    rcases hactive with hactive | hhot
    · rw [← isActive_iff, ha] at hactive
      exact Bool.noConfusion hactive
    · exact absurd he (not_lt.mpr hhot)

/-- **The evaluation is monotone** in the stored state and the temperature together. -/
theorem evaluateSensorState_le (hvalid : it.config.Valid) (hconfig : it'.config = it.config)
    (hstate : it.state ≤ it'.state) (hle : t ≤ t') :
    evaluateSensorState it t ≤ evaluateSensorState it' t' := by
  have hspec := evaluateSensorState_spec it t
  generalize evaluateSensorState it t = after at hspec ⊢
  cases hspec with
  | shutdown hs =>
    have himminent : evaluateSensorState it' t' = .criticalShutdownImminent := by
      rw [evaluateSensorState_eq_shutdown_iff, hconfig]
      exact hs.trans hle
    exact himminent.ge
  | exceeded hs he =>
    apply exceeded_le_evaluateSensorState
    · right
      rw [hconfig]
      exact he.trans hle
    · rw [hconfig]
      exact (hvalid.recovered_lt.trans_le he).trans_le hle
  | cooling hs he ha hr =>
    apply exceeded_le_evaluateSensorState
    · left
      exact (isActive_iff.mp ha).trans hstate
    · rw [hconfig]
      exact hr.trans_le hle
  | recovered hs he ha hr =>
    have hactive := (isActive_iff.mp ha).trans hstate
    have hspec' := evaluateSensorState_spec it' t'
    generalize evaluateSensorState it' t' = after' at hspec' ⊢
    cases hspec' with
    | shutdown hs' => exact State.le_shutdown _
    | exceeded hs' he' => decide
    | cooling hs' he' ha' hr' => decide
    | recovered hs' he' ha' hr' => exact le_rfl
    | normal hs' he' ha' =>
      rw [← isActive_iff, ha'] at hactive
      exact Bool.noConfusion hactive
  | normal hs he ha => exact bot_le

end Evaluation

/-! ## One step of the two runs -/

/-- What the hotter run keeps over the other one. -/
structure Dominates (cfg : ThermalHfpConfig) (s s' : ThermalSensor) : Prop where
  reachable : s.Reachable cfg
  reachable' : s'.Reachable cfg
  state_le : ∀ (i : ℕ) (it it' : SensorRuntime), s.sensors[i]? = some it →
    s'.sensors[i]? = some it' → it.state ≤ it'.state
  imminent : s.currentState = .criticalShutdownImminent →
    s'.currentState = .criticalShutdownImminent

section Step

variable {cfg : ThermalHfpConfig} {s s' : ThermalSensor} {r r' : Request}

/-- Corresponding requests are both rejected, or both accepted for one sensor. -/
theorem Hotter.accepted (h : Hotter cfg r r') :
    r.accepted? cfg = none ∧ r'.accepted? cfg = none ∨
      ∃ i t ts t' ts', r.accepted? cfg = some (i, t, ts) ∧
        r'.accepted? cfg = some (i, t', ts') ∧ t ≤ t' := by
  cases h with
  | registry call call' => exact Or.inl ⟨rfl, rfl⟩
  | @sample input input' env env' i i' t t' hkey hacc hacc' hle =>
    right
    have hi : i = i' := by
      have hres := (acceptedSample?_eq_some.mp hacc).1
      rw [hkey, (acceptedSample?_eq_some.mp hacc').1] at hres
      exact (Option.some.inj hres).symm
    rw [← hi] at hacc'
    exact ⟨i, t, _, t', _, Request.accepted?_sample_eq_some.mpr ⟨hacc, rfl⟩,
      Request.accepted?_sample_eq_some.mpr ⟨hacc', rfl⟩, hle⟩

theorem Hotter.reachesShutdown (h : Hotter cfg r r') (hr : r.reachesShutdown cfg = true) :
    r'.reachesShutdown cfg = true := by
  rcases h.accepted with ⟨hnone, -⟩ | ⟨i, t, ts, t', ts', hacc, hacc', hle⟩
  · simp [Request.reachesShutdown, hnone] at hr
  · simp only [Request.reachesShutdown, hacc, Option.any_eq_true, decide_eq_true_eq] at hr
    obtain ⟨config, hconfig, hs⟩ := hr
    exact (Request.reachesShutdown_of_accepted hacc' hconfig).mpr (hs.trans hle)

theorem Dominates.next (hcfg : cfg.Valid) (h : Dominates cfg s s') (hr : Hotter cfg r r') :
    Dominates cfg (service.next s r) (service.next s' r') where
  reachable := h.reachable.next r
  reachable' := h.reachable'.next r'
  state_le := by
    intro j it it' hit hit'
    have hc := h.reachable.configured
    have hc' := h.reachable'.configured
    have hsame : ∀ {r r'}, r.accepted? cfg = none → r'.accepted? cfg = none →
        (service.next s r).sensors = s.sensors ∧ (service.next s' r').sensors = s'.sensors :=
      fun hnone hnone' => ⟨congrArg PolicyState.sensors (next_of_rejected hc hnone).1,
        congrArg PolicyState.sensors (next_of_rejected hc' hnone').1⟩
    rcases hr.accepted with ⟨hnone, hnone'⟩ | ⟨i, t, ts, t', ts', hacc, hacc', hle⟩
    · rw [(hsame hnone hnone').1] at hit
      rw [(hsame hnone hnone').2] at hit'
      exact h.state_le j it it' hit hit'
    · by_cases hij : i = j
      · obtain ⟨old, hold⟩ := exists_of_accepted hc hacc
        obtain ⟨old', hold'⟩ := exists_of_accepted hc' hacc'
        rw [← hij, next_getElem? hc hacc hold, Option.some.injEq] at hit
        rw [← hij, next_getElem? hc' hacc' hold', Option.some.injEq] at hit'
        have hconfig : old'.config = old.config :=
          Option.some.inj ((hc'.config_eq hold').symm.trans (hc.config_eq hold))
        rw [← hit, ← hit']
        exact evaluateSensorState_le (hcfg.sensors _ (hc.config_mem hold)) hconfig
          (h.state_le i old old' hold hold') hle
      · rw [next_getElem?_ne hc (by simp [hacc, hij])] at hit
        rw [next_getElem?_ne hc' (by simp [hacc', hij])] at hit'
        exact h.state_le j it it' hit hit'
  imminent := by
    intro himminent
    rw [next_eq_shutdown_iff h.reachable.configured h.reachable.aggregated] at himminent
    rw [next_eq_shutdown_iff h.reachable'.configured h.reachable'.aggregated]
    exact himminent.imp h.imminent hr.reachesShutdown

/-- The aggregate of the hotter run is at least as severe. -/
theorem Dominates.currentState_le (h : Dominates cfg s s') : s.currentState ≤ s'.currentState := by
  have hc := h.reachable.configured
  have hc' := h.reachable'.configured
  rcases h.reachable.aggregated with himminent | hfold
  · rw [himminent, h.imminent himminent]
  · rw [hfold, aggregateOf_eq_worst]
    apply worst_le
    intro state hstate
    obtain ⟨it, hmem, rfl⟩ := List.mem_map.mp hstate
    obtain ⟨i, hit⟩ := List.mem_iff_getElem?.mp hmem
    have hlt : i < s'.sensors.length := by
      rw [hc'.length_eq, ← hc.length_eq]
      exact (List.getElem?_eq_some_iff.mp hit).1
    have hit' := List.getElem?_eq_getElem hlt
    exact (h.state_le i it _ hit hit').trans
      (h.reachable'.aggregated.state_le (List.mem_of_getElem? hit'))

end Step

/-! ## Runs -/

theorem dominates_initializeSensors (cfg : ThermalHfpConfig) (steadyClockMs steadyClockMs' : ℤ) :
    Dominates cfg (initializeSensors cfg steadyClockMs) (initializeSensors cfg steadyClockMs') where
  reachable := ⟨steadyClockMs, Machine.reachable_refl _ _⟩
  reachable' := ⟨steadyClockMs', Machine.reachable_refl _ _⟩
  state_le := by
    intro i it it' hit hit'
    simp only [initializeSensors, List.getElem?_map, Option.map_eq_some_iff] at hit hit'
    obtain ⟨config, -, rfl⟩ := hit
    obtain ⟨config', -, rfl⟩ := hit'
    exact le_rfl
  imminent := by simp [initializeSensors]

/-- **Hotter is never reported as safer.** After every step of two runs from start-up, each
sensor's state and the aggregate are at least as severe in the hotter run, and a power-off
that the other run has requested by then it has requested too. -/
theorem hotter_never_safer {cfg : ThermalHfpConfig} (hcfg : Accepted cfg)
    (steadyClockMs steadyClockMs' : ℤ) {requests requests' : List Request}
    (h : List.Forall₂ (Hotter cfg) requests requests') (n : ℕ) :
    let s := service.state (initializeSensors cfg steadyClockMs) (requests.take n)
    let s' := service.state (initializeSensors cfg steadyClockMs') (requests'.take n)
    (∀ (i : ℕ) (it it' : SensorRuntime), s.sensors[i]? = some it → s'.sensors[i]? = some it' →
      stateSeverity it.state ≤ stateSeverity it'.state) ∧
    stateSeverity s.currentState ≤ stateSeverity s'.currentState ∧
    (.requestSystemPoweroff ∈
        service.trace (initializeSensors cfg steadyClockMs) (requests.take n) →
      .requestSystemPoweroff ∈
        service.trace (initializeSensors cfg steadyClockMs') (requests'.take n)) := by
  intro s s'
  have htake : List.Forall₂ (Hotter cfg) (requests.take n) (requests'.take n) :=
    List.forall₂_take n h
  have hstart := dominates_initializeSensors cfg steadyClockMs steadyClockMs'
  have hdominates : Dominates cfg s s' :=
    Machine.state_rel (fun _ _ _ _ hs hr => hs.next hcfg.valid hr) hstart htake
  refine ⟨hdominates.state_le, hdominates.currentState_le, ?_⟩
  rw [hstart.reachable.requestSystemPoweroff_mem_trace_iff,
    hstart.reachable'.requestSystemPoweroff_mem_trace_iff]
  rintro ⟨-, hreached⟩
  have hcold : (initializeSensors cfg steadyClockMs').currentState ≠ .criticalShutdownImminent :=
    State.noConfusion
  have himminent : s'.currentState = .criticalShutdownImminent :=
    hdominates.imminent ((hstart.reachable.imminent_state_iff _).mpr (Or.inr hreached))
  exact ⟨hcold, ((hstart.reachable'.imminent_state_iff _).mp himminent).resolve_left hcold⟩

/-- The board at these temperatures, one sample after the other. -/
def boardSamples (temperatures : List ℚ) : List Request :=
  temperatures.map fun t => .sample ⟨"board", .finite t, 1⟩ (.quiet 0)

/-- One run cools down through the hysteresis band and recovers while the hotter one, after its
power-off, is still inside the band. -/
theorem hotter_never_safer_board :
    let s := service.state (initializeSensors boardProfile 0)
      ((boardSamples [70, 65, 60, 62]).take 3)
    let s' := service.state (initializeSensors boardProfile 0)
      ((boardSamples [75, 71, 68, 65]).take 3)
    s.sensors.map SensorRuntime.state = [.criticalTemperatureRecovered] ∧
      s'.sensors.map SensorRuntime.state = [.criticalTemperatureExceeded] ∧
      stateSeverity s.currentState ≤ stateSeverity s'.currentState := by
  have hstep (t t' : ℚ) (hacc : acceptedSample? boardProfile ⟨"board", .finite t, 1⟩ = some (0, t))
      (hacc' : acceptedSample? boardProfile ⟨"board", .finite t', 1⟩ = some (0, t'))
      (hle : t ≤ t') : Hotter boardProfile (.sample ⟨"board", .finite t, 1⟩ (.quiet 0))
        (.sample ⟨"board", .finite t', 1⟩ (.quiet 0)) :=
    .sample rfl hacc hacc' hle
  have hrun : List.Forall₂ (Hotter boardProfile) (boardSamples [70, 65, 60, 62])
      (boardSamples [75, 71, 68, 65]) :=
    .cons (hstep 70 75 (by decide +kernel) (by decide +kernel) (by decide +kernel)) <|
    .cons (hstep 65 71 (by decide +kernel) (by decide +kernel) (by decide +kernel)) <|
    .cons (hstep 60 68 (by decide +kernel) (by decide +kernel) (by decide +kernel)) <|
    .cons (hstep 62 65 (by decide +kernel) (by decide +kernel) (by decide +kernel)) .nil
  exact ⟨by decide +kernel, by decide +kernel,
    (hotter_never_safer boardProfile_accepted 0 0 hrun 3).2.1⟩

end ThermalHal
