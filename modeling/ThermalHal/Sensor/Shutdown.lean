import ThermalHal.Sensor.Invariant

/-!
# The power-off over a run

`requestSystemPoweroff` is reached through the transition of the aggregate into the
imminent state, through a flag, and past a notification and a boot-reason recording
that may fail at every call. The first accepted sample at or above its sensor's
shutdown threshold is the only request of a run that reaches it. For the same reason
a failed attempt that clears the flag is never made again: the latch keeps the
aggregate imminent, so no later sample is a transition.

## Main definitions

* `Request.reachesShutdown` — an accepted sample at or above its shutdown threshold.
* `Effect.isPoweroff` — the power-off request and its process calls.
* `poweroff_exactly_once`, `retriesAfterFailure_iff` — over whole runs.
-/

namespace ThermalHal

open Lib

/-- An accepted sample at or above its sensor's shutdown threshold. -/
def Request.reachesShutdown (cfg : ThermalHfpConfig) (r : Request) : Bool :=
  match r.accepted? cfg with
  | none => false
  | some (i, t, _) => cfg.sensors[i]?.any fun config =>
      config.triggers.enteringCriticalShutdownCelsius ≤ t

/-- The power-off request and the process calls it makes. -/
def Effect.isPoweroff : Effect → Bool
  | .requestSystemPoweroff | .access _ | .fork _ | .waitpidInterrupted | .waitpid _ => true
  | _ => false

/-! ## The calls of the shutdown path -/

section Calls

variable (env : Environment) (s : ThermalSensor)

theorem isPoweroff_notifyListeners (event : ActionEvent) :
    ∀ effect ∈ notifyListeners env event s, effect.isPoweroff = false := by
  intro effect h
  rcases List.mem_cons.mp h with rfl | h
  · rfl
  · obtain ⟨listener, -, rfl⟩ := List.mem_map.mp h
    rfl

theorem isPoweroff_recordThermalShutdownReason (env : BootReasonEnvironment)
    (reasonString : String) :
    ∀ effect ∈ recordThermalShutdownReason env reasonString, effect.isPoweroff = false := by
  rw [recordThermalShutdownReason]
  split_ifs <;> simp [Effect.isPoweroff]

/-- The reason passes the length check. -/
theorem kThermalShutdownReason_length : ¬ (kThermalShutdownReason = "" ∨
    kBootReasonMaxBytes < kThermalShutdownReason.utf8ByteSize) := by decide

/-- The recording asks for the service manager. -/
theorem defaultServiceManager_mem (env : BootReasonEnvironment) :
    .defaultServiceManager env.serviceManager ∈
      recordThermalShutdownReason env kThermalShutdownReason := by
  rw [recordThermalShutdownReason, if_neg kThermalShutdownReason_length]
  cases hm : env.serviceManager <;> split_ifs <;> simp_all

/-- The recording sets the boot cause when the boot-reason service can be reached. -/
theorem setBootCause_mem (env : BootReasonEnvironment) (hmanager : env.serviceManager = true)
    (hbinder : env.binder = true) (hclient : env.client = true) :
    .setBootCause .thermalReset kThermalShutdownReason env.causeStatus ∈
      recordThermalShutdownReason env kThermalShutdownReason := by
  rw [recordThermalShutdownReason, if_neg kThermalShutdownReason_length]
  simp [hmanager, hbinder, hclient]

theorem not_mem_reapLauncher (interrupts : ℕ) (reap : ReapResult) :
    .requestSystemPoweroff ∉ reapLauncher interrupts reap := by
  induction interrupts with
  | zero => simp [reapLauncher]
  | succ n ih => simp [reapLauncher, ih]

/-- A request is its own first call and makes itself once. -/
theorem requestSystemPoweroff_calls (env : PoweroffEnvironment) :
    ∃ after, (requestSystemPoweroff env s).2 = .requestSystemPoweroff :: after ∧
      .requestSystemPoweroff ∉ after := by
  have hreap := not_mem_reapLauncher env.interrupts env.reap
  cases ha : env.accessible with
  | false => exact ⟨[.access false], by simp [requestSystemPoweroff, ha], by simp⟩
  | true =>
    cases hf : env.fork with
    | failed =>
      exact ⟨[.access true, .fork .failed], by simp [requestSystemPoweroff, ha, hf], by simp⟩
    | child pid =>
      refine ⟨.access true :: .fork (.child pid) :: reapLauncher env.interrupts env.reap, ?_,
        by simp [hreap]⟩
      rcases hr : env.reap with _ | (_ | status) | _ | _ <;>
        simp [requestSystemPoweroff, ha, hf, hr]

/-- With the flag clear, scheduling records the boot reason and then requests power-off. -/
theorem scheduleThermalShutdown_calls (reasonString : String)
    (h : s.shutdownScheduled = false) :
    ∃ after, (scheduleThermalShutdown env reasonString s).2 =
        .scheduleThermalShutdown reasonString ::
          recordThermalShutdownReason env.bootReason reasonString ++
          .requestSystemPoweroff :: after ∧
      .requestSystemPoweroff ∉ after := by
  obtain ⟨after, hcalls, hafter⟩ :=
    requestSystemPoweroff_calls { s with shutdownScheduled := true } env.poweroff
  refine ⟨after, ?_, hafter⟩
  simp only [scheduleThermalShutdown, h, Bool.false_eq_true, if_false, hcalls]

theorem scheduleThermalShutdown_shutdownScheduled (reasonString : String)
    (h : s.shutdownScheduled = false) :
    (scheduleThermalShutdown env reasonString s).1.shutdownScheduled = !env.poweroff.rearms := by
  rw [scheduleThermalShutdown_state, h]
  rfl

end Calls

/-! ## One request -/

section Step

variable {cfg : ThermalHfpConfig} {s : ThermalSensor} {r : Request}

theorem Request.reachesShutdown_of_accepted {i : ℕ} {t : ℚ} {ts : ℤ}
    {config : ThermalSensorConfig} (hr : r.accepted? cfg = some (i, t, ts))
    (hconfig : cfg.sensors[i]? = some config) :
    r.reachesShutdown cfg = true ↔ config.triggers.enteringCriticalShutdownCelsius ≤ t := by
  simp [reachesShutdown, hr, hconfig]

/-- A request makes the aggregate imminent exactly when it reaches a shutdown threshold. -/
theorem next_eq_shutdown_iff (hc : s.Configured cfg) (ha : s.Aggregated) (r : Request) :
    (service.next s r).currentState = .criticalShutdownImminent ↔
      s.currentState = .criticalShutdownImminent ∨ r.reachesShutdown cfg = true := by
  cases hr : r.accepted? cfg with
  | none =>
    have hcurrent : (service.next s r).currentState = s.currentState :=
      congrArg PolicyState.currentState (next_of_rejected hc hr).1
    simp [hcurrent, Request.reachesShutdown, hr]
  | some acc =>
    obtain ⟨i, t, ts⟩ := acc
    obtain ⟨it, hit⟩ := exists_of_accepted hc hr
    have hcurrent : (service.next s r).currentState = (s.accept i t ts).1.currentState :=
      congrArg PolicyState.currentState (next_of_accepted hc hr).1
    rw [hcurrent, ha.accept_eq_shutdown_iff hit,
      Request.reachesShutdown_of_accepted hr (hc.config_eq hit)]

/-- A request that is not the transition into the imminent state makes no power-off call
and leaves the flag alone. -/
theorem next_of_no_transition (hc : s.Configured cfg) (ha : s.Aggregated)
    (h : s.currentState = .criticalShutdownImminent ∨ r.reachesShutdown cfg = false) :
    (∀ effect ∈ service.emit s r, effect.isPoweroff = false) ∧
      (service.next s r).shutdownScheduled = s.shutdownScheduled := by
  cases r with
  | registry call => exact ⟨by simp [service, Machine.emit], rfl⟩
  | sample input env =>
    change (∀ effect ∈ (applyTemperatureSample env input s).2, effect.isPoweroff = false) ∧
      (applyTemperatureSample env input s).1.shutdownScheduled = s.shutdownScheduled
    have hcases := handling hc env input
    generalize applyTemperatureSample env input s = result at hcases ⊢
    cases hcases with
    | rejected hacc => exact ⟨by simp, rfl⟩
    | unchanged hacc haccept =>
      exact ⟨by simp, congrArg (fun x => x.1.shutdownScheduled) haccept.symm⟩
    | notified hacc haccept hstate =>
      exact ⟨isPoweroff_notifyListeners _ _ _,
        congrArg (fun x => x.1.shutdownScheduled) haccept.symm⟩
    | shutdown hacc haccept hstate =>
      -- the event would be a transition into the imminent state
      exfalso
      have hr : (Request.sample input env).accepted? cfg = _ :=
        Request.accepted?_sample_eq_some.mpr ⟨hacc, rfl⟩
      obtain ⟨it, hit⟩ := exists_of_accepted hc hr
      obtain ⟨hnew, hne⟩ := ThermalSensor.accept_some haccept
      have hold : s.currentState ≠ .criticalShutdownImminent := fun hold =>
        hne (hstate.trans hold.symm)
      have hreached := (ha.accept_eq_shutdown_iff hit _ _).mp
        ((congrArg (fun x => x.1.currentState) haccept).trans (hnew.symm.trans hstate))
      rw [← Request.reachesShutdown_of_accepted hr (hc.config_eq hit),
        h.resolve_left hold] at hreached
      exact Bool.noConfusion (hreached.resolve_left hold)

/-- The calls of one power-off attempt, split at the request: the listeners of the snapshot
and the whole boot-reason recording come before it, with the boot cause where its service can be
reached, and it is made once. -/
structure PoweroffAttempt (env : Environment) (s : ThermalSensor) (effects : List Effect)
    (event : ActionEvent) (before after : List Effect) : Prop where
  effects_eq : effects = before ++ .requestSystemPoweroff :: after
  quiet_before : ∀ effect ∈ before, effect.isPoweroff = false
  not_mem_after : .requestSystemPoweroff ∉ after
  state_eq : event.state = .criticalShutdownImminent
  notified : ∀ listener ∈ env.snapshot s,
    .onThermalStateChange listener event (env.listenerStatus listener) ∈ before
  scheduled : .scheduleThermalShutdown kThermalShutdownReason ∈ before
  recorded : ∀ effect ∈ recordThermalShutdownReason env.bootReason kThermalShutdownReason,
    effect ∈ before
  asked : .defaultServiceManager env.bootReason.serviceManager ∈ before
  persisted : env.bootReason.serviceManager = true → env.bootReason.binder = true →
    env.bootReason.client = true →
      .setBootCause .thermalReset kThermalShutdownReason env.bootReason.causeStatus ∈ before

/-- Notifying about the imminent state and then scheduling the shutdown, with the flag clear,
is one attempt. -/
theorem poweroffAttempt_of_schedule {s s' : ThermalSensor} {env : Environment}
    {event : ActionEvent} (hflag : s'.shutdownScheduled = false)
    (hsnapshot : s'.listeners = env.snapshot s)
    (hstate : event.state = .criticalShutdownImminent) :
    ∃ before after, PoweroffAttempt env s (notifyListeners env event s' ++
      (scheduleThermalShutdown env kThermalShutdownReason s').2) event before after := by
  obtain ⟨after, hcalls, hafter⟩ :=
    scheduleThermalShutdown_calls env s' kThermalShutdownReason hflag
  refine ⟨notifyListeners env event s' ++ .scheduleThermalShutdown kThermalShutdownReason ::
    recordThermalShutdownReason env.bootReason kThermalShutdownReason, after, ?_⟩
  constructor
  · simp only [hcalls, List.append_assoc, List.cons_append]
  · intro effect h
    rcases List.mem_append.mp h with h | h
    · exact isPoweroff_notifyListeners _ _ _ effect h
    · rcases List.mem_cons.mp h with rfl | h
      · rfl
      · exact isPoweroff_recordThermalShutdownReason _ _ effect h
  · exact hafter
  · exact hstate
  · intro listener h
    rw [← hsnapshot] at h
    exact List.mem_append_left _ (List.mem_cons_of_mem _ (List.mem_map_of_mem h))
  · simp
  · intro effect h
    exact List.mem_append_right _ (List.mem_cons_of_mem _ h)
  · exact List.mem_append_right _
      (List.mem_cons_of_mem _ (defaultServiceManager_mem env.bootReason))
  · intro hmanager hbinder hclient
    exact List.mem_append_right _
      (List.mem_cons_of_mem _ (setBootCause_mem env.bootReason hmanager hbinder hclient))

/-- **The transition.** With the flag clear, a sample that takes the aggregate into the
imminent state makes one power-off attempt, and the flag ends up as its outcome says. -/
theorem next_of_transition {input : TemperatureSample} {env : Environment}
    (hc : s.Configured cfg) (ha : s.Aggregated)
    (hs : s.currentState ≠ .criticalShutdownImminent) (hflag : s.shutdownScheduled = false)
    (hr : (Request.sample input env).reachesShutdown cfg = true) :
    (∃ event before after,
      PoweroffAttempt env s (applyTemperatureSample env input s).2 event before after) ∧
    (applyTemperatureSample env input s).1.shutdownScheduled = !env.poweroff.rearms := by
  have hnext : (applyTemperatureSample env input s).1.currentState = .criticalShutdownImminent :=
    (next_eq_shutdown_iff hc ha (.sample input env)).mpr (Or.inr hr)
  have hcases := handling hc env input
  generalize applyTemperatureSample env input s = result at hcases hnext ⊢
  cases hcases with
  | rejected hacc => exact absurd hnext hs
  | unchanged hacc haccept =>
    exact absurd ((ThermalSensor.accept_none haccept).symm.trans hnext) hs
  | notified hacc haccept hstate =>
    exact absurd ((ThermalSensor.accept_some haccept).1.trans hnext) hstate
  | shutdown hacc haccept hstate =>
    rename_i i t s' event
    have hflag' : (s'.interleaved env).shutdownScheduled = false := by
      rw [← hflag]
      exact congrArg (fun x => x.1.shutdownScheduled) haccept.symm
    have hsnapshot : (s'.interleaved env).listeners = env.snapshot s :=
      congrArg (fun x : ThermalSensor × _ => env.snapshot x.1) haccept.symm
    obtain ⟨before, after, hattempt⟩ := poweroffAttempt_of_schedule hflag' hsnapshot hstate
    exact ⟨⟨event, before, after, hattempt⟩,
      scheduleThermalShutdown_shutdownScheduled env _ _ hflag'⟩

end Step

/-! ## Runs -/

/-- The first element of a list with a property, and what is around it. -/
theorem exists_first {α : Type} {p : α → Bool} {l : List α} (h : ∃ x ∈ l, p x = true) :
    ∃ pre x post, l = pre ++ x :: post ∧ p x = true ∧ ∀ y ∈ pre, p y = false := by
  cases hfind : l.find? p with
  | none =>
    obtain ⟨x, hx, hpx⟩ := h
    exact absurd hpx (by simpa using List.find?_eq_none.mp hfind x hx)
  | some x =>
    obtain ⟨hpx, pre, post, heq, hpre⟩ := List.find?_eq_some_iff_append.mp hfind
    exact ⟨pre, x, post, heq, hpx, fun y hy => by simpa using hpre y hy⟩

/-- The state after a run, as far as the power-off depends on it: the aggregate is imminent
once some request reached a shutdown threshold, and until then the flag is clear. -/
structure Armed (cfg : ThermalHfpConfig) (requests : List Request) (s : ThermalSensor) :
    Prop where
  configured : s.Configured cfg
  aggregated : s.Aggregated
  imminent : s.currentState = .criticalShutdownImminent ↔
    ∃ r ∈ requests, r.reachesShutdown cfg = true
  unscheduled : s.currentState ≠ .criticalShutdownImminent → s.shutdownScheduled = false

section Runs

variable {cfg : ThermalHfpConfig} {steadyClockMs : ℤ} {requests : List Request}
  {s : ThermalSensor}

theorem armed_initializeSensors (cfg : ThermalHfpConfig) (steadyClockMs : ℤ) :
    Armed cfg [] (initializeSensors cfg steadyClockMs) where
  configured := configured_initializeSensors cfg _
  aggregated := aggregated_initializeSensors cfg _
  imminent := by simp [initializeSensors]
  unscheduled _ := rfl

theorem armed_next (h : Armed cfg requests s) (r : Request) :
    Armed cfg (requests ++ [r]) (service.next s r) where
  configured := configured_next h.configured r
  aggregated := aggregated_next h.configured h.aggregated r
  imminent := by
    rw [next_eq_shutdown_iff h.configured h.aggregated, h.imminent]
    simp [or_and_right, exists_or]
  unscheduled := by
    intro hne
    rw [ne_eq, next_eq_shutdown_iff h.configured h.aggregated, not_or] at hne
    rw [(next_of_no_transition h.configured h.aggregated
      (Or.inr (Bool.not_eq_true _ ▸ hne.2))).2]
    exact h.unscheduled hne.1

theorem armed_state (cfg : ThermalHfpConfig) (steadyClockMs : ℤ) (requests : List Request) :
    Armed cfg requests (service.state (initializeSensors cfg steadyClockMs) requests) :=
  Machine.history_induction (armed_initializeSensors cfg steadyClockMs)
    (fun _ r h => armed_next h r) requests

/-- Only a request that reaches a shutdown threshold, the first one of its run to do so,
makes power-off calls. -/
theorem Armed.first_of_mem (h : Armed cfg requests s) {r : Request} {effect : Effect}
    (hmem : effect ∈ service.emit s r) (hcall : effect.isPoweroff = true) :
    r.reachesShutdown cfg = true ∧ ∀ q ∈ requests, q.reachesShutdown cfg = false := by
  have htransition : ¬ (s.currentState = .criticalShutdownImminent ∨
      r.reachesShutdown cfg = false) := by
    intro hor
    have hquiet := (next_of_no_transition h.configured h.aggregated hor).1 effect hmem
    exact Bool.noConfusion (hquiet.symm.trans hcall)
  rw [not_or, Bool.not_eq_false, h.imminent] at htransition
  refine ⟨htransition.2, ?_⟩
  intro q hq
  by_contra hreached
  exact htransition.1 ⟨q, hq, Bool.not_eq_false _ ▸ hreached⟩

/-- The first request of a run to reach a shutdown threshold makes one attempt. -/
theorem Armed.attempt (h : Armed cfg requests s) {input : TemperatureSample}
    {env : Environment} (hfirst : ∀ q ∈ requests, q.reachesShutdown cfg = false)
    (hr : (Request.sample input env).reachesShutdown cfg = true) :
    (∃ event before after,
      PoweroffAttempt env s (applyTemperatureSample env input s).2 event before after) ∧
    (applyTemperatureSample env input s).1.shutdownScheduled = !env.poweroff.rearms := by
  have hs : s.currentState ≠ .criticalShutdownImminent := by
    rw [ne_eq, h.imminent]
    intro hex
    obtain ⟨q, hq, hreached⟩ := hex
    rw [hfirst q hq] at hreached
    exact Bool.noConfusion hreached
  exact next_of_transition h.configured h.aggregated hs (h.unscheduled hs) hr

/-- A run makes no power-off call after a shutdown threshold has been reached, and none
while no threshold is. -/
theorem isPoweroff_trace (cfg : ThermalHfpConfig) (steadyClockMs : ℤ)
    (requests rest : List Request)
    (hquiet : (∃ q ∈ requests, q.reachesShutdown cfg = true) ∨
      ∀ r ∈ rest, r.reachesShutdown cfg = false) :
    ∀ effect ∈ service.trace (service.state (initializeSensors cfg steadyClockMs) requests) rest,
      effect.isPoweroff = false := by
  intro effect hmem
  by_contra hcall
  rw [Bool.not_eq_false] at hcall
  obtain ⟨pre, r, post, heq, hemit⟩ := Machine.mem_trace_iff.mp hmem
  rw [← Machine.state_append] at hemit
  obtain ⟨hr, hfirst⟩ := (armed_state cfg steadyClockMs _).first_of_mem hemit hcall
  rcases hquiet with ⟨q, hq, hreached⟩ | hcold
  · rw [hfirst q (List.mem_append_left _ hq)] at hreached
    exact Bool.noConfusion hreached
  · rw [hcold r (by simp [heq])] at hr
    exact Bool.noConfusion hr

/-- The aggregate is imminent after a run that started so or reached a shutdown threshold. -/
theorem ThermalSensor.Reachable.imminent_state_iff (hs : s.Reachable cfg)
    (requests : List Request) :
    (service.state s requests).currentState = .criticalShutdownImminent ↔
      s.currentState = .criticalShutdownImminent ∨
        ∃ r ∈ requests, r.reachesShutdown cfg = true := by
  obtain ⟨steadyClockMs, earlier, rfl⟩ := hs
  rw [← Machine.state_append, (armed_state cfg steadyClockMs _).imminent,
    (armed_state cfg steadyClockMs earlier).imminent]
  simp only [List.mem_append, or_and_right, exists_or]

/-- **Power-off is requested along a run** exactly when the run is the one to reach a shutdown
threshold. -/
theorem ThermalSensor.Reachable.requestSystemPoweroff_mem_trace_iff (hs : s.Reachable cfg)
    (requests : List Request) :
    .requestSystemPoweroff ∈ service.trace s requests ↔
      s.currentState ≠ .criticalShutdownImminent ∧
        ∃ r ∈ requests, r.reachesShutdown cfg = true := by
  obtain ⟨steadyClockMs, earlier, rfl⟩ := hs
  have hearlier := armed_state cfg steadyClockMs earlier
  rw [ne_eq, hearlier.imminent]
  constructor
  · intro hmem
    obtain ⟨pre, r, post, rfl, hemit⟩ := Machine.mem_trace_iff.mp hmem
    rw [← Machine.state_append] at hemit
    obtain ⟨hr, hcold⟩ := (armed_state cfg steadyClockMs _).first_of_mem hemit rfl
    refine ⟨?_, r, by simp, hr⟩
    rintro ⟨q, hq, hreached⟩
    rw [hcold q (List.mem_append_left _ hq)] at hreached
    exact Bool.noConfusion hreached
  · rintro ⟨hcold, hex⟩
    obtain ⟨pre, r, post, rfl, hr, hpre⟩ := exists_first hex
    rw [Machine.mem_trace_iff]
    refine ⟨pre, r, post, rfl, ?_⟩
    rw [← Machine.state_append]
    cases r with
    | registry call => simp [Request.reachesShutdown, Request.accepted?] at hr
    | sample input env =>
      have hfirst : ∀ q ∈ earlier ++ pre, q.reachesShutdown cfg = false := by
        intro q hq
        rcases List.mem_append.mp hq with hq | hq
        · by_contra hreached
          exact hcold ⟨q, hq, Bool.not_eq_false _ ▸ hreached⟩
        · exact hpre q hq
      obtain ⟨⟨event, before, after, hattempt⟩, -⟩ :=
        (armed_state cfg steadyClockMs _).attempt hfirst hr
      change .requestSystemPoweroff ∈ (applyTemperatureSample env input _).2
      rw [hattempt.effects_eq]
      simp

/-- A run makes no power-off call, or its first one is the only request. -/
theorem trace_poweroff (cfg : ThermalHfpConfig) (steadyClockMs : ℤ) (requests : List Request) :
    let trace := service.trace (initializeSensors cfg steadyClockMs) requests
    (∀ effect ∈ trace, effect.isPoweroff = false) ∨
      ∃ before after, trace = before ++ .requestSystemPoweroff :: after ∧
        (∀ effect ∈ before, effect.isPoweroff = false) ∧ .requestSystemPoweroff ∉ after := by
  intro trace
  by_cases hex : ∃ r ∈ requests, r.reachesShutdown cfg = true
  · right
    obtain ⟨pre, r, post, rfl, hr, hpre⟩ := exists_first hex
    have hbefore : ∀ effect ∈ service.trace (initializeSensors cfg steadyClockMs) pre,
        effect.isPoweroff = false := isPoweroff_trace cfg _ [] pre (Or.inr hpre)
    have hafter := isPoweroff_trace cfg steadyClockMs (pre ++ [r]) post
      (Or.inl ⟨r, by simp, hr⟩)
    rw [Machine.state_append, Machine.state_cons, Machine.state_nil] at hafter
    have htrace : trace = _ := Machine.trace_append ..
    cases r with
    | registry call => simp [Request.reachesShutdown, Request.accepted?] at hr
    | sample input env =>
      obtain ⟨⟨event, before, after, hattempt⟩, -⟩ :=
        (armed_state cfg steadyClockMs pre).attempt hpre hr
      have hemit : service.emit (service.state (initializeSensors cfg steadyClockMs) pre)
          (.sample input env) = before ++ .requestSystemPoweroff :: after := hattempt.effects_eq
      rw [Machine.trace_cons, hemit, List.append_assoc, List.cons_append, ← List.append_assoc]
        at htrace
      refine ⟨_, _, htrace, ?_, ?_⟩
      · intro effect hmem
        exact (List.mem_append.mp hmem).elim (hbefore effect) (hattempt.quiet_before effect)
      · intro hmem
        rcases List.mem_append.mp hmem with hmem | hmem
        · exact hattempt.not_mem_after hmem
        · exact Bool.noConfusion (hafter _ hmem)
  · left
    refine isPoweroff_trace cfg _ [] requests (Or.inr fun r hr => ?_)
    by_contra hreached
    exact hex ⟨r, hr, Bool.not_eq_false _ ▸ hreached⟩

/-- What follows another power-off call cannot be the request. -/
theorem not_mem_of_poweroff {before after before' after' : List Effect} {effect : Effect}
    (hbefore : ∀ e ∈ before, e.isPoweroff = false) (hafter : .requestSystemPoweroff ∉ after)
    (hcall : effect.isPoweroff = true) (hne : effect ≠ .requestSystemPoweroff)
    (heq : before ++ .requestSystemPoweroff :: after = before' ++ effect :: after') :
    .requestSystemPoweroff ∉ after' := by
  rcases List.append_eq_append_iff.mp heq with ⟨mid, -, htail⟩ | ⟨mid, hhead, htail⟩
  · cases mid with
    | nil => exact absurd (List.cons.inj htail).1.symm hne
    | cons first mid =>
      obtain ⟨-, rfl⟩ := List.cons.inj htail
      intro hmem
      exact hafter (List.mem_append_right _ (List.mem_cons_of_mem _ hmem))
  · cases mid with
    | nil => exact absurd (List.cons.inj htail).1 hne
    | cons first mid =>
      obtain ⟨rfl, -⟩ := List.cons.inj htail
      have hquiet := hbefore effect (by rw [hhead]; simp)
      rw [hcall] at hquiet
      exact Bool.noConfusion hquiet

end Runs

/-- **Power-off is neither spurious, missed nor doubled.** Over every run and whatever its
environment answers: a request for power-off comes from an accepted sample at or above its
sensor's shutdown threshold; the first such sample makes exactly one attempt, after its
listeners and the boot reason; and none follows a launcher that completed. -/
theorem poweroff_exactly_once (cfg : ThermalHfpConfig) (steadyClockMs : ℤ)
    (requests : List Request) :
    (∀ pre r post, requests = pre ++ r :: post →
      .requestSystemPoweroff ∈
          service.emit (service.state (initializeSensors cfg steadyClockMs) pre) r →
        r.reachesShutdown cfg = true) ∧
    (∀ pre input env post, requests = pre ++ .sample input env :: post →
      (∀ q ∈ pre, q.reachesShutdown cfg = false) →
      (Request.sample input env).reachesShutdown cfg = true →
        let s := service.state (initializeSensors cfg steadyClockMs) pre
        ∃ event before after,
          PoweroffAttempt env s (applyTemperatureSample env input s).2 event before after) ∧
    (∀ before after,
      service.trace (initializeSensors cfg steadyClockMs) requests =
          before ++ .waitpid (.reaped (.exited 0)) :: after →
        .requestSystemPoweroff ∉ after) := by
  refine ⟨?_, ?_, ?_⟩
  · intro pre r post _ hmem
    exact ((armed_state cfg steadyClockMs pre).first_of_mem hmem rfl).1
  · intro pre input env post _ hfirst hr
    exact ((armed_state cfg steadyClockMs pre).attempt hfirst hr).1
  · intro before after heq
    rcases trace_poweroff cfg steadyClockMs requests with
      hquiet | ⟨before', after', htrace, hbefore, hafter⟩
    · have hcall := hquiet (.waitpid (.reaped (.exited 0))) (by rw [heq]; simp)
      exact Bool.noConfusion hcall
    · exact not_mem_of_poweroff hbefore hafter rfl (by simp) (htrace.symm.trans heq)

/-- A board that overheats at its first sample. -/
theorem poweroff_exactly_once_board :
    ∃ event before after,
      PoweroffAttempt (.quiet 0) (initializeSensors boardProfile 0)
        (applyTemperatureSample (.quiet 0) ⟨"board", .finite 75, 1⟩
          (initializeSensors boardProfile 0)).2 event before after :=
  (poweroff_exactly_once boardProfile 0 [.sample ⟨"board", .finite 75, 1⟩ (.quiet 0)]).2.1 []
    ⟨"board", .finite 75, 1⟩ (.quiet 0) [] rfl (by simp) (by decide +kernel)

/-! ## The retry after a failed attempt -/

/-- The request failed in a way that set the shutdown flag back to false. -/
def Rearmed (s : ThermalSensor) (r : Request) : Prop :=
  .requestSystemPoweroff ∈ service.emit s r ∧ (service.next s r).shutdownScheduled = false

/-- After every re-arming failure of a run, the next accepted sample at or above its
sensor's shutdown threshold schedules the shutdown and requests power-off again. -/
def RetriesAfterFailure (cfg : ThermalHfpConfig) (steadyClockMs : ℤ) (requests : List Request) :
    Prop :=
  ∀ pre r mid q post, requests = pre ++ r :: mid ++ q :: post →
    Rearmed (service.state (initializeSensors cfg steadyClockMs) pre) r →
    (∀ x ∈ mid, x.reachesShutdown cfg = false) → q.reachesShutdown cfg = true →
      let s := service.state (initializeSensors cfg steadyClockMs) (pre ++ r :: mid)
      .scheduleThermalShutdown kThermalShutdownReason ∈ service.emit s q ∧
        .requestSystemPoweroff ∈ service.emit s q

/-- When the first sample to reach a shutdown threshold re-arms the flag, no later one
reaches a threshold. -/
def NoSampleAfterRearm (cfg : ThermalHfpConfig) (requests : List Request) : Prop :=
  ∀ pre input env post, requests = pre ++ .sample input env :: post →
    (∀ x ∈ pre, x.reachesShutdown cfg = false) →
    (Request.sample input env).reachesShutdown cfg = true → env.poweroff.rearms = true →
      ∀ q ∈ post, q.reachesShutdown cfg = false

/-- **The retry never happens.** A run retries after its re-arming failures exactly when it
has nothing to retry: the latch keeps the aggregate imminent, so the sample that should
retry is no transition and never gets as far as the flag. -/
theorem retriesAfterFailure_iff (cfg : ThermalHfpConfig) (steadyClockMs : ℤ)
    (requests : List Request) :
    RetriesAfterFailure cfg steadyClockMs requests ↔ NoSampleAfterRearm cfg requests := by
  constructor
  · intro hretries pre input env post heq hpre hr hrearms q hq
    by_contra hreached
    rw [Bool.not_eq_false] at hreached
    -- the first sample after the failure that reaches a threshold
    obtain ⟨mid, q', rest, rfl, hq', hmid⟩ :=
      exists_first (p := Request.reachesShutdown cfg) ⟨q, hq, hreached⟩
    obtain ⟨⟨event, before, after, hattempt⟩, hflag⟩ :=
      (armed_state cfg steadyClockMs pre).attempt hpre hr
    have hrearmed : Rearmed (service.state (initializeSensors cfg steadyClockMs) pre)
        (.sample input env) := by
      constructor
      · change .requestSystemPoweroff ∈ (applyTemperatureSample env input _).2
        rw [hattempt.effects_eq]
        simp
      · change (applyTemperatureSample env input _).1.shutdownScheduled = false
        rw [hflag, hrearms]
        rfl
    have hagain := (hretries pre _ mid q' rest (by simp [heq]) hrearmed hmid hq').2
    have hfirst := ((armed_state cfg steadyClockMs _).first_of_mem hagain rfl).2
      (.sample input env) (by simp)
    rw [hr] at hfirst
    exact Bool.noConfusion hfirst
  · intro hcond pre r mid q post heq hrearmed hmid hq
    exfalso
    have harmed := armed_state cfg steadyClockMs pre
    obtain ⟨hr, hpre⟩ := harmed.first_of_mem hrearmed.1 rfl
    cases r with
    | registry call => simp [Request.reachesShutdown, Request.accepted?] at hr
    | sample input env =>
      have hflag := (harmed.attempt hpre hr).2
      have hrearms : env.poweroff.rearms = true := by
        have hclear : (applyTemperatureSample env input
            (service.state (initializeSensors cfg steadyClockMs) pre)).1.shutdownScheduled =
              false := hrearmed.2
        simpa [hflag] using hclear
      have hnone := hcond pre input env (mid ++ q :: post) (by simp [heq]) hpre hr hrearms q
        (by simp)
      rw [hq] at hnone
      exact Bool.noConfusion hnone

/-- `fork` fails while the board overheats, and the next hot sample is ignored. -/
theorem not_retriesAfterFailure_board :
    ¬ ∀ cfg, Accepted cfg → ∀ steadyClockMs requests,
      RetriesAfterFailure cfg steadyClockMs requests := by
  intro h
  have hrun := h boardProfile boardProfile_accepted 0
    [.sample ⟨"board", .finite 75, 1⟩ { Environment.quiet 0 with poweroff.fork := .failed },
      .sample ⟨"board", .finite 76, 2⟩ (.quiet 0)]
  have hagain := (hrun [] _ [] _ [] rfl ⟨by decide +kernel, by decide +kernel⟩ (by simp)
    (by decide +kernel)).2
  revert hagain
  decide +kernel

end ThermalHal
