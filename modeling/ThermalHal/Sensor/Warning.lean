import ThermalHal.Sensor.Shutdown
import ThermalHal.Sensor.Subscription

/-!
# The power-off in an interleaved run

Between the sample that makes the aggregate imminent and the power-off lies a notification, and
registrations, unregistrations and reads fall between its steps. The request is made once all
the same, at the end of that notification, so every client that has been registered since the
registry was copied has been called before.

## Main definitions

* `Concurrent.PoweroffDue` — the requests made and the one still to come.
* `poweroff_once_interleaved` — when a run has made the request.
* `subscriber_warned` — what is before the request.
-/

namespace ThermalHal

open Lib

universe u

variable {γ : Type u}

/-! ## The event in the worker's hands -/

/-- The worker holds an event that announces the imminent state. -/
def Worker.imminent : Worker → Bool
  | .idle => false
  | .changed event => event.state = .criticalShutdownImminent
  | .notifying event _ => event.state = .criticalShutdownImminent

/-- The event the worker holds. -/
def Worker.inHand : Worker → List ActionEvent
  | .idle => []
  | .changed event => [event]
  | .notifying event _ => [event]

/-- The event a step is the end of. -/
def Concurrent.finished (c : Concurrent γ) : ConcurrentStep γ → List ActionEvent
  | .afterNotification _ =>
      match c.worker with
      | .notifying event [] => [event]
      | _ => []
  | _ => []

/-- The locked update leaves the flag alone. -/
theorem shutdownScheduled_of_locked {steadyClockMs : ℤ} {sample : TemperatureSample}
    {s locked : ThermalSensor} {event? : Option ActionEvent}
    (h : applyTemperatureSampleLocked steadyClockMs sample s = (locked, event?)) :
    locked.shutdownScheduled = s.shutdownScheduled := by
  have hc : s.Configured { sensors := s.sensors.map SensorRuntime.config } := rfl
  have hlocked : locked = (applyTemperatureSampleLocked steadyClockMs sample s).1 := by rw [h]
  rw [hlocked, applyTemperatureSampleLocked_eq hc]
  cases acceptedSample? { sensors := s.sensors.map SensorRuntime.config } sample <;> rfl

/-- An event is raised below the latch only. -/
theorem currentState_ne_of_event {steadyClockMs : ℤ} {sample : TemperatureSample}
    {s locked : ThermalSensor} {event : ActionEvent}
    (h : applyTemperatureSampleLocked steadyClockMs sample s = (locked, some event)) :
    s.currentState ≠ .criticalShutdownImminent := by
  have hc : s.Configured { sensors := s.sensors.map SensorRuntime.config } := rfl
  rw [applyTemperatureSampleLocked_eq hc] at h
  intro hlatched
  cases hacc : acceptedSample? { sensors := s.sensors.map SensorRuntime.config } sample with
  | none => simp [hacc] at h
  | some acc => simp [hacc, ThermalSensor.accept, hlatched] at h

/-- With the flag clear, scheduling requests the power-off once. -/
theorem count_scheduleThermalShutdown (env : Environment) {s : ThermalSensor}
    (h : s.shutdownScheduled = false) :
    (scheduleThermalShutdown env kThermalShutdownReason s).2.count .requestSystemPoweroff = 1 := by
  obtain ⟨after, hcalls, hafter⟩ := scheduleThermalShutdown_calls env s kThermalShutdownReason h
  have hrecorded : .requestSystemPoweroff ∉
      recordThermalShutdownReason env.bootReason kThermalShutdownReason := fun hmem =>
    Bool.noConfusion (isPoweroff_recordThermalShutdownReason _ _ _ hmem)
  rw [hcalls, List.count_append, List.count_cons_self, List.count_eq_zero_of_not_mem hafter,
    List.count_cons_of_ne (by simp), List.count_eq_zero_of_not_mem hrecorded]

/-- The requests made and the one still to come are as many as the aggregate calls for, and the
flag is clear until then. -/
structure Concurrent.PoweroffDue (log : List Effect) (c : Concurrent γ) : Prop where
  count_eq : log.count .requestSystemPoweroff + c.worker.imminent.toNat =
    (decide (c.service.currentState = .criticalShutdownImminent)).toNat
  unscheduled : c.worker.imminent = true ∨ c.service.currentState ≠ .criticalShutdownImminent →
    c.service.shutdownScheduled = false

section Poweroff

variable [DecidableEq γ] (owner : ℕ → γ) {c : Concurrent γ}

theorem poweroffDue_next {log : List Effect} (h : c.PoweroffDue log) (step : ConcurrentStep γ) :
    ((concurrent owner).next c step).PoweroffDue (log ++ (concurrent owner).emit c step) := by
  have hmove := concurrentMove owner c step
  generalize (concurrent owner).next c step = c',
    (concurrent owner).emit c step = effects at hmove ⊢
  have ⟨hcount, hflag⟩ := h
  cases hmove with
  | still step hpoints hraised => simpa using h
  | unchanged sample steadyClockMs locked hworker hlocked =>
    have hstate := (applyTemperatureSampleLocked_none hlocked).1
    have hsame := shutdownScheduled_of_locked hlocked
    constructor
    · simpa [hworker, hstate] using hcount
    · simpa [hworker, hstate, hsame] using hflag
  | changed sample steadyClockMs locked event hworker hlocked =>
    have hcold := currentState_ne_of_event hlocked
    have hstate := (applyTemperatureSampleLocked_some hlocked).1
    have hsame := shutdownScheduled_of_locked hlocked
    constructor
    · have hnone : log.count .requestSystemPoweroff = 0 := by
        simpa [hworker, hcold, Worker.imminent] using hcount
      simp [hnone, hstate, Worker.imminent]
    · intro _
      exact hsame.trans (hflag (Or.inr hcold))
  | copied event hworker =>
    constructor
    · simpa [hworker, Worker.imminent] using hcount
    · simpa [hworker, Worker.imminent] using hflag
  | called event listener remaining isOk hworker =>
    constructor
    · simpa [hworker, Worker.imminent] using hcount
    · simpa [hworker, Worker.imminent] using hflag
  | finished event env hworker hstate =>
    constructor
    · simpa [hworker, hstate, Worker.imminent] using hcount
    · simpa [hworker, hstate, Worker.imminent] using hflag
  | scheduled event env hworker hstate =>
    -- the aggregate is imminent, and its power-off has not been requested yet
    have hpending : c.worker.imminent = true := by simp [hworker, hstate, Worker.imminent]
    have hclear := hflag (Or.inl hpending)
    have hcurrent : c.service.currentState = .criticalShutdownImminent := by
      by_contra hcold
      simp [hpending, hcold] at hcount
    have hnone : log.count .requestSystemPoweroff = 0 := by
      simpa [hpending, hcurrent] using hcount
    constructor
    · simp [count_scheduleThermalShutdown env hclear, hnone, scheduleThermalShutdown_state,
        hcurrent, Worker.imminent]
    · simp [scheduleThermalShutdown_state, hcurrent, Worker.imminent]
  | registry call | read client =>
    constructor
    · simpa using hcount
    · simpa using hflag

theorem poweroffDue_state (cfg : ThermalHfpConfig) (steadyClockMs : ℤ)
    (steps : List (ConcurrentStep γ)) :
    ((concurrent owner).state (.start γ cfg steadyClockMs) steps).PoweroffDue
      ((concurrent owner).trace (.start γ cfg steadyClockMs) steps) :=
  Machine.trace_induction (P := fun log (c : Concurrent γ) => c.PoweroffDue log)
    ⟨rfl, fun _ => rfl⟩ (fun _ _ step h => poweroffDue_next owner h step) steps

/-- **The power-off in an interleaved run.** However registrations and reads fall between the
worker's steps, the power-off is requested once when a sample that has taken effect reached its
sensor's shutdown threshold, as soon as the worker is done with that event, and never
otherwise. -/
theorem poweroff_once_interleaved (cfg : ThermalHfpConfig) (steadyClockMs : ℤ)
    (steps : List (ConcurrentStep γ)) :
    let c := (concurrent owner).state (.start γ cfg steadyClockMs) steps
    let log := (concurrent owner).trace (.start γ cfg steadyClockMs) steps
    log.count .requestSystemPoweroff ≤ 1 ∧
      (.requestSystemPoweroff ∈ log ↔ c.worker.imminent = false ∧
        ∃ r ∈ sequential owner (.start γ cfg steadyClockMs) steps,
          r.reachesShutdown cfg = true) := by
  intro c log
  have hdue : c.PoweroffDue log := poweroffDue_state owner cfg steadyClockMs steps
  have hagree := agree_state owner (agree_start (γ := γ) cfg steadyClockMs) steps
  have hreached : c.service.currentState = .criticalShutdownImminent ↔
      ∃ r ∈ sequential owner (.start γ cfg steadyClockMs) steps, r.reachesShutdown cfg = true := by
    rw [hagree.currentState_eq]
    exact (armed_state cfg steadyClockMs _).imminent
  have hcount := hdue.count_eq
  rw [← hreached, ← List.one_le_count_iff]
  generalize log.count .requestSystemPoweroff = requests at hcount ⊢
  by_cases hcurrent : c.service.currentState = .criticalShutdownImminent <;>
    cases hworker : c.worker.imminent <;> simp [hworker, hcurrent] at hcount ⊢ <;> omega

/-- The event in hand is the one before or a raised one, until the step it ends with. -/
theorem inHand_worker_next (c : Concurrent γ) (step : ConcurrentStep γ) :
    c.worker.inHand ++ c.raised step =
      c.finished step ++ ((concurrent owner).next c step).worker.inHand := by
  cases hfinished : c.finished step with
  | cons event rest =>
    rcases step with _ | _ | _ | env | _ | _
    case afterNotification =>
      cases hworker : c.worker with
      | notifying raised remaining =>
        cases remaining with
        | nil =>
          rw [← hfinished, Machine.next, step_afterNotification owner hworker]
          split_ifs <;> simp [Concurrent.finished, Concurrent.raised, Worker.inHand, hworker]
        | cons listener remaining => simp [Concurrent.finished, hworker] at hfinished
      | idle | changed => simp [Concurrent.finished, hworker] at hfinished
    all_goals cases hfinished
  | nil =>
    have hmove := concurrentMove owner c step
    generalize (concurrent owner).next c step = c',
      (concurrent owner).emit c step = effects at hmove ⊢
    cases hmove with
    | still step hpoints hraised => simp [hraised]
    | unchanged sample steadyClockMs locked hworker hlocked
    | changed sample steadyClockMs locked event hworker hlocked =>
      simp [Concurrent.raised, Worker.inHand, hworker, hlocked]
    | copied event hworker | called event listener remaining isOk hworker =>
      simp [Concurrent.raised, Worker.inHand, hworker]
    | finished event env hworker | scheduled event env hworker =>
      simp [Concurrent.finished, hworker] at hfinished
    | registry | read => simp [Concurrent.raised]

/-- The request is made at the end of a notification of the imminent state. -/
theorem request_of_emit {step : ConcurrentStep γ}
    (h : .requestSystemPoweroff ∈ (concurrent owner).emit c step) :
    ∃ event, c.worker = .notifying event [] ∧ event.state = .criticalShutdownImminent := by
  have hmove := concurrentMove owner c step
  generalize (concurrent owner).next c step = c', (concurrent owner).emit c step = effects
    at hmove h
  cases hmove with
  | scheduled event env hworker hstate => exact ⟨event, hworker, hstate⟩
  | _ => simp at h

/-- **Every subscriber is warned.** Let a binder be registered in a state in which the worker has
not already copied the registry for an imminent event, and stay registered. Then whatever the
power-off request comes after, a callback with the imminent state on that binder is before it. -/
theorem subscriber_warned (cfg : ThermalHfpConfig) (steadyClockMs : ℤ)
    (before : List (ConcurrentStep γ)) (binder : ℕ) (hbefore : Registered before binder)
    (hcopy : ∀ event remaining,
      ((concurrent owner).state (.start γ cfg steadyClockMs) before).worker =
        .notifying event remaining → event.state ≠ .criticalShutdownImminent)
    (steps : List (ConcurrentStep γ)) (hsteps : ∀ step ∈ steps, ¬ step.unregisters binder)
    (earlier later : List Effect)
    (htrace : (concurrent owner).trace
      ((concurrent owner).state (.start γ cfg steadyClockMs) before) steps =
        earlier ++ .requestSystemPoweroff :: later) :
    ∃ event ∈ deliveredTo binder earlier, event.state = .criticalShutdownImminent := by
  obtain ⟨pre, step, post, first, last, rfl, hemit, rfl⟩ := Machine.exists_of_trace_eq htrace
  generalize hc : (concurrent owner).state (.start γ cfg steadyClockMs) before = c at *
  have hmem : binder ∈ c.binders := by
    rw [← hc]
    exact ((lists_state owner cfg steadyClockMs before).mem_iff _).mpr hbefore
  have hdistinct : c.Distinct := hc ▸ distinct_state owner cfg steadyClockMs before
  obtain ⟨event, hworker, hstate⟩ := request_of_emit owner (by rw [hemit]; simp)
  -- the event is in hand there, so it was raised on the way or was in hand before
  have hhand := Machine.conserved (M := concurrent owner) (P := fun _ => True)
    (Q := fun _ => True) (fun c => c.worker.inHand) Concurrent.raised Concurrent.finished
    (fun _ _ _ _ => trivial) (fun c step _ _ => inHand_worker_next owner c step) (s := c) trivial
    pre (fun _ _ => trivial)
  have hevent : event ∈ c.owed binder ++ (concurrent owner).collect Concurrent.raised c pre := by
    have hin : event ∈ c.worker.inHand ++ (concurrent owner).collect Concurrent.raised c pre := by
      rw [hhand, hworker]
      simp [Worker.inHand]
    rw [List.mem_append] at hin ⊢
    refine hin.imp_left fun hold => ?_
    cases hworker' : c.worker with
    | idle => simp [hworker', Worker.inHand] at hold
    | changed raised =>
      rw [owed_of_changed binder hworker', if_pos hmem]
      simpa [hworker', Worker.inHand] using hold
    | notifying raised remaining =>
      have hsame : event = raised := by simpa [hworker', Worker.inHand] using hold
      exact absurd (hsame ▸ hstate) (hcopy raised remaining hworker')
  -- nothing is owed when the request is made
  rw [deliveredTo_trace_of_mem owner hdistinct hmem pre fun step h => hsteps step (by simp [h]),
    owed_of_notifying binder hworker] at hevent
  refine ⟨event, ?_, hstate⟩
  rw [deliveredTo_append, List.mem_append]
  left
  simpa using hevent

end Poweroff

/-- The power-off of a board that gets too hot, with one client. -/
theorem subscriber_warned_board :
    let log := (concurrent id).trace ((concurrent id).state (.start ℕ boardProfile 0)
        [.registry (.register (some ⟨0, 7⟩) true)])
      [.applyTemperatureSample ⟨"board", .finite 75, 1⟩ 0, .copyListeners,
        .onThermalStateChange false, .afterNotification (.quiet 0)]
    .requestSystemPoweroff ∈ log ∧
      ∃ event ∈ deliveredTo 7 (log.takeWhile (· ≠ .requestSystemPoweroff)),
        event.state = .criticalShutdownImminent := by
  intro log
  have hsplit : log = log.takeWhile (· ≠ .requestSystemPoweroff) ++ .requestSystemPoweroff ::
      (log.dropWhile (· ≠ .requestSystemPoweroff)).tail := by decide +kernel
  refine ⟨by decide +kernel, ?_⟩
  exact subscriber_warned id boardProfile 0 [.registry (.register (some ⟨0, 7⟩) true)] 7
    (by decide) (fun _ _ h => by cases h) _ (by simp [ConcurrentStep.unregisters]) _ _ hsplit

end ThermalHal
