import ThermalHal.Lib.Broadcast
import ThermalHal.Sensor.Invariant

/-!
# One worker and many clients

`applyTemperatureSample` holds the mutex twice, for the update and for the copy of the
registry, and calls the listeners without it. Here every critical section and every
listener call is a step of its own, so registrations and reads of other threads land
anywhere between them. The steps a lone worker makes add up to `applyTemperatureSample`
(`runs_workerSteps`), and the whole machine refines the broadcast protocol
(`broadcastOf_state`), from which `reader_holds_currentState` follows.

## Main definitions

* `Worker`, `Concurrent`, `concurrent` — the machine.
* `ConcurrentStep` — critical sections, listener calls and the power-off.
* `Concurrent.broadcastOf` — the protocol state it refines.
-/

namespace ThermalHal

open Lib

universe u

/-- Where the worker is inside `applyTemperatureSample`. -/
inductive Worker
  | idle
  | changed (event : ActionEvent)
  | notifying (event : ActionEvent) (remaining : List IThermalEventListener)
  deriving DecidableEq

/-- The service, its worker, and for each client the value it got last, from a read or from
a callback. -/
structure Concurrent (γ : Type u) where
  service : ThermalSensor
  worker : Worker
  held : γ → Option State

/-- One atomic step of the worker (the first four) or of another thread. -/
inductive ConcurrentStep (γ : Type u)
  | applyTemperatureSample (sample : TemperatureSample) (steadyClockMs : ℤ)
  | copyListeners
  | onThermalStateChange (isOk : Bool)
  | afterNotification (env : Environment)
  | registry (call : RegistryCall)
  | getCurrentThermalState (client : γ)

/-- The client's step that takes its listener out of the registry. -/
def ConcurrentStep.unregisters {γ : Type u} (binder : ℕ) : ConcurrentStep γ → Prop
  | .registry (.unregister (some listener) _) => listener.asBinder = binder
  | _ => False

section Machine

variable {γ : Type u} [DecidableEq γ]

/-- The machine. `owner` is the client behind a binder; a listener call reaches it, whatever
status the call returns. Steps the worker is not at do nothing. -/
def concurrent (owner : ℕ → γ) : Machine (Concurrent γ) (ConcurrentStep γ) Effect where
  step c
    | .applyTemperatureSample sample steadyClockMs =>
        match c.worker with
        | .idle =>
            let locked := applyTemperatureSampleLocked steadyClockMs sample c.service
            ({ c with
                service := locked.1
                worker :=
                  match locked.2 with
                  | none => .idle
                  | some event => .changed event }, [])
        | _ => (c, [])
    | .copyListeners =>
        match c.worker with
        | .changed event =>
            ({ c with worker := .notifying event c.service.listeners }, [.notifyListeners event])
        | _ => (c, [])
    | .onThermalStateChange isOk =>
        match c.worker with
        | .notifying event (listener :: remaining) =>
            ({ c with
                worker := .notifying event remaining
                held := Function.update c.held (owner listener.asBinder) (some event.state) },
              [.onThermalStateChange listener event isOk])
        | _ => (c, [])
    | .afterNotification env =>
        match c.worker with
        | .notifying event [] =>
            if event.state = .criticalShutdownImminent then
              let scheduled := scheduleThermalShutdown env kThermalShutdownReason c.service
              ({ c with service := scheduled.1, worker := .idle }, scheduled.2)
            else ({ c with worker := .idle }, [])
        | _ => (c, [])
    | .registry call =>
        ({ c with service := { c.service with listeners := call.apply c.service.listeners } }, [])
    | .getCurrentThermalState client =>
        ({ c with held := Function.update c.held client (some (getCurrentThermalState c.service)) },
          [])

/-- The machine as the service starts it: no client has been told anything. -/
def Concurrent.start (γ : Type u) (cfg : ThermalHfpConfig) (steadyClockMs : ℤ) : Concurrent γ :=
  ⟨initializeSensors cfg steadyClockMs, .idle, fun _ => none⟩

/-- The worker is not between a state change and the end of its notification. -/
def Worker.Settled : Worker → Prop
  | .idle => True
  | .changed _ => False
  | .notifying _ remaining => remaining = []

/-! ## The worker's steps -/

section Steps

variable (owner : ℕ → γ) {c : Concurrent γ} {event : ActionEvent}

theorem step_applyTemperatureSample (h : c.worker = .idle) (sample : TemperatureSample)
    (steadyClockMs : ℤ) :
    (concurrent owner).step c (.applyTemperatureSample sample steadyClockMs) =
      ({ c with
          service := (applyTemperatureSampleLocked steadyClockMs sample c.service).1
          worker :=
            match (applyTemperatureSampleLocked steadyClockMs sample c.service).2 with
            | none => .idle
            | some event => .changed event }, []) := by
  simp only [concurrent, h]

theorem step_copyListeners (h : c.worker = .changed event) :
    (concurrent owner).step c .copyListeners =
      ({ c with worker := .notifying event c.service.listeners }, [.notifyListeners event]) := by
  simp only [concurrent, h]

theorem step_onThermalStateChange {listener : IThermalEventListener}
    {remaining : List IThermalEventListener}
    (h : c.worker = .notifying event (listener :: remaining)) (isOk : Bool) :
    (concurrent owner).step c (.onThermalStateChange isOk) =
      ({ c with
          worker := .notifying event remaining
          held := Function.update c.held (owner listener.asBinder) (some event.state) },
        [.onThermalStateChange listener event isOk]) := by
  simp only [concurrent, h]

theorem step_afterNotification (h : c.worker = .notifying event []) (env : Environment) :
    (concurrent owner).step c (.afterNotification env) =
      if event.state = .criticalShutdownImminent then
        ({ c with
            service := (scheduleThermalShutdown env kThermalShutdownReason c.service).1
            worker := .idle },
          (scheduleThermalShutdown env kThermalShutdownReason c.service).2)
      else ({ c with worker := .idle }, []) := by
  simp only [concurrent, h]

end Steps

/-! ## A lone worker -/

section Alone

variable (owner : ℕ → γ)

theorem runs_registry (calls : List RegistryCall) (c : Concurrent γ) :
    (concurrent owner).Runs c (calls.map .registry)
      { c with service := { c.service with
          listeners := calls.foldl RegistryCall.apply c.service.listeners } } [] := by
  induction calls generalizing c with
  | nil => exact .nil c
  | cons call rest ih =>
    have hstep : (concurrent owner).step c (.registry call) = (_, []) := rfl
    exact .cons hstep (ih _)

/-- The listener loop makes the calls of `notifyListeners`, one step each. -/
theorem runs_notifying (event : ActionEvent) (status : IThermalEventListener → Bool)
    (remaining : List IThermalEventListener) (c : Concurrent γ)
    (hc : c.worker = .notifying event remaining) :
    ∃ held, (concurrent owner).Runs c
      (remaining.map fun listener => .onThermalStateChange (status listener))
      { c with worker := .notifying event [], held }
      (remaining.map fun listener => .onThermalStateChange listener event (status listener)) := by
  induction remaining generalizing c with
  | nil =>
    refine ⟨c.held, ?_⟩
    rw [← hc]
    exact .nil c
  | cons listener rest ih =>
    obtain ⟨held, hrest⟩ := ih { c with
      worker := .notifying event rest
      held := Function.update c.held (owner listener.asBinder) (some event.state) } rfl
    exact ⟨held, .cons (step_onThermalStateChange owner hc (status listener)) hrest⟩

/-- The steps of a worker that handles one sample while the other threads only make the
registry calls of the environment. -/
def workerSteps (env : Environment) (sample : TemperatureSample) (s : ThermalSensor) :
    List (ConcurrentStep γ) :=
  .applyTemperatureSample sample env.steadyClockMs ::
    match applyTemperatureSampleLocked env.steadyClockMs sample s with
    | (_, none) => []
    | (locked, some _) =>
        env.betweenSections.map .registry ++ .copyListeners ::
          (((env.snapshot locked).map fun listener =>
            .onThermalStateChange (env.listenerStatus listener)) ++ [.afterNotification env])

/-- **The steps of a lone worker add up to `applyTemperatureSample`**: they end in its state
and make its calls in its order. -/
theorem runs_workerSteps (env : Environment) (sample : TemperatureSample) (c : Concurrent γ)
    (hidle : c.worker = .idle) :
    ∃ held, (concurrent owner).Runs c (workerSteps env sample c.service)
      ⟨(applyTemperatureSample env sample c.service).1, .idle, held⟩
      (applyTemperatureSample env sample c.service).2 := by
  have hfirst := step_applyTemperatureSample owner hidle sample env.steadyClockMs
  rcases hlocked : applyTemperatureSampleLocked env.steadyClockMs sample c.service with
    ⟨locked, _ | event⟩
  · rw [hlocked] at hfirst
    simp only [workerSteps, applyTemperatureSample, hlocked]
    exact ⟨c.held, .cons hfirst (.nil _)⟩
  · rw [hlocked] at hfirst
    rw [workerSteps, hlocked]
    -- the worker copies the registry as the other threads have left it
    have hregistry := runs_registry owner env.betweenSections
      { c with service := locked, worker := .changed event }
    have hcopy : (concurrent owner).step ⟨locked.interleaved env, .changed event, c.held⟩ _ = _ :=
      step_copyListeners owner rfl
    obtain ⟨held, hloop⟩ := runs_notifying owner event env.listenerStatus
      (env.snapshot locked) ⟨locked.interleaved env, .notifying event (env.snapshot locked),
        c.held⟩ rfl
    have hlast := step_afterNotification owner (c := ⟨locked.interleaved env,
      .notifying event [], held⟩) rfl env
    refine ⟨held, ?_⟩
    by_cases hstate : event.state = .criticalShutdownImminent
    · rw [if_pos hstate] at hlast
      have hrun := Machine.Runs.cons hfirst
        (hregistry.append (.cons hcopy (hloop.append (.cons hlast (.nil _)))))
      simp only [applyTemperatureSample, hlocked, if_pos hstate]
      refine ⟨hrun.state_eq, hrun.trace_eq.trans ?_⟩
      simp only [List.nil_append, List.append_nil]
      rfl
    · rw [if_neg hstate] at hlast
      have hrun := Machine.Runs.cons hfirst
        (hregistry.append (.cons hcopy (hloop.append (.cons hlast (.nil _)))))
      simp only [applyTemperatureSample, hlocked, if_neg hstate]
      refine ⟨hrun.state_eq, hrun.trace_eq.trans ?_⟩
      simp only [List.nil_append, List.append_nil]
      rfl

end Alone

end Machine

/-! ## Refinement of the broadcast protocol -/

section Protocol

variable {γ : Type u}

/-- The protocol state: the aggregate is the value, the binders in the registry are the
subscribers, and the worker is the publisher. -/
def Concurrent.broadcastOf (c : Concurrent γ) : Broadcast State ℕ γ where
  value := c.service.currentState
  subscribers := c.service.listeners.map IThermalEventListener.asBinder
  flight :=
    match c.worker with
    | .idle => .idle
    | .changed _ => .changed
    | .notifying _ remaining => .delivering (remaining.map IThermalEventListener.asBinder)
  view := c.held

/-- The protocol step a step is: a sample publishes when it changes the aggregate. -/
def Concurrent.label (c : Concurrent γ) : ConcurrentStep γ → BroadcastStep State ℕ γ
  | .applyTemperatureSample sample steadyClockMs =>
      match c.worker, (applyTemperatureSampleLocked steadyClockMs sample c.service).2 with
      | .idle, some event => .publish event.state
      | _, _ => .skip
  | .copyListeners => .snapshot
  | .onThermalStateChange _ => .deliver
  | .afterNotification _ => .finish
  | .registry (.register (some listener) _) => .subscribe listener.asBinder
  | .registry (.unregister (some listener) _) => .unsubscribe listener.asBinder
  | .registry _ => .skip
  | .getCurrentThermalState client => .read client

/-- The event in flight announces the aggregate. -/
def Concurrent.Announcing (c : Concurrent γ) : Prop :=
  match c.worker with
  | .idle => True
  | .changed event => event.state = c.service.currentState
  | .notifying event _ => event.state = c.service.currentState

/-- Only an unregistration is labelled as one. -/
theorem unregisters_of_label {c : Concurrent γ} {step : ConcurrentStep γ} {binder : ℕ}
    (h : c.label step = .unsubscribe binder) : step.unregisters binder := by
  cases step with
  | applyTemperatureSample sample steadyClockMs =>
    simp only [Concurrent.label] at h
    split at h <;> cases h
  | registry call =>
    rcases call with ⟨_ | listener, hasReturn⟩ | ⟨_ | listener, hasReturn⟩
    · cases h
    · cases h
    · cases h
    · exact BroadcastStep.unsubscribe.inj h
  | _ => cases h

theorem settled_broadcastOf {c : Concurrent γ} (h : c.worker.Settled) :
    c.broadcastOf.Settled := by
  obtain ⟨s, worker, held⟩ := c
  cases worker with
  | idle => exact Or.inl rfl
  | changed event => exact h.elim
  | notifying event remaining =>
    have hnil : remaining = [] := h
    subst hnil
    exact Or.inr rfl

end Protocol

section Refinement

variable {γ : Type u} [DecidableEq γ] (owner : ℕ → γ) {c : Concurrent γ}

/-- Only an update changes the aggregate, and then from idle and into its own event. -/
theorem announcing_next (h : c.Announcing) (step : ConcurrentStep γ) :
    ((concurrent owner).next c step).Announcing := by
  obtain ⟨s, worker, held⟩ := c
  cases step with
  | applyTemperatureSample sample steadyClockMs =>
    cases worker with
    | idle =>
      rw [Machine.next, step_applyTemperatureSample owner rfl]
      rcases hlocked : applyTemperatureSampleLocked steadyClockMs sample s with
        ⟨locked, _ | event⟩
      · exact trivial
      · exact (applyTemperatureSampleLocked_some hlocked).1
    | changed event => exact h
    | notifying event remaining => exact h
  | copyListeners => cases worker <;> exact h
  | onThermalStateChange isOk =>
    rcases worker with _ | event | ⟨event, _ | ⟨listener, remaining⟩⟩ <;> exact h
  | afterNotification env =>
    rcases worker with _ | event | ⟨event, _ | ⟨listener, remaining⟩⟩
    · exact h
    · exact h
    · rw [Machine.next, step_afterNotification owner rfl]
      split_ifs <;> exact trivial
    · exact h
  | registry call => cases worker <;> exact h
  | getCurrentThermalState client => cases worker <;> exact h

/-- What a registry call does to the binders. -/
theorem map_asBinder_apply (listeners : List IThermalEventListener) (call : RegistryCall) :
    (call.apply listeners).map IThermalEventListener.asBinder =
      match call with
      | .register (some listener) _ =>
          if listener.asBinder ∈ listeners.map IThermalEventListener.asBinder then
            listeners.map IThermalEventListener.asBinder
          else listeners.map IThermalEventListener.asBinder ++ [listener.asBinder]
      | .unregister (some listener) _ =>
          (listeners.map IThermalEventListener.asBinder).filter (· ≠ listener.asBinder)
      | _ => listeners.map IThermalEventListener.asBinder := by
  rcases call with ⟨_ | listener, hasReturn⟩ | ⟨_ | listener, hasReturn⟩
  · rfl
  · simp only [RegistryCall.apply, RegistryCall.run, registerEventListener]
    by_cases h : listener.asBinder ∈ listeners.map IThermalEventListener.asBinder
    · have hany : (listeners.any fun l => l.asBinder = listener.asBinder) = true := by
        obtain ⟨l, hl, heq⟩ := List.mem_map.mp h
        exact List.any_eq_true.mpr ⟨l, hl, by simpa using heq⟩
      rw [if_pos hany, if_pos h]
    · have hany : ¬ (listeners.any fun l => l.asBinder = listener.asBinder) = true := by
        intro hany
        obtain ⟨l, hl, heq⟩ := List.any_eq_true.mp hany
        exact h (List.mem_map.mpr ⟨l, hl, by simpa using heq⟩)
      rw [if_neg hany, if_neg h, List.map_append]
      rfl
  · rfl
  · simp only [RegistryCall.apply, RegistryCall.run, unregisterEventListener, List.filter_map]
    rfl

/-- **Every step is a step of the protocol.** -/
theorem broadcastOf_next (h : c.Announcing) (step : ConcurrentStep γ) :
    ((concurrent owner).next c step).broadcastOf =
      (broadcast State owner).next c.broadcastOf (c.label step) := by
  obtain ⟨s, worker, held⟩ := c
  cases step with
  | applyTemperatureSample sample steadyClockMs =>
    cases worker with
    | idle =>
      rw [Machine.next, step_applyTemperatureSample owner rfl]
      rcases hlocked : applyTemperatureSampleLocked steadyClockMs sample s with
        ⟨locked, _ | event⟩
      · obtain ⟨hstate, hlisteners⟩ := applyTemperatureSampleLocked_none hlocked
        simp [Concurrent.broadcastOf, Concurrent.label, hlocked, hstate, hlisteners, broadcast,
          Broadcast.move, Machine.next]
      · obtain ⟨hstate, hlisteners⟩ := applyTemperatureSampleLocked_some hlocked
        simp [Concurrent.broadcastOf, Concurrent.label, hlocked, hstate, hlisteners, broadcast,
          Broadcast.move, Machine.next]
    | changed event => rfl
    | notifying event remaining => rfl
  | copyListeners => cases worker <;> rfl
  | onThermalStateChange isOk =>
    rcases worker with _ | event | ⟨event, _ | ⟨listener, remaining⟩⟩
    · rfl
    · rfl
    · rfl
    · -- the callback carries the value of the aggregate
      have hvalue : event.state = s.currentState := h
      rw [Machine.next, step_onThermalStateChange owner rfl, hvalue]
      rfl
  | afterNotification env =>
    rcases worker with _ | event | ⟨event, _ | ⟨listener, remaining⟩⟩
    · rfl
    · rfl
    · rw [Machine.next, step_afterNotification owner rfl, scheduleThermalShutdown_state]
      split_ifs <;> rfl
    · rfl
  | registry call =>
    have hbinders := map_asBinder_apply s.listeners call
    have hnext : ((concurrent owner).next ⟨s, worker, held⟩ (.registry call)).broadcastOf =
        { Concurrent.broadcastOf ⟨s, worker, held⟩ with
          subscribers := (call.apply s.listeners).map IThermalEventListener.asBinder } := rfl
    rw [hnext, hbinders]
    rcases call with ⟨_ | listener, hasReturn⟩ | ⟨_ | listener, hasReturn⟩
    · rfl
    · change _ = Broadcast.move owner _ (.subscribe listener.asBinder)
      dsimp only [Broadcast.move, Concurrent.broadcastOf]
      split_ifs <;> rfl
    · rfl
    · rfl
  | getCurrentThermalState client => rfl

/-- A run is a run of the protocol on its labels. -/
theorem broadcastOf_state (h : c.Announcing) (steps : List (ConcurrentStep γ)) :
    ((concurrent owner).state c steps).broadcastOf =
      (broadcast State owner).state c.broadcastOf
        ((concurrent owner).labels Concurrent.label c steps) :=
  Machine.state_labels (P := Concurrent.Announcing) Concurrent.broadcastOf Concurrent.label
    (fun _ step h => announcing_next owner h step)
    (fun _ step h => broadcastOf_next owner h step) h steps

/-- **A client that registers and then reads misses no transition.** In every run in which
the client registers, then reads, and its binder is not unregistered in between or afterwards,
the value it got last is the aggregate, wherever the worker is settled. -/
theorem reader_holds_currentState (cfg : ThermalHfpConfig) (steadyClockMs : ℤ)
    (before between after : List (ConcurrentStep γ)) (listener : IThermalEventListener)
    (hasReturn : Bool) (hbetween : ∀ step ∈ between, ¬ step.unregisters listener.asBinder)
    (hafter : ∀ step ∈ after, ¬ step.unregisters listener.asBinder)
    (hc : (concurrent owner).state (.start γ cfg steadyClockMs)
      (before ++ .registry (.register (some listener) hasReturn) :: between ++
        .getCurrentThermalState (owner listener.asBinder) :: after) = c)
    (hsettled : c.worker.Settled) :
    c.held (owner listener.asBinder) = some c.service.currentState := by
  have hrun := broadcastOf_state owner (c := .start γ cfg steadyClockMs) trivial
    (before ++ .registry (.register (some listener) hasReturn) :: between ++
      .getCurrentThermalState (owner listener.asBinder) :: after)
  -- the labels of the run are a subscription, then a read, with the same runs around them
  simp only [List.append_assoc, List.cons_append, Machine.labels_append, Machine.labels] at hrun hc
  rw [hc, ← List.cons_append, ← List.append_assoc] at hrun
  refine Broadcast.view_eq_of_read _ _ _ _ ?_ ?_ hrun.symm (settled_broadcastOf hsettled)
  · intro hmem
    obtain ⟨t, step, hstep, hlabel⟩ := Machine.mem_labels hmem
    exact hbetween step hstep (unregisters_of_label hlabel)
  · intro hmem
    obtain ⟨t, step, hstep, hlabel⟩ := Machine.mem_labels hmem
    exact hafter step hstep (unregisters_of_label hlabel)

end Refinement

/-- A client that registers and reads between the change and the copy of the registry. -/
theorem reader_holds_currentState_board :
    let c := (concurrent id).state (.start ℕ boardProfile 0)
      ([.applyTemperatureSample ⟨"board", .finite 71, 1⟩ 0] ++
        .registry (.register (some ⟨0, 7⟩) true) :: [] ++ .getCurrentThermalState 7 ::
          [.copyListeners, .onThermalStateChange true])
    c.worker = .notifying ⟨.criticalTemperatureExceeded, 1,
      some (makeReadingFromConfig boardSensor 71 1)⟩ [] ∧ c.held 7 = some c.service.currentState := by
  intro c
  have hworker : c.worker = .notifying ⟨.criticalTemperatureExceeded, 1,
      some (makeReadingFromConfig boardSensor 71 1)⟩ [] := by decide +kernel
  refine ⟨hworker, reader_holds_currentState id boardProfile 0
    [.applyTemperatureSample ⟨"board", .finite 71, 1⟩ 0] [] [.copyListeners, .onThermalStateChange true]
    ⟨0, 7⟩ true (by simp) (by simp [ConcurrentStep.unregisters]) rfl ?_⟩
  rw [hworker]
  rfl

end ThermalHal
