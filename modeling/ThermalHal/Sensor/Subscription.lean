import ThermalHal.Sensor.Linearized

/-!
# What a registered client hears

A client sees the callbacks made on its binder and nothing else. From its registration on it
is called with every event the worker raises, once each and in their order, whatever other
clients do between the steps of a notification; after it has unregistered at most one more
call reaches it.

## Main definitions

* `deliveredTo` — the events a binder was called with.
* `Concurrent.owed` — the event a binder is still going to be called with.
* `subscriber_hears_every_transition`, `unsubscribed_hears_at_most_one` — over every run.
-/

namespace ThermalHal

open Lib

universe u

variable {γ : Type u}

/-! ## Calls -/

/-- The event a call delivers to a binder. -/
def Effect.deliveredTo? (binder : ℕ) : Effect → Option ActionEvent
  | .onThermalStateChange listener event _ =>
      if listener.asBinder = binder then some event else none
  | _ => none

/-- The events a binder was called with, oldest first. -/
def deliveredTo (binder : ℕ) (effects : List Effect) : List ActionEvent :=
  effects.filterMap (Effect.deliveredTo? binder)

@[simp] theorem deliveredTo_nil (binder : ℕ) : deliveredTo binder [] = [] := rfl

@[simp] theorem deliveredTo_append (binder : ℕ) (xs ys : List Effect) :
    deliveredTo binder (xs ++ ys) = deliveredTo binder xs ++ deliveredTo binder ys :=
  List.filterMap_append

/-- Neither the recording nor the process calls are calls of a listener. -/
theorem deliveredTo_reapLauncher (binder interrupts : ℕ) (reap : ReapResult) :
    deliveredTo binder (reapLauncher interrupts reap) = [] := by
  induction interrupts with
  | zero => rfl
  | succ n ih => exact ih

@[simp] theorem deliveredTo_scheduleThermalShutdown (binder : ℕ) (env : Environment)
    (reasonString : String) (s : ThermalSensor) :
    deliveredTo binder (scheduleThermalShutdown env reasonString s).2 = [] := by
  have hrecorded :
      deliveredTo binder (recordThermalShutdownReason env.bootReason reasonString) = [] := by
    rw [recordThermalShutdownReason]
    split_ifs <;> rfl
  have hpoweroff : ∀ s, deliveredTo binder (requestSystemPoweroff env.poweroff s).2 = [] := by
    intro s
    have hreap : ∀ pid, deliveredTo binder (.requestSystemPoweroff :: .access true ::
        .fork (.child pid) :: reapLauncher env.poweroff.interrupts env.poweroff.reap) = [] :=
      fun pid => deliveredTo_reapLauncher binder _ _
    unfold requestSystemPoweroff
    split
    · rfl
    · split
      · rfl
      · dsimp only
        split <;> exact hreap _
  rw [scheduleThermalShutdown]
  split_ifs
  · rfl
  · change deliveredTo binder (recordThermalShutdownReason _ _ ++ _) = []
    rw [deliveredTo_append, hrecorded, hpoweroff]
    rfl

/-! ## What a binder is owed -/

/-- The binders in the registry. -/
def Concurrent.binders (c : Concurrent γ) : List ℕ :=
  c.service.listeners.map IThermalEventListener.asBinder

/-- The event a binder is still going to be called with: the one raised, while the binder is in
the registry, and then the one being announced, while the binder is left in the copy. -/
def Concurrent.owed (binder : ℕ) (c : Concurrent γ) : List ActionEvent :=
  match c.worker with
  | .idle => []
  | .changed event => if binder ∈ c.binders then [event] else []
  | .notifying event remaining =>
      if binder ∈ remaining.map IThermalEventListener.asBinder then [event] else []

/-- No binder is called twice: neither the registry nor what is left of a copy of it holds a
binder twice. -/
structure Concurrent.Distinct (c : Concurrent γ) : Prop where
  registry : c.binders.Nodup
  copy : ∀ event remaining, c.worker = .notifying event remaining →
    (remaining.map IThermalEventListener.asBinder).Nodup

/-- The step takes the binder into the registry. -/
def ConcurrentStep.registers (binder : ℕ) : ConcurrentStep γ → Prop
  | .registry (.register (some listener) _) => listener.asBinder = binder
  | _ => False

section Owed

variable {c : Concurrent γ} {event : ActionEvent} (binder : ℕ)

theorem owed_of_idle (h : c.worker = .idle) : c.owed binder = [] := by
  simp only [Concurrent.owed, h]

theorem owed_of_changed (h : c.worker = .changed event) :
    c.owed binder = if binder ∈ c.binders then [event] else [] := by
  simp only [Concurrent.owed, h]

theorem owed_of_not_mem {binder : ℕ} (h : binder ∉ c.binders)
    (hworker : c.worker = .changed event) :
    c.owed binder = [] := by
  rw [owed_of_changed binder hworker, if_neg h]

theorem owed_of_notifying {remaining : List IThermalEventListener}
    (h : c.worker = .notifying event remaining) :
    c.owed binder =
      if binder ∈ remaining.map IThermalEventListener.asBinder then [event] else [] := by
  simp only [Concurrent.owed, h]

theorem owed_of_settled (h : c.worker.Settled) : c.owed binder = [] := by
  cases hworker : c.worker with
  | idle => exact owed_of_idle binder hworker
  | changed event =>
    rw [hworker] at h
    exact h.elim
  | notifying event remaining =>
    rw [hworker] at h
    have hnil : remaining = [] := h
    rw [owed_of_notifying binder hworker, hnil]
    rfl

theorem length_owed_le (c : Concurrent γ) : (c.owed binder).length ≤ 1 := by
  cases hworker : c.worker with
  | idle => simp [owed_of_idle binder hworker]
  | changed event =>
    rw [owed_of_changed binder hworker]
    split_ifs <;> simp
  | notifying event remaining =>
    rw [owed_of_notifying binder hworker]
    split_ifs <;> simp

end Owed

/-! ## One step -/

/-- The step delivers to the binder of the listener it calls. -/
theorem deliveredTo_onThermalStateChange (binder : ℕ) (listener : IThermalEventListener)
    (event : ActionEvent) (isOk : Bool) :
    deliveredTo binder [.onThermalStateChange listener event isOk] =
      if listener.asBinder = binder then [event] else [] := by
  by_cases h : listener.asBinder = binder <;> simp [deliveredTo, Effect.deliveredTo?, h]

/-- A call takes one event from what the binder it reaches is owed, and from no other. -/
theorem owed_of_called {listener : IThermalEventListener} {remaining : List IThermalEventListener}
    {event : ActionEvent} {c c' : Concurrent γ} (hc : c.Distinct)
    (hworker : c.worker = .notifying event (listener :: remaining))
    (hworker' : c'.worker = .notifying event remaining) (binder : ℕ) (isOk : Bool) :
    c.owed binder =
      deliveredTo binder [.onThermalStateChange listener event isOk] ++ c'.owed binder := by
  have hfresh := (List.nodup_cons.mp (hc.copy event (listener :: remaining) hworker)).1
  rw [deliveredTo_onThermalStateChange, owed_of_notifying binder hworker,
    owed_of_notifying binder hworker']
  by_cases heq : listener.asBinder = binder
  · -- its turn has come, and it does not come again
    rw [heq] at hfresh
    rw [if_neg hfresh, if_pos heq]
    simp [heq]
  · have hne : binder ≠ listener.asBinder := Ne.symm heq
    simp [heq, hne]

section Step

variable [DecidableEq γ] (owner : ℕ → γ) {c : Concurrent γ} {binder : ℕ}

/-- What a step makes of the registered binders. -/
theorem binders_next (c : Concurrent γ) (step : ConcurrentStep γ) :
    ((concurrent owner).next c step).binders =
      match step with
      | .registry (.register (some listener) _) =>
          if listener.asBinder ∈ c.binders then c.binders else c.binders ++ [listener.asBinder]
      | .registry (.unregister (some listener) _) => c.binders.filter (· ≠ listener.asBinder)
      | _ => c.binders := by
  rw [Concurrent.binders, listeners_next]
  cases step with
  | registry call =>
    dsimp only
    rw [map_asBinder_apply]
    rcases call with ⟨_ | listener, hasReturn⟩ | ⟨_ | listener, hasReturn⟩ <;> rfl
  | _ => rfl

theorem mem_binders_next (h : binder ∈ c.binders) {step : ConcurrentStep γ}
    (hstep : ¬ step.unregisters binder) : binder ∈ ((concurrent owner).next c step).binders := by
  rw [binders_next]
  rcases step with _ | _ | _ | _ | (⟨_ | listener, hasReturn⟩ | ⟨_ | listener, hasReturn⟩) | _
  case registry.register.some =>
    dsimp only
    split_ifs with hmem
    · exact h
    · exact List.mem_append_left _ h
  case registry.unregister.some =>
    have hne : binder ≠ listener.asBinder := fun heq => hstep heq.symm
    simp [h, hne]
  all_goals exact h

theorem not_mem_binders_next (h : binder ∉ c.binders) {step : ConcurrentStep γ}
    (hstep : ¬ step.registers binder) : binder ∉ ((concurrent owner).next c step).binders := by
  rw [binders_next]
  rcases step with _ | _ | _ | _ | (⟨_ | listener, hasReturn⟩ | ⟨_ | listener, hasReturn⟩) | _
  case registry.register.some =>
    have hne : binder ≠ listener.asBinder := fun heq => hstep heq.symm
    dsimp only
    split_ifs with hmem
    · exact h
    · simp [h, hne]
  case registry.unregister.some => exact fun hmem => h (List.mem_filter.mp hmem).1
  all_goals exact h

theorem nodup_binders_next (h : c.binders.Nodup) (step : ConcurrentStep γ) :
    ((concurrent owner).next c step).binders.Nodup := by
  rw [binders_next]
  rcases step with _ | _ | _ | _ | (⟨_ | listener, hasReturn⟩ | ⟨_ | listener, hasReturn⟩) | _
  case registry.register.some =>
    dsimp only
    split_ifs with hmem
    · exact h
    · have hnew : ∀ b ∈ c.binders, b ≠ listener.asBinder := fun b hb heq => hmem (heq ▸ hb)
      simpa [List.nodup_append, h] using hnew
  case registry.unregister.some => exact h.filter _
  all_goals exact h

/-- A copy is taken from the registry and only gets shorter. -/
theorem distinct_next (h : c.Distinct) (step : ConcurrentStep γ) :
    ((concurrent owner).next c step).Distinct := by
  refine ⟨nodup_binders_next owner h.registry step, ?_⟩
  have hmove := concurrentMove owner c step
  generalize (concurrent owner).next c step = c',
    (concurrent owner).emit c step = effects at hmove ⊢
  intro event remaining heq
  cases hmove with
  | still => exact h.copy event remaining heq
  | copied raised hworker =>
    rw [← (Worker.notifying.inj heq).2]
    exact h.registry
  | called raised listener rest isOk hworker =>
    have hall := h.copy raised (listener :: rest) hworker
    rw [← (Worker.notifying.inj heq).2]
    exact (List.nodup_cons.mp hall).2
  | unchanged | changed | finished | scheduled => cases heq
  | registry | read => exact h.copy event remaining heq

/-- **One step of a registered binder**: what it was owed and what the step raises is what the
step delivers to it and what it is owed then. -/
theorem owed_next_of_mem (hc : c.Distinct) (hmem : binder ∈ c.binders) {step : ConcurrentStep γ}
    (hstep : ¬ step.unregisters binder) :
    c.owed binder ++ c.raised step =
      deliveredTo binder ((concurrent owner).emit c step) ++
        ((concurrent owner).next c step).owed binder := by
  have hstays := mem_binders_next owner hmem hstep
  have hmove := concurrentMove owner c step
  generalize (concurrent owner).next c step = c', (concurrent owner).emit c step = effects
    at hmove hstays ⊢
  cases hmove with
  | still step hpoints hraised => simp [hraised]
  | unchanged sample steadyClockMs locked hworker hlocked =>
    rw [owed_of_idle binder hworker, owed_of_idle binder rfl]
    simp [Concurrent.raised, hworker, hlocked]
  | changed sample steadyClockMs locked event hworker hlocked =>
    rw [owed_of_idle binder hworker, owed_of_changed binder rfl, if_pos hstays]
    simp [Concurrent.raised, hworker, hlocked]
  | copied event hworker =>
    -- the copy is the registry
    have hcopied : binder ∈ c.service.listeners.map IThermalEventListener.asBinder := hmem
    rw [owed_of_changed binder hworker, owed_of_notifying binder rfl, if_pos hmem, if_pos hcopied]
    rfl
  | called event listener remaining isOk hworker =>
    rw [← owed_of_called hc hworker rfl]
    exact List.append_nil _
  | finished event env hworker | scheduled event env hworker =>
    rw [owed_of_notifying binder hworker, owed_of_idle binder rfl]
    simp [Concurrent.raised]
  | registry call =>
    cases hworker : c.worker with
    | changed event =>
      rw [owed_of_changed binder hworker, owed_of_changed binder rfl, if_pos hmem]
      exact (if_pos hstays).symm
    | idle => rw [owed_of_idle binder hworker, owed_of_idle binder rfl]; rfl
    | notifying event remaining =>
      rw [owed_of_notifying binder hworker, owed_of_notifying binder rfl]
      exact List.append_nil _
  | read client => exact List.append_nil _

/-- **One step of a binder that is not registered**: the step delivers from what it was owed. -/
theorem owed_next_of_not_mem (hc : c.Distinct) (hmem : binder ∉ c.binders)
    {step : ConcurrentStep γ} (hstep : ¬ step.registers binder) :
    c.owed binder =
      deliveredTo binder ((concurrent owner).emit c step) ++
        ((concurrent owner).next c step).owed binder := by
  have hstays := not_mem_binders_next owner hmem hstep
  have hmove := concurrentMove owner c step
  generalize (concurrent owner).next c step = c', (concurrent owner).emit c step = effects
    at hmove hstays ⊢
  cases hmove with
  | still => rfl
  | unchanged sample steadyClockMs locked hworker hlocked =>
    rw [owed_of_idle binder hworker, owed_of_idle binder rfl]
    rfl
  | changed sample steadyClockMs locked event hworker hlocked =>
    rw [owed_of_idle binder hworker, owed_of_not_mem hstays rfl]
    rfl
  | copied event hworker =>
    have hcopied : binder ∉ c.service.listeners.map IThermalEventListener.asBinder := hmem
    rw [owed_of_not_mem hmem hworker, owed_of_notifying binder rfl, if_neg hcopied]
    rfl
  | called event listener remaining isOk hworker => exact owed_of_called hc hworker rfl binder isOk
  | finished event env hworker | scheduled event env hworker =>
    rw [owed_of_notifying binder hworker, owed_of_idle binder rfl]
    simp
  | registry call =>
    cases hworker : c.worker with
    | changed event =>
      rw [owed_of_not_mem hmem hworker, owed_of_changed binder rfl]
      exact (if_neg hstays).symm
    | idle => rw [owed_of_idle binder hworker, owed_of_idle binder rfl]; rfl
    | notifying event remaining =>
      rw [owed_of_notifying binder hworker, owed_of_notifying binder rfl]
      rfl
  | read client => rfl

end Step

/-! ## Runs -/

section Runs

variable [DecidableEq γ] (owner : ℕ → γ) {binder : ℕ}

theorem distinct_state (cfg : ThermalHfpConfig) (steadyClockMs : ℤ)
    (steps : List (ConcurrentStep γ)) :
    ((concurrent owner).state (.start γ cfg steadyClockMs) steps).Distinct := by
  have hstart : (Concurrent.start γ cfg steadyClockMs).Distinct :=
    ⟨List.nodup_nil, by simp [Concurrent.start]⟩
  exact Machine.invariant (P := Concurrent.Distinct) (fun _ step h => distinct_next owner h step)
    hstart steps

/-- What a registered binder was owed and what a run raises is what the run delivers to it and
what it is owed at the end. -/
theorem deliveredTo_trace_of_mem {c : Concurrent γ} (hc : c.Distinct) (hmem : binder ∈ c.binders)
    (steps : List (ConcurrentStep γ)) (hsteps : ∀ step ∈ steps, ¬ step.unregisters binder) :
    c.owed binder ++ (concurrent owner).collect Concurrent.raised c steps =
      deliveredTo binder ((concurrent owner).trace c steps) ++
        ((concurrent owner).state c steps).owed binder := by
  rw [deliveredTo, ← Machine.collect_emit]
  exact Machine.conserved (P := fun c : Concurrent γ => c.Distinct ∧ binder ∈ c.binders)
    (Q := fun step => ¬ step.unregisters binder) (Concurrent.owed binder) Concurrent.raised _
    (fun _ step hstep h => ⟨distinct_next owner h.1 step, mem_binders_next owner h.2 hstep⟩)
    (fun _ _ hstep h => owed_next_of_mem owner h.1 h.2 hstep) ⟨hc, hmem⟩ steps hsteps

/-- Without a registration a run delivers what the binder was owed, and nothing else. -/
theorem deliveredTo_trace_of_not_mem {c : Concurrent γ} (hc : c.Distinct)
    (hmem : binder ∉ c.binders) (steps : List (ConcurrentStep γ))
    (hsteps : ∀ step ∈ steps, ¬ step.registers binder) :
    c.owed binder =
      deliveredTo binder ((concurrent owner).trace c steps) ++
        ((concurrent owner).state c steps).owed binder := by
  have h := Machine.conserved (M := concurrent owner)
    (P := fun c : Concurrent γ => c.Distinct ∧ binder ∉ c.binders)
    (Q := fun step => ¬ step.registers binder) (Concurrent.owed binder) (fun _ _ => [])
    (fun c step => deliveredTo binder ((concurrent owner).emit c step))
    (fun _ step hstep h => ⟨distinct_next owner h.1 step, not_mem_binders_next owner h.2 hstep⟩)
    (fun _ _ hstep h => by
      rw [List.append_nil]
      exact owed_next_of_not_mem owner h.1 h.2 hstep) ⟨hc, hmem⟩ steps hsteps
  rw [Machine.collect_of_nil, List.append_nil] at h
  rw [h, deliveredTo, ← Machine.collect_emit]
  rfl

/-- The events a run raises are the steps of the aggregate along the protocol. -/
theorem raised_path {cfg : ThermalHfpConfig} {c : Concurrent γ} {s : ThermalSensor}
    (hs : s.Reachable cfg) (h : Agree c s) (steps : List (ConcurrentStep γ)) :
    let states := ((concurrent owner).collect Concurrent.raised c steps).map ActionEvent.state
    List.IsChain AggregateTransition (c.service.currentState :: states) ∧
      states.getLastD c.service.currentState =
        ((concurrent owner).state c steps).service.currentState := by
  intro states
  have hstates : states = (service.trace s (sequential owner c steps)).filterMap
      fun effect => effect.announced?.map ActionEvent.state := by
    rw [← announcedStates_eq, announcedStates, ← collect_raised owner h]
  have hinv : ∀ (s : ThermalSensor) r, s.Configured cfg ∧ s.Aggregated →
      (service.next s r).Configured cfg ∧ (service.next s r).Aggregated :=
    fun _ r h => ⟨configured_next h.1 r, aggregated_next h.1 h.2 r⟩
  rw [hstates, h.currentState_eq, (agree_state owner h steps).currentState_eq]
  constructor
  · refine Machine.isChain_observed (R := AggregateTransition) ThermalSensor.currentState _ hinv
      (fun s r h => ?_) ⟨hs.configured, hs.aggregated⟩ _
    rw [← announcedStates_eq]
    exact announcedStates_emit h.1 h.2 r
  · refine Machine.getLastD_observed ThermalSensor.currentState hinv (fun s r h => ?_)
      ⟨hs.configured, hs.aggregated⟩ _
    rw [← announcedStates_eq]
    exact (announcedStates_emit h.1 h.2 r).imp_right And.left

/-- **A subscriber hears every transition.** Let a run reach a state in which the binder is
registered, and go on without unregistering it. Then the events raised from there on, after the
one it was still owed, are the events delivered to it, once each and in their order, but for the
last one while it is still owed; and these events are the steps of the aggregate along the
transition protocol. -/
theorem subscriber_hears_every_transition (cfg : ThermalHfpConfig) (steadyClockMs : ℤ)
    (before : List (ConcurrentStep γ)) (binder : ℕ) (hbefore : Registered before binder)
    (steps : List (ConcurrentStep γ)) (hsteps : ∀ step ∈ steps, ¬ step.unregisters binder) :
    let c := (concurrent owner).state (.start γ cfg steadyClockMs) before
    let c' := (concurrent owner).state c steps
    let raised := (concurrent owner).collect Concurrent.raised c steps
    c.owed binder ++ raised =
        deliveredTo binder ((concurrent owner).trace c steps) ++ c'.owed binder ∧
      List.IsChain AggregateTransition (c.service.currentState :: raised.map ActionEvent.state) ∧
      (raised.map ActionEvent.state).getLastD c.service.currentState =
        c'.service.currentState := by
  intro c c' raised
  have hmem : binder ∈ c.binders :=
    ((lists_state owner cfg steadyClockMs before).mem_iff _).mpr hbefore
  obtain ⟨s, hs, hagree⟩ := exists_reachable owner cfg steadyClockMs before
  exact ⟨deliveredTo_trace_of_mem owner (distinct_state owner cfg steadyClockMs before) hmem steps
    hsteps, raised_path owner hs hagree steps⟩

/-- **After it has unregistered a client hears at most one more event**, the one whose
notification had copied the registry while the binder was in it. -/
theorem unsubscribed_hears_at_most_one (cfg : ThermalHfpConfig) (steadyClockMs : ℤ)
    (before : List (ConcurrentStep γ)) (binder : ℕ) (hbefore : ¬ Registered before binder)
    (steps : List (ConcurrentStep γ)) (hsteps : ∀ step ∈ steps, ¬ step.registers binder) :
    let c := (concurrent owner).state (.start γ cfg steadyClockMs) before
    let delivered := deliveredTo binder ((concurrent owner).trace c steps)
    delivered.length ≤ 1 ∧ (c.worker.Settled → delivered = []) ∧
      ∀ event ∈ delivered, ∃ remaining, c.worker = .notifying event remaining ∧
        binder ∈ remaining.map IThermalEventListener.asBinder := by
  intro c delivered
  have hmem : binder ∉ c.binders := fun h =>
    hbefore (((lists_state owner cfg steadyClockMs before).mem_iff _).mp h)
  have howed : c.owed binder = delivered ++ _ := deliveredTo_trace_of_not_mem owner
    (distinct_state owner cfg steadyClockMs before) hmem steps hsteps
  have hfirst : delivered <+: c.owed binder := ⟨_, howed.symm⟩
  refine ⟨hfirst.length_le.trans (length_owed_le binder c), fun hsettled => ?_, ?_⟩
  · rw [owed_of_settled binder hsettled] at hfirst
    exact List.prefix_nil.mp hfirst
  · intro event hevent
    have hevent := hfirst.subset hevent
    cases hworker : c.worker with
    | idle => simp [owed_of_idle binder hworker] at hevent
    | changed raised => simp [owed_of_not_mem hmem hworker] at hevent
    | notifying raised remaining =>
      rw [owed_of_notifying binder hworker] at hevent
      split_ifs at hevent with hcopied
      · rw [List.mem_singleton] at hevent
        exact ⟨remaining, by rw [hevent], hcopied⟩
      · simp at hevent

end Runs

/-- One client hears two transitions while another one comes and goes. -/
theorem subscriber_hears_every_transition_board :
    let c := (concurrent id).state (.start ℕ boardProfile 0)
      [.registry (.register (some ⟨0, 7⟩) true)]
    (deliveredTo 7 ((concurrent id).trace c
        [.applyTemperatureSample ⟨"board", .finite 71, 1⟩ 0,
          .registry (.register (some ⟨1, 8⟩) true), .copyListeners, .onThermalStateChange false,
          .registry (.unregister (some ⟨1, 8⟩) true), .onThermalStateChange true,
          .afterNotification (.quiet 0), .applyTemperatureSample ⟨"board", .finite 60, 2⟩ 0,
          .copyListeners, .onThermalStateChange true])).map ActionEvent.state =
      [.criticalTemperatureExceeded, .criticalTemperatureRecovered] := by
  intro c
  have h := (subscriber_hears_every_transition id boardProfile 0
    [.registry (.register (some ⟨0, 7⟩) true)] 7 (by decide)
    [.applyTemperatureSample ⟨"board", .finite 71, 1⟩ 0,
      .registry (.register (some ⟨1, 8⟩) true), .copyListeners, .onThermalStateChange false,
      .registry (.unregister (some ⟨1, 8⟩) true), .onThermalStateChange true,
      .afterNotification (.quiet 0), .applyTemperatureSample ⟨"board", .finite 60, 2⟩ 0,
      .copyListeners, .onThermalStateChange true] (by simp [ConcurrentStep.unregisters])).1
  have hstates := congrArg (List.map ActionEvent.state) h
  rw [List.map_append, List.map_append] at hstates
  -- nothing is owed before or after, and both samples change the aggregate
  have hsettled : c.owed 7 = [] := by decide
  rw [show ((concurrent id).state c _).owed 7 = [] by decide +kernel, hsettled, List.map_nil,
    List.append_nil] at hstates
  rw [← hstates]
  decide +kernel

/-- A client that unregisters while the worker notifies. -/
theorem unsubscribed_hears_at_most_one_board :
    (deliveredTo 7 ((concurrent id).trace ((concurrent id).state (.start ℕ boardProfile 0)
        [.registry (.register (some ⟨0, 7⟩) true),
          .applyTemperatureSample ⟨"board", .finite 71, 1⟩ 0, .copyListeners,
          .registry (.unregister (some ⟨0, 7⟩) true)])
      [.onThermalStateChange true, .afterNotification (.quiet 0)])).length ≤ 1 :=
  (unsubscribed_hears_at_most_one id boardProfile 0 _ 7 (by decide)
    [.onThermalStateChange true, .afterNotification (.quiet 0)]
    (by simp [ConcurrentStep.registers])).1

end ThermalHal
