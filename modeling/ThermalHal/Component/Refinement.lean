import ThermalHal.Component.Lifetime
import ThermalHal.Lib.Flow

/-!
# The component runs as its pipeline

Seen from the service, a component is its queue, its worker and the clients: the critical
sections of the controller and the positions of the two loops do not show. So every run of the
component is a run of `pipeline`, and what is proved of the pipeline and of the service holds of
the component. Once the worker is joined the queue no longer matters; until then the component
and the pipeline agree on it too.

## Main definitions

* `Component.Sound` — the invariant of a component: stop flag, worker and phases fit together.
* `Component.points` — the step of the pipeline that a step takes effect as.
* `component_refines_pipeline` — over every run.
-/

namespace ThermalHal

open Lib

universe v

variable {κ : Type v}

/-! ## The invariant -/

/-- The update the worker has taken and not yet handed to the service. -/
def UtWorker.inHand : UtWorker → Option ThermalTemperatureUpdate
  | .handling update => some update
  | _ => none

/-- The destructor has begun. -/
def OwnerPhase.Stopping : OwnerPhase → Prop
  | .constructing => False
  | .running => False
  | _ => True

/-- The destructor has joined the worker. -/
def OwnerPhase.Joined : OwnerPhase → Prop
  | .shuttingDown => True
  | .releasing => True
  | .destroyed => True
  | _ => False

/-- The stop flag says that the destructor has begun, a joined worker is over, and there is none
before `init` has returned. -/
structure Component.Sound (c : Component κ) : Prop where
  drained : c.ut.Drained
  progressed : ∃ log, c.Progressed log
  stop_iff : c.stopUtWorker = true ↔ c.owner.Stopping
  worker_over : c.owner.Joined → c.worker.Over
  fresh : c.owner = .constructing → c.worker = .notStarted

/-! ## One step -/

/-- What a step makes of the stop flag, the worker and the phase of the owning thread. -/
inductive PhaseMove : Bool → UtWorker → OwnerPhase → Bool → UtWorker → OwnerPhase → Prop
  | stay (stop : Bool) (worker : UtWorker) (owner : OwnerPhase) :
      PhaseMove stop worker owner stop worker owner
  | started (stop : Bool) (worker : UtWorker) :
      PhaseMove stop worker .constructing false .checking .running
  | failed (stop : Bool) (worker : UtWorker) :
      PhaseMove stop worker .constructing stop worker .running
  | destroy (stop : Bool) (worker : UtWorker) : PhaseMove stop worker .running true worker .joining
  | joined (stop : Bool) {worker : UtWorker} (hover : worker.Over) :
      PhaseMove stop worker .joining stop worker .shuttingDown
  | down (stop : Bool) (worker : UtWorker) :
      PhaseMove stop worker .shuttingDown stop worker .releasing
  | released (stop : Bool) (worker : UtWorker) :
      PhaseMove stop worker .releasing stop worker .destroyed
  | worked (stop : Bool) {worker worker' : UtWorker} (owner : OwnerPhase)
      (hactive : ¬ worker.Over) :
      PhaseMove stop worker owner stop worker' owner

theorem sound_start (cfg : ThermalHfpConfig) (controlPort : UInt16) (steadyClockMs : ℤ) :
    (Component.start κ cfg controlPort steadyClockMs).Sound :=
  ⟨drained_start, ⟨[], .entering⟩, by simp [Component.start, OwnerPhase.Stopping],
    fun h => h.elim, fun _ => rfl⟩

section Step

variable [DecidableEq κ] {c : Component κ}

theorem phaseMove_owner (c : Component κ) (created : Bool) :
    PhaseMove c.stopUtWorker c.worker c.owner (c.advanceOwner created).1.stopUtWorker
      (c.advanceOwner created).1.worker (c.advanceOwner created).1.owner := by
  rw [Component.advanceOwner]
  split
  · next howner =>
    dsimp only
    rw [howner]
    by_cases htrue : .initReturned true ∈ (c.callUt (.init () c.controlPort) created).2
    · simp only [htrue, if_true, true_or]
      exact .started _ _
    · by_cases hfalse : .initReturned false ∈ (c.callUt (.init () c.controlPort) created).2
      · simp only [htrue, hfalse, if_false, if_true, or_true]
        exact .failed _ _
      · simp only [htrue, hfalse, if_false, or_self]
        exact .stay _ _ _
  · exact .stay _ _ _
  · next howner =>
    split
    · next hworker =>
      rw [howner]
      exact .joined _ (by rw [hworker]; trivial)
    · next hworker =>
      rw [howner]
      exact .joined _ (by rw [hworker]; trivial)
    · exact .stay _ _ _
  · next howner =>
    dsimp only
    rw [howner]
    split_ifs
    · exact .down _ _
    · exact .stay _ _ _
  · next howner =>
    dsimp only
    rw [howner]
    split_ifs
    · exact .released _ _
    · exact .stay _ _ _
  · exact .stay _ _ _

/-- **Every step moves the phases like this.** -/
theorem phaseMove (c : Component κ) (step : ComponentStep κ) :
    PhaseMove c.stopUtWorker c.worker c.owner ((component κ).next c step).stopUtWorker
      ((component κ).next c step).worker ((component κ).next c step).owner := by
  cases step with
  | owner created => exact phaseMove_owner c created
  | destroy =>
    simp only [component, Machine.next, Component.destroy]
    split
    · next howner =>
      rw [howner]
      exact .destroy _ _
    · exact .stay _ _ _
  | worker env =>
    simp only [component, Machine.next, Component.advanceWorker]
    cases hworker : c.worker with
    | notStarted | finished => simpa [hworker] using PhaseMove.stay _ _ _
    | checking | taking | handling | sleeping => exact .worked _ _ id
  | registry call =>
    simp only [component, Machine.next, Component.callRegistry]
    split <;> exact .stay _ _ _
  | messageCallback thread kvp => exact .stay _ _ _
  | advanceCallback thread => exact .stay _ _ _

/-- **What every change of the phase keeps, every step keeps.** -/
theorem phase_next {P : OwnerPhase → Prop} (hconstructed : P .constructing → P .running)
    (hdestroy : P .running → P .joining) (hjoined : P .joining → P .shuttingDown)
    (hdown : P .shuttingDown → P .releasing) (hreleased : P .releasing → P .destroyed)
    (h : P c.owner) (step : ComponentStep κ) : P ((component κ).next c step).owner := by
  have hmove := phaseMove c step
  generalize c.stopUtWorker = stop, c.worker = worker, c.owner = owner,
    ((component κ).next c step).stopUtWorker = stop', ((component κ).next c step).worker = worker',
    ((component κ).next c step).owner = owner' at hmove h ⊢
  cases hmove with
  | stay | worked => exact h
  | started | failed => exact hconstructed h
  | destroy => exact hdestroy h
  | joined => exact hjoined h
  | down => exact hdown h
  | released => exact hreleased h

theorem sound_next (h : c.Sound) (step : ComponentStep κ) : ((component κ).next c step).Sound := by
  obtain ⟨log, hprogress⟩ := h.progressed
  have hdrained := drained_component_next h.drained step
  have hprogress' := progressed_next hprogress step
  have hmove := phaseMove c step
  have hstop := h.stop_iff
  have hover := h.worker_over
  have hfresh := h.fresh
  generalize (component κ).next c step = c' at hdrained hprogress' hmove ⊢
  refine ⟨hdrained, ⟨_, hprogress'⟩, ?_, ?_, ?_⟩ <;>
    generalize c.stopUtWorker = stop, c.worker = worker, c.owner = owner,
      c'.stopUtWorker = stop', c'.worker = worker', c'.owner = owner'
      at hmove hstop hover hfresh ⊢
  · cases hmove with
    | failed => simpa [OwnerPhase.Stopping] using hstop
    | joined => simpa [OwnerPhase.Stopping] using hstop
    | down | released => simpa [OwnerPhase.Stopping] using hstop
    | stay | worked => exact hstop
    | started | destroy => simp [OwnerPhase.Stopping]
  · cases hmove with
    | stay => exact hover
    | joined hworker => exact fun _ => hworker
    | down | released => exact fun _ => hover trivial
    | worked owner hactive => exact fun hjoined => absurd (hover hjoined) hactive
    | started | failed | destroy => exact fun hjoined => hjoined.elim
  · cases hmove with
    | stay => exact hfresh
    | worked owner hactive =>
      intro howner
      rw [hfresh howner] at hactive
      exact absurd trivial hactive
    | _ => simp

theorem sound_state (cfg : ThermalHfpConfig) (controlPort : UInt16) (steadyClockMs : ℤ)
    (steps : List (ComponentStep κ)) :
    ((component κ).state (.start κ cfg controlPort steadyClockMs) steps).Sound :=
  Machine.invariant (P := Component.Sound) (fun _ step h => sound_next h step)
    (sound_start cfg controlPort steadyClockMs) steps

end Step

/-! ## The pipeline inside -/

/-- The step of the pipeline that a step takes effect as. -/
def Component.points (c : Component κ) : ComponentStep κ → List PipelineStep
  | .worker env =>
      match c.worker with
      | .taking => [.getTemperatureUpdate]
      | .handling _ => [.handleControlPlaneUpdate env]
      | _ => []
  | .registry call =>
      match c.owner with
      | .running => [.registry call]
      | _ => []
  | .advanceCallback thread =>
      match c.ut.callbacks thread with
      | .pushing kvp => [.pushMessage kvp]
      | _ => []
  | _ => []

/-- The component and the pipeline have the same service, and until the worker is joined the
same queue and the same update in the worker's hand. -/
structure Simulates (c : Component κ) (p : Pipeline) : Prop where
  sound : c.Sound
  service_eq : c.service = p.service
  queue_eq : ¬ c.owner.Joined → c.ut.pendingTemperatureUpdates = p.pending ∧
    c.worker.inHand = p.inHand

/-- A step that changes neither the service nor, before the worker is joined, the queue. -/
theorem Simulates.of_same {c c' : Component κ} {p : Pipeline} (h : Simulates c p) (hc' : c'.Sound)
    (hservice : c'.service = c.service)
    (hqueue : ¬ c'.owner.Joined → ¬ c.owner.Joined ∧
      c'.ut.pendingTemperatureUpdates = c.ut.pendingTemperatureUpdates ∧
        c'.worker.inHand = c.worker.inHand) : Simulates c' p := by
  refine ⟨hc', hservice.trans h.service_eq, fun hjoined => ?_⟩
  obtain ⟨hbefore, hpending, hhand⟩ := hqueue hjoined
  rw [hpending, hhand]
  exact h.queue_eq hbefore

/-- A call of the controller clears the queue in its last section only. -/
theorem advance_pending {τ : Type*} [DecidableEq τ] {l : Lifecycle τ κ} {caller : τ}
    (h : l.calls caller ≠ .clearing) (created : Bool) :
    (l.advance caller created).1.pendingTemperatureUpdates = l.pendingTemperatureUpdates := by
  rw [Lifecycle.advance]
  cases hcall : l.calls caller with
  | clearing => exact absurd hcall h
  | creating => cases created <;> rfl
  | publishing x => by_cases hinst : l.controlPlaneInstance.isSome <;> simp [hinst]
  | draining =>
    simp only [Lifecycle.drain]
    split
    · split <;> rfl
    · rfl
  | _ => rfl

section Simulation

variable [DecidableEq κ] {c : Component κ} {p : Pipeline}

/-- `init` leaves the queue alone. -/
theorem callUt_init_pending (h : c.ut.calls () ≠ .clearing) (port : UInt16) (created : Bool) :
    (c.callUt (.init () port) created).1.pendingTemperatureUpdates =
      c.ut.pendingTemperatureUpdates := by
  by_cases hidle : c.ut.calls () = .idle
  · simp only [callUt_of_idle hidle, lifecycle, hidle, Lifecycle.init]
    split_ifs <;> rfl
  · rw [callUt_of_ne hidle]
    exact advance_pending h created

/-- The owning thread clears the queue after it has joined the worker, and never before. -/
theorem advanceOwner_queue (hc : c.Sound) (created : Bool)
    (h : ¬ (c.advanceOwner created).1.owner.Joined) :
    ¬ c.owner.Joined ∧
      (c.advanceOwner created).1.ut.pendingTemperatureUpdates = c.ut.pendingTemperatureUpdates ∧
        (c.advanceOwner created).1.worker.inHand = c.worker.inHand := by
  cases howner : c.owner with
  | constructing =>
    obtain ⟨log, hprogress⟩ := hc.progressed
    have hcall : c.ut.calls () ≠ .clearing := by
      rw [Component.Progressed, howner] at hprogress
      intro hclearing
      rw [hclearing] at hprogress
      cases hprogress
    have hpending := callUt_init_pending hcall c.controlPort created
    simp only [Component.advanceOwner, howner, hc.fresh howner, hpending, true_and]
    refine ⟨id, ?_⟩
    split_ifs <;> rfl
  | running => simp [Component.advanceOwner, howner, OwnerPhase.Joined]
  | joining =>
    cases hworker : c.worker <;> simp_all [Component.advanceOwner, OwnerPhase.Joined]
  | shuttingDown | releasing =>
    simp only [Component.advanceOwner, howner] at h
    split_ifs at h <;> exact absurd trivial h
  | destroyed => simp [Component.advanceOwner, howner, OwnerPhase.Joined] at h

/-- A library thread pushes its message and does nothing else to the queue. -/
theorem advanceCallback_pending (l : Lifecycle Unit κ) (thread : κ) :
    ((lifecycle Unit κ).next l (.advanceCallback thread)).pendingTemperatureUpdates =
      match l.callbacks thread with
      | .pushing kvp => pushMessage kvp l.pendingTemperatureUpdates
      | _ => l.pendingTemperatureUpdates := by
  simp only [lifecycle, Machine.next, Lifecycle.advanceCallback]
  cases l.callbacks thread <;> rfl

theorem messageCallback_pending (l : Lifecycle Unit κ) (thread : κ)
    (kvp : Option UtKvpInstance) :
    ((lifecycle Unit κ).next l (.messageCallback thread kvp)).pendingTemperatureUpdates =
      l.pendingTemperatureUpdates := by
  simp only [lifecycle, Machine.next, Lifecycle.messageCallback]
  split
  · split <;> rfl
  · rfl

/-- **Every step of the component is the steps of the pipeline it takes effect as.** -/
theorem simulates_next (h : Simulates c p) (step : ComponentStep κ) :
    Simulates ((component κ).next c step) (pipeline.state p (c.points step)) := by
  have hsound := sound_next h.sound step
  cases step with
  | owner created =>
    exact h.of_same hsound (advanceOwner_frame c created).2.1 (advanceOwner_queue h.sound created)
  | destroy =>
    refine h.of_same hsound ?_ ?_
    · simp only [component, Machine.next, Component.destroy]
      split <;> rfl
    · simp only [component, Machine.next, Component.destroy]
      split
      · next howner => exact fun _ => ⟨by rw [howner]; exact id, rfl, rfl⟩
      · exact fun hjoined => ⟨hjoined, rfl, rfl⟩
  | worker env =>
    -- a worker that is not over has not been joined
    have hqueue : ¬ c.worker.Over → _ := fun hactive =>
      h.queue_eq fun hjoined => hactive (h.sound.worker_over hjoined)
    simp only [component, Machine.next, Component.advanceWorker] at hsound ⊢
    cases hworker : c.worker with
    | notStarted | finished =>
      simp only [Component.points, hworker]
      exact h
    | sleeping =>
      simp only [Component.points, hworker] at hsound ⊢
      exact h.of_same hsound rfl fun hjoined => ⟨hjoined, rfl, by rw [hworker]; rfl⟩
    | checking =>
      simp only [Component.points, hworker] at hsound ⊢
      refine h.of_same hsound rfl fun hjoined => ⟨hjoined, rfl, ?_⟩
      rw [hworker]
      dsimp only
      split_ifs <;> rfl
    | taking =>
      obtain ⟨hpending, hhand⟩ := hqueue (by rw [hworker]; exact id)
      rw [hworker] at hhand
      simp only [Component.points, hworker] at hsound ⊢
      rw [Machine.state_cons, Machine.state_nil, next_getTemperatureUpdate_of_none hhand.symm,
        ← hpending]
      refine ⟨hsound, h.service_eq, fun _ => ⟨rfl, ?_⟩⟩
      dsimp only
      split
      · next htaken => exact htaken.symm
      · next htaken => exact htaken.symm
    | handling update =>
      obtain ⟨hpending, hhand⟩ := hqueue (by rw [hworker]; exact id)
      rw [hworker] at hhand
      simp only [Component.points, hworker] at hsound ⊢
      rw [Machine.state_cons, Machine.state_nil,
        next_handleControlPlaneUpdate_of_some hhand.symm, ← h.service_eq]
      exact ⟨hsound, rfl, fun _ => ⟨hpending, rfl⟩⟩
  | registry call =>
    simp only [component, Machine.next, Component.callRegistry] at hsound ⊢
    cases howner : c.owner with
    | running =>
      simp only [Component.points, howner] at hsound ⊢
      refine ⟨hsound, congrArg (fun s => service.next s (.registry call)) h.service_eq, ?_⟩
      exact fun _ => h.queue_eq (by rw [howner]; exact id)
    | _ =>
      simp only [Component.points, howner]
      exact h
  | messageCallback thread kvp =>
    exact h.of_same hsound rfl fun hjoined => ⟨hjoined, messageCallback_pending .., rfl⟩
  | advanceCallback thread =>
    have hpending := advanceCallback_pending c.ut thread
    cases hcallback : c.ut.callbacks thread with
    | pushing kvp =>
      simp only [Component.points, hcallback, Machine.state_cons, Machine.state_nil] at hpending ⊢
      rw [next_pushMessage]
      refine ⟨hsound, h.service_eq, fun hjoined => ?_⟩
      obtain ⟨hqueue, hhand⟩ := h.queue_eq hjoined
      exact ⟨hpending.trans (congrArg (pushMessage kvp) hqueue), hhand⟩
    | idle | leaving =>
      simp only [Component.points, hcallback] at hpending ⊢
      exact h.of_same hsound rfl fun hjoined => ⟨hjoined, hpending, rfl⟩

/-- The service of the component makes the calls of the pipeline. -/
theorem serviceCalls_emit (h : Simulates c p) (step : ComponentStep κ) :
    serviceCalls ((component κ).emit c step) = pipeline.trace p (c.points step) := by
  cases step with
  | owner created =>
    exact (advanceOwner_frame c created).2.2
  | worker env =>
    simp only [component, Machine.emit, Component.advanceWorker]
    cases hworker : c.worker with
    | handling update =>
      have hactive : ¬ c.worker.Over := by rw [hworker]; exact id
      have hhand := (h.queue_eq fun hjoined => hactive (h.sound.worker_over hjoined)).2
      rw [hworker] at hhand
      simp only [Component.points, hworker, serviceCalls_service, Machine.trace_cons,
        Machine.trace_nil, List.append_nil, h.service_eq]
      simp only [pipeline, Machine.emit, ← hhand, UtWorker.inHand]
    | taking =>
      have hactive : ¬ c.worker.Over := by rw [hworker]; exact id
      have hhand := (h.queue_eq fun hjoined => hactive (h.sound.worker_over hjoined)).2
      simp [Component.points, hworker, pipeline, Machine.emit, ← hhand, UtWorker.inHand]
    | _ => simp [Component.points, hworker]
  | registry call => cases howner : c.owner <;> simp [component, Machine.emit, Component.points,
      howner, pipeline]
  | advanceCallback thread =>
    cases hcallback : c.ut.callbacks thread <;> simp [component, Machine.emit, Component.points,
      hcallback, pipeline]
  | destroy | messageCallback => rfl

/-- **The component refines its pipeline.** Over every run of the component, whatever its owning
thread, its clients and the library threads do, its service is the service of a run of the
pipeline, with the same calls, and until the worker is joined they agree on the queue and on the
update in the worker's hand. -/
theorem component_refines_pipeline (cfg : ThermalHfpConfig) (controlPort : UInt16)
    (steadyClockMs : ℤ) (steps : List (ComponentStep κ)) :
    let c := (component κ).state (.start κ cfg controlPort steadyClockMs) steps
    let points := (component κ).collect Component.points (.start κ cfg controlPort steadyClockMs)
      steps
    let p := pipeline.state (.start cfg steadyClockMs) points
    c.service = p.service ∧
      serviceCalls ((component κ).trace (.start κ cfg controlPort steadyClockMs) steps) =
        pipeline.trace (.start cfg steadyClockMs) points ∧
      (¬ c.owner.Joined → c.ut.pendingTemperatureUpdates = p.pending ∧
        c.worker.inHand = p.inHand) := by
  intro c points p
  have hstart : Simulates (.start κ cfg controlPort steadyClockMs) (.start cfg steadyClockMs) :=
    ⟨sound_start cfg controlPort steadyClockMs, rfl, fun _ => ⟨rfl, rfl⟩⟩
  have hend : Simulates c p := Machine.state_collect (M := component κ) (N := pipeline)
    (R := Simulates) (fun _ _ step h => simulates_next h step) hstart steps
  refine ⟨hend.service_eq, ?_, hend.queue_eq⟩
  have htrace := Machine.collect_eq_trace (M := component κ) (N := pipeline) (R := Simulates)
    (g := some) (fun _ _ step h => simulates_next h step)
    (fun _ _ step h => by rw [List.filterMap_some]; exact serviceCalls_emit h step) hstart steps
  rw [List.filterMap_some] at htrace
  rw [← htrace, serviceCalls, ← Machine.collect_emit]
  rfl

end Simulation

end ThermalHal
