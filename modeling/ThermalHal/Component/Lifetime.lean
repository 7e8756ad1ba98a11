import ThermalHal.Controller.Drain
import ThermalHal.Controller.Pipeline

/-!
# The service from its constructor to its destructor

`ThermalSensor` owns the controller and one worker thread. Its constructor calls `init` and
starts the worker if that succeeds; its destructor sets the stop flag, joins the worker and
calls `shutdown`, and the destructor of the controller calls it once more. All that time
library threads deliver messages and clients call the registry.

The thread that constructs and destroys the service is the only one that calls the controller,
so the library sees one of three sequences of calls (`library_calls`). Binder keeps the service
alive during a call, so there is no registry call outside of `running`.

## Main definitions

* `UtWorker`, `OwnerPhase` — where the worker and the owning thread are in the source.
* `Component`, `component` — the service, its controller and all threads as one machine.
* `Progress` — the positions of the owning thread and what it has called so far.
* `Session`, `library_calls` — what the library sees of one service.
-/

namespace ThermalHal

open Lib

universe v

/-- Where the worker thread is in `utWorkerLoop`. -/
inductive UtWorker
  /-- Not created, so not joinable. -/
  | notStarted
  /-- Before the test of the loop. -/
  | checking
  /-- Before `getTemperatureUpdate`. -/
  | taking
  /-- Before `handleControlPlaneUpdate`. -/
  | handling (update : ThermalTemperatureUpdate)
  | sleeping
  | finished

/-- Where the thread that owns the service is. -/
inductive OwnerPhase
  /-- In `ThermalSensor`, before `init` returns. -/
  | constructing
  | running
  /-- In `~ThermalSensor`, with the stop flag set. -/
  | joining
  /-- In its call of `shutdown`. -/
  | shuttingDown
  /-- In the call of `shutdown` that `~ThermalUtController` makes. -/
  | releasing
  | destroyed
  deriving DecidableEq

/-- The service, the controller it owns, and its threads. -/
structure Component (κ : Type v) where
  controlPort : UInt16
  ut : Lifecycle Unit κ
  service : ThermalSensor
  stopUtWorker : Bool
  worker : UtWorker
  owner : OwnerPhase

/-- One atomic step: of the owning thread, which may begin to destroy a running service, of the
worker, of a client or of a library thread. -/
inductive ComponentStep (κ : Type v)
  | owner (created : Bool)
  | destroy
  | worker (env : Environment)
  | registry (call : RegistryCall)
  | messageCallback (thread : κ) (kvp : Option UtKvpInstance)
  | advanceCallback (thread : κ)

/-- What the component does to the library and to everything else. -/
inductive ComponentEffect
  | library (effect : LifecycleEffect)
  | service (effect : Effect)
  deriving DecidableEq

namespace Component

variable {κ : Type v}

/-- The service once `initializeSensors` has returned. -/
def start (κ : Type v) (cfg : ThermalHfpConfig) (controlPort : UInt16) (steadyClockMs : ℤ) :
    Component κ :=
  ⟨controlPort, .start, initializeSensors cfg steadyClockMs, false, .notStarted, .constructing⟩

variable [DecidableEq κ]

/-- The next section of a call of the controller, which begins with `call`. -/
def callUt (c : Component κ) (call : LifecycleStep Unit κ) (created : Bool) :
    Lifecycle Unit κ × List LifecycleEffect :=
  (lifecycle Unit κ).step c.ut
    (match c.ut.calls () with
    | .idle => call
    | _ => .advance () created)

/-- The owning thread. -/
def advanceOwner (c : Component κ) (created : Bool) : Component κ × List ComponentEffect :=
  match c.owner with
  | .constructing =>
      let called := c.callUt (.init () c.controlPort) created
      ({ c with
          ut := called.1
          stopUtWorker := if .initReturned true ∈ called.2 then false else c.stopUtWorker
          worker := if .initReturned true ∈ called.2 then .checking else c.worker
          owner :=
            if .initReturned true ∈ called.2 ∨ .initReturned false ∈ called.2 then .running
            else .constructing }, called.2.map .library)
  | .running => (c, [])
  | .joining =>
      match c.worker with
      | .notStarted => ({ c with owner := .shuttingDown }, [])
      | .finished => ({ c with owner := .shuttingDown }, [])
      | _ => (c, [])
  | .shuttingDown =>
      let called := c.callUt (.shutdown ()) created
      ({ c with
          ut := called.1
          owner := if .shutdownReturned ∈ called.2 then .releasing else .shuttingDown },
        called.2.map .library)
  | .releasing =>
      let called := c.callUt (.shutdown ()) created
      ({ c with
          ut := called.1
          owner := if .shutdownReturned ∈ called.2 then .destroyed else .releasing },
        called.2.map .library)
  | .destroyed => (c, [])

/-- The destructor begins. -/
def destroy (c : Component κ) : Component κ :=
  match c.owner with
  | .running => { c with stopUtWorker := true, owner := .joining }
  | _ => c

/-- `utWorkerLoop`. -/
def advanceWorker (c : Component κ) (env : Environment) : Component κ × List ComponentEffect :=
  match c.worker with
  | .notStarted => (c, [])
  | .checking => ({ c with worker := if c.stopUtWorker then .finished else .taking }, [])
  | .taking =>
      let taken := getTemperatureUpdate c.ut.pendingTemperatureUpdates
      ({ c with
          ut := { c.ut with pendingTemperatureUpdates := taken.1 }
          worker :=
            match taken.2 with
            | some update => .handling update
            | none => .sleeping }, [])
  | .handling update =>
      let applied := handleControlPlaneUpdate env update c.service
      ({ c with service := applied.1, worker := .checking }, applied.2.map .service)
  | .sleeping => ({ c with worker := .checking }, [])
  | .finished => (c, [])

/-- A registry call of a client. -/
def callRegistry (c : Component κ) (call : RegistryCall) : Component κ :=
  match c.owner with
  | .running => { c with service := ThermalHal.service.next c.service (.registry call) }
  | _ => c

end Component

/-- The component with all its threads. -/
def component (κ : Type v) [DecidableEq κ] :
    Machine (Component κ) (ComponentStep κ) ComponentEffect where
  step c
    | .owner created => c.advanceOwner created
    | .destroy => (c.destroy, [])
    | .worker env => c.advanceWorker env
    | .registry call => (c.callRegistry call, [])
    | .messageCallback thread kvp =>
        ({ c with ut := (lifecycle Unit κ).next c.ut (.messageCallback thread kvp) }, [])
    | .advanceCallback thread =>
        ({ c with ut := (lifecycle Unit κ).next c.ut (.advanceCallback thread) }, [])

/-- The calls of the library among the effects of a run. -/
def libraryCalls (effects : List ComponentEffect) : List LifecycleEffect :=
  effects.filterMap fun
    | .library effect => some effect
    | .service _ => none

/-- The calls of the service. -/
def serviceCalls (effects : List ComponentEffect) : List Effect :=
  effects.filterMap fun
    | .library _ => none
    | .service effect => some effect

/-! ## The owning thread -/

/-- The thread exists. -/
def UtWorker.started : UtWorker → Bool
  | .notStarted => false
  | _ => true

/-- The worker takes no further step. -/
def UtWorker.Over : UtWorker → Prop
  | .notStarted => True
  | .finished => True
  | _ => False

/-- What the library has seen when the service is up. -/
def startedCalls : List LifecycleEffect :=
  [.utControlPlaneInit (some 0), .utControlPlaneRegisterCallbackOnMessage 0,
    .utControlPlaneStart 0, .initReturned true]

/-- What it has seen when `init` has failed. -/
inductive FailedStart (controlPort : UInt16) : List LifecycleEffect → Prop
  | invalidPort (h : controlPort = 0) : FailedStart controlPort [.initReturned false]
  | notCreated (h : controlPort ≠ 0) :
      FailedStart controlPort [.utControlPlaneInit none, .initReturned false]

/-- The service is constructed and has not begun to stop the control plane. -/
def OwnerPhase.Up (phase : OwnerPhase) : Prop :=
  phase = .running ∨ phase = .joining ∨ phase = .shuttingDown

/-- What it has seen when the control plane is down again. -/
inductive Finished (controlPort : UInt16) : List LifecycleEffect → Prop
  | served (h : controlPort ≠ 0) :
      Finished controlPort (startedCalls ++ [.utControlPlaneExit 0])
  | failed {log : List LifecycleEffect} (h : FailedStart controlPort log) :
      Finished controlPort log

/-- The positions of the owning thread: its phase, the call of the controller it is in, the
instance, what the library hands out next, whether there is a worker, and the calls so far. -/
inductive Progress (controlPort : UInt16) :
    OwnerPhase → ControlCall → Option ℕ → ℕ → Bool → List LifecycleEffect → Prop
  | entering : Progress controlPort .constructing .idle none 0 false []
  | creating (h : controlPort ≠ 0) :
      Progress controlPort .constructing .creating none 0 false []
  | registering (h : controlPort ≠ 0) :
      Progress controlPort .constructing (.registering 0) none 1 false
        [.utControlPlaneInit (some 0)]
  | publishing (h : controlPort ≠ 0) :
      Progress controlPort .constructing (.publishing 0) none 1 false
        [.utControlPlaneInit (some 0), .utControlPlaneRegisterCallbackOnMessage 0]
  | starting (h : controlPort ≠ 0) :
      Progress controlPort .constructing (.starting 0) (some 0) 1 false
        [.utControlPlaneInit (some 0), .utControlPlaneRegisterCallbackOnMessage 0]
  | serving {phase : OwnerPhase} (hphase : phase.Up) (h : controlPort ≠ 0) :
      Progress controlPort phase .idle (some 0) 1 true startedCalls
  | draining (h : controlPort ≠ 0) :
      Progress controlPort .shuttingDown .draining (some 0) 1 true startedCalls
  | exiting (h : controlPort ≠ 0) :
      Progress controlPort .shuttingDown (.exiting 0) none 1 true startedCalls
  | clearing (h : controlPort ≠ 0) :
      Progress controlPort .shuttingDown .clearing none 1 true
        (startedCalls ++ [.utControlPlaneExit 0])
  | deaf {phase : OwnerPhase} {log : List LifecycleEffect} (hphase : phase.Up)
      (hlog : FailedStart controlPort log) : Progress controlPort phase .idle none 0 false log
  | released {next : ℕ} {started : Bool} {log : List LifecycleEffect}
      (hlog : Finished controlPort log) (hstarted : started = true ↔ .initReturned true ∈ log) :
      Progress controlPort .releasing .idle none next started (log ++ [.shutdownReturned])
  | destroyed {next : ℕ} {started : Bool} {log : List LifecycleEffect}
      (hlog : Finished controlPort log) (hstarted : started = true ↔ .initReturned true ∈ log) :
      Progress controlPort .destroyed .idle none next started
        (log ++ [.shutdownReturned] ++ [.shutdownReturned])

/-- Where the owning thread of a component is. -/
def Component.Progressed {κ : Type v} (log : List LifecycleEffect) (c : Component κ) : Prop :=
  Progress c.controlPort c.owner (c.ut.calls ()) c.ut.controlPlaneInstance c.ut.nextInstance
    c.worker.started log

@[simp] theorem serviceCalls_nil : serviceCalls [] = [] := rfl

@[simp] theorem serviceCalls_service (calls : List Effect) :
    serviceCalls (calls.map .service) = calls := by
  simp [serviceCalls, List.filterMap_map]

@[simp] theorem serviceCalls_library (calls : List LifecycleEffect) :
    serviceCalls (calls.map .library) = [] := by
  simp [serviceCalls, List.filterMap_map]

theorem FailedStart.not_mem {controlPort : UInt16} {log : List LifecycleEffect}
    (h : FailedStart controlPort log) : .initReturned true ∉ log := by
  cases h <;> simp

@[simp] theorem libraryCalls_append (xs ys : List ComponentEffect) :
    libraryCalls (xs ++ ys) = libraryCalls xs ++ libraryCalls ys := List.filterMap_append

@[simp] theorem libraryCalls_nil : libraryCalls [] = [] := rfl

@[simp] theorem libraryCalls_cons (call : LifecycleEffect) (effects : List ComponentEffect) :
    libraryCalls (.library call :: effects) = call :: libraryCalls effects := rfl

@[simp] theorem libraryCalls_service (calls : List Effect) :
    libraryCalls (calls.map .service) = [] := by
  simp [libraryCalls, List.filterMap_map]

/-- The worker goes on existing. -/
theorem started_advanceWorker {κ : Type v} (c : Component κ) (env : Environment) :
    (c.advanceWorker env).1.worker.started = c.worker.started := by
  cases h : c.worker with
  | notStarted | finished | sleeping | handling =>
    simp [Component.advanceWorker, h, UtWorker.started]
  | checking =>
    cases hstop : c.stopUtWorker <;> simp [Component.advanceWorker, h, hstop, UtWorker.started]
  | taking =>
    cases htaken : (getTemperatureUpdate c.ut.pendingTemperatureUpdates).2 <;>
      simp [Component.advanceWorker, h, htaken, UtWorker.started]

/-- The worker is alone with the service and the queue. -/
theorem advanceWorker_frame {κ : Type v} (c : Component κ) (env : Environment) :
    (c.advanceWorker env).1.controlPort = c.controlPort ∧
      (c.advanceWorker env).1.owner = c.owner ∧
      (c.advanceWorker env).1.ut.calls = c.ut.calls ∧
      (c.advanceWorker env).1.ut.controlPlaneInstance = c.ut.controlPlaneInstance ∧
      (c.advanceWorker env).1.ut.nextInstance = c.ut.nextInstance ∧
      libraryCalls (c.advanceWorker env).2 = [] := by
  cases h : c.worker with
  | handling update => simp [Component.advanceWorker, h]
  | _ => simp [Component.advanceWorker, h]

/-- The destructor begins with its phase and the stop flag. -/
theorem destroy_frame {κ : Type v} (c : Component κ) :
    c.destroy.controlPort = c.controlPort ∧ c.destroy.ut = c.ut ∧
      c.destroy.service = c.service ∧ c.destroy.worker = c.worker := by
  cases howner : c.owner <;> simp [Component.destroy, howner]

/-- A client reaches the service alone. -/
theorem callRegistry_frame {κ : Type v} (c : Component κ) (call : RegistryCall) :
    (c.callRegistry call).controlPort = c.controlPort ∧ (c.callRegistry call).ut = c.ut ∧
      (c.callRegistry call).stopUtWorker = c.stopUtWorker ∧
      (c.callRegistry call).worker = c.worker ∧ (c.callRegistry call).owner = c.owner := by
  cases howner : c.owner <;> simp [Component.callRegistry, howner]

section Step

variable {κ : Type v} [DecidableEq κ]

/-- The owning thread does not reach the service. -/
theorem advanceOwner_frame (c : Component κ) (created : Bool) :
    (c.advanceOwner created).1.controlPort = c.controlPort ∧
      (c.advanceOwner created).1.service = c.service ∧
      serviceCalls (c.advanceOwner created).2 = [] := by
  cases howner : c.owner with
  | joining => cases hworker : c.worker <;> simp [Component.advanceOwner, howner, hworker]
  | _ => simp [Component.advanceOwner, howner]

/-- The owning thread creates the worker and does not touch it afterwards. -/
theorem advanceOwner_worker {c : Component κ} (h : c.owner ≠ .constructing) (created : Bool) :
    (c.advanceOwner created).1.worker = c.worker := by
  cases howner : c.owner with
  | constructing => exact absurd howner h
  | joining => cases hworker : c.worker <;> simp [Component.advanceOwner, howner, hworker]
  | _ => simp [Component.advanceOwner, howner]

theorem callUt_of_idle {c : Component κ} (h : c.ut.calls () = .idle)
    (call : LifecycleStep Unit κ) (created : Bool) :
    c.callUt call created = (lifecycle Unit κ).step c.ut call := by
  simp only [Component.callUt, h]

theorem callUt_of_ne {c : Component κ} (h : c.ut.calls () ≠ .idle)
    (call : LifecycleStep Unit κ) (created : Bool) :
    c.callUt call created = c.ut.advance () created := by
  rw [Component.callUt]
  split
  · next hidle => exact absurd hidle h
  · rfl

/-! ### The owning thread at each of its positions -/

section Positions

variable {c : Component κ} (created : Bool) {x : ℕ}

theorem advanceOwner_entering (howner : c.owner = .constructing) (hcall : c.ut.calls () = .idle)
    (hinst : c.ut.controlPlaneInstance = none) :
    c.advanceOwner created =
      if c.controlPort = 0 then ({ c with owner := .running }, [.library (.initReturned false)])
      else ({ c with ut := c.ut.setCall () .creating }, []) := by
  by_cases hport : c.controlPort = 0 <;>
    simp [Component.advanceOwner, howner, callUt_of_idle hcall, lifecycle, hcall, Lifecycle.init,
      hinst, hport]

theorem advanceOwner_creating (howner : c.owner = .constructing)
    (hcall : c.ut.calls () = .creating) :
    c.advanceOwner created =
      if created then
        ({ c with
            ut := { c.ut with nextInstance := c.ut.nextInstance + 1 }.setCall ()
              (.registering c.ut.nextInstance) },
          [.library (.utControlPlaneInit (some c.ut.nextInstance))])
      else
        ({ c with ut := c.ut.setCall () .idle, owner := .running },
          [.library (.utControlPlaneInit none), .library (.initReturned false)]) := by
  cases created <;>
    simp [Component.advanceOwner, howner, callUt_of_ne, hcall, Lifecycle.advance]

theorem advanceOwner_registering (howner : c.owner = .constructing)
    (hcall : c.ut.calls () = .registering x) :
    c.advanceOwner created =
      ({ c with ut := c.ut.setCall () (.publishing x) },
        [.library (.utControlPlaneRegisterCallbackOnMessage x)]) := by
  simp [Component.advanceOwner, howner, callUt_of_ne, hcall, Lifecycle.advance]

theorem advanceOwner_publishing (howner : c.owner = .constructing)
    (hcall : c.ut.calls () = .publishing x) (hinst : c.ut.controlPlaneInstance = none) :
    c.advanceOwner created =
      ({ c with
          ut := { c.ut with controlPlaneInstance := some x, acceptingCallbacks := true }.setCall ()
            (.starting x) }, []) := by
  simp [Component.advanceOwner, howner, callUt_of_ne, hcall, Lifecycle.advance, hinst]

theorem advanceOwner_starting (howner : c.owner = .constructing)
    (hcall : c.ut.calls () = .starting x) :
    c.advanceOwner created =
      ({ c with
          ut := c.ut.setCall () .idle
          stopUtWorker := false
          worker := .checking
          owner := .running },
        [.library (.utControlPlaneStart x), .library (.initReturned true)]) := by
  simp [Component.advanceOwner, howner, callUt_of_ne, hcall, Lifecycle.advance]

/-- A running service and a destroyed one are left alone. -/
theorem advanceOwner_still (howner : c.owner = .running ∨ c.owner = .destroyed) :
    c.advanceOwner created = (c, []) := by
  rcases howner with howner | howner <;> simp [Component.advanceOwner, howner]

theorem advanceOwner_joined (howner : c.owner = .joining) (hover : c.worker.Over) :
    c.advanceOwner created = ({ c with owner := .shuttingDown }, []) := by
  cases hworker : c.worker with
  | notStarted | finished => simp [Component.advanceOwner, howner, hworker]
  | checking | taking | handling | sleeping =>
    rw [hworker] at hover
    exact hover.elim

theorem advanceOwner_waiting (howner : c.owner = .joining) (hactive : ¬ c.worker.Over) :
    c.advanceOwner created = (c, []) := by
  cases hworker : c.worker with
  | notStarted | finished =>
    rw [hworker] at hactive
    exact absurd trivial hactive
  | checking | taking | handling | sleeping => simp [Component.advanceOwner, howner, hworker]

/-- Nothing is left to stop. -/
theorem advanceOwner_shuttingDown_of_none (howner : c.owner = .shuttingDown)
    (hcall : c.ut.calls () = .idle) (hinst : c.ut.controlPlaneInstance = none) :
    c.advanceOwner created = ({ c with owner := .releasing }, [.library .shutdownReturned]) := by
  simp [Component.advanceOwner, howner, callUt_of_idle hcall, lifecycle, hcall, Lifecycle.shutdown,
    hinst]

theorem advanceOwner_releasing (howner : c.owner = .releasing) (hcall : c.ut.calls () = .idle)
    (hinst : c.ut.controlPlaneInstance = none) :
    c.advanceOwner created = ({ c with owner := .destroyed }, [.library .shutdownReturned]) := by
  simp [Component.advanceOwner, howner, callUt_of_idle hcall, lifecycle, hcall, Lifecycle.shutdown,
    hinst]

theorem advanceOwner_shuttingDown (howner : c.owner = .shuttingDown)
    (hcall : c.ut.calls () = .idle) (hinst : c.ut.controlPlaneInstance = some x) :
    c.advanceOwner created =
      if c.ut.activeCallbacks = 0 then
        ({ c with
            ut := { c.ut with controlPlaneInstance := none, acceptingCallbacks := false }.setCall ()
              (.exiting x) }, [])
      else
        ({ c with ut := { c.ut with acceptingCallbacks := false }.setCall () .draining }, []) := by
  by_cases hactive : c.ut.activeCallbacks = 0 <;>
    simp [Component.advanceOwner, howner, callUt_of_idle hcall, lifecycle, hcall,
      Lifecycle.shutdown, Lifecycle.drain, hinst, hactive]

theorem advanceOwner_draining (howner : c.owner = .shuttingDown)
    (hcall : c.ut.calls () = .draining) (hinst : c.ut.controlPlaneInstance = some x) :
    c.advanceOwner created =
      if c.ut.activeCallbacks = 0 then
        ({ c with ut := { c.ut with controlPlaneInstance := none }.setCall () (.exiting x) }, [])
      else ({ c with ut := c.ut.setCall () .draining }, []) := by
  by_cases hactive : c.ut.activeCallbacks = 0 <;>
    simp [Component.advanceOwner, howner, callUt_of_ne, hcall, Lifecycle.advance, Lifecycle.drain,
      hinst, hactive]

theorem advanceOwner_exiting (howner : c.owner = .shuttingDown)
    (hcall : c.ut.calls () = .exiting x) :
    c.advanceOwner created =
      ({ c with ut := c.ut.setCall () .clearing }, [.library (.utControlPlaneExit x)]) := by
  simp [Component.advanceOwner, howner, callUt_of_ne, hcall, Lifecycle.advance]

theorem advanceOwner_clearing (howner : c.owner = .shuttingDown)
    (hcall : c.ut.calls () = .clearing) :
    c.advanceOwner created =
      ({ c with
          ut := { c.ut with pendingTemperatureUpdates := .empty }.setCall () .idle
          owner := .releasing }, [.library .shutdownReturned]) := by
  simp [Component.advanceOwner, howner, callUt_of_ne, hcall, Lifecycle.advance]

end Positions

/-- **The owning thread moves from one position to the next.** -/
theorem progressed_owner {c : Component κ} {log : List LifecycleEffect} (h : c.Progressed log)
    (created : Bool) :
    (c.advanceOwner created).1.Progressed (log ++ libraryCalls (c.advanceOwner created).2) := by
  rw [Component.Progressed] at h
  generalize howner : c.owner = owner, hcall : c.ut.calls () = call,
    hinst : c.ut.controlPlaneInstance = inst, hnext : c.ut.nextInstance = next,
    hstarted : c.worker.started = started at h
  cases h with
  | entering =>
    rw [advanceOwner_entering created howner hcall hinst]
    by_cases hport : c.controlPort = 0
    · simpa [Component.Progressed, hport, hcall, hinst, hnext, hstarted] using
        Progress.deaf (Or.inl rfl) (.invalidPort rfl)
    · simpa [Component.Progressed, hport, howner, hinst, hnext, hstarted] using
        Progress.creating hport
  | creating hport =>
    rw [advanceOwner_creating created howner hcall]
    cases created with
    | false =>
      simpa [Component.Progressed, hinst, hnext, hstarted] using
        Progress.deaf (Or.inl rfl) (.notCreated hport)
    | true =>
      simpa [Component.Progressed, howner, hinst, hnext, hstarted] using Progress.registering hport
  | registering hport =>
    rw [advanceOwner_registering created howner hcall]
    simpa [Component.Progressed, howner, hinst, hnext, hstarted] using Progress.publishing hport
  | publishing hport =>
    rw [advanceOwner_publishing created howner hcall hinst]
    simpa [Component.Progressed, howner, hnext, hstarted] using Progress.starting hport
  | starting hport =>
    rw [advanceOwner_starting created howner hcall]
    simpa [Component.Progressed, hinst, hnext, UtWorker.started, startedCalls] using
      Progress.serving (Or.inl rfl) hport
  | serving hphase hport =>
    rcases hphase with rfl | rfl | rfl
    · rw [advanceOwner_still created (Or.inl howner)]
      simpa [Component.Progressed, howner, hcall, hinst, hnext, hstarted] using
        Progress.serving (Or.inl rfl) hport
    · by_cases hover : c.worker.Over
      · rw [advanceOwner_joined created howner hover]
        simpa [Component.Progressed, hcall, hinst, hnext, hstarted] using
          Progress.serving (Or.inr (Or.inr rfl)) hport
      · rw [advanceOwner_waiting created howner hover]
        simpa [Component.Progressed, howner, hcall, hinst, hnext, hstarted] using
          Progress.serving (Or.inr (Or.inl rfl)) hport
    · rw [advanceOwner_shuttingDown created howner hcall hinst]
      split_ifs
      · simpa [Component.Progressed, howner, hnext, hstarted] using Progress.exiting hport
      · simpa [Component.Progressed, howner, hinst, hnext, hstarted] using Progress.draining hport
  | draining hport =>
    rw [advanceOwner_draining created howner hcall hinst]
    split_ifs
    · simpa [Component.Progressed, howner, hnext, hstarted] using Progress.exiting hport
    · simpa [Component.Progressed, howner, hinst, hnext, hstarted] using Progress.draining hport
  | exiting hport =>
    rw [advanceOwner_exiting created howner hcall]
    simpa [Component.Progressed, howner, hinst, hnext, hstarted] using Progress.clearing hport
  | clearing hport =>
    rw [advanceOwner_clearing created howner hcall]
    simpa [Component.Progressed, hinst, hnext, hstarted] using
      Progress.released (.served hport) (by simp [startedCalls])
  | deaf hphase hlog =>
    rcases hphase with rfl | rfl | rfl
    · rw [advanceOwner_still created (Or.inl howner)]
      simpa [Component.Progressed, howner, hcall, hinst, hnext, hstarted] using
        Progress.deaf (Or.inl rfl) hlog
    · by_cases hover : c.worker.Over
      · rw [advanceOwner_joined created howner hover]
        simpa [Component.Progressed, hcall, hinst, hnext, hstarted] using
          Progress.deaf (Or.inr (Or.inr rfl)) hlog
      · rw [advanceOwner_waiting created howner hover]
        simpa [Component.Progressed, howner, hcall, hinst, hnext, hstarted] using
          Progress.deaf (Or.inr (Or.inl rfl)) hlog
    · rw [advanceOwner_shuttingDown_of_none created howner hcall hinst]
      simpa [Component.Progressed, hcall, hinst, hnext, hstarted] using
        Progress.released (.failed hlog) (by simp [hlog.not_mem])
  | released hlog hworker =>
    rw [advanceOwner_releasing created howner hcall hinst]
    simpa [Component.Progressed, hcall, hinst, hnext, hstarted] using
      Progress.destroyed hlog hworker
  | destroyed hlog hworker =>
    rw [advanceOwner_still created (Or.inr howner)]
    simpa [Component.Progressed, howner, hcall, hinst, hnext, hstarted] using
      Progress.destroyed hlog hworker

/-- A library thread does not touch what the owning thread depends on. -/
theorem callback_next (l : Lifecycle Unit κ) {step : LifecycleStep Unit κ}
    (hstep : (∃ thread kvp, step = .messageCallback thread kvp) ∨
      ∃ thread, step = .advanceCallback thread) :
    ((lifecycle Unit κ).next l step).calls = l.calls ∧
      ((lifecycle Unit κ).next l step).controlPlaneInstance = l.controlPlaneInstance ∧
      ((lifecycle Unit κ).next l step).nextInstance = l.nextInstance := by
  rcases hstep with ⟨thread, kvp, rfl⟩ | ⟨thread, rfl⟩
  · simp only [lifecycle, Machine.next, Lifecycle.messageCallback]
    split
    · split <;> exact ⟨rfl, rfl, rfl⟩
    · exact ⟨rfl, rfl, rfl⟩
  · simp only [lifecycle, Machine.next, Lifecycle.advanceCallback]
    split <;> exact ⟨rfl, rfl, rfl⟩

theorem progressed_next {c : Component κ} {log : List LifecycleEffect} (h : c.Progressed log)
    (step : ComponentStep κ) :
    ((component κ).next c step).Progressed (log ++ libraryCalls ((component κ).emit c step)) := by
  have hquiet : log ++ libraryCalls [] = log := List.append_nil log
  cases step with
  | owner created => exact progressed_owner h created
  | destroy =>
    simp only [component, Machine.next, Machine.emit, hquiet, Component.destroy]
    split
    · next howner =>
      simp only [Component.Progressed, howner] at h ⊢
      generalize c.ut.calls () = call, c.ut.controlPlaneInstance = inst, c.ut.nextInstance = next,
        c.worker.started = started at h ⊢
      cases h with
      | serving hphase hport => exact .serving (Or.inr (Or.inl rfl)) hport
      | deaf hphase hlog => exact .deaf (Or.inr (Or.inl rfl)) hlog
    · exact h
  | worker env =>
    obtain ⟨hport, howner, hcalls, hinst, hnext, hlog⟩ := advanceWorker_frame c env
    have hstarted := started_advanceWorker c env
    simp only [component, Machine.next, Machine.emit, hlog, List.append_nil,
      Component.Progressed, hport, howner, hcalls, hinst, hnext, hstarted]
    exact h
  | registry call =>
    obtain ⟨hport, hut, -, hworker, howner⟩ := callRegistry_frame c call
    simp only [component, Machine.next, Machine.emit, hquiet, Component.Progressed, hport, hut,
      hworker, howner]
    exact h
  | messageCallback thread kvp =>
    obtain ⟨hcalls, hinst, hnext⟩ := callback_next c.ut (Or.inl ⟨thread, kvp, rfl⟩)
    simp only [component, Machine.emit, hquiet]
    simp only [Machine.next, Component.Progressed] at hcalls hinst hnext ⊢
    rw [hcalls, hinst, hnext]
    exact h
  | advanceCallback thread =>
    obtain ⟨hcalls, hinst, hnext⟩ := callback_next c.ut (Or.inr ⟨thread, rfl⟩)
    simp only [component, Machine.emit, hquiet]
    simp only [Machine.next, Component.Progressed] at hcalls hinst hnext ⊢
    rw [hcalls, hinst, hnext]
    exact h

end Step

/-! ## Runs -/

/-- What the library sees of one service, from `init` to the second `shutdown`. -/
inductive Session (controlPort : UInt16) : List LifecycleEffect → Prop
  | invalidPort (h : controlPort = 0) :
      Session controlPort [.initReturned false, .shutdownReturned, .shutdownReturned]
  | notCreated (h : controlPort ≠ 0) :
      Session controlPort
        [.utControlPlaneInit none, .initReturned false, .shutdownReturned, .shutdownReturned]
  | served (h : controlPort ≠ 0) :
      Session controlPort
        [.utControlPlaneInit (some 0), .utControlPlaneRegisterCallbackOnMessage 0,
          .utControlPlaneStart 0, .initReturned true, .utControlPlaneExit 0, .shutdownReturned,
          .shutdownReturned]

section Runs

variable {κ : Type v} [DecidableEq κ]

/-- A step of the component is a step of its controller, or none. -/
theorem ut_next (c : Component κ) (step : ComponentStep κ) :
    ((component κ).next c step).ut = c.ut ∨
      ∃ call, ((component κ).next c step).ut = (lifecycle Unit κ).next c.ut call := by
  cases step with
  | owner created =>
    simp only [component, Machine.next, Component.advanceOwner]
    split
    · exact Or.inr ⟨_, rfl⟩
    · exact Or.inl rfl
    · split <;> exact Or.inl rfl
    · exact Or.inr ⟨_, rfl⟩
    · exact Or.inr ⟨_, rfl⟩
    · exact Or.inl rfl
  | destroy => exact Or.inl (destroy_frame c).2.1
  | worker env =>
    simp only [component, Machine.next, Component.advanceWorker]
    split
    · exact Or.inl rfl
    · exact Or.inl rfl
    · exact Or.inr ⟨.getTemperatureUpdate, rfl⟩
    · exact Or.inl rfl
    · exact Or.inl rfl
    · exact Or.inl rfl
  | registry call => exact Or.inl (callRegistry_frame c call).2.1
  | messageCallback thread kvp => exact Or.inr ⟨_, rfl⟩
  | advanceCallback thread => exact Or.inr ⟨_, rfl⟩

theorem drained_component_next {c : Component κ} (h : c.ut.Drained) (step : ComponentStep κ) :
    ((component κ).next c step).ut.Drained := by
  rcases ut_next c step with hsame | ⟨call, hcall⟩
  · rwa [hsame]
  · rw [hcall]
    exact drained_move h (lifecycleMove c.ut call)

/-- The controller inside the component keeps its own invariant. -/
theorem drained_component (cfg : ThermalHfpConfig) (controlPort : UInt16) (steadyClockMs : ℤ)
    (steps : List (ComponentStep κ)) :
    ((component κ).state (.start κ cfg controlPort steadyClockMs) steps).ut.Drained :=
  Machine.invariant (P := fun c : Component κ => c.ut.Drained)
    (fun _ step h => drained_component_next h step) drained_start steps

theorem controlPort_next (c : Component κ) (step : ComponentStep κ) :
    ((component κ).next c step).controlPort = c.controlPort := by
  cases step with
  | owner created => exact (advanceOwner_frame c created).1
  | destroy => exact (destroy_frame c).1
  | worker env => exact (advanceWorker_frame c env).1
  | registry call => exact (callRegistry_frame c call).1
  | messageCallback thread kvp => rfl
  | advanceCallback thread => rfl

/-- Where the owning thread is after a run. -/
theorem progressed_state (cfg : ThermalHfpConfig) (controlPort : UInt16) (steadyClockMs : ℤ)
    (steps : List (ComponentStep κ)) :
    ((component κ).state (.start κ cfg controlPort steadyClockMs) steps).Progressed
      (libraryCalls ((component κ).trace (.start κ cfg controlPort steadyClockMs) steps)) := by
  have hstart : (Component.start κ cfg controlPort steadyClockMs).Progressed [] := .entering
  refine Machine.trace_induction
    (P := fun log (c : Component κ) => c.Progressed (libraryCalls log)) hstart ?_ steps
  intro log c step h
  rw [libraryCalls_append]
  exact progressed_next h step

end Runs

/-- The calls of a position are the beginning of a session, which is over with the service. -/
theorem Progress.exists_session {controlPort : UInt16} {phase : OwnerPhase} {call : ControlCall}
    {inst : Option ℕ} {next : ℕ} {started : Bool} {log : List LifecycleEffect}
    (h : Progress controlPort phase call inst next started log) :
    ∃ session, Session controlPort session ∧ log <+: session ∧
      (phase = .destroyed → log = session) := by
  cases h with
  | entering =>
    by_cases hport : controlPort = 0
    · exact ⟨_, .invalidPort hport, List.nil_prefix, by simp⟩
    · exact ⟨_, .served hport, List.nil_prefix, by simp⟩
  | creating hport => exact ⟨_, .served hport, List.nil_prefix, by simp⟩
  | registering hport | publishing hport | starting hport | draining hport | exiting hport
  | clearing hport => exact ⟨_, .served hport, by simp [startedCalls], by simp⟩
  | serving hphase hport =>
    refine ⟨_, .served hport, by simp [startedCalls], ?_⟩
    rcases hphase with rfl | rfl | rfl <;> simp
  | deaf hphase hlog =>
    have hup : phase ≠ .destroyed := by rcases hphase with rfl | rfl | rfl <;> simp
    cases hlog with
    | invalidPort hport => exact ⟨_, .invalidPort hport, by simp, fun h => absurd h hup⟩
    | notCreated hport => exact ⟨_, .notCreated hport, by simp, fun h => absurd h hup⟩
  | released hlog hstarted =>
    rcases hlog with hport | (hport | hport)
    · exact ⟨_, .served hport, by simp [startedCalls], by simp⟩
    · exact ⟨_, .invalidPort hport, by simp, by simp⟩
    · exact ⟨_, .notCreated hport, by simp, by simp⟩
  | destroyed hlog hstarted =>
    rcases hlog with hport | (hport | hport)
    · exact ⟨_, .served hport, by simp [startedCalls], by simp [startedCalls]⟩
    · exact ⟨_, .invalidPort hport, by simp, by simp⟩
    · exact ⟨_, .notCreated hport, by simp, by simp⟩

theorem Progress.started_iff {controlPort : UInt16} {phase : OwnerPhase} {call : ControlCall}
    {inst : Option ℕ} {next : ℕ} {started : Bool} {log : List LifecycleEffect}
    (h : Progress controlPort phase call inst next started log) :
    started = true ↔ .initReturned true ∈ log := by
  cases h with
  | released hlog hstarted => simpa using hstarted
  | destroyed hlog hstarted => simpa using hstarted
  | deaf hphase hlog => simp [hlog.not_mem]
  | _ => simp [startedCalls]

/-- With an instance the library has registered the callback and has not been told to exit. -/
theorem Progress.open_of_instance {controlPort : UInt16} {phase : OwnerPhase}
    {call : ControlCall} {inst : Option ℕ} {next : ℕ} {started : Bool}
    {log : List LifecycleEffect}
    (h : Progress controlPort phase call inst next started log) (hinst : inst ≠ none) :
    .utControlPlaneRegisterCallbackOnMessage 0 ∈ log ∧ .utControlPlaneExit 0 ∉ log := by
  cases h with
  | starting | serving | draining => simp [startedCalls]
  | _ => exact absurd rfl hinst

/-- **What the library sees of one service.** Over every run of the component, with any number of
library threads, the calls of the library are the beginning of one session, and all of it once
the service is destroyed: with a port and an instance, it is created, registered with, started
and exited once each and in this order. The worker exists exactly when `init` succeeded, and a
library thread is inside a callback only between the registration and the exit. -/
theorem library_calls {κ : Type v} [DecidableEq κ] (cfg : ThermalHfpConfig)
    (controlPort : UInt16) (steadyClockMs : ℤ) (steps : List (ComponentStep κ)) :
    let c := (component κ).state (.start κ cfg controlPort steadyClockMs) steps
    let log := libraryCalls ((component κ).trace (.start κ cfg controlPort steadyClockMs) steps)
    (∃ session, Session controlPort session ∧ log <+: session ∧
      (c.owner = .destroyed → log = session)) ∧
    (c.worker.started = true ↔ .initReturned true ∈ log) ∧
    ∀ thread, c.ut.callbacks thread ≠ .idle →
      .utControlPlaneRegisterCallbackOnMessage 0 ∈ log ∧ .utControlPlaneExit 0 ∉ log := by
  intro c log
  have hprogress : c.Progressed log := progressed_state cfg controlPort steadyClockMs steps
  have hport : c.controlPort = controlPort :=
    Machine.invariant (P := fun c : Component κ => c.controlPort = controlPort)
      (fun c step h => (controlPort_next c step).trans h) rfl steps
  refine ⟨?_, hprogress.started_iff, fun thread hinside => ?_⟩
  · have hsession := hprogress.exists_session
    rwa [hport] at hsession
  · have hdrained : c.ut.Drained := drained_component cfg controlPort steadyClockMs steps
    exact hprogress.open_of_instance (hdrained.inside hinside).2

end ThermalHal
