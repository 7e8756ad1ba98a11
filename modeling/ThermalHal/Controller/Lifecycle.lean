import ThermalHal.Controller.Queue
import ThermalHal.Lib.Machine

/-!
# Starting and stopping the control plane

`init` and `shutdown` hold the lifecycle mutex in several short critical sections and call
the library between them; `messageCallback` holds it on entry and on exit, and the message
is pushed in between. Every critical section and every library call is one step of the
machine, so any number of callers and of library threads land anywhere between them.

A caller that waits for the callbacks to drain is `draining`; waking up early is a step that
changes nothing. The library hands out instances `0`, `1`, `2` and so on, or none. The
context a client passes to `init` is stored and never read, so it is left out.

## Main definitions

* `ControlCall`, `Callback` — where a caller, or a library thread, is in the source.
* `Lifecycle`, `lifecycle` — the controller with all its threads as one machine.
* `LifecycleMove` — what a step can do, one constructor for each section of the source.
-/

namespace ThermalHal

open Lib

universe u v

/-- Where a thread is inside `init` or `shutdown`. -/
inductive ControlCall
  | idle
  /-- In `init`, before `UT_ControlPlane_Init`. -/
  | creating
  /-- Before `UT_ControlPlane_RegisterCallbackOnMessage`. -/
  | registering (controlPlaneInstance : ℕ)
  /-- Before the second critical section of `init`. -/
  | publishing (controlPlaneInstance : ℕ)
  /-- Before `UT_ControlPlane_Start`. -/
  | starting (controlPlaneInstance : ℕ)
  /-- In `shutdown`, waiting for the callbacks. -/
  | draining
  /-- Before `UT_ControlPlane_Exit`. -/
  | exiting (controlPlaneInstance : ℕ)
  /-- Before the critical section that clears the queue. -/
  | clearing
  deriving DecidableEq

/-- Where a library thread is inside `messageCallback`. -/
inductive Callback
  | idle
  /-- Counted, and inside `pushMessage`. -/
  | pushing (kvp : Option UtKvpInstance)
  /-- Before the critical section that counts it out. -/
  | leaving

/-- The controller, the threads `τ` that call `init` and `shutdown`, and the threads `κ` of
the library. -/
structure Lifecycle (τ : Type u) (κ : Type v) where
  controlPlaneInstance : Option ℕ
  acceptingCallbacks : Bool
  activeCallbacks : ℕ
  pendingTemperatureUpdates : PendingTemperatureUpdates
  calls : τ → ControlCall
  callbacks : κ → Callback
  /-- What `UT_ControlPlane_Init` returns next. -/
  nextInstance : ℕ

/-- One atomic step of some thread. `created` tells whether `UT_ControlPlane_Init` succeeds,
should that be the call the thread is at. -/
inductive LifecycleStep (τ : Type u) (κ : Type v)
  | init (caller : τ) (port : UInt16)
  | shutdown (caller : τ)
  | advance (caller : τ) (created : Bool)
  | messageCallback (thread : κ) (kvp : Option UtKvpInstance)
  | advanceCallback (thread : κ)
  | getTemperatureUpdate

/-- Library calls, and what the callers are told. -/
inductive LifecycleEffect
  | utControlPlaneInit (result : Option ℕ)
  | utControlPlaneRegisterCallbackOnMessage (controlPlaneInstance : ℕ)
  | utControlPlaneStart (controlPlaneInstance : ℕ)
  | utControlPlaneExit (controlPlaneInstance : ℕ)
  | initReturned (ok : Bool)
  | shutdownReturned
  deriving DecidableEq

namespace Lifecycle

variable {τ : Type u} {κ : Type v}

/-- The controller as constructed. -/
def start : Lifecycle τ κ := ⟨none, false, 0, .empty, fun _ => .idle, fun _ => .idle, 0⟩

section Calls

variable [DecidableEq τ] (caller : τ) (l : Lifecycle τ κ)

@[simps -fullyApplied] def setCall (call : ControlCall) : Lifecycle τ κ :=
  { l with calls := Function.update l.calls caller call }

/-- `init` up to its first library call. -/
def init (port : UInt16) : Lifecycle τ κ × List LifecycleEffect :=
  if l.controlPlaneInstance.isSome then (l, [.initReturned true])
  else if port = 0 then (l, [.initReturned false])
  else (l.setCall caller .creating, [])

/-- `m_callbacksDrained.wait`; once it is over, the critical section goes on to its end. -/
def drain : Lifecycle τ κ × List LifecycleEffect :=
  if l.activeCallbacks = 0 then
    match l.controlPlaneInstance with
    | none => (l.setCall caller .idle, [.shutdownReturned])
    | some x => ({ l with controlPlaneInstance := none }.setCall caller (.exiting x), [])
  else (l.setCall caller .draining, [])

/-- `shutdown` up to its wait, or past it when no callback is active. -/
def shutdown : Lifecycle τ κ × List LifecycleEffect :=
  if l.controlPlaneInstance.isSome then { l with acceptingCallbacks := false }.drain caller
  else (l, [.shutdownReturned])

/-- The next section of the call a thread is in. -/
def advance (created : Bool) : Lifecycle τ κ × List LifecycleEffect :=
  match l.calls caller with
  | .idle => (l, [])
  | .creating =>
      if created then
        ({ l with nextInstance := l.nextInstance + 1 }.setCall caller
            (.registering l.nextInstance), [.utControlPlaneInit (some l.nextInstance)])
      else (l.setCall caller .idle, [.utControlPlaneInit none, .initReturned false])
  | .registering x =>
      (l.setCall caller (.publishing x), [.utControlPlaneRegisterCallbackOnMessage x])
  | .publishing x =>
      -- a duplicate is released inside the critical section
      if l.controlPlaneInstance.isSome then
        (l.setCall caller .idle, [.utControlPlaneExit x, .initReturned true])
      else
        ({ l with controlPlaneInstance := some x, acceptingCallbacks := true }.setCall caller
            (.starting x), [])
  | .starting x => (l.setCall caller .idle, [.utControlPlaneStart x, .initReturned true])
  | .draining => l.drain caller
  | .exiting x => (l.setCall caller .clearing, [.utControlPlaneExit x])
  | .clearing =>
      ({ l with pendingTemperatureUpdates := .empty }.setCall caller .idle, [.shutdownReturned])

end Calls

section Callbacks

variable [DecidableEq κ] (thread : κ) (l : Lifecycle τ κ)

@[simps -fullyApplied] def setCallback (callback : Callback) : Lifecycle τ κ :=
  { l with callbacks := Function.update l.callbacks thread callback }

/-- The first critical section of `messageCallback`. -/
def messageCallback (kvp : Option UtKvpInstance) : Lifecycle τ κ :=
  if l.acceptingCallbacks then
    { l with activeCallbacks := l.activeCallbacks + 1 }.setCallback thread (.pushing kvp)
  else l

/-- The rest of `messageCallback`. -/
def advanceCallback : Lifecycle τ κ :=
  match l.callbacks thread with
  | .idle => l
  | .pushing kvp =>
      { l with
        pendingTemperatureUpdates :=
          pushMessage kvp l.pendingTemperatureUpdates }.setCallback thread .leaving
  | .leaving => { l with activeCallbacks := l.activeCallbacks - 1 }.setCallback thread .idle

end Callbacks

end Lifecycle

/-- The controller with all its threads. A thread that is inside a call begins no other. -/
def lifecycle (τ : Type u) (κ : Type v) [DecidableEq τ] [DecidableEq κ] :
    Machine (Lifecycle τ κ) (LifecycleStep τ κ) LifecycleEffect where
  step l
    | .init caller port =>
        match l.calls caller with
        | .idle => l.init caller port
        | _ => (l, [])
    | .shutdown caller =>
        match l.calls caller with
        | .idle => l.shutdown caller
        | _ => (l, [])
    | .advance caller created => l.advance caller created
    | .messageCallback thread kvp =>
        match l.callbacks thread with
        | .idle => (l.messageCallback thread kvp, [])
        | _ => (l, [])
    | .advanceCallback thread => (l.advanceCallback thread, [])
    | .getTemperatureUpdate =>
        ({ l with
            pendingTemperatureUpdates := (getTemperatureUpdate l.pendingTemperatureUpdates).1 },
          [])

section Moves

variable {τ : Type u} {κ : Type v} [DecidableEq τ] [DecidableEq κ]

/-- What a step makes of the controller, with the sections and calls of the source by name. -/
inductive LifecycleMove (l : Lifecycle τ κ) : Lifecycle τ κ → List LifecycleEffect → Prop
  | still : LifecycleMove l l []
  | initReturned (ok : Bool) : LifecycleMove l l [.initReturned ok]
  | shutdownReturned : LifecycleMove l l [.shutdownReturned]
  | initEntered (t : τ) (h : l.calls t = .idle) (hinst : l.controlPlaneInstance = none) :
      LifecycleMove l (l.setCall t .creating) []
  | created (t : τ) (h : l.calls t = .creating) :
      LifecycleMove l
        ({ l with nextInstance := l.nextInstance + 1 }.setCall t (.registering l.nextInstance))
        [.utControlPlaneInit (some l.nextInstance)]
  | notCreated (t : τ) (h : l.calls t = .creating) :
      LifecycleMove l (l.setCall t .idle) [.utControlPlaneInit none, .initReturned false]
  | registered (t : τ) (x : ℕ) (h : l.calls t = .registering x) :
      LifecycleMove l (l.setCall t (.publishing x)) [.utControlPlaneRegisterCallbackOnMessage x]
  | published (t : τ) (x : ℕ) (h : l.calls t = .publishing x)
      (hinst : l.controlPlaneInstance = none) :
      LifecycleMove l
        ({ l with controlPlaneInstance := some x, acceptingCallbacks := true }.setCall t
          (.starting x)) []
  | duplicate (t : τ) (x : ℕ) (h : l.calls t = .publishing x)
      (hinst : l.controlPlaneInstance ≠ none) :
      LifecycleMove l (l.setCall t .idle) [.utControlPlaneExit x, .initReturned true]
  | started (t : τ) (x : ℕ) (h : l.calls t = .starting x) :
      LifecycleMove l (l.setCall t .idle) [.utControlPlaneStart x, .initReturned true]
  | closed (t : τ) (h : l.calls t = .idle) (hinst : l.controlPlaneInstance ≠ none) :
      LifecycleMove l ({ l with acceptingCallbacks := false }.setCall t .draining) []
  | closedAndDetached (t : τ) (x : ℕ) (h : l.calls t = .idle)
      (hinst : l.controlPlaneInstance = some x) (hdrained : l.activeCallbacks = 0) :
      LifecycleMove l
        ({ l with controlPlaneInstance := none, acceptingCallbacks := false }.setCall t
          (.exiting x)) []
  | waited (t : τ) (h : l.calls t = .draining) : LifecycleMove l (l.setCall t .draining) []
  | detached (t : τ) (x : ℕ) (h : l.calls t = .draining)
      (hinst : l.controlPlaneInstance = some x) (hdrained : l.activeCallbacks = 0) :
      LifecycleMove l ({ l with controlPlaneInstance := none }.setCall t (.exiting x)) []
  | foundDetached (t : τ) (h : l.calls t = .draining) (hinst : l.controlPlaneInstance = none) :
      LifecycleMove l (l.setCall t .idle) [.shutdownReturned]
  | exited (t : τ) (x : ℕ) (h : l.calls t = .exiting x) :
      LifecycleMove l (l.setCall t .clearing) [.utControlPlaneExit x]
  | cleared (t : τ) (h : l.calls t = .clearing) :
      LifecycleMove l
        ({ l with pendingTemperatureUpdates := .empty }.setCall t .idle) [.shutdownReturned]
  | callbackEntered (k : κ) (kvp : Option UtKvpInstance) (h : l.callbacks k = .idle)
      (haccepting : l.acceptingCallbacks) :
      LifecycleMove l
        ({ l with activeCallbacks := l.activeCallbacks + 1 }.setCallback k (.pushing kvp)) []
  | pushed (k : κ) (kvp : Option UtKvpInstance) (h : l.callbacks k = .pushing kvp) :
      LifecycleMove l
        ({ l with
          pendingTemperatureUpdates :=
            pushMessage kvp l.pendingTemperatureUpdates }.setCallback k .leaving) []
  | callbackLeft (k : κ) (h : l.callbacks k = .leaving) :
      LifecycleMove l ({ l with activeCallbacks := l.activeCallbacks - 1 }.setCallback k .idle) []
  | taken :
      LifecycleMove l
        { l with
          pendingTemperatureUpdates := (getTemperatureUpdate l.pendingTemperatureUpdates).1 } []

/-- What a call of the controller makes of it. -/
def Lifecycle.Moves (l : Lifecycle τ κ) (result : Lifecycle τ κ × List LifecycleEffect) : Prop :=
  LifecycleMove l result.1 result.2

variable {l : Lifecycle τ κ} {caller : τ}

theorem moves_init (h : l.calls caller = .idle) (port : UInt16) : l.Moves (l.init caller port) := by
  rw [Lifecycle.init]
  split
  · exact .initReturned true
  · next hinst =>
    split
    · exact .initReturned false
    · exact .initEntered caller h (by simpa using hinst)

theorem moves_shutdown (h : l.calls caller = .idle) : l.Moves (l.shutdown caller) := by
  rw [Lifecycle.shutdown]
  split
  · next hinst =>
    obtain ⟨x, hx⟩ := Option.isSome_iff_exists.mp hinst
    by_cases hdrained : l.activeCallbacks = 0
    · rw [Lifecycle.drain, if_pos hdrained]
      simp only [hx]
      exact .closedAndDetached caller x h hx hdrained
    · rw [Lifecycle.drain, if_neg hdrained]
      exact .closed caller h (by simp [hx])
  · exact .shutdownReturned

theorem moves_drain (h : l.calls caller = .draining) : l.Moves (l.drain caller) := by
  rw [Lifecycle.drain]
  split
  · next hdrained =>
    split
    · next hinst => exact .foundDetached caller h hinst
    · next x hinst => exact .detached caller x h hinst hdrained
  · exact .waited caller h

theorem moves_advance (l : Lifecycle τ κ) (caller : τ) (created : Bool) :
    l.Moves (l.advance caller created) := by
  rw [Lifecycle.advance]
  cases h : l.calls caller with
  | idle => exact .still
  | creating =>
    cases created with
    | true => exact .created caller h
    | false => exact .notCreated caller h
  | registering x => exact .registered caller x h
  | publishing x =>
    cases hinst : l.controlPlaneInstance with
    | none => simpa [hinst] using .published caller x h hinst
    | some y => simpa [hinst] using .duplicate caller x h (by simp [hinst])
  | starting x => exact .started caller x h
  | draining => exact moves_drain h
  | exiting x => exact .exited caller x h
  | clearing => exact .cleared caller h

theorem moves_advanceCallback (l : Lifecycle τ κ) (thread : κ) :
    l.Moves (l.advanceCallback thread, []) := by
  rw [Lifecycle.advanceCallback]
  cases h : l.callbacks thread with
  | idle => exact .still
  | pushing kvp => exact .pushed thread kvp h
  | leaving => exact .callbackLeft thread h

/-- **Every step is one of these moves.** -/
theorem lifecycleMove (l : Lifecycle τ κ) (step : LifecycleStep τ κ) :
    LifecycleMove l ((lifecycle τ κ).next l step) ((lifecycle τ κ).emit l step) := by
  change l.Moves ((lifecycle τ κ).step l step)
  cases step with
  | init caller port =>
    cases h : l.calls caller <;> simp only [lifecycle, h]
    case idle => exact moves_init h port
    all_goals exact .still
  | shutdown caller =>
    cases h : l.calls caller <;> simp only [lifecycle, h]
    case idle => exact moves_shutdown h
    all_goals exact .still
  | advance caller created => exact moves_advance l caller created
  | messageCallback thread kvp =>
    cases h : l.callbacks thread <;> simp only [lifecycle, h]
    case idle =>
      rw [Lifecycle.messageCallback]
      split
      · next haccepting => exact .callbackEntered thread kvp h haccepting
      · exact .still
    all_goals exact .still
  | advanceCallback thread => exact moves_advanceCallback l thread
  | getTemperatureUpdate => exact .taken

end Moves

end ThermalHal
