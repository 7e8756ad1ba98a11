import ThermalHal.Component.Refinement

/-!
# Destroying a running service

From the moment the destructor sets the stop flag the worker hands at most one more update to
the service, and once it is joined nothing reaches the service at all. The destructor never gets
stuck: whatever the worker and the library threads are in the middle of, their own next steps
let it finish, without another message and without the help of a client.

## Main definitions

* `Component.handled` — the update a step hands to the service.
* `worker_stops` — what still happens after the stop flag.
* `Component.rank` — how far the owning thread has to go.
* `destruction_completes` — from every state of every run.
-/

namespace ThermalHal

open Lib

universe v

variable {κ : Type v}

/-! ## The last update -/

/-- The update a step hands to the service. -/
def Component.handled (c : Component κ) : ComponentStep κ → List ThermalTemperatureUpdate
  | .worker _ => c.worker.inHand.toList
  | _ => []

/-- How many updates a stopping worker may still hand over. -/
def UtWorker.ahead : UtWorker → ℕ
  | .taking => 1
  | .handling _ => 1
  | _ => 0

theorem UtWorker.ahead_le (worker : UtWorker) : worker.ahead ≤ 1 := by
  cases worker <;> simp [ahead]

section Stop

variable [DecidableEq κ] {c : Component κ}

/-- The destructor does not go back before its beginning. -/
theorem stopping_next (h : c.owner.Stopping) (step : ComponentStep κ) :
    ((component κ).next c step).owner.Stopping :=
  phase_next (P := OwnerPhase.Stopping) id (fun _ => trivial) (fun _ => trivial)
    (fun _ => trivial) (fun _ => trivial) h step

/-- Nor before it has joined the worker. -/
theorem joined_next (h : c.owner.Joined) (step : ComponentStep κ) :
    ((component κ).next c step).owner.Joined :=
  phase_next (P := OwnerPhase.Joined) id id (fun _ => trivial) (fun _ => trivial)
    (fun _ => trivial) h step

/-- **Each step of a stopping worker uses up what it may still hand over.** -/
theorem ahead_next (hc : c.Sound) (h : c.owner.Stopping) (step : ComponentStep κ) :
    (c.handled step).length + ((component κ).next c step).worker.ahead ≤ c.worker.ahead := by
  have hstop : c.stopUtWorker = true := hc.stop_iff.mpr h
  cases step with
  | owner created =>
    have hconstructed : c.owner ≠ .constructing := by
      intro howner
      rw [howner] at h
      exact h
    simp [component, Machine.next, Component.handled, advanceOwner_worker hconstructed]
  | worker env =>
    cases hworker : c.worker with
    | taking =>
      cases htaken : (getTemperatureUpdate c.ut.pendingTemperatureUpdates).2 <;>
        simp [component, Machine.next, Component.advanceWorker, Component.handled, hworker, htaken,
          UtWorker.inHand, UtWorker.ahead]
    | _ =>
      simp [component, Machine.next, Component.advanceWorker, Component.handled, hworker, hstop,
        UtWorker.inHand, UtWorker.ahead]
  | destroy => simp [component, Machine.next, Component.handled, (destroy_frame c).2.2.2]
  | registry call =>
    simp [component, Machine.next, Component.handled, (callRegistry_frame c call).2.2.2.1]
  | messageCallback | advanceCallback => simp [component, Machine.next, Component.handled]

/-- Over a run: the updates handed over are at most what was ahead. -/
theorem length_collect_handled (hc : c.Sound) (h : c.owner.Stopping)
    (steps : List (ComponentStep κ)) :
    ((component κ).collect Component.handled c steps).length ≤ c.worker.ahead := by
  induction steps generalizing c with
  | nil => simp
  | cons step steps ih =>
    have hrest := ih (sound_next hc step) (stopping_next h step)
    have hstep := ahead_next hc h step
    rw [Machine.collect_cons, List.length_append]
    omega

/-- After the worker is joined no step reaches the service. -/
theorem service_next_of_joined (hc : c.Sound) (h : c.owner.Joined) (step : ComponentStep κ) :
    ((component κ).next c step).service = c.service := by
  have hover := hc.worker_over h
  cases step with
  | owner created => exact (advanceOwner_frame c created).2.1
  | worker env =>
    cases hworker : c.worker with
    | notStarted | finished => simp [component, Machine.next, Component.advanceWorker, hworker]
    | checking | taking | handling | sleeping =>
      rw [hworker] at hover
      exact hover.elim
  | destroy => exact (destroy_frame c).2.2.1
  | registry call =>
    simp only [component, Machine.next, Component.callRegistry]
    split
    · next howner =>
      rw [howner] at h
      exact h.elim
    · rfl
  | messageCallback | advanceCallback => rfl

/-- **The worker stops.** From any state of any run in which the destructor has set the stop flag,
the worker hands over at most one more update, and after it is joined none: the service then
stays as it is, whatever messages still arrive. -/
theorem worker_stops (cfg : ThermalHfpConfig) (controlPort : UInt16) (steadyClockMs : ℤ)
    (before steps : List (ComponentStep κ))
    (hstopping :
      ((component κ).state (.start κ cfg controlPort steadyClockMs) before).owner.Stopping) :
    let c := (component κ).state (.start κ cfg controlPort steadyClockMs) before
    let handled := (component κ).collect Component.handled c steps
    handled.length ≤ 1 ∧
      (c.owner.Joined → handled = [] ∧ ((component κ).state c steps).service = c.service) := by
  intro c handled
  have hc : c.Sound := sound_state cfg controlPort steadyClockMs before
  have hlength : handled.length ≤ c.worker.ahead := length_collect_handled hc hstopping steps
  refine ⟨hlength.trans c.worker.ahead_le, fun hjoined => ⟨?_, ?_⟩⟩
  · have hover := hc.worker_over hjoined
    have hnone : c.worker.ahead = 0 := by
      cases hworker : c.worker <;> rw [hworker] at hover <;> first | rfl | exact hover.elim
    rw [hnone] at hlength
    exact List.length_eq_zero_iff.mp (Nat.le_zero.mp hlength)
  · have hframe := Machine.invariant (M := component κ)
      (P := fun c' : Component κ => c'.Sound ∧ c'.owner.Joined ∧ c'.service = c.service)
      (fun c' step h => ⟨sound_next h.1 step, joined_next h.2.1 step,
        (service_next_of_joined h.1 h.2.1 step).trans h.2.2⟩) ⟨hc, hjoined, rfl⟩ steps
    exact hframe.2.2

end Stop

/-- A worker that is about to take the one message when its service is destroyed. -/
theorem worker_stops_board :
    let c := (component Unit).state (.start Unit boardProfile 8085 0)
      [.owner true, .owner true, .owner true, .owner true, .owner true,
        .messageCallback () (temperatureMessage "board" "50" "1"), .advanceCallback (),
        .worker (.quiet 0), .destroy]
    c.ut.pendingTemperatureUpdates.map.entries.length = 1 ∧
      ((component Unit).collect Component.handled c
        [.worker (.quiet 0), .worker (.quiet 0), .worker (.quiet 0), .worker (.quiet 0)]).length ≤
          1 := by
  intro c
  refine ⟨by decide +kernel, ?_⟩
  exact (worker_stops boardProfile 8085 0 _
    [.worker (.quiet 0), .worker (.quiet 0), .worker (.quiet 0), .worker (.quiet 0)]
    (by simp [component, Machine.next, Component.advanceOwner, Component.callUt, lifecycle,
      Lifecycle.init, Lifecycle.advance, Component.start, Lifecycle.start, Component.advanceWorker,
      Component.destroy, OwnerPhase.Stopping])).1

/-! ## Progress -/

/-- A step of a thread that is inside the component already. -/
def ComponentStep.Own : ComponentStep κ → Prop
  | .registry _ => False
  | .messageCallback _ _ => False
  | _ => True

/-- How far the owning thread has to go, by phase. -/
def OwnerPhase.rank : OwnerPhase → ℕ
  | .constructing => 50
  | .running => 40
  | .joining => 30
  | .shuttingDown => 20
  | .releasing => 10
  | .destroyed => 0

/-- The sections that are left of a call. -/
def ControlCall.rank : ControlCall → ℕ
  | .idle => 5
  | .creating => 4
  | .registering _ => 3
  | .publishing _ => 2
  | .starting _ => 1
  | .draining => 3
  | .exiting _ => 2
  | .clearing => 1

def Component.rank (c : Component κ) : ℕ := c.owner.rank + (c.ut.calls ()).rank

/-- What is left of a destroyed service. -/
theorem Component.Sound.destroyed {c : Component κ} (hc : c.Sound) (h : c.owner = .destroyed) :
    c.worker.Over ∧ (∀ thread, c.ut.callbacks thread = .idle) ∧
      c.ut.acceptingCallbacks = false ∧ c.ut.pendingTemperatureUpdates.map.entries = [] := by
  obtain ⟨log, hprogress⟩ := hc.progressed
  rw [Component.Progressed, h] at hprogress
  have hgone : c.ut.calls () = .idle ∧ c.ut.controlPlaneInstance = none := by
    generalize c.ut.calls () = call, c.ut.controlPlaneInstance = inst, c.ut.nextInstance = next,
      c.worker.started = started at hprogress ⊢
    cases hprogress with
    | destroyed => exact ⟨rfl, rfl⟩
    | serving hphase | deaf hphase => rcases hphase with hphase | hphase | hphase <;> cases hphase
  refine ⟨hc.worker_over (by rw [h]; trivial), fun thread => ?_,
    hc.drained.closed (Or.inl hgone.2), ?_⟩
  · by_contra hinside
    exact (hc.drained.inside hinside).2 hgone.2
  · exact hc.drained.cleared hgone.2 (by simp [hgone.1, ControlCall.TearsDown])

section Progress

variable [DecidableEq κ] {c : Component κ}

/-- The owning thread is waiting: for the worker, or for the callbacks. -/
def Component.Waiting (c : Component κ) : Prop :=
  (c.owner = .joining ∧ ¬ c.worker.Over) ∨
    (c.ut.calls () = .draining ∧ c.ut.activeCallbacks ≠ 0)

/-- **The owning thread gets on** unless it waits. -/
theorem rank_owner (hc : c.Sound) (hrunning : c.owner ≠ .running)
    (hdestroyed : c.owner ≠ .destroyed) (hwaiting : ¬ c.Waiting) :
    (c.advanceOwner true).1.rank < c.rank := by
  obtain ⟨log, hprogress⟩ := hc.progressed
  rw [Component.Waiting, not_or, not_and, not_and, not_not, not_not] at hwaiting
  obtain ⟨hover, hdrained⟩ := hwaiting
  rw [Component.Progressed] at hprogress
  generalize howner : c.owner = owner, hcall : c.ut.calls () = call,
    hinst : c.ut.controlPlaneInstance = inst, c.ut.nextInstance = next,
    c.worker.started = started at hprogress
  -- the call gets shorter where the thread stays in its phase
  cases hprogress with
  | entering =>
    rw [advanceOwner_entering true howner hcall hinst]
    split_ifs <;> simp [Component.rank, howner, hcall, OwnerPhase.rank, ControlCall.rank]
  | creating =>
    rw [advanceOwner_creating true howner hcall]
    simp [Component.rank, hcall, ControlCall.rank]
  | registering =>
    rw [advanceOwner_registering true howner hcall]
    simp [Component.rank, hcall, ControlCall.rank]
  | publishing =>
    rw [advanceOwner_publishing true howner hcall hinst]
    simp [Component.rank, hcall, ControlCall.rank]
  | starting =>
    rw [advanceOwner_starting true howner hcall]
    simp [Component.rank, howner, hcall, OwnerPhase.rank, ControlCall.rank]
  | serving hphase =>
    rcases hphase with rfl | rfl | rfl
    · exact absurd howner hrunning
    · rw [advanceOwner_joined true howner (hover howner)]
      simp [Component.rank, howner, OwnerPhase.rank]
    · rw [advanceOwner_shuttingDown true howner hcall hinst]
      split_ifs <;> simp [Component.rank, hcall, ControlCall.rank]
  | draining =>
    rw [advanceOwner_draining true howner hcall hinst, if_pos (hdrained hcall)]
    simp [Component.rank, hcall, ControlCall.rank]
  | exiting =>
    rw [advanceOwner_exiting true howner hcall]
    simp [Component.rank, hcall, ControlCall.rank]
  | clearing =>
    rw [advanceOwner_clearing true howner hcall]
    simp [Component.rank, howner, hcall, OwnerPhase.rank, ControlCall.rank]
  | deaf hphase hlog =>
    rcases hphase with rfl | rfl | rfl
    · exact absurd howner hrunning
    · rw [advanceOwner_joined true howner (hover howner)]
      simp [Component.rank, howner, OwnerPhase.rank]
    · rw [advanceOwner_shuttingDown_of_none true howner hcall hinst]
      simp [Component.rank, howner, OwnerPhase.rank]
  | released =>
    rw [advanceOwner_releasing true howner hcall hinst]
    simp [Component.rank, howner, OwnerPhase.rank]
  | destroyed => exact absurd howner hdestroyed

/-- The steps a stopping worker is away from its end. -/
def UtWorker.rank : UtWorker → ℕ
  | .notStarted => 0
  | .checking => 1
  | .taking => 3
  | .handling _ => 2
  | .sleeping => 2
  | .finished => 0

/-- The worker of a service that is being destroyed comes to its end. -/
theorem exists_worker_over (hc : c.Sound) (h : c.owner = .joining) :
    ∃ steps, (∀ step ∈ steps, step.Own) ∧
      (((component κ).state c steps).Sound ∧ ((component κ).state c steps).rank = c.rank ∧
        ((component κ).state c steps).owner = .joining) ∧
      ((component κ).state c steps).worker.Over := by
  refine Machine.exists_run_to (M := component κ)
    (P := fun c' => c'.Sound ∧ c'.rank = c.rank ∧ c'.owner = .joining)
    (G := fun c' : Component κ => c'.worker.Over) (fun c' => c'.worker.rank) ?_ ⟨hc, rfl, h⟩
  rintro c' ⟨hsound, hrank, howner⟩ hactive
  have hstop : c'.stopUtWorker = true := hsound.stop_iff.mpr (by rw [howner]; trivial)
  obtain ⟨-, howner', hcalls, -⟩ := advanceWorker_frame c' (.quiet 0)
  refine ⟨[.worker (.quiet 0)], by simp [ComponentStep.Own], ⟨sound_next hsound _, ?_, ?_⟩, ?_⟩
  · simpa [component, Machine.next, Component.rank, howner', hcalls] using hrank
  · simpa [component, Machine.next, howner'] using howner
  · cases hworker : c'.worker with
    | notStarted | finished =>
      rw [hworker] at hactive
      exact absurd trivial hactive
    | taking =>
      cases htaken : (getTemperatureUpdate c'.ut.pendingTemperatureUpdates).2 <;>
        simp [component, Machine.next, Component.advanceWorker, hworker, htaken, UtWorker.rank]
    | checking | handling | sleeping =>
      simp [component, Machine.next, Component.advanceWorker, hworker, hstop, UtWorker.rank]

/-- A library thread inside a callback finishes it. -/
theorem exists_callback_left {thread : κ} (h : c.ut.callbacks thread ≠ .idle) :
    ∃ steps, (∀ step ∈ steps, step.Own) ∧
      ((component κ).state c steps).owner = c.owner ∧
      ((component κ).state c steps).ut.calls = c.ut.calls ∧
      ((component κ).state c steps).ut.activeCallbacks = c.ut.activeCallbacks - 1 := by
  cases hcallback : c.ut.callbacks thread with
  | idle => exact absurd hcallback h
  | pushing kvp =>
    refine ⟨[.advanceCallback thread, .advanceCallback thread], by simp [ComponentStep.Own], ?_⟩
    simp [component, Machine.next, lifecycle, Lifecycle.advanceCallback, hcallback]
  | leaving =>
    refine ⟨[.advanceCallback thread], by simp [ComponentStep.Own], ?_⟩
    simp [component, Machine.next, lifecycle, Lifecycle.advanceCallback, hcallback]

/-- The callbacks that a `shutdown` waits for leave. -/
theorem exists_drained (hc : c.Sound) (h : c.ut.calls () = .draining) :
    ∃ steps, (∀ step ∈ steps, step.Own) ∧
      (((component κ).state c steps).Sound ∧ ((component κ).state c steps).owner = c.owner ∧
        ((component κ).state c steps).ut.calls () = .draining) ∧
      ((component κ).state c steps).ut.activeCallbacks = 0 := by
  refine Machine.exists_run_to (M := component κ)
    (P := fun c' => c'.Sound ∧ c'.owner = c.owner ∧ c'.ut.calls () = .draining)
    (G := fun c' : Component κ => c'.ut.activeCallbacks = 0) (fun c' => c'.ut.activeCallbacks) ?_
    ⟨hc, rfl, h⟩
  rintro c' ⟨hsound, howner, hcalls⟩ hactive
  -- the counter is exact, so somebody is inside
  have hinside : ∃ thread, c'.ut.callbacks thread ≠ .idle := by
    by_contra hnobody
    have hzero : population c'.ut.callbacks (· ≠ .idle) = 0 :=
      population_eq_zero_iff.mpr (not_exists.mp hnobody)
    rw [hsound.drained.counted] at hzero
    exact hactive (by exact_mod_cast hzero)
  obtain ⟨thread, hthread⟩ := hinside
  obtain ⟨steps, hown, howner', hcalls', hleft⟩ := exists_callback_left hthread
  refine ⟨steps, hown, ⟨?_, howner'.trans howner, by rw [hcalls', hcalls]⟩, by omega⟩
  exact Machine.invariant (P := Component.Sound) (fun _ step h => sound_next h step) hsound steps

/-- A step of the owning thread after some steps of others. -/
theorem exists_rank_lt_of_run {steps : List (ComponentStep κ)} (hown : ∀ step ∈ steps, step.Own)
    (hsound : ((component κ).state c steps).Sound)
    (hlt : (((component κ).state c steps).advanceOwner true).1.rank < c.rank) :
    ∃ steps, (∀ step ∈ steps, step.Own) ∧ ((component κ).state c steps).Sound ∧
      ((component κ).state c steps).rank < c.rank := by
  refine ⟨steps ++ [.owner true], ?_, ?_, ?_⟩
  · simpa [or_imp, forall_and, ComponentStep.Own] using hown
  · rw [Machine.state_append]
    exact sound_next hsound _
  · rw [Machine.state_append]
    exact hlt

/-- **Somebody can always get on.** From every state in which the service is not destroyed, own
steps take the owning thread further. -/
theorem exists_rank_lt (hc : c.Sound) (hgoal : c.owner ≠ .destroyed) :
    ∃ steps, (∀ step ∈ steps, step.Own) ∧ ((component κ).state c steps).Sound ∧
      ((component κ).state c steps).rank < c.rank := by
  obtain ⟨log, hprogress⟩ := hc.progressed
  by_cases hrunning : c.owner = .running
  · refine ⟨[.destroy], by simp [ComponentStep.Own], sound_next hc _, ?_⟩
    simp [component, Machine.next, Component.destroy, Component.rank, hrunning, OwnerPhase.rank]
  by_cases hworker : c.owner = .joining ∧ ¬ c.worker.Over
  · -- the destructor waits for the worker
    obtain ⟨steps, hown, ⟨hsound, hrank, howner⟩, hover⟩ := exists_worker_over hc hworker.1
    have hcalls : ((component κ).state c steps).ut.calls () ≠ .draining := by
      obtain ⟨log, hprogress⟩ := hsound.progressed
      rw [Component.Progressed, howner] at hprogress
      intro hdraining
      rw [hdraining] at hprogress
      cases hprogress
    have hlt := rank_owner hsound (by simp [howner]) (by simp [howner])
      (by simp [Component.Waiting, hover, hcalls])
    exact exists_rank_lt_of_run hown hsound (hrank ▸ hlt)
  by_cases hcallbacks : c.ut.calls () = .draining ∧ c.ut.activeCallbacks ≠ 0
  · -- `shutdown` waits for the callbacks
    obtain ⟨steps, hown, ⟨hsound, howner, hcalls⟩, hzero⟩ := exists_drained hc hcallbacks.1
    have hjoining : c.owner ≠ .joining := by
      rw [Component.Progressed, hcallbacks.1] at hprogress
      intro hjoining
      rw [hjoining] at hprogress
      cases hprogress
    have hrank : ((component κ).state c steps).rank = c.rank := by
      rw [Component.rank, Component.rank, howner, hcalls, hcallbacks.1]
    have hlt := rank_owner hsound (by rwa [howner]) (by rwa [howner])
      (by simp [Component.Waiting, howner, hjoining, hzero])
    exact exists_rank_lt_of_run hown hsound (hrank ▸ hlt)
  · refine ⟨[.owner true], by simp [ComponentStep.Own], sound_next hc _, ?_⟩
    exact rank_owner hc hrunning hgoal (not_or.mpr ⟨hworker, hcallbacks⟩)

/-- **Destruction completes.** From every state of every run the service can be destroyed by the
next steps of the threads that are inside it already: the destructor waits for nothing that
needs another message or a client. Then the worker is over, no callback is inside and none gets
in, and nothing is pending. -/
theorem destruction_completes (cfg : ThermalHfpConfig) (controlPort : UInt16)
    (steadyClockMs : ℤ) (before : List (ComponentStep κ)) :
    ∃ steps, (∀ step ∈ steps, step.Own) ∧
      let c := (component κ).state (.start κ cfg controlPort steadyClockMs) (before ++ steps)
      c.owner = .destroyed ∧ c.worker.Over ∧ (∀ thread, c.ut.callbacks thread = .idle) ∧
        c.ut.acceptingCallbacks = false ∧ c.ut.pendingTemperatureUpdates.map.entries = [] := by
  obtain ⟨steps, hown, hsound, hdestroyed⟩ := Machine.exists_run_to (M := component κ)
    (P := Component.Sound) (G := fun c => c.owner = .destroyed) (Q := ComponentStep.Own)
    Component.rank (fun _ hc hgoal => exists_rank_lt hc hgoal)
    (sound_state cfg controlPort steadyClockMs before)
  refine ⟨steps, hown, ?_⟩
  rw [Machine.state_append]
  exact ⟨hdestroyed, hsound.destroyed hdestroyed⟩

end Progress

end ThermalHal
