import ThermalHal.Controller.Lifecycle
import ThermalHal.Lib.Population

/-!
# Stopping the control plane drains its callbacks

One thread starts and stops the control plane; any number of library threads deliver
messages. `shutdown` closes the door to new callbacks and waits for those inside before it
gives up the instance, so without an instance nobody is inside and nobody gets in, and the
queue it then clears stays empty until the next `init`.

## Main definitions

* `Lifecycle.Drained` — the invariant of the flag, the counter and the queue.
* `callback_drain` — what holds in every reachable state.
-/

namespace ThermalHal

open Lib

universe u v

/-- Between giving up the instance and clearing the queue. -/
def ControlCall.TearsDown : ControlCall → Prop
  | .exiting _ => True
  | .clearing => True
  | _ => False

/-! ## The counter -/

/-- **The counter is the number of callbacks inside**, for any number of callers. -/
theorem activeCallbacks_move {τ : Type u} {κ : Type v} [DecidableEq τ] [DecidableEq κ]
    {l l' : Lifecycle τ κ} {effects : List LifecycleEffect}
    (h : population l.callbacks (· ≠ .idle) = l.activeCallbacks)
    (hmove : LifecycleMove l l' effects) :
    population l'.callbacks (· ≠ .idle) = l'.activeCallbacks := by
  cases hmove with
  | callbackEntered k kvp hk haccepting =>
    simp only [Lifecycle.setCallback_callbacks, Lifecycle.setCallback_activeCallbacks]
    rw [population_update_of_enter (P := (· ≠ Callback.idle)) (by simp [hk]) (by simp), h]
    simp
  | pushed k kvp hk =>
    simp only [Lifecycle.setCallback_callbacks, Lifecycle.setCallback_activeCallbacks]
    rw [population_update_of_iff (by simp [hk]), h]
  | callbackLeft k hk =>
    simp only [Lifecycle.setCallback_callbacks, Lifecycle.setCallback_activeCallbacks]
    exact population_update_of_leave_eq h (by simp [hk]) (by simp)
  | _ => exact h

/-! ## One caller -/

section Drained

variable {κ : Type v} {l l' : Lifecycle Unit κ}

/-- Without an instance the door is closed, nobody is inside and, past the teardown, nothing
is pending. -/
structure Lifecycle.Drained (l : Lifecycle Unit κ) : Prop where
  counted : population l.callbacks (· ≠ .idle) = l.activeCallbacks
  closed : l.controlPlaneInstance = none ∨ l.calls () = .draining → l.acceptingCallbacks = false
  drained : l.controlPlaneInstance = none → l.activeCallbacks = 0
  detached : (l.calls ()).TearsDown → l.controlPlaneInstance = none
  cleared : l.controlPlaneInstance = none → ¬(l.calls ()).TearsDown →
    l.pendingTemperatureUpdates.map.entries = []

/-- A callback inside holds the instance back. -/
theorem Lifecycle.Drained.inside (h : l.Drained) {thread : κ}
    (hinside : l.callbacks thread ≠ .idle) :
    0 < l.activeCallbacks ∧ l.controlPlaneInstance ≠ none := by
  have hpos : 0 < l.activeCallbacks := pos_of_population_eq h.counted hinside
  refine ⟨hpos, fun hinst => ?_⟩
  have hzero := h.drained hinst
  omega

theorem drained_start : (Lifecycle.start : Lifecycle Unit κ).Drained where
  counted := by
    have hnobody : population (Lifecycle.start : Lifecycle Unit κ).callbacks (· ≠ .idle) = 0 :=
      population_eq_zero_iff.mpr (by simp [Lifecycle.start])
    rw [hnobody]
    rfl
  closed := by simp [Lifecycle.start]
  drained := by simp [Lifecycle.start]
  detached := by simp [Lifecycle.start, ControlCall.TearsDown]
  cleared := by simp [Lifecycle.start]

theorem tearsDown_iff {t : Unit} {call : ControlCall} (h : l.calls t = call) :
    (l.calls ()).TearsDown ↔ call.TearsDown := by
  rw [show l.calls () = call from h]

/-- The caller goes from one section to the next and changes nothing else. -/
theorem Lifecycle.Drained.setCall (h : l.Drained) {call : ControlCall}
    (hclosed : call = .draining → l.acceptingCallbacks = false)
    (hdetached : call.TearsDown → l.controlPlaneInstance = none)
    (hcleared : ¬call.TearsDown → (l.calls ()).TearsDown → l.controlPlaneInstance ≠ none) :
    (l.setCall () call).Drained := by
  refine ⟨h.counted, ?_, h.drained, ?_, ?_⟩
  · rintro (hinst | hcall)
    · exact h.closed (Or.inl hinst)
    · exact hclosed (by simpa using hcall)
  · intro hdown
    exact hdetached (by simpa using hdown)
  · intro hinst hup
    exact h.cleared hinst fun hdown => hcleared (by simpa using hup) hdown hinst

variable [DecidableEq κ]

/-- **Every step keeps the invariant.** -/
theorem drained_move (h : l.Drained) {effects : List LifecycleEffect}
    (hmove : LifecycleMove l l' effects) : l'.Drained := by
  have hcounted := activeCallbacks_move h.counted hmove
  have hclosed := h.closed
  have hdrained := h.drained
  have hdetached := h.detached
  have hcleared := h.cleared
  cases hmove with
  | still | initReturned | shutdownReturned => exact h
  | initEntered t ht | notCreated t ht | registered t x ht | duplicate t x ht | started t x ht
  | foundDetached t ht =>
    have hup : ¬(l.calls ()).TearsDown :=
      (tearsDown_iff ht).not.mpr (by simp [ControlCall.TearsDown])
    exact h.setCall (by simp) (by simp [ControlCall.TearsDown]) fun _ hdown => absurd hdown hup
  | created t ht =>
    have hup : ¬(l.calls ()).TearsDown :=
      (tearsDown_iff ht).not.mpr (by simp [ControlCall.TearsDown])
    refine ⟨hcounted, fun hinst => hclosed (hinst.imp_right fun hcall => ?_), hdrained,
      fun hdown => ?_, fun hinst _ => hcleared hinst hup⟩
    · simp at hcall
    · simp [ControlCall.TearsDown] at hdown
  | published t x ht hinst =>
    -- with an instance nothing is promised but that nobody waits or tears down
    refine ⟨hcounted, ?_, ?_, ?_, ?_⟩ <;> simp [ControlCall.TearsDown]
  | closed t ht hinst =>
    refine ⟨hcounted, fun _ => rfl, hdrained, fun hdown => ?_, fun hnone => absurd hnone hinst⟩
    simp [ControlCall.TearsDown] at hdown
  | waited t ht =>
    have hup : ¬(l.calls ()).TearsDown :=
      (tearsDown_iff ht).not.mpr (by simp [ControlCall.TearsDown])
    exact h.setCall (fun _ => hclosed (Or.inr ht)) (by simp [ControlCall.TearsDown])
      fun _ hdown => absurd hdown hup
  | closedAndDetached t x ht hinst hzero =>
    refine ⟨hcounted, fun _ => rfl, fun _ => hzero, fun _ => rfl, fun _ hdown => ?_⟩
    simp [ControlCall.TearsDown] at hdown
  | detached t x ht hinst hzero =>
    -- the door has been closed since this caller began to wait
    refine ⟨hcounted, fun _ => hclosed (Or.inr ht), fun _ => hzero, fun _ => rfl,
      fun _ hdown => ?_⟩
    simp [ControlCall.TearsDown] at hdown
  | exited t x ht =>
    have hdown : (l.calls ()).TearsDown := (tearsDown_iff ht).mpr trivial
    exact h.setCall (by simp) (fun _ => hdetached hdown) fun hup => absurd trivial hup
  | cleared t ht =>
    refine ⟨hcounted, ?_, hdrained, ?_, fun _ _ => rfl⟩
    · simpa using fun hinst => hclosed (Or.inl hinst)
    · simp [ControlCall.TearsDown]
  | callbackEntered k kvp hk haccepting =>
    have hinst : l.controlPlaneInstance ≠ none := fun hinst => by
      simp [hclosed (Or.inl hinst)] at haccepting
    exact ⟨hcounted, hclosed, fun hnone => absurd hnone hinst, hdetached,
      fun hnone => absurd hnone hinst⟩
  | pushed k kvp hk =>
    have hinside : l.callbacks k ≠ .idle := by simp [hk]
    have hinst : l.controlPlaneInstance ≠ none := (h.inside hinside).2
    exact ⟨hcounted, hclosed, hdrained, hdetached, fun hnone => absurd hnone hinst⟩
  | callbackLeft k hk =>
    have hinside : l.callbacks k ≠ .idle := by simp [hk]
    have hinst : l.controlPlaneInstance ≠ none := (h.inside hinside).2
    exact ⟨hcounted, hclosed, fun hnone => absurd hnone hinst, hdetached,
      fun hnone => absurd hnone hinst⟩
  | taken =>
    refine ⟨hcounted, hclosed, hdrained, hdetached, fun hinst hdown => ?_⟩
    exact getTemperatureUpdate_of_empty (hcleared hinst hdown)

theorem drained_state (steps : List (LifecycleStep Unit κ)) :
    ((lifecycle Unit κ).state .start steps).Drained :=
  Machine.invariant (fun l step h => drained_move h (lifecycleMove l step)) drained_start steps

end Drained

/-! ## After a shutdown -/

section Stopped

variable {κ : Type v} [DecidableEq κ]

/-- No call is in progress and there is no instance. -/
def Lifecycle.Stopped (l : Lifecycle Unit κ) : Prop :=
  l.calls () = .idle ∧ l.controlPlaneInstance = none

/-- Only an `init` ends this. -/
theorem stopped_next {l : Lifecycle Unit κ} {step : LifecycleStep Unit κ}
    (hinit : ∀ port, .init () port ≠ step) (h : l.Stopped) :
    ((lifecycle Unit κ).next l step).Stopped := by
  obtain ⟨hcalls, hinst⟩ := h
  cases step with
  | init caller port => exact absurd rfl (hinit port)
  | shutdown caller =>
    simp [Lifecycle.Stopped, lifecycle, Machine.next, Lifecycle.shutdown, hcalls, hinst]
  | advance caller created =>
    simp [Lifecycle.Stopped, lifecycle, Machine.next, Lifecycle.advance, hcalls, hinst]
  | messageCallback thread kvp =>
    simp only [lifecycle, Machine.next, Lifecycle.messageCallback]
    split
    · split
      · exact ⟨hcalls, hinst⟩
      · exact ⟨hcalls, hinst⟩
    · exact ⟨hcalls, hinst⟩
  | advanceCallback thread =>
    simp only [lifecycle, Machine.next, Lifecycle.advanceCallback]
    split
    · exact ⟨hcalls, hinst⟩
    · exact ⟨hcalls, hinst⟩
    · exact ⟨hcalls, hinst⟩
  | getTemperatureUpdate => exact ⟨hcalls, hinst⟩

/-- A shutdown that has stopped an instance returns into it. -/
theorem stopped_of_clearing {l : Lifecycle Unit κ} (h : l.Drained)
    (hclearing : l.calls () = .clearing) (created : Bool) :
    ((lifecycle Unit κ).next l (.advance () created)).Stopped := by
  have hinst : l.controlPlaneInstance = none :=
    h.detached (by simp [hclearing, ControlCall.TearsDown])
  simp [Lifecycle.Stopped, lifecycle, Machine.next, Lifecycle.advance, hclearing, hinst]

theorem next_messageCallback_of_closed {l : Lifecycle Unit κ} (h : l.acceptingCallbacks = false)
    (thread : κ) (kvp : Option UtKvpInstance) :
    (lifecycle Unit κ).next l (.messageCallback thread kvp) = l := by
  simp only [lifecycle, Machine.next, Lifecycle.messageCallback, h]
  split
  · rfl
  · rfl

/-- **Callback drain.** In every reachable state the counter is the number of callbacks inside
and is positive when one leaves; without an instance nobody is inside and nobody gets in; and
from the return of a shutdown that stopped an instance until the next `init` the queue is
empty. -/
theorem callback_drain (steps : List (LifecycleStep Unit κ)) :
    let l := (lifecycle Unit κ).state .start steps
    population l.callbacks (· ≠ .idle) = l.activeCallbacks ∧
    (∀ thread, l.callbacks thread = .leaving → 0 < l.activeCallbacks) ∧
    (l.controlPlaneInstance = none →
      (∀ thread, l.callbacks thread = .idle) ∧
      ∀ thread kvp, (lifecycle Unit κ).next l (.messageCallback thread kvp) = l) ∧
    ∀ pre created post, steps = pre ++ .advance () created :: post →
      ((lifecycle Unit κ).state .start pre).calls () = .clearing →
      (∀ port, .init () port ∉ post) →
      l.controlPlaneInstance = none ∧ l.pendingTemperatureUpdates.map.entries = [] := by
  intro l
  have h : l.Drained := drained_state steps
  refine ⟨h.counted, fun thread hleaving => ?_, fun hinst => ⟨fun thread => ?_, ?_⟩, ?_⟩
  · have hinside : l.callbacks thread ≠ .idle := by simp [hleaving]
    exact (h.inside hinside).1
  · by_contra hinside
    exact (h.inside hinside).2 hinst
  · intro thread kvp
    exact next_messageCallback_of_closed (h.closed (Or.inl hinst)) thread kvp
  · intro pre created post hsteps hclearing hinit
    have hreturned := stopped_of_clearing (drained_state pre) hclearing created
    have hpost : ∀ step ∈ post, ∀ port, .init () port ≠ step := by
      rintro _ hmem port rfl
      exact hinit port hmem
    have hstopped : l.Stopped := by
      simp only [l, hsteps, Machine.state_append, Machine.state_cons]
      exact Machine.invariant_of_forall (fun _ _ => stopped_next) hreturned post hpost
    refine ⟨hstopped.2, h.cleared hstopped.2 ?_⟩
    simp [hstopped.1, ControlCall.TearsDown]

/-- A cycle in which a message arrives before `shutdown` and is pushed while it waits. -/
def drainCycle : List (LifecycleStep Unit Unit) :=
  [.init () 8080, .advance () true, .advance () true, .advance () true, .advance () true,
    .messageCallback () (temperatureMessage "board" "50" "7"), .shutdown (), .advance () true,
    .advanceCallback (), .advanceCallback (), .advance () true, .advance () true]

theorem callback_drain_cycle :
    ((lifecycle Unit Unit).state .start drainCycle).pendingTemperatureUpdates.map.entries.length =
      1 ∧
    ((lifecycle Unit Unit).state .start
      (drainCycle ++ [.advance () true])).pendingTemperatureUpdates.map.entries = [] := by
  refine ⟨by decide +kernel, ?_⟩
  exact ((callback_drain (drainCycle ++ [.advance () true])).2.2.2 drainCycle true [] rfl
    (by decide +kernel) (by simp)).2

end Stopped

end ThermalHal
