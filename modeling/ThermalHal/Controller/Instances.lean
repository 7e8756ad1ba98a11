import ThermalHal.Controller.Lifecycle
import ThermalHal.Lib.Custody

/-!
# The instances of the control plane

Any number of threads call `init` and `shutdown` at once. An instance that `init` has created
is in its hand until it is published or found to be a duplicate, then in
`m_controlPlaneInstance`, then in the hand of the `shutdown` that took it; so the controller
refines the custody of resources, no instance is passed to `UT_ControlPlane_Exit` twice and
none is forgotten.

`UT_ControlPlane_Start` comes after the lock is released, and by then a `shutdown` may have
passed the published instance to `UT_ControlPlane_Exit`.

## Main definitions

* `Lifecycle.custody` — who holds which instance.
* `InstancesWithinLifetime` — the three promises about a run.
* `LifecycleStep.LetsStart` — no `shutdown` overtakes the `init` of its instance.
-/

namespace ThermalHal

open Lib

universe u v

/-! ## Custody -/

/-- The instance a call answers for. -/
def ControlCall.holds : ControlCall → Option ℕ
  | .registering x => some x
  | .publishing x => some x
  | .exiting x => some x
  | _ => none

/-- What a library call does to an instance. -/
def LifecycleEffect.custodyEvent? : LifecycleEffect → Option CustodyEvent
  | .utControlPlaneInit (some x) => some (.created x)
  | .utControlPlaneExit x => some (.released x)
  | _ => none

section Custody

variable {τ : Type u} {κ : Type v}

def Lifecycle.custody (l : Lifecycle τ κ) : Custody τ :=
  ⟨l.nextInstance, l.controlPlaneInstance, fun t => (l.calls t).holds⟩

variable [DecidableEq τ] {l l' : Lifecycle τ κ} {effects : List LifecycleEffect}

theorem custody_setCall (l : Lifecycle τ κ) (t : τ) (call : ControlCall) :
    (l.setCall t call).custody =
      { l.custody with hand := Function.update l.custody.hand t call.holds } := by
  have hhand : (fun u => ((l.setCall t call).calls u).holds) =
      Function.update (fun u => (l.calls u).holds) t call.holds :=
    Function.comp_update ControlCall.holds l.calls t call
  rw [Lifecycle.custody, hhand]
  rfl

/-- A section that answers for the same instance as before changes nothing. -/
theorem custody_setCall_of_eq {t : τ} {call : ControlCall} (h : call.holds = (l.calls t).holds) :
    (l.setCall t call).custody = l.custody := by
  rw [custody_setCall, h]
  exact congrArg _ (Function.update_eq_self t l.custody.hand)

/-- **The controller refines the custody of its instances.** -/
theorem custodyMove [DecidableEq κ] (hmove : LifecycleMove l l' effects) :
    CustodyMove l.custody l'.custody (effects.filterMap LifecycleEffect.custodyEvent?) := by
  cases hmove with
  | created t h =>
    rw [custody_setCall]
    exact .create t (by simp [Lifecycle.custody, h, ControlCall.holds])
  | published t x h hinst =>
    rw [custody_setCall]
    exact .put t x (by simp [Lifecycle.custody, h, ControlCall.holds]) hinst
  | duplicate t x h hinst =>
    rw [custody_setCall]
    exact .release t x (by simp [Lifecycle.custody, h, ControlCall.holds])
  | closedAndDetached t x h hinst hdrained =>
    rw [custody_setCall]
    exact .take t x (by simp [Lifecycle.custody, h, ControlCall.holds]) hinst
  | detached t x h hinst hdrained =>
    rw [custody_setCall]
    exact .take t x (by simp [Lifecycle.custody, h, ControlCall.holds]) hinst
  | exited t x h =>
    rw [custody_setCall]
    exact .release t x (by simp [Lifecycle.custody, h, ControlCall.holds])
  | initEntered t h | notCreated t h | registered t x h | started t x h | closed t h
  | waited t h | foundDetached t h | cleared t h =>
    rw [custody_setCall_of_eq (by simp [h, ControlCall.holds])]
    exact .still
  | _ => exact .still

/-- **Who answers for every instance**, after any run. -/
theorem accounted_custody [DecidableEq κ] (steps : List (LifecycleStep τ κ)) :
    ((lifecycle τ κ).state .start steps).custody.Accounted
      (((lifecycle τ κ).trace .start steps).filterMap LifecycleEffect.custodyEvent?) := by
  refine Machine.trace_induction
    (P := fun log (l : Lifecycle τ κ) =>
      l.custody.Accounted (log.filterMap LifecycleEffect.custodyEvent?)) ?_ ?_ steps
  · exact Custody.accounted_empty
  · intro log l step h
    rw [List.filterMap_append]
    exact h.move (custodyMove (lifecycleMove l step))

end Custody

section Log

variable {log : List LifecycleEffect} {x : ℕ}

theorem custodyEvent?_eq_released {effect : LifecycleEffect} :
    effect.custodyEvent? = some (.released x) ↔ effect = .utControlPlaneExit x := by
  cases effect with
  | utControlPlaneInit result => cases result <;> simp [LifecycleEffect.custodyEvent?]
  | _ => simp [LifecycleEffect.custodyEvent?]

theorem custodyEvent?_eq_created {effect : LifecycleEffect} :
    effect.custodyEvent? = some (.created x) ↔ effect = .utControlPlaneInit (some x) := by
  cases effect with
  | utControlPlaneInit result => cases result <;> simp [LifecycleEffect.custodyEvent?]
  | _ => simp [LifecycleEffect.custodyEvent?]

theorem released_mem_iff :
    .released x ∈ log.filterMap LifecycleEffect.custodyEvent? ↔ .utControlPlaneExit x ∈ log := by
  simp [custodyEvent?_eq_released]

theorem created_mem_iff :
    .created x ∈ log.filterMap LifecycleEffect.custodyEvent? ↔
      .utControlPlaneInit (some x) ∈ log := by
  simp [custodyEvent?_eq_created]

theorem count_released :
    (log.filterMap LifecycleEffect.custodyEvent?).count (.released x) =
      log.count (.utControlPlaneExit x) := by
  rw [List.count_filterMap, List.count_eq_countP]
  refine List.countP_congr fun effect _ => ?_
  simp [custodyEvent?_eq_released]

end Log

/-! ## One `init` for each instance -/

/-- The instance an `init` has created and not yet started. -/
def ControlCall.opens : ControlCall → Option ℕ
  | .registering x => some x
  | .publishing x => some x
  | .starting x => some x
  | _ => none

section Opening

variable {τ : Type u} {κ : Type v} {l l' : Lifecycle τ κ}

/-- No two calls are opening the same instance. -/
structure Lifecycle.Opening (l : Lifecycle τ κ) : Prop where
  lt_next : ∀ t x, (l.calls t).opens = some x → x < l.nextInstance
  unique : ∀ t u x, (l.calls t).opens = some x → (l.calls u).opens = some x → t = u

theorem opening_start : (Lifecycle.start : Lifecycle τ κ).Opening where
  lt_next := by simp [Lifecycle.start, ControlCall.opens]
  unique := by simp [Lifecycle.start, ControlCall.opens]

theorem Lifecycle.Opening.of_calls (h : l.Opening) (hnext : l'.nextInstance = l.nextInstance)
    (hback : ∀ u x, (l'.calls u).opens = some x → (l.calls u).opens = some x) : l'.Opening where
  lt_next u x hu := by
    rw [hnext]
    exact h.lt_next u x (hback u x hu)
  unique u w x hu hw := h.unique u w x (hback u x hu) (hback w x hw)

variable [DecidableEq τ]

/-- A call goes on with its own instance, or with none. -/
theorem opens_update {calls : τ → ControlCall} {t : τ} {call : ControlCall}
    (hcall : call.opens = none ∨ call.opens = (calls t).opens) (u : τ) (x : ℕ)
    (hu : (Function.update calls t call u).opens = some x) : (calls u).opens = some x := by
  by_cases hut : u = t
  · subst hut
    rw [Function.update_self] at hu
    rcases hcall with hnone | hsame
    · simp [hnone] at hu
    · rw [← hsame, hu]
  · rwa [Function.update_of_ne hut] at hu

/-- A created instance is not being opened by anybody else. -/
theorem Lifecycle.Opening.created (h : l.Opening) (t : τ) :
    ({ l with nextInstance := l.nextInstance + 1 }.setCall t
      (.registering l.nextInstance)).Opening := by
  have hopens : ∀ u x, (Function.update l.calls t (.registering l.nextInstance) u).opens = some x →
      u = t ∧ x = l.nextInstance ∨ (l.calls u).opens = some x ∧ x < l.nextInstance := by
    intro u x hu
    by_cases hut : u = t
    · subst hut
      left
      simpa [ControlCall.opens, eq_comm] using hu
    · right
      rw [Function.update_of_ne hut] at hu
      exact ⟨hu, h.lt_next u x hu⟩
  constructor
  · intro u x hu
    have hx : x ≤ l.nextInstance := by
      rcases hopens u x hu with ⟨-, rfl⟩ | ⟨-, hlt⟩
      · exact le_rfl
      · omega
    simp only [Lifecycle.setCall_nextInstance]
    omega
  · intro u w x hu hw
    rcases hopens u x hu with ⟨rfl, rfl⟩ | ⟨hu, hlt⟩
    · rcases hopens w _ hw with ⟨rfl, -⟩ | ⟨-, hlt⟩
      · rfl
      · omega
    · rcases hopens w x hw with ⟨rfl, rfl⟩ | ⟨hw, -⟩
      · omega
      · exact h.unique u w x hu hw

theorem opening_move [DecidableEq κ] (h : l.Opening) {effects : List LifecycleEffect}
    (hmove : LifecycleMove l l' effects) : l'.Opening := by
  cases hmove with
  | created t ht => exact h.created t
  | registered t x ht | published t x ht =>
    exact h.of_calls rfl (opens_update (Or.inr (by simp [ht, ControlCall.opens])))
  | initEntered t | notCreated t | duplicate t | started t | closed t | closedAndDetached t
  | waited t | detached t | foundDetached t | exited t | cleared t =>
    exact h.of_calls rfl (opens_update (Or.inl rfl))
  | _ => exact ⟨h.lt_next, h.unique⟩

end Opening

/-! ## The order of the library calls -/

/-- The step is not a `shutdown` passing an instance to `UT_ControlPlane_Exit` that an `init`
is still about to pass to `UT_ControlPlane_Start`. -/
def LifecycleStep.LetsStart {τ : Type u} {κ : Type v} (l : Lifecycle τ κ) :
    LifecycleStep τ κ → Prop
  | .advance caller _ => ∀ x, l.calls caller = .exiting x → ∀ t, l.calls t ≠ .starting x
  | _ => True

/-- Only the instance that the caller holds can be overtaken. -/
instance {τ : Type u} {κ : Type v} [Fintype τ] (l : Lifecycle τ κ) :
    (step : LifecycleStep τ κ) → Decidable (step.LetsStart l)
  | .advance caller _ =>
      decidable_of_iff (∀ x ∈ (l.calls caller).holds, l.calls caller = .exiting x →
          ∀ t, l.calls t ≠ .starting x)
        ⟨fun h x hexiting => h x (by simp [hexiting, ControlCall.holds]) hexiting,
          fun h x _ => h x⟩
  | .init .. | .shutdown _ | .messageCallback .. | .advanceCallback _ | .getTemperatureUpdate =>
      .isTrue trivial

/-- The second of two library calls does not start what the first has released. -/
def LifecycleEffect.InOrder (first second : LifecycleEffect) : Prop :=
  ∀ x, ¬(first = .utControlPlaneExit x ∧ second = .utControlPlaneStart x)

section Ordered

variable {τ : Type u} {κ : Type v} {l l' : Lifecycle τ κ} {log effects : List LifecycleEffect}

/-- Every instance about to be started has not been released, and none was before. -/
structure Lifecycle.Ordered (log : List LifecycleEffect) (l : Lifecycle τ κ) : Prop where
  accounted : l.custody.Accounted (log.filterMap LifecycleEffect.custodyEvent?)
  opening : l.Opening
  starting : ∀ t x, l.calls t = .starting x → .utControlPlaneExit x ∉ log
  order : log.Pairwise LifecycleEffect.InOrder

theorem ordered_start : Lifecycle.Ordered [] (Lifecycle.start : Lifecycle τ κ) where
  accounted := Custody.accounted_empty
  opening := opening_start
  starting := by simp
  order := .nil

variable [DecidableEq τ] [DecidableEq κ]

/-- Who passes an instance to `UT_ControlPlane_Exit`. -/
theorem exit_mem_emit {step : LifecycleStep τ κ} {x : ℕ}
    (h : .utControlPlaneExit x ∈ (lifecycle τ κ).emit l step) :
    ∃ caller created, step = .advance caller created ∧
      (l.calls caller = .exiting x ∨ l.calls caller = .publishing x) := by
  rw [Machine.emit] at h
  cases step with
  | init caller port => grind [lifecycle, Lifecycle.init]
  | shutdown caller => grind [lifecycle, Lifecycle.shutdown, Lifecycle.drain]
  | advance caller created =>
    refine ⟨caller, created, rfl, ?_⟩
    grind [lifecycle, Lifecycle.advance, Lifecycle.drain]
  | messageCallback thread kvp => grind [lifecycle]
  | advanceCallback thread => simp [lifecycle] at h
  | getTemperatureUpdate => simp [lifecycle] at h

/-- Nobody is about to start what such a step passes to `UT_ControlPlane_Exit`. -/
theorem not_starting_of_exit (h : l.Opening) {step : LifecycleStep τ κ}
    (hstep : step.LetsStart l) {x : ℕ}
    (hexit : .utControlPlaneExit x ∈ (lifecycle τ κ).emit l step) (t : τ) :
    l.calls t ≠ .starting x := by
  obtain ⟨caller, created, rfl, hexiting | hpublishing⟩ := exit_mem_emit hexit
  · exact hstep x hexiting t
  · intro hstarting
    -- the duplicate is still in the hand of the call that created it
    have heq : t = caller := h.unique t caller x (by simp [hstarting, ControlCall.opens])
      (by simp [hpublishing, ControlCall.opens])
    rw [heq, hpublishing] at hstarting
    simp at hstarting

theorem starting_of_update {calls : τ → ControlCall} {t u : τ} {call : ControlCall} {x : ℕ}
    (h : Function.update calls u call t = .starting x) :
    calls t = .starting x ∨ t = u ∧ call = .starting x := by
  by_cases htu : t = u
  · subst htu
    exact Or.inr ⟨rfl, by simpa using h⟩
  · exact Or.inl (by simpa [htu] using h)

/-- A call comes to start what was in its hand. -/
theorem starting_of_move (hmove : LifecycleMove l l' effects) {t : τ} {x : ℕ}
    (ht : l'.calls t = .starting x) :
    l.calls t = .starting x ∨ l.calls t = .publishing x ∧ effects = [] := by
  cases hmove with
  | published u y hu hinst =>
    rcases starting_of_update ht with hold | ⟨rfl, hcall⟩
    · exact Or.inl hold
    · obtain rfl : y = x := by simpa using hcall
      exact Or.inr ⟨hu, rfl⟩
  | initEntered u | created u | notCreated u | registered u | duplicate u | started u | closed u
  | closedAndDetached u | waited u | detached u | foundDetached u | exited u | cleared u =>
    rcases starting_of_update ht with hold | ⟨-, hcall⟩
    · exact Or.inl hold
    · simp at hcall
  | _ => exact Or.inl ht

/-- What a step may pass to `UT_ControlPlane_Start`, and that it passes nothing to
`UT_ControlPlane_Exit` then. -/
theorem start_of_move (hmove : LifecycleMove l l' effects) {x : ℕ}
    (hstart : .utControlPlaneStart x ∈ effects) :
    (∃ t, l.calls t = .starting x) ∧ ∀ y, .utControlPlaneExit y ∉ effects := by
  cases hmove <;> grind

theorem Lifecycle.Ordered.next (h : l.Ordered log) {step : LifecycleStep τ κ}
    (hstep : step.LetsStart l) :
    ((lifecycle τ κ).next l step).Ordered (log ++ (lifecycle τ κ).emit l step) := by
  have hmove := lifecycleMove l step
  constructor
  · rw [List.filterMap_append]
    exact h.accounted.move (custodyMove hmove)
  · exact opening_move h.opening hmove
  · intro t x ht
    rw [List.mem_append, not_or]
    rcases starting_of_move hmove ht with hstarting | ⟨hpublishing, hquiet⟩
    · exact ⟨h.starting t x hstarting,
        fun hexit => not_starting_of_exit h.opening hstep hexit t hstarting⟩
    · -- what `init` publishes has been in its hand until now
      have hheld := h.accounted.of_hand (t := t) (x := x)
        (by simp [Lifecycle.custody, hpublishing, ControlCall.holds])
      rw [released_mem_iff] at hheld
      exact ⟨hheld.2, by simp [hquiet]⟩
  · rw [List.pairwise_append]
    refine ⟨h.order, ?_, ?_⟩
    · refine List.pairwise_of_forall_mem_list ?_
      rintro a ha b hb x ⟨rfl, rfl⟩
      exact (start_of_move hmove hb).2 x ha
    · rintro a ha b hb x ⟨rfl, rfl⟩
      obtain ⟨⟨t, ht⟩, -⟩ := start_of_move hmove hb
      exact h.starting t x ht ha

end Ordered

/-! ## The three promises -/

/-- No instance is started after it was released or released twice, and when no call is in
progress every instance but the published one has been released. -/
structure InstancesWithinLifetime {τ : Type u} {κ : Type v} (log : List LifecycleEffect)
    (l : Lifecycle τ κ) : Prop where
  order : log.Pairwise LifecycleEffect.InOrder
  exited_once : ∀ x, log.count (.utControlPlaneExit x) ≤ 1
  exited : (∀ t, l.calls t = .idle) → ∀ x, .utControlPlaneInit (some x) ∈ log →
    l.controlPlaneInstance ≠ some x → .utControlPlaneExit x ∈ log

section Promises

variable {τ : Type u} {κ : Type v}

variable [DecidableEq τ] [DecidableEq κ]

/-- **No instance is released twice**, in any run. -/
theorem exited_once (steps : List (LifecycleStep τ κ)) (x : ℕ) :
    ((lifecycle τ κ).trace .start steps).count (.utControlPlaneExit x) ≤ 1 := by
  rw [← count_released]
  exact (accounted_custody steps).released_le_one

/-- **Between calls everything created is published or released**, in any run. -/
theorem exited_of_idle (steps : List (LifecycleStep τ κ))
    (hidle : ∀ t, ((lifecycle τ κ).state .start steps).calls t = .idle) {x : ℕ}
    (hcreated : .utControlPlaneInit (some x) ∈ (lifecycle τ κ).trace .start steps)
    (hinst : ((lifecycle τ κ).state .start steps).controlPlaneInstance ≠ some x) :
    .utControlPlaneExit x ∈ (lifecycle τ κ).trace .start steps := by
  rw [← released_mem_iff]
  refine (accounted_custody steps).released_of_created (fun t => ?_)
    (created_mem_iff.mpr hcreated) hinst
  simp [Lifecycle.custody, hidle t, ControlCall.holds]

/-- **Instances are used within their lifetime** in every run in which no `shutdown` overtakes
the `init` of the instance it stops. -/
theorem instancesWithinLifetime (steps : List (LifecycleStep τ κ))
    (hsteps : ∀ pre step post, steps = pre ++ step :: post →
      step.LetsStart ((lifecycle τ κ).state .start pre)) :
    InstancesWithinLifetime ((lifecycle τ κ).trace .start steps)
      ((lifecycle τ κ).state .start steps) := by
  have hordered := Machine.trace_induction_of_forall (M := lifecycle τ κ)
    (P := fun log l => l.Ordered log) (C := fun l step => step.LetsStart l) ordered_start
    (fun log l step hstep h => h.next hstep) steps hsteps
  exact ⟨hordered.order, exited_once steps, fun hidle x => exited_of_idle steps hidle⟩

/-- The condition leaves out nothing else: where a step does not meet it, the `init` that was
overtaken goes on to start a released instance. -/
theorem exists_start_after_exit {l : Lifecycle τ κ} {step : LifecycleStep τ κ}
    (h : ¬step.LetsStart l) :
    ∃ t, ¬((lifecycle τ κ).trace l [step, .advance t true]).Pairwise LifecycleEffect.InOrder := by
  cases step with
  | advance caller created =>
    simp only [LifecycleStep.LetsStart, not_forall, not_not] at h
    obtain ⟨x, hexiting, t, hstarting⟩ := h
    have hne : t ≠ caller := by
      rintro rfl
      simp [hexiting] at hstarting
    refine ⟨t, ?_⟩
    simp [lifecycle, Machine.emit, Machine.next, Lifecycle.advance, hexiting, hstarting, hne,
      LifecycleEffect.InOrder]
  | _ => exact absurd trivial h

end Promises

/-- Two callers start the control plane at once, and the one that finds its instance to be a
duplicate stops it later. -/
def startTwiceAndStop : List (LifecycleStep Bool Unit) :=
  [.init false 8080, .init true 8080, .advance false true, .advance true true,
    .advance false true, .advance true true, .advance false true, .advance true true,
    .advance false true, .shutdown true, .advance true true, .advance true true]

theorem instancesWithinLifetime_startTwiceAndStop :
    (lifecycle Bool Unit).trace .start startTwiceAndStop =
      [.utControlPlaneInit (some 0), .utControlPlaneInit (some 1),
        .utControlPlaneRegisterCallbackOnMessage 0, .utControlPlaneRegisterCallbackOnMessage 1,
        .utControlPlaneExit 1, .initReturned true, .utControlPlaneStart 0, .initReturned true,
        .utControlPlaneExit 0, .shutdownReturned] ∧
    InstancesWithinLifetime ((lifecycle Bool Unit).trace .start startTwiceAndStop)
      ((lifecycle Bool Unit).state .start startTwiceAndStop) :=
  ⟨by decide, instancesWithinLifetime startTwiceAndStop (Machine.along_iff.mp (by decide))⟩

/-- A second caller stops the control plane before the first has started it. -/
def stopBeforeStart : List (LifecycleStep Bool Unit) :=
  [.init false 8080, .advance false true, .advance false true, .advance false true,
    .shutdown true, .advance true true, .advance false true]

theorem not_instancesWithinLifetime_stopBeforeStart :
    ¬InstancesWithinLifetime ((lifecycle Bool Unit).trace .start stopBeforeStart)
      ((lifecycle Bool Unit).state .start stopBeforeStart) := by
  intro h
  have htrace : (lifecycle Bool Unit).trace .start stopBeforeStart =
      [.utControlPlaneInit (some 0), .utControlPlaneRegisterCallbackOnMessage 0,
        .utControlPlaneExit 0, .utControlPlaneStart 0, .initReturned true] := by
    decide
  have horder := h.order
  rw [htrace] at horder
  simp [LifecycleEffect.InOrder] at horder

end ThermalHal
