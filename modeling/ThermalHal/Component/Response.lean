import ThermalHal.Component.Teardown
import ThermalHal.Sensor.Shutdown

/-!
# How soon a pending update takes effect

The worker takes the smallest name first, so a pending update waits for the names before its own
and for what arrives under such names, three turns of the worker for each. No other thread holds
it up. A hot sample that is not replaced is therefore evaluated after a number of turns that is
known from the queue, and the power-off is requested then if it was not before.

## Main definitions

* `Component.Awaits` — an update of a running service is in the queue or in the worker's hand.
* `Component.delay` — a bound on the turns it still waits, if nothing arrives before it.
* `Component.TurnComes` — a run in which the worker gets to the update.
* `pending_update_handled`, `hot_update_powers_off` — from every state of every run.
-/

namespace ThermalHal

open Lib

universe v

variable {κ : Type v}

/-! ## What a step adds to the queue -/

/-- A turn of the worker. -/
def ComponentStep.isWorker : ComponentStep κ → Bool
  | .worker _ => true
  | _ => false

/-- The destructor is not called. -/
def ComponentStep.KeepsUp : ComponentStep κ → Prop
  | .destroy => False
  | _ => True

/-- The update a library thread adds to the queue. -/
def Component.pushed (c : Component κ) : ComponentStep κ → List ThermalTemperatureUpdate
  | .advanceCallback thread =>
      match c.ut.callbacks thread with
      | .pushing kvp => (messageUpdate? kvp).toList
      | _ => []
  | _ => []

/-! ## Waiting -/

/-- The turns until the worker has taken from the queue again. -/
def UtWorker.turns : UtWorker → ℕ
  | .taking => 1
  | .checking => 2
  | .handling _ => 3
  | .sleeping => 3
  | _ => 0

/-- More turns than a name waits if nothing arrives before it: three for each name up to it. -/
def Component.delay (c : Component κ) (sensorName : String) : ℕ :=
  c.worker.turns + 3 * c.ut.pendingTemperatureUpdates.map.countWhere (· ≤ sensorName)

/-- The service is running, and the update is in its queue or in the worker's hand. -/
structure Component.Awaits (c : Component κ) (update : ThermalTemperatureUpdate) : Prop where
  running : c.owner = .running
  unstopped : c.stopUtWorker = false
  active : ¬ c.worker.Over
  waits : c.ut.pendingTemperatureUpdates.get? update.sensorName = some update ∨
    c.worker.inHand = some update

section Step

variable {c : Component κ} {update : ThermalTemperatureUpdate}

/-- A waiting update has a turn to wait for. -/
theorem Component.Awaits.three_le_delay (h : c.Awaits update) :
    3 ≤ c.delay update.sensorName := by
  have hactive := h.active
  rcases h.waits with hpending | hhand
  · have hmem := OrderedMap.get?_eq_some_iff.mp hpending
    have hcount : 0 < c.ut.pendingTemperatureUpdates.map.countWhere (· ≤ update.sensorName) :=
      List.countP_pos_iff.mpr ⟨_, hmem, by simp⟩
    unfold delay
    omega
  · cases hworker : c.worker <;> simp_all [UtWorker.inHand, delay, UtWorker.turns]

/-- **A message costs the names behind it three turns**, and the others none. -/
theorem countWhere_pushMessage_le (pending : PendingTemperatureUpdates)
    (kvp : Option UtKvpInstance) {sensorName : String}
    (hother : ∀ pushed ∈ messageUpdate? kvp, pushed.sensorName ≠ sensorName) :
    (pushMessage kvp pending).map.countWhere (· ≤ sensorName) ≤
      pending.map.countWhere (· ≤ sensorName) +
        (messageUpdate? kvp).toList.countP (·.sensorName < sensorName) := by
  cases hkvp : messageUpdate? kvp with
  | none =>
    rw [pushMessage_of_none hkvp]
    exact Nat.le_add_right _ _
  | some pushed =>
    have hne := hother pushed hkvp
    have hcount := OrderedMap.countWhere_insertOrAssign (· ≤ sensorName) pending.map
      pushed.sensorName pushed
    rw [pushMessage_of_some hkvp]
    change (pending.map.insertOrAssign pushed.sensorName pushed).countWhere _ ≤ _
    rw [hcount]
    by_cases hlt : pushed.sensorName < sensorName
    · simp only [Option.toList_some, List.countP_singleton, hlt, decide_true, if_true]
      split_ifs <;> omega
    · have hnot : ¬ pushed.sensorName ≤ sensorName := fun hle => hlt (lt_of_le_of_ne hle hne)
      simp [hnot]

/-- The other messages leave the update where it is. -/
theorem get?_pushMessage {pending : PendingTemperatureUpdates} {kvp : Option UtKvpInstance}
    (hother : ∀ pushed ∈ messageUpdate? kvp, pushed.sensorName ≠ update.sensorName) :
    (pushMessage kvp pending).get? update.sensorName = pending.get? update.sensorName := by
  cases hkvp : messageUpdate? kvp with
  | none => rw [pushMessage_of_none hkvp]
  | some pushed =>
    rw [pushMessage_of_some hkvp]
    exact get?_insertOrAssign_ne (hother pushed hkvp).symm

/-- A turn in which the worker does not take brings a pending update nearer by one. -/
theorem Component.Awaits.moved (h : c.Awaits update)
    (hpending : c.ut.pendingTemperatureUpdates.get? update.sensorName = some update)
    {c' : Component κ} (howner : c'.owner = c.owner) (hstop : c'.stopUtWorker = c.stopUtWorker)
    (hqueue : c'.ut.pendingTemperatureUpdates = c.ut.pendingTemperatureUpdates)
    (hactive : ¬ c'.worker.Over) (hturns : 1 + c'.worker.turns ≤ c.worker.turns) :
    c'.Awaits update ∧ 1 + c'.delay update.sensorName ≤ c.delay update.sensorName := by
  refine ⟨⟨howner.trans h.running, hstop.trans h.unstopped, hactive, Or.inl ?_⟩, ?_⟩
  · rw [hqueue]
    exact hpending
  · unfold delay
    rw [hqueue]
    omega

/-- A worker that takes has the update in its hand, or an update of a smaller name. -/
theorem Component.Awaits.took (h : c.Awaits update) (hworker : c.worker = .taking)
    (hpending : c.ut.pendingTemperatureUpdates.get? update.sensorName = some update)
    (env : Environment) :
    (c.advanceWorker env).1.Awaits update ∧
      1 + (c.advanceWorker env).1.delay update.sensorName ≤ c.delay update.sensorName := by
  rcases htaken : getTemperatureUpdate c.ut.pendingTemperatureUpdates with ⟨rest, _ | taken⟩
  · have hempty := (getTemperatureUpdate_none htaken).2
    simp [PendingTemperatureUpdates.get?, OrderedMap.get?, hempty] at hpending
  · have hpop := getTemperatureUpdate_some htaken
    have hnext : (c.advanceWorker env).1 =
        { c with
          ut := { c.ut with pendingTemperatureUpdates := rest }
          worker := .handling taken } := by
      simp [advanceWorker, hworker, htaken]
    have hget : (if update.sensorName = taken.sensorName then some taken
        else rest.get? update.sensorName) = some update :=
      (OrderedMap.get?_of_popFirst hpop update.sensorName).symm.trans hpending
    have hcount : c.ut.pendingTemperatureUpdates.map.countWhere (· ≤ update.sensorName) =
        rest.map.countWhere (· ≤ update.sensorName) +
          if taken.sensorName ≤ update.sensorName then 1 else 0 :=
      OrderedMap.countWhere_of_popFirst (· ≤ update.sensorName) hpop
    have hfirst : taken.sensorName ≤ update.sensorName ∧
        (rest.get? update.sensorName = some update ∨ some taken = some update) := by
      split_ifs at hget with hname
      · exact ⟨hname.ge, Or.inr hget⟩
      · exact ⟨(OrderedMap.lt_of_popFirst hpop (OrderedMap.get?_eq_some_iff.mp hget)).le,
          Or.inl hget⟩
    rw [hnext]
    refine ⟨⟨h.running, h.unstopped, id, hfirst.2⟩, ?_⟩
    rw [if_pos hfirst.1] at hcount
    simp only [delay, hworker, hcount, UtWorker.turns]
    omega

/-- **A turn of the worker** hands the update over or brings it nearer by one. -/
theorem Component.Awaits.worker (h : c.Awaits update) (env : Environment) :
    update ∈ c.handled (.worker env) ∨ (c.advanceWorker env).1.Awaits update ∧
      1 + (c.advanceWorker env).1.delay update.sensorName ≤ c.delay update.sensorName := by
  have hactive := h.active
  have hwaits := h.waits
  cases hworker : c.worker with
  | notStarted | finished =>
    rw [hworker] at hactive
    exact absurd trivial hactive
  | checking =>
    have hnext : (c.advanceWorker env).1 = { c with worker := .taking } := by
      simp [advanceWorker, hworker, h.unstopped]
    rw [hnext]
    rw [hworker] at hwaits
    exact Or.inr (h.moved (hwaits.resolve_right (by simp [UtWorker.inHand])) rfl rfl rfl id
      (by simp [hworker, UtWorker.turns]))
  | sleeping =>
    have hnext : (c.advanceWorker env).1 = { c with worker := .checking } := by
      simp [advanceWorker, hworker]
    rw [hnext]
    rw [hworker] at hwaits
    exact Or.inr (h.moved (hwaits.resolve_right (by simp [UtWorker.inHand])) rfl rfl rfl id
      (by simp [hworker, UtWorker.turns]))
  | taking =>
    rw [hworker] at hwaits
    exact Or.inr (h.took hworker (hwaits.resolve_right (by simp [UtWorker.inHand])) env)
  | handling held =>
    by_cases hheld : held = update
    · left
      simp [handled, hworker, UtWorker.inHand, hheld]
    · have hnext : (c.advanceWorker env).1 =
          { c with
            service := (handleControlPlaneUpdate env held c.service).1
            worker := .checking } := by
        simp [advanceWorker, hworker]
      rw [hnext]
      rw [hworker] at hwaits
      exact Or.inr (h.moved (hwaits.resolve_right (by simp [UtWorker.inHand, hheld])) rfl rfl rfl
        id (by simp [hworker, UtWorker.turns]))

/-- A step of another thread leaves the update where it is; what it puts before the update costs
three turns. -/
theorem Component.Awaits.other (h : c.Awaits update) {c' : Component κ} {n : ℕ}
    (howner : c'.owner = c.owner) (hstop : c'.stopUtWorker = c.stopUtWorker)
    (hworker : c'.worker = c.worker)
    (hget : c'.ut.pendingTemperatureUpdates.get? update.sensorName =
      c.ut.pendingTemperatureUpdates.get? update.sensorName)
    (hcount : c'.ut.pendingTemperatureUpdates.map.countWhere (· ≤ update.sensorName) ≤
      c.ut.pendingTemperatureUpdates.map.countWhere (· ≤ update.sensorName) + n) :
    c'.Awaits update ∧ 0 + c'.delay update.sensorName ≤ c.delay update.sensorName + 3 * n := by
  refine ⟨⟨howner.trans h.running, hstop.trans h.unstopped, ?_, ?_⟩, ?_⟩
  · rw [hworker]
    exact h.active
  · rw [hworker, hget]
    exact h.waits
  · unfold delay
    rw [hworker]
    omega

/-- With an update in the queue of a running service, `init` has succeeded. -/
theorem Component.Sound.started_of_pending (hc : c.Sound) (howner : c.owner = .running)
    {sensorName : String}
    (hpending : c.ut.pendingTemperatureUpdates.get? sensorName = some update) :
    c.worker.started = true := by
  obtain ⟨log, hprogress⟩ := hc.progressed
  have hcleared := hc.drained.cleared
  rw [Progressed, howner] at hprogress
  generalize c.ut.calls () = call, c.ut.controlPlaneInstance = inst, c.ut.nextInstance = next,
    c.worker.started = started at hprogress hcleared ⊢
  cases hprogress with
  | serving => rfl
  | deaf =>
    have hempty := hcleared rfl (by simp [ControlCall.TearsDown])
    simp [PendingTemperatureUpdates.get?, OrderedMap.get?, hempty] at hpending

variable [DecidableEq κ]

/-- **Every step of a running service** hands the update over, replaces it, or takes its turn out
of the delay and adds at most what it brings before the update. -/
theorem awaits_next (h : c.Awaits update) {step : ComponentStep κ} (hstep : step.KeepsUp) :
    (update ∈ c.handled step ∨ ∃ pushed ∈ c.pushed step, pushed.sensorName = update.sensorName) ∨
      ((component κ).next c step).Awaits update ∧
        (if step.isWorker then 1 else 0) + ((component κ).next c step).delay update.sensorName ≤
          c.delay update.sensorName +
            3 * (c.pushed step).countP (·.sensorName < update.sensorName) := by
  cases step with
  | destroy => exact hstep.elim
  | worker env =>
    rcases h.worker env with hhandled | hnext
    · exact Or.inl (Or.inl hhandled)
    · exact Or.inr hnext
  | owner created =>
    have hnext : (component κ).next c (.owner created) = c := by
      simp [component, Machine.next, Component.advanceOwner, h.running]
    rw [hnext]
    exact Or.inr (h.other rfl rfl rfl rfl le_rfl)
  | registry call =>
    have hnext : (component κ).next c (.registry call) =
        { c with service := ThermalHal.service.next c.service (.registry call) } := by
      simp [component, Machine.next, Component.callRegistry, h.running]
    rw [hnext]
    exact Or.inr (h.other rfl rfl rfl rfl le_rfl)
  | messageCallback thread kvp =>
    have hqueue : ((component κ).next c (.messageCallback thread kvp)).ut.pendingTemperatureUpdates
        = c.ut.pendingTemperatureUpdates := messageCallback_pending c.ut thread kvp
    exact Or.inr (h.other rfl rfl rfl (by rw [hqueue]) (by rw [hqueue]; exact le_rfl))
  | advanceCallback thread =>
    have hqueue : ((component κ).next c (.advanceCallback thread)).ut.pendingTemperatureUpdates =
        _ := advanceCallback_pending c.ut thread
    cases hcallback : c.ut.callbacks thread with
    | pushing kvp =>
      by_cases hsame : ∃ pushed ∈ messageUpdate? kvp, pushed.sensorName = update.sensorName
      · simp only [Component.pushed, hcallback, Option.mem_toList]
        exact Or.inl (Or.inr hsame)
      · have hother : ∀ pushed ∈ messageUpdate? kvp, pushed.sensorName ≠ update.sensorName :=
          fun pushed hpushed heq => hsame ⟨pushed, hpushed, heq⟩
        simp only [hcallback] at hqueue
        simp only [Component.pushed, hcallback]
        refine Or.inr (h.other rfl rfl rfl ?_ ?_)
        · rw [hqueue]
          exact get?_pushMessage hother
        · rw [hqueue]
          exact countWhere_pushMessage_le _ kvp hother
    | idle | leaving =>
      simp only [hcallback] at hqueue
      exact Or.inr (h.other rfl rfl rfl (by rw [hqueue])
        (by rw [hqueue]; exact Nat.le_add_right _ _))

/-- Only the stop flag ends the loop. -/
theorem finished_next (h : c.worker = .finished → c.stopUtWorker = true) (step : ComponentStep κ) :
    ((component κ).next c step).worker = .finished →
      ((component κ).next c step).stopUtWorker = true := by
  cases step with
  | owner created =>
    simp only [component, Machine.next, Component.advanceOwner]
    cases howner : c.owner with
    | constructing =>
      dsimp only
      split_ifs
      · simp
      · exact h
    | joining => cases hworker : c.worker <;> simp_all
    | _ => exact h
  | destroy =>
    simp only [component, Machine.next, Component.destroy]
    cases howner : c.owner with
    | running => exact fun _ => rfl
    | _ => exact h
  | worker env =>
    simp only [component, Machine.next, Component.advanceWorker]
    cases hworker : c.worker with
    | notStarted => simp [hworker]
    | finished => exact fun _ => h hworker
    | checking => cases hstop : c.stopUtWorker <;> simp
    | taking => cases (getTemperatureUpdate c.ut.pendingTemperatureUpdates).2 <;> simp
    | handling | sleeping => simp
  | registry call =>
    simp only [component, Machine.next, Component.callRegistry]
    cases howner : c.owner <;> exact h
  | messageCallback | advanceCallback => exact h

/-- **An update in the queue of a running service waits for the worker.** -/
theorem awaits_state (cfg : ThermalHfpConfig) (controlPort : UInt16) (steadyClockMs : ℤ)
    (before : List (ComponentStep κ))
    (hrunning :
      ((component κ).state (.start κ cfg controlPort steadyClockMs) before).owner = .running)
    (hpending : ((component κ).state (.start κ cfg controlPort steadyClockMs)
      before).ut.pendingTemperatureUpdates.get? update.sensorName = some update) :
    ((component κ).state (.start κ cfg controlPort steadyClockMs) before).Awaits update := by
  have hc := sound_state cfg controlPort steadyClockMs before
  have hfinished := Machine.invariant (M := component κ)
    (P := fun c : Component κ => c.worker = .finished → c.stopUtWorker = true)
    (fun _ step h => finished_next h step) (s := .start κ cfg controlPort steadyClockMs)
    (by simp [Component.start]) before
  have hstarted := hc.started_of_pending hrunning hpending
  have hstop := hc.stop_iff
  generalize (component κ).state (.start κ cfg controlPort steadyClockMs) before = c
    at hrunning hpending hfinished hstarted hstop ⊢
  have hunstopped : c.stopUtWorker = false := by
    rw [Bool.eq_false_iff, ne_eq, hstop, hrunning]
    exact id
  refine ⟨hrunning, hunstopped, fun hover => ?_, Or.inl hpending⟩
  cases hworker : c.worker with
  | notStarted => simp [hworker, UtWorker.started] at hstarted
  | finished => simp [hfinished hworker] at hunstopped
  | checking | taking | handling | sleeping =>
    rw [hworker] at hover
    exact hover

/-- From this state the update has its turn along the steps: it is in the queue of a running
service, which is not destroyed; no later message replaces it; and the worker has more turns than
the names before it need, three for each of those in the queue and of those that arrive. -/
structure Component.TurnComes (c : Component κ) (update : ThermalTemperatureUpdate)
    (steps : List (ComponentStep κ)) : Prop where
  running : c.owner = .running
  pending : c.ut.pendingTemperatureUpdates.get? update.sensorName = some update
  keepsUp : ∀ step ∈ steps, step.KeepsUp
  latest : ∀ later ∈ (component κ).collect Component.pushed c steps,
    later.sensorName ≠ update.sensorName
  turns :
    3 * (c.ut.pendingTemperatureUpdates.map.countWhere (· ≤ update.sensorName) +
        ((component κ).collect Component.pushed c steps).countP
          (·.sensorName < update.sensorName)) <
      steps.countP ComponentStep.isWorker

/-- **The wait is over in time**, since every turn of the worker is paid out of the delay. -/
theorem Component.Awaits.mem_handled (h : c.Awaits update) {steps : List (ComponentStep κ)}
    (hturn : c.TurnComes update steps) :
    update ∈ (component κ).collect Component.handled c steps := by
  have hrun := Machine.exists_or_total_le (M := component κ) (P := fun c => c.Awaits update)
    (fun c => c.delay update.sensorName) (fun _ step => if step.isWorker then 1 else 0)
    (fun c step => 3 * (c.pushed step).countP (·.sensorName < update.sensorName))
    (fun _ _ hstep h => awaits_next h hstep) h steps hturn.keepsUp
  rw [Machine.total_ite, Machine.total_mul_countP] at hrun
  rcases hrun with
    ⟨pre, step, post, rfl, hhandled | ⟨later, hlater, hname⟩⟩ | ⟨hwaits, htotal⟩
  · rw [Machine.collect_append, Machine.collect_cons]
    exact List.mem_append_right _ (List.mem_append_left _ hhandled)
  · refine absurd hname (hturn.latest later ?_)
    rw [Machine.collect_append, Machine.collect_cons]
    exact List.mem_append_right _ (List.mem_append_left _ hlater)
  · exfalso
    have hdelay := hwaits.three_le_delay
    have hlead : c.worker.turns ≤ 3 := by
      cases c.worker <;> simp [UtWorker.turns]
    have hstart : c.delay update.sensorName = c.worker.turns +
      3 * c.ut.pendingTemperatureUpdates.map.countWhere (· ≤ update.sensorName) := rfl
    have hturns := hturn.turns
    omega

end Step

/-! ## What the service is asked -/

/-- What a step asks of the service. -/
def Component.requests (c : Component κ) : ComponentStep κ → List Request
  | .worker env => (c.worker.inHand.map fun update => Request.sample update.sample env).toList
  | .registry call =>
      match c.owner with
      | .running => [.registry call]
      | _ => []
  | _ => []

section Requests

variable [DecidableEq κ] (c : Component κ)

/-- A step makes its requests of the service, and nothing else. -/
theorem service_component_next (step : ComponentStep κ) :
    ((component κ).next c step).service = service.state c.service (c.requests step) ∧
      serviceCalls ((component κ).emit c step) = service.trace c.service (c.requests step) := by
  cases step with
  | owner created =>
    obtain ⟨-, hservice, hcalls⟩ := advanceOwner_frame c created
    exact ⟨hservice, hcalls⟩
  | destroy => exact ⟨(destroy_frame c).2.2.1, rfl⟩
  | worker env =>
    simp only [component, Machine.next, Machine.emit, Component.advanceWorker, Component.requests]
    cases hworker : c.worker with
    | handling update =>
      simp [UtWorker.inHand, service, Machine.next, Machine.emit, handleControlPlaneUpdate]
    | _ => simp [UtWorker.inHand]
  | registry call =>
    simp only [component, Machine.next, Machine.emit, Component.callRegistry, Component.requests]
    cases howner : c.owner <;> exact ⟨rfl, rfl⟩
  | messageCallback | advanceCallback => exact ⟨rfl, rfl⟩

/-- Over a run the service is the one its requests give, with their calls. -/
theorem service_component (steps : List (ComponentStep κ)) :
    ((component κ).state c steps).service =
        service.state c.service ((component κ).collect Component.requests c steps) ∧
      serviceCalls ((component κ).trace c steps) =
        service.trace c.service ((component κ).collect Component.requests c steps) := by
  induction steps generalizing c with
  | nil => exact ⟨rfl, rfl⟩
  | cons step steps ih =>
    obtain ⟨hnext, hemit⟩ := service_component_next c step
    obtain ⟨hstate, htrace⟩ := ih ((component κ).next c step)
    have happend : serviceCalls ((component κ).emit c step ++
        (component κ).trace ((component κ).next c step) steps) =
        serviceCalls ((component κ).emit c step) ++
          serviceCalls ((component κ).trace ((component κ).next c step) steps) :=
      List.filterMap_append ..
    rw [Machine.state_cons, Machine.trace_cons, Machine.collect_cons, Machine.state_append,
      Machine.trace_append, happend, hstate, htrace, hnext, hemit]
    exact ⟨rfl, rfl⟩

variable {c}

/-- An update that was handed over was asked of the service. -/
theorem exists_request_of_handled {update : ThermalTemperatureUpdate}
    {steps : List (ComponentStep κ)}
    (h : update ∈ (component κ).collect Component.handled c steps) :
    ∃ env, .sample update.sample env ∈ (component κ).collect Component.requests c steps := by
  induction steps generalizing c with
  | nil => simp at h
  | cons step steps ih =>
    rw [Machine.collect_cons] at h ⊢
    rcases List.mem_append.mp h with hnow | hlater
    · cases step with
      | worker env =>
        have hhand : c.worker.inHand = some update := Option.mem_toList.mp hnow
        exact ⟨env, List.mem_append_left _ (by simp [Component.requests, hhand])⟩
      | _ => simp [Component.handled] at hnow
    · obtain ⟨env, hmem⟩ := ih hlater
      exact ⟨env, List.mem_append_right _ hmem⟩

end Requests

/-- A service that has accepted a hot sample has requested the power-off once. -/
theorem count_requestSystemPoweroff_trace (cfg : ThermalHfpConfig) (steadyClockMs : ℤ)
    {requests : List Request} (h : ∃ r ∈ requests, r.reachesShutdown cfg = true) :
    (service.trace (initializeSensors cfg steadyClockMs) requests).count .requestSystemPoweroff =
      1 := by
  have hreachable : (initializeSensors cfg steadyClockMs).Reachable cfg :=
    ⟨steadyClockMs, [], rfl⟩
  have hmem := (hreachable.requestSystemPoweroff_mem_trace_iff requests).mpr
    ⟨by simp [initializeSensors], h⟩
  rcases trace_poweroff cfg steadyClockMs requests with
    hquiet | ⟨earlier, later, heq, hearlier, hlater⟩
  · exact absurd (hquiet _ hmem) (by simp [Effect.isPoweroff])
  · have hnone : .requestSystemPoweroff ∉ earlier := fun hin =>
      absurd (hearlier _ hin) (by simp [Effect.isPoweroff])
    rw [heq, List.count_append, List.count_cons_self, List.count_eq_zero.mpr hnone,
      List.count_eq_zero.mpr hlater]

/-! ## Over whole runs -/

section Runs

variable [DecidableEq κ]

/-- **A pending update is handed over in time.** From every state of every run of the component,
whatever the library threads, the clients and the environment of the worker do. -/
theorem pending_update_handled (cfg : ThermalHfpConfig) (controlPort : UInt16)
    (steadyClockMs : ℤ) (before steps : List (ComponentStep κ))
    (update : ThermalTemperatureUpdate)
    (h : ((component κ).state (.start κ cfg controlPort steadyClockMs) before).TurnComes update
      steps) :
    update ∈ (component κ).collect Component.handled
      ((component κ).state (.start κ cfg controlPort steadyClockMs) before) steps :=
  (awaits_state cfg controlPort steadyClockMs before h.running h.pending).mem_handled h

/-- A message at 75 °C for the board, queued while the worker sleeps. -/
def hotBoardRun : List (ComponentStep Unit) :=
  [.owner true, .owner true, .owner true, .owner true, .owner true, .worker (.quiet 0),
    .worker (.quiet 0), .messageCallback () (temperatureMessage "board" "75" "1"),
    .advanceCallback ()]

theorem turnComes_board :
    ((component Unit).state (.start Unit boardProfile 8085 0) hotBoardRun).TurnComes
      (boardUpdate 75 1) (List.replicate 4 (.worker (.quiet 0))) where
  running := by decide +kernel
  pending := by decide +kernel
  keepsUp := by simp [ComponentStep.KeepsUp]
  latest := by simp [Component.pushed, List.replicate]
  turns := by
    have hcount : ((component Unit).state (.start Unit boardProfile 8085 0)
        hotBoardRun).ut.pendingTemperatureUpdates.map.countWhere (· ≤ "board") = 1 := by
      decide +kernel
    have hturns : (List.replicate 4 (ComponentStep.worker (κ := Unit) (.quiet 0))).countP
        ComponentStep.isWorker = 4 := rfl
    rw [hturns]
    simp [Component.pushed, List.replicate, boardUpdate, hcount]

theorem pending_update_handled_board :
    boardUpdate 75 1 ∈ (component Unit).collect Component.handled
      ((component Unit).state (.start Unit boardProfile 8085 0) hotBoardRun)
      (List.replicate 4 (.worker (.quiet 0))) :=
  pending_update_handled boardProfile 8085 0 hotBoardRun _ _ turnComes_board

/-- **A hot message powers the device off in time.** Once the turn of an update at or above its
sensor's shutdown threshold has come, the aggregate is imminent, and the power-off has been
requested exactly once in the life of the service. -/
theorem hot_update_powers_off (cfg : ThermalHfpConfig) (controlPort : UInt16)
    (steadyClockMs : ℤ) (before steps : List (ComponentStep κ))
    (update : ThermalTemperatureUpdate)
    (h : ((component κ).state (.start κ cfg controlPort steadyClockMs) before).TurnComes update
      steps)
    {i : ℕ} {config : ThermalSensorConfig} (hrange : update.InRange cfg i)
    (hconfig : cfg.sensors[i]? = some config)
    (hhot : config.triggers.enteringCriticalShutdownCelsius ≤ update.temperatureCelsius) :
    let start : Component κ := .start κ cfg controlPort steadyClockMs
    ((component κ).state start (before ++ steps)).service.currentState =
        .criticalShutdownImminent ∧
      (serviceCalls ((component κ).trace start (before ++ steps))).count .requestSystemPoweroff =
        1 := by
  intro start
  have hhandled := (awaits_state cfg controlPort steadyClockMs before h.running
    h.pending).mem_handled h
  obtain ⟨env, hrequest⟩ := exists_request_of_handled hhandled
  obtain ⟨hstate, htrace⟩ := service_component start (before ++ steps)
  rw [hstate, htrace]
  have hmem : .sample update.sample env ∈
      (component κ).collect Component.requests start (before ++ steps) := by
    rw [Machine.collect_append]
    exact List.mem_append_right _ hrequest
  generalize (component κ).collect Component.requests start (before ++ steps) = requests at hmem ⊢
  have haccepted : (Request.sample update.sample env).accepted? cfg =
      some (i, update.temperatureCelsius, _) :=
    Request.accepted?_sample_eq_some.mpr ⟨hrange, rfl⟩
  have hreached : ∃ r ∈ requests, r.reachesShutdown cfg = true :=
    ⟨_, hmem, (Request.reachesShutdown_of_accepted haccepted hconfig).mpr hhot⟩
  refine ⟨(armed_state cfg steadyClockMs requests).imminent.mpr hreached, ?_⟩
  exact count_requestSystemPoweroff_trace cfg steadyClockMs hreached

theorem hot_update_powers_off_board :
    let start : Component Unit := .start Unit boardProfile 8085 0
    let steps := hotBoardRun ++ List.replicate 4 (.worker (.quiet 0))
    ((component Unit).state start steps).service.currentState = .criticalShutdownImminent ∧
      (serviceCalls ((component Unit).trace start steps)).count .requestSystemPoweroff = 1 :=
  hot_update_powers_off boardProfile 8085 0 hotBoardRun _ _ turnComes_board
    (show acceptedSample? boardProfile _ = some (0, 75) by decide +kernel) rfl (by decide +kernel)

end Runs

end ThermalHal
