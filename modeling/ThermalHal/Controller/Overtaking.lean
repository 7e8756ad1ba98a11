import ThermalHal.Controller.Delivery

/-!
# Who overtakes a pending sample

The worker takes the entry with the smallest name, so a pending sample is overtaken by
smaller names only, and by each of them as often as messages under it keep arriving. What
is returned of a class of names is bounded by what was pending of it and what arrived
(`countP_trace_add_countWhere_le`), and the two bounds below are instances of that.

## Main definitions

* `PendingThroughout` — a name is pending in every state of a stretch.
* `overtaken_by_smaller` — what is returned in such a stretch, and how often.
-/

namespace ThermalHal

open Lib

/-- A call of `getTemperatureUpdate`. -/
def QueueStep.takes : QueueStep → Bool
  | .pushMessage _ => false
  | .getTemperatureUpdate => true

/-- A message under a name of the class `q` that passes the checks. -/
def QueueStep.brings (q : String → Prop) [DecidablePred q] (step : QueueStep) : Bool :=
  step.passes?.any fun update => q update.sensorName

/-- A sample is pending under the name in every state of the stretch, its first and its last
one included. -/
def PendingThroughout (pending : PendingTemperatureUpdates) (during : List QueueStep)
    (sensorName : String) : Prop :=
  ∀ pre post, during = pre ++ post →
    (updateQueue.state pending pre).get? sensorName ≠ none

/-! ## One step -/

section Step

variable {pending : PendingTemperatureUpdates} {step : QueueStep} {sensorName : String}
  {update : ThermalTemperatureUpdate}

/-- The updates a step emits are the one it returns. -/
theorem emit_updateQueue (pending : PendingTemperatureUpdates) (step : QueueStep) :
    updateQueue.emit pending step = (step.returns? pending).toList := by
  cases step <;> rfl

/-- What is returned of a class of names was pending or has just arrived. -/
theorem countP_emit_add_countWhere_le (q : String → Prop) [DecidablePred q]
    (pending : PendingTemperatureUpdates) (step : QueueStep) :
    (updateQueue.emit pending step).countP (fun update => q update.sensorName) +
        (updateQueue.next pending step).map.countWhere q ≤
      pending.map.countWhere q + (if step.brings q then 1 else 0) := by
  cases step with
  | pushMessage kvp =>
    change 0 + (pushMessage kvp pending).map.countWhere q ≤ _
    cases hkvp : messageUpdate? kvp with
    | none =>
      rw [pushMessage_of_none hkvp]
      omega
    | some update =>
      have hcount := OrderedMap.countWhere_insertOrAssign q pending.map update.sensorName update
      have hbrings : (QueueStep.pushMessage kvp).brings q = decide (q update.sensorName) := by
        simp [QueueStep.brings, QueueStep.passes?, hkvp]
      rw [pushMessage_of_some hkvp, hbrings]
      change 0 + (pending.map.insertOrAssign update.sensorName update).countWhere q ≤ _
      rw [hcount]
      by_cases hq : q update.sensorName
      · simp only [hq, true_and, decide_true, if_true]
        split_ifs <;> omega
      · simp [hq]
  | getTemperatureUpdate =>
    have hbrings : QueueStep.getTemperatureUpdate.brings q = false := rfl
    rw [emit_updateQueue, hbrings]
    change (getTemperatureUpdate pending).2.toList.countP _ +
      (getTemperatureUpdate pending).1.map.countWhere q ≤ _
    rcases hget : getTemperatureUpdate pending with ⟨rest, _ | update⟩
    · simp [(getTemperatureUpdate_none hget).1]
    · have hcount := OrderedMap.countWhere_of_popFirst q (getTemperatureUpdate_some hget)
      change pending.map.countWhere q =
        rest.map.countWhere q + (if q update.sensorName then 1 else 0) at hcount
      simp only [Option.toList_some, List.countP_singleton, decide_eq_true_eq, hcount]
      omega

/-- A name that is pending after an update was returned is greater than that of the update. -/
theorem sensorName_lt_of_returns (hreturns : step.returns? pending = some update)
    (h : (updateQueue.next pending step).get? sensorName ≠ none) :
    update.sensorName < sensorName := by
  cases step with
  | pushMessage kvp => simp [QueueStep.returns?] at hreturns
  | getTemperatureUpdate =>
    have hget : getTemperatureUpdate pending =
        (updateQueue.next pending .getTemperatureUpdate, some update) := Prod.ext rfl hreturns
    obtain ⟨held, hheld⟩ := Option.ne_none_iff_exists'.mp h
    exact OrderedMap.lt_of_popFirst (getTemperatureUpdate_some hget)
      (OrderedMap.get?_eq_some_iff.mp hheld)

/-- While something is pending, every call returns an update. -/
theorem length_emit_of_pending (h : pending.get? sensorName ≠ none) (step : QueueStep) :
    (updateQueue.emit pending step).length = if step.takes then 1 else 0 := by
  cases step with
  | pushMessage kvp => rfl
  | getTemperatureUpdate =>
    rw [emit_updateQueue]
    change (getTemperatureUpdate pending).2.toList.length = 1
    rcases hget : getTemperatureUpdate pending with ⟨rest, _ | update⟩
    · have hempty := (getTemperatureUpdate_none hget).2
      simp [PendingTemperatureUpdates.get?, OrderedMap.get?, hempty] at h
    · rfl

end Step

/-! ## Runs -/

section Runs

variable {pending : PendingTemperatureUpdates} {sensorName : String}

/-- **What is returned of a class of names** is bounded by what was pending of it and the
messages that arrived. -/
theorem countP_trace_add_countWhere_le (q : String → Prop) [DecidablePred q]
    (pending : PendingTemperatureUpdates) (during : List QueueStep) :
    (updateQueue.trace pending during).countP (fun update => q update.sensorName) +
        (updateQueue.state pending during).map.countWhere q ≤
      pending.map.countWhere q + during.countP (QueueStep.brings q) := by
  induction during generalizing pending with
  | nil => simp
  | cons step during ih =>
    have hstep := countP_emit_add_countWhere_le q pending step
    have hrest := ih (updateQueue.next pending step)
    rw [Machine.trace_cons, Machine.state_cons, List.countP_append, List.countP_cons]
    omega

theorem pendingThroughout_nil :
    PendingThroughout pending [] sensorName ↔ pending.get? sensorName ≠ none := by
  constructor
  · intro h
    exact h [] [] rfl
  · intro h pre post heq
    obtain ⟨rfl, -⟩ := List.append_eq_nil_iff.mp heq.symm
    exact h

theorem pendingThroughout_cons {step : QueueStep} {during : List QueueStep} :
    PendingThroughout pending (step :: during) sensorName ↔
      pending.get? sensorName ≠ none ∧
        PendingThroughout (updateQueue.next pending step) during sensorName := by
  constructor
  · intro h
    refine ⟨h [] _ rfl, ?_⟩
    intro pre post heq
    exact h (step :: pre) post (by simp [heq])
  · rintro ⟨hnow, hlater⟩ pre post heq
    cases pre with
    | nil => exact hnow
    | cons first pre =>
      obtain ⟨rfl, rfl⟩ := List.cons.inj heq
      exact hlater pre post rfl

/-- In a stretch in which a name is pending, only smaller names are returned. -/
theorem sensorName_lt_of_mem_trace {during : List QueueStep}
    (h : PendingThroughout pending during sensorName) :
    ∀ update ∈ updateQueue.trace pending during, update.sensorName < sensorName := by
  intro update hmem
  obtain ⟨pre, step, post, rfl, hemit⟩ := Machine.mem_trace_iff.mp hmem
  rw [emit_updateQueue, Option.mem_toList] at hemit
  have hafter := h (pre ++ [step]) post (by simp)
  rw [Machine.state_append] at hafter
  exact sensorName_lt_of_returns hemit hafter

/-- In a stretch in which a name is pending, every call returns an update. -/
theorem length_trace_of_pendingThroughout {during : List QueueStep}
    (h : PendingThroughout pending during sensorName) :
    (updateQueue.trace pending during).length = during.countP QueueStep.takes := by
  induction during generalizing pending with
  | nil => rfl
  | cons step during ih =>
    obtain ⟨hnow, hlater⟩ := pendingThroughout_cons.mp h
    rw [Machine.trace_cons, List.length_append, length_emit_of_pending hnow, ih hlater,
      List.countP_cons]
    omega

end Runs

/-- **A pending sample is overtaken by smaller names only, and by each as often as messages
under it arrive.** In every stretch of a run in which a name is pending: the updates that are
returned have smaller names; a name is returned at most once more often than messages under it
pass during the stretch; and the worker makes at most as many calls as smaller names were
pending at its start and messages under smaller names pass during it. -/
theorem overtaken_by_smaller (before during : List QueueStep) (sensorName : String)
    (h : PendingThroughout (updateQueue.state .empty before) during sensorName) :
    let pending := updateQueue.state .empty before
    let returned := updateQueue.trace pending during
    (∀ update ∈ returned, update.sensorName < sensorName) ∧
    (∀ other, returned.countP (fun update => update.sensorName = other) ≤
      1 + during.countP (QueueStep.brings fun key => key = other)) ∧
    during.countP QueueStep.takes ≤
      pending.map.countWhere (fun key => key < sensorName) +
        during.countP (QueueStep.brings fun key => key < sensorName) := by
  intro pending returned
  have hsmaller := sensorName_lt_of_mem_trace h
  refine ⟨hsmaller, ?_, ?_⟩
  · intro other
    have hreturned : returned.countP (fun update => update.sensorName = other) + _ ≤ _ :=
      countP_trace_add_countWhere_le (fun key => key = other) pending during
    have hpending := OrderedMap.countWhere_eq_le_one pending.map other
    omega
  · have hreturned : returned.countP (fun update => update.sensorName < sensorName) + _ ≤ _ :=
      countP_trace_add_countWhere_le (fun key => key < sensorName) pending during
    have hall : returned.countP (fun update => update.sensorName < sensorName) =
        returned.length := by
      rw [List.countP_eq_length]
      simpa using hsmaller
    have hcalls : returned.length = during.countP QueueStep.takes :=
      length_trace_of_pendingThroughout h
    omega

/-- Two messages for `a` while a sample for `b` is pending, and the calls that return them. -/
def overtakingSteps : List QueueStep :=
  [.pushMessage (temperatureMessage "a" "50" "2"), .getTemperatureUpdate,
    .pushMessage (temperatureMessage "a" "51" "3"), .getTemperatureUpdate]

theorem pendingThroughout_overtakingSteps :
    PendingThroughout
      (updateQueue.state .empty [.pushMessage (temperatureMessage "b" "90" "1")])
      overtakingSteps "b" := by
  simp only [overtakingSteps, pendingThroughout_cons, pendingThroughout_nil]
  decide +kernel

theorem overtaken_by_smaller_twice :
    overtakingSteps.countP QueueStep.takes ≤
      (updateQueue.state .empty [.pushMessage (temperatureMessage "b" "90" "1")]).map.countWhere
          (fun key => key < "b") +
        overtakingSteps.countP (QueueStep.brings fun key => key < "b") :=
  (overtaken_by_smaller _ _ _ pendingThroughout_overtakingSteps).2.2

/-- The sample for `b` stays pending while `a` is returned twice. -/
theorem not_overtaken_once :
    ¬ ∀ before during sensorName,
      PendingThroughout (updateQueue.state .empty before) during sensorName →
        ∀ other ≠ sensorName, (updateQueue.trace (updateQueue.state .empty before) during).countP
          (fun update => update.sensorName = other) ≤ 1 := by
  intro h
  have honce := h _ _ _ pendingThroughout_overtakingSteps "a" (by decide)
  revert honce
  decide +kernel

end ThermalHal
