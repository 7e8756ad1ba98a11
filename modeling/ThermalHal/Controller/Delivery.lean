import ThermalHal.Controller.Pipeline
import ThermalHal.Lib.Register

/-!
# No loss and no duplication in the update queue

Callback threads push messages and the worker takes updates, in any order. Through `get?`
the queue is one latest-value register for each name (`get?_next`): a message that passes
the checks writes the register of its name, and taking an update empties one. What becomes
of a message is read off the next position of the run that touches its name.

## Main definitions

* `QueueStep`, `updateQueue` — the queue as a machine.
* `passedAt?`, `returnedAt?` — the update a position of a run queues or returns.
* `Outcome`, `Becomes` — what becomes of a message.
* `no_loss_no_duplication` — over every run.
-/

namespace ThermalHal

open Lib

/-- One critical section on the queue: of some callback thread, or of the worker. -/
inductive QueueStep
  | pushMessage (kvp : Option UtKvpInstance)
  | getTemperatureUpdate

/-- The queue as a machine; it emits the updates it returns. -/
def updateQueue : Machine PendingTemperatureUpdates QueueStep ThermalTemperatureUpdate where
  step pending
    | .pushMessage kvp => (pushMessage kvp pending, [])
    | .getTemperatureUpdate =>
        ((getTemperatureUpdate pending).1, (getTemperatureUpdate pending).2.toList)

/-- The update a step queues. -/
def QueueStep.passes? : QueueStep → Option ThermalTemperatureUpdate
  | .pushMessage kvp => messageUpdate? kvp
  | .getTemperatureUpdate => none

/-- The update a step returns. -/
def QueueStep.returns? (pending : PendingTemperatureUpdates) :
    QueueStep → Option ThermalTemperatureUpdate
  | .pushMessage _ => none
  | .getTemperatureUpdate => (ThermalHal.getTemperatureUpdate pending).2

/-- The update that the message at position `n` of a run queues, if it passes the checks. -/
def passedAt? (steps : List QueueStep) (n : ℕ) : Option ThermalTemperatureUpdate :=
  steps[n]?.bind QueueStep.passes?

/-- The update that `getTemperatureUpdate` returns at position `n` of a run. -/
def returnedAt? (steps : List QueueStep) (n : ℕ) : Option ThermalTemperatureUpdate :=
  steps[n]?.bind (QueueStep.returns? (updateQueue.state .empty (steps.take n)))

/-- Strictly between two positions no message under the name passes the checks and no update
of that name is returned. -/
def Undisturbed (steps : List QueueStep) (sensorName : String) (m n : ℕ) : Prop :=
  ∀ l, m < l → l < n →
    (∀ update, passedAt? steps l = some update → update.sensorName ≠ sensorName) ∧
      ∀ update, returnedAt? steps l = some update → update.sensorName ≠ sensorName

/-! ## The queue as registers -/

/-- The register step a step is. -/
def QueueStep.label (pending : PendingTemperatureUpdates) (step : QueueStep) :
    RegisterStep String ThermalTemperatureUpdate :=
  match step.passes?, step.returns? pending with
  | some update, _ => .write update.sensorName update
  | none, some update => .take update.sensorName
  | none, none => .skip

section Refinement

variable {pending : PendingTemperatureUpdates} {step : QueueStep}
  {update : ThermalTemperatureUpdate}

theorem QueueStep.passes?_eq_none (h : step.returns? pending = some update) :
    step.passes? = none := by
  cases step with
  | pushMessage kvp => simp [returns?] at h
  | getTemperatureUpdate => rfl

theorem QueueStep.label_eq_write {sensorName : String} :
    step.label pending = .write sensorName update ↔
      step.passes? = some update ∧ update.sensorName = sensorName := by
  rw [label]
  cases hpasses : step.passes? with
  | none => cases hreturns : step.returns? pending <;> simp
  | some newer =>
    simp only [RegisterStep.write.injEq, Option.some.injEq]
    constructor
    · rintro ⟨hname, rfl⟩
      exact ⟨rfl, hname⟩
    · rintro ⟨rfl, hname⟩
      exact ⟨hname, rfl⟩

theorem QueueStep.label_eq_take {sensorName : String} :
    step.label pending = .take sensorName ↔
      ∃ update, step.returns? pending = some update ∧ update.sensorName = sensorName := by
  rw [label]
  cases hpasses : step.passes? with
  | none => cases hreturns : step.returns? pending <;> simp
  | some newer =>
    have hreturns : step.returns? pending = none := by
      by_contra hsome
      obtain ⟨update, hupdate⟩ := Option.ne_none_iff_exists'.mp hsome
      rw [passes?_eq_none hupdate] at hpasses
      cases hpasses
    simp [hreturns]

/-- **Every step of the queue is a step of the registers.** -/
theorem get?_next_updateQueue (pending : PendingTemperatureUpdates) (step : QueueStep) :
    (updateQueue.next pending step).get? = registers.next pending.get? (step.label pending) := by
  funext sensorName
  cases step with
  | pushMessage kvp =>
    change (pushMessage kvp pending).get? sensorName = _
    cases hkvp : messageUpdate? kvp with
    | none =>
      rw [pushMessage_of_none hkvp]
      simp [QueueStep.label, QueueStep.passes?, QueueStep.returns?, hkvp, registers, Machine.next]
    | some update =>
      rw [pushMessage_of_some hkvp]
      by_cases hname : sensorName = update.sensorName
      · subst hname
        simp [QueueStep.label, QueueStep.passes?, hkvp, registers, Machine.next]
      · rw [get?_insertOrAssign_ne hname]
        simp [QueueStep.label, QueueStep.passes?, hkvp, registers, Machine.next, hname]
  | getTemperatureUpdate =>
    change (getTemperatureUpdate pending).1.get? sensorName = _
    rcases hget : getTemperatureUpdate pending with ⟨rest, _ | update⟩
    · rw [(getTemperatureUpdate_none hget).1]
      simp [QueueStep.label, QueueStep.passes?, QueueStep.returns?, hget, registers, Machine.next]
    · have hpop := getTemperatureUpdate_some hget
      have hsplit := OrderedMap.get?_of_popFirst hpop sensorName
      by_cases hname : sensorName = update.sensorName
      · subst hname
        simpa [QueueStep.label, QueueStep.passes?, QueueStep.returns?, hget, registers,
          Machine.next, PendingTemperatureUpdates.get?] using OrderedMap.get?_popFirst_self hpop
      · rw [if_neg hname] at hsplit
        simp [QueueStep.label, QueueStep.passes?, QueueStep.returns?, hget, registers,
          Machine.next, hname, PendingTemperatureUpdates.get?, hsplit]

end Refinement

/-! ## Runs -/

/-- The register steps of a run from the empty queue. -/
def queueLabels (steps : List QueueStep) : List (RegisterStep String ThermalTemperatureUpdate) :=
  updateQueue.labels QueueStep.label .empty steps

section Runs

variable {steps : List QueueStep} {sensorName : String} {update : ThermalTemperatureUpdate}
  {m n : ℕ}

theorem get?_state (steps : List QueueStep) :
    (updateQueue.state .empty steps).get? =
      registers.state (fun _ => none) (queueLabels steps) :=
  Machine.state_labels (P := fun _ => True) PendingTemperatureUpdates.get? QueueStep.label
    (fun _ _ _ => trivial) (fun pending step _ => get?_next_updateQueue pending step) trivial steps

theorem length_queueLabels (steps : List QueueStep) : (queueLabels steps).length = steps.length :=
  Machine.length_labels ..

theorem getElem?_queueLabels_eq_write :
    (queueLabels steps)[m]? = some (.write sensorName update) ↔
      passedAt? steps m = some update ∧ update.sensorName = sensorName := by
  rw [queueLabels, Machine.getElem?_labels, passedAt?]
  cases steps[m]? with
  | none => simp
  | some step => simp [QueueStep.label_eq_write]

theorem getElem?_queueLabels_eq_take :
    (queueLabels steps)[n]? = some (.take sensorName) ↔
      ∃ update, returnedAt? steps n = some update ∧ update.sensorName = sensorName := by
  rw [queueLabels, Machine.getElem?_labels, returnedAt?]
  cases steps[n]? with
  | none => simp
  | some step => simp [QueueStep.label_eq_take]

theorem touchedAt_queueLabels :
    RegisterStep.TouchedAt (queueLabels steps) sensorName n ↔
      (∃ update, passedAt? steps n = some update ∧ update.sensorName = sensorName) ∨
        ∃ update, returnedAt? steps n = some update ∧ update.sensorName = sensorName := by
  constructor
  · rintro ⟨step, hstep, htouch⟩
    cases step with
    | skip => exact htouch.elim
    | write k update =>
      have hk : k = sensorName := htouch
      exact Or.inl ⟨update, getElem?_queueLabels_eq_write.mp (hk ▸ hstep)⟩
    | take k =>
      have hk : k = sensorName := htouch
      exact Or.inr (getElem?_queueLabels_eq_take.mp (hk ▸ hstep))
  · rintro (⟨update, hpassed⟩ | hreturned)
    · exact RegisterStep.touchedAt_of_write (getElem?_queueLabels_eq_write.mpr hpassed)
    · exact RegisterStep.touchedAt_of_take (getElem?_queueLabels_eq_take.mpr hreturned)

theorem untouched_queueLabels :
    RegisterStep.Untouched (queueLabels steps) sensorName m n ↔
      Undisturbed steps sensorName m n := by
  simp only [RegisterStep.Untouched, touchedAt_queueLabels, Undisturbed, not_or, not_exists,
    not_and, ne_eq]

/-- An update that is returned was pending under its name. -/
theorem get?_of_returnedAt? (h : returnedAt? steps n = some update) :
    (updateQueue.state .empty (steps.take n)).get? update.sensorName = some update := by
  rw [returnedAt?, Option.bind_eq_some_iff] at h
  obtain ⟨step, -, hreturns⟩ := h
  cases step with
  | pushMessage kvp => simp [QueueStep.returns?] at hreturns
  | getTemperatureUpdate =>
    have hget : getTemperatureUpdate (updateQueue.state .empty (steps.take n)) =
        (_, some update) := Prod.ext rfl hreturns
    have hsplit := OrderedMap.get?_of_popFirst (getTemperatureUpdate_some hget) update.sensorName
    rw [if_pos rfl] at hsplit
    exact hsplit

/-- A message and a return are different steps. -/
theorem returnedAt?_of_passedAt? {newer : ThermalTemperatureUpdate}
    (h : passedAt? steps n = some newer) : returnedAt? steps n = none := by
  rw [passedAt?, Option.bind_eq_some_iff] at h
  obtain ⟨step, hstep, hpasses⟩ := h
  rw [returnedAt?, hstep, Option.bind_some]
  by_contra hsome
  obtain ⟨older, holder⟩ := Option.ne_none_iff_exists'.mp hsome
  rw [QueueStep.passes?_eq_none holder] at hpasses
  cases hpasses

end Runs

/-! ## What becomes of a message -/

/-- What can become of a message by the end of a run. -/
inductive Outcome
  | pending
  | returned (n : ℕ)
  | superseded (n : ℕ)

/-- What becomes of the message at position `m` that queued `update`: it is pending at the end,
`getTemperatureUpdate` returned it at `n`, or a message under its name replaced it at `n`
before it was returned. -/
def Becomes (steps : List QueueStep) (m : ℕ) (update : ThermalTemperatureUpdate) :
    Outcome → Prop
  | .pending =>
      (updateQueue.state .empty steps).get? update.sensorName = some update ∧
        Undisturbed steps update.sensorName m steps.length
  | .returned n =>
      m < n ∧ returnedAt? steps n = some update ∧ Undisturbed steps update.sensorName m n
  | .superseded n =>
      m < n ∧ (∃ newer, passedAt? steps n = some newer ∧ newer.sensorName = update.sensorName) ∧
        Undisturbed steps update.sensorName m n

section Outcomes

variable {steps : List QueueStep} {update : ThermalTemperatureUpdate} {m : ℕ}

theorem exists_outcome (h : passedAt? steps m = some update) :
    ∃ outcome, Becomes steps m update outcome := by
  have hwrite := getElem?_queueLabels_eq_write.mpr ⟨h, rfl⟩
  rcases write_fate hwrite with ⟨hheld, hlast⟩ | ⟨n, hn, hbetween, htake, hheld⟩ |
    ⟨n, hn, hbetween, newer, hnewer⟩
  · rw [length_queueLabels, untouched_queueLabels] at hlast
    rw [← get?_state] at hheld
    exact ⟨.pending, hheld, hlast⟩
  · obtain ⟨taken, hreturned, hname⟩ := getElem?_queueLabels_eq_take.mp htake
    have htaken := get?_of_returnedAt? hreturned
    rw [queueLabels, Machine.take_labels, ← queueLabels, ← get?_state, ← hname, htaken,
      Option.some.injEq] at hheld
    rw [hheld] at hreturned
    exact ⟨.returned n, hn, hreturned, untouched_queueLabels.mp hbetween⟩
  · exact ⟨.superseded n, hn, ⟨newer, getElem?_queueLabels_eq_write.mp hnewer⟩,
      untouched_queueLabels.mp hbetween⟩

/-- The outcomes other than `pending` name the next position that touches the name. -/
theorem Becomes.next {outcome : Outcome} (h : Becomes steps m update outcome) :
    outcome = .pending ∨ ∃ n, (outcome = .returned n ∨ outcome = .superseded n) ∧ m < n ∧
      RegisterStep.TouchedAt (queueLabels steps) update.sensorName n ∧
      RegisterStep.Untouched (queueLabels steps) update.sensorName m n := by
  cases outcome with
  | pending => exact Or.inl rfl
  | returned n =>
    obtain ⟨hn, hreturned, hbetween⟩ := h
    exact Or.inr ⟨n, Or.inl rfl, hn, touchedAt_queueLabels.mpr (Or.inr ⟨update, hreturned, rfl⟩),
      untouched_queueLabels.mpr hbetween⟩
  | superseded n =>
    obtain ⟨hn, hpassed, hbetween⟩ := h
    exact Or.inr ⟨n, Or.inr rfl, hn, touchedAt_queueLabels.mpr (Or.inl hpassed),
      untouched_queueLabels.mpr hbetween⟩

/-- A message is not both pending and touched. -/
theorem Becomes.not_touched (h : Becomes steps m update .pending) {n : ℕ} (hn : m < n) :
    ¬ RegisterStep.TouchedAt (queueLabels steps) update.sensorName n := by
  intro htouched
  have hlast := untouched_queueLabels.mpr h.2
  exact hlast n hn (length_queueLabels steps ▸ htouched.lt_length) htouched

/-- **A message has one outcome.** -/
theorem outcome_unique {outcome outcome' : Outcome} (h : Becomes steps m update outcome)
    (h' : Becomes steps m update outcome') : outcome = outcome' := by
  rcases h.next with rfl | ⟨n, hkind, hn, htouched, hbetween⟩
  · rcases h'.next with rfl | ⟨n', -, hn', htouched', -⟩
    · rfl
    · exact absurd htouched' (h.not_touched hn')
  · rcases h'.next with rfl | ⟨n', hkind', hn', htouched', hbetween'⟩
    · exact absurd htouched (h'.not_touched hn)
    · have heq : n = n' :=
        RegisterStep.next_unique hn hn' htouched htouched' hbetween hbetween'
      subst heq
      rcases hkind with rfl | rfl
      · rcases hkind' with rfl | rfl
        · rfl
        · obtain ⟨newer, hpassed, -⟩ := h'.2.1
          have hreturned := h.2.1
          rw [returnedAt?_of_passedAt? hpassed] at hreturned
          cases hreturned
      · rcases hkind' with rfl | rfl
        · obtain ⟨newer, hpassed, -⟩ := h.2.1
          have hreturned := h'.2.1
          rw [returnedAt?_of_passedAt? hpassed] at hreturned
          cases hreturned
        · rfl

/-- **A returned update is the last message under its name**, since that name was last
returned or passed. -/
theorem exists_message {n : ℕ} (h : returnedAt? steps n = some update) :
    ∃! m, m < n ∧ passedAt? steps m = some update ∧ Undisturbed steps update.sensorName m n := by
  have hheld := get?_of_returnedAt? h
  rw [get?_state, queueLabels, ← Machine.take_labels, ← queueLabels, registers_eq_some_iff]
    at hheld
  obtain ⟨m, hm, hlast⟩ := hheld
  have hlength : (queueLabels steps).length = steps.length := length_queueLabels steps
  have hn : n < steps.length := by
    by_contra hge
    simp [returnedAt?, List.getElem?_eq_none (not_lt.mp hge)] at h
  have hmn : m < n := by
    have hlt := (List.getElem?_eq_some_iff.mp hm).1
    rw [List.length_take] at hlt
    omega
  rw [List.getElem?_take_of_lt hmn] at hm
  have hbetween : RegisterStep.Untouched (queueLabels steps) update.sensorName m n := by
    intro l hl hlt htouched
    refine hlast l hl ?_ ((RegisterStep.touchedAt_take hlt).mpr htouched)
    rw [List.length_take]
    omega
  refine ⟨m, ⟨hmn, (getElem?_queueLabels_eq_write.mp hm).1,
    untouched_queueLabels.mp hbetween⟩, ?_⟩
  rintro m' ⟨hm', hpassed, hbetween'⟩
  have hwrite := getElem?_queueLabels_eq_write.mpr ⟨hpassed, rfl⟩
  exact RegisterStep.last_unique hm' hmn (RegisterStep.touchedAt_of_write hwrite)
    (RegisterStep.touchedAt_of_write hm) (untouched_queueLabels.mpr hbetween') hbetween

/-- A pending update is under its own name, which has no white space at either end, and carries
what its message was checked for. -/
theorem entry_wellFormed (pending : PendingTemperatureUpdates)
    {entry : String × ThermalTemperatureUpdate} (h : entry ∈ pending.map.entries) :
    entry.1 = entry.2.sensorName ∧ entry.1 ≠ "" ∧ Stripped entry.1 ∧
      entry.2.sample.temperatureCelsius = .finite entry.2.temperatureCelsius ∧
      0 ≤ entry.2.timestampMonotonicMs := by
  rw [← pending.keyed entry h]
  exact ⟨rfl, entry.2.sensorName_ne, trim_eq_self_iff.mp entry.2.sensorName_trimmed, rfl,
    entry.2.timestamp_nonneg⟩

end Outcomes

/-- **No loss and no duplication.** In every run from the empty queue, a message that passes the
checks has exactly one outcome: pending, returned once, or superseded under its name before it
was returned. Every returned update is the last message under its name since that name was
last returned; a message that fails a check leaves the queue as it was; and every pending
entry is well formed and under its own name. -/
theorem no_loss_no_duplication (steps : List QueueStep) :
    (∀ m update, passedAt? steps m = some update →
      ∃! outcome, Becomes steps m update outcome) ∧
    (∀ n update, returnedAt? steps n = some update →
      ∃! m, m < n ∧ passedAt? steps m = some update ∧
        Undisturbed steps update.sensorName m n) ∧
    (∀ kvp, messageUpdate? kvp = none →
      updateQueue.next (updateQueue.state .empty steps) (.pushMessage kvp) =
        updateQueue.state .empty steps) ∧
    (∀ entry ∈ (updateQueue.state .empty steps).map.entries,
      entry.1 = entry.2.sensorName ∧ entry.1 ≠ "" ∧ Stripped entry.1 ∧
        entry.2.sample.temperatureCelsius = .finite entry.2.temperatureCelsius ∧
        0 ≤ entry.2.timestampMonotonicMs) := by
  refine ⟨?_, ?_, ?_, ?_⟩
  · intro m update hpassed
    obtain ⟨outcome, houtcome⟩ := exists_outcome hpassed
    exact ⟨outcome, houtcome, fun _ hother => outcome_unique hother houtcome⟩
  · intro n update hreturned
    exact exists_message hreturned
  · intro kvp hkvp
    exact pushMessage_of_none hkvp
  · intro entry hmem
    exact entry_wellFormed _ hmem

/-- The second of two messages is returned, so it has that one outcome. -/
theorem no_loss_no_duplication_board :
    ∃! outcome, Becomes
      [.pushMessage (temperatureMessage "board" "50" "1"),
        .pushMessage (temperatureMessage "board" "60" "2"), .getTemperatureUpdate]
      1 (boardUpdate 60 2) outcome :=
  (no_loss_no_duplication _).1 1 (boardUpdate 60 2) (by decide +kernel)

end ThermalHal
