import ThermalHal.Controller.Pipeline

/-!
# How much can be pending

The queue is meant to hold one pending sample for each sensor. It keeps one for each name,
without looking at the configuration: a sensor answers to two names, and a name need not
belong to any sensor. So the bound depends on the names alone that clients send. Whatever the
worker does, the pending names are among those sent; and while the worker has taken nothing
they are all of them.

## Main definitions

* `Bounded` — at most one pending entry for each sensor, and no more entries than sensors.
* `passingNames` — the names of the messages that pass the checks.
* `NamesFit` — no two names of one sensor, and no more names than sensors.
* `bounded_iff` — over every interleaving.
-/

namespace ThermalHal

open Lib

/-- At most one pending entry for each sensor, and no more entries than sensors. -/
structure Bounded (cfg : ThermalHfpConfig) (pending : PendingTemperatureUpdates) : Prop where
  single : ∀ i, pending.map.countWhere (fun key => resolve cfg key = some i) ≤ 1
  total : pending.map.entries.length ≤ cfg.sensors.length

/-- The messages of a run, in their order. -/
def messagesOf (steps : List PipelineStep) : List (Option UtKvpInstance) :=
  steps.filterMap fun
    | .pushMessage kvp => some kvp
    | _ => none

/-- The trimmed names of the messages that pass the checks of `pushMessage`. -/
def passingNames (messages : List (Option UtKvpInstance)) : List String :=
  messages.filterMap fun kvp => (messageUpdate? kvp).map (·.sensorName)

/-- A sensor has one of the names at most, and there are no more different names than
sensors. -/
structure NamesFit (cfg : ThermalHfpConfig) (names : List String) : Prop where
  single : ∀ i, ∀ a ∈ names, ∀ b ∈ names,
    resolve cfg a = some i → resolve cfg b = some i → a = b
  total : names.toFinset.card ≤ cfg.sensors.length

/-! ## Names -/

section Names

variable {cfg : ThermalHfpConfig}

theorem NamesFit.mono {names names' : List String} (h : NamesFit cfg names)
    (hsub : names' ⊆ names) : NamesFit cfg names' where
  single i a ha b hb := h.single i a (hsub ha) b (hsub hb)
  total := by
    have hcard : names'.toFinset.card ≤ names.toFinset.card := by
      apply Finset.card_le_card
      intro a ha
      exact List.mem_toFinset.mpr (hsub (List.mem_toFinset.mp ha))
    exact hcard.trans h.total

/-- **The queue meets the bound exactly when the pending names fit.** -/
theorem bounded_iff_namesFit {pending : PendingTemperatureUpdates} :
    Bounded cfg pending ↔ NamesFit cfg pending.map.keys := by
  have hcard : pending.map.keys.toFinset.card = pending.map.entries.length := by
    rw [List.toFinset_card_of_nodup pending.map.nodup_keys, OrderedMap.length_keys]
  constructor
  · intro h
    exact ⟨fun i => (OrderedMap.countWhere_le_one_iff _ _).mp (h.single i), hcard ▸ h.total⟩
  · intro h
    exact ⟨fun i => (OrderedMap.countWhere_le_one_iff _ _).mpr (h.single i), hcard ▸ h.total⟩

theorem messagesOf_append (pre post : List PipelineStep) :
    messagesOf (pre ++ post) = messagesOf pre ++ messagesOf post := List.filterMap_append

theorem passingNames_append (pre post : List (Option UtKvpInstance)) :
    passingNames (pre ++ post) = passingNames pre ++ passingNames post := List.filterMap_append

theorem mem_passingNames_singleton {kvp : Option UtKvpInstance} {name : String} :
    name ∈ passingNames [kvp] ↔ ∃ update, messageUpdate? kvp = some update ∧
      update.sensorName = name := by
  simp [passingNames]

/-- The run in which the messages arrive and nothing else happens. -/
def onlyMessages (messages : List (Option UtKvpInstance)) : List PipelineStep :=
  messages.map .pushMessage

@[simp] theorem messagesOf_onlyMessages (messages : List (Option UtKvpInstance)) :
    messagesOf (onlyMessages messages) = messages := by
  rw [messagesOf, onlyMessages, List.filterMap_map]
  exact List.filterMap_some

end Names

/-! ## One step -/

/-- A message adds its name, if it passes the checks. -/
theorem mem_keys_pushMessage {kvp : Option UtKvpInstance} {pending : PendingTemperatureUpdates}
    {name : String} :
    name ∈ (pushMessage kvp pending).map.keys ↔
      name ∈ pending.map.keys ∨ name ∈ passingNames [kvp] := by
  rw [mem_passingNames_singleton]
  cases hkvp : messageUpdate? kvp with
  | none => simp [pushMessage_of_none hkvp]
  | some update =>
    rw [pushMessage_of_some hkvp]
    have hmem : name ∈ (pending.insertOrAssign update).map.keys ↔ _ :=
      OrderedMap.mem_keys_insertOrAssign
    rw [hmem, or_comm]
    simp [eq_comm]

/-- A step adds no name but that of its message. -/
theorem mem_keys_of_next {p : Pipeline} {step : PipelineStep} {name : String}
    (h : name ∈ (pipeline.next p step).pending.map.keys) :
    name ∈ p.pending.map.keys ∨ name ∈ passingNames (messagesOf [step]) := by
  cases step with
  | pushMessage kvp => exact mem_keys_pushMessage.mp h
  | getTemperatureUpdate =>
    left
    have hmove := pipelineMove p .getTemperatureUpdate
    generalize pipeline.next p .getTemperatureUpdate = p' at hmove h
    cases hmove with
    | notTaken => exact h
    | taken update rest hhand hpop =>
      rw [OrderedMap.keys_of_popFirst hpop]
      exact List.mem_cons_of_mem _ h
  | handleControlPlaneUpdate env =>
    left
    have hmove := pipelineMove p (.handleControlPlaneUpdate env)
    generalize pipeline.next p (.handleControlPlaneUpdate env) = p' at hmove h
    cases hmove with
    | notApplied | applied => exact h
  | registry call => exact Or.inl h

/-! ## Runs -/

section Runs

variable {cfg : ThermalHfpConfig} {steadyClockMs : ℤ}

/-- **What is pending was sent**, whatever the worker and the clients did meanwhile. -/
theorem keys_state_subset (steps : List PipelineStep) :
    (pipeline.state (.start cfg steadyClockMs) steps).pending.map.keys ⊆
      passingNames (messagesOf steps) := by
  refine Machine.history_induction
    (P := fun steps (p : Pipeline) => p.pending.map.keys ⊆ passingNames (messagesOf steps))
    ?_ ?_ steps
  · exact List.nil_subset _
  · intro steps step ih name hname
    rw [messagesOf_append, passingNames_append, List.mem_append]
    exact (mem_keys_of_next hname).imp_left (@ih name)

/-- **What was sent is pending**, as long as the worker has taken nothing. -/
theorem passingNames_subset_keys (messages : List (Option UtKvpInstance)) :
    passingNames messages ⊆
      (pipeline.state (.start cfg steadyClockMs) (onlyMessages messages)).pending.map.keys := by
  induction messages using List.reverseRecOn with
  | nil => exact List.nil_subset _
  | append_singleton messages kvp ih =>
    intro name hname
    rw [passingNames_append, List.mem_append] at hname
    rw [onlyMessages, List.map_append, Machine.state_append, ← onlyMessages]
    exact mem_keys_pushMessage.mpr (hname.imp_left (@ih name))

end Runs

/-- **The queue is bounded by the sensors exactly when the names sent are.** For every list of
messages: in every interleaving of them with steps of the worker and of the clients, all states
meet the bound, if and only if no two different names of messages that pass the checks belong
to one sensor and there are no more different such names than sensors. -/
theorem bounded_iff (cfg : ThermalHfpConfig) (steadyClockMs : ℤ)
    (messages : List (Option UtKvpInstance)) :
    (∀ steps, messagesOf steps = messages → ∀ pre post, steps = pre ++ post →
      Bounded cfg (pipeline.state (.start cfg steadyClockMs) pre).pending) ↔
    NamesFit cfg (passingNames messages) := by
  constructor
  · intro h
    have hbounded := h (onlyMessages messages) (messagesOf_onlyMessages messages) _ []
      (List.append_nil _).symm
    exact (bounded_iff_namesFit.mp hbounded).mono (passingNames_subset_keys messages)
  · rintro h steps rfl pre post rfl
    rw [messagesOf_append, passingNames_append] at h
    have hpre : NamesFit cfg (passingNames (messagesOf pre)) :=
      h.mono (List.subset_append_left _ _)
    exact bounded_iff_namesFit.mpr (hpre.mono (keys_state_subset pre))

/-- The board reports under its id and under its name before the worker takes anything. -/
theorem not_bounded_board :
    ¬ ∀ cfg, Accepted cfg → ∀ steadyClockMs steps pre post, steps = pre ++ post →
      Bounded cfg (pipeline.state (.start cfg steadyClockMs) pre).pending := by
  intro h
  have hbounded := h boardProfile boardProfile_accepted 0 _
    [.pushMessage (temperatureMessage "board" "50" "1"),
      .pushMessage (temperatureMessage "Mainboard Ambient" "60" "2")] [] rfl
  have hsingle := hbounded.single 0
  revert hsingle
  decide +kernel

end ThermalHal
