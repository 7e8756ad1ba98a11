import ThermalHal.Controller.Pipeline

/-!
# Which message a sensor ends up with

A sensor answers to two names, the queue keeps one update per name, and the worker takes
the updates in the order of their names. `Pipeline.eventual` is the reading a sensor will
have once the worker has caught up: the pending update under the greater of its names, else
the one in hand, else the reading it has. The worker's steps leave it alone and a message
moves it only when nothing is pending under a greater name, so the last message of a sensor
wins exactly when no such update stands in its way.

## Main definitions

* `Pipeline.eventual` — the reading a sensor is on its way to.
* `PipelineStep.WellFormed` — a message that passes all checks, range included.
* `NewestTelemetryWins`, `NoGreaterPending` — the law and the condition it holds under.
* `newestTelemetryWins_iff` — over every quiescent run.
-/

namespace ThermalHal

open Lib

/-- The reading of sensor `i` once everything pending has been applied. -/
def Pipeline.eventual (cfg : ThermalHfpConfig) (i : ℕ) (p : Pipeline) : Option (ℚ × ℤ) :=
  match p.pending.map.lastWhere (fun key => resolve cfg key = some i) with
  | some entry => some entry.2.value
  | none =>
      match p.inHand with
      | some update =>
          if resolve cfg update.sensorName = some i then some update.value else p.reading? i
      | none => p.reading? i

/-- Every update in the component is in the range of the sensor it names. -/
structure Pipeline.InRange (cfg : ThermalHfpConfig) (p : Pipeline) : Prop where
  configured : p.service.Configured cfg
  pending : ∀ entry ∈ p.pending.map.entries, ∃ i, entry.2.InRange cfg i
  inHand : ∀ update, p.inHand = some update → ∃ i, update.InRange cfg i

/-- A message passes the checks and is in the range of the sensor it names. -/
def PipelineStep.WellFormed (cfg : ThermalHfpConfig) : PipelineStep → Prop
  | .pushMessage kvp => ∃ update i, messageUpdate? kvp = some update ∧ update.InRange cfg i
  | _ => True

/-- The sensor a step brings a message for. -/
def PipelineStep.messageFor? (cfg : ThermalHfpConfig) : PipelineStep → Option ℕ
  | .pushMessage kvp => (messageUpdate? kvp).bind fun update => resolve cfg update.sensorName
  | _ => none

/-! ## The eventual reading -/

section Eventual

variable {cfg : ThermalHfpConfig} {i : ℕ} {p : Pipeline} {update : ThermalTemperatureUpdate}

/-- Nothing left to apply: the reading is the eventual one. -/
theorem eventual_of_quiescent (hpending : p.pending.map.entries = []) (hhand : p.inHand = none) :
    p.eventual cfg i = p.reading? i := by
  have hlast : p.pending.map.lastWhere (fun key => resolve cfg key = some i) = none := by
    rw [OrderedMap.lastWhere_eq_none, hpending]
    simp
  simp only [Pipeline.eventual, hlast, hhand]

/-- Taking an update moves it from the queue to the hand. -/
theorem eventual_taken (hhand : p.inHand = none) {rest : PendingTemperatureUpdates}
    (hpop : p.pending.map.popFirst = some ((update.sensorName, update), rest.map)) :
    Pipeline.eventual cfg i { p with pending := rest, inHand := some update } =
      p.eventual cfg i := by
  have hlast := OrderedMap.lastWhere_of_popFirst (p := fun key => resolve cfg key = some i) hpop
  simp only [Pipeline.eventual, hlast, hhand]
  cases rest.map.lastWhere (fun key => resolve cfg key = some i) with
  | some entry => rfl
  | none =>
    by_cases hname : resolve cfg update.sensorName = some i
    · simp [hname]
    · simp [hname, Pipeline.reading?]

/-- Applying an update moves it from the hand to the reading. -/
theorem eventual_applied (hp : p.InRange cfg) (hhand : p.inHand = some update)
    (env : Environment) :
    (pipeline.next p (.handleControlPlaneUpdate env)).eventual cfg i = p.eventual cfg i := by
  obtain ⟨j, hrange⟩ := hp.inHand update hhand
  have hnext := next_handleControlPlaneUpdate_of_some hhand env
  have hpending : (pipeline.next p (.handleControlPlaneUpdate env)).pending = p.pending := by
    rw [hnext]
  have hhand' : (pipeline.next p (.handleControlPlaneUpdate env)).inHand = none := by
    rw [hnext]
  simp only [Pipeline.eventual, hpending, hhand', hhand]
  cases p.pending.map.lastWhere (fun key => resolve cfg key = some i) with
  | some entry => rfl
  | none =>
    by_cases hname : resolve cfg update.sensorName = some i
    · have hij : j = i := by
        rw [hrange.resolve_eq, Option.some.injEq] at hname
        exact hname
      rw [if_pos hname]
      exact reading?_of_applied hp.configured (hij ▸ hrange) hhand env
    · rw [if_neg hname]
      exact reading?_of_applied_ne hp.configured hname hhand env

/-- A message for another sensor leaves the eventual reading alone. -/
theorem eventual_insertOrAssign_ne (hname : resolve cfg update.sensorName ≠ some i) :
    Pipeline.eventual cfg i { p with pending := p.pending.insertOrAssign update } =
      p.eventual cfg i := by
  have hlast := OrderedMap.lastWhere_insertOrAssign_of_not
    (p := fun key => resolve cfg key = some i) p.pending.map update hname
  simp only [Pipeline.eventual, PendingTemperatureUpdates.insertOrAssign, hlast]
  rfl

/-- A message becomes the eventual reading of its sensor unless an update is pending under a
greater name. -/
theorem eventual_insertOrAssign (hname : resolve cfg update.sensorName = some i) :
    Pipeline.eventual cfg i { p with pending := p.pending.insertOrAssign update } =
      match p.pending.map.lastWhere (fun key => resolve cfg key = some i) with
      | some entry => if update.sensorName < entry.1 then some entry.2.value else some update.value
      | none => some update.value := by
  have hlast := OrderedMap.lastWhere_insertOrAssign (p := fun key => resolve cfg key = some i)
    p.pending.map update hname
  simp only [Pipeline.eventual, PendingTemperatureUpdates.insertOrAssign, hlast]
  cases p.pending.map.lastWhere (fun key => resolve cfg key = some i) with
  | none => rfl
  | some entry =>
    by_cases hlt : update.sensorName < entry.1
    · simp only [if_pos hlt]
    · simp only [if_neg hlt]

end Eventual

/-! ## Runs -/

section Runs

variable {cfg : ThermalHfpConfig} {p : Pipeline}

theorem inRange_start (cfg : ThermalHfpConfig) (steadyClockMs : ℤ) :
    (Pipeline.start cfg steadyClockMs).InRange cfg where
  configured := configured_initializeSensors cfg steadyClockMs
  pending := by simp [Pipeline.start]
  inHand := by simp [Pipeline.start]

/-- A step keeps every update in range, if its message is. -/
theorem inRange_next (hp : p.InRange cfg) {step : PipelineStep}
    (hstep : step.WellFormed cfg) : (pipeline.next p step).InRange cfg := by
  have hmove := pipelineMove p step
  generalize pipeline.next p step = p' at hmove ⊢
  cases hmove with
  | dropped | notTaken | notApplied => exact hp
  | queued kvp update hkvp =>
    obtain ⟨newer, i, hnewer, hrange⟩ := hstep
    obtain rfl : newer = update := Option.some.inj (hnewer.symm.trans hkvp)
    refine ⟨hp.configured, fun entry hmem => ?_, hp.inHand⟩
    rcases OrderedMap.mem_insertOrAssign.mp hmem with rfl | ⟨hold, -⟩
    · exact ⟨i, hrange⟩
    · exact hp.pending entry hold
  | taken taken rest hhand hpop =>
    have hentries := OrderedMap.entries_of_popFirst hpop
    refine ⟨hp.configured, fun entry hmem => ?_, fun update hupdate => ?_⟩
    · exact hp.pending entry (hentries ▸ List.mem_cons_of_mem _ hmem)
    · rw [← Option.some.inj hupdate]
      exact hp.pending (taken.sensorName, taken) (hentries ▸ List.mem_cons_self)
  | applied env update hhand => exact ⟨configured_next hp.configured _, hp.pending, by simp⟩
  | registry call => exact ⟨configured_next hp.configured _, hp.pending, hp.inHand⟩

theorem inRange_state {steps : List PipelineStep} (hp : p.InRange cfg)
    (h : ∀ step ∈ steps, step.WellFormed cfg) : (pipeline.state p steps).InRange cfg :=
  Machine.invariant_of_forall (P := Pipeline.InRange cfg)
    (fun _ _ hstep hp => inRange_next hp hstep) hp steps h

/-- A step without a message for the sensor keeps its eventual reading. -/
theorem eventual_next (hp : p.InRange cfg) {step : PipelineStep} {i : ℕ}
    (hstep : step.messageFor? cfg ≠ some i) :
    (pipeline.next p step).eventual cfg i = p.eventual cfg i := by
  have hmove := pipelineMove p step
  generalize hnext : pipeline.next p step = p' at hmove ⊢
  cases hmove with
  | dropped | notTaken | notApplied | registry => rfl
  | queued kvp update hkvp =>
    apply eventual_insertOrAssign_ne
    simpa [PipelineStep.messageFor?, hkvp] using hstep
  | taken update rest hhand hpop => exact eventual_taken hhand hpop
  | applied env update hhand => exact hnext ▸ eventual_applied hp hhand env

/-- So does a run without a message for it. -/
theorem eventual_state {steps : List PipelineStep} {i : ℕ} (hp : p.InRange cfg)
    (h : ∀ step ∈ steps, step.WellFormed cfg)
    (hnone : ∀ step ∈ steps, step.messageFor? cfg ≠ some i) :
    (pipeline.state p steps).eventual cfg i = p.eventual cfg i := by
  induction steps generalizing p with
  | nil => rfl
  | cons step rest ih =>
    obtain ⟨hstep, hrest⟩ := List.forall_mem_cons.mp h
    obtain ⟨hother, hnone⟩ := List.forall_mem_cons.mp hnone
    rw [Machine.state_cons, ih (inRange_next hp hstep) hrest hnone]
    exact eventual_next hp hother

end Runs

/-! ## The law -/

/-- At the end of the run every sensor reads what the last message for it said. -/
def NewestTelemetryWins (cfg : ThermalHfpConfig) (steadyClockMs : ℤ) (steps : List PipelineStep) :
    Prop :=
  ∀ pre kvp post update i, steps = pre ++ .pushMessage kvp :: post →
    messageUpdate? kvp = some update → resolve cfg update.sensorName = some i →
    (∀ step ∈ post, step.messageFor? cfg ≠ some i) →
      (pipeline.state (.start cfg steadyClockMs) steps).reading? i = some update.value

/-- When the last message for a sensor arrives, no update of that sensor with another
temperature or timestamp is pending under a greater name. -/
def NoGreaterPending (cfg : ThermalHfpConfig) (steadyClockMs : ℤ) (steps : List PipelineStep) :
    Prop :=
  ∀ pre kvp post update i, steps = pre ++ .pushMessage kvp :: post →
    messageUpdate? kvp = some update → resolve cfg update.sensorName = some i →
    (∀ step ∈ post, step.messageFor? cfg ≠ some i) →
      ∀ entry ∈ (pipeline.state (.start cfg steadyClockMs) pre).pending.map.entries,
        resolve cfg entry.1 = some i → update.sensorName < entry.1 → entry.2.value = update.value

/-- A sensor answers to two names only, so at most one update of it is pending under a name
greater than a given one of them. -/
theorem greater_unique {cfg : ThermalHfpConfig} {i : ℕ} {key a b : String}
    (hkey : resolve cfg key = some i) (ha : resolve cfg a = some i) (hb : resolve cfg b = some i)
    (hlta : key < a) (hltb : key < b) : a = b := by
  obtain ⟨config, hconfig, hkey⟩ := key_of_resolve hkey
  obtain ⟨config', hconfig', ha⟩ := key_of_resolve ha
  obtain ⟨config'', hconfig'', hb⟩ := key_of_resolve hb
  rw [hconfig, Option.some.injEq] at hconfig' hconfig''
  subst hconfig' hconfig''
  rcases hkey with rfl | rfl
  · have ha' := ha.resolve_left hlta.ne
    have hb' := hb.resolve_left hltb.ne
    exact ha'.symm.trans hb'
  · have ha' := ha.resolve_right hlta.ne
    have hb' := hb.resolve_right hltb.ne
    exact ha'.symm.trans hb'

/-- What the last message for a sensor makes of its eventual reading. -/
theorem eventual_pushMessage_iff {cfg : ThermalHfpConfig} {p : Pipeline} {i : ℕ}
    {kvp : Option UtKvpInstance} {update : ThermalTemperatureUpdate}
    (hkvp : messageUpdate? kvp = some update) (hname : resolve cfg update.sensorName = some i) :
    (pipeline.next p (.pushMessage kvp)).eventual cfg i = some update.value ↔
      ∀ entry ∈ p.pending.map.entries, resolve cfg entry.1 = some i →
        update.sensorName < entry.1 → entry.2.value = update.value := by
  rw [next_pushMessage, pushMessage_of_some hkvp, eventual_insertOrAssign hname]
  cases hlast : p.pending.map.lastWhere (fun key => resolve cfg key = some i) with
  | none =>
    simp only [true_iff]
    intro entry hmem hentry
    exact absurd hentry (OrderedMap.lastWhere_eq_none.mp hlast entry hmem)
  | some last =>
    obtain ⟨hmem, hresolve, hgreatest⟩ := OrderedMap.lastWhere_eq_some hlast
    by_cases hlt : update.sensorName < last.1
    · simp only [if_pos hlt, Option.some.injEq]
      constructor
      · intro hvalue entry hentry hresolve' hlt'
        have hsame := greater_unique hname hresolve' hresolve hlt' hlt
        rcases hgreatest entry hentry hresolve' with rfl | hless
        · exact hvalue
        · exact absurd hsame hless.ne
      · intro h
        exact h last hmem hresolve hlt
    · simp only [if_neg hlt, true_iff]
      intro entry hentry hresolve' hlt'
      rcases hgreatest entry hentry hresolve' with rfl | hless
      · exact absurd hlt' hlt
      · exact absurd (hlt'.trans hless) hlt

/-- **The newest telemetry wins exactly when nothing greater is pending.** In a run whose
messages are all well formed and in range and which leaves nothing to apply, every sensor
reads what its last message said if and only if, when that message arrived, no other update
of the sensor was pending under a greater name. -/
theorem newestTelemetryWins_iff {cfg : ThermalHfpConfig} (steadyClockMs : ℤ)
    {steps : List PipelineStep} (hsteps : ∀ step ∈ steps, step.WellFormed cfg)
    (hpending : (pipeline.state (.start cfg steadyClockMs) steps).pending.map.entries = [])
    (hhand : (pipeline.state (.start cfg steadyClockMs) steps).inHand = none) :
    NewestTelemetryWins cfg steadyClockMs steps ↔ NoGreaterPending cfg steadyClockMs steps := by
  refine forall₅_congr fun pre kvp post update i => ?_
  refine forall₄_congr fun heq hkvp hname hlast => ?_
  subst heq
  obtain ⟨hpre, hrest⟩ := List.forall_mem_append.mp hsteps
  obtain ⟨hmessage, hpost⟩ := List.forall_mem_cons.mp hrest
  have hinPre := inRange_state (inRange_start cfg steadyClockMs) hpre
  have hquiescent : Pipeline.eventual cfg i (pipeline.state _ _) = _ :=
    eventual_of_quiescent hpending hhand
  rw [← hquiescent, Machine.state_append, Machine.state_cons,
    eventual_state (inRange_next hinPre hmessage) hpost hlast]
  exact eventual_pushMessage_iff hkvp hname

/-- The board reports under its id and then under its name; the worker takes and applies both. -/
def twoKeyRun : List PipelineStep :=
  [.pushMessage (temperatureMessage "board" "50" "1"),
    .pushMessage (temperatureMessage "Mainboard Ambient" "60" "2"),
    .getTemperatureUpdate, .handleControlPlaneUpdate (.quiet 0),
    .getTemperatureUpdate, .handleControlPlaneUpdate (.quiet 0)]

/-- What the second report carries. -/
theorem exists_update_mainboard :
    ∃ update, messageUpdate? (temperatureMessage "Mainboard Ambient" "60" "2") = some update ∧
      update.value = (60, 2) ∧ resolve boardProfile update.sensorName = some 0 ∧
      acceptedSample? boardProfile update.sample = some (0, update.temperatureCelsius) :=
  ⟨(messageUpdate? (temperatureMessage "Mainboard Ambient" "60" "2")).get (by decide +kernel),
    (Option.some_get _).symm, by decide +kernel, by decide +kernel, by decide +kernel⟩

theorem wellFormed_twoKeyRun : ∀ step ∈ twoKeyRun, step.WellFormed boardProfile := by
  obtain ⟨update, hkvp, -, -, hrange⟩ := exists_update_mainboard
  have hfirst : (PipelineStep.pushMessage (temperatureMessage "board" "50" "1")).WellFormed
      boardProfile :=
    ⟨boardUpdate 50 1, 0, by decide +kernel, show acceptedSample? boardProfile _ = _ by
      decide +kernel⟩
  have hsecond : (PipelineStep.pushMessage
      (temperatureMessage "Mainboard Ambient" "60" "2")).WellFormed boardProfile :=
    ⟨update, 0, hkvp, hrange⟩
  exact List.forall_mem_cons.mpr ⟨hfirst, List.forall_mem_cons.mpr
    ⟨hsecond, by simp [PipelineStep.WellFormed]⟩⟩

/-- Two reports under the two keys of one sensor. -/
theorem newestTelemetryWins_iff_board :
    NewestTelemetryWins boardProfile 0 twoKeyRun ↔ NoGreaterPending boardProfile 0 twoKeyRun :=
  newestTelemetryWins_iff 0 wellFormed_twoKeyRun (by decide +kernel) (by decide +kernel)

/-- The board reports 50 °C under its id and then 60 °C under its name. The name sorts before
the id, so the older report is applied last. -/
theorem not_newestTelemetryWins_board :
    ¬ ∀ cfg, Accepted cfg → ∀ steadyClockMs steps,
      (∀ step ∈ steps, PipelineStep.WellFormed cfg step) →
      (pipeline.state (.start cfg steadyClockMs) steps).pending.map.entries = [] →
      (pipeline.state (.start cfg steadyClockMs) steps).inHand = none →
        NewestTelemetryWins cfg steadyClockMs steps := by
  intro h
  obtain ⟨update, hkvp, hvalue, hname, -⟩ := exists_update_mainboard
  have hwins := h boardProfile boardProfile_accepted 0 twoKeyRun wellFormed_twoKeyRun
    (by decide +kernel) (by decide +kernel)
  have hreading := hwins [.pushMessage (temperatureMessage "board" "50" "1")] _
    [.getTemperatureUpdate, .handleControlPlaneUpdate (.quiet 0),
      .getTemperatureUpdate, .handleControlPlaneUpdate (.quiet 0)]
    update 0 rfl hkvp hname (by simp [PipelineStep.messageFor?])
  rw [hvalue] at hreading
  revert hreading
  decide +kernel

end ThermalHal
