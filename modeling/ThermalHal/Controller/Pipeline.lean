import ThermalHal.Controller.Queue
import ThermalHal.Sensor.Invariant

/-!
# The control plane and the worker

Messages arrive on library threads; one worker takes an update out of the queue and
then hands it to the service. Each of the two is a step of its own, so messages can
arrive while the worker holds an update. What the service sees is a run of its own
(`service_pipeline`), so everything proved about those runs holds here.

`fate` follows one queued update: it is pending, in the worker's hand, applied, or it
was replaced under its name by a later message that passed the checks of `pushMessage`.

## Main definitions

* `Pipeline`, `pipeline` — the queue, the worker and the service as one machine.
* `Fate` — what has become of a queued update at the end of a run.
-/

namespace ThermalHal

open Lib

/-- The service, the queue, and the update the worker has taken and not yet applied. -/
structure Pipeline where
  service : ThermalSensor
  pending : PendingTemperatureUpdates
  inHand : Option ThermalTemperatureUpdate

/-- One atomic step of some thread. The worker's steps do nothing when it cannot make
them: it takes an update only with empty hands, and applies only what it holds. -/
inductive PipelineStep
  | pushMessage (kvp : Option UtKvpInstance)
  | getTemperatureUpdate
  | handleControlPlaneUpdate (env : Environment)
  | registry (call : RegistryCall)

/-- The sample an update is handed on as. -/
def ThermalTemperatureUpdate.sample (update : ThermalTemperatureUpdate) : TemperatureSample :=
  ⟨update.sensorName, .finite update.temperatureCelsius, update.timestampMonotonicMs⟩

def handleControlPlaneUpdate (env : Environment) (update : ThermalTemperatureUpdate)
    (s : ThermalSensor) : ThermalSensor × List Effect :=
  applyTemperatureSample env update.sample s

/-- The whole component as a machine. -/
def pipeline : Machine Pipeline PipelineStep Effect where
  step p
    | .pushMessage kvp => ({ p with pending := pushMessage kvp p.pending }, [])
    | .getTemperatureUpdate =>
        match p.inHand with
        | some _ => (p, [])
        | none =>
            let taken := getTemperatureUpdate p.pending
            ({ p with pending := taken.1, inHand := taken.2 }, [])
    | .handleControlPlaneUpdate env =>
        match p.inHand with
        | none => (p, [])
        | some update =>
            let applied := handleControlPlaneUpdate env update p.service
            ({ p with service := applied.1, inHand := none }, applied.2)
    | .registry call =>
        ({ p with service := service.next p.service (.registry call) }, [])

/-- The component as the service starts it. -/
def Pipeline.start (cfg : ThermalHfpConfig) (steadyClockMs : ℤ) : Pipeline :=
  ⟨initializeSensors cfg steadyClockMs, .empty, none⟩

/-! ## What one step does -/

section Step

variable {p : Pipeline} {update : ThermalTemperatureUpdate}

@[simp] theorem next_pushMessage (p : Pipeline) (kvp : Option UtKvpInstance) :
    pipeline.next p (.pushMessage kvp) = { p with pending := pushMessage kvp p.pending } := rfl

theorem next_getTemperatureUpdate_of_some (h : p.inHand = some update) :
    pipeline.next p .getTemperatureUpdate = p := by
  simp only [pipeline, Machine.next, h]

theorem next_getTemperatureUpdate_of_none (h : p.inHand = none) :
    pipeline.next p .getTemperatureUpdate =
      { p with
        pending := (getTemperatureUpdate p.pending).1
        inHand := (getTemperatureUpdate p.pending).2 } := by
  simp only [pipeline, Machine.next, h]

theorem next_handleControlPlaneUpdate_of_none (h : p.inHand = none) (env : Environment) :
    pipeline.next p (.handleControlPlaneUpdate env) = p := by
  simp only [pipeline, Machine.next, h]

theorem next_handleControlPlaneUpdate_of_some (h : p.inHand = some update)
    (env : Environment) :
    pipeline.next p (.handleControlPlaneUpdate env) =
      { p with
        service := service.next p.service (.sample update.sample env)
        inHand := none } := by
  simp only [pipeline, Machine.next, h]
  rfl

end Step

/-- What each step makes of the component, one constructor for each way it can go. -/
inductive PipelineMove (p : Pipeline) : PipelineStep → Pipeline → Prop
  | dropped (kvp : Option UtKvpInstance) (hkvp : messageUpdate? kvp = none) :
      PipelineMove p (.pushMessage kvp) p
  | queued (kvp : Option UtKvpInstance) (update : ThermalTemperatureUpdate)
      (hkvp : messageUpdate? kvp = some update) :
      PipelineMove p (.pushMessage kvp) { p with pending := p.pending.insertOrAssign update }
  | notTaken : PipelineMove p .getTemperatureUpdate p
  | taken (update : ThermalTemperatureUpdate) (rest : PendingTemperatureUpdates)
      (hhand : p.inHand = none)
      (hpop : p.pending.map.popFirst = some ((update.sensorName, update), rest.map)) :
      PipelineMove p .getTemperatureUpdate { p with pending := rest, inHand := some update }
  | notApplied (env : Environment) : PipelineMove p (.handleControlPlaneUpdate env) p
  | applied (env : Environment) (update : ThermalTemperatureUpdate)
      (hhand : p.inHand = some update) :
      PipelineMove p (.handleControlPlaneUpdate env)
        { p with
          service := service.next p.service (.sample update.sample env)
          inHand := none }
  | registry (call : RegistryCall) :
      PipelineMove p (.registry call)
        { p with service := service.next p.service (.registry call) }

theorem pipelineMove (p : Pipeline) (step : PipelineStep) :
    PipelineMove p step (pipeline.next p step) := by
  cases step with
  | pushMessage kvp =>
    rw [next_pushMessage]
    cases hkvp : messageUpdate? kvp with
    | none =>
      rw [pushMessage_of_none hkvp]
      exact .dropped kvp hkvp
    | some update =>
      rw [pushMessage_of_some hkvp]
      exact .queued kvp update hkvp
  | getTemperatureUpdate =>
    cases hhand : p.inHand with
    | some held =>
      rw [next_getTemperatureUpdate_of_some hhand]
      exact .notTaken
    | none =>
      rw [next_getTemperatureUpdate_of_none hhand]
      rcases hget : getTemperatureUpdate p.pending with ⟨rest, _ | update⟩
      · rw [(getTemperatureUpdate_none hget).1, ← hhand]
        exact .notTaken
      · exact .taken update rest hhand (getTemperatureUpdate_some hget)
  | handleControlPlaneUpdate env =>
    cases hhand : p.inHand with
    | none =>
      rw [next_handleControlPlaneUpdate_of_none hhand]
      exact .notApplied env
    | some update =>
      rw [next_handleControlPlaneUpdate_of_some hhand]
      exact .applied env update hhand
  | registry call => exact .registry call

/-- What a step can make of a pending update: leave it, hand it to the worker, or replace it
by a message under its name. -/
theorem get?_next {p : Pipeline} {update : ThermalTemperatureUpdate}
    (h : p.pending.get? update.sensorName = some update) (step : PipelineStep) :
    (pipeline.next p step).pending.get? update.sensorName = some update ∨
      (pipeline.next p step).inHand = some update ∨
      ∃ kvp newer, step = .pushMessage kvp ∧ messageUpdate? kvp = some newer ∧
        newer.sensorName = update.sensorName := by
  have hmove := pipelineMove p step
  generalize pipeline.next p step = p' at hmove ⊢
  cases hmove with
  | queued kvp newer hkvp =>
    by_cases hname : newer.sensorName = update.sensorName
    · exact Or.inr (Or.inr ⟨kvp, newer, rfl, hkvp, hname⟩)
    · rw [get?_insertOrAssign_ne (Ne.symm hname)]
      exact Or.inl h
  | taken taken rest hhand hpop =>
    have hsplit := OrderedMap.get?_of_popFirst hpop update.sensorName
    rw [← PendingTemperatureUpdates.get?, h] at hsplit
    by_cases hname : update.sensorName = taken.sensorName
    · rw [if_pos hname] at hsplit
      exact Or.inr (Or.inl hsplit.symm)
    · rw [if_neg hname] at hsplit
      exact Or.inl hsplit.symm
  | dropped | notTaken | notApplied | applied | registry => exact Or.inl h

/-- What a step can make of the update in hand: leave it or apply it. -/
theorem inHand_next {p : Pipeline} {update : ThermalTemperatureUpdate}
    (h : p.inHand = some update) (step : PipelineStep) :
    (pipeline.next p step).inHand = some update ∨ ∃ env, step = .handleControlPlaneUpdate env := by
  have hmove := pipelineMove p step
  generalize pipeline.next p step = p' at hmove ⊢
  cases hmove with
  | taken taken rest hhand hpop => simp [h] at hhand
  | applied env | notApplied env => exact Or.inr ⟨env, rfl⟩
  | dropped | queued | notTaken | registry => exact Or.inl h

/-! ## The service behind the queue -/

/-- A step of the component is no step of the service, or one request to it. -/
theorem service_next (p : Pipeline) (step : PipelineStep) :
    (pipeline.next p step).service = p.service ∧ pipeline.emit p step = [] ∨
      ∃ r, (pipeline.next p step).service = service.next p.service r ∧
        pipeline.emit p step = service.emit p.service r := by
  cases step with
  | pushMessage kvp => exact Or.inl ⟨rfl, rfl⟩
  | getTemperatureUpdate =>
    left
    cases h : p.inHand <;> simp only [pipeline, Machine.next, Machine.emit, h, and_self]
  | handleControlPlaneUpdate env =>
    cases h : p.inHand with
    | none =>
      left
      simp only [pipeline, Machine.next, Machine.emit, h, and_self]
    | some update =>
      right
      refine ⟨.sample update.sample env, ?_, ?_⟩
      · rw [next_handleControlPlaneUpdate_of_some h]
      · simp only [pipeline, Machine.emit, h]
        rfl
  | registry call => exact Or.inr ⟨.registry call, rfl, rfl⟩

/-- **The service inside the component runs as it does alone**, on the requests the worker
and the clients make of it. -/
theorem service_pipeline (p : Pipeline) (steps : List PipelineStep) :
    ∃ requests, (pipeline.state p steps).service = service.state p.service requests ∧
      pipeline.trace p steps = service.trace p.service requests :=
  Machine.exists_run_of_step Pipeline.service service_next p steps

theorem reachable_pipeline (cfg : ThermalHfpConfig) (steadyClockMs : ℤ)
    (steps : List PipelineStep) :
    (pipeline.state (.start cfg steadyClockMs) steps).service.Reachable cfg := by
  obtain ⟨requests, hstate, -⟩ := service_pipeline (.start cfg steadyClockMs) steps
  exact ⟨steadyClockMs, requests, hstate.symm⟩

/-! ## One update through the component -/

/-- The temperature and timestamp a client reads for sensor `i`. -/
def Pipeline.reading? (p : Pipeline) (i : ℕ) : Option (ℚ × ℤ) :=
  p.service.sensors[i]?.map fun it =>
    (it.reading.temperatureCelsius, it.reading.timestampMonotonicMs)

/-- What an update makes of the reading of its sensor. -/
def ThermalTemperatureUpdate.value (update : ThermalTemperatureUpdate) : ℚ × ℤ :=
  (update.temperatureCelsius, update.timestampMonotonicMs)

/-- The update names sensor `i` and its temperature is in that sensor's range. -/
def ThermalTemperatureUpdate.InRange (cfg : ThermalHfpConfig) (i : ℕ)
    (update : ThermalTemperatureUpdate) : Prop :=
  acceptedSample? cfg update.sample = some (i, update.temperatureCelsius)

theorem ThermalTemperatureUpdate.InRange.resolve_eq {cfg : ThermalHfpConfig} {i : ℕ}
    {update : ThermalTemperatureUpdate} (h : update.InRange cfg i) :
    resolve cfg update.sensorName = some i :=
  (acceptedSample?_eq_some.mp h).1

/-- Applying an update in range gives its sensor the temperature and timestamp of the
message, whatever the environment does. -/
theorem reading?_of_applied {cfg : ThermalHfpConfig} {p : Pipeline} {i : ℕ}
    {update : ThermalTemperatureUpdate} (hc : p.service.Configured cfg)
    (hrange : update.InRange cfg i) (h : p.inHand = some update) (env : Environment) :
    (pipeline.next p (.handleControlPlaneUpdate env)).reading? i = some update.value := by
  have hts : effectiveTimestampMs env.steadyClockMs update.timestampMonotonicMs =
      update.timestampMonotonicMs := if_pos update.timestamp_nonneg
  have hr : (Request.sample update.sample env).accepted? cfg =
      some (i, update.temperatureCelsius, update.timestampMonotonicMs) :=
    Request.accepted?_sample_eq_some.mpr ⟨hrange, hts.symm⟩
  obtain ⟨it, hit⟩ := exists_of_accepted hc hr
  rw [next_handleControlPlaneUpdate_of_some h, Pipeline.reading?, next_getElem? hc hr hit]
  rfl

/-- Applying an update of one sensor leaves the readings of the others alone. -/
theorem reading?_of_applied_ne {cfg : ThermalHfpConfig} {p : Pipeline} {i : ℕ}
    {update : ThermalTemperatureUpdate} (hc : p.service.Configured cfg)
    (hne : resolve cfg update.sensorName ≠ some i) (h : p.inHand = some update)
    (env : Environment) :
    (pipeline.next p (.handleControlPlaneUpdate env)).reading? i = p.reading? i := by
  have hr : ∀ t ts, (Request.sample update.sample env).accepted? cfg ≠ some (i, t, ts) := by
    intro t ts heq
    exact hne (acceptedSample?_eq_some.mp (Request.accepted?_sample_eq_some.mp heq).1).1
  rw [next_handleControlPlaneUpdate_of_some h, Pipeline.reading?, next_getElem?_ne hc hr]
  rfl

/-! ## The fate of a queued update -/

/-- What has become of an update for sensor `i` that a run has queued, after the further
steps `post`. `replacement` says which updates may have replaced it. -/
inductive Fate (s : Pipeline) (i : ℕ) (update : ThermalTemperatureUpdate)
    (replacement : ThermalTemperatureUpdate → Prop) (post : List PipelineStep) : Prop
  | pending (h : (pipeline.state s post).pending.get? update.sensorName = some update)
  | inHand (h : (pipeline.state s post).inHand = some update)
  | applied (before : List PipelineStep) (env : Environment) (after : List PipelineStep)
      (hpost : post = before ++ .handleControlPlaneUpdate env :: after)
      (hhand : (pipeline.state s before).inHand = some update)
      (hreading : (pipeline.state s (before ++ [.handleControlPlaneUpdate env])).reading? i =
        some update.value)
  | replaced (before : List PipelineStep) (kvp : Option UtKvpInstance)
      (newer : ThermalTemperatureUpdate) (after : List PipelineStep)
      (hpost : post = before ++ .pushMessage kvp :: after)
      (hpending : (pipeline.state s before).pending.get? update.sensorName = some update)
      (hkvp : messageUpdate? kvp = some newer) (hname : newer.sensorName = update.sensorName)
      (hnewer : replacement newer)

/-- **One more step of a fate.** -/
theorem Fate.concat {cfg : ThermalHfpConfig} {s : Pipeline} {i : ℕ}
    {update : ThermalTemperatureUpdate} {post : List PipelineStep}
    (hc : (pipeline.state s post).service.Configured cfg) (hrange : update.InRange cfg i)
    (step : PipelineStep) (h : Fate s i update (fun _ => True) post) :
    Fate s i update (fun _ => True) (post ++ [step]) := by
  have hlast : pipeline.state s (post ++ [step]) = pipeline.next (pipeline.state s post) step := by
    simp
  cases h with
  | pending h =>
    rcases get?_next h step with hstays | htaken | ⟨kvp, newer, rfl, hkvp, hname⟩
    · exact .pending (hlast ▸ hstays)
    · exact .inHand (hlast ▸ htaken)
    · exact .replaced post kvp newer [] rfl h hkvp hname trivial
  | inHand h =>
    rcases inHand_next h step with hstays | ⟨env, rfl⟩
    · exact .inHand (hlast ▸ hstays)
    · exact .applied post env [] rfl h (hlast ▸ reading?_of_applied hc hrange h env)
  | applied before env after hpost hhand hreading =>
    exact .applied before env (after ++ [step]) (by simp [hpost]) hhand hreading
  | replaced before kvp newer after hpost hpending hkvp hname hnewer =>
    exact .replaced before kvp newer (after ++ [step]) (by simp [hpost]) hpending hkvp hname hnewer

/-- The update was queued by the message that ends `pre`. -/
theorem get?_of_message (s : Pipeline) {kvp : Option UtKvpInstance}
    {update : ThermalTemperatureUpdate} (hkvp : messageUpdate? kvp = some update) :
    (pipeline.next s (.pushMessage kvp)).pending.get? update.sensorName = some update := by
  rw [next_pushMessage, pushMessage_of_some hkvp]
  exact get?_insertOrAssign_self

/-- **A queued update is lost only to a later message under its name.** At every point after
an update in the range of its sensor was queued, it is pending, in the worker's hand,
applied so that its sensor reads as it says, or was replaced while pending by a message
under the same name that passed the checks of `pushMessage`. -/
theorem queued_update_fate {cfg : ThermalHfpConfig} (steadyClockMs : ℤ) (pre : List PipelineStep)
    {kvp : Option UtKvpInstance} {update : ThermalTemperatureUpdate} {i : ℕ}
    (hkvp : messageUpdate? kvp = some update) (hrange : update.InRange cfg i)
    (post : List PipelineStep) :
    Fate (pipeline.state (.start cfg steadyClockMs) (pre ++ [.pushMessage kvp])) i update
      (fun _ => True) post := by
  induction post using List.reverseRecOn with
  | nil =>
    apply Fate.pending
    rw [Machine.state_append]
    exact get?_of_message _ hkvp
  | append_singleton post step ih =>
    refine ih.concat ?_ hrange step
    rw [← Machine.state_append]
    exact (reachable_pipeline cfg steadyClockMs _).configured

/-- An update of the board's sensor. -/
def boardUpdate (temperatureCelsius : ℚ) (timestampMonotonicMs : ℕ) :
    ThermalTemperatureUpdate where
  sensorName := "board"
  temperatureCelsius
  timestampMonotonicMs
  sensorName_ne := by decide
  sensorName_trimmed := by decide +kernel
  timestamp_nonneg := Int.natCast_nonneg _

theorem queued_update_fate_board :
    Fate (pipeline.state (.start boardProfile 0) [.pushMessage (temperatureMessage "board" "50" "1")])
      0 (boardUpdate 50 1) (fun _ => True)
      [.getTemperatureUpdate, .handleControlPlaneUpdate (.quiet 0)] :=
  queued_update_fate 0 []
    (show messageUpdate? (temperatureMessage "board" "50" "1") = some (boardUpdate 50 1) by
      decide +kernel)
    (show acceptedSample? boardProfile _ = _ by decide +kernel) _

/-- A message at 500 °C replaces one at 50 °C that no worker has taken yet; it is out of the
sensor's range, so neither of them will be applied. -/
theorem not_queued_update_fate_board :
    ¬ ∀ cfg, Accepted cfg → ∀ steadyClockMs pre kvp update i, messageUpdate? kvp = some update →
      update.InRange cfg i → ∀ post,
        Fate (pipeline.state (.start cfg steadyClockMs) (pre ++ [.pushMessage kvp])) i update
          (ThermalTemperatureUpdate.InRange cfg i) post := by
  intro h
  have hfate := h boardProfile boardProfile_accepted 0 [] (temperatureMessage "board" "50" "1")
    (boardUpdate 50 1) 0 (by decide +kernel)
    (show acceptedSample? boardProfile _ = _ by decide +kernel)
    [.pushMessage (temperatureMessage "board" "500" "2")]
  cases hfate with
  | pending h =>
    revert h
    decide +kernel
  | inHand h =>
    revert h
    decide +kernel
  | applied before env after hpost hhand hreading =>
    rcases before with _ | ⟨first, before⟩ <;> simp at hpost
  | replaced before kvp newer after hpost hpending hkvp hname hnewer =>
    rcases before with _ | ⟨first, before⟩
    · obtain ⟨hstep, -⟩ := List.cons.inj hpost
      rw [← PipelineStep.pushMessage.inj hstep] at hkvp
      have hread : messageUpdate? (temperatureMessage "board" "500" "2") =
          some (boardUpdate 500 2) := by decide +kernel
      rw [hread, Option.some.injEq] at hkvp
      rw [← hkvp] at hnewer
      have hrejected : acceptedSample? boardProfile (boardUpdate 500 2).sample = none := by
        decide +kernel
      rw [ThermalTemperatureUpdate.InRange, hrejected] at hnewer
      cases hnewer
    · simp at hpost

end ThermalHal
