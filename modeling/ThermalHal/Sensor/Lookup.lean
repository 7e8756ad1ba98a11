import ThermalHal.Sensor.Invariant

/-!
# Which sensor a key reaches

A sensor answers to its id and to its name, and its readings report one of the two.
The lookup takes the first sensor that answers. The parser compares ids with ids and
names with names, so one sensor may carry the id of another as its name; then one of
the two answers for both. `reachesOwnSensor_iff` says that this is the only way a key
can go astray.

## Main definitions

* `ThermalSensor.HasKey` — the keys a client may use for a sensor.
* `ReachesOwnSensor` — a sample under a sensor's key updates that sensor alone.
* `NamesAvoidIds` — no sensor is named like another one's id.
-/

namespace ThermalHal

open Lib

/-- The keys of a sensor: its id, its name when there is one, and the name its reading
reports. -/
inductive ThermalSensor.HasKey (s : ThermalSensor) (i : ℕ) (config : ThermalSensorConfig) :
    String → Prop
  | id : HasKey s i config config.id
  | sensorName (hne : config.sensorName ≠ "") : HasKey s i config config.sensorName
  | reported (reading : TemperatureReading)
      (hreading : (getCurrentTemperatures s)[i]? = some reading) :
      HasKey s i config reading.sensorName

/-- In every reachable state, an in-range sample under a key of a sensor replaces the
reading and the state of that sensor and of no other. -/
def ReachesOwnSensor (cfg : ThermalHfpConfig) : Prop :=
  ∀ s : ThermalSensor, s.Reachable cfg → ∀ i config, cfg.sensors[i]? = some config →
    ∀ key, s.HasKey i config key → ∀ t : ℚ, config.sensorReadingRangeCelsius.min ≤ t →
      t ≤ config.sensorReadingRangeCelsius.max → ∀ timestampMs env,
        let s' := (applyTemperatureSample env ⟨key, .finite t, timestampMs⟩ s).1
        s'.sensors[i]? = s.sensors[i]?.map (fun it =>
            it.sampled t (effectiveTimestampMs env.steadyClockMs timestampMs)) ∧
          ∀ j, j ≠ i → s'.sensors[j]? = s.sensors[j]?

/-- No sensor carries the id of another one as its name. -/
def NamesAvoidIds (cfg : ThermalHfpConfig) : Prop :=
  ∀ i j (hi : i < cfg.sensors.length) (hj : j < cfg.sensors.length), i ≠ j →
    cfg.sensors[i].sensorName ≠ cfg.sensors[j].id

/-! ## Keys -/

section Keys

variable {cfg : ThermalHfpConfig} {s : ThermalSensor} {i : ℕ} {config : ThermalSensorConfig}

/-- A reading reports the name of its sensor, or its id when it has no name. -/
theorem ThermalSensor.Reachable.reported_name (hs : s.Reachable cfg) :
    ∀ it ∈ s.sensors, it.reading.sensorName =
      if it.config.sensorName = "" then it.config.id else it.config.sensorName :=
  hs.forall_records (fun _ _ _ => rfl) (fun _ _ _ _ _ _ => rfl)

/-- What a reading reports is one of the other two keys. -/
theorem ThermalSensor.HasKey.eq_id_or_name (hs : s.Reachable cfg)
    (hconfig : cfg.sensors[i]? = some config) {key : String} (hkey : s.HasKey i config key) :
    key = config.id ∨ config.sensorName ≠ "" ∧ key = config.sensorName := by
  cases hkey with
  | id => exact Or.inl rfl
  | sensorName hne => exact Or.inr ⟨hne, rfl⟩
  | reported reading hreading =>
    rw [getCurrentTemperatures, List.getElem?_map, Option.map_eq_some_iff] at hreading
    obtain ⟨it, hit, rfl⟩ := hreading
    have hown : it.config = config := by
      rw [hs.configured.config_eq hit, Option.some.injEq] at hconfig
      exact hconfig
    rw [hs.reported_name it (List.mem_of_getElem? hit), hown]
    by_cases hne : config.sensorName = ""
    · rw [if_pos hne]
      exact Or.inl rfl
    · rw [if_neg hne]
      exact Or.inr ⟨hne, rfl⟩

/-- A key that no earlier sensor answers to resolves to its own sensor. -/
theorem resolve_of_namesAvoidIds (hcfg : cfg.Valid) (havoid : NamesAvoidIds cfg)
    (hi : i < cfg.sensors.length) {key : String}
    (hkey : key = cfg.sensors[i].id ∨
      cfg.sensors[i].sensorName ≠ "" ∧ key = cfg.sensors[i].sensorName) :
    resolve cfg key = some i := by
  rw [resolve_eq_some_iff]
  refine ⟨hi, ?_, ?_⟩
  · rw [matchesKey_iff]
    exact hkey.elim (fun h => Or.inr h.symm) (fun h => Or.inl h.2.symm)
  · intro j hj
    have hjlt : j < cfg.sensors.length := hj.trans hi
    rw [matchesKey_iff, not_or]
    rcases hkey with rfl | ⟨hne, rfl⟩
    · exact ⟨havoid j i hjlt hi hj.ne, fun h => hj.ne (hcfg.id_injective hjlt hi h)⟩
    · exact ⟨fun h => hj.ne' (hcfg.sensorName_injective hi hjlt hne h.symm),
        fun h => havoid i j hi hjlt hj.ne' h.symm⟩

end Keys

/-! ## The updated sensor -/

section Update

variable {cfg : ThermalHfpConfig}

theorem reachesOwnSensor_of_namesAvoidIds (hcfg : cfg.Valid) (havoid : NamesAvoidIds cfg) :
    ReachesOwnSensor cfg := by
  intro s hs i config hconfig key hkey t hmin hmax timestampMs env
  have hc := hs.configured
  have hi : i < cfg.sensors.length := (List.getElem?_eq_some_iff.mp hconfig).1
  have hkeys := hkey.eq_id_or_name hs hconfig
  rw [List.getElem?_eq_getElem hi, Option.some.injEq] at hconfig
  rw [← hconfig] at hkeys hmin hmax
  have hacc : acceptedSample? cfg ⟨key, .finite t, timestampMs⟩ = some (i, t) :=
    acceptedSample?_eq_some.mpr ⟨resolve_of_namesAvoidIds hcfg havoid hi hkeys, rfl,
      cfg.sensors[i], List.getElem?_eq_getElem hi, hmin, hmax⟩
  have hr : (Request.sample ⟨key, .finite t, timestampMs⟩ env).accepted? cfg = some (i, t, _) :=
    Request.accepted?_sample_eq_some.mpr ⟨hacc, rfl⟩
  obtain ⟨it, hit⟩ := exists_of_accepted hc hr
  constructor
  · rw [hit]
    exact next_getElem? hc hr hit
  · intro j hj
    refine next_getElem?_ne (r := .sample _ env) hc ?_
    intro t' ts' heq
    rw [hr, Option.some.injEq, Prod.mk.injEq] at heq
    exact hj heq.1.symm

/-- A key of a sensor that an earlier sensor answers to does not reach its own sensor. -/
theorem not_reachesOwnSensor (hcfg : cfg.Valid) {i j : ℕ} (hi : i < cfg.sensors.length)
    (hj : j < i) {key : String} (hown : ∀ s, ThermalSensor.HasKey s i cfg.sensors[i] key)
    (hother : cfg.sensors[j].matchesKey key = true) : ¬ ReachesOwnSensor cfg := by
  intro h
  have hrange := (hcfg.getElem hi).measurable_le
  have hs : (initializeSensors cfg 0).Reachable cfg := ⟨0, Machine.reachable_refl _ _⟩
  have hmoved := (h _ hs i _ (List.getElem?_eq_getElem hi) key (hown _) _ le_rfl hrange 1
    (.quiet 0)).1
  have hkept : (service.next (initializeSensors cfg 0) (.sample
      ⟨key, .finite cfg.sensors[i].sensorReadingRangeCelsius.min, 1⟩ (.quiet 0))).sensors[i]? =
        (initializeSensors cfg 0).sensors[i]? := by
    apply next_getElem?_ne hs.configured
    intro t ts heq
    have hresolve := (acceptedSample?_eq_some.mp (Request.accepted?_sample_eq_some.mp heq).1).1
    obtain ⟨_, _, hfirst⟩ := resolve_eq_some_iff.mp hresolve
    exact hfirst j hj hother
  have hit : (initializeSensors cfg 0).sensors[i]? = some (initialRuntime 0 cfg.sensors[i]) := by
    simp [initializeSensors, hi]
  -- the sample carries a timestamp the start-up reading does not have
  have heq := hkept.symm.trans hmoved
  rw [hit, Option.map_some, Option.some.injEq] at heq
  have hts : (0 : ℤ) = 1 := congrArg (fun it => it.reading.timestampMonotonicMs) heq
  exact absurd hts (by decide)

/-- A sensor named like another one's id: whichever comes first answers for both. -/
theorem not_reachesOwnSensor_of_name_eq_id (hcfg : cfg.Valid) {i j : ℕ}
    (hi : i < cfg.sensors.length) (hj : j < cfg.sensors.length) (hij : i ≠ j)
    (heq : cfg.sensors[i].sensorName = cfg.sensors[j].id) : ¬ ReachesOwnSensor cfg := by
  rcases lt_or_gt_of_ne hij with hlt | hgt
  · exact not_reachesOwnSensor hcfg hj hlt (fun _ => .id) (matchesKey_iff.mpr (Or.inl heq))
  · have hne : cfg.sensors[i].sensorName ≠ "" := by
      rw [heq]
      exact (hcfg.getElem hj).id_ne
    exact not_reachesOwnSensor hcfg hi hgt (fun _ => .sensorName hne)
      (matchesKey_iff.mpr (Or.inr heq.symm))

end Update

/-- **Every key reaches its own sensor exactly when names avoid ids.** -/
theorem reachesOwnSensor_iff {cfg : ThermalHfpConfig} (hcfg : Accepted cfg) :
    ReachesOwnSensor cfg ↔ NamesAvoidIds cfg := by
  constructor
  · intro h i j hi hj hij heq
    exact not_reachesOwnSensor_of_name_eq_id hcfg.valid hi hj hij heq h
  · exact reachesOwnSensor_of_namesAvoidIds hcfg.valid

/-- The board beside a second sensor of its own id and name. -/
def socAndBoardProfile : ThermalHfpConfig :=
  { sensors := [{ boardSensor with id := "soc_die", sensorName := "SoC Die" }, boardSensor] }

theorem socAndBoardProfile_accepted : Accepted socAndBoardProfile :=
  Accepted.of_parse (.ofEntries
    [("id", "soc_die") :: ("sensorName", "SoC Die") :: boardEntry.drop 2, boardEntry])
    "hfp.yaml" (by decide +kernel)

theorem reachesOwnSensor_iff_socAndBoard :
    ReachesOwnSensor socAndBoardProfile ↔ NamesAvoidIds socAndBoardProfile :=
  reachesOwnSensor_iff socAndBoardProfile_accepted

/-- Two sensors, the first named like the id of the second. -/
def homonymProfile : ThermalHfpConfig :=
  { sensors := [{ boardSensor with sensorName := "soc" }, { boardSensor with id := "soc" }] }

theorem homonymProfile_accepted : Accepted homonymProfile :=
  Accepted.of_parse (.ofEntries
    [("id", "board") :: ("sensorName", "soc") :: boardEntry.drop 2,
      ("id", "soc") :: boardEntry.drop 1])
    "hfp.yaml" (by decide +kernel)

/-- The parser accepts a profile in which the first sensor answers to the id of the second. -/
theorem not_reachesOwnSensor_homonym : ¬ ∀ cfg, Accepted cfg → ReachesOwnSensor cfg := by
  intro h
  exact not_reachesOwnSensor_of_name_eq_id homonymProfile_accepted.valid (i := 0) (j := 1)
    (by decide) (by decide) (by decide) rfl (h _ homonymProfile_accepted)

end ThermalHal
