import ThermalHal.ParseConfig

/-!
# What the parser accepts

`ThermalHfpConfig.Valid` collects what every accepted profile satisfies: each
sensor passes the range, trigger and duration checks, ids are pairwise distinct
and so are non-empty names. Ids and names are compared among themselves only; the
parser never compares an id with a name.

## Main definitions

* `ThermalSensorConfig.Valid`, `ThermalHfpConfig.Valid` — the checked properties.
* `Accepted` — some file and some library behaviour make the parser return it.
* `Accepted.valid` — acceptance gives validity.
-/

namespace ThermalHal

/-- The checks the parser makes on one sensor alone. -/
structure ThermalSensorConfig.Valid (c : ThermalSensorConfig) : Prop where
  id_ne : c.id ≠ ""
  measurable_le : c.sensorReadingRangeCelsius.min ≤ c.sensorReadingRangeCelsius.max
  operational_le : c.operationalTemperatureCelsius.min ≤ c.operationalTemperatureCelsius.max
  measurable_min_le : c.sensorReadingRangeCelsius.min ≤ c.operationalTemperatureCelsius.min
  le_measurable_max : c.operationalTemperatureCelsius.max ≤ c.sensorReadingRangeCelsius.max
  recovered_lt : c.triggers.criticalTemperatureRecoveredCelsius <
    c.triggers.criticalTemperatureExceededCelsius
  exceeded_lt : c.triggers.criticalTemperatureExceededCelsius <
    c.triggers.enteringCriticalShutdownCelsius
  min_le_recovered : c.sensorReadingRangeCelsius.min ≤
    c.triggers.criticalTemperatureRecoveredCelsius
  shutdown_le_max : c.triggers.enteringCriticalShutdownCelsius ≤ c.sensorReadingRangeCelsius.max
  downtime_nonneg : 0 ≤ c.policy.shutdownMinDowntimeSeconds
  cooldown_nonneg : 0 ≤ c.policy.recovery.minCooldownSeconds

/-- The checks the parser makes on a whole profile. -/
structure ThermalHfpConfig.Valid (cfg : ThermalHfpConfig) : Prop where
  sensors : ∀ c ∈ cfg.sensors, c.Valid
  ids : cfg.sensors.Pairwise fun a b => a.id ≠ b.id
  names : cfg.sensors.Pairwise fun a b => a.sensorName ≠ "" → a.sensorName ≠ b.sensorName

/-- The profile is the output of a successful parse. -/
def Accepted (cfg : ThermalHfpConfig) : Prop :=
  ∃ lib configurationFile,
    (vcomponentThermalParseConfig lib configurationFile).accepted = true ∧
      (vcomponentThermalParseConfig lib configurationFile).thermalConfiguration = cfg

theorem Accepted.of_parse (lib : UtKvp) (path : String) {cfg : ThermalHfpConfig}
    (h : vcomponentThermalParseConfig lib (some path) = ⟨true, cfg, ""⟩) : Accepted cfg :=
  ⟨lib, some path, by rw [h], by rw [h]⟩

/-! ## From the checks to validity -/

/-- A check that rejects is passed exactly when its condition is false. -/
theorem ite_error_eq_ok {ε α : Type} {p : Prop} [Decidable p] {e : ε} {x : Except ε α} {a : α} :
    (if p then .error e else x) = .ok a ↔ ¬ p ∧ x = .ok a := by
  by_cases hp : p <;> simp [hp]

/-- A sequence succeeds exactly when both of its parts do. -/
theorem bind_eq_ok {ε α β : Type} {x : Except ε α} {f : α → Except ε β} {b : β} :
    (x >>= f) = .ok b ↔ ∃ a, x = .ok a ∧ f a = .ok b := by
  cases x <;> simp [bind, Except.bind]

/-- **One sensor passes exactly when** it is valid, its id is new and its name is
empty or new; the two lists then grow by its id and its name. -/
theorem validateSensorConfiguration_eq_ok {c : ThermalSensorConfig} {index : ℕ}
    {ids names : List String} {seen : List String × List String} :
    validateSensorConfiguration c index ids names = .ok seen ↔
      c.Valid ∧ c.id ∉ ids ∧ (c.sensorName ≠ "" → c.sensorName ∉ names) ∧
        seen = (c.id :: ids, if c.sensorName = "" then names else c.sensorName :: names) := by
  simp only [validateSensorConfiguration, ite_error_eq_ok, Except.ok.injEq]
  constructor
  · intro h
    obtain ⟨hid, hids, hnames, hm, ho, hc, ht, hb, hd, hseen⟩ := h
    rw [not_or, not_lt, not_lt] at hc hb hd
    exact ⟨⟨hid, not_lt.mp hm, not_lt.mp ho, hc.1, hc.2, (not_not.mp ht).1, (not_not.mp ht).2,
      hb.1, hb.2, hd.1, hd.2⟩, hids, fun hne hmem => hnames ⟨hne, hmem⟩, hseen.symm⟩
  · intro h
    obtain ⟨hv, hids, hnames, hseen⟩ := h
    have hm := not_lt.mpr hv.measurable_le
    have ho := not_lt.mpr hv.operational_le
    refine ⟨hv.id_ne, hids, fun h => hnames h.1 h.2, hm, ho, ?_, ?_, ?_, ?_, hseen.symm⟩
    · rw [not_or, not_lt, not_lt]
      exact ⟨hv.measurable_min_le, hv.le_measurable_max⟩
    · exact not_not.mpr ⟨hv.recovered_lt, hv.exceeded_lt⟩
    · rw [not_or, not_lt, not_lt]
      exact ⟨hv.min_le_recovered, hv.shutdown_le_max⟩
    · rw [not_or, not_lt, not_lt]
      exact ⟨hv.downtime_nonneg, hv.cooldown_nonneg⟩

/-- One round of the list loop. -/
theorem parseSensors_succ_eq_ok {kvp : UtKvpInstance} {remaining index : ℕ}
    {ids names : List String} {sensors : List ThermalSensorConfig} :
    parseSensors kvp (remaining + 1) index ids names = .ok sensors ↔
      ∃ c seen rest, vcomponentThermalGetSensorInfo kvp index = .ok c ∧
        validateSensorConfiguration c index ids names = .ok seen ∧
        parseSensors kvp remaining (index + 1) seen.1 seen.2 = .ok rest ∧ c :: rest = sensors := by
  simp only [parseSensors, bind_eq_ok, pure, Except.pure, Except.ok.injEq]
  constructor
  · rintro ⟨c, hc, seen, hs, rest, hr, heq⟩
    exact ⟨c, seen, rest, hc, hs, hr, heq⟩
  · rintro ⟨c, seen, rest, hc, hs, hr, heq⟩
    exact ⟨c, hc, seen, hs, rest, hr, heq⟩

/-- The sensors are valid together and repeat no id and no name of the two lists. -/
structure ValidAfter (ids names : List String) (sensors : List ThermalSensorConfig) : Prop where
  valid : ThermalHfpConfig.Valid { sensors }
  ids : ∀ c ∈ sensors, c.id ∉ ids
  names : ∀ c ∈ sensors, c.sensorName ≠ "" → c.sensorName ∉ names

theorem validAfter_nil (ids names : List String) : ValidAfter ids names [] :=
  ⟨⟨by simp, .nil, .nil⟩, by simp, by simp⟩

/-- A name that is not empty is among those seen after a sensor. -/
theorem mem_seenNames {c : ThermalSensorConfig} {names : List String} {name : String}
    (hne : name ≠ "") :
    name ∈ (if c.sensorName = "" then names else c.sensorName :: names) ↔
      name = c.sensorName ∨ name ∈ names := by
  by_cases hc : c.sensorName = ""
  · simp [hc, hne]
  · simp [hc]

/-- **One sensor after the other**: the first is checked against the lists, the others against
the lists extended by it. -/
theorem validAfter_cons_iff {ids names : List String} {c : ThermalSensorConfig}
    {rest : List ThermalSensorConfig} :
    ValidAfter ids names (c :: rest) ↔
      (c.Valid ∧ c.id ∉ ids ∧ (c.sensorName ≠ "" → c.sensorName ∉ names)) ∧
        ValidAfter (c.id :: ids) (if c.sensorName = "" then names else c.sensorName :: names)
          rest := by
  constructor
  · intro h
    obtain ⟨hids, hidPairs⟩ := List.pairwise_cons.mp h.valid.ids
    obtain ⟨hnames, hnamePairs⟩ := List.pairwise_cons.mp h.valid.names
    have htail : ∀ d ∈ rest, d ∈ c :: rest := fun d hd => List.mem_cons_of_mem c hd
    refine ⟨⟨h.valid.sensors c List.mem_cons_self, h.ids c List.mem_cons_self,
      h.names c List.mem_cons_self⟩,
      ⟨fun d hd => h.valid.sensors d (htail d hd), hidPairs, hnamePairs⟩, ?_, ?_⟩
    · intro d hd hmem
      rcases List.mem_cons.mp hmem with heq | hold
      · exact hids d hd heq.symm
      · exact h.ids d (htail d hd) hold
    · intro d hd hne hmem
      rcases (mem_seenNames hne).mp hmem with heq | hold
      · exact hnames d hd (heq ▸ hne) heq.symm
      · exact h.names d (htail d hd) hne hold
  · rintro ⟨⟨hv, hid, hname⟩, h⟩
    refine ⟨⟨?_, ?_, ?_⟩, ?_, ?_⟩
    · exact List.forall_mem_cons.mpr ⟨hv, h.valid.sensors⟩
    · refine List.pairwise_cons.mpr ⟨fun d hd heq => ?_, h.valid.ids⟩
      exact h.ids d hd (by simp [heq])
    · refine List.pairwise_cons.mpr ⟨fun d hd hne heq => ?_, h.valid.names⟩
      exact h.names d hd (heq ▸ hne) ((mem_seenNames (heq ▸ hne)).mpr (Or.inl heq.symm))
    · refine List.forall_mem_cons.mpr ⟨hid, fun d hd hmem => ?_⟩
      exact h.ids d hd (List.mem_cons_of_mem c.id hmem)
    · refine List.forall_mem_cons.mpr ⟨hname, fun d hd hne hmem => ?_⟩
      exact h.names d hd hne ((mem_seenNames hne).mpr (Or.inr hmem))

/-- What the loop has checked when it returns. -/
theorem parseSensors_ok {kvp : UtKvpInstance} {remaining index : ℕ} {ids names : List String}
    {sensors : List ThermalSensorConfig}
    (h : parseSensors kvp remaining index ids names = .ok sensors) :
    ValidAfter ids names sensors := by
  induction remaining generalizing index ids names sensors with
  | zero =>
    rw [← Except.ok.inj h]
    exact validAfter_nil ids names
  | succ remaining ih =>
    obtain ⟨c, seen, rest, -, hs, hr, rfl⟩ := parseSensors_succ_eq_ok.mp h
    obtain ⟨hv, hid, hname, rfl⟩ := validateSensorConfiguration_eq_ok.mp hs
    exact validAfter_cons_iff.mpr ⟨⟨hv, hid, hname⟩, ih hr⟩

/-- What is accepted comes out of the loop over the list of an opened profile. -/
theorem exists_parseSensors_of_accepted {lib : UtKvp} {configurationFile : Option String}
    (haccepted : (vcomponentThermalParseConfig lib configurationFile).accepted = true) :
    ∃ path kvp, lib.openProfile path = some kvp ∧
      parseSensors kvp (kvp.getListCount thermalList) 0 [] [] =
        .ok (vcomponentThermalParseConfig lib configurationFile).thermalConfiguration.sensors := by
  unfold vcomponentThermalParseConfig at haccepted ⊢
  split at haccepted <;> try contradiction
  next path =>
    split_ifs at haccepted ⊢ with hempty <;> try contradiction
    split at haccepted <;> try contradiction
    next kvp hopen =>
      split_ifs at haccepted ⊢ with hpresent <;> try contradiction
      split at haccepted <;> try contradiction
      next hparse => exact ⟨path, kvp, hopen, by simp [hparse]⟩

/-- **Acceptance gives validity.** -/
theorem Accepted.valid {cfg : ThermalHfpConfig} (h : Accepted cfg) : cfg.Valid := by
  obtain ⟨lib, configurationFile, haccepted, rfl⟩ := h
  obtain ⟨_, _, -, hparse⟩ := exists_parseSensors_of_accepted haccepted
  exact (parseSensors_ok hparse).valid

/-! ## Two sensors of one profile -/

namespace ThermalHfpConfig.Valid

variable {cfg : ThermalHfpConfig}

theorem getElem (h : cfg.Valid) {i : ℕ} (hi : i < cfg.sensors.length) : cfg.sensors[i].Valid :=
  h.sensors _ (List.getElem_mem hi)

/-- Sensors at different positions have different ids. -/
theorem id_injective (h : cfg.Valid) {i j : ℕ} (hi : i < cfg.sensors.length)
    (hj : j < cfg.sensors.length) (heq : cfg.sensors[i].id = cfg.sensors[j].id) : i = j := by
  rcases lt_trichotomy i j with hlt | heq' | hlt
  · exact absurd heq (List.pairwise_iff_getElem.mp h.ids i j hi hj hlt)
  · exact heq'
  · exact absurd heq.symm (List.pairwise_iff_getElem.mp h.ids j i hj hi hlt)

/-- Sensors at different positions have different names, unless both have none. -/
theorem sensorName_injective (h : cfg.Valid) {i j : ℕ} (hi : i < cfg.sensors.length)
    (hj : j < cfg.sensors.length) (hne : cfg.sensors[i].sensorName ≠ "")
    (heq : cfg.sensors[i].sensorName = cfg.sensors[j].sensorName) : i = j := by
  rcases lt_trichotomy i j with hlt | heq' | hlt
  · exact absurd heq (List.pairwise_iff_getElem.mp h.names i j hi hj hlt hne)
  · exact heq'
  · exact absurd heq.symm (List.pairwise_iff_getElem.mp h.names j i hj hi hlt (heq ▸ hne))

end ThermalHfpConfig.Valid

/-! ## Concrete profiles -/

/-- A library that opens every path as the finite map of a profile whose list entries
have the given fields. -/
def UtKvp.ofEntries (entries : List (List (String × String))) : UtKvp where
  openProfile _ :=
    let fields := entries.zipIdx.flatMap fun (entry, index) =>
      entry.map fun (name, text) => (thermalList ++ "." ++ toString index ++ "." ++ name, text)
    some (.ofFields ((thermalRoot, "") :: (thermalList, "") :: fields) entries.length)

/-- The fields of an ambient sensor, everything optional that no check needs left out. -/
def boardEntry : List (String × String) :=
  [("id", "board"), ("sensorName", "Mainboard Ambient"),
    ("sensor_reading_range_celsius.min", "-20"), ("sensor_reading_range_celsius.max", "80"),
    ("operational_temperature_celsius.min", "0"), ("operational_temperature_celsius.max", "65"),
    ("triggers.critical_temperature_recovered_celsius", "60"),
    ("triggers.critical_temperature_exceeded_celsius", "70"),
    ("triggers.entering_critical_shutdown_celsius", "72")]

/-- What `boardEntry` is read as. -/
def boardSensor : ThermalSensorConfig where
  id := "board"
  sensorName := "Mainboard Ambient"
  sensorReadingRangeCelsius := ⟨-20, 80⟩
  operationalTemperatureCelsius := ⟨0, 65⟩
  triggers := ⟨60, 70, 72⟩
  policy := { recovery := { strategy := "" } }

def boardProfile : ThermalHfpConfig := { sensors := [boardSensor] }

theorem boardProfile_accepted : Accepted boardProfile :=
  Accepted.of_parse (.ofEntries [boardEntry]) "hfp.yaml" (by decide +kernel)

/-- The profile the repository ships, both entries with all their fields. -/
example : Accepted
    { sensors :=
        [{ id := "soc_die", sensorName := "SoC Die", location := "CPU"
           sensorReadingRangeCelsius := ⟨-40, 125⟩
           operationalTemperatureCelsius := ⟨-20, 95⟩
           triggers := ⟨90, 98, 115⟩
           policy := ⟨900, ⟨"TIME_BASED", 240⟩⟩
           vendor := ⟨1001, "Primary die sensor used for critical trip points."⟩ },
         { boardSensor with
           location := "Board"
           policy := ⟨600, ⟨"TIME_BASED", 180⟩⟩
           vendor := ⟨1002, "Used for general system thermal monitoring."⟩ }] } :=
  Accepted.of_parse (.ofEntries
    [[("id", "soc_die"), ("sensorName", "SoC Die"), ("location", "CPU"),
      ("sensor_reading_range_celsius.min", "-40"), ("sensor_reading_range_celsius.max", "125"),
      ("operational_temperature_celsius.min", "-20"),
      ("operational_temperature_celsius.max", "95"),
      ("triggers.critical_temperature_recovered_celsius", "90"),
      ("triggers.critical_temperature_exceeded_celsius", "98"),
      ("triggers.entering_critical_shutdown_celsius", "115"),
      ("policy.shutdown_min_downtime_s", "900"), ("policy.recovery.strategy", "TIME_BASED"),
      ("policy.recovery.min_cooldown_seconds", "240"), ("vendor.vendorCode", "1001"),
      ("vendor.vendorInfo", "Primary die sensor used for critical trip points.")],
     boardEntry ++
     [("location", "Board"),
      ("policy.shutdown_min_downtime_s", "600"), ("policy.recovery.strategy", "TIME_BASED"),
      ("policy.recovery.min_cooldown_seconds", "180"), ("vendor.vendorCode", "1002"),
      ("vendor.vendorInfo", "Used for general system thermal monitoring.")]])
    "vcomponent_configurations/hfp-sensor-thermal.yaml" (by decide +kernel)

end ThermalHal
