import ThermalHal.Acceptance

/-!
# What an entry leaves out

The header declares a default for every optional field of a sensor. A field that an entry
leaves out should keep it, and a field with a text should hold what the text converts to. The
numeric readers read into a text of their own and do not touch their output when there is
none. The text reader clears its output before it looks for the field, so a default that is
not the empty text is lost; the recovery strategy is the only field with such a default.

## Main definitions

* `OptionalField` — a field of an entry and the member it is stored in.
* `KeepsDefaults` — what is left out keeps its default, what is given is converted.
* `keepsDefaults_iff` — for which profiles the parser keeps to that.
-/

namespace ThermalHal

/-! ## Optional fields -/

/-- An optional field of a list entry, and the member of the sensor it is stored in. -/
structure OptionalField (α : Type) where
  name : String
  member : ThermalSensorConfig → α

/-- The default the header declares for the member. -/
def OptionalField.default {α : Type} (field : OptionalField α) : α := field.member {}

def optionalTexts : List (OptionalField String) :=
  [⟨"sensorName", fun c => c.sensorName⟩,
    ⟨"location", fun c => c.location⟩,
    ⟨"policy.recovery.strategy", fun c => c.policy.recovery.strategy⟩,
    ⟨"vendor.vendorInfo", fun c => c.vendor.vendorInfo⟩]

def optionalDoubles : List (OptionalField ℚ) :=
  [⟨"sensor_reading_range_celsius.min", fun c => c.sensorReadingRangeCelsius.min⟩,
    ⟨"sensor_reading_range_celsius.max", fun c => c.sensorReadingRangeCelsius.max⟩,
    ⟨"operational_temperature_celsius.min", fun c => c.operationalTemperatureCelsius.min⟩,
    ⟨"operational_temperature_celsius.max", fun c => c.operationalTemperatureCelsius.max⟩,
    ⟨"triggers.critical_temperature_recovered_celsius",
      fun c => c.triggers.criticalTemperatureRecoveredCelsius⟩,
    ⟨"triggers.critical_temperature_exceeded_celsius",
      fun c => c.triggers.criticalTemperatureExceededCelsius⟩,
    ⟨"triggers.entering_critical_shutdown_celsius",
      fun c => c.triggers.enteringCriticalShutdownCelsius⟩]

def optionalInt32s : List (OptionalField ℤ) :=
  [⟨"policy.shutdown_min_downtime_s", fun c => c.policy.shutdownMinDowntimeSeconds⟩,
    ⟨"policy.recovery.min_cooldown_seconds", fun c => c.policy.recovery.minCooldownSeconds⟩,
    ⟨"vendor.vendorCode", fun c => c.vendor.vendorCode⟩]

/-- A field that is absent has left the default in its member, and a field that is present
with a text has left what the text converts to. -/
structure OptionalField.Keeps {α : Type} (field : OptionalField α) (Converts : String → α → Prop)
    (fields : String → Option String) (index : ℕ) (c : ThermalSensorConfig) : Prop where
  absent : fields (entryKey index field.name) = none → field.member c = field.default
  present : ∀ text, fields (entryKey index field.name) = some text → text ≠ "" →
    Converts text (field.member c)

/-- Every optional field of one entry keeps its default or is converted. -/
structure EntryKeepsDefaults (fields : String → Option String) (index : ℕ)
    (c : ThermalSensorConfig) : Prop where
  texts : ∀ field ∈ optionalTexts, field.Keeps Eq fields index c
  doubles : ∀ field ∈ optionalDoubles, field.Keeps ConvertsToDouble fields index c
  int32s : ∀ field ∈ optionalInt32s, field.Keeps ConvertsToInt32 fields index c

/-- The sensors are those of the list, each with its defaults kept. -/
structure KeepsDefaults (fields : String → Option String) (count : ℕ)
    (sensors : List ThermalSensorConfig) : Prop where
  length : sensors.length = count
  entries : ∀ (index : ℕ) (c : ThermalSensorConfig), sensors[index]? = some c →
    EntryKeepsDefaults fields index c

/-- No entry leaves out its recovery strategy. -/
def GivesEveryStrategy (fields : String → Option String) (count : ℕ) : Prop :=
  ∀ index < count, fields (entryKey index "policy.recovery.strategy") ≠ none

/-! ## One field -/

section Field

variable {fields : String → Option String} {index : ℕ} {c : ThermalSensorConfig}

/-- A number that is left out is zero, and so is its default. -/
theorem OptionalField.keeps_of_declaresNumber {α : Type} [Zero α] {field : OptionalField α}
    {Converts : String → α → Prop} (hdefault : field.default = 0)
    (h : DeclaresNumber Converts (dropEmpty fields (entryKey index field.name))
      (field.member c)) : field.Keeps Converts fields index c := by
  constructor
  · intro habsent
    have hdrop : dropEmpty fields (entryKey index field.name) = none :=
      dropEmpty_of_empty (by simp [habsent])
    rw [hdrop] at h
    rw [hdefault]
    exact h
  · intro text htext hne
    rw [dropEmpty_eq_some.mpr ⟨htext, hne⟩] at h
    exact h

/-- A text that is left out is empty, whatever its default. -/
theorem OptionalField.keeps_iff_of_getD {field : OptionalField String}
    (h : field.member c = (fields (entryKey index field.name)).getD "") :
    field.Keeps Eq fields index c ↔
      (fields (entryKey index field.name) = none → field.default = "") := by
  constructor
  · intro hkeeps habsent
    rw [← hkeeps.absent habsent, h, habsent]
    rfl
  · intro hdefault
    constructor
    · intro habsent
      rw [hdefault habsent, h, habsent]
      rfl
    · intro text htext _
      rw [h, htext]
      rfl

end Field

/-! ## One entry -/

section Entry

variable {fields : String → Option String} {index : ℕ} {c : ThermalSensorConfig}

theorem DeclaresSensor.texts (h : DeclaresSensor fields index c) :
    ∀ field ∈ optionalTexts, field.member c = (fields (entryKey index field.name)).getD "" := by
  simp only [optionalTexts, List.forall_mem_cons, ← h.sensorName, ← h.location, ← h.strategy,
    ← h.vendorInfo]
  simp

theorem DeclaresSensor.doubles (h : DeclaresSensor fields index c) :
    ∀ field ∈ optionalDoubles,
      DeclaresNumber ConvertsToDouble (fields (entryKey index field.name)) (field.member c) := by
  simp only [optionalDoubles, List.forall_mem_cons]
  exact ⟨h.measurableMin, h.measurableMax, h.operationalMin, h.operationalMax, h.recovered,
    h.exceeded, h.shutdown, by simp⟩

theorem DeclaresSensor.int32s (h : DeclaresSensor fields index c) :
    ∀ field ∈ optionalInt32s,
      DeclaresNumber ConvertsToInt32 (fields (entryKey index field.name)) (field.member c) := by
  simp only [optionalInt32s, List.forall_mem_cons]
  exact ⟨h.downtime, h.cooldown, h.vendorCode, by simp⟩

/-- The strategy is the one optional text whose default is not empty. -/
theorem default_of_optionalTexts :
    ∀ field ∈ optionalTexts, field.default = "" ∨ field.name = "policy.recovery.strategy" := by
  decide

theorem default_of_optionalDoubles : ∀ field ∈ optionalDoubles, field.default = 0 := by
  decide

theorem default_of_optionalInt32s : ∀ field ∈ optionalInt32s, field.default = 0 := by
  decide

/-- **An entry keeps its defaults exactly when** it gives a recovery strategy. -/
theorem entryKeepsDefaults_iff (h : DeclaresSensor (dropEmpty fields) index c) :
    EntryKeepsDefaults fields index c ↔
      fields (entryKey index "policy.recovery.strategy") ≠ none := by
  have htexts : ∀ field ∈ optionalTexts,
      field.member c = (fields (entryKey index field.name)).getD "" := by
    intro field hfield
    rw [h.texts field hfield, getD_dropEmpty]
  constructor
  · intro hkeeps habsent
    let strategy : OptionalField String :=
      ⟨"policy.recovery.strategy", fun c => c.policy.recovery.strategy⟩
    have hmem : strategy ∈ optionalTexts := by simp [strategy, optionalTexts]
    have hdefault : strategy.default = "" :=
      (OptionalField.keeps_iff_of_getD (htexts _ hmem)).mp (hkeeps.texts _ hmem) habsent
    simp [strategy, OptionalField.default] at hdefault
  · intro hgiven
    constructor
    · intro field hfield
      rw [OptionalField.keeps_iff_of_getD (htexts field hfield)]
      intro habsent
      refine (default_of_optionalTexts field hfield).resolve_right fun hname => ?_
      rw [hname] at habsent
      exact hgiven habsent
    · intro field hfield
      exact OptionalField.keeps_of_declaresNumber (default_of_optionalDoubles field hfield)
        (h.doubles field hfield)
    · intro field hfield
      exact OptionalField.keeps_of_declaresNumber (default_of_optionalInt32s field hfield)
        (h.int32s field hfield)

end Entry

/-! ## A profile -/

/-- **The parser keeps the defaults of an accepted profile exactly when** no entry leaves out
its recovery strategy. -/
theorem keepsDefaults_iff {fields : String → Option String} {count : ℕ} {lib : UtKvp}
    {path : String} {kvp : UtKvpInstance} (hopen : lib.openProfile path = some kvp)
    (h : kvp.Represents fields count)
    (haccepted : (vcomponentThermalParseConfig lib (some path)).accepted = true) :
    KeepsDefaults fields count
        (vcomponentThermalParseConfig lib (some path)).thermalConfiguration.sensors ↔
      GivesEveryStrategy fields count := by
  have hpath : path ≠ "" := by
    intro hempty
    simp [vcomponentThermalParseConfig, hempty, ParseResult.reject] at haccepted
  rcases parseConfig_cases hpath hopen h with
    ⟨sensors, hresult, -, -, hd⟩ | ⟨message, hresult, -, -⟩
  · rw [hresult]
    constructor
    · intro hkeeps index hindex
      rw [← hd.length] at hindex
      have hc : sensors[index]? = some sensors[index] := List.getElem?_eq_getElem hindex
      exact (entryKeepsDefaults_iff (hd.entries index _ hc)).mp (hkeeps.entries index _ hc)
    · intro hgiven
      refine ⟨hd.length, fun index c hc => ?_⟩
      have hindex : index < count := by
        rw [← hd.length]
        exact (List.getElem?_eq_some_iff.mp hc).1
      exact (entryKeepsDefaults_iff (hd.entries index c hc)).mpr (hgiven index hindex)
  · rw [hresult] at haccepted
    simp [ParseResult.reject] at haccepted

instance (fields : String → Option String) (count : ℕ) :
    Decidable (GivesEveryStrategy fields count) :=
  inferInstanceAs (Decidable (∀ index < count,
    fields (entryKey index "policy.recovery.strategy") ≠ none))

/-- The ambient sensor with a recovery strategy; location, policy durations and vendor data
are left out. -/
def strategyEntry : List (String × String) :=
  boardEntry ++ [("policy.recovery.strategy", "MANUAL")]

theorem keepsDefaults_strategy :
    KeepsDefaults ((profileFields strategyEntry).lookup ·) 1
      (vcomponentThermalParseConfig ⟨fun _ => some (.ofFields (profileFields strategyEntry) 1)⟩
        (some "hfp.yaml")).thermalConfiguration.sensors :=
  (keepsDefaults_iff rfl (represents_ofFields _ 1) (by decide +kernel)).mpr (by decide +kernel)

/-- The ambient sensor leaves its strategy out and ends with the empty one. -/
theorem not_keepsDefaults_board :
    ¬ ∀ fields count lib path kvp, UtKvp.openProfile lib path = some kvp →
      kvp.Represents fields count →
      (vcomponentThermalParseConfig lib (some path)).accepted = true →
      KeepsDefaults fields count
        (vcomponentThermalParseConfig lib (some path)).thermalConfiguration.sensors := by
  intro h
  have hkeeps := h _ 1 ⟨fun _ => some (.ofFields (profileFields boardEntry) 1)⟩ "hfp.yaml" _ rfl
    (represents_ofFields (profileFields boardEntry) 1) (by decide +kernel)
  have hboard := (hkeeps.entries 0 boardSensor (by decide +kernel)).texts
    ⟨"policy.recovery.strategy", fun c => c.policy.recovery.strategy⟩ (by simp [optionalTexts])
  have hdefault : "" = "TIME_BASED" := hboard.absent (by decide +kernel)
  exact absurd hdefault (by decide)

end ThermalHal
