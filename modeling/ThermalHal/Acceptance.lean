import ThermalHal.Profile

/-!
# Which profiles the parser accepts

A profile is a map from keys to texts together with the number of its list entries.
`DeclaresProfile` says what a valid one declares, without the parser: the entries that are
read, the texts that convert, and the checks of `ThermalHfpConfig.Valid`. The header promises
that a field that is present and cannot be converted is rejected; the readers take the empty
text for an absent field, so the parser accepts what is valid once such fields are dropped.

## Main definitions

* `UtKvpInstance.Represents` — the library holds the given fields.
* `DeclaresSensor`, `DeclaresProfile` — what an entry and a profile declare.
* `AcceptsExactlyValid` — the promise of the header.
* `acceptsExactlyValid_iff` — when the parser keeps it.
-/

namespace ThermalHal

/-! ## Profiles -/

/-- The library holds these fields and this many list entries; reading a present field
succeeds and gives its whole text. -/
structure UtKvpInstance.Represents (kvp : UtKvpInstance) (fields : String → Option String)
    (count : ℕ) : Prop where
  fieldPresent : ∀ key, kvp.fieldPresent key = (fields key).isSome
  getStringField : ∀ key text, fields key = some text →
    kvp.getStringField key kvp.maxElementSize = some text
  getListCount : kvp.getListCount thermalList = count

/-- The whole text is a finite `double`, and reading it is no range error. -/
def ConvertsToDouble (text : String) (value : ℚ) : Prop :=
  strtod text = some ⟨.finite value, [], false⟩

/-- The whole text is an integer in the range of `int32_t`. -/
def ConvertsToInt32 (text : String) (value : ℤ) : Prop :=
  strtol text 0 = some ⟨value, [], false⟩ ∧ -2 ^ 31 ≤ value ∧ value ≤ 2 ^ 31 - 1

/-- The number a field declares: zero when it is absent. -/
def DeclaresNumber {α : Type} [Zero α] (Converts : String → α → Prop) (field : Option String)
    (value : α) : Prop :=
  match field with
  | none => value = 0
  | some text => Converts text value

/-- The key of a field of one list entry. -/
def entryKey (index : ℕ) (name : String) : String :=
  thermalList ++ "." ++ toString index ++ "." ++ name

/-- The numeric fields of an entry. -/
def numericFields : List String :=
  ["sensor_reading_range_celsius.min", "sensor_reading_range_celsius.max",
    "operational_temperature_celsius.min", "operational_temperature_celsius.max",
    "triggers.critical_temperature_recovered_celsius",
    "triggers.critical_temperature_exceeded_celsius",
    "triggers.entering_critical_shutdown_celsius", "policy.shutdown_min_downtime_s",
    "policy.recovery.min_cooldown_seconds", "vendor.vendorCode"]

/-- What a list entry declares. -/
@[mk_iff] structure DeclaresSensor (fields : String → Option String) (index : ℕ)
    (c : ThermalSensorConfig) : Prop where
  id : fields (entryKey index "id") = some c.id
  sensorName : c.sensorName = (fields (entryKey index "sensorName")).getD ""
  location : c.location = (fields (entryKey index "location")).getD ""
  measurableMin : DeclaresNumber ConvertsToDouble
    (fields (entryKey index "sensor_reading_range_celsius.min")) c.sensorReadingRangeCelsius.min
  measurableMax : DeclaresNumber ConvertsToDouble
    (fields (entryKey index "sensor_reading_range_celsius.max")) c.sensorReadingRangeCelsius.max
  operationalMin : DeclaresNumber ConvertsToDouble
    (fields (entryKey index "operational_temperature_celsius.min"))
    c.operationalTemperatureCelsius.min
  operationalMax : DeclaresNumber ConvertsToDouble
    (fields (entryKey index "operational_temperature_celsius.max"))
    c.operationalTemperatureCelsius.max
  recovered : DeclaresNumber ConvertsToDouble
    (fields (entryKey index "triggers.critical_temperature_recovered_celsius"))
    c.triggers.criticalTemperatureRecoveredCelsius
  exceeded : DeclaresNumber ConvertsToDouble
    (fields (entryKey index "triggers.critical_temperature_exceeded_celsius"))
    c.triggers.criticalTemperatureExceededCelsius
  shutdown : DeclaresNumber ConvertsToDouble
    (fields (entryKey index "triggers.entering_critical_shutdown_celsius"))
    c.triggers.enteringCriticalShutdownCelsius
  downtime : DeclaresNumber ConvertsToInt32
    (fields (entryKey index "policy.shutdown_min_downtime_s")) c.policy.shutdownMinDowntimeSeconds
  strategy : c.policy.recovery.strategy =
    (fields (entryKey index "policy.recovery.strategy")).getD ""
  cooldown : DeclaresNumber ConvertsToInt32
    (fields (entryKey index "policy.recovery.min_cooldown_seconds"))
    c.policy.recovery.minCooldownSeconds
  vendorCode : DeclaresNumber ConvertsToInt32 (fields (entryKey index "vendor.vendorCode"))
    c.vendor.vendorCode
  vendorInfo : c.vendor.vendorInfo = (fields (entryKey index "vendor.vendorInfo")).getD ""

/-- The entries of a valid profile, in list order. -/
structure DeclaresSensors (fields : String → Option String) (count : ℕ)
    (sensors : List ThermalSensorConfig) : Prop where
  length : sensors.length = count
  entries : ∀ (index : ℕ) (c : ThermalSensorConfig), sensors[index]? = some c →
    DeclaresSensor fields index c
  valid : ThermalHfpConfig.Valid { sensors }

/-- A profile is valid: it has its list, and the entries of the list are valid. -/
def DeclaresProfile (fields : String → Option String) (count : ℕ) : Prop :=
  (fields thermalRoot).isSome ∧ (fields thermalList).isSome ∧
    ∃ sensors, DeclaresSensors fields count sensors

/-- The promise: acceptance is validity; an accepted profile gives its entries in order, a
rejected one gives nothing and a reason. -/
structure AcceptsExactlyValid (fields : String → Option String) (count : ℕ)
    (result : ParseResult) : Prop where
  accepted_iff : result.accepted = true ↔ DeclaresProfile fields count
  accepted : result.accepted = true →
    DeclaresSensors fields count result.thermalConfiguration.sensors
  rejected : result.accepted = false →
    result.thermalConfiguration.sensors = [] ∧ result.outError ≠ ""

/-! ## What the readers read -/

/-- The fields without those whose text is empty. -/
def dropEmpty (fields : String → Option String) (key : String) : Option String :=
  (fields key).filter (· ≠ "")

theorem dropEmpty_eq_some {fields : String → Option String} {key text : String} :
    dropEmpty fields key = some text ↔ fields key = some text ∧ text ≠ "" := by
  simp [dropEmpty, Option.filter_eq_some_iff]

theorem dropEmpty_of_empty {fields : String → Option String} {key : String}
    (h : (fields key).getD "" = "") : dropEmpty fields key = none := by
  cases hkey : fields key with
  | none => simp [dropEmpty, hkey]
  | some text =>
    simp [hkey] at h
    simp [dropEmpty, hkey, h]

theorem getD_dropEmpty (fields : String → Option String) (key : String) :
    (dropEmpty fields key).getD "" = (fields key).getD "" := by
  by_cases h : (fields key).getD "" = ""
  · rw [dropEmpty_of_empty h, h]
    rfl
  · cases hkey : fields key with
    | none => simp [hkey] at h
    | some text =>
      rw [dropEmpty_eq_some.mpr ⟨hkey, by simpa [hkey] using h⟩]

theorem parseDouble_eq_some {text : String} {value : ℚ} :
    parseDouble text = some value ↔ ConvertsToDouble text value := by
  by_cases hempty : text = ""
  · subst hempty
    have hnone : strtod "" = none := by decide +kernel
    simp [parseDouble, ConvertsToDouble, hnone]
  · cases hread : strtod text with
    | none => simp [parseDouble, ConvertsToDouble, hempty, hread]
    | some parsed =>
      obtain ⟨read, rest, erange⟩ := parsed
      cases erange <;> cases rest <;>
        simp [parseDouble, ConvertsToDouble, hempty, hread, Double.finite?_eq_some]

theorem parseInt32_eq_some {text : String} {value : ℤ} :
    parseInt32 text = some value ↔ ConvertsToInt32 text value := by
  by_cases hempty : text = ""
  · subst hempty
    have hnone : strtol "" 0 = none := by decide +kernel
    simp [parseInt32, ConvertsToInt32, hnone]
  · cases hread : strtol text 0 with
    | none => simp [parseInt32, ConvertsToInt32, hempty, hread]
    | some parsed =>
      obtain ⟨read, rest, erange⟩ := parsed
      cases erange <;> cases rest <;>
        simp [parseInt32, ConvertsToInt32, hempty, hread]
      constructor
      · rintro ⟨hrange, rfl⟩
        exact ⟨rfl, hrange⟩
      · rintro ⟨rfl, hrange⟩
        exact ⟨hrange, rfl⟩

section Readers

variable {kvp : UtKvpInstance} {fields : String → Option String} {count : ℕ} {key : String}

theorem readStringField_eq_ok (h : kvp.Represents fields count) {text : String} :
    readStringField kvp key false = .ok text ↔ text = (fields key).getD "" := by
  cases hkey : fields key with
  | none => simp [readStringField, h.fieldPresent, hkey, eq_comm]
  | some stored =>
    simp [readStringField, h.fieldPresent, h.getStringField key stored hkey, hkey, eq_comm]

theorem readStringField_required_eq_ok (h : kvp.Represents fields count) {text : String} :
    readStringField kvp key true = .ok text ↔ fields key = some text := by
  cases hkey : fields key with
  | none => simp [readStringField, h.fieldPresent, hkey]
  | some stored =>
    simp [readStringField, h.fieldPresent, h.getStringField key stored hkey, hkey]

/-- A numeric reader takes an empty text for an absent field. -/
theorem readNumericField_eq_ok (h : kvp.Represents fields count) {α : Type} [Zero α]
    {parse : String → Option α} {Converts : String → α → Prop}
    (hparse : ∀ text value, parse text = some value ↔ Converts text value) {kind : String}
    {value : α} :
    readNumericField parse kind kvp key 0 false = .ok value ↔
      DeclaresNumber Converts (dropEmpty fields key) value := by
  have hread : readStringField kvp key false = .ok ((fields key).getD "") :=
    (readStringField_eq_ok h).mpr rfl
  by_cases hempty : (fields key).getD "" = ""
  · simp [readNumericField, hread, hempty, dropEmpty_of_empty hempty, DeclaresNumber, bind,
      Except.bind, pure, Except.pure, eq_comm]
  · obtain ⟨text, hkey⟩ : ∃ text, fields key = some text := by
      cases hkey : fields key with
      | none => simp [hkey] at hempty
      | some text => exact ⟨text, rfl⟩
    have hne : text ≠ "" := by simpa [hkey] using hempty
    rw [dropEmpty_eq_some.mpr ⟨hkey, hne⟩, DeclaresNumber, ← hparse]
    simp only [readNumericField, hread, hkey, Option.getD_some, hne, bind, Except.bind]
    cases parse text with
    | none => simp
    | some parsed => simp [pure, Except.pure]

theorem readDoubleField_eq_ok (h : kvp.Represents fields count) {value : ℚ} :
    readDoubleField kvp key 0 false = .ok value ↔
      DeclaresNumber ConvertsToDouble (dropEmpty fields key) value :=
  readNumericField_eq_ok h fun _ _ => parseDouble_eq_some

theorem readInt32Field_eq_ok (h : kvp.Represents fields count) {value : ℤ} :
    readInt32Field kvp key 0 false = .ok value ↔
      DeclaresNumber ConvertsToInt32 (dropEmpty fields key) value :=
  readNumericField_eq_ok h fun _ _ => parseInt32_eq_some

theorem entryKey_eq (index : ℕ) (name : String) :
    thermalList ++ "." ++ toString index ++ "." ++ name = entryKey index name := rfl

theorem entryKey_append (index : ℕ) (name suffix : String) :
    entryKey index name ++ suffix = entryKey index (name ++ suffix) := by
  simp only [entryKey, String.append_assoc]

/-- **What the reader of an entry reads** is what the entry declares without its empty
fields. -/
theorem getSensorInfo_eq_ok (h : kvp.Represents fields count) {index : ℕ}
    {c : ThermalSensorConfig} :
    vcomponentThermalGetSensorInfo kvp index = .ok c ∧ c.id ≠ "" ↔
      DeclaresSensor (dropEmpty fields) index c := by
  simp only [vcomponentThermalGetSensorInfo, readRange, bind_eq_ok, pure, Except.pure,
    Except.ok.injEq, readStringField_eq_ok h, readStringField_required_eq_ok h,
    readDoubleField_eq_ok h, readInt32Field_eq_ok h, entryKey_eq, entryKey_append,
    String.reduceAppend]
  constructor
  · rintro ⟨⟨id, hid, _, rfl, _, rfl, _, ⟨_, hmin, _, hmax, rfl⟩, _, ⟨_, homin, _, homax, rfl⟩,
      _, hrecovered, _, hexceeded, _, hshutdown, _, hdowntime, _, rfl, _, hcooldown, _, hcode,
      _, rfl, rfl⟩, hne⟩
    exact
      { id := dropEmpty_eq_some.mpr ⟨hid, hne⟩
        sensorName := (getD_dropEmpty ..).symm
        location := (getD_dropEmpty ..).symm
        measurableMin := hmin
        measurableMax := hmax
        operationalMin := homin
        operationalMax := homax
        recovered := hrecovered
        exceeded := hexceeded
        shutdown := hshutdown
        downtime := hdowntime
        strategy := (getD_dropEmpty ..).symm
        cooldown := hcooldown
        vendorCode := hcode
        vendorInfo := (getD_dropEmpty ..).symm }
  · intro hd
    obtain ⟨hid, hne⟩ := dropEmpty_eq_some.mp hd.id
    refine ⟨⟨c.id, hid, _, rfl, _, rfl, _, ⟨_, hd.measurableMin, _, hd.measurableMax, rfl⟩,
      _, ⟨_, hd.operationalMin, _, hd.operationalMax, rfl⟩, _, hd.recovered, _, hd.exceeded,
      _, hd.shutdown, _, hd.downtime, _, rfl, _, hd.cooldown, _, hd.vendorCode, _, rfl, ?_⟩, hne⟩
    simp only [← getD_dropEmpty, ← hd.sensorName, ← hd.location, ← hd.strategy, ← hd.vendorInfo]

/-- The loop returns one sensor for each round, in order. -/
theorem parseSensors_entries {remaining index : ℕ} {ids names : List String}
    {sensors : List ThermalSensorConfig}
    (hparse : parseSensors kvp remaining index ids names = .ok sensors) :
    sensors.length = remaining ∧
      ∀ (i : ℕ) (c : ThermalSensorConfig), sensors[i]? = some c →
        vcomponentThermalGetSensorInfo kvp (index + i) = .ok c := by
  induction remaining generalizing index ids names sensors with
  | zero =>
    rw [← Except.ok.inj hparse]
    simp
  | succ remaining ih =>
    obtain ⟨c, seen, rest, hc, -, hrest, rfl⟩ := parseSensors_succ_eq_ok.mp hparse
    obtain ⟨hlength, hentries⟩ := ih hrest
    refine ⟨by simp [hlength], fun i d hd => ?_⟩
    cases i with
    | zero =>
      obtain rfl : c = d := by simpa using hd
      exact hc
    | succ i =>
      rw [show index + (i + 1) = index + 1 + i by omega]
      exact hentries i d (by simpa using hd)

/-- **What the loop returns**: the entries from `index` on, valid together and new to what it
has seen. -/
theorem parseSensors_eq_ok {remaining index : ℕ} {ids names : List String}
    {sensors : List ThermalSensorConfig} :
    parseSensors kvp remaining index ids names = .ok sensors ↔
      sensors.length = remaining ∧
      (∀ (i : ℕ) (c : ThermalSensorConfig), sensors[i]? = some c →
        vcomponentThermalGetSensorInfo kvp (index + i) = .ok c) ∧
      ValidAfter ids names sensors := by
  constructor
  · intro hparse
    exact ⟨(parseSensors_entries hparse).1, (parseSensors_entries hparse).2, parseSensors_ok hparse⟩
  · rintro ⟨hlength, hentries, hvalid⟩
    induction sensors generalizing remaining index ids names with
    | nil =>
      subst hlength
      rfl
    | cons c rest ih =>
      subst hlength
      obtain ⟨⟨hv, hid, hname⟩, hrest⟩ := validAfter_cons_iff.mp hvalid
      rw [List.length_cons, parseSensors_succ_eq_ok]
      refine ⟨c, _, rest, by simpa using hentries 0 c rfl,
        validateSensorConfiguration_eq_ok.mpr ⟨hv, hid, hname, rfl⟩, ih rfl ?_ hrest, rfl⟩
      intro i d hd
      rw [show index + 1 + i = index + (i + 1) by omega]
      exact hentries (i + 1) d (by simpa using hd)

theorem parseSensors_eq_ok_iff_declares (h : kvp.Represents fields count)
    {sensors : List ThermalSensorConfig} :
    parseSensors kvp count 0 [] [] = .ok sensors ↔
      DeclaresSensors (dropEmpty fields) count sensors := by
  rw [parseSensors_eq_ok]
  constructor
  · rintro ⟨hlength, hentries, hvalid⟩
    refine ⟨hlength, fun index c hc => ?_, hvalid.valid⟩
    have hid : c.id ≠ "" := (hvalid.valid.sensors c (List.mem_of_getElem? hc)).id_ne
    rw [← getSensorInfo_eq_ok h]
    exact ⟨by simpa using hentries index c hc, hid⟩
  · intro hd
    refine ⟨hd.length, fun index c hc => ?_, hd.valid, by simp, by simp⟩
    simpa using ((getSensorInfo_eq_ok h).mpr (hd.entries index c hc)).1

end Readers

/-! ## Every failure gives a reason -/

/-- The computation does not fail without a message. -/
structure Explained {α : Type} (x : Except String α) : Prop where
  message_ne : ∀ message, x = .error message → message ≠ ""

section Explained

variable {α β : Type}

theorem explained_ok (a : α) : Explained (.ok a : Except String α) := ⟨by simp⟩

theorem explained_error {lead : String} (h : lead ≠ "") (rest : String) :
    Explained (.error (lead ++ rest) : Except String α) := ⟨by simp [h]⟩

theorem explained_ite {p : Prop} [Decidable p] {x y : Except String α} (hx : Explained x)
    (hy : Explained y) : Explained (if p then x else y) := by
  split
  · exact hx
  · exact hy

theorem Explained.bind {x : Except String α} {f : α → Except String β} (hx : Explained x)
    (hf : ∀ a, Explained (f a)) : Explained (x >>= f) := by
  cases x with
  | error message =>
    refine ⟨fun failed hfailed => ?_⟩
    simp only [Bind.bind, Except.bind, Except.error.injEq] at hfailed
    subst hfailed
    exact hx.message_ne message rfl
  | ok a => exact hf a

variable (kvp : UtKvpInstance)

theorem explained_readStringField (key : String) (required : Bool) :
    Explained (readStringField kvp key required) := by
  rw [readStringField]
  split
  · split
    · exact explained_error (by simp) key
    · exact explained_ok ""
  · split
    · exact explained_error (by simp) key
    · exact explained_ok _

theorem explained_readNumericField (parse : String → Option α) (kind key : String) (outValue : α)
    (required : Bool) : Explained (readNumericField parse kind kvp key outValue required) := by
  rw [readNumericField]
  refine (explained_readStringField kvp key required).bind fun value => ?_
  split
  · exact explained_ok outValue
  · split
    · exact explained_error (by simp) value
    · exact explained_ok _

theorem explained_readRange (keyPrefix : String) (outRange : ThermalRange) :
    Explained (readRange kvp keyPrefix outRange) := by
  refine Explained.bind (explained_readNumericField ..) fun min => ?_
  exact Explained.bind (explained_readNumericField ..) fun max => explained_ok _

theorem explained_getSensorInfo (index : ℕ) :
    Explained (vcomponentThermalGetSensorInfo kvp index) := by
  rw [vcomponentThermalGetSensorInfo]
  refine Explained.bind (explained_readStringField ..) fun id => ?_
  refine Explained.bind (explained_readStringField ..) fun sensorName => ?_
  refine Explained.bind (explained_readStringField ..) fun location => ?_
  refine Explained.bind (explained_readRange ..) fun measurable => ?_
  refine Explained.bind (explained_readRange ..) fun operational => ?_
  refine Explained.bind (explained_readNumericField ..) fun recovered => ?_
  refine Explained.bind (explained_readNumericField ..) fun exceeded => ?_
  refine Explained.bind (explained_readNumericField ..) fun shutdown => ?_
  refine Explained.bind (explained_readNumericField ..) fun downtime => ?_
  refine Explained.bind (explained_readStringField ..) fun strategy => ?_
  refine Explained.bind (explained_readNumericField ..) fun cooldown => ?_
  refine Explained.bind (explained_readNumericField ..) fun vendorCode => ?_
  exact Explained.bind (explained_readStringField ..) fun vendorInfo => explained_ok _

theorem explained_validateSensorConfiguration (c : ThermalSensorConfig) (index : ℕ)
    (ids names : List String) : Explained (validateSensorConfiguration c index ids names) := by
  have hlabel : "thermal sensor index " ++ toString index ≠ "" := by simp
  have hduplicate : ∀ text value : String,
      "thermal sensor index " ++ toString index ++ text ++ value ≠ "" := by simp
  refine explained_ite (explained_error hlabel _) ?_
  refine explained_ite (explained_error (hduplicate _ _) _) ?_
  refine explained_ite (explained_error (hduplicate _ _) _) ?_
  refine explained_ite (explained_error hlabel _) ?_
  refine explained_ite (explained_error hlabel _) ?_
  refine explained_ite (explained_error hlabel _) ?_
  refine explained_ite (explained_error hlabel _) ?_
  refine explained_ite (explained_error hlabel _) ?_
  exact explained_ite (explained_error hlabel _) (explained_ok _)

theorem explained_parseSensors (remaining index : ℕ) (ids names : List String) :
    Explained (parseSensors kvp remaining index ids names) := by
  induction remaining generalizing index ids names with
  | zero => exact explained_ok []
  | succ remaining ih =>
    rw [parseSensors]
    refine (explained_getSensorInfo kvp index).bind fun c => ?_
    refine (explained_validateSensorConfiguration c index ids names).bind fun seen => ?_
    exact (ih (index + 1) seen.1 seen.2).bind fun rest => explained_ok _

end Explained

/-! ## The promise -/

section Promise

variable {fields : String → Option String} {count index : ℕ} {c : ThermalSensorConfig}
  {sensors : List ThermalSensorConfig}

/-- No numeric field of the list is present with an empty text. -/
def NoEmptyNumber (fields : String → Option String) (count : ℕ) : Prop :=
  ∀ index < count, ∀ name ∈ numericFields, fields (entryKey index name) ≠ some ""

/-- The profile is valid once its empty fields are left out. -/
def DeclaresWithoutEmpty (fields : String → Option String) (count : ℕ) : Prop :=
  (fields thermalRoot).isSome ∧ (fields thermalList).isSome ∧
    ∃ sensors, DeclaresSensors (dropEmpty fields) count sensors

/-- The empty text is no number, so a field declares a number exactly when it is not empty and
declares it after the empty fields are dropped. -/
theorem declaresNumber_iff (fields : String → Option String) {α : Type} [Zero α]
    {Converts : String → α → Prop} (hempty : ∀ value, ¬Converts "" value) (key : String)
    (value : α) :
    DeclaresNumber Converts (fields key) value ↔
      DeclaresNumber Converts (dropEmpty fields key) value ∧ fields key ≠ some "" := by
  cases hkey : fields key with
  | none => simp [dropEmpty, hkey, DeclaresNumber]
  | some text =>
    by_cases htext : text = ""
    · simp [htext, DeclaresNumber, hempty]
    · have hdrop : dropEmpty fields key = some text := dropEmpty_eq_some.mpr ⟨hkey, htext⟩
      simp [hdrop, htext, DeclaresNumber]

theorem not_convertsToDouble_empty (value : ℚ) : ¬ConvertsToDouble "" value := by
  rw [← parseDouble_eq_some]
  simp [parseDouble]

theorem not_convertsToInt32_empty (value : ℤ) : ¬ConvertsToInt32 "" value := by
  rw [← parseInt32_eq_some]
  simp [parseInt32]

theorem declaresSensor_iff_dropEmpty (hid : c.id ≠ "") :
    DeclaresSensor fields index c ↔
      DeclaresSensor (dropEmpty fields) index c ∧
        ∀ name ∈ numericFields, fields (entryKey index name) ≠ some "" := by
  simp only [declaresSensor_iff, declaresNumber_iff fields not_convertsToDouble_empty,
    declaresNumber_iff fields not_convertsToInt32_empty, getD_dropEmpty, dropEmpty_eq_some,
    numericFields, List.forall_mem_cons, List.not_mem_nil, false_imp_iff, implies_true, and_true]
  grind

/-- A profile is valid exactly when it is valid without its empty fields and none of them is
numeric. -/
theorem declaresSensors_iff_dropEmpty :
    DeclaresSensors fields count sensors ↔
      DeclaresSensors (dropEmpty fields) count sensors ∧ NoEmptyNumber fields count := by
  have hid : ∀ {index : ℕ} {c : ThermalSensorConfig}, ThermalHfpConfig.Valid { sensors } →
      sensors[index]? = some c → c.id ≠ "" :=
    fun hvalid hc => (hvalid.sensors _ (List.mem_of_getElem? hc)).id_ne
  constructor
  · intro hd
    have hentry : ∀ (index : ℕ) (c : ThermalSensorConfig), sensors[index]? = some c →
        DeclaresSensor (dropEmpty fields) index c ∧
          ∀ name ∈ numericFields, fields (entryKey index name) ≠ some "" :=
      fun index c hc => (declaresSensor_iff_dropEmpty (hid hd.valid hc)).mp (hd.entries index c hc)
    refine ⟨⟨hd.length, fun index c hc => (hentry index c hc).1, hd.valid⟩, ?_⟩
    intro index hindex
    rw [← hd.length] at hindex
    exact (hentry index sensors[index] (List.getElem?_eq_getElem hindex)).2
  · rintro ⟨hd, hnumbers⟩
    refine ⟨hd.length, fun index c hc => ?_, hd.valid⟩
    have hindex : index < count := by
      rw [← hd.length]
      exact (List.getElem?_eq_some_iff.mp hc).1
    exact (declaresSensor_iff_dropEmpty (hid hd.valid hc)).mpr
      ⟨hd.entries index c hc, hnumbers index hindex⟩

section Parse

variable {lib : UtKvp} {path : String} {kvp : UtKvpInstance}

/-- **What the parser returns** for a profile the library can open. -/
theorem parseConfig_cases (hpath : path ≠ "") (hopen : lib.openProfile path = some kvp)
    (h : kvp.Represents fields count) :
    (∃ sensors, vcomponentThermalParseConfig lib (some path) = ⟨true, { sensors }, ""⟩ ∧
        (fields thermalRoot).isSome ∧ (fields thermalList).isSome ∧
        DeclaresSensors (dropEmpty fields) count sensors) ∨
      ∃ message, vcomponentThermalParseConfig lib (some path) = .reject message ∧ message ≠ "" ∧
        ¬DeclaresWithoutEmpty fields count := by
  simp only [vcomponentThermalParseConfig, if_neg hpath, hopen, h.fieldPresent, h.getListCount]
  split
  · next habsent =>
    refine Or.inr ⟨_, rfl, by simp, fun hvalid => ?_⟩
    simp [hvalid.1, hvalid.2.1] at habsent
  · next hpresent =>
    have hroot : (fields thermalRoot).isSome ∧ (fields thermalList).isSome := by
      simpa [Option.isSome_iff_ne_none] using hpresent
    cases hparse : parseSensors kvp count 0 [] [] with
    | ok sensors =>
      exact Or.inl ⟨sensors, rfl, hroot.1, hroot.2, (parseSensors_eq_ok_iff_declares h).mp hparse⟩
    | error message =>
      refine Or.inr ⟨message, rfl,
        (explained_parseSensors kvp count 0 [] []).message_ne message hparse, ?_⟩
      rintro ⟨-, -, sensors, hd⟩
      rw [(parseSensors_eq_ok_iff_declares h).mpr hd] at hparse
      simp at hparse

/-- **The parser keeps the promise exactly when** no numeric field of the list is present and
empty, or the profile would be invalid without its empty fields too. -/
theorem acceptsExactlyValid_iff (hpath : path ≠ "") (hopen : lib.openProfile path = some kvp)
    (h : kvp.Represents fields count) :
    AcceptsExactlyValid fields count (vcomponentThermalParseConfig lib (some path)) ↔
      NoEmptyNumber fields count ∨ ¬DeclaresWithoutEmpty fields count := by
  rcases parseConfig_cases hpath hopen h with
    ⟨sensors, hresult, hroot, hlist, hd⟩ | ⟨message, hresult, hmessage, hinvalid⟩
  · rw [hresult]
    have hvalid : DeclaresWithoutEmpty fields count := ⟨hroot, hlist, sensors, hd⟩
    constructor
    · intro hpromise
      exact Or.inl (declaresSensors_iff_dropEmpty.mp (hpromise.accepted rfl)).2
    · intro hcond
      have hnumbers : NoEmptyNumber fields count := hcond.resolve_right (not_not.mpr hvalid)
      have hdeclared : DeclaresSensors fields count sensors :=
        declaresSensors_iff_dropEmpty.mpr ⟨hd, hnumbers⟩
      exact ⟨iff_of_true rfl ⟨hroot, hlist, sensors, hdeclared⟩, fun _ => hdeclared, by simp⟩
  · rw [hresult]
    refine iff_of_true ?_ (Or.inr hinvalid)
    refine ⟨iff_of_false (by simp [ParseResult.reject]) ?_, by simp [ParseResult.reject],
      fun _ => ⟨rfl, hmessage⟩⟩
    rintro ⟨hroot, hlist, sensors, hd⟩
    exact hinvalid ⟨hroot, hlist, sensors, (declaresSensors_iff_dropEmpty.mp hd).1⟩

end Parse

end Promise

/-! ## Concrete profiles -/

instance (fields : String → Option String) (count : ℕ) : Decidable (NoEmptyNumber fields count) :=
  inferInstanceAs (Decidable (∀ index < count, ∀ name ∈ numericFields,
    fields (entryKey index name) ≠ some ""))

theorem represents_ofFields (fields : List (String × String)) (count : ℕ) :
    (UtKvpInstance.ofFields fields count).Represents (fields.lookup ·) count :=
  ⟨fun _ => rfl, fun _ _ h => h, rfl⟩

/-- The fields of a profile with one entry. -/
def profileFields (entry : List (String × String)) : List (String × String) :=
  (thermalRoot, "") :: (thermalList, "") :: entry.map fun (name, text) => (entryKey 0 name, text)

theorem acceptsExactlyValid_board :
    AcceptsExactlyValid ((profileFields boardEntry).lookup ·) 1
      (vcomponentThermalParseConfig ⟨fun _ => some (.ofFields (profileFields boardEntry) 1)⟩
        (some "hfp.yaml")) :=
  (acceptsExactlyValid_iff (by decide) rfl (represents_ofFields _ 1)).mpr
    (Or.inl (by decide +kernel))

/-- The ambient sensor with a vendor code that is present and empty. -/
def emptyCodeEntry : List (String × String) := boardEntry ++ [("vendor.vendorCode", "")]

theorem not_acceptsExactlyValid_emptyCode :
    ¬AcceptsExactlyValid ((profileFields emptyCodeEntry).lookup ·) 1
      (vcomponentThermalParseConfig ⟨fun _ => some (.ofFields (profileFields emptyCodeEntry) 1)⟩
        (some "hfp.yaml")) := by
  intro h
  obtain ⟨-, -, sensors, hd⟩ := h.accepted_iff.mp (by decide +kernel)
  have hnumbers := (declaresSensors_iff_dropEmpty.mp hd).2
  exact hnumbers 0 one_pos "vendor.vendorCode" (by decide) (by decide +kernel)

end ThermalHal
