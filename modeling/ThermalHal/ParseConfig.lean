import ThermalHal.Cstd
import ThermalHal.HfpConfig

/-!
# The profile parser

The KVP library that opens the YAML file is outside the repository. What the
parser sees of it is a parameter: an opened instance answers whether a field is
present, copies a field's text into a caller's buffer, and counts list entries.
Nothing is assumed about those answers here.

Every reader that the source gives an out-parameter returns the new value of that
parameter instead, or the message it stores in `*outError` before it fails.

## Main definitions

* `UtKvpInstance`, `UtKvp` — the library as the parser sees it.
* `readStringField`, `readInt32Field`, `readDoubleField`, `readRange` — readers.
* `validateSensorConfiguration` — the semantic checks on one sensor.
* `vcomponentThermalParseConfig` — the parser.
-/

namespace ThermalHal

/-! ## The KVP library -/

/-- An opened KVP instance. -/
structure UtKvpInstance where
  /-- `ut_kvp_fieldPresent`. -/
  fieldPresent : String → Bool
  /-- `ut_kvp_getStringField` into a zeroed buffer of the given size: the text the
  buffer then holds, or `none` for any status but success. -/
  getStringField : String → ℕ → Option String
  /-- `ut_kvp_getListCount`. -/
  getListCount : String → ℕ
  /-- The library's constant `UT_KVP_MAX_ELEMENT_SIZE`. -/
  maxElementSize : ℕ

/-- The buffer ends at its first zero byte, so no text that is read has one. -/
def UtKvpInstance.Terminated (kvp : UtKvpInstance) : Prop :=
  ∀ key size text, kvp.getStringField key size = some text → ZeroFree text

/-- Opening a profile: `none` when no instance can be created or the file cannot be
opened. -/
structure UtKvp where
  openProfile : String → Option UtKvpInstance

/-- An instance that behaves as a finite map from keys to texts, every one of which
fits the buffer it is read into. -/
def UtKvpInstance.ofFields (fields : List (String × String)) (listCount : ℕ) : UtKvpInstance where
  fieldPresent key := (fields.lookup key).isSome
  getStringField key _ := fields.lookup key
  getListCount _ := listCount
  maxElementSize := 256

theorem mem_of_lookup {fields : List (String × String)} {key text : String}
    (h : fields.lookup key = some text) : (key, text) ∈ fields := by
  obtain ⟨before, after, rfl, -⟩ := List.lookup_eq_some_iff.mp h
  simp

/-! ## Fields -/

def thermalRoot : String := "sensor"
def thermalList : String := "sensor.thermal"

/-- The text of a field; an absent optional field leaves the empty string. -/
def readStringField (kvp : UtKvpInstance) (fieldKey : String) (required : Bool) :
    Except String String :=
  if !kvp.fieldPresent fieldKey then
    if required then .error ("required thermal HFP field is missing: " ++ fieldKey) else .ok ""
  else
    match kvp.getStringField fieldKey kvp.maxElementSize with
    | none => .error ("failed to read thermal HFP string field: " ++ fieldKey)
    | some resultKVP => .ok resultKVP

/-- A decimal, octal or hexadecimal number that fits an `int32_t` and fills the text. -/
def parseInt32 (value : String) : Option ℤ :=
  if value = "" then none
  else
    match strtol value 0 with
    | none => none
    | some parsed =>
        if parsed.erange ∨ parsed.rest ≠ [] ∨ parsed.value < -2 ^ 31 ∨ 2 ^ 31 - 1 < parsed.value then
          none
        else some parsed.value

/-- A finite floating-point number that fills the text. -/
def parseDouble (value : String) : Option ℚ :=
  if value = "" then none
  else
    match strtod value with
    | none => none
    | some parsed => if parsed.erange ∨ parsed.rest ≠ [] then none else parsed.value.finite?

/-- What the numeric readers share: read the text, keep the old value of an optional
field that has none, convert the rest. -/
def readNumericField {α : Type} (parse : String → Option α) (kind : String) (kvp : UtKvpInstance)
    (fieldKey : String) (outValue : α) (required : Bool) : Except String α := do
  let value ← readStringField kvp fieldKey required
  if value = "" ∧ !required then
    return outValue
  match parse value with
  | none =>
      .error ("failed to parse thermal HFP " ++ kind ++ " field: " ++ fieldKey ++ " value=" ++ value)
  | some parsed => return parsed

def readInt32Field (kvp : UtKvpInstance) (fieldKey : String) (outValue : ℤ) (required : Bool) :
    Except String ℤ :=
  readNumericField parseInt32 "integer" kvp fieldKey outValue required

def readDoubleField (kvp : UtKvpInstance) (fieldKey : String) (outValue : ℚ) (required : Bool) :
    Except String ℚ :=
  readNumericField parseDouble "floating-point" kvp fieldKey outValue required

def readRange (kvp : UtKvpInstance) (keyPrefix : String) (outRange : ThermalRange) :
    Except String ThermalRange := do
  let min ← readDoubleField kvp (keyPrefix ++ ".min") outRange.min false
  let max ← readDoubleField kvp (keyPrefix ++ ".max") outRange.max false
  return { min, max }

/-! ## One sensor -/

/-- Read the entry with the given index, starting from the declared defaults. -/
def vcomponentThermalGetSensorInfo (kvp : UtKvpInstance) (index : ℕ) :
    Except String ThermalSensorConfig := do
  let default : ThermalSensorConfig := {}
  let entry := thermalList ++ "." ++ toString index ++ "."
  let id ← readStringField kvp (entry ++ "id") true
  let sensorName ← readStringField kvp (entry ++ "sensorName") false
  let location ← readStringField kvp (entry ++ "location") false
  let sensorReadingRangeCelsius ←
    readRange kvp (entry ++ "sensor_reading_range_celsius") default.sensorReadingRangeCelsius
  let operationalTemperatureCelsius ←
    readRange kvp (entry ++ "operational_temperature_celsius") default.operationalTemperatureCelsius
  let triggers := entry ++ "triggers."
  let recovered ← readDoubleField kvp (triggers ++ "critical_temperature_recovered_celsius")
    default.triggers.criticalTemperatureRecoveredCelsius false
  let exceeded ← readDoubleField kvp (triggers ++ "critical_temperature_exceeded_celsius")
    default.triggers.criticalTemperatureExceededCelsius false
  let shutdown ← readDoubleField kvp (triggers ++ "entering_critical_shutdown_celsius")
    default.triggers.enteringCriticalShutdownCelsius false
  let policy := entry ++ "policy."
  let shutdownMinDowntimeSeconds ← readInt32Field kvp (policy ++ "shutdown_min_downtime_s")
    default.policy.shutdownMinDowntimeSeconds false
  let strategy ← readStringField kvp (policy ++ "recovery.strategy") false
  let minCooldownSeconds ← readInt32Field kvp (policy ++ "recovery.min_cooldown_seconds")
    default.policy.recovery.minCooldownSeconds false
  let vendor := entry ++ "vendor."
  let vendorCode ← readInt32Field kvp (vendor ++ "vendorCode") default.vendor.vendorCode false
  let vendorInfo ← readStringField kvp (vendor ++ "vendorInfo") false
  return {
    id, sensorName, location, sensorReadingRangeCelsius, operationalTemperatureCelsius
    triggers := {
      criticalTemperatureRecoveredCelsius := recovered
      criticalTemperatureExceededCelsius := exceeded
      enteringCriticalShutdownCelsius := shutdown }
    policy := { shutdownMinDowntimeSeconds, recovery := { strategy, minCooldownSeconds } }
    vendor := { vendorCode, vendorInfo } }

/-- The semantic checks, in the order the parser makes them. The two lists are the
ids and names of the sensors before this one, and are returned extended. -/
def validateSensorConfiguration (sensorConfig : ThermalSensorConfig) (index : ℕ)
    (sensorIds sensorNames : List String) : Except String (List String × List String) :=
  let sensorLabel := "thermal sensor index " ++ toString index
  let measurable := sensorConfig.sensorReadingRangeCelsius
  let operational := sensorConfig.operationalTemperatureCelsius
  let triggers := sensorConfig.triggers
  if sensorConfig.id = "" then
    .error (sensorLabel ++ " has an empty id")
  else if sensorConfig.id ∈ sensorIds then
    .error (sensorLabel ++ " duplicates id '" ++ sensorConfig.id ++ "'")
  else if sensorConfig.sensorName ≠ "" ∧ sensorConfig.sensorName ∈ sensorNames then
    .error (sensorLabel ++ " duplicates sensorName '" ++ sensorConfig.sensorName ++ "'")
  else if measurable.max < measurable.min then
    .error (sensorLabel ++ " has an inverted sensor_reading_range_celsius")
  else if operational.max < operational.min then
    .error (sensorLabel ++ " has an inverted operational_temperature_celsius")
  else if operational.min < measurable.min ∨ measurable.max < operational.max then
    .error (sensorLabel ++
      " operational_temperature_celsius must be contained by sensor_reading_range_celsius")
  else if ¬(triggers.criticalTemperatureRecoveredCelsius <
        triggers.criticalTemperatureExceededCelsius ∧
      triggers.criticalTemperatureExceededCelsius < triggers.enteringCriticalShutdownCelsius) then
    .error (sensorLabel ++ " triggers must satisfy recovered < exceeded < shutdown")
  else if triggers.criticalTemperatureRecoveredCelsius < measurable.min ∨
      measurable.max < triggers.enteringCriticalShutdownCelsius then
    .error (sensorLabel ++ " triggers must be within sensor_reading_range_celsius")
  else if sensorConfig.policy.shutdownMinDowntimeSeconds < 0 ∨
      sensorConfig.policy.recovery.minCooldownSeconds < 0 then
    .error (sensorLabel ++ " policy durations must be non-negative")
  else
    .ok (sensorConfig.id :: sensorIds,
      if sensorConfig.sensorName = "" then sensorNames else sensorConfig.sensorName :: sensorNames)

/-! ## The profile -/

/-- The loop over the list: `remaining` entries are left, the next one is `index`.
The first entry that cannot be read or fails its checks ends it. -/
def parseSensors (kvp : UtKvpInstance) :
    (remaining index : ℕ) → (sensorIds sensorNames : List String) →
      Except String (List ThermalSensorConfig)
  | 0, _, _, _ => .ok []
  | remaining + 1, index, sensorIds, sensorNames => do
      let sensorConfig ← vcomponentThermalGetSensorInfo kvp index
      let seen ← validateSensorConfiguration sensorConfig index sensorIds sensorNames
      let rest ← parseSensors kvp remaining (index + 1) seen.1 seen.2
      return sensorConfig :: rest

/-- The return value of the parser and its two out-parameters. -/
structure ParseResult where
  accepted : Bool
  thermalConfiguration : ThermalHfpConfig
  outError : String
  deriving DecidableEq

/-- A failed parse leaves an empty configuration. -/
def ParseResult.reject (message : String) : ParseResult := ⟨false, {}, message⟩

/-- Parse a profile. The path is a C string that may be null. -/
def vcomponentThermalParseConfig (lib : UtKvp) (configurationFile : Option String) : ParseResult :=
  match configurationFile with
  | none => .reject "thermal HFP YAML path is empty"
  | some path =>
      if path = "" then .reject "thermal HFP YAML path is empty"
      else
        match lib.openProfile path with
        | none => .reject ("failed to open thermal HFP YAML: " ++ path)
        | some kvp =>
            if !kvp.fieldPresent thermalRoot || !kvp.fieldPresent thermalList then
              .reject "missing top-level thermal HFP profile: sensor.thermal"
            else
              match parseSensors kvp (kvp.getListCount thermalList) 0 [] [] with
              | .error message => .reject message
              | .ok sensors => ⟨true, { sensors }, ""⟩

end ThermalHal
