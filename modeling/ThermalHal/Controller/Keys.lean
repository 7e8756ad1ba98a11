import ThermalHal.Controller.Pipeline

/-!
# Configured keys on the control plane

The parser keeps ids and names as the profile spells them and asks only that no id is empty.
The control plane strips white space from both ends of the name a message carries, and drops
the message when nothing is left. So a sensor is looked up under the stripped spelling of its
key, and a message under a key reaches a sensor exactly when that spelling is a key, too.

## Main definitions

* `ThermalSensorConfig.keys` — the id, and the name when there is one.
* `UpdateFields` — the fields of a message that gives a sensor a temperature.
* `ReachesSensor` — the message is queued and the worker finds a sensor for it.
* `reachesSensor_iff` — which keys reach a sensor.
-/

namespace ThermalHal

open Lib

/-- The keys of a sensor: its id, and its name when it has one. -/
def ThermalSensorConfig.keys (config : ThermalSensorConfig) : List String :=
  if config.sensorName = "" then [config.id] else [config.id, config.sensorName]

/-- The library holds these fields, and a text that fits the buffer is read unchanged. -/
structure UtKvpInstance.Stores (kvp : UtKvpInstance) (fields : String → Option String) : Prop where
  getStringField : ∀ key text size, fields key = some text → text.utf8ByteSize < size →
    kvp.getStringField key size = some text

/-- The fields of a temperature update for the given name, its two numbers as texts that
convert. -/
structure UpdateFields (fields : String → Option String) (sensorName : String)
    (temperatureCelsius : ℚ) (timestampMonotonicMs : ℤ) : Prop where
  command : fields kCommandKeySlash = some kCommandTemperatureUpdate
  sensorName : fields kSensorNameKeySlash = some sensorName
  temperature : ∃ text, fields kTemperatureKeySlash = some text ∧
    text.utf8ByteSize < kKvpReadBufferSize ∧ parseDouble (trim text) = some temperatureCelsius
  timestamp : ∃ text, fields kTimestampKeySlash = some text ∧
    text.utf8ByteSize < kKvpReadBufferSize ∧
    (parseInt64 (trim text)).map Subtype.val = some timestampMonotonicMs

/-- The message is queued whatever the component has done before, and whenever the worker
then holds its update, the lookup finds a sensor. -/
def ReachesSensor (cfg : ThermalHfpConfig) (kvp : UtKvpInstance) (value : ℚ × ℤ) : Prop :=
  ∃ update : ThermalTemperatureUpdate, update.value = value ∧ ∀ steadyClockMs pre,
    let queued := pipeline.state (.start cfg steadyClockMs) (pre ++ [.pushMessage (some kvp)])
    queued.pending.get? update.sensorName = some update ∧
      ∀ post, (pipeline.state queued post).inHand = some update →
        findSensor (pipeline.state queued post).service.sensors update.sensorName ≠ none

/-! ## Keys -/

section Keys

variable {cfg : ThermalHfpConfig} {config : ThermalSensorConfig} {key : String}

/-- The keys are the texts the sensor answers to, the empty name apart. -/
theorem mem_keys_iff (hid : config.id ≠ "") :
    key ∈ config.keys ↔ key ≠ "" ∧ config.matchesKey key = true := by
  rw [matchesKey_iff, ThermalSensorConfig.keys]
  split_ifs with hname
  · simp only [List.mem_singleton, hname]
    constructor
    · rintro rfl
      exact ⟨hid, Or.inr rfl⟩
    · rintro ⟨hne, heq⟩
      exact (heq.resolve_left (Ne.symm hne)).symm
  · simp only [List.mem_cons, List.not_mem_nil, or_false]
    constructor
    · rintro (rfl | rfl)
      · exact ⟨hid, Or.inr rfl⟩
      · exact ⟨hname, Or.inl rfl⟩
    · rintro ⟨-, rfl | rfl⟩
      · exact Or.inr rfl
      · exact Or.inl rfl

theorem exists_mem_keys_iff (hcfg : cfg.Valid) :
    (∃ config ∈ cfg.sensors, key ∈ config.keys) ↔ key ≠ "" ∧ resolve cfg key ≠ none := by
  have hkeys : ∀ config ∈ cfg.sensors,
      (key ∈ config.keys ↔ key ≠ "" ∧ config.matchesKey key = true) :=
    fun config hconfig => mem_keys_iff (hcfg.sensors config hconfig).id_ne
  rw [Ne, Ne, resolve_eq_none_iff]
  constructor
  · rintro ⟨config, hconfig, hkey⟩
    obtain ⟨hne, hmatch⟩ := (hkeys config hconfig).mp hkey
    exact ⟨hne, fun hnone => by simp [hnone config hconfig] at hmatch⟩
  · rintro ⟨hne, hsome⟩
    push Not at hsome
    obtain ⟨config, hconfig, hmatch⟩ := hsome
    exact ⟨config, hconfig, (hkeys config hconfig).mpr ⟨hne, by simpa using hmatch⟩⟩

end Keys

/-! ## The message -/

section Message

variable {kvp : UtKvpInstance} {fields : String → Option String} {key text : String} {t : ℚ}
  {ts : ℤ}

theorem readKvpString_eq (h : kvp.Stores fields) (hkey : fields key = some text)
    (hsize : text.utf8ByteSize < kKvpReadBufferSize) (hne : text ≠ "") :
    readKvpString kvp key = some text := by
  simp [readKvpString, h.getStringField key text _ hkey hsize, hne]

theorem trim_empty : trim "" = "" := by decide +kernel

/-- Such a message is refused for its name or not at all; what is queued is the stripped key. -/
theorem readTemperatureUpdate_eq (h : kvp.Stores fields) (hfields : UpdateFields fields key t ts)
    (hsize : key.utf8ByteSize < kKvpReadBufferSize) (hne : key ≠ "") :
    ∃ hts : 0 ≤ ts, readTemperatureUpdate kvp =
      if htrim : trim key = "" then none
      else some ⟨trim key, t, ts, htrim, trim_trim key, hts⟩ := by
  obtain ⟨temperature, htemperature, htemperatureSize, ht⟩ := hfields.temperature
  obtain ⟨timestamp, htimestamp, htimestampSize, hts⟩ := hfields.timestamp
  obtain ⟨⟨n, hn⟩, hparse, rfl⟩ := Option.map_eq_some_iff.mp hts
  have hcommand : readKvpString kvp kCommandKeySlash = some kCommandTemperatureUpdate :=
    readKvpString_eq h hfields.command (by decide) (by decide)
  have hname : readKvpString kvp kSensorNameKeySlash = some key :=
    readKvpString_eq h hfields.sensorName hsize hne
  have htemperatureText : readKvpString kvp kTemperatureKeySlash = some temperature := by
    refine readKvpString_eq h htemperature htemperatureSize fun hempty => ?_
    simp [hempty, trim_empty, parseDouble] at ht
  have htimestampText : readKvpString kvp kTimestampKeySlash = some timestamp := by
    refine readKvpString_eq h htimestamp htimestampSize fun hempty => ?_
    simp [hempty, trim_empty, parseInt64] at hparse
  have htrimmed : trim kCommandTemperatureUpdate = kCommandTemperatureUpdate := by decide +kernel
  refine ⟨hn, ?_⟩
  simp only [readTemperatureUpdate, hcommand, hname, htemperatureText, htimestampText, ht, hparse,
    htrimmed, Option.bind_eq_bind, Option.bind_some, ne_eq, not_true_eq_false, if_false]

end Message

/-! ## The worker -/

section Worker

variable {cfg : ThermalHfpConfig} {kvp : UtKvpInstance} {value : ℚ × ℤ}

/-- A message that is dropped reaches no sensor. -/
theorem not_reachesSensor_of_dropped (h : messageUpdate? (some kvp) = none) :
    ¬ReachesSensor cfg kvp value := by
  rintro ⟨update, -, hreaches⟩
  have hpending := (hreaches 0 []).1
  rw [List.nil_append, Machine.state_cons, next_pushMessage, pushMessage_of_none h] at hpending
  simp [Pipeline.start] at hpending

/-- The only update of the queue is the one that is taken from it. -/
theorem getTemperatureUpdate_insertOrAssign_empty (update : ThermalTemperatureUpdate) :
    (getTemperatureUpdate (PendingTemperatureUpdates.empty.insertOrAssign update)).2 =
      some update := rfl

/-- **A message that is queued reaches a sensor exactly when** the name of its update resolves
to one. -/
theorem reachesSensor_iff_resolve {update : ThermalTemperatureUpdate}
    (h : messageUpdate? (some kvp) = some update) :
    ReachesSensor cfg kvp update.value ↔ resolve cfg update.sensorName ≠ none := by
  constructor
  · rintro ⟨held, -, hreaches⟩
    obtain ⟨hpending, hfound⟩ := hreaches 0 []
    -- the queue was empty, so what it holds now is the update of the message
    have hqueue : pipeline.state (.start cfg 0) [.pushMessage (some kvp)] =
        { Pipeline.start cfg 0 with
          pending := PendingTemperatureUpdates.empty.insertOrAssign update } := by
      rw [Machine.state_cons, next_pushMessage, pushMessage_of_some h]
      rfl
    rw [List.nil_append, hqueue] at hpending hfound
    have hheld : held = update := by
      by_cases hname : held.sensorName = update.sensorName
      · rw [hname, get?_insertOrAssign_self, Option.some.injEq] at hpending
        exact hpending.symm
      · rw [get?_insertOrAssign_ne hname] at hpending
        cases hpending
    subst hheld
    have hlookup := hfound [.getTemperatureUpdate]
      (getTemperatureUpdate_insertOrAssign_empty held)
    intro hnone
    exact hlookup ((configured_initializeSensors cfg 0).findSensor_eq_none_iff.mpr hnone)
  · intro hresolve
    refine ⟨update, rfl, fun steadyClockMs pre => ?_⟩
    constructor
    · rw [Machine.state_append]
      exact get?_of_message _ h
    · intro post _
      have hc := (reachable_pipeline cfg steadyClockMs
        (pre ++ [.pushMessage (some kvp)] ++ post)).configured
      rw [Machine.state_append] at hc
      exact hc.findSensor_eq_none_iff.not.mpr hresolve

end Worker

/-- **A message under a configured key reaches a sensor exactly when** the key, with the white
space at its ends stripped, is the key of some sensor of the profile. The temperature and the
timestamp it carries do not matter. -/
theorem reachesSensor_iff {cfg : ThermalHfpConfig} (hcfg : Accepted cfg)
    {config : ThermalSensorConfig} (hconfig : config ∈ cfg.sensors) {key : String}
    (hkey : key ∈ config.keys) (hsize : key.utf8ByteSize < kKvpReadBufferSize)
    {kvp : UtKvpInstance} {fields : String → Option String} (hkvp : kvp.Stores fields) {t : ℚ}
    {ts : ℤ} (hfields : UpdateFields fields key t ts) :
    ReachesSensor cfg kvp (t, ts) ↔ ∃ other ∈ cfg.sensors, trim key ∈ other.keys := by
  have hne : key ≠ "" := ((mem_keys_iff (hcfg.valid.sensors config hconfig).id_ne).mp hkey).1
  obtain ⟨hts, hread⟩ := readTemperatureUpdate_eq hkvp hfields hsize hne
  rw [exists_mem_keys_iff hcfg.valid]
  by_cases htrim : trim key = ""
  · rw [dif_pos htrim] at hread
    have hdropped : messageUpdate? (some kvp) = none := hread
    exact iff_of_false (not_reachesSensor_of_dropped hdropped) fun h => h.1 htrim
  · rw [dif_neg htrim] at hread
    have hqueued : messageUpdate? (some kvp) = some ⟨trim key, t, ts, htrim, _, hts⟩ := hread
    rw [and_iff_right htrim]
    exact reachesSensor_iff_resolve hqueued

/-! ## Concrete keys -/

/-- The fields of `temperatureMessage`. -/
def messageFields (sensorName temperatureCelsius timestampMonotonicMs : String) :
    List (String × String) :=
  [(kCommandKeySlash, kCommandTemperatureUpdate), (kSensorNameKeySlash, sensorName),
    (kTemperatureKeySlash, temperatureCelsius), (kTimestampKeySlash, timestampMonotonicMs)]

theorem stores_ofFields (fields : List (String × String)) (count : ℕ) :
    (UtKvpInstance.ofFields fields count).Stores (fields.lookup ·) :=
  ⟨fun _ _ _ hkey _ => hkey⟩

theorem updateFields_messageFields (sensorName : String) :
    UpdateFields ((messageFields sensorName "50" "1").lookup ·) sensorName 50 1 := by
  constructor
  · rfl
  · rfl
  · exact ⟨"50", rfl, by decide, by decide +kernel⟩
  · exact ⟨"1", rfl, by decide, by decide +kernel⟩

theorem reachesSensor_board :
    ReachesSensor boardProfile (.ofFields (messageFields "Mainboard Ambient" "50" "1") 0) (50, 1) :=
  (reachesSensor_iff boardProfile_accepted
    (show boardSensor ∈ boardProfile.sensors by simp [boardProfile]) (by decide) (by decide)
    (stores_ofFields _ 0) (updateFields_messageFields _)).mpr (by decide +kernel)

/-- The ambient sensor with a blank before its id. -/
def blankProfile : ThermalHfpConfig := { sensors := [{ boardSensor with id := " board" }] }

theorem blankProfile_accepted : Accepted blankProfile :=
  Accepted.of_parse (.ofEntries [("id", " board") :: boardEntry.drop 1]) "hfp.yaml"
    (by decide +kernel)

/-- The message under the id `" board"` is looked up as `"board"`, which is no key. -/
theorem not_reachesSensor_blank :
    ¬ ∀ cfg, Accepted cfg →
      (∀ config ∈ cfg.sensors, ∀ key ∈ config.keys, key.utf8ByteSize < kKvpReadBufferSize) →
      ∀ config ∈ cfg.sensors, ∀ key ∈ config.keys, ∀ t : ℚ,
        config.sensorReadingRangeCelsius.min ≤ t → t ≤ config.sensorReadingRangeCelsius.max →
        ∀ ts : ℤ, 0 ≤ ts → ∀ kvp fields, UtKvpInstance.Stores kvp fields →
          UpdateFields fields key t ts → ReachesSensor cfg kvp (t, ts) := by
  intro h
  have hreaches := h blankProfile blankProfile_accepted (by decide)
    { boardSensor with id := " board" } (by simp [blankProfile]) " board" (by decide) 50
    (by decide +kernel) (by decide +kernel) 1 (by decide) _ _ (stores_ofFields _ 0)
    (updateFields_messageFields " board")
  have hqueued : messageUpdate? (some (.ofFields (messageFields " board" "50" "1") 0)) =
      some (boardUpdate 50 1) := by decide +kernel
  exact (reachesSensor_iff_resolve hqueued).mp hreaches (by decide +kernel)

end ThermalHal
