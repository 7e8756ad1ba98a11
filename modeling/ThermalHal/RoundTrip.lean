import ThermalHal.Binary64
import ThermalHal.Defaults

/-!
# Writing a profile and reading it back

`writeProfile` writes a profile as a file: all fields of every sensor, the numbers with all
their decimal digits. The parser reads back exactly the profile that was written, as long as the
profile passes the checks and its numbers fit their types. No other profile can be read from any
file, so these conditions are all there is to know about what the service is started with.

## Main definitions

* `ThermalSensorConfig.Representable` — the numbers of a sensor fit their types.
* `ThermalSensorConfig.TextsZeroFree` — its texts hold no zero byte.
* `sensorFields`, `writeProfile` — the writer.
* `parseConfig_written` — the round trip.
* `accepted_iff_representable` — which profiles the parser can return.
-/

namespace ThermalHal

/-- The numbers of a sensor fit the `double` and `int32_t` members they are stored in. -/
structure ThermalSensorConfig.Representable (c : ThermalSensorConfig) : Prop where
  doubles : ∀ field ∈ optionalDoubles, IsDouble (field.member c)
  int32s : ∀ field ∈ optionalInt32s, -2 ^ 31 ≤ field.member c ∧ field.member c ≤ 2 ^ 31 - 1

/-- The texts of a sensor hold no zero byte, as none does that is read out of a buffer. -/
structure ThermalSensorConfig.TextsZeroFree (c : ThermalSensorConfig) : Prop where
  id : ZeroFree c.id
  texts : ∀ field ∈ optionalTexts, ZeroFree (field.member c)

/-- Every text that the library reads out of a profile ends at its first zero byte. -/
def UtKvp.Terminated (lib : UtKvp) : Prop :=
  ∀ path kvp, lib.openProfile path = some kvp → kvp.Terminated

/-! ## The writer -/

/-- The fields of one list entry. -/
def sensorFields (c : ThermalSensorConfig) : List (String × String) :=
  ("id", c.id) :: optionalTexts.map (fun field => (field.name, field.member c)) ++
    optionalDoubles.map (fun field => (field.name, decimalText (field.member c))) ++
    optionalInt32s.map fun field => (field.name, toString (field.member c))

/-- A file with the entries of the profile in list order. -/
def writeProfile (cfg : ThermalHfpConfig) : UtKvp := .ofEntries (cfg.sensors.map sensorFields)

/-! ## Keys -/

/-- A key names one field of one entry: the digits of its index end at the next point. -/
theorem entryKey_injective {i j : ℕ} {name other : String}
    (h : entryKey i name = entryKey j other) : i = j ∧ name = other := by
  have hdigits : ∀ n : ℕ, ∀ c ∈ Nat.toDigits 10 n, c.isDigit = true :=
    fun n c hc => Nat.isDigit_of_mem_toDigits (by omega) (by omega) hc
  have htails : Nat.toDigits 10 i ++ '.' :: name.toList =
      Nat.toDigits 10 j ++ '.' :: other.toList := by
    have hchars := congrArg String.toList h
    simpa [entryKey, thermalList] using hchars
  have hi := takeDigits_append (hdigits i) ('.' :: name.toList) (by simp)
  have hj := takeDigits_append (hdigits j) ('.' :: other.toList) (by simp)
  rw [htails, hj] at hi
  obtain ⟨hvalues, hrest⟩ := Prod.mk.inj hi
  refine ⟨?_, ?_⟩
  · have hread := congrArg (digitsValue 10) hvalues
    simpa [digitsValue_map, eq_comm] using hread
  · exact (String.toList_injective (List.cons.inj hrest).2).symm

/-- The fields of an entry under their keys in a file. -/
def keyedFields (index : ℕ) (entry : List (String × String)) : List (String × String) :=
  entry.map fun (name, text) => (entryKey index name, text)

theorem lookup_keyedFields (index : ℕ) (entry : List (String × String)) (name : String) :
    (keyedFields index entry).lookup (entryKey index name) = entry.lookup name := by
  induction entry with
  | nil => rfl
  | cons field rest ih =>
    have hkey : (entryKey index name == entryKey index field.1) = (name == field.1) := by
      rw [Bool.eq_iff_iff, beq_iff_eq, beq_iff_eq]
      exact ⟨fun h => (entryKey_injective h).2, fun h => by rw [h]⟩
    have htail := ih
    rw [keyedFields] at htail ⊢
    rw [List.map_cons, List.lookup_cons, List.lookup_cons, hkey, htail]

theorem lookup_keyedFields_of_ne {index other : ℕ} (h : index ≠ other)
    (entry : List (String × String)) (name : String) :
    (keyedFields index entry).lookup (entryKey other name) = none := by
  rw [List.lookup_eq_none_iff]
  intro field hfield
  obtain ⟨source, -, rfl⟩ := List.mem_map.mp hfield
  simpa using fun heq => h (entryKey_injective heq).1.symm

/-- What a file of entries holds under a key of an entry. -/
theorem lookup_entries (entries : List (List (String × String))) (start index : ℕ)
    (name : String) :
    ((entries.zipIdx start).flatMap fun (entry, i) => keyedFields i entry).lookup
      (entryKey (start + index) name) = entries[index]?.bind (·.lookup name) := by
  induction entries generalizing start index with
  | nil => simp
  | cons entry rest ih =>
    rw [List.zipIdx_cons, List.flatMap_cons, List.lookup_append]
    cases index with
    | zero =>
      -- the entries behind the first one have greater indices
      have hrest : ((rest.zipIdx (start + 1)).flatMap fun (entry, i) =>
          keyedFields i entry).lookup (entryKey (start + 0) name) = none := by
        rw [List.lookup_eq_none_iff]
        intro field hfield
        obtain ⟨⟨other, i⟩, hmem, hother⟩ := List.mem_flatMap.mp hfield
        have hlt : start + 1 ≤ i := (List.mem_zipIdx hmem).1
        have hnone := lookup_keyedFields_of_ne (show i ≠ start + 0 by omega) other name
        exact (List.lookup_eq_none_iff.mp hnone) field hother
      rw [hrest, Nat.add_zero, lookup_keyedFields]
      simp
    | succ index =>
      have hnone := lookup_keyedFields_of_ne (show start ≠ start + (index + 1) by omega) entry name
      rw [hnone, Option.none_or, show start + (index + 1) = start + 1 + index by omega, ih]
      simp

/-! ## The round trip -/

/-- The fields of the file that holds a profile. -/
def writtenFields (cfg : ThermalHfpConfig) : List (String × String) :=
  (thermalRoot, "") :: (thermalList, "") ::
    ((cfg.sensors.map sensorFields).zipIdx 0).flatMap fun (entry, i) => keyedFields i entry

theorem openProfile_writeProfile (cfg : ThermalHfpConfig) (path : String) :
    (writeProfile cfg).openProfile path =
      some (.ofFields (writtenFields cfg) cfg.sensors.length) := by
  simp only [writeProfile, UtKvp.ofEntries, List.length_map, writtenFields]
  rfl

/-- A key of an entry is longer than the keys of the list. -/
theorem entryKey_ne (index : ℕ) (name : String) :
    entryKey index name ≠ thermalRoot ∧ entryKey index name ≠ thermalList := by
  have hlength : thermalList.toList.length < (entryKey index name).toList.length := by
    simp [entryKey]
  refine ⟨fun h => ?_, fun h => ?_⟩
  · rw [h] at hlength
    exact absurd hlength (by decide +kernel)
  · rw [h] at hlength
    exact lt_irrefl _ hlength

theorem lookup_writtenFields (cfg : ThermalHfpConfig) {index : ℕ} {c : ThermalSensorConfig}
    (hc : cfg.sensors[index]? = some c) (name : String) :
    (writtenFields cfg).lookup (entryKey index name) = (sensorFields c).lookup name := by
  have hentries := lookup_entries (cfg.sensors.map sensorFields) 0 index name
  have hroot : (entryKey index name == thermalRoot) = false := by
    simpa using (entryKey_ne index name).1
  have hlist : (entryKey index name == thermalList) = false := by
    simpa using (entryKey_ne index name).2
  rw [Nat.zero_add] at hentries
  rw [writtenFields, List.lookup_cons, hroot, List.lookup_cons, hlist]
  simpa [hc] using hentries

theorem declaresNumber_of_text {α : Type} [Zero α] {Converts : String → α → Prop}
    {fields : String → Option String} {key text : String} {value : α}
    (hempty : ∀ value, ¬Converts "" value) (hkey : fields key = some text)
    (hconverts : Converts text value) : DeclaresNumber Converts (dropEmpty fields key) value := by
  have hne : text ≠ "" := by
    rintro rfl
    exact hempty value hconverts
  rw [dropEmpty_eq_some.mpr ⟨hkey, hne⟩]
  exact hconverts

/-! ### The fields of one entry -/

section Entry

variable (c : ThermalSensorConfig)

theorem lookup_text {field : OptionalField String} (h : field ∈ optionalTexts) :
    (sensorFields c).lookup field.name = some (field.member c) := by
  simp only [optionalTexts, List.mem_cons, List.not_mem_nil, or_false] at h
  rcases h with rfl | rfl | rfl | rfl <;> simp [sensorFields, optionalTexts, List.lookup_cons]

theorem lookup_double {field : OptionalField ℚ} (h : field ∈ optionalDoubles) :
    (sensorFields c).lookup field.name = some (decimalText (field.member c)) := by
  simp only [optionalDoubles, List.mem_cons, List.not_mem_nil, or_false] at h
  rcases h with rfl | rfl | rfl | rfl | rfl | rfl | rfl <;>
    simp [sensorFields, optionalTexts, optionalDoubles, List.lookup_cons]

theorem lookup_int32 {field : OptionalField ℤ} (h : field ∈ optionalInt32s) :
    (sensorFields c).lookup field.name = some (toString (field.member c)) := by
  simp only [optionalInt32s, List.mem_cons, List.not_mem_nil, or_false] at h
  rcases h with rfl | rfl | rfl <;>
    simp [sensorFields, optionalTexts, optionalDoubles, optionalInt32s, List.lookup_cons]

end Entry

/-- **What is written declares the sensor.** -/
theorem declaresSensor_of_written {fields : String → Option String} {index : ℕ}
    {c : ThermalSensorConfig} (hid : c.id ≠ "") (hc : c.Representable)
    (hfields : ∀ name, fields (entryKey index name) = (sensorFields c).lookup name) :
    DeclaresSensor (dropEmpty fields) index c := by
  have htext : ∀ field ∈ optionalTexts,
      field.member c = (dropEmpty fields (entryKey index field.name)).getD "" := by
    intro field hfield
    rw [getD_dropEmpty, hfields, lookup_text c hfield]
    rfl
  have hdouble : ∀ field ∈ optionalDoubles, DeclaresNumber ConvertsToDouble
      (dropEmpty fields (entryKey index field.name)) (field.member c) := by
    intro field hfield
    exact declaresNumber_of_text not_convertsToDouble_empty
      ((hfields _).trans (lookup_double c hfield)) (strtod_decimalText (hc.doubles field hfield))
  have hint32 : ∀ field ∈ optionalInt32s, DeclaresNumber ConvertsToInt32
      (dropEmpty fields (entryKey index field.name)) (field.member c) := by
    intro field hfield
    have hrange := hc.int32s field hfield
    have hread := strtol_toString (field.member c) (Or.inr rfl)
    rw [clamped_eq.mpr ⟨rfl, by omega, by omega⟩] at hread
    exact declaresNumber_of_text not_convertsToInt32_empty
      ((hfields _).trans (lookup_int32 c hfield)) ⟨hread, hrange⟩
  simp only [optionalTexts, List.forall_mem_cons] at htext
  simp only [optionalDoubles, List.forall_mem_cons] at hdouble
  simp only [optionalInt32s, List.forall_mem_cons] at hint32
  obtain ⟨hname, hlocation, hstrategy, hinfo, -⟩ := htext
  obtain ⟨hmin, hmax, homin, homax, hrecovered, hexceeded, hshutdown, -⟩ := hdouble
  obtain ⟨hdowntime, hcooldown, hcode, -⟩ := hint32
  exact
    { id := dropEmpty_eq_some.mpr ⟨by rw [hfields]; rfl, hid⟩
      sensorName := hname
      location := hlocation
      measurableMin := hmin
      measurableMax := hmax
      operationalMin := homin
      operationalMax := homax
      recovered := hrecovered
      exceeded := hexceeded
      shutdown := hshutdown
      downtime := hdowntime
      strategy := hstrategy
      cooldown := hcooldown
      vendorCode := hcode
      vendorInfo := hinfo }

/-- **The round trip**: a profile that passes the checks and fits its types is read back from
the file it is written to, by every library that holds that file and reads its texts whole. -/
theorem parseConfig_written {cfg : ThermalHfpConfig} (hcfg : cfg.Valid)
    (hrepresentable : ∀ c ∈ cfg.sensors, c.Representable) {lib : UtKvp} {path : String}
    (hpath : path ≠ "") {kvp : UtKvpInstance} (hopen : lib.openProfile path = some kvp)
    (hkvp : kvp.Represents ((writtenFields cfg).lookup ·) cfg.sensors.length) :
    vcomponentThermalParseConfig lib (some path) = ⟨true, cfg, ""⟩ := by
  have hdeclares : DeclaresSensors (dropEmpty ((writtenFields cfg).lookup ·)) cfg.sensors.length
      cfg.sensors := by
    refine ⟨rfl, fun index c hc => ?_, hcfg⟩
    have hmem := List.mem_of_getElem? hc
    exact declaresSensor_of_written (hcfg.sensors c hmem).id_ne (hrepresentable c hmem)
      (lookup_writtenFields cfg hc)
  have hparse := (parseSensors_eq_ok_iff_declares hkvp).mpr hdeclares
  have hroot : kvp.fieldPresent thermalRoot = true := by
    rw [hkvp.fieldPresent]
    rfl
  have hlist : kvp.fieldPresent thermalList = true := by
    rw [hkvp.fieldPresent]
    rfl
  simp [vcomponentThermalParseConfig, hpath, hopen, hroot, hlist, hkvp.getListCount, hparse]

theorem represents_writtenFields (cfg : ThermalHfpConfig) :
    (UtKvpInstance.ofFields (writtenFields cfg) cfg.sensors.length).Represents
      ((writtenFields cfg).lookup ·) cfg.sensors.length :=
  represents_ofFields _ _

/-- What is written holds no zero byte. -/
theorem zeroFree_sensorFields {c : ThermalSensorConfig} (h : c.TextsZeroFree) :
    ∀ field ∈ sensorFields c, ZeroFree field.2 := by
  simp only [sensorFields, List.mem_append, List.mem_cons, List.mem_map]
  rintro field (((rfl | ⟨text, htext, rfl⟩) | ⟨number, -, rfl⟩) | ⟨number, -, rfl⟩)
  · exact h.id
  · exact h.texts text htext
  · exact zeroFree_decimalText _
  · exact zeroFree_toString _

theorem zeroFree_writtenFields {cfg : ThermalHfpConfig} (h : ∀ c ∈ cfg.sensors, c.TextsZeroFree) :
    ∀ field ∈ writtenFields cfg, ZeroFree field.2 := by
  intro field hfield
  rcases List.mem_cons.mp hfield with rfl | hfield
  · decide
  rcases List.mem_cons.mp hfield with rfl | hfield
  · decide
  obtain ⟨⟨entry, index⟩, hentry, hfield⟩ := List.mem_flatMap.mp hfield
  obtain ⟨c, hc, rfl⟩ := List.mem_map.mp (List.fst_mem_of_mem_zipIdx hentry)
  obtain ⟨source, hsource, rfl⟩ := List.mem_map.mp hfield
  exact zeroFree_sensorFields (h c hc) source hsource

/-- A file of texts without zero bytes is read by a library that ends them there. -/
theorem terminated_ofFields {fields : List (String × String)}
    (h : ∀ field ∈ fields, ZeroFree field.2) (count : ℕ) :
    (UtKvpInstance.ofFields fields count).Terminated := by
  intro key size text htext
  exact h (key, text) (mem_of_lookup htext)

/-! ## What can be read at all -/

/-- What a numeric reader gives is the zero it starts from or the number of some text. -/
theorem readNumericField_ok {α : Type} [Zero α] {parse : String → Option α} {kind key : String}
    {kvp : UtKvpInstance} {value : α}
    (h : readNumericField parse kind kvp key 0 false = .ok value) :
    value = 0 ∨ ∃ text, parse text = some value := by
  obtain ⟨text, -, hread⟩ := bind_eq_ok.mp h
  split_ifs at hread with hempty
  · exact Or.inl (Except.ok.inj hread).symm
  · cases hparse : parse text with
    | none => simp [hparse] at hread
    | some parsed =>
      simp only [hparse, pure, Except.pure, Except.ok.injEq] at hread
      exact Or.inr ⟨text, by rw [hparse, hread]⟩

theorem isDouble_of_read {kvp : UtKvpInstance} {key : String} {value : ℚ}
    (h : readDoubleField kvp key 0 false = .ok value) : IsDouble value := by
  rcases readNumericField_ok h with rfl | ⟨text, htext⟩
  · exact isDouble_zero
  · exact isDouble_of_strtod (parseDouble_eq_some.mp htext) rfl

theorem int32_of_read {kvp : UtKvpInstance} {key : String} {value : ℤ}
    (h : readInt32Field kvp key 0 false = .ok value) : -2 ^ 31 ≤ value ∧ value ≤ 2 ^ 31 - 1 := by
  rcases readNumericField_ok h with rfl | ⟨text, htext⟩
  · omega
  · exact (parseInt32_eq_some.mp htext).2

/-- **Every sensor that is read fits its types**, whatever the library answers. -/
theorem representable_of_getSensorInfo {kvp : UtKvpInstance} {index : ℕ}
    {c : ThermalSensorConfig} (h : vcomponentThermalGetSensorInfo kvp index = .ok c) :
    c.Representable := by
  simp only [vcomponentThermalGetSensorInfo, readRange, bind_eq_ok, pure, Except.pure,
    Except.ok.injEq] at h
  obtain ⟨_, -, _, -, _, -, _, ⟨_, hmin, _, hmax, rfl⟩, _, ⟨_, homin, _, homax, rfl⟩, _,
    hrecovered, _, hexceeded, _, hshutdown, _, hdowntime, _, -, _, hcooldown, _, hcode, _, -,
    rfl⟩ := h
  constructor
  · simp only [optionalDoubles, List.forall_mem_cons]
    exact ⟨isDouble_of_read hmin, isDouble_of_read hmax, isDouble_of_read homin,
      isDouble_of_read homax, isDouble_of_read hrecovered, isDouble_of_read hexceeded,
      isDouble_of_read hshutdown, by simp⟩
  · simp only [optionalInt32s, List.forall_mem_cons]
    exact ⟨int32_of_read hdowntime, int32_of_read hcooldown, int32_of_read hcode, by simp⟩

theorem Accepted.representable {cfg : ThermalHfpConfig} (h : Accepted cfg) :
    ∀ c ∈ cfg.sensors, c.Representable := by
  obtain ⟨lib, configurationFile, haccepted, rfl⟩ := h
  obtain ⟨_, _, -, hparse⟩ := exists_parseSensors_of_accepted haccepted
  intro c hc
  obtain ⟨index, hindex⟩ := List.mem_iff_getElem?.mp hc
  exact representable_of_getSensorInfo ((parseSensors_entries hparse).2 index c hindex)

theorem zeroFree_of_read {kvp : UtKvpInstance} (hkvp : kvp.Terminated) {key text : String}
    {required : Bool} (h : readStringField kvp key required = .ok text) : ZeroFree text := by
  rw [readStringField] at h
  split_ifs at h with habsent
  · obtain rfl : "" = text := by simpa using h
    decide
  · cases hread : kvp.getStringField key kvp.maxElementSize with
    | none => simp [hread] at h
    | some stored =>
      obtain rfl : stored = text := by simpa [hread] using h
      exact hkvp _ _ _ hread

/-- **No text that is read holds a zero byte**, when the buffers end at theirs. -/
theorem textsZeroFree_of_getSensorInfo {kvp : UtKvpInstance} (hkvp : kvp.Terminated) {index : ℕ}
    {c : ThermalSensorConfig} (h : vcomponentThermalGetSensorInfo kvp index = .ok c) :
    c.TextsZeroFree := by
  simp only [vcomponentThermalGetSensorInfo, bind_eq_ok, pure, Except.pure, Except.ok.injEq] at h
  obtain ⟨_, hid, _, hname, _, hlocation, _, -, _, -, _, -, _, -, _, -, _, -, _, hstrategy, _, -,
    _, -, _, hinfo, rfl⟩ := h
  constructor
  · exact zeroFree_of_read hkvp hid
  · simp only [optionalTexts, List.forall_mem_cons]
    exact ⟨zeroFree_of_read hkvp hname, zeroFree_of_read hkvp hlocation,
      zeroFree_of_read hkvp hstrategy, zeroFree_of_read hkvp hinfo, by simp⟩

theorem textsZeroFree_of_parse {lib : UtKvp} (hlib : lib.Terminated) {path : String}
    {cfg : ThermalHfpConfig} (h : vcomponentThermalParseConfig lib (some path) = ⟨true, cfg, ""⟩) :
    ∀ c ∈ cfg.sensors, c.TextsZeroFree := by
  have haccepted : (vcomponentThermalParseConfig lib (some path)).accepted = true := by rw [h]
  obtain ⟨opened, kvp, hopen, hparse⟩ := exists_parseSensors_of_accepted haccepted
  rw [h] at hparse
  intro c hc
  obtain ⟨index, hindex⟩ := List.mem_iff_getElem?.mp hc
  exact textsZeroFree_of_getSensorInfo (hlib opened kvp hopen)
    ((parseSensors_entries hparse).2 index c hindex)

theorem terminated_writeProfile {cfg : ThermalHfpConfig}
    (h : ∀ c ∈ cfg.sensors, c.TextsZeroFree) : (writeProfile cfg).Terminated := by
  intro path kvp hopen
  rw [openProfile_writeProfile, Option.some.injEq] at hopen
  rw [← hopen]
  exact terminated_ofFields (zeroFree_writtenFields h) _

/-- **Which profiles the parser can return**, from whatever file and library: those that pass
the checks and whose numbers fit their types. Each of them is read back from the file it is
written to, by every library that holds that file and reads its texts whole. From a library
whose buffers end at their zero bytes it returns those among them that hold no zero byte. -/
theorem accepted_iff_representable (cfg : ThermalHfpConfig) :
    (Accepted cfg ↔ cfg.Valid ∧ ∀ c ∈ cfg.sensors, c.Representable) ∧
      (Accepted cfg → ∀ (lib : UtKvp) path kvp, path ≠ "" → lib.openProfile path = some kvp →
        kvp.Represents ((writtenFields cfg).lookup ·) cfg.sensors.length →
        vcomponentThermalParseConfig lib (some path) = ⟨true, cfg, ""⟩) ∧
      ((∃ lib path, UtKvp.Terminated lib ∧
          vcomponentThermalParseConfig lib (some path) = ⟨true, cfg, ""⟩) ↔
        cfg.Valid ∧ ∀ c ∈ cfg.sensors, c.Representable ∧ c.TextsZeroFree) := by
  have hwritten (hvalid : cfg.Valid) (hrepresentable : ∀ c ∈ cfg.sensors, c.Representable) :
      vcomponentThermalParseConfig (writeProfile cfg) (some "hfp.yaml") = ⟨true, cfg, ""⟩ :=
    parseConfig_written hvalid hrepresentable (by decide) (openProfile_writeProfile cfg _)
      (represents_writtenFields cfg)
  refine ⟨⟨fun h => ⟨h.valid, h.representable⟩, ?_⟩, ?_, ?_, ?_⟩
  · rintro ⟨hvalid, hrepresentable⟩
    exact .of_parse (writeProfile cfg) "hfp.yaml" (hwritten hvalid hrepresentable)
  · intro h lib path kvp hpath hopen hkvp
    exact parseConfig_written h.valid h.representable hpath hopen hkvp
  · rintro ⟨lib, path, hlib, hparse⟩
    have hcfg : Accepted cfg := .of_parse lib path hparse
    exact ⟨hcfg.valid, fun c hc =>
      ⟨hcfg.representable c hc, textsZeroFree_of_parse hlib hparse c hc⟩⟩
  · rintro ⟨hvalid, hsensors⟩
    exact ⟨writeProfile cfg, "hfp.yaml", terminated_writeProfile fun c hc => (hsensors c hc).2,
      hwritten hvalid fun c hc => (hsensors c hc).1⟩

theorem accepted_iff_representable_board :
    vcomponentThermalParseConfig (writeProfile boardProfile) (some "hfp.yaml") =
      ⟨true, boardProfile, ""⟩ :=
  (accepted_iff_representable boardProfile).2.1 boardProfile_accepted _ "hfp.yaml" _ (by decide)
    (openProfile_writeProfile boardProfile _) (represents_writtenFields boardProfile)

end ThermalHal
