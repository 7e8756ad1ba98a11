import ThermalHal.Acceptance

/-!
# What a rejection says

The parser stops at the first entry that cannot be read or fails a check, and says which entry
that is. So its message is about a fault that is there, and about the first one: the entries
before it form an accepted profile, and no change behind it changes the message.

## Main definitions

* `NamesEntry` — the message names the entry.
* `UtKvp.HasList` — the file at a path has some fields, with the list among them.
* `rejection_names_first_fault` — what is known from a rejection.
-/

namespace ThermalHal

/-- The message names a field of the entry, or the entry by its index. -/
def NamesEntry (index : ℕ) (message : String) : Prop :=
  (∃ lead tail, message = lead ++ entryKey index tail) ∨
    ∃ tail, message = "thermal sensor index " ++ toString index ++ " " ++ tail

/-- The file at the path has these fields, and the list is among them. -/
structure UtKvp.HasList (lib : UtKvp) (path : String) (fields : String → Option String)
    (count : ℕ) : Prop where
  path_ne : path ≠ ""
  opened : ∃ kvp, lib.openProfile path = some kvp ∧ kvp.Represents fields count
  root : (fields thermalRoot).isSome
  list : (fields thermalList).isSome

/-! ## Every failure names its entry -/

/-- When the computation fails, its message names the entry. -/
structure Names {α : Type} (index : ℕ) (x : Except String α) : Prop where
  names : ∀ message, x = .error message → NamesEntry index message

section Names

variable {α β : Type} {index : ℕ}

theorem names_ok (a : α) : Names index (.ok a : Except String α) := ⟨by simp⟩

theorem names_error {message : String} (h : NamesEntry index message) :
    Names index (.error message : Except String α) := by
  constructor
  intro failed hfailed
  rwa [← Except.error.inj hfailed]

theorem names_ite {p : Prop} [Decidable p] {x y : Except String α} (hx : Names index x)
    (hy : Names index y) : Names index (if p then x else y) := by
  split
  · exact hx
  · exact hy

theorem Names.bind {x : Except String α} {f : α → Except String β} (hx : Names index x)
    (hf : ∀ a, Names index (f a)) : Names index (x >>= f) := by
  cases x with
  | error message => exact names_error (hx.names message rfl)
  | ok a => exact hf a

variable (kvp : UtKvpInstance)

theorem names_readStringField (name : String) (required : Bool) :
    Names index (readStringField kvp (entryKey index name) required) := by
  rw [readStringField]
  split
  · split
    · exact names_error (Or.inl ⟨_, name, rfl⟩)
    · exact names_ok ""
  · split
    · exact names_error (Or.inl ⟨_, name, rfl⟩)
    · exact names_ok _

theorem names_readNumericField (parse : String → Option α) (kind name : String) (outValue : α)
    (required : Bool) :
    Names index (readNumericField parse kind kvp (entryKey index name) outValue required) := by
  rw [readNumericField]
  refine (names_readStringField kvp name required).bind fun value => ?_
  split
  · exact names_ok outValue
  · split
    · refine names_error (Or.inl ⟨"failed to parse thermal HFP " ++ kind ++ " field: ",
        name ++ " value=" ++ value, ?_⟩)
      simp only [← entryKey_append, String.append_assoc]
    · exact names_ok _

theorem names_readRange (name : String) (outRange : ThermalRange) :
    Names index (readRange kvp (entryKey index name) outRange) := by
  rw [readRange, entryKey_append, entryKey_append]
  refine Names.bind (names_readNumericField ..) fun min => ?_
  exact Names.bind (names_readNumericField ..) fun max => names_ok _

theorem names_getSensorInfo : Names index (vcomponentThermalGetSensorInfo kvp index) := by
  simp only [vcomponentThermalGetSensorInfo, entryKey_eq, entryKey_append]
  refine Names.bind (names_readStringField ..) fun id => ?_
  refine Names.bind (names_readStringField ..) fun sensorName => ?_
  refine Names.bind (names_readStringField ..) fun location => ?_
  refine Names.bind (names_readRange ..) fun measurable => ?_
  refine Names.bind (names_readRange ..) fun operational => ?_
  refine Names.bind (names_readNumericField ..) fun recovered => ?_
  refine Names.bind (names_readNumericField ..) fun exceeded => ?_
  refine Names.bind (names_readNumericField ..) fun shutdown => ?_
  refine Names.bind (names_readNumericField ..) fun downtime => ?_
  refine Names.bind (names_readStringField ..) fun strategy => ?_
  refine Names.bind (names_readNumericField ..) fun cooldown => ?_
  refine Names.bind (names_readNumericField ..) fun vendorCode => ?_
  exact Names.bind (names_readStringField ..) fun vendorInfo => names_ok _

/-- A check gives its reason, which begins with a blank, behind the label of the entry. -/
theorem namesEntry_label (index : ℕ) (reason : List Char) (rest : String) :
    NamesEntry index
      ("thermal sensor index " ++ toString index ++ String.ofList (' ' :: reason) ++ rest) := by
  have hblank : String.ofList (' ' :: reason) = " " ++ String.ofList reason := by
    rw [← List.singleton_append, String.ofList_append]
  exact Or.inr ⟨String.ofList reason ++ rest, by rw [hblank]; simp only [String.append_assoc]⟩

theorem names_validateSensorConfiguration (c : ThermalSensorConfig) (ids names : List String) :
    Names index (validateSensorConfiguration c index ids names) := by
  have hreason : ∀ reason : List Char, Names index
      (.error ("thermal sensor index " ++ toString index ++ String.ofList (' ' :: reason)) :
        Except String (List String × List String)) := by
    intro reason
    have hlabel := namesEntry_label index reason ""
    rw [String.append_empty] at hlabel
    exact names_error hlabel
  have hduplicate : ∀ (reason : List Char) (value : String), Names index
      (.error ("thermal sensor index " ++ toString index ++ String.ofList (' ' :: reason) ++
        value ++ "'") : Except String (List String × List String)) := by
    intro reason value
    have hlabel := namesEntry_label index reason (value ++ "'")
    rw [← String.append_assoc] at hlabel
    exact names_error hlabel
  unfold validateSensorConfiguration
  refine names_ite (hreason _) ?_
  refine names_ite (hduplicate _ c.id) ?_
  refine names_ite (hduplicate _ c.sensorName) ?_
  refine names_ite (hreason _) ?_
  refine names_ite (hreason _) ?_
  refine names_ite (hreason _) ?_
  refine names_ite (hreason _) ?_
  refine names_ite (hreason _) ?_
  exact names_ite (hreason _) (names_ok _)

/-- What the loop over the list does with one entry. -/
def readEntry (kvp : UtKvpInstance) (index : ℕ) (ids names : List String) :
    Except String (ThermalSensorConfig × List String × List String) := do
  let sensorConfig ← vcomponentThermalGetSensorInfo kvp index
  let seen ← validateSensorConfiguration sensorConfig index ids names
  return (sensorConfig, seen)

theorem names_readEntry (ids names : List String) : Names index (readEntry kvp index ids names) :=
  (names_getSensorInfo kvp).bind fun c =>
    (names_validateSensorConfiguration c ids names).bind fun _ => names_ok _

theorem parseSensors_succ (remaining : ℕ) (ids names : List String) :
    parseSensors kvp (remaining + 1) index ids names = (do
      let entry ← readEntry kvp index ids names
      let rest ← parseSensors kvp remaining (index + 1) entry.2.1 entry.2.2
      return entry.1 :: rest) := by
  rw [parseSensors, readEntry]
  cases vcomponentThermalGetSensorInfo kvp index with
  | error message => rfl
  | ok c => cases hvalidate : validateSensorConfiguration c index ids names <;>
      simp only [Bind.bind, Except.bind, pure, Except.pure, hvalidate]

end Names

/-! ## Only the entry is read -/

section Agree

variable {kvp kvp' : UtKvpInstance} {fields fields' : String → Option String} {count count' : ℕ}

theorem readStringField_congr (h : kvp.Represents fields count)
    (h' : kvp'.Represents fields' count') {key : String} (hkey : fields' key = fields key)
    (required : Bool) : readStringField kvp' key required = readStringField kvp key required := by
  cases hfield : fields key with
  | none =>
    have hpresent := h.fieldPresent key
    have hpresent' := h'.fieldPresent key
    rw [hkey] at hpresent'
    rw [hfield] at hpresent hpresent'
    simp [readStringField, hpresent, hpresent']
  | some text =>
    have hpresent := h.fieldPresent key
    have hpresent' := h'.fieldPresent key
    have hread := h.getStringField key text hfield
    have hread' := h'.getStringField key text (hkey.trans hfield)
    rw [hkey] at hpresent'
    rw [hfield] at hpresent hpresent'
    simp [readStringField, hpresent, hpresent', hread, hread']

theorem getSensorInfo_congr (h : kvp.Represents fields count) (h' : kvp'.Represents fields' count')
    {index : ℕ} (hentry : ∀ name, fields' (entryKey index name) = fields (entryKey index name)) :
    vcomponentThermalGetSensorInfo kvp' index = vcomponentThermalGetSensorInfo kvp index := by
  have hread : ∀ name required, readStringField kvp' (entryKey index name) required =
      readStringField kvp (entryKey index name) required :=
    fun name required => readStringField_congr h h' (hentry name) required
  simp only [vcomponentThermalGetSensorInfo, readRange, readDoubleField, readInt32Field,
    readNumericField, entryKey_eq, entryKey_append, hread]

theorem readEntry_congr (h : kvp.Represents fields count) (h' : kvp'.Represents fields' count')
    {index : ℕ} (hentry : ∀ name, fields' (entryKey index name) = fields (entryKey index name))
    (ids names : List String) : readEntry kvp' index ids names = readEntry kvp index ids names := by
  rw [readEntry, getSensorInfo_congr h h' hentry, readEntry]

/-- **The first fault of a list**: the entries before it are read, and it is what every list
that agrees up to it fails with. -/
theorem parseSensors_error (h : kvp.Represents fields count) {remaining start : ℕ}
    {ids names : List String} {message : String}
    (herror : parseSensors kvp remaining start ids names = .error message) :
    ∃ k < remaining, NamesEntry (start + k) message ∧
      ∀ {kvp' fields' count'}, UtKvpInstance.Represents kvp' fields' count' →
        (∀ j ≤ start + k, ∀ name, fields' (entryKey j name) = fields (entryKey j name)) →
        (∃ sensors, parseSensors kvp' k start ids names = .ok sensors) ∧
          ∀ longer, k < longer → parseSensors kvp' longer start ids names = .error message := by
  induction remaining generalizing start ids names with
  | zero => simp [parseSensors] at herror
  | succ remaining ih =>
    rw [parseSensors_succ] at herror
    cases hentry : readEntry kvp start ids names with
    | error failed =>
      rw [hentry] at herror
      obtain rfl : failed = message := Except.error.inj herror
      refine ⟨0, Nat.succ_pos _, (names_readEntry kvp ids names).names failed hentry, ?_⟩
      intro kvp' fields' count' h' hagree
      have hentry' := (readEntry_congr h h' (hagree start (by omega)) ids names).trans hentry
      refine ⟨⟨[], rfl⟩, fun longer hlonger => ?_⟩
      obtain ⟨n, rfl⟩ := Nat.exists_eq_succ_of_ne_zero (by omega : longer ≠ 0)
      rw [parseSensors_succ, hentry']
      rfl
    | ok entry =>
      -- the fault is behind this entry
      rw [hentry] at herror
      have hrest : parseSensors kvp remaining (start + 1) entry.2.1 entry.2.2 =
          .error message := by
        cases hrest : parseSensors kvp remaining (start + 1) entry.2.1 entry.2.2 with
        | ok sensors => simp [hrest, Bind.bind, Except.bind, pure, Except.pure] at herror
        | error failed => simpa [hrest, Bind.bind, Except.bind] using herror
      obtain ⟨k, hk, hnames, hothers⟩ := ih hrest
      have hindex : start + 1 + k = start + (k + 1) := by omega
      rw [hindex] at hnames hothers
      refine ⟨k + 1, by omega, hnames, ?_⟩
      intro kvp' fields' count' h' hagree
      obtain ⟨⟨sensors, hshort⟩, hlong⟩ := hothers h' hagree
      have hentry' := (readEntry_congr h h' (hagree start (by omega)) ids names).trans hentry
      refine ⟨⟨entry.1 :: sensors, ?_⟩, fun longer hlonger => ?_⟩
      · rw [parseSensors_succ, hentry']
        simp only [hshort, Bind.bind, Except.bind, pure, Except.pure]
      · obtain ⟨n, rfl⟩ := Nat.exists_eq_succ_of_ne_zero (by omega : longer ≠ 0)
        rw [parseSensors_succ, hentry']
        simp only [hlong n (by omega), Bind.bind, Except.bind]

end Agree

/-- With the list there, the result is that of the loop over its entries. -/
theorem UtKvp.HasList.parse_eq {lib : UtKvp} {path : String} {fields : String → Option String}
    {count : ℕ} (h : lib.HasList path fields count) :
    ∃ kvp, UtKvpInstance.Represents kvp fields count ∧
      vcomponentThermalParseConfig lib (some path) =
        match parseSensors kvp count 0 [] [] with
        | .error message => .reject message
        | .ok sensors => ⟨true, { sensors }, ""⟩ := by
  obtain ⟨kvp, hopen, hkvp⟩ := h.opened
  refine ⟨kvp, hkvp, ?_⟩
  have hpath := h.path_ne
  have hpresent : kvp.fieldPresent thermalRoot = true ∧ kvp.fieldPresent thermalList = true := by
    rw [hkvp.fieldPresent, hkvp.fieldPresent]
    exact ⟨h.root, h.list⟩
  cases hloop : parseSensors kvp count 0 [] [] with
  | error message => simp [vcomponentThermalParseConfig, hpath, hopen, hpresent, hkvp.getListCount,
      hloop]
  | ok sensors => simp [vcomponentThermalParseConfig, hpath, hopen, hpresent, hkvp.getListCount,
      hloop]

/-- **What a rejection says.** When a file that has the list is rejected, the message names one
of its entries. Every other file with the same fields up to this entry is accepted if its list
ends before it, and rejected with the same message if its list goes on to it, whatever follows. -/
theorem rejection_names_first_fault {lib : UtKvp} {path : String}
    {fields : String → Option String} {count : ℕ} (h : lib.HasList path fields count)
    (hrejected : (vcomponentThermalParseConfig lib (some path)).accepted = false) :
    ∃ index < count, ∃ message, NamesEntry index message ∧
      vcomponentThermalParseConfig lib (some path) = .reject message ∧
      ∀ (other : UtKvp) (file : String) (fields' : String → Option String) (count' : ℕ),
        other.HasList file fields' count' →
        (∀ j ≤ index, ∀ name, fields' (entryKey j name) = fields (entryKey j name)) →
        (count' = index → (vcomponentThermalParseConfig other (some file)).accepted = true) ∧
          (index < count' →
            vcomponentThermalParseConfig other (some file) = .reject message) := by
  obtain ⟨kvp, hkvp, hparse⟩ := h.parse_eq
  cases hloop : parseSensors kvp count 0 [] [] with
  | ok sensors =>
    rw [hparse, hloop] at hrejected
    contradiction
  | error message =>
    rw [hloop] at hparse
    obtain ⟨index, hindex, hnames, hothers⟩ := parseSensors_error hkvp hloop
    rw [Nat.zero_add] at hnames hothers
    refine ⟨index, hindex, message, hnames, hparse, ?_⟩
    intro other file fields' count' hother hagree
    obtain ⟨kvp', hkvp', hparse'⟩ := hother.parse_eq
    obtain ⟨⟨sensors, hshort⟩, hlong⟩ := hothers hkvp' hagree
    constructor
    · intro hcount
      rw [hparse', hcount, hshort]
    · intro hcount
      rw [hparse', hlong count' hcount]

/-- A file whose only entry has no id. -/
def noIdFile : UtKvp := ⟨fun _ => some (.ofFields (profileFields (boardEntry.drop 1)) 1)⟩

theorem rejection_names_first_fault_noId :
    ∃ message, NamesEntry 0 message ∧
      vcomponentThermalParseConfig noIdFile (some "hfp.yaml") = .reject message := by
  have hfile : noIdFile.HasList "hfp.yaml" ((profileFields (boardEntry.drop 1)).lookup ·) 1 :=
    ⟨by decide, ⟨_, rfl, represents_ofFields _ 1⟩, by simp [profileFields], by decide +kernel⟩
  obtain ⟨index, hindex, message, hnames, hparse, -⟩ :=
    rejection_names_first_fault hfile (by decide +kernel)
  obtain rfl : index = 0 := by omega
  exact ⟨message, hnames, hparse⟩

end ThermalHal
