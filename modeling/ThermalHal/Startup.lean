import ThermalHal.Acceptance
import ThermalHal.Helper
import ThermalHal.Numeral

/-!
# The entry point

`main` parses the command line, loads the profile, and only then constructs the service and
publishes it. `CommandLine` says which argument lists are accepted and what they set, and
`Requests` what a command line asks for together with the files it names; neither mentions the
parsers.

An argument vector is the list of its `argc` pointers, each of which may be null. The name of
the service and the status `addService` returns belong to Binder and are parameters.

## Main definitions

* `parsePort`, `parseArgs`, `main` — the functions of the source.
* `Setting`, `CommandLine` — the grammar of the command line.
* `parseArgs_eq_ok_iff` — the parser accepts exactly that grammar.
* `main_serves` — what the whole program does.
-/

namespace ThermalHal

/-! ## The port -/

/-- A decimal number from 1 to 65535 that fills the text. `errno` is not looked at. -/
def parsePort (s : Option String) : Option UInt16 :=
  match s with
  | none => none
  | some s =>
      if s = "" then none
      else
        match strtol s 10 with
        -- nothing was read, so `end` points at the first character of a text that has one
        | none => none
        | some v =>
            if v.rest ≠ [] then none
            else if v.value ≤ 0 ∨ 65535 < v.value then none
            else some (UInt16.ofNat v.value.toNat)

/-- What is read for a numeral is in a range inside the type exactly if its value is. -/
theorem clamped_value_mem {value v : ℤ} (hv : 0 < v ∧ v ≤ 65535) :
    (clamped (-2 ^ 63) (2 ^ 63 - 1) value).value = v ↔ value = v := by
  unfold clamped
  split_ifs with hlow hhigh
  · simp only
    omega
  · simp only
    omega
  · rfl

theorem rest_clamped (lo hi value : ℤ) : (clamped lo hi value).rest = [] := by
  unfold clamped
  split_ifs <;> rfl

/-- **The accepted ports** are the numerals with a value from 1 to 65535, however many zeros or
blanks they begin with; a value no `long` holds is read as a bound and so is rejected. -/
theorem parsePort_eq_some {s : Option String} {port : UInt16} :
    parsePort s = some port ↔ port ≠ 0 ∧ ∃ n : Numeral, s = some n.text ∧ n.value = port.toNat := by
  have hlt := port.toNat_lt
  have hport : port ≠ 0 ↔ 0 < port.toNat := by
    rw [Nat.pos_iff_ne_zero, Ne, Ne, ← UInt16.toNat_inj]
    rfl
  rw [hport]
  constructor
  · intro h
    unfold parsePort at h
    split at h
    · contradiction
    · rename_i s
      split_ifs at h
      split at h
      · contradiction
      · rename_i read hread
        split_ifs at h with hrest hrange
        obtain ⟨n, rfl, hclamped⟩ := numeral_of_strtoInteger hread (not_not.mp hrest)
        have hv : 0 < read.value ∧ read.value ≤ 65535 := by omega
        have hvalue := (clamped_value_mem hv).mp (by rw [hclamped])
        have hnat : port.toNat = read.value.toNat := by
          rw [← Option.some.inj h, UInt16.toNat_ofNat', Nat.mod_eq_of_lt (by omega)]
        exact ⟨by omega, n, rfl, by omega⟩
  · rintro ⟨hpos, n, rfl, hvalue⟩
    have hne : n.text ≠ "" := n.text_ne_empty
    have hv : (0 : ℤ) < port.toNat ∧ (port.toNat : ℤ) ≤ 65535 := by omega
    have hread := (clamped_value_mem hv).mpr hvalue
    have hvalid : ¬ ((port.toNat : ℤ) ≤ 0 ∨ (65535 : ℤ) < port.toNat) := by omega
    have hwhole : strtol n.text 10 = some (clamped (-2 ^ 63) (2 ^ 63 - 1) n.value) :=
      strtoInteger_text _ _ n (Or.inl rfl)
    simp only [parsePort, if_neg hne, hwhole, rest_clamped, hread, if_neg hvalid, ne_eq,
      not_true_eq_false, if_false, Int.toNat_natCast, UInt16.ofNat_toNat]

/-! ## Arguments -/

def kDefaultHfpPath : String := "vcomponent_configurations/hfp-sensor-thermal.yaml"
def kDefaultControlPlanePort : UInt16 := 8085

/-- The two out-parameters of `parseArgs`. -/
structure ServiceOptions where
  hfpPath : String := kDefaultHfpPath
  controlPort : UInt16 := kDefaultControlPlanePort
  deriving DecidableEq

/-- The loop over the arguments. A failure carries the message it logs, if there is one. -/
def parseArgsLoop : List (Option String) → ServiceOptions → Except (Option String) ServiceOptions
  | [], options => .ok options
  | none :: rest, options => parseArgsLoop rest options
  | some arg :: rest, options =>
      if arg = "--help" ∨ arg = "-h" then .error none
      else if arg = "--hfp" then
        match rest with
        | some value :: rest =>
            if value = "" then .error (some "Missing value for --hfp")
            else parseArgsLoop rest { options with hfpPath := value }
        | _ => .error (some "Missing value for --hfp")
      else if arg = "--port" then
        match rest with
        | some value :: rest =>
            if value = "" then .error (some "Missing value for --port")
            else
              match parsePort (some value) with
              | none => .error (some ("Invalid --port value: " ++ value))
              | some port => parseArgsLoop rest { options with controlPort := port }
        | _ => .error (some "Missing value for --port")
      else .error (some ("Unknown argument: " ++ arg))

/-- The options start from the defaults; the program needs a name. -/
def parseArgs (argv : List (Option String)) : Except (Option String) ServiceOptions :=
  match argv with
  | some _ :: args => parseArgsLoop args {}
  | _ => .error none

/-! ## The grammar -/

/-- What one option of the command line sets. -/
inductive Setting
  | hfp (path : String)
  | port (controlPort : UInt16)
  deriving DecidableEq

def Setting.hfp? : Setting → Option String
  | .hfp path => some path
  | .port _ => none

def Setting.port? : Setting → Option UInt16
  | .hfp _ => none
  | .port controlPort => some controlPort

/-- The argument lists that are accepted, and their settings in order. Null pointers are passed
over, except where a value has to follow. -/
inductive CommandLine : List (Option String) → List Setting → Prop
  | nil : CommandLine [] []
  | null {args settings} : CommandLine args settings → CommandLine (none :: args) settings
  | hfp {path args settings} : path ≠ "" → CommandLine args settings →
      CommandLine (some "--hfp" :: some path :: args) (.hfp path :: settings)
  | port {n : Numeral} {port : UInt16} {args settings} : port ≠ 0 → n.value = port.toNat →
      CommandLine args settings →
      CommandLine (some "--port" :: some n.text :: args) (.port port :: settings)

/-- The last setting of each kind counts, and what was there before where there is none. -/
def ServiceOptions.update (options : ServiceOptions) (settings : List Setting) :
    ServiceOptions where
  hfpPath := (settings.reverse.findSome? Setting.hfp?).getD options.hfpPath
  controlPort := (settings.reverse.findSome? Setting.port?).getD options.controlPort

theorem ServiceOptions.update_hfp (options : ServiceOptions) (path : String)
    (settings : List Setting) :
    options.update (.hfp path :: settings) = { options with hfpPath := path }.update settings := by
  cases hlast : settings.reverse.findSome? Setting.hfp? <;>
    simp [update, Setting.hfp?, Setting.port?, hlast]

theorem ServiceOptions.update_port (options : ServiceOptions) (port : UInt16)
    (settings : List Setting) :
    options.update (.port port :: settings) =
      { options with controlPort := port }.update settings := by
  cases hlast : settings.reverse.findSome? Setting.port? <;>
    simp [update, Setting.hfp?, Setting.port?, hlast]

/-- What the grammar derives, the loop accepts. -/
theorem parseArgsLoop_of_commandLine {args : List (Option String)} {settings : List Setting}
    (h : CommandLine args settings) (options : ServiceOptions) :
    parseArgsLoop args options = .ok (options.update settings) := by
  induction h generalizing options with
  | nil => rfl
  | null _ ih => exact ih options
  | hfp hpath _ ih =>
    rw [ServiceOptions.update_hfp, ← ih]
    simp [parseArgsLoop, hpath]
  | @port n port _ _ hport hvalue _ ih =>
    have hparse : parsePort (some n.text) = some port :=
      parsePort_eq_some.mpr ⟨hport, n, rfl, hvalue⟩
    rw [ServiceOptions.update_port, ← ih]
    simp [parseArgsLoop, n.text_ne_empty, hparse]

/-- What the loop accepts, the grammar derives: one case for each branch that goes on. -/
theorem commandLine_of_parseArgsLoop {args : List (Option String)}
    {options result : ServiceOptions} (h : parseArgsLoop args options = .ok result) :
    ∃ settings, CommandLine args settings ∧ result = options.update settings := by
  fun_induction parseArgsLoop args options with
  | case1 options =>
    rw [← Except.ok.inj h]
    exact ⟨[], .nil, rfl⟩
  | case2 rest options ih =>
    obtain ⟨settings, hgrammar, heq⟩ := ih h
    exact ⟨settings, .null hgrammar, heq⟩
  | case5 options value rest hne _ ih =>
    obtain ⟨settings, hgrammar, heq⟩ := ih h
    exact ⟨.hfp value :: settings, .hfp hne hgrammar, by rw [heq, ServiceOptions.update_hfp]⟩
  | case9 options value rest _ port hport _ _ ih =>
    obtain ⟨settings, hgrammar, heq⟩ := ih h
    obtain ⟨hpos, n, htext, hvalue⟩ := parsePort_eq_some.mp hport
    obtain rfl : value = n.text := Option.some.inj htext
    exact ⟨.port port :: settings, .port hpos hvalue hgrammar,
      by rw [heq, ServiceOptions.update_port]⟩
  | _ => contradiction

/-- The argument vector sets these options: its first entry is the program's name, the others are
derived by the grammar, and the options are the defaults with their settings. -/
structure Sets (argv : List (Option String)) (options : ServiceOptions) : Prop where
  commandLine : ∃ program args settings, argv = some program :: args ∧ CommandLine args settings ∧
    options = ({} : ServiceOptions).update settings

theorem Sets.parseArgs_eq {argv : List (Option String)} {options : ServiceOptions}
    (h : Sets argv options) : parseArgs argv = .ok options := by
  obtain ⟨program, args, settings, rfl, hgrammar, rfl⟩ := h.commandLine
  exact parseArgsLoop_of_commandLine hgrammar {}

theorem sets_of_parseArgs {argv : List (Option String)} {options : ServiceOptions}
    (h : parseArgs argv = .ok options) : Sets argv options := by
  unfold parseArgs at h
  split at h
  · rename_i program args
    obtain ⟨settings, hgrammar, heq⟩ := commandLine_of_parseArgsLoop h
    exact ⟨program, args, settings, rfl, hgrammar, heq⟩
  · contradiction

/-- **The command line is accepted exactly when** the grammar derives it, and its settings then
are the options. -/
theorem parseArgs_eq_ok_iff {argv : List (Option String)} {options : ServiceOptions} :
    parseArgs argv = .ok options ↔
      ∃ program args settings, argv = some program :: args ∧ CommandLine args settings ∧
        options = ({} : ServiceOptions).update settings :=
  ⟨fun h => (sets_of_parseArgs h).commandLine, fun h => Sets.parseArgs_eq ⟨h⟩⟩

/-! ## The program -/

def kServiceStartupFailureExitCode : ℤ := 1
def kInvalidArgumentsExitCode : ℤ := 2

/-- What the program does that something else can see. -/
inductive StartupAction
  | printUsage (progName : Option String)
  | construct (thermalConfig : ThermalHfpConfig) (controlPort : UInt16)
  | addService (serviceName : String)
  | startThreadPool
  | joinThreadPool
  | exit (code : ℤ)
  deriving DecidableEq

/-- Construct the service and hand it to the service manager; `status` is what the manager
answers, zero for `OK`. -/
def publishAndJoinThreadPool (serviceName : Option String) (status : ℤ)
    (thermalConfig : ThermalHfpConfig) (controlPort : UInt16) : List StartupAction :=
  [.construct thermalConfig controlPort, .addService (serviceName.getD "(null)")] ++
    if status ≠ 0 then [.exit kServiceStartupFailureExitCode]
    else [.startThreadPool, .joinThreadPool, .exit 0]

/-- The program; returning from `main` is an exit. -/
def main (lib : UtKvp) (serviceName : Option String) (status : ℤ) (argv : List (Option String)) :
    List StartupAction :=
  match parseArgs argv with
  | .error _ => [.printUsage (argv.head?.getD none), .exit kInvalidArgumentsExitCode]
  | .ok options =>
      let configPath := trim options.hfpPath
      if configPath = "" then [.exit kInvalidArgumentsExitCode]
      else
        let loaded := vcomponentThermalParseConfig lib (some configPath)
        if !loaded.accepted then [.exit kInvalidArgumentsExitCode]
        else
          publishAndJoinThreadPool serviceName status loaded.thermalConfiguration
            options.controlPort

/-! ## What is asked for -/

/-- The files the library can open: their fields and the number of their list entries. -/
structure UtKvp.Holds (lib : UtKvp) (files : String → Option ((String → Option String) × ℕ)) :
    Prop where
  missing : ∀ path, files path = none → lib.openProfile path = none
  opened : ∀ path fields count, files path = some (fields, count) →
    ∃ kvp, lib.openProfile path = some kvp ∧ kvp.Represents fields count

/-- The arguments set these options, and the file at their path declares this profile. -/
structure Requests (files : String → Option ((String → Option String) × ℕ))
    (argv : List (Option String)) (options : ServiceOptions) (thermalConfig : ThermalHfpConfig) :
    Prop where
  sets : Sets argv options
  path_ne : trim options.hfpPath ≠ ""
  declares : ∃ fields count, files (trim options.hfpPath) = some (fields, count) ∧
    (fields thermalRoot).isSome ∧ (fields thermalList).isSome ∧
      DeclaresSensors (dropEmpty fields) count thermalConfig.sensors

variable {lib : UtKvp} {files : String → Option ((String → Option String) × ℕ)}

/-- **What loading gives**: the profile the file declares, or a failure if it declares none. -/
theorem load_cases (hlib : lib.Holds files) {path : String} (hpath : path ≠ "") :
    (∃ cfg, vcomponentThermalParseConfig lib (some path) = ⟨true, cfg, ""⟩ ∧
        ∃ fields count, files path = some (fields, count) ∧ (fields thermalRoot).isSome ∧
          (fields thermalList).isSome ∧ DeclaresSensors (dropEmpty fields) count cfg.sensors) ∨
      ∃ message, vcomponentThermalParseConfig lib (some path) = .reject message ∧
        ∀ fields count, files path = some (fields, count) →
          ¬DeclaresWithoutEmpty fields count := by
  cases hfile : files path with
  | none =>
    have hopen := hlib.missing path hfile
    refine Or.inr ⟨"failed to open thermal HFP YAML: " ++ path, ?_, by simp⟩
    simp [vcomponentThermalParseConfig, hpath, hopen]
  | some file =>
    obtain ⟨kvp, hopen, hkvp⟩ := hlib.opened path file.1 file.2 hfile
    rcases parseConfig_cases hpath hopen hkvp with
      ⟨sensors, hresult, hdeclares⟩ | ⟨message, hresult, -, hinvalid⟩
    · exact Or.inl ⟨{ sensors }, hresult, file.1, file.2, rfl, hdeclares⟩
    · refine Or.inr ⟨message, hresult, fun fields count hsome => ?_⟩
      obtain rfl : file = (fields, count) := Option.some.inj hsome
      exact hinvalid

/-- The port of an accepted command line is not zero. -/
theorem controlPort_ne_zero {args : List (Option String)} {settings : List Setting}
    (h : CommandLine args settings) {options : ServiceOptions}
    (hoptions : options.controlPort ≠ 0) :
    (options.update settings).controlPort ≠ 0 := by
  induction h generalizing options with
  | nil => exact hoptions
  | null _ ih => exact ih hoptions
  | hfp _ _ ih =>
    rw [ServiceOptions.update_hfp]
    exact ih hoptions
  | port hport _ _ ih =>
    rw [ServiceOptions.update_port]
    exact ih hport

/-- **What the program does.** If the command line is derived by the grammar and the file at its
trimmed path declares a profile, the service is constructed with that profile and that port,
which is not zero, and then published. Otherwise the program exits with code 2, and it has done
nothing but print its usage at most: no service is constructed and none is published. -/
theorem main_serves (hlib : lib.Holds files) (serviceName : Option String) (status : ℤ)
    (argv : List (Option String)) :
    (∃ options cfg, Requests files argv options cfg ∧ Accepted cfg ∧ options.controlPort ≠ 0 ∧
        main lib serviceName status argv =
          publishAndJoinThreadPool serviceName status cfg options.controlPort) ∨
      (∀ options cfg, ¬Requests files argv options cfg) ∧
        ∃ shown : List (Option String), main lib serviceName status argv =
          shown.map StartupAction.printUsage ++ [.exit kInvalidArgumentsExitCode] := by
  cases hparse : parseArgs argv with
  | error message =>
    refine Or.inr ⟨fun options cfg h => ?_, [argv.head?.getD none], by simp [main, hparse]⟩
    have haccepted := h.sets.parseArgs_eq
    rw [hparse] at haccepted
    contradiction
  | ok options =>
    have hsets := sets_of_parseArgs hparse
    -- the parser is a function, so an argument vector has one derivation up to its options
    have hunique : ∀ {other cfg}, Requests files argv other cfg → other = options := by
      intro other cfg h
      have haccepted := h.sets.parseArgs_eq
      exact Except.ok.inj (haccepted.symm.trans hparse)
    by_cases hpath : trim options.hfpPath = ""
    · refine Or.inr ⟨fun other cfg h => h.path_ne (hunique h ▸ hpath), [], ?_⟩
      simp [main, hparse, hpath]
    · rcases load_cases hlib hpath with ⟨cfg, hload, hdeclares⟩ | ⟨message, hload, hnone⟩
      · have hport : options.controlPort ≠ 0 := by
          obtain ⟨program, args, settings, -, hgrammar, rfl⟩ := hsets.commandLine
          exact controlPort_ne_zero hgrammar (by decide)
        refine Or.inl ⟨options, cfg, ⟨hsets, hpath, hdeclares⟩, .of_parse lib _ hload, hport, ?_⟩
        simp [main, hparse, hpath, hload]
      · refine Or.inr ⟨fun other cfg h => ?_, [], ?_⟩
        · obtain ⟨fields, count, hfile, hroot, hlist, hdeclares⟩ := h.declares
          rw [hunique h] at hfile
          exact hnone fields count hfile ⟨hroot, hlist, cfg.sensors, hdeclares⟩
        · simp [main, hparse, hpath, hload, ParseResult.reject]

/-- A library with one file. -/
def UtKvp.ofFile (file : String) (fields : List (String × String)) (count : ℕ) : UtKvp where
  openProfile path := if path = file then some (.ofFields fields count) else none

theorem UtKvp.holds_ofFile (file : String) (fields : List (String × String)) (count : ℕ) :
    (UtKvp.ofFile file fields count).Holds fun path =>
      if path = file then some (fun key => fields.lookup key, count) else none where
  missing path h := by
    by_cases hpath : path = file <;> simp_all [ofFile]
  opened path read n h := by
    by_cases hpath : path = file
    · simp only [hpath, if_true, Option.some.injEq, Prod.mk.injEq] at h
      obtain ⟨rfl, rfl⟩ := h
      exact ⟨.ofFields fields count, if_pos hpath, represents_ofFields fields count⟩
    · simp [hpath] at h

theorem main_serves_board :
    let argv := ["service", "--port", "9000", "--hfp", " hfp.yaml"].map some
    let fields := profileFields boardEntry
    let files := fun path =>
      if path = "hfp.yaml" then some (fun key => fields.lookup key, 1) else none
    let lib := UtKvp.ofFile "hfp.yaml" fields 1
    (∃ options cfg, Requests files argv options cfg ∧ Accepted cfg ∧ options.controlPort ≠ 0 ∧
        main lib (some "thermal") 0 argv =
          publishAndJoinThreadPool (some "thermal") 0 cfg options.controlPort) ∨
      (∀ options cfg, ¬Requests files argv options cfg) ∧
        ∃ shown : List (Option String), main lib (some "thermal") 0 argv =
          shown.map StartupAction.printUsage ++ [.exit kInvalidArgumentsExitCode] :=
  main_serves (UtKvp.holds_ofFile "hfp.yaml" (profileFields boardEntry) 1) (some "thermal") 0 _

example : main (.ofFile "hfp.yaml" (profileFields boardEntry) 1) (some "thermal") 0
    (["service", "--port", "9000", "--hfp", " hfp.yaml"].map some) =
    publishAndJoinThreadPool (some "thermal") 0 boardProfile 9000 := by decide +kernel

end ThermalHal
