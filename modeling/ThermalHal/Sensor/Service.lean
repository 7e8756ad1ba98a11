import ThermalHal.Helper
import ThermalHal.HfpConfig
import ThermalHal.Sensor.State

/-!
# The thermal sensor service

The state behind `m_mutex`, the shutdown flag, and the member functions that read
and write them. Everything a function asks of its surroundings while it runs
(listener calls, the boot-reason service, the process calls of the power-off, the
clock, and which registry calls of other threads get the mutex between the two
critical sections of one sample) is an `Environment`. Every call it makes is an
`Effect`, in program order.

## Main definitions

* `ThermalSensor` — the state; `initializeSensors` builds it from a profile.
* `evaluateSensorState`, `applyTemperatureSample` — the policy.
* `notifyListeners`, `scheduleThermalShutdown`, `recordThermalShutdownReason`,
  `requestSystemPoweroff` — what a transition sets off.
* `registerEventListener`, `unregisterEventListener` — the registry.
-/

namespace ThermalHal

/-! ## Data -/

structure TemperatureReading where
  sensorName : String
  location : String
  temperatureCelsius : ℚ
  timestampMonotonicMs : ℤ
  vendorCode : ℤ
  vendorInfo : String
  deriving DecidableEq, Repr

structure ActionEvent where
  state : State
  timestampMonotonicMs : ℤ
  temperatureReading : Option TemperatureReading
  deriving DecidableEq, Repr

/-- A non-null listener: the pointer, and the identity of the binder behind it, which
is what `asBinder` compares. -/
structure IThermalEventListener where
  pointer : ℕ
  asBinder : ℕ
  deriving DecidableEq, Repr

/-- A configured sensor with its latest reading. -/
structure SensorRuntime where
  config : ThermalSensorConfig
  reading : TemperatureReading
  state : State
  deriving DecidableEq, Repr

/-- The service. The registry holds no null pointer: `registerEventListener` rejects
it, so the null test inside `notifyListeners` never skips an entry. -/
structure ThermalSensor where
  sensors : List SensorRuntime := []
  currentState : State := .normal
  listeners : List IThermalEventListener := []
  shutdownScheduled : Bool := false
  deriving DecidableEq, Repr

/-- The arguments of `applyTemperatureSample`. -/
structure TemperatureSample where
  sensorNameOrId : String
  temperatureCelsius : Double
  timestampMonotonicMs : ℤ
  deriving DecidableEq, Repr

/-! ## Start-up -/

def makeReadingFromConfig (config : ThermalSensorConfig) (temperatureCelsius : ℚ)
    (timestampMs : ℤ) : TemperatureReading where
  sensorName := if config.sensorName = "" then config.id else config.sensorName
  location := config.location
  temperatureCelsius := temperatureCelsius
  timestampMonotonicMs := timestampMs
  vendorCode := config.vendor.vendorCode
  vendorInfo := config.vendor.vendorInfo

def initialTemperatureForSensor (config : ThermalSensorConfig) : ℚ :=
  let minTemperature := config.operationalTemperatureCelsius.min
  let maxTemperature := config.operationalTemperatureCelsius.max
  if minTemperature < maxTemperature then
    minTemperature + (maxTemperature - minTemperature) / 2
  else if 0 < config.triggers.criticalTemperatureRecoveredCelsius then
    config.triggers.criticalTemperatureRecoveredCelsius
  else 0

/-- The runtime record of a sensor that has not been sampled. -/
def initialRuntime (steadyClockMs : ℤ) (config : ThermalSensorConfig) : SensorRuntime where
  config := config
  reading := makeReadingFromConfig config (initialTemperatureForSensor config)
    (monotonicTimestampMs steadyClockMs)
  state := .normal

/-- The service as the constructor leaves it. -/
def initializeSensors (configuration : ThermalHfpConfig) (steadyClockMs : ℤ) : ThermalSensor where
  sensors := configuration.sensors.map (initialRuntime steadyClockMs)
  currentState := .normal

/-! ## The listener registry -/

inductive BinderStatus
  | ok
  | exNullPointer
  deriving DecidableEq, Repr

/-- A call on the registry by some client; the listener may be null, and the flag
says whether `_aidl_return` is not. -/
inductive RegistryCall
  | register (listener : Option IThermalEventListener) (hasReturn : Bool)
  | unregister (listener : Option IThermalEventListener) (hasReturn : Bool)
  deriving DecidableEq, Repr

/-- The status and, where there is somewhere to store it, `*_aidl_return`. -/
structure RegistryReply where
  status : BinderStatus
  aidlReturn : Option Bool
  deriving DecidableEq, Repr

def RegistryReply.of (status : BinderStatus) (hasReturn value : Bool) : RegistryReply :=
  ⟨status, if hasReturn then some value else none⟩

def registerEventListener (listener : Option IThermalEventListener) (hasReturn : Bool)
    (listeners : List IThermalEventListener) : List IThermalEventListener × RegistryReply :=
  match listener with
  | none => (listeners, .of .exNullPointer hasReturn false)
  | some b =>
      if listeners.any fun l => l.asBinder = b.asBinder then
        (listeners, .of .ok hasReturn false)
      else (listeners ++ [b], .of .ok hasReturn true)

def unregisterEventListener (listener : Option IThermalEventListener) (hasReturn : Bool)
    (listeners : List IThermalEventListener) : List IThermalEventListener × RegistryReply :=
  match listener with
  | none => (listeners, .of .exNullPointer hasReturn false)
  | some b =>
      let remaining := listeners.filter fun l => l.asBinder ≠ b.asBinder
      (remaining, .of .ok hasReturn (remaining.length ≠ listeners.length))

def RegistryCall.run (listeners : List IThermalEventListener) :
    RegistryCall → List IThermalEventListener × RegistryReply
  | .register listener hasReturn => registerEventListener listener hasReturn listeners
  | .unregister listener hasReturn => unregisterEventListener listener hasReturn listeners

/-- What a call leaves in the registry. -/
def RegistryCall.apply (listeners : List IThermalEventListener) (call : RegistryCall) :
    List IThermalEventListener :=
  (call.run listeners).1

/-! ## The environment and the calls made on it -/

/-- What `fork` returns to the parent. -/
inductive ForkResult
  | failed
  | child (pid : ℕ)
  deriving DecidableEq, Repr

/-- How the launcher process ended. -/
inductive LauncherStatus
  | exited (status : ℕ)
  | signaled (signal : ℕ)
  | other
  deriving DecidableEq, Repr

/-- What `waitpid` returns once no signal interrupts it. -/
inductive ReapResult
  | failed
  | reaped (status : LauncherStatus)
  deriving DecidableEq, Repr

/-- The process calls of one power-off request. `interrupts` is how often `waitpid`
fails with `EINTR` before it returns `reap`. -/
structure PoweroffEnvironment where
  accessible : Bool
  fork : ForkResult
  interrupts : ℕ
  reap : ReapResult
  deriving DecidableEq, Repr

/-- The boot-reason service: whether each step of reaching it gives a non-null pointer,
and whether `setBootCause` succeeds. -/
structure BootReasonEnvironment where
  serviceManager : Bool
  binder : Bool
  client : Bool
  causeStatus : Bool
  deriving DecidableEq, Repr

/-- Everything outside the service that one sample meets. `betweenSections` are the
registry calls that get the mutex after the state change and before
`notifyListeners` copies the registry. -/
structure Environment where
  steadyClockMs : ℤ
  betweenSections : List RegistryCall
  listenerStatus : IThermalEventListener → Bool
  bootReason : BootReasonEnvironment
  poweroff : PoweroffEnvironment

/-- The boot cause the service records, the one value of the enumeration that it names. -/
inductive BootCause
  | thermalReset
  deriving DecidableEq, Repr

/-- The calls the service makes, its own shutdown steps included. -/
inductive Effect
  | notifyListeners (event : ActionEvent)
  | onThermalStateChange (listener : IThermalEventListener) (event : ActionEvent) (isOk : Bool)
  | scheduleThermalShutdown (reasonString : String)
  | recordThermalShutdownReason (reasonString : String)
  | defaultServiceManager (found : Bool)
  | checkService (found : Bool)
  | interfaceCast (created : Bool)
  | setBootCause (cause : BootCause) (reasonString : String) (isOk : Bool)
  | requestSystemPoweroff
  | access (ok : Bool)
  | fork (result : ForkResult)
  | waitpidInterrupted
  | waitpid (result : ReapResult)
  deriving DecidableEq, Repr

/-! ## Power-off -/

def kThermalShutdownReason : String := "thermal_shutdown"
def kBootReasonMaxBytes : ℕ := 64

/-- The `do … while` loop around `waitpid`. -/
def reapLauncher : ℕ → ReapResult → List Effect
  | 0, reap => [.waitpid reap]
  | interrupts + 1, reap => .waitpidInterrupted :: reapLauncher interrupts reap

/-- The parent's side of the power-off request. -/
def requestSystemPoweroff (env : PoweroffEnvironment) (s : ThermalSensor) :
    ThermalSensor × List Effect :=
  if !env.accessible then (s, [.requestSystemPoweroff, .access false])
  else
    match env.fork with
    | .failed =>
        ({ s with shutdownScheduled := false },
          [.requestSystemPoweroff, .access true, .fork .failed])
    | .child pid =>
        let calls := .requestSystemPoweroff :: .access true :: .fork (.child pid) ::
          reapLauncher env.interrupts env.reap
        match env.reap with
        | .failed => (s, calls)
        | .reaped (.exited 0) => (s, calls)
        | .reaped (.exited _) => ({ s with shutdownScheduled := false }, calls)
        | .reaped (.signaled _) => (s, calls)
        | .reaped .other => (s, calls)

def recordThermalShutdownReason (env : BootReasonEnvironment) (reasonString : String) :
    List Effect :=
  if reasonString = "" ∨ kBootReasonMaxBytes < reasonString.utf8ByteSize then
    [.recordThermalShutdownReason reasonString]
  else if !env.serviceManager then
    [.recordThermalShutdownReason reasonString, .defaultServiceManager false]
  else if !env.binder then
    [.recordThermalShutdownReason reasonString, .defaultServiceManager true, .checkService false]
  else if !env.client then
    [.recordThermalShutdownReason reasonString, .defaultServiceManager true, .checkService true,
      .interfaceCast false]
  else
    [.recordThermalShutdownReason reasonString, .defaultServiceManager true, .checkService true,
      .interfaceCast true, .setBootCause .thermalReset reasonString env.causeStatus]

/-- The compare-exchange on the flag, then the boot reason, then the power-off. -/
def scheduleThermalShutdown (env : Environment) (reasonString : String) (s : ThermalSensor) :
    ThermalSensor × List Effect :=
  if s.shutdownScheduled then (s, [.scheduleThermalShutdown reasonString])
  else
    let recorded := recordThermalShutdownReason env.bootReason reasonString
    let poweroff := requestSystemPoweroff env.poweroff { s with shutdownScheduled := true }
    (poweroff.1, .scheduleThermalShutdown reasonString :: recorded ++ poweroff.2)

/-! ## Samples -/

/-- Copy the registry, then call every listener whatever the earlier calls returned. -/
def notifyListeners (env : Environment) (event : ActionEvent) (s : ThermalSensor) : List Effect :=
  .notifyListeners event ::
    s.listeners.map fun listener =>
      .onThermalStateChange listener event (env.listenerStatus listener)

def evaluateSensorState (runtime : SensorRuntime) (temperatureCelsius : ℚ) : State :=
  let triggers := runtime.config.triggers
  if triggers.enteringCriticalShutdownCelsius ≤ temperatureCelsius then .criticalShutdownImminent
  else if triggers.criticalTemperatureExceededCelsius ≤ temperatureCelsius then
    .criticalTemperatureExceeded
  else if isActiveCriticalTemperatureState runtime.state then
    if temperatureCelsius ≤ triggers.criticalTemperatureRecoveredCelsius then
      .criticalTemperatureRecovered
    else .criticalTemperatureExceeded  -- cooling through the hysteresis band
  else .normal

/-- The test of the lookup: a sensor answers to its name and to its id. -/
def ThermalSensorConfig.matchesKey (config : ThermalSensorConfig) (sensorNameOrId : String) :
    Bool :=
  config.sensorName = sensorNameOrId || config.id = sensorNameOrId

/-- `std::find_if` over the runtime records: the first match and its position. -/
def findSensor (sensors : List SensorRuntime) (sensorNameOrId : String) :
    Option (SensorRuntime × ℕ) :=
  sensors.zipIdx.find? fun entry => entry.1.config.matchesKey sensorNameOrId

/-- The fold over all sensors that follows every accepted sample. -/
def aggregateOf (sensors : List SensorRuntime) : State :=
  sensors.foldl (fun aggregate runtime => moreSevere aggregate runtime.state) .normal

/-- The first critical section of `applyTemperatureSample`: the new state, and the
event to announce when the aggregate changed. -/
def applyTemperatureSampleLocked (steadyClockMs : ℤ) (sample : TemperatureSample)
    (s : ThermalSensor) : ThermalSensor × Option ActionEvent :=
  match findSensor s.sensors sample.sensorNameOrId with
  | none => (s, none)
  | some (it, position) =>
      match sample.temperatureCelsius.finite? with
      | none => (s, none)
      | some temperatureCelsius =>
          let measurableRange := it.config.sensorReadingRangeCelsius
          if temperatureCelsius < measurableRange.min ∨ measurableRange.max < temperatureCelsius then
            (s, none)
          else
            let effectiveTimestampMs :=
              if 0 ≤ sample.timestampMonotonicMs then sample.timestampMonotonicMs
              else monotonicTimestampMs steadyClockMs
            let reading := makeReadingFromConfig it.config temperatureCelsius effectiveTimestampMs
            let updated : SensorRuntime :=
              { it with reading, state := evaluateSensorState it temperatureCelsius }
            let sensors := s.sensors.set position updated
            -- the latch: once imminent, the aggregate never leaves that state
            let aggregateState :=
              if s.currentState = .criticalShutdownImminent ∧
                  aggregateOf sensors ≠ .criticalShutdownImminent then
                .criticalShutdownImminent
              else aggregateOf sensors
            if aggregateState ≠ s.currentState then
              ({ s with sensors, currentState := aggregateState },
                some ⟨aggregateState, effectiveTimestampMs, some reading⟩)
            else ({ s with sensors }, none)

/-- Apply one sample: the locked update, then outside the lock the notification and,
for a shutdown event, the power-off. -/
def applyTemperatureSample (env : Environment) (sample : TemperatureSample) (s : ThermalSensor) :
    ThermalSensor × List Effect :=
  match applyTemperatureSampleLocked env.steadyClockMs sample s with
  | (s, none) => (s, [])
  | (s, some event) =>
      let s := { s with listeners := env.betweenSections.foldl RegistryCall.apply s.listeners }
      let notified := notifyListeners env event s
      if event.state = .criticalShutdownImminent then
        let scheduled := scheduleThermalShutdown env kThermalShutdownReason s
        (scheduled.1, notified ++ scheduled.2)
      else (s, notified)

/-! ## Queries -/

def getCurrentThermalState (s : ThermalSensor) : State := s.currentState

def getCurrentTemperatures (s : ThermalSensor) : List TemperatureReading :=
  s.sensors.map SensorRuntime.reading

end ThermalHal
