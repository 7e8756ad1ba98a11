import Mathlib.Data.Rat.Defs

/-!
# The HFP configuration model

The in-memory form of a thermal profile, with the defaults its declarations give.
Numbers that the profile stores as `double` are finite by the time they are here,
so they are exact numbers.
-/

namespace ThermalHal

/-- Inclusive temperature range in degrees Celsius. -/
structure ThermalRange where
  min : ℚ := 0
  max : ℚ := 0
  deriving DecidableEq, Repr

/-- Trigger points of the vendor policy, in degrees Celsius. -/
structure ThermalTriggers where
  criticalTemperatureRecoveredCelsius : ℚ := 0
  criticalTemperatureExceededCelsius : ℚ := 0
  enteringCriticalShutdownCelsius : ℚ := 0
  deriving DecidableEq, Repr

structure ThermalRecoveryPolicy where
  strategy : String := "TIME_BASED"
  minCooldownSeconds : ℤ := 0
  deriving DecidableEq, Repr

structure ThermalPolicy where
  shutdownMinDowntimeSeconds : ℤ := 0
  recovery : ThermalRecoveryPolicy := {}
  deriving DecidableEq, Repr

/-- Diagnostic metadata that is copied into every reading. -/
structure ThermalVendorInfo where
  vendorCode : ℤ := 0
  vendorInfo : String := ""
  deriving DecidableEq, Repr

/-- One entry of the `sensor.thermal` list. -/
structure ThermalSensorConfig where
  id : String := ""
  sensorName : String := ""
  location : String := ""
  sensorReadingRangeCelsius : ThermalRange := {}
  operationalTemperatureCelsius : ThermalRange := {}
  triggers : ThermalTriggers := {}
  policy : ThermalPolicy := {}
  vendor : ThermalVendorInfo := {}
  deriving DecidableEq, Repr

/-- A profile: its sensors in list order. -/
structure ThermalHfpConfig where
  sensors : List ThermalSensorConfig := []
  deriving DecidableEq, Repr

end ThermalHal
