import ThermalHal.Lib.Machine
import ThermalHal.Lib.Flow
import ThermalHal.Lib.Hysteresis
import ThermalHal.Lib.Worst
import ThermalHal.Lib.OrderedMap
import ThermalHal.Lib.Broadcast
import ThermalHal.Lib.Register
import ThermalHal.Lib.Population
import ThermalHal.Lib.Custody
import ThermalHal.Lib.FloatFormat
import ThermalHal.Cstd
import ThermalHal.Helper
import ThermalHal.HfpConfig
import ThermalHal.ParseConfig
import ThermalHal.Numeral
import ThermalHal.Profile
import ThermalHal.Acceptance
import ThermalHal.Diagnosis
import ThermalHal.Defaults
import ThermalHal.Startup
import ThermalHal.Binary64
import ThermalHal.Hexadecimal
import ThermalHal.RoundTrip
import ThermalHal.Sensor.State
import ThermalHal.Sensor.Service
import ThermalHal.Sensor.Rounding
import ThermalHal.Sensor.Policy
import ThermalHal.Sensor.Run
import ThermalHal.Sensor.Invariant
import ThermalHal.Sensor.History
import ThermalHal.Sensor.Events
import ThermalHal.Sensor.Shutdown
import ThermalHal.Sensor.Recovery
import ThermalHal.Sensor.Processes
import ThermalHal.Sensor.Lookup
import ThermalHal.Sensor.Readings
import ThermalHal.Sensor.Order
import ThermalHal.Sensor.Telemetry
import ThermalHal.Sensor.Monotone
import ThermalHal.Sensor.Concurrent
import ThermalHal.Sensor.Registry
import ThermalHal.Sensor.Linearized
import ThermalHal.Sensor.Subscription
import ThermalHal.Sensor.Warning
import ThermalHal.Controller.Queue
import ThermalHal.Controller.Pipeline
import ThermalHal.Controller.Keys
import ThermalHal.Controller.Message
import ThermalHal.Controller.Delivery
import ThermalHal.Controller.Overtaking
import ThermalHal.Controller.Bound
import ThermalHal.Controller.Newest
import ThermalHal.Controller.Lifecycle
import ThermalHal.Controller.Drain
import ThermalHal.Controller.Instances
import ThermalHal.Component.Lifetime
import ThermalHal.Component.Refinement
import ThermalHal.Component.Teardown
import ThermalHal.Component.Response
