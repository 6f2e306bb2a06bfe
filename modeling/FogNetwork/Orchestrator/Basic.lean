import FogNetwork.Actuator
import FogNetwork.Config.Basic
import FogNetwork.Device.Basic
import FogNetwork.Placement.Basic
import FogNetwork.Report.Exporter
import FogNetwork.Sensor

/-! The orchestrator of a run. It owns the devices, sensors and actuators, holds one application
with its placement, and keeps the figures of the run once it has ended. -/

namespace FogNetwork

structure Submission where
  application : Application
  placement : Placement
  /-- The ticks from the start of the run to the launch. -/
  delay : Nat

structure Orchestrator where
  config : Config
  devices : Devices
  sensors : SortedMap SensorId Sensor
  actuators : SortedMap ActuatorId Actuator
  exporter : Exporter
  active : Option Submission
  coverage : SortedMap String Coverage
  startedAt : Option Time
  controlTicks : Nat
  snapshot : Option Snapshot

namespace Orchestrator

def initial (config : Config) (exporter : Exporter) : Orchestrator where
  config := config
  devices := .empty
  sensors := .empty
  actuators := .empty
  exporter := exporter
  active := none
  coverage := .empty
  startedAt := none
  controlTicks := 0
  snapshot := none

def application? (orchestrator : Orchestrator) : Option Application :=
  orchestrator.active.map (·.application)

def isStarted (orchestrator : Orchestrator) : Bool := orchestrator.startedAt.isSome

def snapshot? (orchestrator : Orchestrator) : Except Rejection Snapshot :=
  match orchestrator.snapshot with
  | some snapshot => .ok snapshot
  | none => .error .notTerminated

def relay? (orchestrator : Orchestrator) (id : DeviceId) : Option Relay :=
  (orchestrator.devices.get? id).bind Device.relay?

def changeRelay (orchestrator : Orchestrator) (id : DeviceId) (change : Relay → Relay) :
    Orchestrator :=
  { orchestrator with devices := orchestrator.devices.modify id (Device.changeRelay change) }

end Orchestrator
end FogNetwork
