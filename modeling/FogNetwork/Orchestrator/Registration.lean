import FogNetwork.Orchestrator.Basic
import FogNetwork.Topology.Hierarchy

/-! Registering devices, sensors and actuators. -/

namespace FogNetwork

def enterDevices : List Device → Devices → Except Rejection Unit × Devices
  | [], devices => (.ok (), devices)
  | device :: rest, devices =>
      if devices.contains device.id then (.error (.deviceAlreadyRegistered device.id), devices)
      else enterDevices rest (devices.insert device.id device)

namespace Orchestrator

/-- Registers devices, sensors and actuators and derives the child tables. After a rejection the
devices before the rejected one stay registered, and nothing else has changed. -/
def register (devices : List Device) (sensors : List Sensor) (actuators : List Actuator)
    (orchestrator : Orchestrator) : Logged (Except Rejection Unit × Orchestrator) := do
  match enterDevices devices orchestrator.devices with
  | (.error rejection, entered) =>
      return (.error rejection, { orchestrator with devices := entered })
  | (.ok (), entered) =>
      let connected ← connect entered
      let orchestrator :=
        { orchestrator with
          devices := connected
          sensors := sensors.foldl (fun map sensor => map.insert sensor.id sensor)
            orchestrator.sensors
          actuators := actuators.foldl (fun map actuator => map.insert actuator.id actuator)
            orchestrator.actuators }
      Logged.note (.topologyRegistered orchestrator.devices.size orchestrator.sensors.size
        orchestrator.actuators.size)
      return (.ok (), orchestrator)

end Orchestrator
end FogNetwork
