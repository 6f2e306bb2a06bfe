import FogNetwork.Simulation.Context

/-! Sensors emit tuples of one type into a gateway device, at regular intervals. -/

namespace FogNetwork

structure Sensor where
  id : SensorId
  name : String
  application : String
  tupleType : String
  gateway : DeviceId
  latency : Nat
  interval : Nat
  sent : Nat

def Timings.enterLoops (tupleType : String) (tuple : Nat) (now : Time) (paths : List LoopPath)
    (timings : Timings) : Timings :=
  (paths.filter (·.startsWith tupleType)).foldl
    (fun timings path => timings.enterLoop path.id tuple now) timings

namespace Sensor

def named (id : SensorId) (name tupleType application : String) : Sensor :=
  ⟨id, name, application, tupleType, ⟨0⟩, 1, 5, 0⟩

def attachedTo (sensor : Sensor) (gateway : DeviceId) (latency : Nat) : Sensor :=
  { sensor with gateway := gateway, latency := latency }

def every (sensor : Sensor) (interval : Nat) : Sensor :=
  { sensor with interval := max interval 1 }

def arm (sensor : Sensor) : Act Unit := do
  let _ ← Act.scheduleAfter sensor.interval (.transmit sensor.id)

/-- Emits one tuple towards the gateway and asks for the next emission. A sensor whose type feeds
no edge stops. -/
def transmit (application : Application) (sensor : Sensor) : Act Sensor := do
  match application.sensorEdge? sensor.tupleType with
  | none =>
      Act.note (.sensorWithoutEdge sensor.id sensor.tupleType)
      return sensor
  | some edge =>
      let now ← Act.now
      let id ← Act.withTimings Timings.issue
      Act.changeTimings (·.enterLoops sensor.tupleType id now application.loops)
      let _ ← Act.send sensor.gateway sensor.latency (Tuple.emitted id application.id edge)
      sensor.arm
      return { sensor with sent := sensor.sent + 1 }

end Sensor
end FogNetwork
