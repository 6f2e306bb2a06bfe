import FogNetwork.Event

/-! What a run reports while it goes on. A notice is kept as data; its line is written only when
somebody reads it. -/

namespace FogNetwork

inductive Level where
  | error
  | warn
  | info
  | debug
  | trace
  deriving DecidableEq

def Level.rank : Level → Nat
  | .error => 0
  | .warn => 1
  | .info => 2
  | .debug => 3
  | .trace => 4

def Level.text : Level → String
  | .error => "ERROR"
  | .warn => "WARN"
  | .info => "INFO"
  | .debug => "DEBUG"
  | .trace => "TRACE"

inductive Notice where
  | topologyRegistered (devices sensors actuators : Nat)
  | linkDropped (child parent : DeviceId)
  | applicationSubmitted (application : String) (delay : Nat)
  | noActuatorMatches (application actuatorType : String)
  | edgeFromUnknownModule (application source : String)
  | startingWithoutApplication
  | simulationStarted (time : Time) (runLength : Nat)
  | applicationActivated (application : String) (time : Time)
  | controlTick (time : Time) (tick : Nat)
  | noFurtherControlTick
  | dispatch (id : EventId) (time : Time) (payload : Payload)
  | unknownDevice (device : DeviceId) (event : DeviceEvent)
  | unknownSensor (sensor : SensorId)
  | unknownActuator (actuator : ActuatorId)
  | sensorInactive (sensor : SensorId)
  | sensorWithoutEdge (sensor : SensorId) (tupleType : String)
  | launchNotHeld (application : String)
  | tupleFinished (tuple : Tuple)
  | tupleDelivered (actuator : ActuatorId) (tuple : Tuple)
  | forwarding (device target : DeviceId) (tuple : Tuple)
  | parkedSouth (device : DeviceId) (tuple : Tuple)
  | executedWithoutApplication (device : DeviceId) (name : String)
  | moduleLaunched (device : DeviceId) (name : String)
  | endWithoutStart (tuple : Nat)
  | notAdmitted (payload : Payload)
  | duplicateTermination
  | simulationStopped (time : Time) (pending : Nat)
  | simulationTerminated (time : Time) (discarded : Nat)
  | backlogSkipped (tuple : Tuple) (source : String)
  | metricsWritten
  | exportFailed
  | noPathToHost (relay : DeviceId) (name : String)

namespace Notice

def level : Notice → Level
  | .exportFailed => .error
  | .linkDropped .. | .noActuatorMatches .. | .edgeFromUnknownModule .. => .warn
  | .startingWithoutApplication | .unknownDevice .. | .unknownSensor _ => .warn
  | .unknownActuator _ | .sensorWithoutEdge .. | .launchNotHeld _ => .warn
  | .executedWithoutApplication .. | .noPathToHost .. => .warn
  | .topologyRegistered .. | .applicationSubmitted .. | .simulationStarted .. => .info
  | .applicationActivated .. | .simulationStopped .. | .simulationTerminated .. => .info
  | .metricsWritten => .info
  | .controlTick .. | .noFurtherControlTick | .sensorInactive _ | .tupleDelivered .. => .debug
  | .parkedSouth .. | .moduleLaunched .. | .notAdmitted _ | .duplicateTermination => .debug
  | .backlogSkipped .. => .debug
  | .dispatch .. | .tupleFinished _ | .forwarding .. | .endWithoutStart _ => .trace

def message : Notice → String
  | .topologyRegistered .. => "topology registered"
  | .linkDropped .. => "parent device not registered; link dropped"
  | .applicationSubmitted .. => "application submitted"
  | .noActuatorMatches .. => "no actuator matches edge"
  | .edgeFromUnknownModule .. => "actuator edge from unknown module"
  | .startingWithoutApplication => "starting with no application"
  | .simulationStarted .. => "simulation started"
  | .applicationActivated .. => "application activated"
  | .controlTick .. => "control tick"
  | .noFurtherControlTick => "next control tick is past the end of virtual time"
  | .dispatch .. => "dispatch"
  | .unknownDevice .. => "event for unknown device dropped"
  | .unknownSensor _ => "event for unknown sensor dropped"
  | .unknownActuator _ => "event for unknown actuator dropped"
  | .sensorInactive _ => "sensor's application is not active"
  | .sensorWithoutEdge .. => "no sensor edge; sensor stops"
  | .launchNotHeld _ => "launch for an application that is not held"
  | .tupleFinished _ => "tuple finished"
  | .tupleDelivered .. => "tuple delivered"
  | .forwarding .. => "forwarding"
  | .parkedSouth .. => "no route; tuple parked south"
  | .executedWithoutApplication .. => "executed a tuple with no application"
  | .moduleLaunched .. => "module launched"
  | .endWithoutStart _ => "execution end without start; dropped"
  | .notAdmitted _ => "simulation terminated; event not admitted"
  | .duplicateTermination => "duplicate termination ignored"
  | .simulationStopped .. => "simulation stopped"
  | .simulationTerminated .. => "simulation terminated"
  | .backlogSkipped .. => "backlog tuple for unknown module skipped"
  | .metricsWritten => "metrics written"
  | .exportFailed => "metrics export failed"
  | .noPathToHost .. => "no path to any host of module"

def fields : Notice → List (String × String)
  | .topologyRegistered devices sensors actuators =>
      [("devices", toString devices), ("sensors", toString sensors),
        ("actuators", toString actuators)]
  | .linkDropped child parent => [("child", child.text), ("parent", parent.text)]
  | .applicationSubmitted application delay => [("app", application), ("delay", toString delay)]
  | .noActuatorMatches application actuatorType =>
      [("app", application), ("actuator_type", actuatorType)]
  | .edgeFromUnknownModule application source => [("app", application), ("module", source)]
  | .simulationStarted time runLength =>
      [("time", time.text), ("max_time", toString runLength)]
  | .applicationActivated application time => [("app", application), ("time", time.text)]
  | .controlTick time tick => [("time", time.text), ("tick", toString tick)]
  | .dispatch id time payload =>
      [("id", id.text), ("time", time.text), ("event", payload.text)]
  | .unknownDevice device event => [("device", device.text), ("event", event.text)]
  | .unknownSensor sensor | .sensorInactive sensor => [("sensor", sensor.text)]
  | .unknownActuator actuator => [("actuator", actuator.text)]
  | .sensorWithoutEdge sensor tupleType => [("sensor", sensor.text), ("tuple_type", tupleType)]
  | .launchNotHeld application => [("app", application)]
  | .tupleFinished tuple => [("tuple", tuple.text)]
  | .tupleDelivered actuator tuple => [("actuator", actuator.text), ("tuple", tuple.text)]
  | .forwarding device target tuple =>
      [("device", device.text), ("to", target.text), ("tuple", tuple.text)]
  | .parkedSouth device tuple => [("device", device.text), ("tuple", tuple.text)]
  | .executedWithoutApplication device name | .moduleLaunched device name =>
      [("device", device.text), ("module", name)]
  | .endWithoutStart tuple => [("tuple", toString tuple)]
  | .notAdmitted payload => [("event", payload.text)]
  | .simulationStopped time pending => [("time", time.text), ("pending", toString pending)]
  | .simulationTerminated time discarded =>
      [("time", time.text), ("discarded", toString discarded)]
  | .backlogSkipped tuple source => [("tuple", tuple.text), ("source", source)]
  | .noPathToHost relay name => [("relay", relay.text), ("module", name)]
  | .startingWithoutApplication | .noFurtherControlTick | .duplicateTermination => []
  | .metricsWritten | .exportFailed => []

def line (notice : Notice) : String :=
  notice.fields.foldl (fun text field => text ++ " " ++ field.1 ++ "=" ++ field.2)
    (notice.level.text ++ " " ++ notice.message)

end Notice
end FogNetwork
