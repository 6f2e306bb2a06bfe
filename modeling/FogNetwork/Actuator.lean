import FogNetwork.Simulation.Context

/-! Actuators take delivery of the tuples addressed to their type. Case does not matter there, as
far as the letters from A to Z go. -/

namespace FogNetwork

structure Actuator where
  id : ActuatorId
  name : String
  actuatorType : String
  gateway : DeviceId
  latency : Nat
  received : Nat

/-- Whether two texts are equal when capital letters from A to Z count as small ones. -/
def equalIgnoringCase (left right : String) : Bool :=
  left.toList.map Char.toLower == right.toList.map Char.toLower

namespace Actuator

def named (id : ActuatorId) (name actuatorType : String) : Actuator :=
  ⟨id, name, actuatorType, ⟨0⟩, 1, 0⟩

def attachedTo (actuator : Actuator) (gateway : DeviceId) (latency : Nat) : Actuator :=
  { actuator with gateway := gateway, latency := latency }

def matchesType (actuator : Actuator) (destination : String) : Bool :=
  equalIgnoringCase actuator.actuatorType destination

def closes (actuator : Actuator) (path : LoopPath) : Bool :=
  path.members.getLast?.any actuator.matchesType

def receive (application : Option Application) (tuple : Tuple) (actuator : Actuator) :
    Act Actuator := do
  Act.note (.tupleDelivered actuator.id tuple)
  let now ← Act.now
  let paths := (application.elim [] (·.loops)).filter actuator.closes
  Act.changeTimings fun timings =>
    paths.foldl (fun timings path => (timings.completeLoop path.id tuple.root now path.deadline).2)
      timings
  return { actuator with received := actuator.received + 1 }

end Actuator
end FogNetwork
