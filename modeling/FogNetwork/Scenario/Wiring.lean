import FogNetwork.Placement.Basic
import FogNetwork.Topology.Path

/-! How relays are wired once it is known where the modules are: a route to the nearest host of
every module that is placed elsewhere, and a way to every actuator within reach. -/

namespace FogNetwork

inductive Wire where
  | route (relay : DeviceId) (name : String) (device : DeviceId) (latency : Nat)
  | actuator (relay : DeviceId) (actuator : ActuatorId) (latency : Nat)

structure ActuatorLink where
  actuator : ActuatorId
  gateway : DeviceId
  latency : Nat

def nearer (left right : Nat × DeviceId) : Bool :=
  left.1 < right.1 || (left.1 == right.1 && left.2.number < right.2.number)

def nearest? : List (Nat × DeviceId) → Option (Nat × DeviceId)
  | [] => none
  | host :: rest =>
      match nearest? rest with
      | none => some host
      | some other => if nearer other host then some other else some host

def reachable (devices : Devices) (start : DeviceId) (hosts : List DeviceId) :
    Except Fault (List (Nat × DeviceId)) := do
  let found ← hosts.mapM fun host => do
    return (← pathLatency devices start host).map fun latency => (latency, host)
  return found.filterMap fun reached => reached

def Placement.distinctNames (placement : Placement) : List String :=
  (SortedMap.ofList (placement.placedNames.map fun name => (name, ()))).keys

def routeWires (devices : Devices) (placement : Placement) (relay : DeviceId) (name : String) :
    Run (List Wire) := do
  if (placement.modulesOn relay).contains name then
    return []
  else
    match nearest? (← liftExcept (reachable devices relay (placement.devicesFor name))) with
    | some (latency, host) => return [.route relay name host latency]
    | none =>
        Run.note (.noPathToHost relay name)
        return []

def actuatorWires (devices : Devices) (relay : DeviceId) (link : ActuatorLink) :
    Run (List Wire) := do
  match ← liftExcept (pathLatency devices relay link.gateway) with
  | none => return []
  | some latency =>
      let total ← Run.orFault (sum? latency link.latency) .overflow
      return [.actuator relay link.actuator total]

def relayWires (devices : Devices) (placement : Placement) (links : List ActuatorLink)
    (relay : DeviceId) : Run (List Wire) := do
  let routes ← placement.distinctNames.mapM (routeWires devices placement relay)
  let actuators ← links.mapM (actuatorWires devices relay)
  return routes.flatten ++ actuators.flatten

def wiring (devices : Devices) (placement : Placement) (links : List ActuatorLink)
    (relays : List DeviceId) : Run (List Wire) := do
  return (← relays.mapM (relayWires devices placement links)).flatten

end FogNetwork
