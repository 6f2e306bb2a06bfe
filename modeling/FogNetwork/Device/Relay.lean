import FogNetwork.Device.Links
import FogNetwork.Simulation.Context

/-! A relay hosts modules. Tuples for them wait in its north queue, and on every management round
it executes as many as its budget allows, at least one. Their results go out along the edges of
the application. Tuples for other modules are forwarded along a route, or parked in the south
queue where there is none. -/

namespace FogNetwork

structure Route where
  device : DeviceId
  latency : Nat
  deriving DecidableEq

structure Relay where
  id : DeviceId
  name : String
  links : Links
  mips : Nat
  interval : Nat
  idlePower : Float
  busyPower : Float
  application : Option Application
  hosted : SortedMap String ModuleSpec
  routes : SortedMap String Route
  actuators : SortedMap ActuatorId Nat
  north : List Tuple
  south : List Tuple
  energy : Float
  /-- The time of the management round that the relay has asked for. -/
  nextTick : Option Time
  lastManaged : Time
  executed : Nat

def affordable : Nat → List Tuple → List Tuple × List Tuple
  | _, [] => ([], [])
  | budget, tuple :: rest =>
      if tuple.cpuLength ≤ budget then
        let (taken, left) := affordable (budget - tuple.cpuLength) rest
        (tuple :: taken, left)
      else ([], tuple :: rest)

/-- The tuples of one management round, and the rest. The first tuple of the queue is always
among them, even if it takes more than the budget. -/
def round : Nat → List Tuple → List Tuple × List Tuple
  | _, [] => ([], [])
  | budget, tuple :: rest =>
      let (taken, left) := affordable (budget - tuple.cpuLength) rest
      (tuple :: taken, left)

/-- Passes a module on behalf of a root tuple: the loops that end there are completed, then those
that begin there are entered. -/
def Timings.passModule (name : String) (root : Nat) (now : Time) (paths : List LoopPath)
    (timings : Timings) : Timings :=
  paths.foldl
    (fun timings path =>
      let timings :=
        if path.endsWith name then (timings.completeLoop path.id root now path.deadline).2
        else timings
      if path.startsWith name then timings.enterLoop path.id root now else timings)
    timings

namespace Relay

def named (id : DeviceId) (name : String) : Relay where
  id := id
  name := name
  links := .empty
  mips := 1000
  interval := 10
  idlePower := 0.0
  busyPower := 0.0
  application := none
  hosted := .empty
  routes := .empty
  actuators := .empty
  north := []
  south := []
  energy := 0.0
  nextTick := none
  lastManaged := .zero
  executed := 0

def withInterval (relay : Relay) (interval : Nat) : Relay :=
  { relay with interval := max interval 1 }

def withParent (relay : Relay) (parent : DeviceId) (latency : Nat) : Relay :=
  { relay with links := relay.links.declareParent parent latency }

def withPower (relay : Relay) (idle busy : Float) : Relay :=
  { relay with idlePower := idle, busyPower := busy }

def addRoute (relay : Relay) (name : String) (device : DeviceId) (latency : Nat) : Relay :=
  { relay with routes := relay.routes.insert name ⟨device, latency⟩ }

def attachActuator (relay : Relay) (actuator : ActuatorId) (latency : Nat) : Relay :=
  { relay with actuators := relay.actuators.insert actuator latency }

def hosts (relay : Relay) (name : String) : Bool := relay.hosted.contains name

def budget (relay : Relay) : Nat := clampedProduct relay.mips relay.interval

def targets (relay : Relay) (name tupleType : String) : List ActuatorId :=
  match relay.hosted.get? name with
  | none => []
  | some spec => (spec.subscriptions.filter (·.tupleType == tupleType)).map (·.actuator)

def accept (tuple : Tuple) (relay : Relay) : Act Relay := do
  if relay.hosts tuple.destination then
    let now ← Act.now
    Act.changeUsage (·.countReceived tuple.destination)
    Act.changeTimings (·.beginExecution tuple.id now)
    return { relay with north := relay.north ++ [tuple] }
  else
    match relay.routes.get? tuple.destination with
    | some route =>
        Act.note (.forwarding relay.id route.device tuple)
        let _ ← Act.send route.device route.latency tuple
        return relay
    | none =>
        Act.note (.parkedSouth relay.id tuple)
        return { relay with south := relay.south ++ [tuple] }

def deliver (parent : Tuple) (edge : Edge) (relay : Relay) (actuator : ActuatorId) : Act Unit := do
  let id ← Act.withTimings Timings.issue
  Act.changeUsage (·.countSent parent.destination)
  let _ ← Act.sendToActuator actuator (relay.actuators.getD actuator 0)
    (Tuple.derived id parent edge)

def emitAlong (parent : Tuple) (relay : Relay) (edge : Edge) : Act Relay := do
  match edge.kind with
  | .sensor => return relay
  | .module =>
      let id ← Act.withTimings Timings.issue
      Act.changeUsage (·.countSent parent.destination)
      relay.accept (Tuple.derived id parent edge)
  | .actuator =>
      (relay.targets parent.destination edge.tupleType).forM (relay.deliver parent edge)
      return relay

def execute (relay : Relay) (tuple : Tuple) : Act Relay := do
  let _ ← Act.endExecution tuple
  Act.changeUsage (·.countProcessed tuple.destination)
  let relay :=
    { relay with
      energy := relay.energy + relay.busyPower * Float.ofNat tuple.cpuLength
      executed := relay.executed + 1 }
  match relay.application with
  | none =>
      Act.note (.executedWithoutApplication relay.id tuple.destination)
      return relay
  | some application =>
      let now ← Act.now
      Act.changeTimings (·.passModule tuple.destination tuple.root now application.loops)
      (application.edgesFrom tuple.destination).foldlM (emitAlong tuple) relay

def rearm (relay : Relay) : Act Relay := do
  let now ← Act.now
  if relay.nextTick.all (·.ticks ≤ now.ticks) then
    let _ ← Act.manageLater relay.id relay.interval
    return { relay with nextTick := now.after? relay.interval }
  else
    return relay

def chargeIdle (relay : Relay) (now : Time) : Relay :=
  let idle := (now.since? relay.lastManaged).getD 0
  { relay with
    energy := relay.energy + relay.idlePower * Float.ofNat idle
    lastManaged := now }

/-- Executes one round of the queue. Tuples derived on the way queue up behind the rest. -/
def serve (relay : Relay) : Act Relay :=
  let (taken, left) := round relay.budget relay.north
  taken.foldlM execute { relay with north := left }

def manage (relay : Relay) : Act Relay := do
  let relay ← relay.rearm
  (relay.chargeIdle (← Act.now)).serve

def react (event : DeviceEvent) (relay : Relay) : Act Relay := do
  match event with
  | .applicationActive application | .applicationReceived application =>
      return { relay with application := some application }
  | .launchModule spec =>
      Act.note (.moduleLaunched relay.id spec.name)
      return { relay with hosted := relay.hosted.insert spec.name spec }
  | .manageResources => relay.manage
  | .tupleArrival tuple => relay.accept tuple

end Relay
end FogNetwork
