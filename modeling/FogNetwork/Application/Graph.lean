import FogNetwork.Identifier

/-! The dataflow graph of an application: modules, the edges between them, and the loops whose
round trips are timed. -/

namespace FogNetwork

inductive Direction where
  | up
  | down
  | actuator
  deriving DecidableEq

/-- What stands at the ends of an edge: a sensor type before a module, an actuator type after
one, or modules on both sides. -/
inductive EdgeKind where
  | sensor
  | actuator
  | module
  deriving DecidableEq

structure Edge where
  source : String
  destination : String
  tupleType : String
  cpuLength : Nat
  dataSize : Nat
  direction : Direction
  kind : EdgeKind
  deriving DecidableEq

/-- An edge with no sizes, that points up unless it ends at an actuator. -/
def Edge.between (source destination tupleType : String) (kind : EdgeKind) : Edge where
  source := source
  destination := destination
  tupleType := tupleType
  cpuLength := 0
  dataSize := 0
  direction := if kind = .actuator then .actuator else .up
  kind := kind

structure Subscription where
  actuator : ActuatorId
  tupleType : String
  deriving DecidableEq

structure ModuleSpec where
  name : String
  capacity : Nat
  subscriptions : List Subscription
  deriving DecidableEq

structure LoopPath where
  id : LoopId
  members : List String
  deadline : Option Float
  deriving BEq

namespace LoopPath

def name (path : LoopPath) : String := String.intercalate "->" path.members

def startsWith (path : LoopPath) (member : String) : Bool := path.members.head? == some member

def endsWith (path : LoopPath) (member : String) : Bool := path.members.getLast? == some member

end LoopPath

structure Coverage where
  latMin : Float
  latMax : Float
  longMin : Float
  longMax : Float
  deriving BEq

structure Application where
  id : String
  modules : List ModuleSpec
  edges : List Edge
  loops : List LoopPath
  coverage : Option Coverage
  deriving BEq

namespace Application

def named (id : String) : Application := ⟨id, [], [], [], none⟩

instance : Inhabited Application := ⟨named ""⟩

def module? (application : Application) (name : String) : Option ModuleSpec :=
  application.modules.find? (·.name == name)

def hasModule (application : Application) (name : String) : Bool :=
  (application.module? name).isSome

def moduleNames (application : Application) : List String := application.modules.map (·.name)

def edgesFrom (application : Application) (source : String) : List Edge :=
  application.edges.filter (·.source == source)

def sensorEdge? (application : Application) (tupleType : String) : Option Edge :=
  application.edges.find? fun edge => edge.kind == .sensor && edge.source == tupleType

def loop? (application : Application) (id : LoopId) : Option LoopPath :=
  application.loops.find? (·.id == id)

def knows (application : Application) (name : String) : Bool :=
  application.hasModule name || application.edges.any fun edge =>
    match edge.kind with
    | .sensor => edge.source == name
    | .actuator => edge.destination == name
    | .module => false

end Application
end FogNetwork
