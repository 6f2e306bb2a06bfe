import FogNetwork.Application.Graph

/-! Tuples: the units of data that travel between the modules of an application. -/

namespace FogNetwork

inductive Origin where
  | sensor
  | module
  deriving DecidableEq

structure Tuple where
  id : Nat
  application : String
  tupleType : String
  source : String
  destination : String
  size : Nat
  cpuLength : Nat
  direction : Direction
  origin : Origin
  root : Nat
  deriving DecidableEq

namespace Tuple

def along (edge : Edge) (id : Nat) (application : String) (origin : Origin) (root : Nat) :
    Tuple where
  id := id
  application := application
  tupleType := edge.tupleType
  source := edge.source
  destination := edge.destination
  size := edge.dataSize
  cpuLength := edge.cpuLength
  direction := edge.direction
  origin := origin
  root := root

def emitted (id : Nat) (application : String) (edge : Edge) : Tuple :=
  along edge id application .sensor id

def derived (id : Nat) (parent : Tuple) (edge : Edge) : Tuple :=
  along edge id parent.application .module parent.root

def isFromSensor (tuple : Tuple) : Bool := tuple.origin == .sensor

def text (tuple : Tuple) : String :=
  "#" ++ toString tuple.id ++ " " ++ tuple.tupleType ++ " (" ++ tuple.source ++ " → "
    ++ tuple.destination ++ ", " ++ toString tuple.size ++ " B)"

end Tuple
end FogNetwork
