import FogNetwork.Application.Graph
import FogNetwork.Rejection
import FogNetwork.SortedMap.Basic

/-! Placements say which device hosts which modules. -/

namespace FogNetwork

structure Placement where
  assignments : SortedMap DeviceId (List String)

def addName (name : String) (names : List String) : List String :=
  if names.contains name then names else names ++ [name]

namespace Placement

def empty : Placement := ⟨.empty⟩

def assign (placement : Placement) (device : DeviceId) (name : String) : Placement :=
  ⟨placement.assignments.update device [] (addName name)⟩

def modulesOn (placement : Placement) (device : DeviceId) : List String :=
  placement.assignments.getD device []

def devicesFor (placement : Placement) (name : String) : List DeviceId :=
  (placement.assignments.entries.filter (·.2.contains name)).map Prod.fst

def missing (placement : Placement) (application : Application) : List String :=
  application.moduleNames.filter fun name => (placement.devicesFor name).isEmpty

def placedNames (placement : Placement) : List String := placement.assignments.values.flatten

def validate (placement : Placement) (application : Application) : Except Rejection Unit :=
  match placement.missing application with
  | first :: rest => .error (.placementIncomplete application.id (first :: rest))
  | [] =>
      match placement.placedNames.find? fun name => !application.hasModule name with
      | some unknown => .error (.unknownModule application.id unknown)
      | none => .ok ()

end Placement
end FogNetwork
