import FogNetwork.Device.Basic
import FogNetwork.Placement.Basic

/-! Mappings are placements by the names of devices, as the author of a scenario writes them. -/

namespace FogNetwork

structure Mapping where
  assignments : SortedMap String (List String)

/-- The device called `name`; of several it is the one with the greatest identifier. -/
def deviceNamed? (devices : Devices) (name : String) : Option DeviceId :=
  ((devices.entries.filter (·.2.name == name)).getLast?).map Prod.fst

namespace Mapping

def empty : Mapping := ⟨.empty⟩

def add (mapping : Mapping) (device name : String) : Mapping :=
  ⟨mapping.assignments.update device [] (addName name)⟩

def allOn (device : String) (application : Application) : Mapping :=
  application.moduleNames.foldl (fun mapping name => mapping.add device name) empty

def resolve (mapping : Mapping) (devices : Devices) : Except Rejection Placement :=
  mapping.assignments.entries.foldlM
    (fun placement entry =>
      match deviceNamed? devices entry.1 with
      | none => .error (.deviceNameNotFound entry.1)
      | some device =>
          .ok (entry.2.foldl (fun placement name => placement.assign device name) placement))
    Placement.empty

end Mapping
end FogNetwork
