import FogNetwork.Identifier
import FogNetwork.SortedMap.Basic

/-! A device's place in the hierarchy: the parents it declares, and the children that declare it. -/

namespace FogNetwork

structure ParentLink where
  parent : DeviceId
  latency : Nat
  deriving DecidableEq

structure Links where
  parents : List ParentLink
  children : SortedMap DeviceId Nat

namespace Links

def empty : Links := ⟨[], .empty⟩

instance : Inhabited Links := ⟨empty⟩

def declareParent (links : Links) (parent : DeviceId) (latency : Nat) : Links :=
  { links with parents := links.parents ++ [⟨parent, latency⟩] }

/-- The way up: the link to the parent declared first. -/
def uplink? (links : Links) : Option ParentLink := links.parents.head?

def addChild (links : Links) (child : DeviceId) (latency : Nat) : Links :=
  { links with children := links.children.insert child latency }

def clearChildren (links : Links) : Links := { links with children := .empty }

end Links
end FogNetwork
