import FogNetwork.Application.Graph
import FogNetwork.Rejection

/-! Building an application piece by piece. Every declaration but a loop is accepted; a loop must
be non-empty and mention known names only. -/

namespace FogNetwork

def changeFirst {α : Type} (chosen : α → Bool) (change : α → α) : List α → List α
  | [] => []
  | item :: rest =>
      if chosen item then change item :: rest else item :: changeFirst chosen change rest

def ModuleSpec.subscribe (spec : ModuleSpec) (actuator : ActuatorId) (tupleType : String) :
    ModuleSpec :=
  { spec with subscriptions := spec.subscriptions ++ [⟨actuator, tupleType⟩] }

namespace Application

def changeModule (application : Application) (name : String) (change : ModuleSpec → ModuleSpec) :
    Application :=
  { application with modules := changeFirst (·.name == name) change application.modules }

/-- Declares a module; a name that is already there takes the new capacity. -/
def declareModule (application : Application) (name : String) (capacity : Nat) : Application :=
  if application.hasModule name then
    application.changeModule name fun spec => { spec with capacity := capacity }
  else
    { application with modules := application.modules ++ [⟨name, capacity, []⟩] }

def declareEdge (application : Application) (edge : Edge) : Application :=
  { application with edges := application.edges ++ [edge] }

def declareLoop (application : Application) (members : List String) :
    Except Rejection (LoopId × Application) :=
  if members.isEmpty then
    .error (.emptyLoop application.id)
  else
    match members.find? fun member => !application.knows member with
    | some unknown => .error (.unknownLoopMember application.id unknown)
    | none =>
        let id : LoopId := ⟨application.loops.length⟩
        .ok (id, { application with loops := application.loops ++ [⟨id, members, none⟩] })

def setDeadline (application : Application) (id : LoopId) (deadline : Float) : Application :=
  { application with
    loops := changeFirst (·.id == id) (fun path => { path with deadline := some deadline })
      application.loops }

def setCoverage (application : Application) (coverage : Coverage) : Application :=
  { application with coverage := some coverage }

def subscribe (application : Application) (name : String) (actuator : ActuatorId)
    (tupleType : String) : Application :=
  application.changeModule name (·.subscribe actuator tupleType)

end Application
end FogNetwork
