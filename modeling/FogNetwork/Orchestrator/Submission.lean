import FogNetwork.Application.Declaration
import FogNetwork.Orchestrator.Basic

/-! Submitting an application. Actuators that match one of its actuator edges are subscribed to
the module where the edge begins. -/

namespace FogNetwork
namespace Orchestrator

def matching (actuators : SortedMap ActuatorId Actuator) (destination : String) :
    List ActuatorId :=
  (actuators.values.filter (·.matchesType destination)).map (·.id)

def subscribeEdge (actuators : SortedMap ActuatorId Actuator) (application : Application)
    (edge : Edge) : Logged Application := do
  let found := matching actuators edge.destination
  if found.isEmpty then
    Logged.note (.noActuatorMatches application.id edge.destination)
    return application
  else if !application.hasModule edge.source then
    Logged.note (.edgeFromUnknownModule application.id edge.source)
    return application
  else
    return found.foldl
      (fun application actuator => application.subscribe edge.source actuator edge.tupleType)
      application

def subscribeActuators (actuators : SortedMap ActuatorId Actuator) (application : Application) :
    Logged Application :=
  (application.edges.filter (·.kind == .actuator)).foldlM (subscribeEdge actuators) application

def admits (orchestrator : Orchestrator) (application : Application) (placement : Placement) :
    Except Rejection Unit := do
  if orchestrator.isStarted then
    throw (.alreadyStarted application.id)
  if let some held := orchestrator.application? then
    if held.id ≠ application.id then
      throw (.applicationAlreadyActive held.id application.id)
  placement.validate application
  if let some device := placement.assignments.keys.find? (!orchestrator.devices.contains ·) then
    throw (.deviceNotFound device)

/-- Holds an application from now on, to be launched `delay` ticks after the start. It replaces
an earlier submission of the same application. -/
def submit (application : Application) (placement : Placement) (delay : Nat)
    (orchestrator : Orchestrator) : Logged (Except Rejection Unit × Orchestrator) := do
  match orchestrator.admits application placement with
  | .error rejection => return (.error rejection, orchestrator)
  | .ok () =>
      let coverage :=
        match application.coverage with
        | none => orchestrator.coverage
        | some area => orchestrator.coverage.insert application.id area
      let application ← subscribeActuators orchestrator.actuators application
      Logged.note (.applicationSubmitted application.id delay)
      return (.ok (),
        { orchestrator with
          coverage := coverage
          active := some ⟨application, placement, delay⟩ })

end Orchestrator
end FogNetwork
