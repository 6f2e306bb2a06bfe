import FogNetwork.Orchestrator.Dispatch
import FogNetwork.Simulation.Engine

/-! A scenario is an orchestrator with a simulation of its own. The run starts with the first
step. -/

namespace FogNetwork

structure Scenario where
  simulation : Simulation
  orchestrator : Orchestrator

structure StepReport where
  eventId : Nat
  time : Nat
  description : String
  totalEvents : Nat

namespace Scenario

def ofOrchestrator (orchestrator : Orchestrator) : Scenario := ⟨.initial, orchestrator⟩

def isStarted (scenario : Scenario) : Bool := scenario.orchestrator.isStarted

def isFinished (scenario : Scenario) : Bool :=
  scenario.isStarted && scenario.simulation.isFinished

def start (scenario : Scenario) : Run (Except Rejection Unit × Scenario) := do
  if scenario.isStarted then
    return (.ok (), scenario)
  else
    let ((result, orchestrator), simulation) ←
      scenario.simulation.perform scenario.orchestrator.start
    return (result, ⟨simulation, orchestrator⟩)

/-- Starts the run if need be, and goes on unless the start is rejected. -/
def whenStarted {α : Type} (scenario : Scenario)
    (next : Scenario → Run (Except Rejection α × Scenario)) :
    Run (Except Rejection α × Scenario) := do
  match ← scenario.start with
  | (.error rejection, scenario) => return (.error rejection, scenario)
  | (.ok (), scenario) => next scenario

def step (scenario : Scenario) : Run (Except Rejection (Option StepReport) × Scenario) :=
  scenario.whenStarted fun scenario => do
    let (event?, simulation, orchestrator) ←
      scenario.simulation.step Orchestrator.handle scenario.orchestrator
    let report := event?.map fun event =>
      ⟨event.id.number, event.time.ticks, event.payload.text, simulation.eventsProcessed⟩
    return (.ok report, ⟨simulation, orchestrator⟩)

def runSteps (limit : Nat) (scenario : Scenario) : Run (Except Rejection Nat × Scenario) :=
  scenario.whenStarted fun scenario => do
    let (count, simulation, orchestrator) ←
      scenario.simulation.runFor Orchestrator.handle limit scenario.orchestrator
    return (.ok count, ⟨simulation, orchestrator⟩)

def run (scenario : Scenario) : Run (Except Rejection Snapshot × Scenario) :=
  scenario.whenStarted fun scenario => do
    let (_, simulation, orchestrator) ←
      scenario.simulation.run Orchestrator.handle scenario.orchestrator
    return (orchestrator.snapshot?, ⟨simulation, orchestrator⟩)

def deviceState (device : Device) : Json :=
  .record
    [("id", .natural device.id.number),
      ("name", .string device.name),
      ("north_queue", .natural device.north.length),
      ("south_queue", .natural device.south.length),
      ("energy", .float device.energy)]

def state (scenario : Scenario) : Json :=
  .record
    [("current_time", .natural scenario.simulation.currentTime.ticks),
      ("events_processed", .natural scenario.simulation.eventsProcessed),
      ("pending_events", .natural scenario.simulation.pendingCount),
      ("is_finished", .bool scenario.isFinished),
      ("application", (scenario.orchestrator.application?.map (·.id)).elim .null .string),
      ("devices", .list (scenario.orchestrator.devices.values.map deviceState))]

end Scenario
end FogNetwork
