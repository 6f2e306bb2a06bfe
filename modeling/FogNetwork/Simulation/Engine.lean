import FogNetwork.Simulation.Context

/-! The engine: it takes the next event off the agenda, moves the clock to it and has it reacted
to, until nothing is pending or the run is halted. -/

namespace FogNetwork

structure Simulation where
  context : Context
  eventsProcessed : Nat

namespace Simulation

variable {α σ : Type}

def initial : Simulation := ⟨.initial, 0⟩

instance : Inhabited Simulation := ⟨initial⟩

def currentTime (simulation : Simulation) : Time := simulation.context.now

def pendingCount (simulation : Simulation) : Nat := simulation.context.agenda.size

def isTerminated (simulation : Simulation) : Bool := simulation.context.halted

def isFinished (simulation : Simulation) : Bool :=
  simulation.isTerminated || simulation.context.agenda.isEmpty

def perform (act : Act α) (simulation : Simulation) : Run (α × Simulation) := do
  let (value, context) ← act.run simulation.context
  return (value, { simulation with context := context })

def schedule (time : Time) (payload : Payload) (simulation : Simulation) :
    Run (EventId × Simulation) :=
  simulation.perform (Act.scheduleAt time payload)

def settle (context : Context) : Run Context := do
  if context.halted then
    Run.note (.simulationTerminated context.now context.agenda.size)
    return { context with agenda := context.agenda.clear }
  else
    return context

/-- Dispatches the next event, if there is one. The state is the reacting entity's own. -/
def step (react : Event → σ → Act σ) (simulation : Simulation) (state : σ) :
    Run (Option Event × Simulation × σ) := do
  let context := simulation.context
  if context.halted then
    return (none, simulation, state)
  else
    match context.agenda.next? with
    | none => return (none, simulation, state)
    | some (event, agenda) =>
        if event.time.ticks < context.now.ticks then
          throw (.backwardTime context.now event.time)
        else
          let eventsProcessed ← Run.orFault (sum? simulation.eventsProcessed 1) .overflow
          let (state, context) ←
            (react event state).run { context with agenda := agenda, now := event.time }
          return (some event, ⟨← settle context, eventsProcessed⟩, state)

def runOnto (react : Event → σ → Act σ) :
    Nat → List Notice → Simulation → σ → Run (Simulation × σ)
  | 0, written, simulation, state => ⟨written.reverse, .ok (simulation, state)⟩
  | limit + 1, written, simulation, state =>
      let stepped := step react simulation state
      let written := stepped.notices.reverseAux written
      match stepped.outcome with
      | .error fault => ⟨written.reverse, .error fault⟩
      | .ok (none, simulation, state) => ⟨written.reverse, .ok (simulation, state)⟩
      | .ok (some _, simulation, state) => runOnto react limit written simulation state

def runFor (react : Event → σ → Act σ) (limit : Nat) (simulation : Simulation) (state : σ) :
    Run (Nat × Simulation × σ) := do
  let (reached, state) ← runOnto react limit [] simulation state
  return (reached.eventsProcessed - simulation.eventsProcessed, reached, state)

/-- Dispatches events until none is left or the run is halted. The number of events processed is
a quantity, so no run has more of them than there are quantities. -/
def run (react : Event → σ → Act σ) (simulation : Simulation) (state : σ) :
    Run (Nat × Simulation × σ) :=
  runFor react (largest + 1) simulation state

end Simulation
end FogNetwork
