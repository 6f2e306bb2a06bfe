import FogNetwork.Agenda
import FogNetwork.Measurement.Timings
import FogNetwork.Measurement.Usage
import FogNetwork.Run

/-! What an entity can see and do while it reacts to an event: the current time, the agenda, the
measurements, and the switch that ends the run. -/

namespace FogNetwork

structure Context where
  agenda : Agenda
  timings : Timings
  usage : Usage
  halted : Bool
  now : Time

abbrev Act := StateT Context Run

namespace Context

def initial : Context := ⟨.empty, .initial, .initial, false, .zero⟩

instance : Inhabited Context := ⟨initial⟩

end Context

namespace Act

def note (notice : Notice) : Act Unit := StateT.lift (Run.note notice)

def now : Act Time := do return (← get).now

/-- Enters an event at a time that is not past. Once the run is halted the event is dropped and
the identifier it would have had is not used up. -/
def scheduleAt (time : Time) (payload : Payload) : Act EventId := do
  let context ← get
  if time.ticks < context.now.ticks then
    throw (.pastTime context.now time)
  else if context.halted then
    note (.notAdmitted payload)
    return context.agenda.nextEventId
  else
    let (id, agenda) ← Run.orFault (context.agenda.enter? time payload) .overflow
    set { context with agenda := agenda }
    return id

def scheduleAfter (delay : Nat) (payload : Payload) : Act EventId := do
  let time ← Run.orFault ((← now).after? delay) .unreachableTime
  scheduleAt time payload

def scheduleNow (payload : Payload) : Act EventId := do
  scheduleAt (← now) payload

def withTimings {α : Type} (work : Timings → α × Timings) : Act α :=
  modifyGet fun context =>
    let (value, timings) := work context.timings
    (value, { context with timings := timings })

def changeTimings (change : Timings → Timings) : Act Unit :=
  modify fun context => { context with timings := change context.timings }

def changeUsage (change : Usage → Usage) : Act Unit :=
  modify fun context => { context with usage := change context.usage }

def transfer (size : Nat) : Act Unit := do
  let context ← get
  let usage ← Run.orFault (context.usage.transfer? size) .overflow
  set { context with usage := usage }

def send (device : DeviceId) (latency : Nat) (tuple : Tuple) : Act EventId := do
  transfer tuple.size
  scheduleAfter latency (.device device (.tupleArrival tuple))

def sendToActuator (actuator : ActuatorId) (latency : Nat) (tuple : Tuple) : Act EventId := do
  transfer tuple.size
  scheduleAfter latency (.delivery actuator tuple)

def manageLater (device : DeviceId) (delay : Nat) : Act EventId :=
  scheduleAfter delay (.device device .manageResources)

/-- Ends the run. What is pending stays readable until the current reaction is over. -/
def terminate : Act Unit := modify fun context => { context with halted := true }

def endExecution (tuple : Tuple) : Act (Option Float) := do
  let time ← now
  let taken ← withTimings (·.endExecution tuple.id tuple.tupleType time)
  if taken.isNone then
    note (.endWithoutStart tuple.id)
  return taken

end Act
end FogNetwork
