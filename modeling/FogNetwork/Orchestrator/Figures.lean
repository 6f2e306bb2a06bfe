import FogNetwork.Orchestrator.Basic

/-! The figures of a run, taken while its agenda is still intact. -/

namespace FogNetwork

abbrev Waiting := Tuple × String

/-- The waiting tuples: those on their way to a device, unless a sensor sent them, then those in
the queues of each device. -/
def waitingTuples (pending : List Event) (devices : Devices) : List Waiting :=
  ((pending.filterMap (·.payload.arrivingTuple?)).filter (!·.isFromSensor)).map (·, "pending")
    ++ devices.values.flatMap fun device =>
      device.north.map (·, "north") ++ device.south.map (·, "south")

def addWaiting (report : SortedMap String Nat) (waiting : Waiting) :
    Run (SortedMap String Nat) := do
  match report.get? waiting.1.destination with
  | none =>
      Run.note (.backlogSkipped waiting.1 waiting.2)
      return report
  | some bytes =>
      let total ← Run.orFault (sum? bytes waiting.1.size) .overflow
      return report.insert waiting.1.destination total

def backlog (application : Application) (pending : List Event) (devices : Devices) :
    Run (SortedMap String Nat) :=
  (waitingTuples pending devices).foldlM addWaiting
    (.ofList (application.moduleNames.map (·, 0)))

/-- A count per tick, or zero if no time has passed. -/
def rate (count elapsed : Nat) : Float :=
  if elapsed = 0 then 0.0 else Float.ofNat count / Float.ofNat elapsed

namespace Orchestrator

def listHost (devices : Devices) (table : SortedMap String (List String))
    (entry : DeviceId × List String) : SortedMap String (List String) :=
  match devices.get? entry.1 with
  | none => table
  | some device =>
      entry.2.foldl (fun table name => table.update name [] (· ++ [device.name])) table

def plainFigures (orchestrator : Orchestrator) (context : Context) (elapsed : Nat) : Snapshot :=
  { Snapshot.empty with
    simulationTime := elapsed
    latencyPerTupleType := context.timings.tupleTypes.mapValues fun _ average => average.mean
    energyPerDevice :=
      .ofList (orchestrator.devices.values.map fun device => (device.name, device.energy))
    networkUsage := rate context.usage.bytes elapsed
    tuplesSentBySensors := orchestrator.sensors.values.foldl (fun sum sensor => sum + sensor.sent) 0
    pendingEvents := context.agenda.size }

def applicationFigures (devices : Devices) (held : Submission) (context : Context)
    (snapshot : Snapshot) : Snapshot :=
  let paths := held.application.loops
  let names := held.application.moduleNames
  let perModule {α : Type} (figure : Tally → α) : SortedMap String α :=
    .ofList (names.map fun name => (name, figure (context.usage.tally name)))
  { snapshot with
    placement := held.placement.assignments.entries.foldl (listHost devices) .empty
    latencyPerLoop :=
      .ofList (paths.filterMap fun path =>
        (context.timings.loopAverage? path.id).map fun average => (path.name, average.mean))
    loopsOnTime :=
      .ofList (paths.map fun path =>
        (path.name, (context.timings.loopTiming? path.id).elim 0 (·.onTime)))
    processedPerModule := perModule (·.processed)
    throughputPerModule := perModule fun tally => rate tally.processed snapshot.simulationTime
    receivedRatePerModule := perModule fun tally => rate tally.received snapshot.simulationTime
    sentRatePerModule := perModule fun tally => rate tally.sent snapshot.simulationTime }

/-- The ticks since the start of the run, or since time zero if it was never started. -/
def elapsed (orchestrator : Orchestrator) (now : Time) : Nat :=
  (orchestrator.startedAt.bind now.since?).getD now.ticks

def figures (orchestrator : Orchestrator) (context : Context) : Run Snapshot := do
  let snapshot := orchestrator.plainFigures context (orchestrator.elapsed context.now)
  match orchestrator.active with
  | none => return snapshot
  | some held =>
      let waiting ← backlog held.application context.agenda.pending orchestrator.devices
      return { applicationFigures orchestrator.devices held context snapshot with
        backlogPerModule := waiting }

end Orchestrator
end FogNetwork
