import FogNetwork.Measurement.Average
import FogNetwork.SortedMap.Basic
import FogNetwork.Identifier
import FogNetwork.Time

/-! The time keeper of a run: how long tuples of each type take to execute, how long each loop
takes to go around, and the supply of tuple identifiers.

The counts kept here grow by one at a time and are not bounded. -/

namespace FogNetwork

structure LoopTiming where
  /-- The tuples under way in the loop, with the time they entered it. -/
  members : SortedMap Nat Time
  latency : Option Average
  onTime : Nat

def LoopTiming.initial : LoopTiming := ⟨.empty, none, 0⟩

def LoopTiming.record (timing : LoopTiming) (latency : Float) (deadline : Option Float) :
    LoopTiming :=
  { timing with
    latency := some (Average.extend timing.latency latency)
    onTime := if deadline.any (latency ≤ ·) then timing.onTime + 1 else timing.onTime }

structure Timings where
  nextTuple : Nat
  started : SortedMap Nat Time
  tupleTypes : SortedMap String Average
  loops : SortedMap LoopId LoopTiming

namespace Timings

def initial : Timings := ⟨1, .empty, .empty, .empty⟩

instance : Inhabited Timings := ⟨initial⟩

def issue (timings : Timings) : Nat × Timings :=
  (timings.nextTuple, { timings with nextTuple := timings.nextTuple + 1 })

/-- Notes that a tuple is ready to execute; a later note replaces an earlier one. -/
def beginExecution (timings : Timings) (tuple : Nat) (now : Time) : Timings :=
  { timings with started := timings.started.insert tuple now }

/-- Notes that a tuple has executed. If its start was noted, the time it took counts for its
type and the start is forgotten. -/
def endExecution (timings : Timings) (tuple : Nat) (tupleType : String) (now : Time) :
    Option Float × Timings :=
  match timings.started.get? tuple with
  | none => (none, timings)
  | some start =>
      let taken := start.elapsed now
      let average := Average.extend (timings.tupleTypes.get? tupleType) taken
      (some taken,
        { timings with
          started := timings.started.erase tuple
          tupleTypes := timings.tupleTypes.insert tupleType average })

def executionsInProgress (timings : Timings) : Nat := timings.started.size

def typeAverage? (timings : Timings) (tupleType : String) : Option Average :=
  timings.tupleTypes.get? tupleType

def changeLoop (timings : Timings) (loop : LoopId) (change : LoopTiming → LoopTiming) : Timings :=
  { timings with loops := timings.loops.update loop .initial change }

def recordLatency (timings : Timings) (loop : LoopId) (latency : Float)
    (deadline : Option Float) : Timings :=
  timings.changeLoop loop (·.record latency deadline)

/-- Notes that a tuple enters a loop. One that is already under way keeps its entry time. -/
def enterLoop (timings : Timings) (loop : LoopId) (tuple : Nat) (now : Time) : Timings :=
  timings.changeLoop loop fun timing =>
    if timing.members.contains tuple then timing
    else { timing with members := timing.members.insert tuple now }

def completeLoop (timings : Timings) (loop : LoopId) (tuple : Nat) (now : Time)
    (deadline : Option Float) : Option Float × Timings :=
  match (timings.loops.getD loop .initial).members.get? tuple with
  | none => (none, timings)
  | some entered =>
      let latency := entered.elapsed now
      (some latency,
        timings.changeLoop loop fun timing =>
          { timing with members := timing.members.erase tuple }.record latency deadline)

def loopTiming? (timings : Timings) (loop : LoopId) : Option LoopTiming := timings.loops.get? loop

def loopAverage? (timings : Timings) (loop : LoopId) : Option Average :=
  (timings.loops.get? loop).bind (·.latency)

end Timings
end FogNetwork
