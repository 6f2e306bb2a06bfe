import FogNetwork.Json.Pretty
import FogNetwork.SortedMap.Basic

/-! The figures of a finished run, and the document that reports them. -/

namespace FogNetwork

structure Snapshot where
  placement : SortedMap String (List String)
  simulationTime : Nat
  latencyPerTupleType : SortedMap String Float
  /-- Loops that never completed are absent. -/
  latencyPerLoop : SortedMap String Float
  loopsOnTime : SortedMap String Nat
  energyPerDevice : SortedMap String Float
  networkUsage : Float
  tuplesSentBySensors : Nat
  processedPerModule : SortedMap String Nat
  throughputPerModule : SortedMap String Float
  receivedRatePerModule : SortedMap String Float
  sentRatePerModule : SortedMap String Float
  backlogPerModule : SortedMap String Nat
  pendingEvents : Nat

namespace Snapshot

def empty : Snapshot where
  placement := .empty
  simulationTime := 0
  latencyPerTupleType := .empty
  latencyPerLoop := .empty
  loopsOnTime := .empty
  energyPerDevice := .empty
  networkUsage := 0.0
  tuplesSentBySensors := 0
  processedPerModule := .empty
  throughputPerModule := .empty
  receivedRatePerModule := .empty
  sentRatePerModule := .empty
  backlogPerModule := .empty
  pendingEvents := 0

def table {α : Type} (write : α → Json) (map : SortedMap String α) : Json :=
  .record (map.entries.map fun entry => (entry.1, write entry.2))

def names (names : List String) : Json := .list (names.map .string)

/-- The report of a snapshot. A run passes virtual time only, so its execution time is zero. -/
def toJson (snapshot : Snapshot) : Json :=
  .record
    [("placement", table names snapshot.placement),
      ("executionTimeMs", .natural 0),
      ("simulationTime", .natural snapshot.simulationTime),
      ("latencyPerTupleType", table .float snapshot.latencyPerTupleType),
      ("latencyPerAppLoop", table .float snapshot.latencyPerLoop),
      ("loopQosSuccess", table .natural snapshot.loopsOnTime),
      ("energyConsumptionPerDevice", table .float snapshot.energyPerDevice),
      ("networkUsage", .float snapshot.networkUsage),
      ("tuplesSentBySensors", .natural snapshot.tuplesSentBySensors),
      ("tuplesProcessedPerModule", table .natural snapshot.processedPerModule),
      ("throughputPerModule", table .float snapshot.throughputPerModule),
      ("recsInPerModule", table .float snapshot.receivedRatePerModule),
      ("recsOutPerModule", table .float snapshot.sentRatePerModule),
      ("remainingDataPerModule", table .natural snapshot.backlogPerModule),
      ("pendingEventCount", .natural snapshot.pendingEvents)]

def text (snapshot : Snapshot) : String := snapshot.toJson.pretty

end Snapshot
end FogNetwork
