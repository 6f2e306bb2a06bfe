import FogNetwork.Application.Graph
import FogNetwork.Coding.Basic
import FogNetwork.Config.Basic
import FogNetwork.Device.Links
import FogNetwork.Placement.Mapping
import FogNetwork.Tuple

/-! The documents of the values that a scenario is described with. -/

namespace FogNetwork

open Coded

instance {kind : EntityKind} : Coded (Identifier kind) where
  encode id := encode id.number
  decode? json := (decode? json).map Identifier.mk

instance : Coded Time where
  encode time := encode time.ticks
  decode? json := (decode? json).map Time.mk

instance : Coded EdgeKind where
  encode
    | .sensor => .string "Sensor"
    | .actuator => .string "Actuator"
    | .module => .string "Module"
  decode? json :=
    match choice? json with
    | some "Sensor" => some .sensor
    | some "Actuator" => some .actuator
    | some "Module" => some .module
    | _ => none

instance : Coded Direction where
  encode
    | .up => .string "Up"
    | .down => .string "Down"
    | .actuator => .string "Actuator"
  decode? json :=
    match choice? json with
    | some "Up" => some .up
    | some "Down" => some .down
    | some "Actuator" => some .actuator
    | _ => none

instance : Coded Origin where
  encode
    | .sensor => .string "Sensor"
    | .module => .string "Module"
  decode? json :=
    match choice? json with
    | some "Sensor" => some .sensor
    | some "Module" => some .module
    | _ => none

def Edge.fieldNames : List String :=
  ["source", "destination", "tuple_type", "cpu_length", "data_size", "direction", "kind"]

instance : Coded Edge where
  encode edge :=
    .record
      [("source", encode edge.source),
        ("destination", encode edge.destination),
        ("tuple_type", encode edge.tupleType),
        ("cpu_length", encode edge.cpuLength),
        ("data_size", encode edge.dataSize),
        ("direction", encode edge.direction),
        ("kind", encode edge.kind)]
  decode? json := do
    match ← fields? Edge.fieldNames 0 json with
    | [source, destination, tupleType, cpuLength, dataSize, direction, kind] =>
        return ⟨← required? source, ← required? destination, ← required? tupleType,
          ← required? cpuLength, ← required? dataSize, ← required? direction, ← required? kind⟩
    | _ => none

def Subscription.fieldNames : List String := ["actuator", "tuple_type"]

instance : Coded Subscription where
  encode subscription :=
    .record
      [("actuator", encode subscription.actuator),
        ("tuple_type", encode subscription.tupleType)]
  decode? json := do
    match ← fields? Subscription.fieldNames 0 json with
    | [actuator, tupleType] => return ⟨← required? actuator, ← required? tupleType⟩
    | _ => none

def ModuleSpec.fieldNames : List String := ["name", "capacity", "subscriptions"]

instance : Coded ModuleSpec where
  encode spec :=
    .record
      [("name", encode spec.name),
        ("capacity", encode spec.capacity),
        ("subscriptions", encode spec.subscriptions)]
  decode? json := do
    match ← fields? ModuleSpec.fieldNames 0 json with
    | [name, capacity, subscriptions] =>
        return ⟨← required? name, ← required? capacity, ← required? subscriptions⟩
    | _ => none

def LoopPath.fieldNames : List String := ["id", "members", "deadline"]

instance : Coded LoopPath where
  encode path :=
    .record
      [("id", encode path.id),
        ("members", encode path.members),
        ("deadline", encode path.deadline)]
  decode? json := do
    match ← fields? LoopPath.fieldNames 0 json with
    | [id, members, deadline] =>
        return ⟨← required? id, ← required? members, ← optional? deadline⟩
    | _ => none

def Coverage.fieldNames : List String := ["lat_min", "lat_max", "long_min", "long_max"]

instance : Coded Coverage where
  encode coverage :=
    .record
      [("lat_min", encode coverage.latMin),
        ("lat_max", encode coverage.latMax),
        ("long_min", encode coverage.longMin),
        ("long_max", encode coverage.longMax)]
  decode? json := do
    match ← fields? Coverage.fieldNames 0 json with
    | [latMin, latMax, longMin, longMax] =>
        return ⟨← required? latMin, ← required? latMax, ← required? longMin,
          ← required? longMax⟩
    | _ => none

def Application.fieldNames : List String := ["id", "modules", "edges", "loops", "geo_coverage"]

instance : Coded Application where
  encode application :=
    .record
      [("id", encode application.id),
        ("modules", encode application.modules),
        ("edges", encode application.edges),
        ("loops", encode application.loops),
        ("geo_coverage", encode application.coverage)]
  decode? json := do
    match ← fields? Application.fieldNames 0 json with
    | [id, modules, edges, loops, coverage] =>
        return ⟨← required? id, ← required? modules, ← required? edges, ← required? loops,
          ← optional? coverage⟩
    | _ => none

def ParentLink.fieldNames : List String := ["parent", "latency"]

instance : Coded ParentLink where
  encode link := .record [("parent", encode link.parent), ("latency", encode link.latency)]
  decode? json := do
    match ← fields? ParentLink.fieldNames 0 json with
    | [parent, latency] => return ⟨← required? parent, ← required? latency⟩
    | _ => none

def Config.fieldNames : List String := [Setting.controlInterval.name, Setting.runLength.name]

instance : Coded Config where
  encode config :=
    .record
      [(Setting.controlInterval.name, encode config.controlInterval),
        (Setting.runLength.name, encode config.runLength)]
  decode? json := do
    match ← fields? Config.fieldNames 2 json with
    | [controlInterval, runLength] =>
        return ⟨← defaulting? Config.defaultControlInterval controlInterval,
          ← defaulting? Config.defaultRunLength runLength⟩
    | _ => none

instance : Coded Placement where
  encode placement :=
    .record
      [("assignments", encodeTable (fun id => toString id.number) placement.assignments)]
  decode? json := do
    match ← fields? ["assignments"] 0 json with
    | [some assignments] =>
        return ⟨← decodeTable? (fun name => (quantityOfName? name).map Identifier.mk) assignments⟩
    | _ => none

instance : Coded Mapping where
  encode mapping := .record [("mapping", encodeTable (fun name => name) mapping.assignments)]
  decode? json := do
    match ← fields? ["mapping"] 0 json with
    | [some assignments] => return ⟨← decodeTable? some assignments⟩
    | _ => none

end FogNetwork
