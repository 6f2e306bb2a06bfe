import FogNetwork.Application.Declaration
import FogNetwork.Scenario.Blueprint

/-! A smart building: thermometers at two edge nodes, a filter module at the edge, an aggregator
in the cloud, and a fan that closes the loop. -/

namespace FogNetwork
namespace Demo

def sensorEdge : Edge :=
  { Edge.between "TEMP" "filter" "TEMP" .sensor with cpuLength := 1000, dataSize := 500 }

def moduleEdge : Edge :=
  { Edge.between "filter" "aggregate" "CLEAN" .module with cpuLength := 2000, dataSize := 100 }

def actuatorEdge : Edge :=
  { Edge.between "aggregate" "FAN" "SETPOINT" .actuator with cpuLength := 100, dataSize := 10 }

def deadline : Float := 250.0

def application : Except Rejection Application := do
  let declared :=
    [sensorEdge, moduleEdge, actuatorEdge].foldl Application.declareEdge
      (((Application.named "smart-building").declareModule "filter" 10).declareModule
        "aggregate" 10)
  let (control, declared) ← declared.declareLoop ["TEMP", "filter", "aggregate", "FAN"]
  return declared.setDeadline control deadline

def mapping : Mapping :=
  ((Mapping.empty.add "edge-0" "filter").add "edge-1" "filter").add "cloud" "aggregate"

def cloud : Relay := { Relay.named ⟨0⟩ "cloud" with mips := 44800 }.withPower 16.8 0.0001

def proxy : Relay := { Relay.named ⟨1⟩ "proxy" with mips := 2800 }.withParent ⟨0⟩ 100

def edgeNode (number : Nat) (name : String) (distance : Nat) : Relay :=
  ((Relay.named ⟨number⟩ name).withParent ⟨1⟩ distance).withPower 0.8 0.002

def thermometer (number : Nat) (name : String) (gateway interval : Nat) : Sensor :=
  ((Sensor.named ⟨number⟩ name "TEMP" "smart-building").attachedTo ⟨gateway⟩ 1).every interval

def fan : Actuator := (Actuator.named ⟨0⟩ "fan-0" "fan").attachedTo ⟨2⟩ 1

def blueprint (config : Config) (exporter : Exporter) : Except Rejection Blueprint := do
  return {
    config := config
    devices := []
    relays := [cloud, proxy, edgeNode 2 "edge-0" 2, edgeNode 3 "edge-1" 4]
    sensors := [thermometer 0 "thermo-0" 2 5, thermometer 1 "thermo-1" 3 7]
    actuators := [fan]
    mapped := some ⟨← application, mapping, 0⟩
    exporter := exporter }

end Demo
end FogNetwork
