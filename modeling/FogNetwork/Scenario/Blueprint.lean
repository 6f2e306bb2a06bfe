import FogNetwork.Orchestrator.Registration
import FogNetwork.Orchestrator.Submission
import FogNetwork.Placement.Mapping
import FogNetwork.Scenario.Basic
import FogNetwork.Scenario.Wiring

/-! Blueprints describe a whole scenario: its topology, its application with a mapping by device
names, and where the figures go. -/

namespace FogNetwork

structure MappedApplication where
  application : Application
  mapping : Mapping
  delay : Nat

structure Blueprint where
  config : Config
  /-- Devices that are registered as they are. -/
  devices : List Device
  /-- Relays that are wired to hosts and actuators when the scenario is built. -/
  relays : List Relay
  sensors : List Sensor
  actuators : List Actuator
  mapped : Option MappedApplication
  exporter : Exporter

namespace Orchestrator

def applyWire (orchestrator : Orchestrator) : Wire → Orchestrator
  | .route relay name device latency =>
      orchestrator.changeRelay relay (·.addRoute name device latency)
  | .actuator relay actuator latency =>
      orchestrator.changeRelay relay (·.attachActuator actuator latency)

end Orchestrator

namespace Blueprint

def empty : Blueprint := ⟨.standard, [], [], [], [], none, .keeping⟩

def actuatorLinks (blueprint : Blueprint) : List ActuatorLink :=
  blueprint.actuators.map fun actuator => ⟨actuator.id, actuator.gateway, actuator.latency⟩

def install (blueprint : Blueprint) (mapped : MappedApplication) (orchestrator : Orchestrator) :
    Run (Except Rejection Orchestrator) := do
  match mapped.mapping.resolve orchestrator.devices with
  | .error rejection => return .error rejection
  | .ok placement =>
      let wires ← wiring orchestrator.devices placement blueprint.actuatorLinks
        (blueprint.relays.map (·.id))
      match ← orchestrator.submit mapped.application placement mapped.delay with
      | (.error rejection, _) => return .error rejection
      | (.ok (), orchestrator) => return .ok (wires.foldl Orchestrator.applyWire orchestrator)

def build (blueprint : Blueprint) : Run (Except Rejection Scenario) := do
  match blueprint.config.validate with
  | .error rejection => return .error rejection
  | .ok () =>
      let orchestrator := Orchestrator.initial blueprint.config blueprint.exporter
      let devices := blueprint.devices ++ blueprint.relays.map Device.relay
      match ← orchestrator.register devices blueprint.sensors blueprint.actuators with
      | (.error rejection, _) => return .error rejection
      | (.ok (), orchestrator) =>
          match blueprint.mapped with
          | none => return .ok (.ofOrchestrator orchestrator)
          | some mapped =>
              return (← blueprint.install mapped orchestrator).map Scenario.ofOrchestrator

end Blueprint
end FogNetwork
