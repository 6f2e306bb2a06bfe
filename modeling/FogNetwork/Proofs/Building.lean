import FogNetwork.Proofs.Entries
import FogNetwork.Scenario.Blueprint

/-! What a blueprint is built into: which parts there are, and that no relay has worked yet. -/

namespace FogNetwork

theorem Run.outcome_lift {α : Type} (logged : Logged α) :
    (liftM logged : Run α).outcome = .ok logged.value := rfl

/-- A relay that has not worked yet: it runs nothing and nothing waits in it. -/
structure Relay.Unused (relay : Relay) : Prop where
  application : relay.application = none
  hosted : relay.hosted = .empty
  north : relay.north = []
  south : relay.south = []
  executed : relay.executed = 0

def Device.Unused : Device → Prop
  | .relay device => device.Unused
  | .recorder _ => True

structure Blueprint.Unused (blueprint : Blueprint) : Prop where
  devices : ∀ device ∈ blueprint.devices, device.Unused
  relays : ∀ relay ∈ blueprint.relays, relay.Unused

namespace Orchestrator

variable {orchestrator next : Orchestrator}

theorem register_value {devices : List Device} {sensors : List Sensor}
    {actuators : List Actuator}
    (registered : (orchestrator.register devices sensors actuators).value = (.ok (), next)) :
    ∃ entered, enterDevices devices orchestrator.devices = (.ok (), entered) ∧
      next = { orchestrator with
        devices := (connect entered).value
        sensors := sensors.foldl (fun map sensor => map.insert sensor.id sensor)
          orchestrator.sensors
        actuators := actuators.foldl (fun map actuator => map.insert actuator.id actuator)
          orchestrator.actuators } := by
  unfold register at registered
  split at registered
  · cases registered
  next entered found =>
    cases registered
    exact ⟨entered, found, rfl⟩

theorem submit_value {application : Application} {placement : Placement} {delay : Nat}
    (submitted : (orchestrator.submit application placement delay).value = (.ok (), next)) :
    orchestrator.admits application placement = .ok () ∧
      ∃ coverage, next = { orchestrator with
        coverage := coverage
        active := some ⟨(subscribeActuators orchestrator.actuators application).value, placement,
          delay⟩ } := by
  unfold submit at submitted
  split at submitted
  · cases submitted
  next admitted =>
    cases submitted
    exact ⟨admitted, _, rfl⟩

end Orchestrator

namespace Blueprint

variable {blueprint : Blueprint} {built : Scenario}

def fresh (blueprint : Blueprint) : Orchestrator :=
  Orchestrator.initial blueprint.config blueprint.exporter

theorem build_outcome (builds : blueprint.build.outcome = .ok (.ok built)) :
    ∃ registered,
      (blueprint.fresh.register (blueprint.devices ++ blueprint.relays.map Device.relay)
        blueprint.sensors blueprint.actuators).value = (.ok (), registered) ∧
      ((blueprint.mapped = none ∧ built = .ofOrchestrator registered) ∨
        ∃ mapped placement wires submitted, blueprint.mapped = some mapped ∧
          mapped.mapping.resolve registered.devices = .ok placement ∧
          (wiring registered.devices placement blueprint.actuatorLinks
            (blueprint.relays.map (·.id))).outcome = .ok wires ∧
          (registered.submit mapped.application placement mapped.delay).value =
            (.ok (), submitted) ∧
          built = .ofOrchestrator (wires.foldl Orchestrator.applyWire submitted)) := by
  unfold build at builds
  split at builds
  · cases builds
  · obtain ⟨⟨result, registered⟩, registers, builds⟩ := Run.outcome_bind_eq_ok_iff.mp builds
    rw [Run.outcome_lift, Except.ok.injEq] at registers
    cases result with
    | error rejection => cases builds
    | ok =>
        refine ⟨registered, registers, ?_⟩
        dsimp only at builds
        split at builds
        next none =>
          cases builds
          exact .inl ⟨none, rfl⟩
        next mapped some =>
          obtain ⟨installed, installs, last⟩ := Run.outcome_bind_eq_ok_iff.mp builds
          unfold install at installs
          split at installs
          · cases installs
            cases last
          next placement resolved =>
            obtain ⟨wires, wired, installs⟩ := Run.outcome_bind_eq_ok_iff.mp installs
            obtain ⟨⟨result, submitted⟩, submits, installs⟩ :=
              Run.outcome_bind_eq_ok_iff.mp installs
            rw [Run.outcome_lift, Except.ok.injEq] at submits
            cases result with
            | error rejection =>
                cases installs
                cases last
            | ok =>
                cases installs
                cases last
                exact .inr ⟨mapped, placement, wires, submitted, some, resolved, wired, submits,
                  rfl⟩

end Blueprint

theorem enterDevices_all {holds : Device → Prop} {devices : List Device} {before after : Devices}
    (own : ∀ device ∈ devices, holds device) (all : before.All holds)
    (entered : enterDevices devices before = (.ok (), after)) : after.All holds := by
  induction devices generalizing before with
  | nil =>
      cases entered
      exact all
  | cons device rest ih =>
      simp only [enterDevices] at entered
      split at entered
      · cases entered
      · exact ih (fun other member => own other (by simp [member]))
          (all.insert (own device (by simp))) entered

theorem connect_all {holds : Device → Prop} {devices : Devices} (all : devices.All holds)
    (linked : ∀ change device, holds device → holds (device.changeLinks change)) :
    (connect devices).value.All holds := by
  refine List.foldlRecOn _ enterLink (motive := fun devices => devices.All holds)
    (all.mapValues fun _ => linked _) ?_
  exact fun _ all _ _ => all.modify (linked _)

theorem enterDevices_keyed {devices : List Device} {before after : Devices}
    (keyed : before.Keyed Device.id) (entered : enterDevices devices before = (.ok (), after)) :
    after.Keyed Device.id := by
  induction devices generalizing before with
  | nil =>
      cases entered
      exact keyed
  | cons device rest ih =>
      simp only [enterDevices] at entered
      split at entered
      · cases entered
      · exact ih (keyed.insert rfl) entered

theorem Device.id_changeLinks (change : Links → Links) (device : Device) :
    (device.changeLinks change).id = device.id := by
  cases device with
  | relay => rfl
  | recorder => rfl

theorem Device.id_changeRelay {change : Relay → Relay} (same : ∀ relay, (change relay).id = relay.id)
    (device : Device) : (device.changeRelay change).id = device.id := by
  cases device with
  | relay relay => exact same relay
  | recorder => rfl

theorem connect_keyed {devices : Devices} (keyed : devices.Keyed Device.id) :
    (connect devices).value.Keyed Device.id := by
  refine List.foldlRecOn _ enterLink (motive := fun devices => devices.Keyed Device.id)
    (keyed.mapValues fun _ => Device.id_changeLinks _) ?_
  exact fun _ keyed _ _ => keyed.modify (Device.id_changeLinks _)

theorem Orchestrator.applyWires_keyed {wires : List Wire} {orchestrator : Orchestrator}
    (keyed : orchestrator.devices.Keyed Device.id) :
    (wires.foldl applyWire orchestrator).devices.Keyed Device.id := by
  refine List.foldlRecOn wires applyWire
    (motive := fun orchestrator => orchestrator.devices.Keyed Device.id) keyed ?_
  intro between keyed wire _
  cases wire with
  | route | actuator => exact keyed.modify (Device.id_changeRelay fun _ => rfl)

theorem Device.Unused.changeLinks {device : Device} (unused : device.Unused)
    (change : Links → Links) : (device.changeLinks change).Unused := by
  cases device with
  | relay relay =>
      exact ⟨unused.application, unused.hosted, unused.north, unused.south, unused.executed⟩
  | recorder recorder => trivial

theorem Orchestrator.applyWires_all {holds : Device → Prop} {wires : List Wire}
    {orchestrator : Orchestrator}
    (kept : ∀ (relay : Relay) routes actuators, holds (.relay relay) →
      holds (.relay { relay with routes := routes, actuators := actuators }))
    (all : orchestrator.devices.All holds) :
    (wires.foldl applyWire orchestrator).devices.All holds := by
  refine List.foldlRecOn wires applyWire
    (motive := fun orchestrator => orchestrator.devices.All holds) all ?_
  intro between all wire _
  cases wire with
  | route | actuator =>
      refine all.modify fun device own => ?_
      cases device with
      | relay relay => exact kept relay _ _ own
      | recorder => exact own

theorem Orchestrator.applyWires_frame (wires : List Wire) (orchestrator : Orchestrator) :
    ∃ devices, wires.foldl applyWire orchestrator =
      { orchestrator with devices := devices } := by
  refine List.foldlRecOn wires applyWire (motive := fun wired =>
    ∃ devices, wired = { orchestrator with devices := devices }) ⟨orchestrator.devices, rfl⟩ ?_
  rintro _ ⟨devices, rfl⟩ wire _
  cases wire with
  | route | actuator => exact ⟨_, rfl⟩

namespace Blueprint

variable {blueprint : Blueprint} {built : Scenario}

theorem registered_all {holds : Device → Prop} {registered : Orchestrator}
    (devices : ∀ device ∈ blueprint.devices, holds device)
    (relays : ∀ relay ∈ blueprint.relays, holds (.relay relay))
    (linked : ∀ change device, holds device → holds (device.changeLinks change))
    (registers : (blueprint.fresh.register (blueprint.devices ++ blueprint.relays.map Device.relay)
      blueprint.sensors blueprint.actuators).value = (.ok (), registered)) :
    registered.devices.All holds := by
  obtain ⟨entered, enters, same⟩ := Orchestrator.register_value registers
  have made : ∀ device ∈ blueprint.devices ++ blueprint.relays.map Device.relay,
      holds device := by
    intro device member
    rcases List.mem_append.mp member with own | made
    · exact devices device own
    · obtain ⟨relay, listed, rfl⟩ := List.mem_map.mp made
      exact relays relay listed
  rw [same]
  exact connect_all (enterDevices_all made (SortedMap.all_empty _) enters) linked

theorem Unused.of_build (unused : blueprint.Unused)
    (builds : blueprint.build.outcome = .ok (.ok built)) :
    built.orchestrator.devices.All Device.Unused := by
  obtain ⟨registered, registers, rest⟩ := build_outcome builds
  have all : registered.devices.All Device.Unused :=
    registered_all unused.devices unused.relays (fun change _ own => own.changeLinks change)
      registers
  rcases rest with ⟨_, rfl⟩ | ⟨mapped, placement, wires, submitted, _, _, _, submits, rfl⟩
  · exact all
  · obtain ⟨_, coverage, held⟩ := Orchestrator.submit_value submits
    refine Orchestrator.applyWires_all (fun _ _ _ own =>
      ⟨own.application, own.hosted, own.north, own.south, own.executed⟩) ?_
    rw [held]
    exact all

theorem build_initial (builds : blueprint.build.outcome = .ok (.ok built)) :
    built.simulation = .initial ∧ built.orchestrator.startedAt = none := by
  obtain ⟨registered, registers, rest⟩ := build_outcome builds
  obtain ⟨entered, _, same⟩ := Orchestrator.register_value registers
  rcases rest with ⟨_, rfl⟩ | ⟨mapped, placement, wires, submitted, _, _, _, submits, rfl⟩
  · exact ⟨rfl, by rw [same]; rfl⟩
  · obtain ⟨_, coverage, held⟩ := Orchestrator.submit_value submits
    obtain ⟨devices, wired⟩ := Orchestrator.applyWires_frame wires submitted
    refine ⟨rfl, ?_⟩
    change (wires.foldl Orchestrator.applyWire submitted).startedAt = none
    rw [wired, held, same]
    rfl

theorem build_settings (builds : blueprint.build.outcome = .ok (.ok built)) :
    built.orchestrator.config = blueprint.config ∧ built.orchestrator.snapshot = none ∧
      ∀ held, built.orchestrator.active = some held →
        ∃ mapped, blueprint.mapped = some mapped ∧ held.delay = mapped.delay := by
  obtain ⟨registered, registers, rest⟩ := build_outcome builds
  obtain ⟨_, _, same⟩ := Orchestrator.register_value registers
  rcases rest with ⟨_, rfl⟩ | ⟨mapped, placement, wires, submitted, mapping, _, _, submits, rfl⟩
  · rw [same]
    exact ⟨rfl, rfl, nofun⟩
  · obtain ⟨_, coverage, held⟩ := Orchestrator.submit_value submits
    obtain ⟨devices, wired⟩ := Orchestrator.applyWires_frame wires submitted
    rw [Scenario.ofOrchestrator, wired, held, same]
    refine ⟨rfl, rfl, ?_⟩
    rintro _ ⟨⟩
    exact ⟨mapped, mapping, rfl⟩

theorem build_eq (builds : blueprint.build.outcome = .ok (.ok built)) :
    Scenario.ofOrchestrator built.orchestrator = built := by
  rw [Scenario.ofOrchestrator, ← (build_initial builds).1]

theorem build_keyed (builds : blueprint.build.outcome = .ok (.ok built)) :
    built.orchestrator.devices.Keyed Device.id ∧ built.orchestrator.sensors.Keyed Sensor.id ∧
      built.orchestrator.actuators.Keyed Actuator.id := by
  obtain ⟨registered, registers, rest⟩ := build_outcome builds
  obtain ⟨entered, enters, same⟩ := Orchestrator.register_value registers
  have devices : registered.devices.Keyed Device.id := by
    rw [same]
    exact connect_keyed (enterDevices_keyed (SortedMap.keyed_empty _) enters)
  have sensors : registered.sensors.Keyed Sensor.id := by
    rw [same]
    exact (SortedMap.keyed_empty _).enter _
  have actuators : registered.actuators.Keyed Actuator.id := by
    rw [same]
    exact (SortedMap.keyed_empty _).enter _
  rcases rest with ⟨_, rfl⟩ | ⟨mapped, placement, wires, submitted, _, _, _, submits, rfl⟩
  · exact ⟨devices, sensors, actuators⟩
  · obtain ⟨_, coverage, held⟩ := Orchestrator.submit_value submits
    have wired : (wires.foldl Orchestrator.applyWire submitted).devices.Keyed Device.id := by
      apply Orchestrator.applyWires_keyed
      rw [held]
      exact devices
    refine ⟨wired, ?_⟩
    obtain ⟨changed, frame⟩ := Orchestrator.applyWires_frame wires submitted
    rw [Scenario.ofOrchestrator, frame, held]
    exact ⟨sensors, actuators⟩

theorem build_actuators (builds : blueprint.build.outcome = .ok (.ok built)) {id : ActuatorId}
    {actuator : Actuator} (known : built.orchestrator.actuators.get? id = some actuator) :
    actuator.id = id :=
  (build_keyed builds).2.2 id actuator known

end Blueprint
end FogNetwork
