import FogNetwork.Proofs.Deeds
import FogNetwork.Proofs.Histories
import FogNetwork.Proofs.Wires

/-! Networks in which nothing goes around in no time: whatever comes again comes a tick later, and a
tuple that is passed on at once has reached a host of its module. -/

namespace FogNetwork

def Orchestrator.placement (orchestrator : Orchestrator) : Placement :=
  (orchestrator.active.map (·.placement)).getD .empty

/-- Time passes between the rounds of the relay, and on all its routes but those that lead from a
device where the module is not placed to one where it is. -/
structure Relay.Paced (placement : Placement) (id : DeviceId) (relay : Relay) : Prop where
  interval : 1 ≤ relay.interval
  routes : ∀ name route, relay.routes.get? name = some route →
    1 ≤ route.latency ∨ name ∉ placement.modulesOn id ∧ name ∈ placement.modulesOn route.device

def Device.Paced (placement : Placement) (id : DeviceId) : Device → Prop
  | .relay device => device.Paced placement id
  | .recorder _ => True

structure Orchestrator.Paced (orchestrator : Orchestrator) : Prop where
  control : 1 ≤ orchestrator.config.controlInterval
  sensors : orchestrator.sensors.All (1 ≤ ·.interval)
  devices : ∀ id device, orchestrator.devices.get? id = some device →
    device.Paced orchestrator.placement id

theorem Relay.Paced.of_setup {placement : Placement} {id : DeviceId} {relay next : Relay}
    (paced : relay.Paced placement id) (same : next.setup = relay.setup) :
    next.Paced placement id := by
  have own : next.setup.Paced placement id := by
    rw [same]
    exact ⟨paced.interval, paced.routes⟩
  exact ⟨own.interval, own.routes⟩

theorem Device.Reaction.paced {placement : Placement} {id : DeviceId} {device next : Device}
    {event : DeviceEvent} {begun reacted : Context}
    (reaction : Reaction begun device event next reacted) (paced : device.Paced placement id) :
    next.Paced placement id := by
  cases reaction with
  | recorder => trivial
  | active | received | launch => exact ⟨paced.interval, paced.routes⟩
  | manage deeds | arrival deeds =>
      have own : Relay.Paced placement id _ := paced
      exact own.of_setup deeds.keeps.2

theorem Reaction.paced {orchestrator next : Orchestrator} {begun reacted : Context}
    {payload : Payload} (reaction : Reaction orchestrator begun payload next reacted)
    (running : begun.halted = false) (paced : orchestrator.Paced) : next.Paced := by
  cases reaction with
  | device known reacts =>
      refine ⟨paced.control, paced.sensors, ?_⟩
      intro wanted device found
      rw [SortedMap.get?_insert] at found
      split at found
      next same =>
        cases found
        rw [same]
        exact (Device.react_reaction running reacts).paced (paced.devices _ _ known)
      · exact paced.devices wanted device found
  | sensor known _ _ reacts =>
      have interval := paced.sensors _ _ known
      refine ⟨paced.control, paced.sensors.insert ?_, paced.devices⟩
      rcases Sensor.transmit_ends running reacts with
        ⟨_, rfl, _⟩ | ⟨_, _, _, _, _, _, rfl⟩
      · exact interval
      · exact interval
  | _ => exact ⟨paced.control, paced.sensors, paced.devices⟩

theorem Scenario.Reached.paced {started scenario : Scenario} {turns : List Turn}
    (reached : started.Reached turns scenario) (paced : started.orchestrator.Paced) :
    scenario.orchestrator.Paced :=
  reached.keeps (motive := fun _ scenario => scenario.orchestrator.Paced) paced
    fun _ _ _ _ _ _ paced dispatches => dispatches.reaction.paced dispatches.begun_running paced

/-! What a blueprint says of its parts holds of the scenario that is built from it. -/

structure Relay.Timed (relay : Relay) : Prop where
  interval : 1 ≤ relay.interval
  routes : ∀ name route, relay.routes.get? name = some route → 1 ≤ route.latency

def Device.Timed : Device → Prop
  | .relay device => device.Timed
  | .recorder _ => True

structure Blueprint.Timed (blueprint : Blueprint) : Prop where
  devices : ∀ device ∈ blueprint.devices, device.Timed
  relays : ∀ relay ∈ blueprint.relays, relay.Timed
  sensors : ∀ sensor ∈ blueprint.sensors, 1 ≤ sensor.interval

theorem Device.Timed.changeLinks {device : Device} (timed : device.Timed) (change : Links → Links) :
    (device.changeLinks change).Timed := by
  cases device with
  | relay relay => exact ⟨timed.interval, timed.routes⟩
  | recorder recorder => trivial

theorem Device.Timed.paced {device : Device} (timed : device.Timed) (placement : Placement)
    (id : DeviceId) : device.Paced placement id := by
  cases device with
  | relay relay =>
      exact ⟨timed.interval, fun name route found => .inl (timed.routes name route found)⟩
  | recorder recorder => trivial

theorem Relay.Paced.addRoute {placement : Placement} {id device : DeviceId} {relay : Relay}
    {name : String} {latency : Nat} (paced : relay.Paced placement id)
    (leads : (Wire.route id name device latency).Leads placement) :
    (relay.addRoute name device latency).Paced placement id := by
  refine ⟨paced.interval, ?_⟩
  intro wanted route found
  rw [Relay.addRoute, SortedMap.get?_insert] at found
  split at found
  next same =>
    cases found
    rw [same]
    exact .inr leads
  · exact paced.routes wanted route found

theorem Orchestrator.applyWire_paced {placement : Placement} {wire : Wire}
    {orchestrator : Orchestrator} (leads : wire.Leads placement)
    (paced : ∀ id device, orchestrator.devices.get? id = some device → device.Paced placement id) :
    ∀ id device, (orchestrator.applyWire wire).devices.get? id = some device →
      device.Paced placement id := by
  intro id device found
  cases wire with
  | route relay name target latency =>
      rw [applyWire, changeRelay, SortedMap.get?_modify] at found
      split at found
      next same =>
        obtain ⟨old, known, rfl⟩ := Option.map_eq_some_iff.mp found
        have own := paced id old known
        cases old with
        | relay old =>
            rw [← same] at leads
            exact Relay.Paced.addRoute own leads
        | recorder old => trivial
      · exact paced id device found
  | actuator relay actuator latency =>
      rw [applyWire, changeRelay, SortedMap.get?_modify] at found
      split at found
      · obtain ⟨old, known, rfl⟩ := Option.map_eq_some_iff.mp found
        have own := paced id old known
        cases old with
        | relay old => exact ⟨own.interval, own.routes⟩
        | recorder old => trivial
      · exact paced id device found

theorem Orchestrator.applyWires_paced {placement : Placement} {wires : List Wire}
    {orchestrator : Orchestrator} (leads : ∀ wire ∈ wires, wire.Leads placement)
    (paced : ∀ id device, orchestrator.devices.get? id = some device → device.Paced placement id) :
    ∀ id device, (wires.foldl applyWire orchestrator).devices.get? id = some device →
      device.Paced placement id := by
  refine List.foldlRecOn wires applyWire (motive := fun orchestrator =>
    ∀ id device, orchestrator.devices.get? id = some device → device.Paced placement id) paced ?_
  exact fun between paced wire member => applyWire_paced (leads wire member) paced

namespace Blueprint

variable {blueprint : Blueprint} {built : Scenario}

theorem config_valid (builds : blueprint.build.outcome = .ok (.ok built)) :
    blueprint.config.validate = .ok () := by
  unfold build at builds
  split at builds
  · cases builds
  next valid => exact valid

theorem Timed.of_build (timed : blueprint.Timed)
    (builds : blueprint.build.outcome = .ok (.ok built)) : built.orchestrator.Paced := by
  obtain ⟨registered, registers, rest⟩ := build_outcome builds
  have devices : registered.devices.All Device.Timed :=
    registered_all timed.devices timed.relays (fun change _ own => own.changeLinks change) registers
  obtain ⟨_, _, same⟩ := Orchestrator.register_value registers
  have control : 1 ≤ registered.config.controlInterval := by
    have valid := config_valid builds
    unfold Config.validate at valid
    split at valid
    · cases valid
    next positive =>
      rw [same]
      exact Nat.pos_of_ne_zero positive
  have sensors : registered.sensors.All (1 ≤ ·.interval) := by
    have entered (sensors : List Sensor) (own : ∀ sensor ∈ sensors, 1 ≤ sensor.interval)
        (map : SortedMap SensorId Sensor) (all : map.All (1 ≤ ·.interval)) :
        (sensors.foldl (fun map sensor => map.insert sensor.id sensor) map).All
          (1 ≤ ·.interval) := by
      induction sensors generalizing map with
      | nil => exact all
      | cons first rest ih =>
          exact ih (fun other member => own other (by simp [member])) _
            (all.insert (own first (by simp)))
    rw [same]
    exact entered blueprint.sensors timed.sensors .empty (SortedMap.all_empty _)
  rcases rest with ⟨_, rfl⟩ | ⟨mapped, placement, wires, submitted, _, _, wired, submits, rfl⟩
  · exact ⟨control, sensors, fun id device found => (devices id device found).paced _ id⟩
  · obtain ⟨_, coverage, held⟩ := Orchestrator.submit_value submits
    obtain ⟨changed, framed⟩ := Orchestrator.applyWires_frame wires submitted
    have placed : (wires.foldl Orchestrator.applyWire submitted).placement = placement := by
      rw [framed, held]
      rfl
    refine ⟨?_, ?_, ?_⟩
    · rw [Scenario.ofOrchestrator, framed, held]
      exact control
    · rw [Scenario.ofOrchestrator, framed, held]
      exact sensors
    · rw [Scenario.ofOrchestrator, placed]
      refine Orchestrator.applyWires_paced (fun wire member => wiring_leads wired member) ?_
      rw [held]
      exact fun id device found => (devices id device found).paced placement id

end Blueprint
end FogNetwork
