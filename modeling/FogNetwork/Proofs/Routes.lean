import FogNetwork.Proofs.Pace
import FogNetwork.Proofs.Routing

/-! The routes that a built relay starts out with: to every module that is placed elsewhere and can
be reached, by way of its nearest host. -/

namespace FogNetwork

namespace SortedMap

variable {κ α β : Type} [Ord κ] [Std.TransOrd κ] [Std.LawfulEqOrd κ]

theorem mapValues_modify {look : α → β} {change : α → α} (map : SortedMap κ α) (key : κ)
    (blind : ∀ value, look (change value) = look value) :
    (map.modify key change).mapValues (fun _ => look) = map.mapValues fun _ => look := by
  ext1 wanted
  rw [modify, get?_mapValues, get?_mapValues, get?_mapValues, Option.map_map]
  congr 1
  funext value
  dsimp only [Function.comp_apply]
  split
  · exact blind value
  · rfl

omit [Std.TransOrd κ] in
theorem contains_mapValues {look : α → β} (map : SortedMap κ α) (key : κ) :
    (map.mapValues fun _ => look).contains key = map.contains key := by
  rw [contains, contains, get?_mapValues, Option.isSome_map]

end SortedMap

/-! A path depends on nothing but the links of the devices. -/

def linksOf (devices : Devices) : SortedMap DeviceId Links := devices.mapValues fun _ => Device.links

section Paths

variable {left right : Devices}

theorem contains_of_linksOf (same : linksOf left = linksOf right) (id : DeviceId) :
    left.contains id = right.contains id := by
  rw [← left.contains_mapValues id, ← right.contains_mapValues id]
  exact congrArg (SortedMap.contains · id) same

theorem linkUp?_congr (same : linksOf left = linksOf right) (visited : List DeviceId)
    (device : DeviceId) : linkUp? left visited device = linkUp? right visited device := by
  have uplink (devices : Devices) : (devices.get? device).bind (·.links.uplink?) =
      ((linksOf devices).get? device).bind Links.uplink? := by
    rw [linksOf, SortedMap.get?_mapValues]
    cases devices.get? device <;> rfl
  unfold linkUp?
  simp only [uplink, same, contains_of_linksOf same]

theorem climb_congr (same : linksOf left = linksOf right) (steps : Nat) (visited : List DeviceId)
    (device : DeviceId) (distance : Nat) :
    climb left steps visited device distance = climb right steps visited device distance := by
  induction steps generalizing visited device distance with
  | zero => rfl
  | succ steps ih => simp only [climb, linkUp?_congr same, ih]

theorem ancestry_congr (same : linksOf left = linksOf right) (device : DeviceId) :
    ancestry left device = ancestry right device := by
  have size (devices : Devices) : devices.size = (linksOf devices).size := by
    simp [linksOf, SortedMap.size, SortedMap.mapValues]
  rw [ancestry, ancestry, size left, size right, same, climb_congr same]

theorem pathLatency_congr (same : linksOf left = linksOf right) (start target : DeviceId) :
    pathLatency left start target = pathLatency right start target := by
  rw [pathLatency, pathLatency, ancestry_congr same, ancestry_congr same]

variable {placement : Placement} {relay : DeviceId} {name : String} {route : Route}

theorem Placement.Nearest.congr (same : linksOf left = linksOf right) :
    placement.Nearest left relay name route ↔ placement.Nearest right relay name route := by
  constructor
  · rintro ⟨host, reached, least⟩
    simp only [pathLatency_congr same] at reached least
    exact ⟨host, reached, least⟩
  · rintro ⟨host, reached, least⟩
    simp only [← pathLatency_congr same] at reached least
    exact ⟨host, reached, least⟩

theorem Wire.Wanted.congr (same : linksOf left = linksOf right) {links : List ActuatorLink}
    {relays : List DeviceId} {wire : Wire} :
    wire.Wanted left placement links relays ↔ wire.Wanted right placement links relays := by
  cases wire with
  | route => simp only [Wanted, Placement.Nearest.congr same]
  | actuator => simp only [Wanted, pathLatency_congr same]

section Reach

variable {devices : Devices}

def Placement.hostsWithin (placement : Placement) (devices : Devices) (relay : DeviceId)
    (name : String) : List (Nat × DeviceId) :=
  (placement.devicesFor name).filterMap fun host =>
    (pathLatency devices relay host).toOption.join.map fun latency => (latency, host)

theorem Placement.mem_hostsWithin_iff {latency : Nat} {host : DeviceId} :
    (latency, host) ∈ placement.hostsWithin devices relay name ↔
      host ∈ placement.devicesFor name ∧
        pathLatency devices relay host = .ok (some latency) := by
  rw [hostsWithin, List.mem_filterMap]
  constructor
  · rintro ⟨other, hosts, shown⟩
    obtain ⟨_, reached, same⟩ := Option.map_eq_some_iff.mp shown
    cases same
    refine ⟨hosts, ?_⟩
    cases path : pathLatency devices relay host with
    | error fault =>
        rw [path] at reached
        cases reached
    | ok latency? =>
        rw [path] at reached
        exact congrArg Except.ok reached
  · rintro ⟨hosts, path⟩
    exact ⟨host, hosts, by rw [path]; rfl⟩

theorem Placement.exists_nearest_iff :
    (∃ route, placement.Nearest devices relay name route) ↔
      ∃ host ∈ placement.devicesFor name, ∃ latency,
        pathLatency devices relay host = .ok (some latency) := by
  constructor
  · rintro ⟨route, nearest⟩
    exact ⟨route.device, nearest.host, route.latency, nearest.reached⟩
  · rintro ⟨host, hosts, latency, path⟩
    have member := mem_hostsWithin_iff.mpr ⟨hosts, path⟩
    cases best : nearest? (placement.hostsWithin devices relay name) with
    | none =>
        rw [nearest?_eq_none_iff.mp best] at member
        cases member
    | some place =>
        obtain ⟨listed, reached⟩ := mem_hostsWithin_iff.mp (nearest?_mem best)
        exact ⟨⟨place.2, place.1⟩, listed, reached, fun other hosts _ path =>
          nearest?_least best (mem_hostsWithin_iff.mpr ⟨hosts, path⟩)⟩

end Reach

end Paths

/-! A mapping goes by nothing but the names of the devices. -/

def namesOf (devices : Devices) : SortedMap DeviceId String := devices.mapValues fun _ => Device.name

theorem deviceNamed?_congr {left right : Devices} (same : namesOf left = namesOf right)
    (name : String) : deviceNamed? left name = deviceNamed? right name := by
  have named (devices : Devices) : deviceNamed? devices name =
      (((namesOf devices).entries.filter (·.2 == name)).getLast?).map Prod.fst := by
    rw [deviceNamed?, namesOf, SortedMap.mapValues, List.filter_map, List.getLast?_map,
      Option.map_map]
    rfl
  rw [named, named, same]

theorem Mapping.resolve_congr {left right : Devices} (same : namesOf left = namesOf right)
    (mapping : Mapping) : mapping.resolve left = mapping.resolve right := by
  simp only [resolve, deviceNamed?_congr same]

/-! What registering and wiring leave alone. -/

section Blind

variable {α : Type} {look : Device → α}

theorem connect_mapValues (blind : ∀ change device, look (device.changeLinks change) = look device)
    (devices : Devices) :
    (connect devices).value.mapValues (fun _ => look) = devices.mapValues fun _ => look := by
  have entered (links : List (DeviceId × ParentLink)) (devices : Devices) :
      (links.foldl enterLink devices).mapValues (fun _ => look) =
        devices.mapValues fun _ => look := by
    induction links generalizing devices with
    | nil => rfl
    | cons link rest ih =>
        rw [List.foldl_cons, ih]
        exact devices.mapValues_modify _ (blind _)
  refine (entered _ _).trans ?_
  ext1 id
  rw [SortedMap.get?_mapValues, SortedMap.get?_mapValues, SortedMap.get?_mapValues,
    Option.map_map]
  congr 1
  funext device
  exact blind _ device

theorem Orchestrator.applyWires_mapValues
    (blind : ∀ relay routes actuators,
      look (.relay { relay with routes := routes, actuators := actuators }) = look (.relay relay))
    (wires : List Wire) (orchestrator : Orchestrator) :
    (wires.foldl applyWire orchestrator).devices.mapValues (fun _ => look) =
      orchestrator.devices.mapValues fun _ => look := by
  ext1 id
  rw [SortedMap.get?_mapValues, SortedMap.get?_mapValues, get?_applyWires, Option.map_map]
  congr 1
  funext device
  cases device with
  | recorder => rfl
  | relay relay =>
      change look (.relay (relay.wired id wires)) = look (.relay relay)
      rw [Relay.wired_eq]
      exact blind relay _ _

end Blind

def Device.tables? (device : Device) : Option (SortedMap String Route × SortedMap ActuatorId Nat) :=
  device.relay?.map fun relay => (relay.routes, relay.actuators)

theorem Device.tables?_changeLinks (change : Links → Links) (device : Device) :
    (device.changeLinks change).tables? = device.tables? := by
  cases device <;> rfl

theorem get?_enterDevices {devices : List Device} {before after : Devices}
    (entered : enterDevices devices before = (.ok (), after)) :
    (∀ device ∈ devices, after.get? device.id = some device) ∧
      ∀ id device, before.get? id = some device → after.get? id = some device := by
  induction devices generalizing before with
  | nil =>
      cases entered
      exact ⟨nofun, fun _ _ found => found⟩
  | cons first rest ih =>
      simp only [enterDevices] at entered
      split at entered
      · cases entered
      next free =>
        obtain ⟨members, kept⟩ := ih entered
        refine ⟨?_, ?_⟩
        · intro device member
          rcases List.mem_cons.mp member with rfl | later
          · exact kept _ _ (SortedMap.get?_insert_self ..)
          · exact members device later
        · intro id device found
          have differs : id ≠ first.id := by
            rintro rfl
            exact free (by rw [SortedMap.contains, found]; rfl)
          exact kept id device (by rw [SortedMap.get?_insert_of_ne _ _ differs, found])

namespace Blueprint

variable {blueprint : Blueprint} {built : Scenario}

theorem build_wired (builds : blueprint.build.outcome = .ok (.ok built)) :
    ∃ registered wires,
      (blueprint.fresh.register (blueprint.devices ++ blueprint.relays.map Device.relay)
        blueprint.sensors blueprint.actuators).value = (.ok (), registered) ∧
      (∀ id, built.orchestrator.devices.get? id =
        (registered.devices.get? id).map (Device.changeRelay (Relay.wired id wires))) ∧
      ((blueprint.mapped = none ∧ built.orchestrator.active = none ∧ wires = []) ∨
        ∃ mapped held, blueprint.mapped = some mapped ∧ built.orchestrator.active = some held ∧
          mapped.mapping.resolve built.orchestrator.devices = .ok held.placement ∧
          ∀ wire, wire ∈ wires ↔ wire.Wanted built.orchestrator.devices held.placement
            blueprint.actuatorLinks (blueprint.relays.map (·.id))) := by
  obtain ⟨registered, registers, rest⟩ := build_outcome builds
  rcases rest with ⟨unmapped, rfl⟩ |
    ⟨mapped, placement, wires, submitted, mapping, resolved, wired, submits, rfl⟩
  · obtain ⟨_, _, same⟩ := Orchestrator.register_value registers
    refine ⟨registered, [], registers, ?_, .inl ⟨unmapped, by rw [same]; rfl, rfl⟩⟩
    exact registered.get?_applyWires []
  · obtain ⟨_, coverage, held⟩ := Orchestrator.submit_value submits
    obtain ⟨changed, frame⟩ := Orchestrator.applyWires_frame wires submitted
    have devices : submitted.devices = registered.devices := by rw [held]
    have links : linksOf (wires.foldl Orchestrator.applyWire submitted).devices =
        linksOf registered.devices := by
      rw [← devices]
      exact Orchestrator.applyWires_mapValues (fun _ _ _ => rfl) wires submitted
    have names : namesOf (wires.foldl Orchestrator.applyWire submitted).devices =
        namesOf registered.devices := by
      rw [← devices]
      exact Orchestrator.applyWires_mapValues (fun _ _ _ => rfl) wires submitted
    have active : (wires.foldl Orchestrator.applyWire submitted).active =
        some ⟨(Orchestrator.subscribeActuators registered.actuators mapped.application).value,
          placement, mapped.delay⟩ := by
      rw [frame, held]
    refine ⟨registered, wires, registers, ?_,
      .inr ⟨mapped, _, mapping, active, (Mapping.resolve_congr names _).trans resolved, ?_⟩⟩
    · rw [← devices]
      exact submitted.get?_applyWires wires
    · intro wire
      rw [mem_wiring_iff wired]
      exact (Wire.Wanted.congr links).symm

theorem build_resolved (builds : blueprint.build.outcome = .ok (.ok built))
    {mapped : MappedApplication} (some : blueprint.mapped = some mapped) :
    mapped.mapping.resolve built.orchestrator.devices = .ok built.orchestrator.placement := by
  obtain ⟨_, _, _, _, ⟨none, _⟩ | ⟨other, held, mapping, active, resolved, _⟩⟩ := build_wired builds
  · rw [some] at none
    cases none
  · rw [some] at mapping
    cases mapping
    rw [resolved, Orchestrator.placement, active]
    rfl

theorem build_routed (builds : blueprint.build.outcome = .ok (.ok built)) :
    ∃ registered wires,
      (blueprint.fresh.register (blueprint.devices ++ blueprint.relays.map Device.relay)
        blueprint.sensors blueprint.actuators).value = (.ok (), registered) ∧
      (∀ id, built.orchestrator.devices.get? id =
        (registered.devices.get? id).map (Device.changeRelay (Relay.wired id wires))) ∧
      ∀ relay name route, Wire.route relay name route.device route.latency ∈ wires ↔
        relay ∈ blueprint.relays.map (·.id) ∧
          name ∉ built.orchestrator.placement.modulesOn relay ∧
          built.orchestrator.placement.Nearest built.orchestrator.devices relay name route := by
  obtain ⟨registered, wires, registers, devices,
    ⟨_, inactive, rfl⟩ | ⟨_, held, _, active, _, wanted⟩⟩ := build_wired builds
  · refine ⟨registered, [], registers, devices, fun relay name route => ?_⟩
    have unplaced : built.orchestrator.placement = .empty := by
      rw [Orchestrator.placement, inactive]
      rfl
    rw [unplaced]
    constructor
    · exact nofun
    · rintro ⟨_, _, nearest⟩
      cases nearest.host
  · have placed : built.orchestrator.placement = held.placement := by
      rw [Orchestrator.placement, active]
      rfl
    refine ⟨registered, wires, registers, devices, fun relay name route => ?_⟩
    rw [placed]
    exact wanted (.route relay name route.device route.latency)

structure Unrouted (blueprint : Blueprint) : Prop where
  devices : ∀ relay, Device.relay relay ∈ blueprint.devices → relay.routes = .empty
  relays : ∀ relay ∈ blueprint.relays, relay.routes = .empty

theorem registered_relay {registered : Orchestrator} {relay : Relay}
    (listed : relay ∈ blueprint.relays)
    (registers : (blueprint.fresh.register (blueprint.devices ++ blueprint.relays.map Device.relay)
      blueprint.sensors blueprint.actuators).value = (.ok (), registered)) :
    ∃ linked, registered.devices.get? relay.id = some (.relay linked) ∧
      linked.routes = relay.routes ∧ linked.actuators = relay.actuators := by
  obtain ⟨entered, enters, same⟩ := Orchestrator.register_value registers
  have known : entered.get? relay.id = some (.relay relay) :=
    (get?_enterDevices enters).1 (.relay relay)
      (List.mem_append_right _ (List.mem_map_of_mem listed))
  have shown := congrArg (SortedMap.get? · relay.id)
    (connect_mapValues Device.tables?_changeLinks entered)
  rw [SortedMap.get?_mapValues, SortedMap.get?_mapValues, known, ← show registered.devices =
    (connect entered).value by rw [same]] at shown
  cases found : registered.devices.get? relay.id with
  | none =>
      rw [found] at shown
      cases shown
  | some device =>
      rw [found] at shown
      cases device with
      | recorder => cases Option.some.inj shown
      | relay linked =>
          have level := Option.some.inj (Option.some.inj shown)
          exact ⟨linked, rfl, congrArg Prod.fst level, congrArg Prod.snd level⟩

theorem build_route_iff (builds : blueprint.build.outcome = .ok (.ok built)) {relay : Relay}
    (listed : relay ∈ blueprint.relays) :
    ∃ wired, built.orchestrator.relay? relay.id = some wired ∧
      ∀ name, relay.routes.get? name = none → ∀ route,
        wired.routes.get? name = some route ↔
          name ∉ built.orchestrator.placement.modulesOn relay.id ∧
          built.orchestrator.placement.Nearest built.orchestrator.devices relay.id name route := by
  obtain ⟨registered, wires, registers, devices, wanted⟩ := build_routed builds
  obtain ⟨linked, known, routes, _⟩ := registered_relay listed registers
  have member : relay.id ∈ blueprint.relays.map (·.id) := List.mem_map_of_mem listed
  refine ⟨linked.wired relay.id wires, ?_, fun name free route => ?_⟩
  · rw [Orchestrator.relay?, devices, known]
    rfl
  · rcases Relay.routes_wired wires relay.id linked name with ⟨other, wire, found⟩ | ⟨none, kept⟩
    · obtain ⟨_, away, nearest⟩ := (wanted _ _ _).mp wire
      rw [found, Option.some.injEq]
      constructor
      · rintro rfl
        exact ⟨away, nearest⟩
      · rintro ⟨_, too⟩
        exact nearest.unique too
    · rw [kept, routes, free]
      constructor
      · exact nofun
      · rintro ⟨away, nearest⟩
        exact absurd ((wanted _ _ _).mpr ⟨member, away, nearest⟩) (none _ _)

theorem Unrouted.nearest (unrouted : blueprint.Unrouted)
    (builds : blueprint.build.outcome = .ok (.ok built)) {id : DeviceId} {relay : Relay}
    (known : built.orchestrator.devices.get? id = some (.relay relay)) {name : String}
    {route : Route} (routed : relay.routes.get? name = some route) :
    name ∉ built.orchestrator.placement.modulesOn id ∧
      built.orchestrator.placement.Nearest built.orchestrator.devices id name route := by
  obtain ⟨registered, wires, registers, devices, wanted⟩ := build_routed builds
  have plain : registered.devices.All fun device =>
      ∀ relay, device = .relay relay → relay.routes = .empty := by
    refine registered_all ?_ ?_ ?_ registers
    · rintro _ listed relay rfl
      exact unrouted.devices relay listed
    · rintro _ listed _ ⟨⟩
      exact unrouted.relays _ listed
    · rintro change (relay | recorder) own _ ⟨⟩
      exact own relay rfl
  rw [devices, Option.map_eq_some_iff] at known
  obtain ⟨device, registeredHere, changed⟩ := known
  cases device with
  | recorder => cases changed
  | relay linked =>
      cases changed
      have empty := plain id _ registeredHere linked rfl
      rcases Relay.routes_wired wires id linked name with ⟨other, wire, found⟩ | ⟨_, kept⟩
      · rw [found] at routed
        cases routed
        exact ((wanted _ _ _).mp wire).2
      · rw [kept, empty] at routed
        cases routed

end Blueprint
end FogNetwork
