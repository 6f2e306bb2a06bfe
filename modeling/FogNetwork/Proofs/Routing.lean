import FogNetwork.Proofs.Wires

/-! Which wires relays get: a route to the nearest host of every module that is placed elsewhere and
can be reached, and a way to every actuator within reach. Then what is in a relay's tables once the
wires are applied. -/

namespace FogNetwork

section Traversals

variable {α ε ι : Type} {body : ι → Except ε α} {items : List ι} {results : List α}

theorem mapM_eq_ok_iff : items.mapM body = .ok results ↔ items.map body = results.map .ok := by
  induction items generalizing results with
  | nil => cases results <;> simp [pure, Except.pure]
  | cons item rest ih =>
      rw [List.mapM_cons, List.map_cons]
      cases first : body item with
      | error fault => cases results <;> simp [bind, Except.bind]
      | ok value =>
          cases results with
          | nil => cases rest.mapM body <;> simp [bind, Except.bind, pure, Except.pure]
          | cons result others =>
              rw [List.map_cons, List.cons.injEq, ← ih]
              cases rest.mapM body <;> simp [bind, Except.bind, pure, Except.pure]

theorem mem_mapM_iff (passed : items.mapM body = .ok results) {result : α} :
    result ∈ results ↔ ∃ item ∈ items, body item = .ok result := by
  have parts : Except.ok result ∈ results.map (Except.ok (ε := ε)) ↔ result ∈ results := by simp
  rw [← parts, ← mapM_eq_ok_iff.mp passed, List.mem_map]

theorem exists_mapM_ok_iff :
    (∃ results, items.mapM body = .ok results) ↔ ∀ item ∈ items, ∃ result, body item = .ok result := by
  induction items with
  | nil => simp [pure, Except.pure]
  | cons item rest ih =>
      rw [List.forall_mem_cons, ← ih, List.mapM_cons]
      cases body item with
      | error fault => simp [bind, Except.bind]
      | ok value => cases rest.mapM body <;> simp [bind, Except.bind, pure, Except.pure]

theorem mapM_error {fault : ε} (failed : items.mapM body = .error fault) :
    ∃ item ∈ items, body item = .error fault := by
  induction items with
  | nil => cases failed
  | cons item rest ih =>
      rw [List.mapM_cons] at failed
      cases first : body item with
      | error other =>
          rw [first] at failed
          cases failed
          exact ⟨item, by simp, first⟩
      | ok value =>
          cases others : rest.mapM body with
          | error other =>
              rw [first, others] at failed
              cases failed
              obtain ⟨item, listed, own⟩ := ih others
              exact ⟨item, by simp [listed], own⟩
          | ok values =>
              rw [first, others] at failed
              cases failed

end Traversals

/-! A distance that cannot be counted is the only thing that keeps a scenario from being wired. -/

theorem climb_fault {devices : Devices} {fault : Fault} {steps : Nat} {visited : List DeviceId}
    {device : DeviceId} {distance : Nat}
    (failed : climb devices steps visited device distance = .error fault) : fault = .overflow := by
  induction steps generalizing visited device distance with
  | zero => cases failed
  | succ steps ih =>
      rw [climb] at failed
      split at failed
      · cases failed
      next link _ =>
        split at failed
        · cases failed
          rfl
        next total _ =>
          cases rest : climb devices steps (link.parent :: visited) link.parent total with
          | error other =>
              rw [rest] at failed
              cases failed
              exact ih rest
          | ok chain =>
              rw [rest] at failed
              cases failed

theorem ancestry_fault {devices : Devices} {device : DeviceId} {fault : Fault}
    (failed : ancestry devices device = .error fault) : fault = .overflow := by
  unfold ancestry at failed
  cases climbed : climb devices devices.size [device] device 0 with
  | error other =>
      rw [climbed] at failed
      cases failed
      exact climb_fault climbed
  | ok chain =>
      rw [climbed] at failed
      cases failed

theorem pathLatency_fault {devices : Devices} {start target : DeviceId} {fault : Fault}
    (failed : pathLatency devices start target = .error fault) : fault = .overflow := by
  unfold pathLatency at failed
  cases up : ancestry devices start with
  | error other =>
      rw [up] at failed
      cases failed
      exact ancestry_fault up
  | ok upward =>
      cases down : ancestry devices target with
      | error other =>
          rw [up, down] at failed
          cases failed
          exact ancestry_fault down
      | ok downward =>
          rw [up, down] at failed
          dsimp only [bind, Except.bind] at failed
          split at failed
          · cases failed
          · split at failed
            · cases failed
              rfl
            · cases failed

section Hosts

variable {devices : Devices} {start : DeviceId} {hosts : List DeviceId}
variable {found : List (Nat × DeviceId)}

theorem reachable_fault {fault : Fault} (failed : reachable devices start hosts = .error fault) :
    fault = .overflow := by
  unfold reachable at failed
  cases measured : hosts.mapM fun host => do
      return (← pathLatency devices start host).map fun latency => (latency, host) with
  | ok places =>
      rw [measured] at failed
      cases failed
  | error other =>
      rw [measured] at failed
      cases failed
      obtain ⟨host, _, own⟩ := mapM_error measured
      cases path : pathLatency devices start host with
      | error other =>
          rw [path] at own
          cases own
          exact pathLatency_fault path
      | ok latency? =>
          rw [path] at own
          cases own

theorem mem_reachable_iff (reaches : reachable devices start hosts = .ok found) {latency : Nat}
    {host : DeviceId} :
    (latency, host) ∈ found ↔
      host ∈ hosts ∧ pathLatency devices start host = .ok (some latency) := by
  unfold reachable at reaches
  cases measured : hosts.mapM fun host => do
      return (← pathLatency devices start host).map fun latency => (latency, host) with
  | error fault =>
      rw [measured] at reaches
      cases reaches
  | ok places =>
      rw [measured] at reaches
      cases reaches
      simp only [List.mem_filterMap, mem_mapM_iff measured]
      constructor
      · rintro ⟨place, ⟨other, listed, ended⟩, rfl⟩
        cases path : pathLatency devices start other with
        | error fault =>
            rw [path] at ended
            cases ended
        | ok latency? =>
            rw [path] at ended
            obtain ⟨own, rfl, same⟩ := Option.map_eq_some_iff.mp (Except.ok.inj ended)
            cases same
            exact ⟨listed, path⟩
      · rintro ⟨listed, path⟩
        exact ⟨_, ⟨host, listed, by rw [path]; rfl⟩, rfl⟩

theorem nearer_eq_false_iff {left right : Nat × DeviceId} :
    nearer left right = false ↔
      right.1 < left.1 ∨ (right.1 = left.1 ∧ right.2.number ≤ left.2.number) := by
  simp only [nearer, Bool.or_eq_false_iff, decide_eq_false_iff_not, Bool.and_eq_false_iff,
    beq_eq_false_iff_ne]
  omega

theorem nearest?_eq_none_iff {hosts : List (Nat × DeviceId)} : nearest? hosts = none ↔ hosts = [] := by
  cases hosts with
  | nil => simp [nearest?]
  | cons first rest =>
      rw [nearest?]
      split
      · simp
      · split <;> simp

theorem nearest?_least {hosts : List (Nat × DeviceId)} {best : Nat × DeviceId}
    (nearest : nearest? hosts = some best) {other : Nat × DeviceId} (member : other ∈ hosts) :
    best.1 < other.1 ∨ (best.1 = other.1 ∧ best.2.number ≤ other.2.number) := by
  induction hosts generalizing best with
  | nil => cases nearest
  | cons first rest ih =>
      simp only [nearest?] at nearest
      split at nearest
      next none =>
        cases nearest
        obtain rfl := nearest?_eq_none_iff.mp none
        rw [List.mem_singleton.mp member]
        exact .inr ⟨rfl, Nat.le_refl _⟩
      next candidate found =>
        split at nearest
        next closer =>
          cases nearest
          rcases List.mem_cons.mp member with rfl | later
          · rw [nearer, Bool.or_eq_true, decide_eq_true_eq, Bool.and_eq_true, beq_iff_eq,
              decide_eq_true_eq] at closer
            omega
          · exact ih found later
        next farther =>
          cases nearest
          rw [Bool.not_eq_true, nearer_eq_false_iff] at farther
          rcases List.mem_cons.mp member with rfl | later
          · exact .inr ⟨rfl, Nat.le_refl _⟩
          · have others := ih found later
            omega

end Hosts

/-- Where a relay sends the tuples for a module: to the nearest host within reach, and of several
that are equally near to the one with the smallest identifier. -/
structure Placement.Nearest (placement : Placement) (devices : Devices) (relay : DeviceId)
    (name : String) (route : Route) : Prop where
  host : route.device ∈ placement.devicesFor name
  reached : pathLatency devices relay route.device = .ok (some route.latency)
  least : ∀ other ∈ placement.devicesFor name, ∀ latency,
    pathLatency devices relay other = .ok (some latency) →
      route.latency < latency ∨
        (route.latency = latency ∧ route.device.number ≤ other.number)

theorem Placement.Nearest.unique {placement : Placement} {devices : Devices} {relay : DeviceId}
    {name : String} {route other : Route} (nearest : placement.Nearest devices relay name route)
    (too : placement.Nearest devices relay name other) : route = other := by
  obtain ⟨⟨number⟩, latency⟩ := route
  obtain ⟨⟨otherNumber⟩, otherLatency⟩ := other
  have left := nearest.least _ too.host _ too.reached
  have right := too.least _ nearest.host _ nearest.reached
  dsimp only at left right
  obtain ⟨rfl, rfl⟩ : number = otherNumber ∧ latency = otherLatency := by omega
  rfl

section Wiring

variable {devices : Devices} {placement : Placement} {links : List ActuatorLink}
variable {relay : DeviceId} {wire : Wire} {wires : List Wire} {fault : Fault}

theorem routeWires_fault {name : String}
    (failed : (routeWires devices placement relay name).outcome = .error fault) :
    fault = .overflow := by
  unfold routeWires at failed
  split at failed
  · cases failed
  · rcases Run.outcome_bind_eq_error_iff.mp failed with early | ⟨found, _, late⟩
    · rw [Run.outcome_liftExcept] at early
      exact reachable_fault early
    · split at late <;> cases late

theorem mem_routeWires_iff {name : String}
    (wired : (routeWires devices placement relay name).outcome = .ok wires) :
    wire ∈ wires ↔ name ∉ placement.modulesOn relay ∧
      ∃ route, placement.Nearest devices relay name route ∧
        wire = .route relay name route.device route.latency := by
  unfold routeWires at wired
  split at wired
  next placed =>
    cases wired
    have here : name ∈ placement.modulesOn relay := List.contains_iff_mem.mp placed
    simp [here]
  next elsewhere =>
    have away : name ∉ placement.modulesOn relay := fun placed =>
      elsewhere (List.contains_iff_mem.mpr placed)
    obtain ⟨found, reaches, wired⟩ := Run.outcome_bind_eq_ok_iff.mp wired
    rw [Run.outcome_liftExcept] at reaches
    split at wired
    next latency host nearest =>
      cases wired
      obtain ⟨listed, path⟩ := (mem_reachable_iff reaches).mp (nearest?_mem nearest)
      have own : placement.Nearest devices relay name ⟨host, latency⟩ :=
        ⟨listed, path, fun other hosts _ reached =>
          nearest?_least nearest ((mem_reachable_iff reaches).mpr ⟨hosts, reached⟩)⟩
      rw [List.mem_singleton]
      constructor
      · rintro rfl
        exact ⟨away, _, own, rfl⟩
      · rintro ⟨_, route, chosen, rfl⟩
        rw [chosen.unique own]
    next none =>
      obtain ⟨_, _, wired⟩ := Run.outcome_bind_eq_ok_iff.mp wired
      cases wired
      obtain rfl := nearest?_eq_none_iff.mp none
      constructor
      · exact nofun
      · rintro ⟨_, route, chosen, _⟩
        cases (mem_reachable_iff reaches).mpr ⟨chosen.host, chosen.reached⟩

theorem actuatorWires_fault {link : ActuatorLink}
    (failed : (actuatorWires devices relay link).outcome = .error fault) : fault = .overflow := by
  unfold actuatorWires at failed
  rcases Run.outcome_bind_eq_error_iff.mp failed with early | ⟨latency?, _, late⟩
  · rw [Run.outcome_liftExcept] at early
    exact pathLatency_fault early
  · split at late
    · cases late
    · rcases Run.outcome_bind_eq_error_iff.mp late with early | ⟨_, _, later⟩
      · exact (Run.outcome_orFault_eq_error_iff.mp early).2
      · cases later

theorem mem_actuatorWires_iff {link : ActuatorLink}
    (wired : (actuatorWires devices relay link).outcome = .ok wires) :
    wire ∈ wires ↔ ∃ way total, pathLatency devices relay link.gateway = .ok (some way) ∧
      sum? way link.latency = some total ∧ wire = .actuator relay link.actuator total := by
  obtain ⟨latency?, path, wired⟩ := Run.outcome_bind_eq_ok_iff.mp wired
  rw [Run.outcome_liftExcept] at path
  split at wired
  · cases wired
    simp [path]
  next way =>
    obtain ⟨total, fits, wired⟩ := Run.outcome_bind_eq_ok_iff.mp wired
    cases wired
    have fits := Run.outcome_orFault_eq_ok_iff.mp fits
    simp [path, fits]

theorem relayWires_fault (failed : (relayWires devices placement links relay).outcome = .error fault) :
    fault = .overflow := by
  rcases Run.outcome_bind_eq_error_iff.mp failed with early | ⟨_, _, late⟩
  · rw [Run.outcome_mapM] at early
    obtain ⟨_, _, own⟩ := mapM_error early
    exact routeWires_fault own
  · rcases Run.outcome_bind_eq_error_iff.mp late with early | ⟨_, _, later⟩
    · rw [Run.outcome_mapM] at early
      obtain ⟨_, _, own⟩ := mapM_error early
      exact actuatorWires_fault own
    · cases later

variable {relays : List DeviceId}

theorem wiring_fault (failed : (wiring devices placement links relays).outcome = .error fault) :
    fault = .overflow := by
  rcases Run.outcome_bind_eq_error_iff.mp failed with early | ⟨_, _, late⟩
  · rw [Run.outcome_mapM] at early
    obtain ⟨_, _, own⟩ := mapM_error early
    exact relayWires_fault own
  · cases late

theorem exists_relayWires_iff :
    (∃ wires, (relayWires devices placement links relay).outcome = .ok wires) ↔
      (∀ name ∈ placement.distinctNames, ∃ wires,
        (routeWires devices placement relay name).outcome = .ok wires) ∧
      ∀ link ∈ links, ∃ wires, (actuatorWires devices relay link).outcome = .ok wires := by
  rw [← exists_mapM_ok_iff, ← exists_mapM_ok_iff]
  constructor
  · rintro ⟨wires, wired⟩
    obtain ⟨routes, routed, wired⟩ := Run.outcome_bind_eq_ok_iff.mp wired
    obtain ⟨ways, reached, _⟩ := Run.outcome_bind_eq_ok_iff.mp wired
    rw [Run.outcome_mapM] at routed reached
    exact ⟨⟨routes, routed⟩, ways, reached⟩
  · rintro ⟨⟨routes, routed⟩, ways, reached⟩
    refine ⟨_, Run.outcome_bind_eq_ok_iff.mpr ⟨routes, ?_, Run.outcome_bind_eq_ok_iff.mpr
      ⟨ways, ?_, rfl⟩⟩⟩
    · rw [Run.outcome_mapM, routed]
    · rw [Run.outcome_mapM, reached]

theorem exists_wiring_iff :
    (∃ wires, (wiring devices placement links relays).outcome = .ok wires) ↔
      ∀ relay ∈ relays,
        (∀ name ∈ placement.distinctNames, ∃ wires,
          (routeWires devices placement relay name).outcome = .ok wires) ∧
        ∀ link ∈ links, ∃ wires, (actuatorWires devices relay link).outcome = .ok wires := by
  simp only [← exists_relayWires_iff]
  rw [← exists_mapM_ok_iff]
  constructor
  · rintro ⟨wires, wired⟩
    obtain ⟨parts, wired, _⟩ := Run.outcome_bind_eq_ok_iff.mp wired
    rw [Run.outcome_mapM] at wired
    exact ⟨parts, wired⟩
  · rintro ⟨parts, wired⟩
    refine ⟨_, Run.outcome_bind_eq_ok_iff.mpr ⟨parts, ?_, rfl⟩⟩
    rw [Run.outcome_mapM, wired]

/-- The wires that a network asks for: the nearest host for every module that is placed elsewhere,
and the way to every actuator whose gateway can be reached. -/
def Wire.Wanted (devices : Devices) (placement : Placement) (links : List ActuatorLink)
    (relays : List DeviceId) : Wire → Prop
  | .route relay name device latency =>
      relay ∈ relays ∧ name ∉ placement.modulesOn relay ∧
        placement.Nearest devices relay name ⟨device, latency⟩
  | .actuator relay target latency =>
      relay ∈ relays ∧ ∃ link ∈ links, link.actuator = target ∧
        ∃ way, pathLatency devices relay link.gateway = .ok (some way) ∧
          sum? way link.latency = some latency

theorem mem_relayWires_iff
    (wired : (relayWires devices placement links relay).outcome = .ok wires) :
    wire ∈ wires ↔
      (∃ name ∈ placement.distinctNames, ∃ routes,
        (routeWires devices placement relay name).outcome = .ok routes ∧ wire ∈ routes) ∨
      ∃ link ∈ links, ∃ ways,
        (actuatorWires devices relay link).outcome = .ok ways ∧ wire ∈ ways := by
  obtain ⟨routes, wiredRoutes, wired⟩ := Run.outcome_bind_eq_ok_iff.mp wired
  obtain ⟨ways, wiredWays, wired⟩ := Run.outcome_bind_eq_ok_iff.mp wired
  cases wired
  rw [Run.outcome_mapM] at wiredRoutes wiredWays
  rw [List.mem_append, List.mem_flatten, List.mem_flatten]
  refine or_congr ?_ ?_
  · simp only [mem_mapM_iff wiredRoutes]
    constructor
    · rintro ⟨some, ⟨name, listed, own⟩, member⟩
      exact ⟨name, listed, some, own, member⟩
    · rintro ⟨name, listed, some, own, member⟩
      exact ⟨some, ⟨name, listed, own⟩, member⟩
  · simp only [mem_mapM_iff wiredWays]
    constructor
    · rintro ⟨some, ⟨link, listed, own⟩, member⟩
      exact ⟨link, listed, some, own, member⟩
    · rintro ⟨link, listed, some, own, member⟩
      exact ⟨some, ⟨link, listed, own⟩, member⟩

theorem Placement.mem_distinctNames_iff {name : String} :
    name ∈ placement.distinctNames ↔ name ∈ placement.placedNames := by
  rw [distinctNames, SortedMap.mem_keys_iff, SortedMap.get?_ofList_map _ fun _ => ()]
  split <;> simp [*]

theorem Placement.mem_placedNames {name : String} {host : DeviceId}
    (hosts : host ∈ placement.devicesFor name) : name ∈ placement.placedNames := by
  obtain ⟨entry, kept, _⟩ := List.mem_map.mp hosts
  obtain ⟨listed, contains⟩ := List.mem_filter.mp kept
  exact List.mem_flatten.mpr
    ⟨entry.2, List.mem_map_of_mem listed, List.contains_iff_mem.mp contains⟩

theorem mem_wiring_iff (wired : (wiring devices placement links relays).outcome = .ok wires) :
    wire ∈ wires ↔ wire.Wanted devices placement links relays := by
  have total := exists_wiring_iff.mp ⟨wires, wired⟩
  obtain ⟨parts, wiredParts, wired⟩ := Run.outcome_bind_eq_ok_iff.mp wired
  cases wired
  rw [Run.outcome_mapM] at wiredParts
  rw [List.mem_flatten]
  constructor
  · rintro ⟨part, listed, member⟩
    obtain ⟨relay, known, own⟩ := (mem_mapM_iff wiredParts).mp listed
    rcases (mem_relayWires_iff own).mp member with
      ⟨name, _, routes, routed, member⟩ | ⟨link, listed, ways, reached, member⟩
    · obtain ⟨away, route, nearest, rfl⟩ := (mem_routeWires_iff routed).mp member
      exact ⟨known, away, nearest⟩
    · obtain ⟨way, total, path, fits, rfl⟩ := (mem_actuatorWires_iff reached).mp member
      exact ⟨known, link, listed, rfl, way, path, fits⟩
  · intro wanted
    have wiredRelay (relay : DeviceId) (known : relay ∈ relays) :
        ∃ part ∈ parts, (relayWires devices placement links relay).outcome = .ok part := by
      obtain ⟨part, own⟩ := exists_relayWires_iff.mpr (total relay known)
      exact ⟨part, (mem_mapM_iff wiredParts).mpr ⟨relay, known, own⟩, own⟩
    cases wire with
    | route relay name device latency =>
        obtain ⟨known, away, nearest⟩ := wanted
        obtain ⟨part, listed, own⟩ := wiredRelay relay known
        have placed : name ∈ placement.distinctNames :=
          Placement.mem_distinctNames_iff.mpr (Placement.mem_placedNames nearest.host)
        obtain ⟨routes, routed⟩ := (total relay known).1 name placed
        exact ⟨part, listed, (mem_relayWires_iff own).mpr (.inl ⟨name, placed, routes, routed,
          (mem_routeWires_iff routed).mpr ⟨away, _, nearest, rfl⟩⟩)⟩
    | actuator relay actuator latency =>
        obtain ⟨known, link, member, rfl, way, path, fits⟩ := wanted
        obtain ⟨part, listed, own⟩ := wiredRelay relay known
        obtain ⟨ways, reached⟩ := (total relay known).2 link member
        exact ⟨part, listed, (mem_relayWires_iff own).mpr (.inr ⟨link, member, ways, reached,
          (mem_actuatorWires_iff reached).mpr ⟨way, latency, path, fits, rfl⟩⟩)⟩

end Wiring

/-! What is in the tables of a relay once its wires are applied. -/

def Wire.applyTo (id : DeviceId) (relay : Relay) : Wire → Relay
  | .route own name device latency => if id = own then relay.addRoute name device latency else relay
  | .actuator own target latency => if id = own then relay.attachActuator target latency else relay

def Relay.wired (id : DeviceId) (wires : List Wire) (relay : Relay) : Relay :=
  wires.foldl (Wire.applyTo id) relay

section Tables

variable {wires : List Wire} {id : DeviceId} {relay : Relay}

theorem Device.changeRelay_id : Device.changeRelay (fun relay => relay) = fun device => device := by
  funext device
  cases device <;> rfl

theorem Device.changeRelay_changeRelay (first second : Relay → Relay) (device : Device) :
    (device.changeRelay first).changeRelay second =
      device.changeRelay fun relay => second (first relay) := by
  cases device <;> rfl

theorem Orchestrator.get?_applyWire (wire : Wire) (orchestrator : Orchestrator) (id : DeviceId) :
    (orchestrator.applyWire wire).devices.get? id =
      (orchestrator.devices.get? id).map (Device.changeRelay fun relay => wire.applyTo id relay) := by
  cases wire with
  | route own name device latency =>
      rw [applyWire, changeRelay, SortedMap.get?_modify]
      by_cases same : id = own
      · simp [Wire.applyTo, same]
      · simp [Wire.applyTo, same, Device.changeRelay_id]
  | actuator own actuator latency =>
      rw [applyWire, changeRelay, SortedMap.get?_modify]
      by_cases same : id = own
      · simp [Wire.applyTo, same]
      · simp [Wire.applyTo, same, Device.changeRelay_id]

theorem Orchestrator.get?_applyWires (wires : List Wire) (orchestrator : Orchestrator)
    (id : DeviceId) :
    (wires.foldl applyWire orchestrator).devices.get? id =
      (orchestrator.devices.get? id).map (Device.changeRelay (Relay.wired id wires)) := by
  induction wires generalizing orchestrator with
  | nil =>
      have same : Device.changeRelay (Relay.wired id []) = fun device => device :=
        Device.changeRelay_id
      rw [List.foldl_nil, same, Option.map_id']
  | cons wire rest ih =>
      rw [List.foldl_cons, ih, get?_applyWire, Option.map_map]
      congr 1
      funext device
      exact Device.changeRelay_changeRelay _ _ device

theorem Relay.wired_eq (wires : List Wire) (id : DeviceId) (relay : Relay) :
    relay.wired id wires = { relay with
      routes := (relay.wired id wires).routes
      actuators := (relay.wired id wires).actuators } := by
  induction wires generalizing relay with
  | nil => rfl
  | cons wire rest ih =>
      change (wire.applyTo id relay).wired id rest = _
      refine (ih _).trans ?_
      cases wire with
      | route own => by_cases same : id = own <;> simp [Wire.applyTo, same, addRoute, wired]
      | actuator own => by_cases same : id = own <;> simp [Wire.applyTo, same, attachActuator, wired]

theorem Relay.routes_wired (wires : List Wire) (id : DeviceId) (relay : Relay) (name : String) :
    (∃ route, Wire.route id name route.device route.latency ∈ wires ∧
      (relay.wired id wires).routes.get? name = some route) ∨
    ((∀ device latency, Wire.route id name device latency ∉ wires) ∧
      (relay.wired id wires).routes.get? name = relay.routes.get? name) := by
  induction wires generalizing relay with
  | nil => exact .inr ⟨by simp, rfl⟩
  | cons wire rest ih =>
      rcases ih (wire.applyTo id relay) with ⟨route, member, found⟩ | ⟨none, kept⟩
      · exact .inl ⟨route, by simp [member], found⟩
      · cases wire with
        | route own other device latency =>
            by_cases chosen : id = own ∧ name = other
            · obtain ⟨rfl, rfl⟩ := chosen
              refine .inl ⟨⟨device, latency⟩, by simp, kept.trans ?_⟩
              simp [Wire.applyTo, addRoute]
            · refine .inr ⟨?_, kept.trans ?_⟩
              · intro target far member
                rcases List.mem_cons.mp member with same | later
                · cases same
                  exact chosen ⟨rfl, rfl⟩
                · exact none _ _ later
              · by_cases same : id = own
                · have differs : name ≠ other := fun equal => chosen ⟨same, equal⟩
                  simp [Wire.applyTo, same, addRoute, SortedMap.get?_insert_of_ne _ _ differs]
                · simp [Wire.applyTo, same]
        | actuator own =>
            refine .inr ⟨by simpa using none, kept.trans ?_⟩
            by_cases same : id = own <;> simp [Wire.applyTo, same, attachActuator]

theorem Relay.actuators_wired (wires : List Wire) (id : DeviceId) (relay : Relay)
    (actuator : ActuatorId) :
    (∃ latency, Wire.actuator id actuator latency ∈ wires ∧
      (relay.wired id wires).actuators.get? actuator = some latency) ∨
    ((∀ latency, Wire.actuator id actuator latency ∉ wires) ∧
      (relay.wired id wires).actuators.get? actuator = relay.actuators.get? actuator) := by
  induction wires generalizing relay with
  | nil => exact .inr ⟨by simp, rfl⟩
  | cons wire rest ih =>
      rcases ih (wire.applyTo id relay) with ⟨latency, member, found⟩ | ⟨none, kept⟩
      · exact .inl ⟨latency, by simp [member], found⟩
      · cases wire with
        | actuator own other latency =>
            by_cases chosen : id = own ∧ actuator = other
            · obtain ⟨rfl, rfl⟩ := chosen
              refine .inl ⟨latency, by simp, kept.trans ?_⟩
              simp [Wire.applyTo, attachActuator]
            · refine .inr ⟨?_, kept.trans ?_⟩
              · intro far member
                rcases List.mem_cons.mp member with same | later
                · cases same
                  exact chosen ⟨rfl, rfl⟩
                · exact none _ later
              · by_cases same : id = own
                · have differs : actuator ≠ other := fun equal => chosen ⟨same, equal⟩
                  simp [Wire.applyTo, same, attachActuator, SortedMap.get?_insert_of_ne _ _ differs]
                · simp [Wire.applyTo, same]
        | route own =>
            refine .inr ⟨by simpa using none, kept.trans ?_⟩
            by_cases same : id = own <;> simp [Wire.applyTo, same, addRoute]

end Tables

end FogNetwork
