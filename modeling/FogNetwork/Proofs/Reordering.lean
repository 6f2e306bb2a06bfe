import FogNetwork.Proofs.Endings
import FogNetwork.Proofs.Exporting
import FogNetwork.Proofs.Routing

/-! The order in which a blueprint lists its parts does not matter: whatever order they come in, they
are built into one and the same scenario. -/

namespace FogNetwork

namespace SortedMap

variable {κ α : Type} [Ord κ] [Std.TransOrd κ] [Std.LawfulEqOrd κ] [DecidableEq κ]

theorem insert_comm (map : SortedMap κ α) {first second : κ} (differs : first ≠ second)
    (value other : α) :
    (map.insert first value).insert second other = (map.insert second other).insert first value := by
  ext key
  simp only [get?_insert]
  by_cases here : key = second
  · simp [here, differs.symm]
  · simp [here]

theorem enter_perm {name : α → κ} {left right : List α} (perm : left.Perm right)
    (distinct : (left.map name).Nodup) (map : SortedMap κ α) :
    left.foldl (fun map item => map.insert (name item) item) map =
      right.foldl (fun map item => map.insert (name item) item) map := by
  refine perm.foldl_eq' ?_ map
  intro first firstMember second secondMember map
  by_cases same : name first = name second
  · rw [List.inj_on_of_nodup_map distinct firstMember secondMember same]
  · exact map.insert_comm same first second

end SortedMap

theorem enterDevices_of_nodup {devices : List Device} {before : Devices}
    (distinct : (devices.map Device.id).Nodup)
    (fresh : ∀ device ∈ devices, before.contains device.id = false) :
    enterDevices devices before =
      (.ok (), devices.foldl (fun map device => map.insert device.id device) before) := by
  induction devices generalizing before with
  | nil => rfl
  | cons device rest ih =>
      rw [List.map_cons, List.nodup_cons] at distinct
      rw [enterDevices, if_neg (by simp [fresh device])]
      refine ih distinct.2 ?_
      intro other member
      have differs : other.id ≠ device.id := fun same =>
        distinct.1 (List.mem_map.mpr ⟨other, member, same⟩)
      rw [SortedMap.contains, SortedMap.get?_insert_of_ne _ _ differs]
      exact fresh other (by simp [member])

section Wires

variable {devices : Devices} {placement : Placement} {links others : List ActuatorLink}
variable {relays : List DeviceId} {relay : DeviceId}

theorem Wire.Wanted.actuator_unique {target : ActuatorId} {latency other : Nat}
    (distinct : (links.map (·.actuator)).Nodup)
    (wanted : (Wire.actuator relay target latency).Wanted devices placement links relays)
    (too : (Wire.actuator relay target other).Wanted devices placement links relays) :
    latency = other := by
  obtain ⟨_, link, listed, named, way, path, fits⟩ := wanted
  obtain ⟨_, link', listed', named', way', path', fits'⟩ := too
  obtain rfl := List.inj_on_of_nodup_map distinct listed listed' (named.trans named'.symm)
  rw [path] at path'
  cases path'
  exact Option.some.inj (fits.symm.trans fits')

theorem Wire.Wanted.perm {wire : Wire} {more : List DeviceId} (linked : links.Perm others)
    (known : relays.Perm more) :
    wire.Wanted devices placement links relays ↔ wire.Wanted devices placement others more := by
  cases wire with
  | route => simp only [Wanted, known.mem_iff]
  | actuator => simp only [Wanted, known.mem_iff, linked.mem_iff]

variable {left right : List Wire}

theorem Relay.wired_congr (same : ∀ wire, wire ∈ left ↔ wire ∈ right)
    (wanted : ∀ wire ∈ left, wire.Wanted devices placement links relays)
    (distinct : (links.map (·.actuator)).Nodup) (id : DeviceId) (relay : Relay) :
    relay.wired id left = relay.wired id right := by
  have routes : (relay.wired id left).routes = (relay.wired id right).routes := by
    ext1 name
    rcases routes_wired left id relay name with ⟨route, member, found⟩ | ⟨none, kept⟩
    · rcases routes_wired right id relay name with ⟨other, memberToo, foundToo⟩ | ⟨noneToo, _⟩
      · obtain ⟨_, _, nearest⟩ := wanted _ member
        obtain ⟨_, _, nearestToo⟩ := wanted _ ((same _).mpr memberToo)
        obtain rfl : route = other := nearest.unique nearestToo
        rw [found, foundToo]
      · exact absurd ((same _).mp member) (noneToo _ _)
    · rcases routes_wired right id relay name with ⟨other, memberToo, _⟩ | ⟨_, keptToo⟩
      · exact absurd ((same _).mpr memberToo) (none _ _)
      · rw [kept, keptToo]
  have actuators : (relay.wired id left).actuators = (relay.wired id right).actuators := by
    ext1 target
    rcases actuators_wired left id relay target with ⟨latency, member, found⟩ | ⟨none, kept⟩
    · rcases actuators_wired right id relay target with ⟨other, memberToo, foundToo⟩ | ⟨noneToo, _⟩
      · rw [found, foundToo,
          (wanted _ member).actuator_unique distinct (wanted _ ((same _).mpr memberToo))]
      · exact absurd ((same _).mp member) (noneToo _)
    · rcases actuators_wired right id relay target with ⟨other, memberToo, _⟩ | ⟨_, keptToo⟩
      · exact absurd ((same _).mpr memberToo) (none _)
      · rw [kept, keptToo]
  rw [wired_eq left, wired_eq right, routes, actuators]

theorem Orchestrator.applyWires_congr (orchestrator : Orchestrator)
    (same : ∀ id relay, Relay.wired id left relay = Relay.wired id right relay) :
    left.foldl applyWire orchestrator = right.foldl applyWire orchestrator := by
  obtain ⟨devices, leftFrame⟩ := applyWires_frame left orchestrator
  obtain ⟨devices', rightFrame⟩ := applyWires_frame right orchestrator
  have level : devices = devices' := by
    ext1 id
    have leftFound := get?_applyWires left orchestrator id
    have rightFound := get?_applyWires right orchestrator id
    rw [leftFrame] at leftFound
    rw [rightFrame] at rightFound
    rw [leftFound, rightFound, funext (same id)]
  rw [leftFrame, rightFrame, level]

theorem wiring_cases (devices : Devices) (placement : Placement) {more : List DeviceId}
    (linked : links.Perm others) (known : relays.Perm more) (distinct : (links.map (·.actuator)).Nodup) :
    ((wiring devices placement links relays).outcome = .error .overflow ∧
      (wiring devices placement others more).outcome = .error .overflow) ∨
    ∃ left right, (wiring devices placement links relays).outcome = .ok left ∧
      (wiring devices placement others more).outcome = .ok right ∧
      ∀ orchestrator : Orchestrator, left.foldl Orchestrator.applyWire orchestrator =
        right.foldl Orchestrator.applyWire orchestrator := by
  have alike : (∃ wires, (wiring devices placement links relays).outcome = .ok wires) ↔
      ∃ wires, (wiring devices placement others more).outcome = .ok wires := by
    simp only [exists_wiring_iff, known.mem_iff, linked.mem_iff]
  cases first : (wiring devices placement links relays).outcome with
  | error fault =>
      cases second : (wiring devices placement others more).outcome with
      | error other =>
          rw [wiring_fault first, wiring_fault second]
          exact .inl ⟨rfl, rfl⟩
      | ok right =>
          obtain ⟨left, wired⟩ := alike.mpr ⟨right, second⟩
          rw [first] at wired
          cases wired
  | ok left =>
      obtain ⟨right, second⟩ := alike.mp ⟨left, first⟩
      refine .inr ⟨left, right, rfl, second, fun orchestrator => ?_⟩
      have same (wire : Wire) : wire ∈ left ↔ wire ∈ right := by
        rw [mem_wiring_iff first, mem_wiring_iff second]
        exact Wire.Wanted.perm linked known
      exact orchestrator.applyWires_congr
        (Relay.wired_congr same (fun wire member => (mem_wiring_iff first).mp member) distinct)

end Wires

namespace Blueprint

/-- The same network with its parts in another order. Its figures may go elsewhere. -/
structure Reordered (left right : Blueprint) : Prop where
  config : left.config = right.config
  devices : left.devices.Perm right.devices
  relays : left.relays.Perm right.relays
  sensors : left.sensors.Perm right.sensors
  actuators : left.actuators.Perm right.actuators
  mapped : left.mapped = right.mapped

structure Distinct (blueprint : Blueprint) : Prop where
  devices : (blueprint.devices.map Device.id ++ blueprint.relays.map Relay.id).Nodup
  sensors : (blueprint.sensors.map Sensor.id).Nodup
  actuators : (blueprint.actuators.map Actuator.id).Nodup

def parts (blueprint : Blueprint) : List Device :=
  blueprint.devices ++ blueprint.relays.map Device.relay

variable {left right : Blueprint}

theorem Distinct.parts (distinct : left.Distinct) : (left.parts.map Device.id).Nodup := by
  have same : left.parts.map Device.id = left.devices.map Device.id ++ left.relays.map Relay.id := by
    rw [Blueprint.parts, List.map_append, List.map_map]
    rfl
  rw [same]
  exact distinct.devices

theorem Reordered.parts (reordered : left.Reordered right) : left.parts.Perm right.parts :=
  reordered.devices.append (reordered.relays.map _)

theorem Reordered.links (reordered : left.Reordered right) :
    left.actuatorLinks.Perm right.actuatorLinks :=
  reordered.actuators.map _

theorem Distinct.links (distinct : left.Distinct) :
    (left.actuatorLinks.map (·.actuator)).Nodup := by
  rw [actuatorLinks, List.map_map]
  exact distinct.actuators

theorem Reordered.register_eq (reordered : left.Reordered right) (distinct : left.Distinct)
    (exporter : left.exporter = right.exporter) :
    left.fresh.register left.parts left.sensors left.actuators =
      right.fresh.register right.parts right.sensors right.actuators := by
  have same : left.fresh = right.fresh := by
    rw [fresh, fresh, reordered.config, exporter]
  have free (parts : List Device) : ∀ device ∈ parts, right.fresh.devices.contains device.id = false :=
    fun _ _ => rfl
  have distinctToo : (right.parts.map Device.id).Nodup :=
    (reordered.parts.map _).nodup_iff.mp distinct.parts
  unfold Orchestrator.register
  rw [same, enterDevices_of_nodup distinct.parts (free _), enterDevices_of_nodup distinctToo (free _),
    SortedMap.enter_perm reordered.parts distinct.parts,
    SortedMap.enter_perm reordered.sensors distinct.sensors,
    SortedMap.enter_perm reordered.actuators distinct.actuators]

theorem Reordered.install_outcome (reordered : left.Reordered right) (distinct : left.Distinct)
    (mapped : MappedApplication) (orchestrator : Orchestrator) :
    (left.install mapped orchestrator).outcome = (right.install mapped orchestrator).outcome := by
  unfold install
  split
  · rfl
  next placement _ =>
    rw [Run.outcome_bind, Run.outcome_bind]
    rcases wiring_cases orchestrator.devices placement reordered.links
        (reordered.relays.map (·.id)) distinct.links with
      ⟨first, second⟩ | ⟨wires, others, first, second, same⟩
    · rw [first, second]
    · rw [first, second]
      dsimp only
      rw [Run.outcome_bind, Run.outcome_bind]
      cases (liftM (orchestrator.submit mapped.application placement mapped.delay) :
          Run (Except Rejection Unit × Orchestrator)).outcome with
      | error fault => rfl
      | ok reached =>
          obtain ⟨result, submitted⟩ := reached
          cases result with
          | error rejection => rfl
          | ok => exact congrArg (fun wired => Except.ok (Except.ok wired)) (same submitted)

theorem Reordered.build_outcome (reordered : left.Reordered right) (distinct : left.Distinct)
    (exporter : left.exporter = right.exporter) :
    left.build.outcome = right.build.outcome := by
  have registers :
      (Orchestrator.initial right.config left.exporter).register
          (left.devices ++ left.relays.map Device.relay) left.sensors left.actuators =
        (Orchestrator.initial right.config right.exporter).register
          (right.devices ++ right.relays.map Device.relay) right.sensors right.actuators := by
    rw [← reordered.config]
    refine (reordered.register_eq distinct exporter).trans ?_
    rw [reordered.config]
    rfl
  unfold build
  rw [reordered.config]
  split
  · rfl
  · dsimp only
    rw [registers, reordered.mapped, Run.outcome_bind, Run.outcome_bind, Run.outcome_lift]
    generalize ((Orchestrator.initial right.config right.exporter).register
      (right.devices ++ right.relays.map Device.relay) right.sensors right.actuators).value = reached
    obtain ⟨result, registered⟩ := reached
    cases result with
    | error rejection => rfl
    | ok =>
        dsimp only
        cases right.mapped with
        | none => rfl
        | some mapped =>
            dsimp only
            rw [Run.outcome_bind, Run.outcome_bind, reordered.install_outcome distinct]

theorem Reordered.muted (reordered : left.Reordered right) : left.muted.Reordered right.muted :=
  { reordered with }

theorem Distinct.muted (distinct : left.Distinct) : left.muted.Distinct :=
  { distinct with }

/-- Blueprints that list the same parts in different orders are turned down alike or built alike,
and what they are built into takes the same turns to the same figures. -/
theorem order_aside (reordered : left.Reordered right) (distinct : left.Distinct) :
    left.build.outcome.map (·.map Scenario.muted) =
        right.build.outcome.map (·.map Scenario.muted) ∧
      ∀ built other, left.build.outcome = .ok (.ok built) → right.build.outcome = .ok (.ok other) →
        built.Replays other ∧ other.Replays built ∧
        built.run.outcome.map (fun reached => (reached.1, reached.2.muted)) =
          other.run.outcome.map fun reached => (reached.1, reached.2.muted) := by
  have same : left.build.outcome.map (·.map Scenario.muted) =
      right.build.outcome.map (·.map Scenario.muted) := by
    rw [← left.build_muted, ← right.build_muted]
    exact reordered.muted.build_outcome distinct.muted rfl
  refine ⟨same, ?_⟩
  intro built other builds buildsToo
  rw [builds, buildsToo] at same
  have level : built.muted = other.muted := Except.ok.inj (Except.ok.inj same)
  exact ⟨Scenario.replays_of_muted level, Scenario.replays_of_muted level.symm,
    Scenario.run_of_muted level⟩

def backwards (blueprint : Blueprint) : Blueprint :=
  { blueprint with
    exporter := .filing true
    devices := blueprint.devices.reverse
    relays := blueprint.relays.reverse
    sensors := blueprint.sensors.reverse
    actuators := blueprint.actuators.reverse }

theorem reordered_backwards (blueprint : Blueprint) : blueprint.Reordered blueprint.backwards where
  config := rfl
  devices := (List.reverse_perm _).symm
  relays := (List.reverse_perm _).symm
  sensors := (List.reverse_perm _).symm
  actuators := (List.reverse_perm _).symm
  mapped := rfl

end Blueprint

namespace Demo

def hallApplication : Application :=
  { Application.named "hall" with
    modules := [⟨"watch", 10, []⟩, ⟨"light", 10, []⟩]
    edges := [{ Edge.between "STEP" "watch" "STEP" .sensor with cpuLength := 10, dataSize := 5 },
      { Edge.between "watch" "light" "SEEN" .module with dataSize := 1 },
      { Edge.between "light" "LAMP" "ON" .actuator with dataSize := 1 }] }

def hall : Blueprint :=
  { Blueprint.empty with
    config := ⟨50, 60⟩
    devices := [.recorder (.named ⟨3⟩ "log")]
    relays := [.named ⟨0⟩ "desk", (Relay.named ⟨1⟩ "north").withParent ⟨0⟩ 4,
      (Relay.named ⟨2⟩ "south").withParent ⟨0⟩ 4]
    sensors := [((Sensor.named ⟨0⟩ "mat" "STEP" "hall").attachedTo ⟨0⟩ 1).every 20,
      ((Sensor.named ⟨1⟩ "rug" "STEP" "hall").attachedTo ⟨0⟩ 2).every 30]
    actuators := [(Actuator.named ⟨0⟩ "left" "lamp").attachedTo ⟨1⟩ 1,
      (Actuator.named ⟨1⟩ "right" "Lamp").attachedTo ⟨2⟩ 1]
    mapped := some ⟨hallApplication,
      ((Mapping.empty.add "desk" "watch").add "north" "light").add "south" "light", 0⟩ }

theorem hall_distinct : hall.Distinct := ⟨by decide, by decide, by decide⟩

theorem hall_finishes : ∃ built figures ended, hall.build.outcome = .ok (.ok built) ∧
    built.run.outcome = .ok (.ok figures, ended) ∧
      figures.processedPerModule.get? "light" = some 2 := by
  have finishes : (hall.after? []).any (fun built => built.finish?.any fun finished =>
      decide (finished.1.processedPerModule.get? "light" = some 2)) = true := by
    decide +kernel
  obtain ⟨scenario, left, finishes⟩ := (Option.any_eq_true _ _).mp finishes
  obtain ⟨built, builds, same⟩ := Blueprint.after?_eq_some left
  cases same
  obtain ⟨figures, ended, ran, passed⟩ := Scenario.finishes_of_any finishes
  exact ⟨_, figures, ended, builds, ran, of_decide_eq_true passed⟩

end Demo

theorem Blueprint.order_aside_hall : ∃ built other figures ended endedToo,
    Demo.hall.build.outcome = .ok (.ok built) ∧
      Demo.hall.backwards.build.outcome = .ok (.ok other) ∧
      built.run.outcome = .ok (.ok figures, ended) ∧
      other.run.outcome = .ok (.ok figures, endedToo) ∧
      figures.processedPerModule.get? "light" = some 2 ∧
      built.Replays other ∧ other.Replays built := by
  obtain ⟨built, figures, ended, builds, ran, processed⟩ := Demo.hall_finishes
  obtain ⟨same, alike⟩ := order_aside Demo.hall.reordered_backwards Demo.hall_distinct
  rw [builds] at same
  cases buildsToo : Demo.hall.backwards.build.outcome with
  | error fault =>
      rw [buildsToo] at same
      cases same
  | ok result =>
      cases result with
      | error rejection =>
          rw [buildsToo] at same
          cases same
      | ok other =>
          obtain ⟨replays, replaysToo, runs⟩ := alike built other builds buildsToo
          rw [ran] at runs
          cases ranToo : other.run.outcome with
          | error fault =>
              rw [ranToo] at runs
              cases runs
          | ok reached =>
              obtain ⟨result, endedToo⟩ := reached
              rw [ranToo] at runs
              have level := Except.ok.inj runs
              simp only [Prod.mk.injEq] at level
              obtain ⟨rfl, _⟩ := level
              exact ⟨built, other, figures, ended, endedToo, builds, rfl, ran, ranToo, processed,
                replays, replaysToo⟩

end FogNetwork
