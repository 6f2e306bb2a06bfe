import FogNetwork.Proofs.Acts
import FogNetwork.Proofs.Building

/-! Where the wires lead that a scenario is built with. A tuple that follows one reaches a device
where its module is placed, and no wire leads on from there. -/

namespace FogNetwork

theorem mem_of_mapM {α ε ι : Type} {body : ι → Except ε α} {items : List ι} {results : List α}
    (passed : items.mapM body = .ok results) {result : α} (member : result ∈ results) :
    ∃ item ∈ items, body item = .ok result := by
  induction items generalizing results with
  | nil =>
      cases passed
      cases member
  | cons item rest ih =>
      rw [List.mapM_cons] at passed
      cases first : body item with
      | error fault =>
          rw [first] at passed
          cases passed
      | ok value =>
          cases others : rest.mapM body with
          | error fault =>
              rw [first, others] at passed
              cases passed
          | ok values =>
              rw [first, others] at passed
              cases passed
              rcases List.mem_cons.mp member with rfl | later
              · exact ⟨item, by simp, first⟩
              · obtain ⟨other, listed, same⟩ := ih others later
                exact ⟨other, by simp [listed], same⟩

namespace Run

variable {α ι : Type}

theorem outcome_mapM (body : ι → Run α) (items : List ι) :
    (items.mapM body).outcome = items.mapM fun item => (body item).outcome := by
  induction items with
  | nil => rfl
  | cons item rest ih =>
      rw [List.mapM_cons, List.mapM_cons, outcome_bind]
      cases (body item).outcome with
      | error fault => rfl
      | ok value =>
          change (rest.mapM body >>= fun values => pure (value :: values)).outcome = _
          rw [outcome_bind, ih]
          cases rest.mapM fun item => (body item).outcome <;> rfl

theorem outcome_liftExcept (result : Except Fault α) :
    (liftExcept result : Run α).outcome = result := by
  cases result <;> rfl

end Run

theorem nearest?_mem {hosts : List (Nat × DeviceId)} {host : Nat × DeviceId}
    (nearest : nearest? hosts = some host) : host ∈ hosts := by
  induction hosts generalizing host with
  | nil => cases nearest
  | cons first rest ih =>
      simp only [nearest?] at nearest
      split at nearest
      · cases nearest
        exact List.mem_cons_self ..
      next other found =>
        split at nearest
        · cases nearest
          exact List.mem_cons_of_mem _ (ih found)
        · cases nearest
          exact List.mem_cons_self ..

theorem mem_of_reachable {devices : Devices} {start : DeviceId} {hosts : List DeviceId}
    {found : List (Nat × DeviceId)} (reaches : reachable devices start hosts = .ok found)
    {place : Nat × DeviceId} (member : place ∈ found) : place.2 ∈ hosts := by
  unfold reachable at reaches
  cases measured : hosts.mapM fun host => do
      return (← pathLatency devices start host).map fun latency => (latency, host) with
  | error fault =>
      rw [measured] at reaches
      cases reaches
  | ok places =>
      rw [measured] at reaches
      cases reaches
      obtain ⟨_, listed, rfl⟩ := List.mem_filterMap.mp member
      obtain ⟨host, known, ended⟩ := mem_of_mapM measured listed
      cases path : pathLatency devices start host with
      | error fault =>
          rw [path] at ended
          cases ended
      | ok latency? =>
          rw [path] at ended
          obtain ⟨latency, _, rfl⟩ := Option.map_eq_some_iff.mp (Except.ok.inj ended)
          exact known

theorem Placement.mem_modulesOn {placement : Placement} {device : DeviceId} {name : String}
    (hosts : device ∈ placement.devicesFor name) : name ∈ placement.modulesOn device := by
  obtain ⟨entry, kept, rfl⟩ := List.mem_map.mp hosts
  obtain ⟨listed, contains⟩ := List.mem_filter.mp kept
  have found : placement.assignments.get? entry.1 = some entry.2 :=
    SortedMap.get?_eq_some_iff.mpr listed
  rw [modulesOn, SortedMap.getD, found]
  exact List.contains_iff_mem.mp contains

/-- A wire for the tuples of a module leads to a device where the module is placed, from one where
it is not. -/
def Wire.Leads (placement : Placement) : Wire → Prop
  | .route relay name device _ =>
      name ∉ placement.modulesOn relay ∧ name ∈ placement.modulesOn device
  | .actuator .. => True

section Wiring

variable {devices : Devices} {placement : Placement} {links : List ActuatorLink}
variable {relay : DeviceId} {wire : Wire} {wires : List Wire}

theorem routeWires_leads {name : String}
    (wired : (routeWires devices placement relay name).outcome = .ok wires)
    (member : wire ∈ wires) : wire.Leads placement := by
  unfold routeWires at wired
  split at wired
  · cases wired
    cases member
  next elsewhere =>
    obtain ⟨found, reaches, wired⟩ := Run.outcome_bind_eq_ok_iff.mp wired
    rw [Run.outcome_liftExcept] at reaches
    split at wired
    next latency host nearest =>
      cases wired
      obtain rfl := List.mem_singleton.mp member
      have hosts := mem_of_reachable reaches (nearest?_mem nearest)
      exact ⟨fun placed => elsewhere (List.contains_iff_mem.mpr placed),
        Placement.mem_modulesOn hosts⟩
    · obtain ⟨_, _, wired⟩ := Run.outcome_bind_eq_ok_iff.mp wired
      cases wired
      cases member

theorem actuatorWires_leads {link : ActuatorLink}
    (wired : (actuatorWires devices relay link).outcome = .ok wires) (member : wire ∈ wires) :
    wire.Leads placement := by
  obtain ⟨latency?, _, wired⟩ := Run.outcome_bind_eq_ok_iff.mp wired
  split at wired
  · cases wired
    cases member
  · obtain ⟨total, _, wired⟩ := Run.outcome_bind_eq_ok_iff.mp wired
    cases wired
    obtain rfl := List.mem_singleton.mp member
    trivial

theorem wiring_leads {relays : List DeviceId}
    (wired : (wiring devices placement links relays).outcome = .ok wires) (member : wire ∈ wires) :
    wire.Leads placement := by
  obtain ⟨parts, wiredParts, wired⟩ := Run.outcome_bind_eq_ok_iff.mp wired
  cases wired
  rw [Run.outcome_mapM] at wiredParts
  obtain ⟨part, listed, member⟩ := List.mem_flatten.mp member
  obtain ⟨relay, _, wired⟩ := mem_of_mapM wiredParts listed
  obtain ⟨routes, wiredRoutes, wired⟩ := Run.outcome_bind_eq_ok_iff.mp wired
  obtain ⟨actuators, wiredActuators, wired⟩ := Run.outcome_bind_eq_ok_iff.mp wired
  cases wired
  rw [Run.outcome_mapM] at wiredRoutes wiredActuators
  rcases List.mem_append.mp member with member | member
  · obtain ⟨some, listed, member⟩ := List.mem_flatten.mp member
    obtain ⟨name, _, wired⟩ := mem_of_mapM wiredRoutes listed
    exact routeWires_leads wired member
  · obtain ⟨some, listed, member⟩ := List.mem_flatten.mp member
    obtain ⟨link, _, wired⟩ := mem_of_mapM wiredActuators listed
    exact actuatorWires_leads wired member

end Wiring
end FogNetwork
