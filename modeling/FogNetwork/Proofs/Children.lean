import FogNetwork.Proofs.Building

/-! The child tables of a network are the inverse of the links that its devices declare, whatever
stood in the tables before, and in however many steps the devices were registered. -/

namespace FogNetwork

def Links.lastTo? (links : Links) (parent : DeviceId) : Option Nat :=
  ((links.parents.filter (·.parent == parent)).getLast?).map (·.latency)

namespace Device

/-- A device without what others declare about it. -/
def childless (device : Device) : Device := device.changeLinks Links.clearChildren

def withChildren (device : Device) (children : SortedMap DeviceId Nat) : Device :=
  device.changeLinks fun links => { links with children := children }

variable (device : Device) (children : SortedMap DeviceId Nat)

@[simp] theorem changeLinks_changeLinks (first second : Links → Links) :
    (device.changeLinks first).changeLinks second =
      device.changeLinks fun links => second (first links) := by
  cases device <;> rfl

@[simp] theorem links_changeLinks (change : Links → Links) :
    (device.changeLinks change).links = change device.links := by
  cases device <;> rfl

@[simp] theorem childless_withChildren :
    (device.withChildren children).childless = device.childless :=
  device.changeLinks_changeLinks _ _

@[simp] theorem withChildren_childless :
    device.childless.withChildren children = device.withChildren children :=
  device.changeLinks_changeLinks _ _

@[simp] theorem children_withChildren :
    (device.withChildren children).links.children = children := by
  simp [withChildren]

@[simp] theorem lastTo?_childless (parent : DeviceId) :
    device.childless.links.lastTo? parent = device.links.lastTo? parent := by
  simp [childless, Links.clearChildren, Links.lastTo?]

end Device

def DeclaredAlike (left right : Devices) : Prop :=
  ∀ id, (left.get? id).map Device.childless = (right.get? id).map Device.childless

def linksTo (devices : Devices) (parent : DeviceId) : List (DeviceId × ParentLink) :=
  (declaredLinks devices).filter (·.2.parent == parent)

def childTable (devices : Devices) (parent : DeviceId) : SortedMap DeviceId Nat :=
  .ofList ((linksTo devices parent).map fun declared => (declared.1, declared.2.latency))

section Connecting

variable {devices left right : Devices}

theorem get?_enterLinks (links : List (DeviceId × ParentLink)) (devices : Devices)
    (id : DeviceId) :
    (links.foldl enterLink devices).get? id =
      (devices.get? id).map (Device.changeLinks fun own => { own with
        children := (links.filter (·.2.parent == id)).foldl
          (fun table declared => table.insert declared.1 declared.2.latency) own.children }) := by
  induction links generalizing devices with
  | nil =>
      have unchanged (device : Device) : (device.changeLinks fun own => own) = device := by
        cases device <;> rfl
      exact ((congrArg (Option.map · _) (funext unchanged)).trans Option.map_id').symm
  | cons first rest ih =>
      rw [List.foldl_cons, ih, enterLink, SortedMap.get?_modify]
      by_cases here : first.2.parent = id
      · simp [here, Links.addChild, Function.comp_def]
      · simp [here, Ne.symm here]

theorem get?_connect (devices : Devices) (id : DeviceId) :
    (connect devices).value.get? id =
      (devices.get? id).map fun device => device.withChildren (childTable devices id) := by
  simp [connect, get?_enterLinks, SortedMap.get?_mapValues, Device.withChildren,
    Links.clearChildren, childTable, linksTo, SortedMap.ofList, List.foldl_map, Function.comp_def]

theorem get?_childTable (devices : Devices) (parent child : DeviceId) :
    (childTable devices parent).get? child =
      (devices.get? child).bind (·.links.lastTo? parent) := by
  have declared : ((linksTo devices parent).map fun entry => (entry.1, entry.2.latency)).filter
        (·.1 = child) =
      devices.entries.flatMap fun entry =>
        ((entry.2.links.parents.filter (·.parent == parent)).map fun link =>
          (entry.1, link.latency)).filter (·.1 = child) := by
    simp [linksTo, declaredLinks, List.filter_flatMap, List.map_flatMap, List.filter_map,
      Function.comp_def]
  have apart : ∀ entry ∈ devices.entries, entry.1 ≠ child →
      ((entry.2.links.parents.filter (·.parent == parent)).map fun link =>
        (entry.1, link.latency)).filter (·.1 = child) = [] := by
    intro entry _ differs
    simp [List.filter_map, Function.comp_def, differs]
  rw [childTable, SortedMap.get?_ofList, declared, SortedMap.flatMap_entries apart]
  cases devices.get? child with
  | none => rfl
  | some device => simp [List.filter_map, Function.comp_def, Links.lastTo?]

theorem connect_alike (devices : Devices) : DeclaredAlike (connect devices).value devices := by
  intro id
  simp [get?_connect, Function.comp_def]

theorem childTable_congr (alike : DeclaredAlike left right) (parent : DeviceId) :
    childTable left parent = childTable right parent := by
  ext1 child
  have declared (devices : Devices) : (devices.get? child).bind (·.links.lastTo? parent) =
      ((devices.get? child).map Device.childless).bind (·.links.lastTo? parent) := by
    cases devices.get? child with
    | none => rfl
    | some device => exact (device.lastTo?_childless parent).symm
  rw [get?_childTable, get?_childTable, declared left, declared right, alike child]

theorem connect_congr (alike : DeclaredAlike left right) :
    (connect left).value = (connect right).value := by
  ext1 id
  have tables (devices : Devices) : (connect devices).value.get? id =
      ((devices.get? id).map Device.childless).map
        fun device => device.withChildren (childTable devices id) := by
    simp [get?_connect, Function.comp_def]
  rw [tables left, tables right, alike id, childTable_congr alike]

theorem contains_of_declaredAlike (alike : DeclaredAlike left right) (id : DeviceId) :
    left.contains id = right.contains id := by
  have same := congrArg Option.isSome (alike id)
  simpa [SortedMap.contains] using same

end Connecting

/-! Registering devices in several steps. -/

section Registering

variable {devices others : List Device} {left right after between : Devices}

theorem enterDevices_alike (alike : DeclaredAlike left right)
    (entered : enterDevices devices left = (.ok (), after)) :
    ∃ reached, enterDevices devices right = (.ok (), reached) ∧
      DeclaredAlike after reached := by
  induction devices generalizing left right with
  | nil =>
      cases entered
      exact ⟨right, rfl, alike⟩
  | cons device rest ih =>
      simp only [enterDevices, contains_of_declaredAlike alike] at entered ⊢
      by_cases taken : right.contains device.id = true
      · simp [taken] at entered
      · simp only [taken, Bool.false_eq_true, if_false] at entered ⊢
        refine ih ?_ entered
        intro id
        by_cases here : id = device.id
        · simp [here]
        · simp [SortedMap.get?_insert_of_ne _ _ here, alike id]

theorem enterDevices_append (first : enterDevices devices left = (.ok (), between)) :
    enterDevices (devices ++ others) left = enterDevices others between := by
  induction devices generalizing left with
  | nil =>
      cases first
      rfl
  | cons device rest ih =>
      simp only [List.cons_append, enterDevices] at first ⊢
      by_cases taken : left.contains device.id = true
      · simp [taken] at first
      · simp only [taken, Bool.false_eq_true, if_false] at first ⊢
        exact ih first

end Registering

structure Topology where
  devices : List Device
  sensors : List Sensor
  actuators : List Actuator

namespace Topology

def append (first second : Topology) : Topology :=
  ⟨first.devices ++ second.devices, first.sensors ++ second.sensors,
    first.actuators ++ second.actuators⟩

def all (topologies : List Topology) : Topology :=
  ⟨topologies.flatMap (·.devices), topologies.flatMap (·.sensors),
    topologies.flatMap (·.actuators)⟩

theorem append_all_nil (first : Topology) : first.append (all []) = first := by
  simp [append, all]

theorem append_all_cons (first second : Topology) (rest : List Topology) :
    first.append (all (second :: rest)) = (first.append second).append (all rest) := by
  simp [append, all]

theorem all_cons (first : Topology) (rest : List Topology) :
    all (first :: rest) = first.append (all rest) := by
  simp [append, all]

end Topology

namespace Orchestrator

def enroll (orchestrator : Orchestrator) (topology : Topology) :
    Except Rejection Unit × Orchestrator :=
  (orchestrator.register topology.devices topology.sensors topology.actuators).value

inductive Enrolls : Orchestrator → List Topology → Orchestrator → Prop
  | done (orchestrator : Orchestrator) : Enrolls orchestrator [] orchestrator
  | more {orchestrator between after : Orchestrator} {topology : Topology} {rest : List Topology}
      (first : orchestrator.enroll topology = (.ok (), between))
      (others : Enrolls between rest after) : Enrolls orchestrator (topology :: rest) after

variable {orchestrator between after : Orchestrator} {first second : Topology}

theorem register_of_entered {devices : List Device} {entered : Devices}
    (enters : enterDevices devices orchestrator.devices = (.ok (), entered))
    (sensors : List Sensor) (actuators : List Actuator) :
    (orchestrator.register devices sensors actuators).value =
      (.ok (), { orchestrator with
        devices := (connect entered).value
        sensors := sensors.foldl (fun map sensor => map.insert sensor.id sensor)
          orchestrator.sensors
        actuators := actuators.foldl (fun map actuator => map.insert actuator.id actuator)
          orchestrator.actuators }) := by
  unfold register
  rw [enters]
  rfl

theorem enroll_append (early : orchestrator.enroll first = (.ok (), between))
    (late : between.enroll second = (.ok (), after)) :
    orchestrator.enroll (first.append second) = (.ok (), after) := by
  obtain ⟨entered, enters, rfl⟩ := register_value early
  obtain ⟨added, adds, rfl⟩ := register_value late
  obtain ⟨reached, enters', alike⟩ := enterDevices_alike (connect_alike entered) adds
  have all : enterDevices (first.append second).devices orchestrator.devices =
      (.ok (), reached) := (enterDevices_append enters).trans enters'
  rw [enroll, register_of_entered all, connect_congr alike]
  simp [Topology.append]

theorem Enrolls.append_all {topologies : List Topology}
    (early : orchestrator.enroll first = (.ok (), between))
    (enrolls : between.Enrolls topologies after) :
    orchestrator.enroll (first.append (.all topologies)) = (.ok (), after) := by
  induction enrolls generalizing first with
  | done => rwa [Topology.append_all_nil]
  | more next _ ih =>
      rw [Topology.append_all_cons]
      exact ih (enroll_append early next)

theorem Enrolls.at_once {topologies : List Topology}
    (enrolls : orchestrator.Enrolls topologies after)
    (some : topologies ≠ [] ∨ orchestrator.devices = .empty) :
    orchestrator.enroll (.all topologies) = (.ok (), after) := by
  cases enrolls with
  | done =>
      have fresh : orchestrator.devices = .empty := some.resolve_left fun more => more rfl
      obtain ⟨config, devices, sensors⟩ := orchestrator
      cases fresh
      rfl
  | more first others =>
      rw [Topology.all_cons]
      exact others.append_all first

end Orchestrator

/-- The child table of every registered device lists exactly the registered devices that declare a
link to it, with the latency of the last such link. Nothing else about the devices changes, the
tables before make no difference, and it does not matter whether the devices are registered at once
or in several steps. -/
theorem children_invert_parents :
    (∀ devices : Devices,
      DeclaredAlike (connect devices).value devices ∧
        (∀ parent registered child latency,
          (connect devices).value.get? parent = some registered →
            (registered.links.children.get? child = some latency ↔
              ∃ declaring, devices.get? child = some declaring ∧
                declaring.links.lastTo? parent = some latency)) ∧
        (∀ others, DeclaredAlike others devices →
          (connect others).value = (connect devices).value) ∧
        (connect (connect devices).value).value = (connect devices).value) ∧
    ∀ (orchestrator after : Orchestrator) topologies, orchestrator.Enrolls topologies after →
      topologies ≠ [] ∨ orchestrator.devices = .empty →
        orchestrator.enroll (.all topologies) = (.ok (), after) := by
  refine ⟨fun devices => ⟨connect_alike devices, ?_, ?_, ?_⟩, ?_⟩
  · intro parent registered child latency found
    rw [get?_connect, Option.map_eq_some_iff] at found
    obtain ⟨device, _, rfl⟩ := found
    rw [Device.children_withChildren, get?_childTable, Option.bind_eq_some_iff]
  · intro others alike
    exact connect_congr alike
  · exact connect_congr (connect_alike devices)
  · intro orchestrator after topologies enrolls some
    exact enrolls.at_once some

namespace Demo

def shed (number : Nat) (parents : List ParentLink) (children : List (DeviceId × Nat)) : Device :=
  .recorder { Recorder.named ⟨number⟩ "shed" with links := ⟨parents, .ofList children⟩ }

/-- Two devices that declare each other, one of them also itself, a stranger, and its parent a
second time. Their tables are out of date. -/
def yard : Topology where
  devices :=
    [shed 1 [⟨⟨2⟩, 5⟩, ⟨⟨1⟩, 3⟩, ⟨⟨9⟩, 1⟩, ⟨⟨2⟩, 7⟩] [(⟨4⟩, 4)], shed 2 [⟨⟨1⟩, 4⟩] [(⟨1⟩, 1)]]
  sensors := []
  actuators := []

def annex : Topology := ⟨[shed 3 [⟨⟨2⟩, 6⟩] []], [], []⟩

def sheds : Devices :=
  .ofList ((yard.devices ++ annex.devices).map fun device => (device.id, device))

end Demo

theorem children_invert_parents_sheds :
    (∃ registered, (connect Demo.sheds).value.get? ⟨2⟩ = some registered ∧
      registered.links.children.entries = [(⟨1⟩, 7), (⟨3⟩, 6)] ∧
      registered.links.children.get? ⟨1⟩ = some 7 ∧
      DeclaredAlike Demo.sheds (connect Demo.sheds).value ∧
      (connect Demo.sheds).value = (connect (connect Demo.sheds).value).value) ∧
    ∃ after, (Orchestrator.initial .standard .keeping).Enrolls [Demo.yard, Demo.annex] after ∧
      (Orchestrator.initial .standard .keeping).enroll (.all [Demo.yard, Demo.annex]) =
        (.ok (), after) := by
  obtain ⟨tables, atOnce⟩ := children_invert_parents
  obtain ⟨alike, inverse, _⟩ := tables Demo.sheds
  have before : DeclaredAlike Demo.sheds (connect Demo.sheds).value := fun id => (alike id).symm
  have steps : (Orchestrator.initial .standard .keeping).Enrolls [Demo.yard, Demo.annex] _ :=
    .more rfl (.more rfl (.done _))
  constructor
  · refine ⟨_, rfl, by decide, ?_, before, (tables _).2.2.1 Demo.sheds before⟩
    exact (inverse ⟨2⟩ _ ⟨1⟩ 7 rfl).mpr ⟨_, rfl, by decide⟩
  · exact ⟨_, steps, atOnce _ _ _ steps (.inl (by simp))⟩

end FogNetwork
