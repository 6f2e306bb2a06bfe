import FogNetwork.Proofs.Declarations
import FogNetwork.Proofs.Enrolment

/-! Which device a name stands for, and what a mapping by such names comes to. -/

namespace FogNetwork

/-- A name stands for the greatest identifier of the devices that have it. -/
structure StandsFor (devices : List Device) (name : String) (id : DeviceId) : Prop where
  listed : ∃ device ∈ devices, device.name = name ∧ device.id = id
  greatest : ∀ device ∈ devices, device.name = name → device.id.number ≤ id.number

theorem Identifier.isLE_compare {kind : EntityKind} {left right : Identifier kind} :
    (compare left right).isLE = true ↔ left.number ≤ right.number :=
  Nat.isLE_compare

section Naming

variable {parts : List Device} {name : String} {id : DeviceId} {device : Device}

theorem get?_enterAll_iff (distinct : (parts.map Device.id).Nodup) :
    (enterAll parts .empty).get? id = some device ↔ device ∈ parts ∧ device.id = id := by
  have unclaimed : Unclaimed .empty parts := ⟨distinct, fun _ _ => rfl⟩
  constructor
  · intro found
    exact ⟨enterDevices_all (fun _ own => own) (SortedMap.all_empty _) unclaimed.enterDevices id
      device found, enterDevices_keyed (SortedMap.keyed_empty _) unclaimed.enterDevices id device
      found⟩
  · rintro ⟨listed, rfl⟩
    exact get?_enterAll unclaimed listed

theorem deviceNamed?_enterAll (distinct : (parts.map Device.id).Nodup) :
    deviceNamed? (enterAll parts .empty) name = some id ↔ StandsFor parts name id := by
  rw [deviceNamed?, Option.map_eq_some_iff]
  simp only [(enterAll parts .empty).getLast?_filter_eq_some_iff fun device => device.name == name,
    get?_enterAll_iff distinct, beq_iff_eq, Identifier.isLE_compare]
  constructor
  · rintro ⟨entry, ⟨⟨listed, own⟩, named, greatest⟩, rfl⟩
    exact ⟨⟨entry.2, listed, named, own⟩, fun device member same =>
      greatest device.id device ⟨member, rfl⟩ same⟩
  · rintro ⟨⟨device, listed, named, rfl⟩, greatest⟩
    refine ⟨(device.id, device), ⟨⟨listed, rfl⟩, named, ?_⟩, rfl⟩
    rintro _ other ⟨member, rfl⟩ same
    exact greatest other member same

theorem exists_deviceNamed?_iff (distinct : (parts.map Device.id).Nodup) :
    (∃ id, deviceNamed? (enterAll parts .empty) name = some id) ↔
      ∃ device ∈ parts, device.name = name := by
  constructor
  · rintro ⟨id, named⟩
    obtain ⟨⟨device, listed, same, _⟩, _⟩ := (deviceNamed?_enterAll distinct).mp named
    exact ⟨device, listed, same⟩
  · rintro ⟨device, listed, same⟩
    rw [← Option.isSome_iff_exists, deviceNamed?, Option.isSome_map, List.getLast?_isSome]
    have found := (get?_enterAll_iff distinct).mpr ⟨listed, rfl⟩
    exact List.ne_nil_of_mem
      (List.mem_filter.mpr ⟨SortedMap.get?_eq_some_iff.mp found, beq_iff_eq.mpr same⟩)

theorem contains_of_deviceNamed? {devices : Devices} (named : deviceNamed? devices name = some id) :
    devices.contains id = true := by
  obtain ⟨entry, last, rfl⟩ := Option.map_eq_some_iff.mp named
  obtain ⟨found, _⟩ :=
    (devices.getLast?_filter_eq_some_iff fun device => device.name == name).mp last
  rw [SortedMap.contains, found]
  rfl

end Naming

theorem Placement.mem_keys_ofPairs {pairs : List (DeviceId × String)} {id : DeviceId} :
    id ∈ (Placement.ofPairs pairs).assignments.keys ↔ id ∈ pairs.map Prod.fst := by
  have entered (placement : Placement) :
      (pairs.foldl (fun placement pair => placement.assign pair.1 pair.2) placement).assignments =
        pairs.foldl (fun map pair => map.update pair.1 [] (addName pair.2))
          placement.assignments := by
    induction pairs generalizing placement with
    | nil => rfl
    | cons pair rest ih => exact ih _
  rw [Placement.ofPairs, entered, SortedMap.mem_keys_foldl_update]
  exact or_iff_left List.not_mem_nil

namespace Mapping

variable {mapping : Mapping} {devices : Devices} {name : String} {id : DeviceId}

def modulesUnder (mapping : Mapping) (device : String) : List String :=
  mapping.assignments.getD device []

def pairs (mapping : Mapping) (devices : Devices) : List (DeviceId × String) :=
  mapping.assignments.entries.flatMap fun entry =>
    (deviceNamed? devices entry.1).toList.flatMap fun id => entry.2.map fun name => (id, name)

theorem mem_pairs_iff : (id, name) ∈ mapping.pairs devices ↔
    ∃ device, deviceNamed? devices device = some id ∧ name ∈ mapping.modulesUnder device := by
  simp only [pairs, List.mem_flatMap, Option.mem_toList, List.mem_map, Prod.mk.injEq]
  constructor
  · rintro ⟨entry, listed, _, named, _, member, rfl, rfl⟩
    refine ⟨entry.1, named, ?_⟩
    exact SortedMap.mem_getD_nil_iff.mpr ⟨_, SortedMap.get?_eq_some_iff.mpr listed, member⟩
  · rintro ⟨device, named, member⟩
    obtain ⟨names, found, listed⟩ := SortedMap.mem_getD_nil_iff.mp member
    exact ⟨(device, names), SortedMap.get?_eq_some_iff.mp found, id, named, name, listed, rfl, rfl⟩

/-- A mapping comes to a placement unless it mentions a name that no device has. The first such name
is told. -/
theorem resolve_eq : mapping.resolve devices =
    (mapping.assignments.keys.find? fun name => (deviceNamed? devices name).isNone).elim
      (.ok (.ofPairs (mapping.pairs devices))) fun name => .error (.deviceNameNotFound name) := by
  rw [resolve, Placement.ofPairs, pairs, SortedMap.keys]
  generalize mapping.assignments.entries = entries
  generalize Placement.empty = placement
  induction entries generalizing placement with
  | nil => rfl
  | cons entry rest ih =>
      rw [List.foldlM_cons, List.map_cons, List.find?_cons, List.flatMap_cons, List.foldl_append]
      cases named : deviceNamed? devices entry.1 with
      | none => rfl
      | some id =>
          refine (ih _).trans ?_
          simp [List.foldl_map]

theorem resolve_eq_ok_iff {placement : Placement} : mapping.resolve devices = .ok placement ↔
    (∀ name ∈ mapping.assignments.keys, ∃ id, deviceNamed? devices name = some id) ∧
      placement = .ofPairs (mapping.pairs devices) := by
  rw [resolve_eq]
  cases unknown : mapping.assignments.keys.find? fun name => (deviceNamed? devices name).isNone with
  | none =>
      have known := List.find?_eq_none.mp unknown
      simp only [Bool.not_eq_true, Option.isNone_eq_false_iff, Option.isSome_iff_exists] at known
      rw [Option.elim_none, Except.ok.injEq, eq_comm]
      exact (and_iff_right known).symm
  | some name =>
      have absent := List.find?_some unknown
      refine iff_of_false nofun fun claims => ?_
      obtain ⟨id, named⟩ := claims.1 name (List.mem_of_find?_eq_some unknown)
      simp [named] at absent

theorem mem_keys_of_modulesUnder {device : String} (listed : name ∈ mapping.modulesUnder device) :
    device ∈ mapping.assignments.keys := by
  obtain ⟨names, found, _⟩ := SortedMap.mem_getD_nil_iff.mp listed
  exact SortedMap.mem_keys_iff.mpr ⟨names, found⟩

theorem exists_modulesOn_iff
    (known : ∀ name ∈ mapping.assignments.keys, ∃ id, deviceNamed? devices name = some id) :
    (∃ id, name ∈ (Placement.ofPairs (mapping.pairs devices)).modulesOn id) ↔
      ∃ device, name ∈ mapping.modulesUnder device := by
  simp only [(Placement.modulesOn_ofPairs _ _).2, mem_pairs_iff]
  constructor
  · rintro ⟨_, device, _, listed⟩
    exact ⟨device, listed⟩
  · rintro ⟨device, listed⟩
    obtain ⟨id, named⟩ := known device (mem_keys_of_modulesUnder listed)
    exact ⟨id, device, named, listed⟩

theorem contains_of_mem_keys {id : DeviceId}
    (hosts : id ∈ (Placement.ofPairs (mapping.pairs devices)).assignments.keys) :
    devices.contains id = true := by
  obtain ⟨⟨_, name⟩, listed, rfl⟩ := List.mem_map.mp (Placement.mem_keys_ofPairs.mp hosts)
  obtain ⟨device, named, _⟩ := mem_pairs_iff.mp listed
  exact contains_of_deviceNamed? named

/-! A mapping of all modules to one name. -/

section AllOn

variable {application : Application} {device other : String}

theorem assignments_allOn (device : String) (application : Application) :
    (allOn device application).assignments = application.moduleNames.foldl
      (fun map name => map.update device [] (addName name)) .empty := by
  have entered (names : List String) (mapping : Mapping) :
      (names.foldl (fun mapping name => mapping.add device name) mapping).assignments =
        names.foldl (fun map name => map.update device [] (addName name)) mapping.assignments := by
    induction names generalizing mapping with
    | nil => rfl
    | cons name rest ih => exact ih _
  exact entered application.moduleNames .empty

theorem mem_keys_allOn : other ∈ (allOn device application).assignments.keys ↔
    application.moduleNames ≠ [] ∧ other = device := by
  rw [assignments_allOn]
  refine (SortedMap.mem_keys_foldl_update.trans (or_iff_left List.not_mem_nil)).trans ?_
  rw [List.mem_map]
  constructor
  · rintro ⟨name, declared, rfl⟩
    exact ⟨List.ne_nil_of_mem declared, rfl⟩
  · rintro ⟨some, rfl⟩
    obtain ⟨name, declared⟩ := List.exists_mem_of_ne_nil _ some
    exact ⟨name, declared, rfl⟩

theorem mem_modulesUnder_allOn : name ∈ (allOn device application).modulesUnder other ↔
    other = device ∧ name ∈ application.moduleNames := by
  rw [modulesUnder, assignments_allOn, SortedMap.getD_foldl_update]
  by_cases own : device = other
  · simp only [own, decide_true, List.filter_true, true_and]
    rw [SortedMap.getD, SortedMap.get?_empty, Option.getD_none, Application.foldl_addName,
      List.mem_eraseDups]
  · simp [own, Ne.symm own, SortedMap.getD]

end AllOn

end Mapping

end FogNetwork
