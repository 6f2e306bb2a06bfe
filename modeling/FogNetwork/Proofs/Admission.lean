import FogNetwork.Proofs.Reception

/-! Which submissions an orchestrator accepts, why it turns the others down, and what it holds
afterwards. -/

namespace FogNetwork

namespace Placement

variable {placement : Placement} {application : Application} {name : String}

theorem mem_placedNames_iff :
    name ∈ placement.placedNames ↔ ∃ device, name ∈ placement.modulesOn device := by
  rw [placedNames, List.mem_flatten]
  constructor
  · rintro ⟨names, member, listed⟩
    obtain ⟨entry, known, rfl⟩ := List.mem_map.mp member
    refine ⟨entry.1, ?_⟩
    exact SortedMap.mem_getD_nil_iff.mpr ⟨_, SortedMap.get?_eq_some_iff.mpr known, listed⟩
  · rintro ⟨device, placed⟩
    exact List.mem_flatten.mp (mem_placedNames_of_modulesOn placed)

theorem isEmpty_devicesFor :
    (placement.devicesFor name).isEmpty = !placement.placedNames.contains name := by
  rw [Bool.eq_iff_iff, devicesFor, List.isEmpty_map, List.isEmpty_iff, List.filter_eq_nil_iff]
  simp only [placedNames, SortedMap.values, Bool.not_eq_true', List.contains_eq_mem,
    decide_eq_false_iff_not, List.mem_flatten, List.mem_map]
  grind

theorem missing_eq : placement.missing application =
    application.moduleNames.filter fun name => !placement.placedNames.contains name := by
  simp only [missing, isEmpty_devicesFor]

theorem missing_eq_nil_iff : placement.missing application = [] ↔
    ∀ name ∈ application.moduleNames, ∃ device, name ∈ placement.modulesOn device := by
  simp [missing_eq, List.filter_eq_nil_iff, mem_placedNames_iff]

end Placement

def ModuleSpec.Extends (fits : String → Subscription → Prop) (old new : ModuleSpec) : Prop :=
  ∃ added, new = old.subscribeAll added ∧ ∀ subscription ∈ added, fits old.name subscription

structure Application.Extends (fits : String → Subscription → Prop) (old new : Application) :
    Prop where
  modules : List.Forall₂ (ModuleSpec.Extends fits) old.modules new.modules
  rest : new = { old with modules := new.modules }

namespace ModuleSpec.Extends

variable {fits : String → Subscription → Prop} {old between new : ModuleSpec}

theorem refl (spec : ModuleSpec) : spec.Extends fits spec :=
  ⟨[], by simp [subscribeAll], by simp⟩

theorem trans (early : old.Extends fits between) (late : between.Extends fits new) :
    old.Extends fits new := by
  obtain ⟨first, rfl, fitting⟩ := early
  obtain ⟨second, rfl, fittingToo⟩ := late
  refine ⟨first ++ second, by simp [subscribeAll], ?_⟩
  intro subscription member
  rcases List.mem_append.mp member with member | member
  · exact fitting subscription member
  · exact fittingToo subscription member

end ModuleSpec.Extends

theorem forall₂_trans {α : Type} {related : α → α → Prop} {first second third : List α}
    (trans : ∀ {old between new}, related old between → related between new → related old new)
    (early : List.Forall₂ related first second) (late : List.Forall₂ related second third) :
    List.Forall₂ related first third := by
  induction early generalizing third with
  | nil => exact late
  | cons head _ ih =>
      cases late with
      | cons next rest => exact .cons (trans head next) (ih rest)

theorem forall₂_changeFirst {α : Type} {related : α → α → Prop} {chosen : α → Bool}
    {change : α → α} (kept : ∀ item, related item item)
    (changed : ∀ item, chosen item = true → related item (change item)) (items : List α) :
    List.Forall₂ related items (changeFirst chosen change items) := by
  induction items with
  | nil => exact .nil
  | cons first rest ih =>
      rw [changeFirst]
      split
      next own => exact .cons (changed first own) (List.forall₂_same.mpr fun item _ => kept item)
      · exact .cons (kept first) ih

namespace Application

variable {fits : String → Subscription → Prop} {application old between new : Application}

theorem Extends.refl (application : Application) : application.Extends fits application :=
  ⟨List.forall₂_same.mpr fun spec _ => .refl spec, rfl⟩

theorem Extends.trans (early : old.Extends fits between) (late : between.Extends fits new) :
    old.Extends fits new :=
  ⟨forall₂_trans ModuleSpec.Extends.trans early.modules late.modules, by
    rw [late.rest, early.rest]⟩

theorem extends_subscribe {name tupleType : String} {actuator : ActuatorId}
    (own : fits name ⟨actuator, tupleType⟩) :
    application.Extends fits (application.subscribe name actuator tupleType) := by
  refine ⟨forall₂_changeFirst .refl ?_ _, rfl⟩
  intro spec chosen
  rw [beq_iff_eq] at chosen
  exact ⟨[⟨actuator, tupleType⟩], rfl, by simpa [chosen] using own⟩

theorem extends_foldl {ι : Type} {body : Application → ι → Application} {items : List ι}
    (step : ∀ item ∈ items, ∀ application : Application,
      application.Extends fits (body application item))
    (application : Application) : application.Extends fits (items.foldl body application) := by
  induction items generalizing application with
  | nil => exact .refl application
  | cons item rest ih =>
      exact (step item (by simp) application).trans
        (ih (fun other member => step other (by simp [member])) _)

end Application

theorem Orchestrator.subscribeActuators_extends (actuators : SortedMap ActuatorId Actuator)
    (application : Application) :
    application.Extends
      (fun name subscription => subscription ∈ subscriptionsFor actuators
        (application.actuatorEdges name))
      (subscribeActuators actuators application).value := by
  rw [subscribeActuators, Logged.value_foldlM]
  refine Application.extends_foldl ?_ application
  intro edge listed current
  obtain ⟨member, kind⟩ := List.mem_filter.mp listed
  rw [subscribeEdge_value]
  refine Application.extends_foldl ?_ current
  intro actuator found reached
  refine Application.extends_subscribe (List.mem_flatMap.mpr ⟨edge, ?_, ?_⟩)
  · simp only [Application.actuatorEdges, Application.edgesFrom, List.mem_filter]
    exact ⟨⟨member, beq_self_eq_true _⟩, kind⟩
  · exact List.mem_map_of_mem found

theorem Application.hasModule_iff {application : Application} {name : String} :
    application.hasModule name = true ↔ name ∈ application.moduleNames := by
  simp [hasModule, module?, moduleNames, List.find?_isSome]

namespace Placement

variable {placement : Placement} {application : Application} {name : String}

theorem validate_of_missing (some : placement.missing application ≠ []) :
    placement.validate application =
      .error (.placementIncomplete application.id (placement.missing application)) := by
  unfold validate
  split
  next first rest found => rw [found]
  next none => exact absurd none some

theorem validate_of_complete (complete : placement.missing application = []) :
    placement.validate application =
      (placement.placedNames.find? fun name => !application.hasModule name).elim (.ok ())
        fun unknown => .error (.unknownModule application.id unknown) := by
  simp only [validate, complete]
  cases placement.placedNames.find? fun name => !application.hasModule name with
  | none => rfl
  | some unknown => rfl

theorem validate_eq_ok_iff : placement.validate application = .ok () ↔
    ∀ name, (∃ device, name ∈ placement.modulesOn device) ↔ name ∈ application.moduleNames := by
  by_cases complete : placement.missing application = []
  · have strangers : (placement.placedNames.find? fun name => !application.hasModule name) = none ↔
        ∀ name, (∃ device, name ∈ placement.modulesOn device) → name ∈ application.moduleNames := by
      simp [List.find?_eq_none, Application.hasModule_iff, mem_placedNames_iff]
    rw [validate_of_complete complete]
    have placed := missing_eq_nil_iff.mp complete
    cases found : placement.placedNames.find? fun name => !application.hasModule name with
    | none => exact iff_of_true rfl fun name => ⟨strangers.mp found name, placed name⟩
    | some unknown =>
        refine iff_of_false nofun fun covers => ?_
        rw [strangers.mpr fun name => (covers name).mp] at found
        cases found
  · rw [validate_of_missing complete]
    refine iff_of_false nofun fun covers => complete ?_
    exact missing_eq_nil_iff.mpr fun name => (covers name).mpr

end Placement

namespace Orchestrator

variable {orchestrator next : Orchestrator} {application : Application} {placement : Placement}
variable {rejection : Rejection}

structure Awaits (orchestrator : Orchestrator) (application : Application) : Prop where
  early : orchestrator.startedAt = none
  same : ∀ held, orchestrator.active = some held → held.application.id = application.id

structure Admissible (orchestrator : Orchestrator) (application : Application)
    (placement : Placement) : Prop extends orchestrator.Awaits application where
  covers : ∀ name, (∃ device, name ∈ placement.modulesOn device) ↔ name ∈ application.moduleNames
  hosts : ∀ device ∈ placement.assignments.keys, orchestrator.devices.contains device = true

/-- Why a submission is turned down: for the first reason in this order. -/
inductive Refuses (orchestrator : Orchestrator) (application : Application)
    (placement : Placement) : Rejection → Prop
  | late (started : orchestrator.startedAt ≠ none) :
      Refuses orchestrator application placement (.alreadyStarted application.id)
  | occupied {held : Submission} (early : orchestrator.startedAt = none)
      (active : orchestrator.active = some held) (other : held.application.id ≠ application.id) :
      Refuses orchestrator application placement
        (.applicationAlreadyActive held.application.id application.id)
  | incomplete {missing : List String} (awaits : orchestrator.Awaits application)
      (unplaced : missing =
        application.moduleNames.filter fun name => !placement.placedNames.contains name)
      (some : missing ≠ []) :
      Refuses orchestrator application placement (.placementIncomplete application.id missing)
  | unknown {name : String} {front back : List String} (awaits : orchestrator.Awaits application)
      (complete : ∀ name ∈ application.moduleNames, ∃ device, name ∈ placement.modulesOn device)
      (placed : placement.placedNames = front ++ name :: back)
      (known : ∀ other ∈ front, other ∈ application.moduleNames)
      (stranger : name ∉ application.moduleNames) :
      Refuses orchestrator application placement (.unknownModule application.id name)
  | unregistered {device : DeviceId} {front back : List DeviceId}
      (awaits : orchestrator.Awaits application)
      (covers : ∀ name, (∃ device, name ∈ placement.modulesOn device) ↔
        name ∈ application.moduleNames)
      (hosts : placement.assignments.keys = front ++ device :: back)
      (registered : ∀ other ∈ front, orchestrator.devices.contains other = true)
      (absent : orchestrator.devices.contains device = false) :
      Refuses orchestrator application placement (.deviceNotFound device)

theorem Awaits.held_id (awaits : orchestrator.Awaits application) {held : Application}
    (holds : orchestrator.application? = some held) : held.id = application.id := by
  obtain ⟨submission, active, rfl⟩ := Option.map_eq_some_iff.mp holds
  exact awaits.same submission active

theorem Awaits.admits_eq (awaits : orchestrator.Awaits application) :
    orchestrator.admits application placement =
      (placement.validate application).bind fun _ =>
        (placement.assignments.keys.find? (!orchestrator.devices.contains ·)).elim (.ok ())
          fun device => .error (.deviceNotFound device) := by
  have early : orchestrator.isStarted = false := by rw [isStarted, awaits.early]; rfl
  simp only [admits, early, Bool.false_eq_true, ↓reduceIte]
  generalize placement.assignments.keys.find? (!orchestrator.devices.contains ·) = unknown
  split
  next held holds =>
    rw [if_neg (not_not.mpr (awaits.held_id holds))]
    cases unknown with
    | none => rfl
    | some device => rfl
  next =>
    cases unknown with
    | none => rfl
    | some device => rfl

theorem Admissible.admits (admissible : orchestrator.Admissible application placement) :
    orchestrator.admits application placement = .ok () := by
  have registered :
      placement.assignments.keys.find? (!orchestrator.devices.contains ·) = none := by
    simpa using admissible.hosts
  rw [admissible.admits_eq, Placement.validate_eq_ok_iff.mpr admissible.covers, registered]
  rfl

theorem Refuses.admits (refuses : orchestrator.Refuses application placement rejection) :
    orchestrator.admits application placement = .error rejection := by
  cases refuses with
  | late started =>
      have late : orchestrator.isStarted = true := Option.isSome_iff_ne_none.mpr started
      simp only [admits, late, ↓reduceIte]
      rfl
  | occupied early active other =>
      simp only [admits, isStarted, early, application?, active, Option.map_some, if_pos other]
      rfl
  | incomplete awaits unplaced some =>
      rw [← Placement.missing_eq] at unplaced
      subst unplaced
      rw [awaits.admits_eq, Placement.validate_of_missing some]
      rfl
  | @unknown name front back awaits complete placed known stranger =>
      have found : (placement.placedNames.find? fun name => !application.hasModule name) =
          some name := by
        refine List.find?_eq_some_iff_append.mpr ⟨?_, front, back, placed, ?_⟩
        · simpa [← Application.hasModule_iff] using stranger
        · simpa [Application.hasModule_iff] using known
      have placedAll := Placement.missing_eq_nil_iff.mpr complete
      rw [awaits.admits_eq, Placement.validate_of_complete placedAll, found]
      rfl
  | @unregistered device front back awaits covers hosts registered absent =>
      have found : placement.assignments.keys.find? (!orchestrator.devices.contains ·) =
          some device := by
        refine List.find?_eq_some_iff_append.mpr ⟨by simp [absent], front, back, hosts, ?_⟩
        simpa using registered
      rw [awaits.admits_eq, Placement.validate_eq_ok_iff.mpr covers, found]
      rfl

theorem Awaits.admissible_or_refuses (awaits : orchestrator.Awaits application)
    (placement : Placement) : orchestrator.Admissible application placement ∨
      ∃ rejection, orchestrator.Refuses application placement rejection := by
  by_cases complete : placement.missing application = []
  · have placed := Placement.missing_eq_nil_iff.mp complete
    cases strange : placement.placedNames.find? fun name => !application.hasModule name with
    | some name =>
        obtain ⟨stranger, front, back, split, known⟩ := List.find?_eq_some_iff_append.mp strange
        refine .inr ⟨_, .unknown awaits placed split ?_ ?_⟩
        · simpa [Application.hasModule_iff] using known
        · simpa [← Application.hasModule_iff] using stranger
    | none =>
        have covers := Placement.validate_eq_ok_iff.mp
          (by rw [Placement.validate_of_complete complete, strange]; rfl)
        cases unknown : placement.assignments.keys.find? (!orchestrator.devices.contains ·) with
        | some device =>
            obtain ⟨absent, front, back, hosts, known⟩ := List.find?_eq_some_iff_append.mp unknown
            exact .inr ⟨_, .unregistered awaits covers hosts (by simpa using known)
              (by simpa using absent)⟩
        | none => exact .inl { awaits with covers := covers, hosts := by simpa using unknown }
  · exact .inr ⟨_, .incomplete awaits Placement.missing_eq complete⟩

theorem admissible_or_refuses (orchestrator : Orchestrator) (application : Application)
    (placement : Placement) : orchestrator.Admissible application placement ∨
      ∃ rejection, orchestrator.Refuses application placement rejection := by
  by_cases early : orchestrator.startedAt = none
  · cases active : orchestrator.active with
    | none => exact Awaits.admissible_or_refuses ⟨early, by simp [active]⟩ placement
    | some held =>
        by_cases same : held.application.id = application.id
        · exact Awaits.admissible_or_refuses ⟨early, by simp [active, same]⟩ placement
        · exact .inr ⟨_, .occupied early active same⟩
  · exact .inr ⟨_, .late early⟩

theorem admits_eq_ok_iff : orchestrator.admits application placement = .ok () ↔
    orchestrator.Admissible application placement := by
  refine ⟨fun admitted => ?_, Admissible.admits⟩
  rcases admissible_or_refuses orchestrator application placement with
    admissible | ⟨rejection, refuses⟩
  · exact admissible
  · rw [refuses.admits] at admitted
    cases admitted

theorem admits_eq_error_iff : orchestrator.admits application placement = .error rejection ↔
    orchestrator.Refuses application placement rejection := by
  refine ⟨fun turnedDown => ?_, Refuses.admits⟩
  rcases admissible_or_refuses orchestrator application placement with
    admissible | ⟨reason, refuses⟩
  · rw [admissible.admits] at turnedDown
    cases turnedDown
  · rw [refuses.admits] at turnedDown
    cases turnedDown
    exact refuses

def holding (orchestrator : Orchestrator) (application : Application) (placement : Placement)
    (delay : Nat) : Orchestrator :=
  { orchestrator with
    coverage := application.coverage.elim orchestrator.coverage
      (orchestrator.coverage.insert application.id)
    active := some ⟨(subscribeActuators orchestrator.actuators application).value, placement,
      delay⟩ }

variable {delay : Nat}

theorem submit_of_admits (admitted : orchestrator.admits application placement = .ok ()) :
    (orchestrator.submit application placement delay).value =
      (.ok (), orchestrator.holding application placement delay) := by
  unfold submit holding
  rw [admitted]
  cases application.coverage with
  | none => rfl
  | some area => rfl

theorem submit_of_refused (refused : orchestrator.admits application placement = .error rejection) :
    (orchestrator.submit application placement delay).value = (.error rejection, orchestrator) := by
  unfold submit
  rw [refused]
  rfl

theorem submit_eq_ok_iff : (orchestrator.submit application placement delay).value =
      (.ok (), next) ↔
    orchestrator.Admissible application placement ∧
      next = orchestrator.holding application placement delay := by
  rw [← admits_eq_ok_iff]
  cases admitted : orchestrator.admits application placement with
  | error rejection => simp [submit_of_refused admitted]
  | ok => simp [submit_of_admits admitted, eq_comm]

theorem submit_eq_error_iff : (orchestrator.submit application placement delay).value =
      (.error rejection, next) ↔
    orchestrator.Refuses application placement rejection ∧ next = orchestrator := by
  rw [← admits_eq_error_iff]
  cases admitted : orchestrator.admits application placement with
  | error rejection => simp [submit_of_refused admitted, eq_comm]
  | ok => simp [submit_of_admits admitted]

theorem Refuses.incomplete_iff {id : String} {missing : List String} :
    orchestrator.Refuses application placement (.placementIncomplete id missing) ↔
      orchestrator.Awaits application ∧ id = application.id ∧ missing ≠ [] ∧
        missing = application.moduleNames.filter fun name =>
          !placement.placedNames.contains name := by
  constructor
  · intro refuses
    cases refuses with
    | incomplete awaits unplaced some => exact ⟨awaits, rfl, some, unplaced⟩
  · rintro ⟨awaits, rfl, some, unplaced⟩
    exact .incomplete awaits unplaced some

/-- A submission is accepted just if it is admissible, and then it is what is held, with its
modules subscribed to matching actuators, and the area it serves is entered. Otherwise the first
reason is told, and nothing has changed at all. The modules that are told to be missing are those
that are placed nowhere, in the order of their declaration. -/
theorem submit_all_or_nothing (orchestrator : Orchestrator) (application : Application)
    (placement : Placement) (delay : Nat) :
    (∀ next, (orchestrator.submit application placement delay).value = (.ok (), next) ↔
      orchestrator.Admissible application placement ∧
        next = orchestrator.holding application placement delay) ∧
    application.Extends
      (fun name subscription => subscription ∈ subscriptionsFor orchestrator.actuators
        (application.actuatorEdges name))
      (subscribeActuators orchestrator.actuators application).value ∧
    (∀ rejection next,
      (orchestrator.submit application placement delay).value = (.error rejection, next) ↔
        orchestrator.Refuses application placement rejection ∧ next = orchestrator) ∧
    ∀ id missing, (orchestrator.submit application placement delay).value =
        (.error (.placementIncomplete id missing), orchestrator) ↔
      orchestrator.Awaits application ∧ id = application.id ∧ missing ≠ [] ∧
        missing = application.moduleNames.filter fun name =>
          !placement.placedNames.contains name := by
  refine ⟨fun next => submit_eq_ok_iff, subscribeActuators_extends _ _,
    fun rejection next => submit_eq_error_iff, fun id missing => ?_⟩
  rw [submit_eq_error_iff, ← Refuses.incomplete_iff]
  exact and_iff_left rfl

end Orchestrator

theorem Orchestrator.submit_all_or_nothing_lodge :
    Demo.lodge.Admissible (Demo.panelApplication "LIGHT" "TURN") (.ofPairs [(⟨0⟩, "control")]) ∧
      Demo.lodge.Refuses (Demo.panelApplication "LIGHT" "TURN") .empty
        (.placementIncomplete "panel" ["control"]) := by
  obtain ⟨accepted, _⟩ := Demo.lodge.submit_all_or_nothing (Demo.panelApplication "LIGHT" "TURN")
    (.ofPairs [(⟨0⟩, "control")]) 3
  obtain ⟨_, _, refused, _⟩ := Demo.lodge.submit_all_or_nothing
    (Demo.panelApplication "LIGHT" "TURN") .empty 3
  exact ⟨((accepted _).mp Demo.lodge_submits).1, ((refused _ Demo.lodge).mp rfl).1⟩

end FogNetwork
