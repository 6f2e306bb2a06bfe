import FogNetwork.Proofs.Resubmission

/-! Which subscriptions an accepted submission makes: for each module, and for each actuator edge
out of it, one to each registered actuator whose type the edge ends at. -/

namespace FogNetwork

namespace Application

variable {application : Application}

theorem module?_of_nodup (distinct : application.moduleNames.Nodup) {spec : ModuleSpec}
    (listed : spec ∈ application.modules) : application.module? spec.name = some spec := by
  cases found : application.module? spec.name with
  | none => exact absurd (beq_self_eq_true _) (List.find?_eq_none.mp found spec listed)
  | some other =>
      have same := List.find?_some found
      rw [beq_iff_eq] at same
      rw [List.inj_on_of_nodup_map distinct (List.mem_of_find?_eq_some found) listed same]

theorem filterMap_module? (distinct : application.moduleNames.Nodup) :
    application.moduleNames.filterMap application.module? = application.modules := by
  rw [moduleNames, List.filterMap_map]
  refine (List.filterMap_congr fun spec listed => ?_).trans List.filterMap_some
  exact module?_of_nodup distinct listed

theorem Extends.map_modules {α : Type} {fits : String → Subscription → Prop}
    {old new : Application} (extension : old.Extends fits new) {look : ModuleSpec → α}
    (kept : ∀ spec added, look (spec.subscribeAll added) = look spec) :
    new.modules.map look = old.modules.map look := by
  have alike : List.Forall₂ (fun new old => look new = look old) new.modules old.modules := by
    refine extension.modules.flip.imp ?_
    rintro _ spec ⟨added, rfl, _⟩
    exact kept spec added
  rwa [← List.forall₂_eq_eq_eq, List.forall₂_map_left_iff, List.forall₂_map_right_iff]

end Application

namespace Orchestrator

variable {actuators : SortedMap ActuatorId Actuator} {application : Application}

/-- The actuators that serve edges ending at `destination`, in ascending order. -/
structure Matches (actuators : SortedMap ActuatorId Actuator) (destination : String)
    (ids : List ActuatorId) : Prop where
  ascending : ids.Pairwise fun earlier later => compare earlier later = .lt
  complete : ∀ id, id ∈ ids ↔ ∃ actuator, actuators.get? id = some actuator ∧
    actuator.actuatorType.toList.map Char.toLower = destination.toList.map Char.toLower

def equipped (actuators : SortedMap ActuatorId Actuator) (application : Application)
    (spec : ModuleSpec) : ModuleSpec :=
  { spec with
    subscriptions := (application.actuatorEdges spec.name).flatMap fun edge =>
      (matching actuators edge.destination).map fun actuator => ⟨actuator, edge.tupleType⟩ }

theorem map_id_values (keyed : actuators.Keyed Actuator.id) :
    actuators.values.map (·.id) = actuators.keys := by
  rw [SortedMap.values, SortedMap.keys, List.map_map]
  refine List.map_congr_left fun entry member => ?_
  exact keyed entry.1 entry.2 (SortedMap.get?_eq_some_iff.mpr member)

theorem matches_matching (keyed : actuators.Keyed Actuator.id) (destination : String) :
    Matches actuators destination (matching actuators destination) where
  ascending := by
    have ascending := actuators.keys_ascending
    rw [← map_id_values keyed] at ascending
    exact ascending.sublist (List.filter_sublist.map _)
  complete id := by
    simp only [matching, List.mem_map, List.mem_filter, Actuator.matchesType, equalIgnoringCase,
      beq_iff_eq]
    constructor
    · rintro ⟨actuator, ⟨listed, alike⟩, rfl⟩
      obtain ⟨entry, member, rfl⟩ := List.mem_map.mp listed
      have found := SortedMap.get?_eq_some_iff.mpr member
      exact ⟨entry.2, keyed entry.1 entry.2 found ▸ found, alike⟩
    · rintro ⟨actuator, found, alike⟩
      have listed : actuator ∈ actuators.values :=
        List.mem_map_of_mem (SortedMap.get?_eq_some_iff.mp found)
      exact ⟨actuator, ⟨listed, alike⟩, keyed id actuator found⟩

theorem subscribeEdge_of_idle {edge : Edge} (idle : application.hasModule edge.source = false ∨
      matching actuators edge.destination = []) :
    (subscribeEdge actuators application edge).value = application := by
  by_cases unmatched : matching actuators edge.destination = []
  · rw [subscribeEdge_value, unmatched, List.foldl_nil]
  · have found : (matching actuators edge.destination).isEmpty = false := by simpa using unmatched
    simp only [subscribeEdge, found, idle.resolve_right unmatched]
    rfl

theorem subscribeActuators_plain (plain : ∀ spec ∈ application.modules, spec.subscriptions = [])
    (name : String) : (subscribeActuators actuators application).value.module? name =
      (application.module? name).map (equipped actuators application) := by
  rw [subscribeActuators_module?]
  refine Option.map_congr fun spec found => ?_
  have own := List.find?_some found
  rw [beq_iff_eq] at own
  rw [ModuleSpec.subscribeAll, plain spec (List.mem_of_find?_eq_some found), List.nil_append, ← own]
  rfl

theorem subscribeActuators_modules (plain : ∀ spec ∈ application.modules, spec.subscriptions = [])
    (distinct : application.moduleNames.Nodup) :
    (subscribeActuators actuators application).value.modules =
      application.modules.map (equipped actuators application) := by
  have names : (subscribeActuators actuators application).value.moduleNames =
      application.moduleNames :=
    (subscribeActuators_extends actuators application).map_modules fun _ _ => rfl
  rw [← Application.filterMap_module? (names ▸ distinct), names,
    funext (subscribeActuators_plain plain), ← List.map_filterMap,
    Application.filterMap_module? distinct]

/-! The actuators that are registered. -/

theorem register_keyed {orchestrator : Orchestrator}
    (keyed : orchestrator.actuators.Keyed Actuator.id) (devices : List Device)
    (sensors : List Sensor) (entered : List Actuator) :
    (orchestrator.register devices sensors entered).value.2.actuators.Keyed Actuator.id := by
  unfold register
  split
  · exact keyed
  · exact keyed.enter entered

theorem submit_actuators (orchestrator : Orchestrator) (application : Application)
    (placement : Placement) (delay : Nat) :
    (orchestrator.submit application placement delay).value.2.actuators =
      orchestrator.actuators := by
  unfold submit
  split
  · rfl
  · rfl

namespace Request

variable {request : Request} {requests : List Request} {orchestrator next final : Orchestrator}

theorem keyed_perform (keyed : orchestrator.actuators.Keyed Actuator.id)
    (performed : (request.perform orchestrator).outcome = .ok next) :
    next.actuators.Keyed Actuator.id := by
  cases request with
  | register devices sensors actuators =>
      obtain ⟨_, registered, same⟩ := Run.outcome_bind_eq_ok_iff.mp performed
      cases registered
      cases same
      exact register_keyed keyed devices sensors actuators
  | submit application placement delay =>
      obtain ⟨_, submitted, same⟩ := Run.outcome_bind_eq_ok_iff.mp performed
      cases submitted
      cases same
      rw [← submit_actuators orchestrator application placement delay] at keyed
      exact keyed
  | start context =>
      obtain ⟨⟨⟨_, _⟩, _⟩, ended, same⟩ := Run.outcome_bind_eq_ok_iff.mp performed
      cases same
      rw [start_frame ended]
      exact keyed
  | handle context event =>
      obtain ⟨_, ended⟩ := perform_handle performed
      exact (handle_frame ended).2.2 keyed

theorem keyed_performAll (keyed : orchestrator.actuators.Keyed Actuator.id)
    (performed : (performAll requests orchestrator).outcome = .ok final) :
    final.actuators.Keyed Actuator.id := by
  refine performAll_keeps (motive := fun reached => reached.actuators.Keyed Actuator.id)
    ?_ keyed performed
  intro _ request _ _ between next _ keyed performed
  exact keyed_perform keyed performed

end Request

/-- Whatever has been asked of an orchestrator, when it accepts an application that has no
subscriptions yet, each module has those that follow from the actuator edges out of it, edge by
edge in the order of their declaration: one for each registered actuator of the type at the end of
the edge, in ascending order, for the tuples of the edge. Edges that leave no module or that
nothing matches add none, and nothing else of the application has changed. -/
theorem submit_subscribes_matches {config : Config} {exporter : Exporter}
    {requests : List Request} {orchestrator next : Orchestrator} {application : Application}
    {placement : Placement} {delay : Nat}
    (performed : (Request.performAll requests (.initial config exporter)).outcome =
      .ok orchestrator)
    (plain : ∀ spec ∈ application.modules, spec.subscriptions = [])
    (accepted : (orchestrator.submit application placement delay).value = (.ok (), next)) :
    ∃ held : Application, next.active = some ⟨held, placement, delay⟩ ∧
      (∀ destination, Matches orchestrator.actuators destination
        (matching orchestrator.actuators destination)) ∧
      (∀ name, held.module? name =
        (application.module? name).map (equipped orchestrator.actuators application)) ∧
      (application.moduleNames.Nodup →
        held.modules = application.modules.map (equipped orchestrator.actuators application)) ∧
      (∀ (between : Application) (edge : Edge), between.hasModule edge.source = false ∨
        matching orchestrator.actuators edge.destination = [] →
          (subscribeEdge orchestrator.actuators between edge).value = between) ∧
      held.modules.map (fun spec => (spec.name, spec.capacity)) =
        application.modules.map (fun spec => (spec.name, spec.capacity)) ∧
      held = { application with modules := held.modules } := by
  have keyed : orchestrator.actuators.Keyed Actuator.id :=
    Request.keyed_performAll (SortedMap.keyed_empty _) performed
  have extension := subscribeActuators_extends orchestrator.actuators application
  obtain ⟨_, rfl⟩ := submit_eq_ok_iff.mp accepted
  exact ⟨_, rfl, matches_matching keyed, subscribeActuators_plain plain,
    subscribeActuators_modules plain, fun _ _ idle => subscribeEdge_of_idle idle,
    extension.map_modules fun _ _ => rfl, extension.rest⟩

end Orchestrator

namespace Demo

def workshop : Orchestrator :=
  ((Orchestrator.initial .standard .keeping).enroll
    ⟨[.recorder (.named ⟨0⟩ "bench")], [], [.named ⟨3⟩ "ceiling" "LED", .named ⟨2⟩ "drill" "MOTOR",
      .named ⟨1⟩ "floor" "Led"]⟩).2

def lathe : Application :=
  { Application.named "lathe" with
    modules := [⟨"guard", 10, []⟩, ⟨"drive", 20, []⟩]
    edges := [.between "guard" "led" "BLINK" .actuator, .between "drive" "MOTOR" "TURN" .actuator,
      .between "guest" "LED" "SHINE" .actuator, .between "guard" "BELL" "RING" .actuator,
      .between "guard" "LED" "SHINE" .actuator] }

end Demo

/-- Two lamps of one type are told from each other by their identifiers only, and an edge that
ends at that type again adds both again. -/
theorem Orchestrator.submit_subscribes_matches_lathe :
    ∃ (next : Orchestrator) (held : Application),
      next.active = some ⟨held, .ofPairs [(⟨0⟩, "guard"), (⟨0⟩, "drive")], 0⟩ ∧
      held.modules =
        [⟨"guard", 10, [⟨⟨1⟩, "BLINK"⟩, ⟨⟨3⟩, "BLINK"⟩, ⟨⟨1⟩, "SHINE"⟩, ⟨⟨3⟩, "SHINE"⟩]⟩,
          ⟨"drive", 20, [⟨⟨2⟩, "TURN"⟩]⟩] := by
  have performed : (Request.performAll [.register [.recorder (.named ⟨0⟩ "bench")] []
      [.named ⟨3⟩ "ceiling" "LED", .named ⟨2⟩ "drill" "MOTOR", .named ⟨1⟩ "floor" "Led"]]
      (.initial .standard .keeping)).outcome = .ok Demo.workshop := rfl
  have plain : ∀ spec ∈ Demo.lathe.modules, spec.subscriptions = [] := by
    simp [Demo.lathe]
  obtain ⟨held, active, _, _, modules, _⟩ :=
    Orchestrator.submit_subscribes_matches performed plain
      (show (Demo.workshop.submit Demo.lathe (.ofPairs [(⟨0⟩, "guard"), (⟨0⟩, "drive")]) 0).value =
        (.ok (), _) from rfl)
  exact ⟨_, held, active, modules (by decide)⟩

end FogNetwork
