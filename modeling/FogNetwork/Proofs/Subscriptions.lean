import FogNetwork.Orchestrator.Submission

/-! What a submission adds to an application: for every actuator edge, the subscriptions of its
module to the actuators that match the end of the edge. -/

namespace FogNetwork

theorem Logged.value_foldlM {σ ι : Type} (body : σ → ι → Logged σ) (items : List ι) (state : σ) :
    (items.foldlM body state).value =
      items.foldl (fun state item => (body state item).value) state := by
  induction items generalizing state with
  | nil => rfl
  | cons item rest ih => rw [List.foldlM_cons, value_bind, ih, List.foldl_cons]

theorem find?_changeFirst {α κ : Type} [BEq κ] [LawfulBEq κ] (key : α → κ) (change : α → α)
    (kept : ∀ item, key (change item) = key item) (name wanted : κ) (items : List α) :
    (changeFirst (key · == name) change items).find? (key · == wanted) =
      (items.find? (key · == wanted)).map fun item =>
        if wanted == name then change item else item := by
  induction items with
  | nil => rfl
  | cons first rest ih =>
      simp only [changeFirst]
      by_cases own : key first = name
      · subst own
        by_cases found : key first = wanted
        · simp [found, kept]
        · simp [found, kept, Ne.symm found]
      · by_cases found : key first = wanted
        · subst found
          simp [own]
        · simp [own, found, ih]

theorem changeFirst_of_find?_eq_none {α : Type} {chosen : α → Bool} {items : List α}
    (absent : items.find? chosen = none) (change : α → α) :
    changeFirst chosen change items = items := by
  induction items with
  | nil => rfl
  | cons first rest ih =>
      have first := List.find?_eq_none.mp absent first (by simp)
      have later : rest.find? chosen = none :=
        List.find?_eq_none.mpr fun item member => List.find?_eq_none.mp absent item (by simp [member])
      rw [changeFirst, if_neg first, ih later]

theorem map_changeFirst {α β : Type} {chosen : α → Bool} {change : α → α} {look : α → β}
    (kept : ∀ item, look (change item) = look item) (items : List α) :
    (changeFirst chosen change items).map look = items.map look := by
  induction items with
  | nil => rfl
  | cons first rest ih =>
      rw [changeFirst]
      split
      · rw [List.map_cons, List.map_cons, kept]
      · rw [List.map_cons, List.map_cons, ih]

def ModuleSpec.subscribeAll (spec : ModuleSpec) (subscriptions : List Subscription) : ModuleSpec :=
  { spec with subscriptions := spec.subscriptions ++ subscriptions }

def Application.actuatorEdges (application : Application) (name : String) : List Edge :=
  (application.edgesFrom name).filter (·.kind == .actuator)

namespace Application

variable (application : Application) (name : String) (actuators : List ActuatorId)
variable (tupleType : String)

theorem module?_subscribe (wanted : String) (actuator : ActuatorId) :
    (application.subscribe name actuator tupleType).module? wanted =
      (application.module? wanted).map fun spec =>
        if wanted == name then spec.subscribe actuator tupleType else spec :=
  find?_changeFirst ModuleSpec.name (·.subscribe actuator tupleType) (fun _ => rfl) name wanted
    application.modules

theorem module?_foldl_subscribe (wanted : String) :
    (actuators.foldl (fun application actuator => application.subscribe name actuator tupleType)
        application).module? wanted =
      (application.module? wanted).map fun spec =>
        if wanted == name then spec.subscribeAll (actuators.map (⟨·, tupleType⟩)) else spec := by
  induction actuators generalizing application with
  | nil => simp [ModuleSpec.subscribeAll]
  | cons actuator rest ih =>
      rw [List.foldl_cons, ih, module?_subscribe, Option.map_map]
      congr 1
      funext spec
      by_cases own : wanted = name
      · simp [own, ModuleSpec.subscribeAll, ModuleSpec.subscribe]
      · simp [own]

theorem edges_foldl_subscribe :
    (actuators.foldl (fun application actuator => application.subscribe name actuator tupleType)
      application).edges = application.edges := by
  induction actuators generalizing application with
  | nil => rfl
  | cons actuator rest ih => exact ih _

end Application

namespace Orchestrator

def subscriptionsFor (actuators : SortedMap ActuatorId Actuator) (edges : List Edge) :
    List Subscription :=
  edges.flatMap fun edge =>
    (matching actuators edge.destination).map fun actuator => ⟨actuator, edge.tupleType⟩

variable (actuators : SortedMap ActuatorId Actuator)

theorem subscriptionsFor_append (first second : List Edge) :
    subscriptionsFor actuators (first ++ second) =
      subscriptionsFor actuators first ++ subscriptionsFor actuators second :=
  List.flatMap_append

theorem subscribeEdge_value (application : Application) (edge : Edge) :
    (subscribeEdge actuators application edge).value =
      (matching actuators edge.destination).foldl
        (fun application actuator => application.subscribe edge.source actuator edge.tupleType)
        application := by
  by_cases unmatched : (matching actuators edge.destination).isEmpty
  · simp only [subscribeEdge, if_pos unmatched]
    rw [List.isEmpty_iff.mp unmatched]
    rfl
  · by_cases known : application.hasModule edge.source = true
    · simp only [subscribeEdge, if_neg unmatched, known]
      rfl
    · have absent : application.module? edge.source = none := by
        simpa [Application.hasModule] using known
      have unchanged (actuator : ActuatorId) :
          application.subscribe edge.source actuator edge.tupleType = application := by
        unfold Application.subscribe Application.changeModule
        rw [changeFirst_of_find?_eq_none absent]
      have folded (found : List ActuatorId) : found.foldl (fun application actuator =>
          application.subscribe edge.source actuator edge.tupleType) application = application := by
        induction found with
        | nil => rfl
        | cons actuator rest ih => rw [List.foldl_cons, unchanged, ih]
      simp only [subscribeEdge, if_neg unmatched, known]
      exact (folded _).symm

theorem subscribeEdge_module? (application : Application) (edge : Edge) (name : String) :
    (subscribeEdge actuators application edge).value.module? name =
      (application.module? name).map
        (·.subscribeAll (subscriptionsFor actuators ([edge].filter (·.source == name)))) := by
  rw [subscribeEdge_value, Application.module?_foldl_subscribe]
  congr 1
  funext spec
  by_cases own : name = edge.source
  · simp [own, subscriptionsFor]
  · simp [own, Ne.symm own, ModuleSpec.subscribeAll, subscriptionsFor]

theorem subscribeActuators_edges (application : Application) :
    (subscribeActuators actuators application).value.edges = application.edges := by
  rw [subscribeActuators, Logged.value_foldlM]
  induction application.edges.filter (·.kind == .actuator) generalizing application with
  | nil => rfl
  | cons edge rest ih =>
      rw [List.foldl_cons, ih, subscribeEdge_value, Application.edges_foldl_subscribe]

/-- Each module is subscribed to the matches of the actuator edges that leave it, edge by edge. -/
theorem subscribeActuators_module? (application : Application) (name : String) :
    (subscribeActuators actuators application).value.module? name =
      (application.module? name).map
        (·.subscribeAll (subscriptionsFor actuators (application.actuatorEdges name))) := by
  -- The subscribed application still has the edges, so the edges to go through stay the same.
  have folded : ∀ (edges : List Edge) (application : Application),
      (edges.foldl (fun application edge => (subscribeEdge actuators application edge).value)
        application).module? name =
        (application.module? name).map
          (·.subscribeAll (subscriptionsFor actuators (edges.filter (·.source == name)))) := by
    intro edges
    induction edges with
    | nil => simp [ModuleSpec.subscribeAll, subscriptionsFor]
    | cons edge rest ih =>
        intro application
        have split : (edge :: rest).filter (·.source == name) =
            [edge].filter (·.source == name) ++ rest.filter (·.source == name) := by
          rw [← List.filter_append, List.singleton_append]
        rw [List.foldl_cons, ih, subscribeEdge_module?, Option.map_map, split,
          subscriptionsFor_append]
        congr 1
        funext spec
        simp [ModuleSpec.subscribeAll]
  rw [subscribeActuators, Logged.value_foldlM, folded, Application.actuatorEdges,
    Application.edgesFrom, List.filter_filter, List.filter_filter]
  simp only [Bool.and_comm]

theorem subscriptions_of_plain {application : Application} {name : String} {spec : ModuleSpec}
    (plain : ∀ spec ∈ application.modules, spec.subscriptions = [])
    (known : (subscribeActuators actuators application).value.module? name = some spec) :
    spec.subscriptions = subscriptionsFor actuators (application.actuatorEdges name) := by
  rw [subscribeActuators_module?, Option.map_eq_some_iff] at known
  obtain ⟨own, found, rfl⟩ := known
  rw [ModuleSpec.subscribeAll, plain own (List.mem_of_find?_eq_some found), List.nil_append]

end Orchestrator
end FogNetwork
