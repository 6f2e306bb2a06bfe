import FogNetwork.Proofs.Admission
import FogNetwork.Proofs.Loops

/-! Putting an application together piece by piece. Its modules stand in the order in which they
were first declared, its loops are numbered from zero, and no loop mentions a name that the
application does not know. Only loops can be turned down, which changes nothing. -/

namespace FogNetwork
namespace Application

inductive Declaration where
  | module (name : String) (capacity : Nat)
  | edge (edge : Edge)
  | loop (members : List String)
  | deadline (id : LoopId) (deadline : Float)
  | coverage (coverage : Coverage)
  | subscribe (name : String) (actuator : ActuatorId) (tupleType : String)

def declare (application : Application) :
    Declaration → Except Rejection (Option LoopId) × Application
  | .module name capacity => (.ok none, application.declareModule name capacity)
  | .edge edge => (.ok none, application.declareEdge edge)
  | .loop members =>
      match application.declareLoop members with
      | .ok (id, next) => (.ok (some id), next)
      | .error rejection => (.error rejection, application)
  | .deadline id deadline => (.ok none, application.setDeadline id deadline)
  | .coverage coverage => (.ok none, application.setCoverage coverage)
  | .subscribe name actuator tupleType => (.ok none, application.subscribe name actuator tupleType)

def declareAll (application : Application) (declarations : List Declaration) : Application :=
  declarations.foldl (fun application declaration => (application.declare declaration).2)
    application

def Declaration.moduleName? : Declaration → Option String
  | .module name _ => some name
  | _ => none

/-- The names that a loop may mention: those of modules, and what stands at the outer end of a
sensor edge or an actuator edge. -/
inductive Known (application : Application) : String → Prop
  | module {name : String} (declared : name ∈ application.moduleNames) : Known application name
  | sensor {edge : Edge} (listed : edge ∈ application.edges) (kind : edge.kind = .sensor) :
      Known application edge.source
  | actuator {edge : Edge} (listed : edge ∈ application.edges) (kind : edge.kind = .actuator) :
      Known application edge.destination

/-- Why a loop is turned down: it mentions nothing, or `name` is the first that is not known. -/
inductive Objects (application : Application) : List String → Rejection → Prop
  | empty : Objects application [] (.emptyLoop application.id)
  | unknown {front back : List String} {name : String}
      (known : ∀ other ∈ front, application.Known other) (stranger : ¬application.Known name) :
      Objects application (front ++ name :: back) (.unknownLoopMember application.id name)

/-- Every loop mentions something, and nothing that is unknown. -/
def Sound (application : Application) : Prop :=
  ∀ path ∈ application.loops,
    path.members ≠ [] ∧ ∀ member ∈ path.members, application.Known member

variable {application old new next : Application} {name : String} {members : List String}
variable {rejection : Rejection} {id : Option LoopId}

theorem knows_iff : application.knows name = true ↔ application.Known name := by
  rw [knows, Bool.or_eq_true, hasModule_iff, List.any_eq_true]
  constructor
  · rintro (declared | ⟨edge, listed, named⟩)
    · exact .module declared
    · cases kind : edge.kind with
      | sensor =>
          rw [kind, beq_iff_eq] at named
          exact named ▸ .sensor listed kind
      | actuator =>
          rw [kind, beq_iff_eq] at named
          exact named ▸ .actuator listed kind
      | module =>
          rw [kind] at named
          cases named
  · rintro (declared | ⟨listed, kind⟩ | ⟨listed, kind⟩)
    · exact .inl declared
    · exact .inr ⟨_, listed, by rw [kind]; exact beq_self_eq_true _⟩
    · exact .inr ⟨_, listed, by rw [kind]; exact beq_self_eq_true _⟩

/-! Loops. -/

theorem declare_loop_of_known (filled : members ≠ [])
    (known : ∀ member ∈ members, application.Known member) :
    application.declare (.loop members) = (.ok (some ⟨application.loops.length⟩),
      { application with
        loops := application.loops ++ [⟨⟨application.loops.length⟩, members, none⟩] }) := by
  have all : (members.find? fun member => !application.knows member) = none := by
    simpa [knows_iff] using known
  have occupied : members.isEmpty = false := by simpa using filled
  simp only [declare, declareLoop, all, occupied, Bool.false_eq_true, ↓reduceIte]

theorem Objects.declare (objects : application.Objects members rejection) :
    application.declare (.loop members) = (.error rejection, application) := by
  cases objects with
  | empty => rfl
  | @unknown front back name known stranger =>
      have first : ((front ++ name :: back).find? fun member => !application.knows member) =
          some name := by
        refine List.find?_eq_some_iff_append.mpr ⟨?_, front, back, rfl, ?_⟩
        · simpa [← knows_iff] using stranger
        · simpa [knows_iff] using known
      have filled : (front ++ name :: back).isEmpty = false := by simp
      simp only [Application.declare, declareLoop, first, filled, Bool.false_eq_true, ↓reduceIte]

theorem known_or_objects (application : Application) (members : List String) :
    (members ≠ [] ∧ ∀ member ∈ members, application.Known member) ∨
      ∃ rejection, application.Objects members rejection := by
  by_cases empty : members = []
  · subst empty
    exact .inr ⟨_, .empty⟩
  · cases first : members.find? fun member => !application.knows member with
    | none =>
        have known := List.find?_eq_none.mp first
        exact .inl ⟨empty, by simpa [knows_iff] using known⟩
    | some name =>
        obtain ⟨stranger, front, back, rfl, known⟩ := List.find?_eq_some_iff_append.mp first
        refine .inr ⟨_, .unknown ?_ ?_⟩
        · simpa [knows_iff] using known
        · simpa [← knows_iff] using stranger

theorem declare_loop_eq_ok_iff : application.declare (.loop members) = (.ok id, next) ↔
    (members ≠ [] ∧ ∀ member ∈ members, application.Known member) ∧
      id = some ⟨application.loops.length⟩ ∧
      next = { application with
        loops := application.loops ++ [⟨⟨application.loops.length⟩, members, none⟩] } := by
  rcases known_or_objects application members with ⟨filled, known⟩ | ⟨rejection, objects⟩
  · rw [declare_loop_of_known filled known, Prod.mk.injEq, Except.ok.injEq]
    exact (and_congr eq_comm eq_comm).trans (and_iff_right ⟨filled, known⟩).symm
  · rw [objects.declare]
    refine iff_of_false (by simp) ?_
    rintro ⟨⟨filled, known⟩, _⟩
    have accepted := declare_loop_of_known filled known
    rw [objects.declare] at accepted
    cases accepted

theorem declare_loop_eq_error_iff :
    application.declare (.loop members) = (.error rejection, next) ↔
      application.Objects members rejection ∧ next = application := by
  constructor
  · intro rejected
    rcases known_or_objects application members with ⟨filled, known⟩ | ⟨reason, objects⟩
    · rw [declare_loop_of_known filled known] at rejected
      cases rejected
    · rw [objects.declare] at rejected
      cases rejected
      exact ⟨objects, rfl⟩
  · rintro ⟨objects, rfl⟩
    exact objects.declare

/-! What one declaration leaves of the names and the loops. -/

theorem moduleNames_changeModule {change : ModuleSpec → ModuleSpec}
    (kept : ∀ spec, (change spec).name = spec.name) :
    (application.changeModule name change).moduleNames = application.moduleNames :=
  map_changeFirst kept application.modules

theorem moduleNames_declareModule (capacity : Nat) :
    (application.declareModule name capacity).moduleNames =
      addName name application.moduleNames := by
  unfold declareModule addName
  by_cases declared : name ∈ application.moduleNames
  · rw [if_pos (hasModule_iff.mpr declared), if_pos (List.contains_iff_mem.mpr declared)]
    exact moduleNames_changeModule fun _ => by rfl
  · rw [if_neg (mt hasModule_iff.mp declared), if_neg (mt List.contains_iff_mem.mp declared),
      moduleNames, List.map_append]
    rfl

theorem Known.mono (known : old.Known name)
    (modules : ∀ name ∈ old.moduleNames, name ∈ new.moduleNames)
    (edges : ∀ edge ∈ old.edges, edge ∈ new.edges) : new.Known name := by
  cases known with
  | module declared => exact .module (modules name declared)
  | sensor listed kind => exact .sensor (edges _ listed) kind
  | actuator listed kind => exact .actuator (edges _ listed) kind

theorem Sound.mono (sound : old.Sound)
    (same : new.loops.map (·.members) = old.loops.map (·.members))
    (modules : ∀ name ∈ old.moduleNames, name ∈ new.moduleNames)
    (edges : ∀ edge ∈ old.edges, edge ∈ new.edges) : new.Sound := by
  intro path listed
  have members : path.members ∈ old.loops.map (·.members) := by
    rw [← same]
    exact List.mem_map_of_mem listed
  obtain ⟨before, own, alike⟩ := List.mem_map.mp members
  obtain ⟨filled, known⟩ := sound before own
  rw [← alike]
  exact ⟨filled, fun member mentioned => (known member mentioned).mono modules edges⟩

theorem Sound.declare (sound : application.Sound) (declaration : Declaration) :
    (application.declare declaration).2.Sound := by
  cases declaration with
  | module name capacity =>
      have loops : (application.declareModule name capacity).loops = application.loops := by
        unfold declareModule
        split <;> rfl
      have edges : (application.declareModule name capacity).edges = application.edges := by
        unfold declareModule
        split <;> rfl
      refine sound.mono (congrArg _ loops) (fun other declared => ?_) fun edge listed => ?_
      · change other ∈ (application.declareModule name capacity).moduleNames
        rw [moduleNames_declareModule]
        exact mem_addName.mpr (.inr declared)
      · exact edges ▸ listed
  | edge edge =>
      exact sound.mono rfl (fun _ declared => declared) fun _ listed =>
        List.mem_append_left _ listed
  | loop members =>
      rcases known_or_objects application members with ⟨filled, known⟩ | ⟨rejection, objects⟩
      · rw [declare_loop_of_known filled known]
        intro path listed
        rcases List.mem_append.mp listed with before | new
        · obtain ⟨occupied, own⟩ := sound path before
          exact ⟨occupied, fun member mentioned =>
            (own member mentioned).mono (fun _ declared => declared) fun _ listed => listed⟩
        · rw [List.mem_singleton.mp new]
          exact ⟨filled, fun member mentioned =>
            (known member mentioned).mono (fun _ declared => declared) fun _ listed => listed⟩
      · rw [objects.declare]
        exact sound
  | deadline id deadline =>
      exact sound.mono (map_changeFirst (fun _ => by rfl) application.loops)
        (fun _ declared => declared) fun _ listed => listed
  | coverage coverage =>
      exact sound.mono rfl (fun _ declared => declared) fun _ listed => listed
  | subscribe name actuator tupleType =>
      refine sound.mono rfl (fun other declared => ?_) fun _ listed => listed
      have names : (application.subscribe name actuator tupleType).moduleNames =
          application.moduleNames := moduleNames_changeModule fun _ => by rfl
      exact names ▸ declared

theorem moduleNames_declare (declaration : Declaration) :
    (application.declare declaration).2.moduleNames =
      declaration.moduleName?.elim application.moduleNames (addName · application.moduleNames) := by
  cases declaration with
  | module name capacity => exact moduleNames_declareModule capacity
  | loop members =>
      rcases known_or_objects application members with ⟨filled, known⟩ | ⟨rejection, objects⟩
      · rw [declare_loop_of_known filled known]
        rfl
      · rw [objects.declare]
        rfl
  | subscribe name actuator tupleType => exact moduleNames_changeModule fun _ => by rfl
  | edge | deadline | coverage => rfl

theorem Declared.declare (declared : application.Declared) (declaration : Declaration) :
    (application.declare declaration).2.Declared := by
  cases declaration with
  | module name capacity => exact declared.module name capacity
  | edge edge => exact declared.edge edge
  | loop members =>
      simp only [Application.declare]
      split
      next declares => exact declared.loop declares
      · exact declared
  | deadline id deadline => exact declared.deadline id deadline
  | coverage coverage => exact declared.coverage coverage
  | subscribe name actuator tupleType => exact declared.subscribe name actuator tupleType

/-! What all of them leave. -/

theorem declareAll_keeps {motive : Application → Prop} (begin : motive application)
    (step : ∀ application declaration, motive application →
      motive (application.declare declaration).2) (declarations : List Declaration) :
    motive (application.declareAll declarations) :=
  List.foldlRecOn declarations _ begin fun application own declaration _ =>
    step application declaration own

theorem foldl_addName (names : List String) :
    names.foldl (fun listed name => addName name listed) [] = names.eraseDups := by
  induction names using List.reverseRecOn with
  | nil => rfl
  | append_singleton front last ih =>
      rw [List.foldl_append, ih, List.eraseDups_append, List.foldl_cons, List.foldl_nil, addName]
      by_cases early : last ∈ front
      · simp [early, List.removeAll]
      · simp [early, List.removeAll, List.eraseDups_cons]

theorem moduleNames_declareAll (declarations : List Declaration) :
    (application.declareAll declarations).moduleNames =
      (declarations.filterMap Declaration.moduleName?).foldl
        (fun listed name => addName name listed) application.moduleNames := by
  induction declarations generalizing application with
  | nil => rfl
  | cons declaration rest ih =>
      rw [declareAll, List.foldl_cons]
      refine ih.trans ?_
      rw [moduleNames_declare]
      cases new : declaration.moduleName? with
      | none => rw [List.filterMap_cons_none new, Option.elim_none]
      | some name => rw [List.filterMap_cons_some new, Option.elim_some, List.foldl_cons]

theorem moduleNames_declareAll_named (id : String) (declarations : List Declaration) :
    ((named id).declareAll declarations).moduleNames =
      (declarations.filterMap Declaration.moduleName?).eraseDups := by
  rw [moduleNames_declareAll, ← foldl_addName]
  rfl

theorem nodup_eraseDups (names : List String) : names.eraseDups.Nodup := by
  rw [← foldl_addName]
  exact List.foldlRecOn names _ List.nodup_nil fun _ nodup _ _ => nodup_addName nodup

theorem id_declare (declaration : Declaration) :
    (application.declare declaration).2.id = application.id := by
  cases declaration with
  | module name capacity =>
      simp only [declare, declareModule]
      split <;> rfl
  | loop members =>
      rcases known_or_objects application members with ⟨filled, known⟩ | ⟨rejection, objects⟩
      · rw [declare_loop_of_known filled known]
      · rw [objects.declare]
  | _ => rfl

theorem Declared.ids (declared : application.Declared) :
    application.loops.map (·.id) =
      (List.range application.loops.length).map fun index => ⟨index⟩ := by
  rw [← declared.numbered, List.map_map]
  rfl

/-- However an application is put together, its modules stand in the order in which they were
first declared and no name stands twice, its loops are numbered in the order of theirs, and each
of them mentions something and only names that are known. At any time a loop is accepted just if
that holds of it; otherwise it is told why, and the application is what it was. -/
theorem declared_wellFormed (id : String) (declarations : List Declaration) :
    let application := (named id).declareAll declarations
    application.id = id ∧
    application.moduleNames = (declarations.filterMap Declaration.moduleName?).eraseDups ∧
    application.moduleNames.Nodup ∧
    application.loops.map (·.id) = (List.range application.loops.length).map (⟨·⟩) ∧
    application.Sound ∧
    ∀ members,
      (∀ id next, application.declare (.loop members) = (.ok id, next) ↔
        (members ≠ [] ∧ ∀ member ∈ members, application.Known member) ∧
          id = some ⟨application.loops.length⟩ ∧
          next = { application with
            loops := application.loops ++ [⟨⟨application.loops.length⟩, members, none⟩] }) ∧
      ∀ rejection next, application.declare (.loop members) = (.error rejection, next) ↔
        application.Objects members rejection ∧ next = application := by
  have names := moduleNames_declareAll_named id declarations
  have declared : ((named id).declareAll declarations).Declared :=
    declareAll_keeps (.named id) (fun _ declaration declared => declared.declare declaration) _
  have sound : ((named id).declareAll declarations).Sound := by
    refine declareAll_keeps (fun _ listed => ?_) ?_ _
    · cases listed
    · exact fun _ declaration sound => sound.declare declaration
  refine ⟨?_, names, names ▸ nodup_eraseDups _, declared.ids, sound,
    fun members => ⟨fun _ _ => declare_loop_eq_ok_iff, fun _ _ => declare_loop_eq_error_iff⟩⟩
  exact declareAll_keeps (motive := fun application => application.id = id) rfl
    (fun _ declaration same => (id_declare declaration).trans same) declarations

end Application

namespace Demo

def porchDeclarations : List Application.Declaration :=
  [.module "lamp" 2, .module "door" 1, .loop ["LIGHT", "lamp"],
    .edge (.between "LIGHT" "lamp" "LIGHT" .sensor), .loop ["LIGHT", "lamp"],
    .module "lamp" 3, .loop ["door"]]

end Demo

theorem Application.declared_wellFormed_porch :
    let porch := (Application.named "porch").declareAll Demo.porchDeclarations
    porch.moduleNames = ["lamp", "door"] ∧
      porch.loops.map (·.members) = [["LIGHT", "lamp"], ["door"]] ∧
      porch.Known "LIGHT" ∧
      porch.Objects ["door", "TURN", "LIGHT"] (.unknownLoopMember "porch" "TURN") := by
  obtain ⟨_, names, _, _, sound, loops⟩ :=
    Application.declared_wellFormed "porch" Demo.porchDeclarations
  have mentioned := (sound ⟨⟨0⟩, ["LIGHT", "lamp"], none⟩ (.head _)).2 "LIGHT" (.head _)
  have rejected :=
    ((loops ["door", "TURN", "LIGHT"]).2 (.unknownLoopMember "porch" "TURN") _).mp rfl
  exact ⟨names, rfl, mentioned, rejected.1⟩

end FogNetwork
