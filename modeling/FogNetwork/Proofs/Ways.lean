import FogNetwork.Actuator
import Mathlib.Data.List.Chain
import Mathlib.Data.List.Forall2

/-! The ways that an application gives its tuples, from a sensor type along the edges to the end of
a loop, and the loops that no way goes around. -/

namespace FogNetwork

/-- What a tuple or one of those it descends from went through. -/
inductive Passage where
  | emission (tupleType : String)
  | execution (name : String)
  | delivery (actuatorType : String)
  deriving DecidableEq

namespace Passage

/-- A sensor emits by its type, a module executes by its name, and an actuator takes delivery by
its type, where case does not matter. -/
def isAt (member : String) : Passage → Bool
  | .emission tupleType => tupleType == member
  | .execution name => name == member
  | .delivery actuatorType => equalIgnoringCase actuatorType member

def Through (names : List String) (passages : List Passage) : Prop :=
  List.SublistForall₂ (fun name passage => passage.isAt name = true) names passages

variable {names front rest : List String} {name source : String}
variable {passages : List Passage} {passage : Passage}

theorem Through.concat (through : Through names passages) (here : passage.isAt name = true) :
    Through (names ++ [name]) (passages ++ [passage]) := by
  obtain ⟨chosen, alike, sublist⟩ := List.sublistForall₂_iff.mp through
  refine List.sublistForall₂_iff.mpr ⟨chosen ++ [passage], ?_, sublist.append (.refl _)⟩
  exact List.rel_append alike (.cons here .nil)

theorem Through.isAt_of_mem (through : Through names passages) (member : name ∈ names) :
    ∃ passage ∈ passages, passage.isAt name = true := by
  induction through with
  | nil => cases member
  | cons here _ ih =>
      rcases List.mem_cons.mp member with rfl | later
      · exact ⟨_, by simp, here⟩
      · obtain ⟨passage, listed, found⟩ := ih later
        exact ⟨passage, by simp [listed], found⟩
  | cons_right _ ih =>
      obtain ⟨passage, listed, found⟩ := ih member
      exact ⟨passage, by simp [listed], found⟩

theorem through_onward (split : names = front ++ name :: rest)
    (before : ∀ other ∈ front.getLast?, other = source)
    (through : ∀ front rest, names = front ++ source :: rest →
      Through (front ++ [source]) passages)
    (here : passage.isAt name = true) : Through (front ++ [name]) (passages ++ [passage]) := by
  rcases List.eq_nil_or_concat' front with rfl | ⟨earlier, other, rfl⟩
  · exact Through.concat .nil here
  · obtain rfl := before other (by simp)
    exact (through earlier (name :: rest) (by simp [split])).concat here

end Passage

/-- A way along the edges of an application, from a sensor type to the end of an edge. -/
inductive Application.Way (application : Application) : List Passage → Edge → Prop
  | sensor {tupleType : String} {edge : Edge}
      (feeds : application.sensorEdge? tupleType = some edge) :
      Way application [.emission tupleType] edge
  | onward {passages : List Passage} {before edge : Edge} (way : Way application passages before)
      (leaves : edge ∈ application.edgesFrom before.destination) (outward : edge.kind ≠ .sensor) :
      Way application (passages ++ [.execution before.destination]) edge

theorem Application.Way.listed {application : Application} {passages : List Passage} {edge : Edge}
    (way : application.Way passages edge) : edge ∈ application.edges := by
  cases way with
  | sensor feeds => exact List.mem_of_find?_eq_some feeds
  | onward _ leaves => exact (List.mem_filter.mp leaves).1

namespace LoopPath

def opensAt (path : LoopPath) : Passage → Bool
  | .emission name | .execution name => path.startsWith name
  | .delivery _ => false

def closesAt (path : LoopPath) : Passage → Bool
  | .emission _ => false
  | .execution name => path.endsWith name
  | .delivery actuatorType => path.members.getLast?.any (equalIgnoringCase actuatorType)

inductive Way (path : LoopPath) (application : Application)
    (actuators : SortedMap ActuatorId Actuator) : List Passage → Prop
  | executed {passages : List Passage} {edge : Edge} (way : application.Way passages edge)
      (closes : path.endsWith edge.destination = true) :
      Way path application actuators (passages ++ [.execution edge.destination])
  | delivered {passages : List Passage} {edge : Edge} {spec : ModuleSpec} {id : ActuatorId}
      {actuator : Actuator} (way : application.Way passages edge)
      (known : application.module? edge.source = some spec)
      (subscribed : ⟨id, edge.tupleType⟩ ∈ spec.subscriptions)
      (found : actuators.get? id = some actuator) (closes : actuator.closes path = true) :
      Way path application actuators (passages ++ [.delivery actuator.actuatorType])

/-- There is no way from a sensor type to the end of the loop but through its members in their
order. -/
def Unavoidable (path : LoopPath) (application : Application)
    (actuators : SortedMap ActuatorId Actuator) (tupleType : String) : Prop :=
  ∀ passages, path.Way application actuators passages →
    passages.head? = some (.emission tupleType) → Passage.Through path.members passages

/-- What comes to a member of the loop comes from the member before it. -/
structure Straight (path : LoopPath) (application : Application)
    (actuators : SortedMap ActuatorId Actuator) : Prop where
  chained : path.members.IsChain fun before member =>
    ∀ edge ∈ application.edges, edge.destination = member → edge.source = before
  sensed : ∀ edge ∈ application.edges, edge.kind = .sensor → edge.source ∉ path.members.tail
  subscribed : ∀ spec ∈ application.modules, ∀ subscription ∈ spec.subscriptions,
    (actuators.get? subscription.actuator).any (·.closes path) = true →
      ∀ before ∈ path.members.dropLast.getLast?, before = spec.name

instance (path : LoopPath) (application : Application)
    (actuators : SortedMap ActuatorId Actuator) :
    Decidable (path.Straight application actuators) :=
  decidable_of_iff (_ ∧ _ ∧ _)
    ⟨fun ⟨chained, sensed, subscribed⟩ => ⟨chained, sensed, subscribed⟩,
      fun straight => ⟨straight.chained, straight.sensed, straight.subscribed⟩⟩

namespace Straight

variable {path : LoopPath} {application : Application}
variable {actuators : SortedMap ActuatorId Actuator} {passages : List Passage} {edge : Edge}

theorem before (straight : path.Straight application actuators)
    (listed : edge ∈ application.edges) {front rest : List String}
    (split : path.members = front ++ edge.destination :: rest) :
    ∀ other ∈ front.getLast?, other = edge.source := by
  intro other last
  obtain ⟨earlier, rfl⟩ := List.getLast?_eq_some_iff.mp last
  have chained := straight.chained
  rw [split, List.append_assoc, List.singleton_append, List.isChain_append_cons_cons] at chained
  exact (chained.2.1 edge listed rfl).symm

theorem through (straight : path.Straight application actuators)
    (way : application.Way passages edge) : ∀ front rest,
    path.members = front ++ edge.source :: rest →
      Passage.Through (front ++ [edge.source]) passages := by
  induction way with
  | @sensor tupleType edge feeds =>
      intro front rest split
      have passed := List.find?_some feeds
      simp only [Bool.and_eq_true, beq_iff_eq] at passed
      obtain ⟨sensor, rfl⟩ := passed
      cases front with
      | nil => exact .cons (by simp [Passage.isAt]) .nil
      | cons first others =>
          refine absurd ?_ (straight.sensed edge (List.mem_of_find?_eq_some feeds) sensor)
          simp [split]
  | @onward passages earlier edge way leaves outward ih =>
      intro front rest split
      have source : edge.source = earlier.destination := by
        simpa using (List.mem_filter.mp leaves).2
      rw [source] at split ⊢
      exact Passage.through_onward split (straight.before way.listed split) ih
        (by simp [Passage.isAt])

theorem unavoidable (straight : path.Straight application actuators) (tupleType : String) :
    path.Unavoidable application actuators tupleType := by
  intro passages way _
  cases way with
  | @executed passages edge way closes =>
      obtain ⟨front, split⟩ := List.getLast?_eq_some_iff.mp (beq_iff_eq.mp closes)
      rw [split]
      exact Passage.through_onward split (straight.before way.listed split) (straight.through way)
        (by simp [Passage.isAt])
  | @delivered passages edge spec id actuator way known subscribed found closes =>
      obtain ⟨last, latest, here⟩ := (Option.any_eq_true _ _).mp closes
      obtain ⟨front, split⟩ := List.getLast?_eq_some_iff.mp latest
      have name : spec.name = edge.source := by simpa using List.find?_some known
      have closing : (actuators.get? id).any (·.closes path) = true := by simp [found, closes]
      have before := straight.subscribed spec (List.mem_of_find?_eq_some known) _ subscribed closing
      rw [split, List.dropLast_concat, name] at before
      rw [split]
      exact Passage.through_onward split before (straight.through way) here

end Straight
end LoopPath
end FogNetwork
