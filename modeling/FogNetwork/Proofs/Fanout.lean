import FogNetwork.Proofs.Chronicle
import FogNetwork.Proofs.Deeds
import FogNetwork.Proofs.Subscriptions
import Mathlib.Algebra.Order.BigOperators.Group.List
import Mathlib.Algebra.Order.Group.Nat
import Mathlib.Data.List.Flatten
import Mathlib.Data.List.Pairwise

/-! What one execution has delivered to actuators, and when that is what its edges call for. -/

namespace FogNetwork

def Payload.delivery? : Payload → Option (ActuatorId × Tuple)
  | .delivery actuator tuple => some (actuator, { tuple with id := 0 })
  | _ => none

theorem Payload.delivery?_eq_some {payload : Payload} {delivery : ActuatorId × Tuple}
    (found : payload.delivery? = some delivery) :
    ∃ tuple, payload = .delivery delivery.1 tuple ∧ delivery.2 = { tuple with id := 0 } := by
  cases payload with
  | delivery actuator tuple =>
      cases found
      exact ⟨tuple, rfl, rfl⟩
  | _ => cases found

def Context.deliveries (context : Context) : List (ActuatorId × Tuple) :=
  context.agenda.pending.filterMap (·.payload.delivery?)

theorem Context.Enters.deliveries {before after : Context} {event : Event}
    (enters : before.Enters event after) :
    after.deliveries.Perm (event.payload.delivery?.toList ++ before.deliveries) := by
  refine (enters.pending.filterMap (·.payload.delivery?)).trans (.of_eq ?_)
  rw [List.filterMap_cons]
  unfold Context.deliveries
  cases event.payload.delivery? <;> rfl

namespace Relay

def deliveriesAlong (relay : Relay) (parent : Tuple) (edge : Edge) : List (ActuatorId × Tuple) :=
  if edge.kind = .actuator then
    (relay.targets parent.destination edge.tupleType).map (·, Tuple.derived 0 parent edge)
  else []

theorem deliveriesAlong_eq_of_setup {relay next : Relay} (same : next.setup = relay.setup) :
    next.deliveriesAlong = relay.deliveriesAlong := by
  have alike : next.setup.deliveriesAlong = relay.setup.deliveriesAlong := by rw [same]
  exact alike

variable {relay next : Relay} {before after : Context} {tuple parent : Tuple} {edge : Edge}

theorem accept_deliveries (running : before.halted = false)
    (ended : (relay.accept tuple).Ends before next after) :
    after.deliveries.Perm before.deliveries := by
  rcases accept_cases running ended with ⟨_, _, rfl⟩ |
    ⟨_, ⟨_, _, _, _, _, _, enters, _⟩ | ⟨_, _, rfl⟩⟩
  · exact .rfl
  · exact enters.deliveries
  · exact .rfl

theorem deliver_deliveries {actuator : ActuatorId} {done : Unit} (running : before.halted = false)
    (ended : (relay.deliver parent edge actuator).Ends before done after) :
    after.deliveries.Perm ((actuator, Tuple.derived 0 parent edge) :: before.deliveries) ∧
      after.halted = false := by
  obtain ⟨_, _, _, _, enters⟩ := deliver_ends running ended
  exact ⟨enters.deliveries, enters.halted.trans running⟩

theorem emitAlong_deliveries (running : before.halted = false)
    (ended : (relay.emitAlong parent edge).Ends before next after) :
    after.deliveries.Perm (relay.deliveriesAlong parent edge ++ before.deliveries) := by
  unfold emitAlong at ended
  split at ended
  next kind =>
    obtain ⟨rfl, rfl⟩ := Act.ends_pure_iff.mp ended
    simp [deliveriesAlong, kind]
  next kind =>
    simp only [Act.ends_bind_iff, Act.ends_withTimings_iff, Act.ends_changeUsage_iff] at ended
    obtain ⟨_, _, ⟨rfl, rfl⟩, _, _, rfl, accepted⟩ := ended
    have none : relay.deliveriesAlong parent edge = [] := by simp [deliveriesAlong, kind]
    rw [none]
    have placed := accept_deliveries (by exact running) accepted
    exact placed
  next kind =>
    simp only [Act.ends_bind_iff, Act.ends_pure_iff] at ended
    obtain ⟨_, _, delivered, rfl, rfl⟩ := ended
    rw [deliveriesAlong, if_pos kind]
    -- Along the way, what is delivered and what is still to be delivered make up the whole.
    have whole := (Act.forM_keeps (motive := fun targets between => between.halted = false ∧
      (targets.map (·, Tuple.derived 0 parent edge) ++ between.deliveries).Perm
        ((next.targets parent.destination edge.tupleType).map (·, Tuple.derived 0 parent edge) ++
          before.deliveries)) ?_ ⟨running, .rfl⟩ delivered).2
    · exact whole
    intro actuator rest between later _ ⟨still, whole⟩ delivered
    obtain ⟨more, goesOn⟩ := deliver_deliveries still delivered
    refine ⟨goesOn, (more.append_left _).trans (List.perm_middle.trans ?_)⟩
    exact whole

theorem execute_ends {application : Application} (known : relay.application = some application)
    (ended : (relay.execute tuple).Ends before next after) :
    ∃ timings working, working.setup = relay.setup ∧
      ((application.edgesFrom tuple.destination).foldlM (emitAlong tuple) working).Ends
        { before with timings := timings, usage := before.usage.countProcessed tuple.destination }
        next after := by
  simp only [execute, Act.ends_bind_iff, Act.ends_endExecution_iff,
    Act.ends_changeUsage_iff] at ended
  obtain ⟨_, _, ⟨rfl, rfl⟩, _, _, rfl, ended⟩ := ended
  split at ended
  next unknown =>
    rw [show relay.application = none from unknown] at known
    cases known
  next other same =>
    obtain rfl : other = application := Option.some.inj (same.symm.trans known)
    simp only [Act.ends_bind_iff, Act.ends_now_iff, Act.ends_changeTimings_iff] at ended
    obtain ⟨_, _, ⟨rfl, rfl⟩, _, _, rfl, emitted⟩ := ended
    refine ⟨_, _, ?_, emitted⟩
    rfl

theorem emissions_keep {application : Application} {edges : List Edge}
    {motive : List Edge → Context → Prop} (running : before.halted = false)
    (known : relay.application = some application)
    (leave : ∀ edge ∈ edges, edge ∈ application.edgesFrom tuple.destination)
    (step : ∀ edge rest between later, ∀ working next : Relay, between.halted = false →
      working.setup = relay.setup → motive (edge :: rest) between →
      (working.emitAlong tuple edge).Ends between next later → motive rest later)
    (begun : motive edges before)
    (emitted : (edges.foldlM (emitAlong tuple) relay).Ends before next after) :
    motive [] after := by
  refine (Act.foldlM_keeps (motive := fun edges between (working : Relay) =>
    (∀ edge ∈ edges, edge ∈ application.edgesFrom tuple.destination) ∧
      between.halted = false ∧ working.setup = relay.setup ∧ motive edges between)
    ?_ ⟨leave, running, rfl, begun⟩ emitted).2.2.2
  rintro edge rest between working later next ⟨leave, still, setup, so_far⟩ emitted
  have knows : working.application = some application :=
    (congrArg Relay.application setup).trans known
  have deeds : Deeds ⟨between, working, [], [], [tuple]⟩ ⟨later, next, [], [], [tuple]⟩ :=
    emitAlong_deeds still (by simp) knows (leave edge (by simp)) emitted
  obtain ⟨halted, kept⟩ := deeds.keeps
  exact ⟨fun other member => leave other (by simp [member]), halted.trans still,
    kept.trans setup, step edge rest between later working next still setup so_far emitted⟩

theorem execute_deliveries {application : Application} (running : before.halted = false)
    (known : relay.application = some application)
    (ended : (relay.execute tuple).Ends before next after) :
    after.deliveries.Perm
      ((application.edgesFrom tuple.destination).flatMap (relay.deliveriesAlong tuple) ++
        before.deliveries) := by
  obtain ⟨timings, working, setup, emitted⟩ := execute_ends known ended
  have knows : working.application = some application :=
    (congrArg Relay.application setup).trans known
  rw [← deliveriesAlong_eq_of_setup setup]
  -- What was delivered along some edges and what is still to be delivered make up the whole.
  refine emissions_keep (motive := fun edges between =>
    (edges.flatMap (working.deliveriesAlong tuple) ++ between.deliveries).Perm
      ((application.edgesFrom tuple.destination).flatMap (working.deliveriesAlong tuple) ++
        before.deliveries)) (by exact running) knows (fun _ member => member) ?_ (by exact .rfl)
    emitted
  intro edge rest between later emitter next still same whole emitted
  have more := emitAlong_deliveries still emitted
  rw [deliveriesAlong_eq_of_setup same] at more
  refine (more.append_left _).trans ?_
  rw [← List.append_assoc]
  refine (List.perm_append_comm.append_right _).trans ?_
  rwa [List.flatMap_cons] at whole

theorem execute_schedules {application : Application} (running : before.halted = false)
    (known : relay.application = some application)
    (ended : (relay.execute tuple).Ends before next after) :
    ((after.agenda.since before.agenda).filterMap (·.payload.delivery?)).Perm
      ((application.edgesFrom tuple.destination).flatMap (relay.deliveriesAlong tuple)) := by
  obtain ⟨entered, advances⟩ := (execute_expressible relay tuple).advances ended
  have deliveries := execute_deliveries running known ended
  have pending := advances.pending.filterMap (·.payload.delivery?)
  rw [List.filterMap_append] at pending
  refine ((Chronicle.since_perm advances).filterMap _).trans ?_
  rw [← List.perm_append_left_iff before.deliveries]
  exact pending.symm.trans (deliveries.trans List.perm_append_comm)

end Relay

namespace Orchestrator

section Edges

variable {edges : List Edge} {matched : Edge → List ActuatorId}

def alike (edges : List Edge) (edge : Edge) : List Edge :=
  edges.filter (·.tupleType == edge.tupleType)

/-- No two edges carry the same type of tuples, unless neither of them has a match. -/
def Apart (matched : Edge → List ActuatorId) (edges : List Edge) : Prop :=
  edges.Pairwise fun first second =>
    first.tupleType = second.tupleType → matched first = [] ∧ matched second = []

theorem Apart.flatMap_alike (apart : Apart matched edges) {edge : Edge} (member : edge ∈ edges) :
    (alike edges edge).flatMap matched = matched edge := by
  obtain ⟨front, back, rfl⟩ := List.append_of_mem member
  obtain ⟨_, later, earlier⟩ := List.pairwise_append.mp apart
  have before : (front.filter (·.tupleType == edge.tupleType)).flatMap matched = [] := by
    rw [List.flatMap_eq_nil_iff]
    intro other listed
    obtain ⟨listed, same⟩ := List.mem_filter.mp listed
    exact (earlier other listed edge (by simp) (by simpa using same)).1
  have after : (back.filter (·.tupleType == edge.tupleType)).flatMap matched = [] := by
    rw [List.flatMap_eq_nil_iff]
    intro other listed
    obtain ⟨listed, same⟩ := List.mem_filter.mp listed
    have alike : other.tupleType = edge.tupleType := by simpa using same
    exact ((List.pairwise_cons.mp later).1 other listed alike.symm).2
  simp [alike, before, after]

theorem Apart.eq_of_match (apart : Apart matched edges) {first second : Edge}
    (mine : first ∈ edges) (other : second ∈ edges) (same : first.tupleType = second.tupleType)
    {actuator : ActuatorId} (serves : actuator ∈ matched second) : first = second := by
  by_contra differs
  have symmetric : Std.Symm fun first second : Edge =>
      first.tupleType = second.tupleType → matched first = [] ∧ matched second = [] :=
    ⟨fun _ _ related same => (related same.symm).symm⟩
  have none := (apart.forall mine other differs same).2
  rw [none] at serves
  cases serves

theorem length_alike_ge {first second : Edge} (inOrder : [first, second].Sublist edges)
    (same : first.tupleType = second.tupleType) :
    (matched first).length + (matched second).length ≤
      ((alike edges first).flatMap matched).length := by
  have kept := (inOrder.filter (·.tupleType == first.tupleType)).flatMap matched
  have both : [first, second].filter (·.tupleType == first.tupleType) = [first, second] := by
    simp [same]
  rw [both] at kept
  simpa [alike] using kept.length_le

theorem apart_of_length_alike (lengths : ∀ edge ∈ edges,
      ((alike edges edge).flatMap matched).length = (matched edge).length) :
    Apart matched edges := by
  refine List.pairwise_iff_forall_sublist.mpr fun {first second} inOrder same => ?_
  have pair : (matched first).length + (matched second).length ≤ _ :=
    length_alike_ge inOrder same
  have atFirst := lengths first (inOrder.subset (by simp))
  have atSecond := lengths second (inOrder.subset (by simp))
  have shared : alike edges second = alike edges first := by simp [alike, same]
  rw [shared] at atSecond
  rw [← List.length_eq_zero_iff, ← List.length_eq_zero_iff]
  omega

theorem length_le_alike {edge : Edge} (member : edge ∈ edges) :
    (matched edge).length ≤ ((alike edges edge).flatMap matched).length := by
  have own : edge ∈ alike edges edge := List.mem_filter.mpr ⟨member, by simp⟩
  obtain ⟨front, back, split⟩ := List.append_of_mem own
  rw [split]
  simp only [List.flatMap_append, List.flatMap_cons, List.length_append]
  omega

/-- One delivery for each match of an edge of the same type is one for each match of the edge
itself if the edges are apart, and only then. -/
theorem flatMap_alike_perm_iff {δ : Type} (deliver : Edge → ActuatorId → δ) :
    (edges.flatMap fun edge => ((alike edges edge).flatMap matched).map (deliver edge)).Perm
        (edges.flatMap fun edge => (matched edge).map (deliver edge)) ↔
      Apart matched edges := by
  constructor
  -- No edge has fewer deliveries than matches, so if the totals agree no edge has more.
  · intro same
    apply apart_of_length_alike
    have total := same.length_eq
    rw [List.length_flatMap, List.length_flatMap] at total
    simp only [List.length_map] at total
    have least : ∀ edge ∈ edges,
        (matched edge).length ≤ ((alike edges edge).flatMap matched).length :=
      fun edge member => length_le_alike member
    intro edge member
    by_contra uneven
    have less := List.sum_lt_sum _ _ least
      ⟨edge, member, (least edge member).lt_of_ne (Ne.symm uneven)⟩
    omega
  · intro apart
    refine .of_eq (List.flatMap_congr fun edge member => ?_)
    rw [apart.flatMap_alike member]

end Edges

variable (actuators : SortedMap ActuatorId Actuator)

/-- What the actuator edges of a module call for when it has executed `parent`: along each edge,
one delivery to every actuator that matches the end of the edge. -/
def deliveriesDue (application : Application) (parent : Tuple) : List (ActuatorId × Tuple) :=
  (application.actuatorEdges parent.destination).flatMap fun edge =>
    (matching actuators edge.destination).map (·, Tuple.derived 0 parent edge)

/-- What is delivered: along each actuator edge, one delivery for every match of every actuator
edge of the module that carries the same type of tuples. -/
def deliveriesMade (application : Application) (parent : Tuple) : List (ActuatorId × Tuple) :=
  let edges := application.actuatorEdges parent.destination
  edges.flatMap fun edge =>
    ((alike edges edge).flatMap (matching actuators ·.destination)).map
      (·, Tuple.derived 0 parent edge)

/-- The matched actuator edges out of a module carry different types of tuples. -/
def Separate (application : Application) (name : String) : Prop :=
  Apart (matching actuators ·.destination) (application.actuatorEdges name)

theorem deliveriesMade_perm_iff (application : Application) (parent : Tuple) :
    (deliveriesMade actuators application parent).Perm
        (deliveriesDue actuators application parent) ↔
      Separate actuators application parent.destination :=
  flatMap_alike_perm_iff fun edge actuator => (actuator, Tuple.derived 0 parent edge)

theorem subscriptionsFor_targets (edges : List Edge) (tupleType : String) :
    ((subscriptionsFor actuators edges).filter (·.tupleType == tupleType)).map (·.actuator) =
      (edges.filter (·.tupleType == tupleType)).flatMap (matching actuators ·.destination) := by
  induction edges with
  | nil => rfl
  | cons edge rest ih =>
      rw [← List.singleton_append, subscriptionsFor_append, List.filter_append, List.map_append,
        List.filter_append, List.flatMap_append]
      congr 1
      by_cases same : edge.tupleType = tupleType
      · simp [subscriptionsFor, same, List.filter_map, Function.comp_def]
      · simp [subscriptionsFor, same]

theorem deliveriesAlong_eq_deliveriesMade {relay : Relay} {application : Application}
    {parent : Tuple} {spec : ModuleSpec}
    (hosted : relay.hosted.get? parent.destination = some spec)
    (subscribed : spec.subscriptions =
      subscriptionsFor actuators (application.actuatorEdges parent.destination)) :
    (application.edgesFrom parent.destination).flatMap (relay.deliveriesAlong parent) =
      deliveriesMade actuators application parent := by
  have targets (tupleType : String) : relay.targets parent.destination tupleType =
      ((application.actuatorEdges parent.destination).filter (·.tupleType == tupleType)).flatMap
        (matching actuators ·.destination) := by
    rw [Relay.targets, hosted, ← subscriptionsFor_targets, ← subscribed]
  have outward (edges : List Edge) : edges.flatMap (relay.deliveriesAlong parent) =
      (edges.filter (·.kind == .actuator)).flatMap fun edge =>
        (relay.targets parent.destination edge.tupleType).map
          (·, Tuple.derived 0 parent edge) := by
    induction edges with
    | nil => rfl
    | cons edge rest ih =>
        rw [List.flatMap_cons, ih]
        by_cases kind : edge.kind = .actuator
        · simp [Relay.deliveriesAlong, kind]
        · simp [Relay.deliveriesAlong, kind]
  rw [outward]
  simp only [targets]
  rfl

end Orchestrator
end FogNetwork
