import FogNetwork.Proofs.Movements
import FogNetwork.Proofs.Trips

/-! What the samples of a loop were taken from. Only the ends of a loop and the root of a tuple are
looked at, so a sample tells of the whole path if there is no way around it. -/

namespace FogNetwork

/-- A turn, after the `early` ones, takes a tuple of a root through the last of some passages. The
tuple or those it descends from went through the others before. -/
inductive Turn.Passes (turn : Turn) (application : Application) (early : List Turn) :
    Nat → List Passage → Prop
  | emission {sensor : Sensor} {edge : Edge} (emits : turn.Emits application sensor edge) :
      Passes turn application early turn.before.simulation.context.timings.nextTuple
        [.emission sensor.tupleType]
  | execution {edge : Edge} {tuple : Tuple} {passages : List Passage}
      (lineage : Lineage application early edge tuple passages)
      (executed : tuple ∈ turn.before.orchestrator.executes turn.event.payload) :
      Passes turn application early tuple.root (passages ++ [.execution tuple.destination])
  | delivery {edge : Edge} {tuple : Tuple} {passages : List Passage} {id : ActuatorId}
      {actuator : Actuator} (lineage : Lineage application early edge tuple passages)
      (delivers : turn.event.payload = .delivery id tuple)
      (found : turn.before.orchestrator.actuators.get? id = some actuator) :
      Passes turn application early tuple.root (passages ++ [.delivery actuator.actuatorType])

namespace Turn.Passes

variable {turn : Turn} {application : Application} {early : List Turn} {root : Nat}
variable {passages : List Passage} {path : LoopPath}

theorem rooted (passes : turn.Passes application early root passages) :
    ∃ origin ∈ early ++ [turn], ∃ sensor edge, origin.Emits application sensor edge ∧
      origin.before.simulation.context.timings.nextTuple = root ∧
      passages.head? = some (.emission sensor.tupleType) := by
  cases passes with
  | @emission sensor edge emits => exact ⟨turn, by simp, sensor, edge, emits, rfl, rfl⟩
  | execution lineage | delivery lineage =>
      obtain ⟨origin, member, sensor, edge, emits, root, head⟩ := lineage.rooted
      exact ⟨origin, by simp [member], sensor, edge, emits, root, by simp [head]⟩

theorem way {actuators : SortedMap ActuatorId Actuator}
    (passes : turn.Passes application early root passages)
    (closes : passages.getLast?.any path.closesAt = true)
    (follows : turn.event.payload.Follows (some application))
    (kept : ∀ id, (turn.before.orchestrator.actuators.get? id).map (·.actuatorType) =
      (actuators.get? id).map (·.actuatorType)) : path.Way application actuators passages := by
  cases passes with
  | emission => cases closes
  | execution lineage =>
      rw [lineage.along.2.1] at closes ⊢
      exact .executed lineage.way (by simpa [LoopPath.closesAt] using closes)
  | @delivery edge tuple _ id actuator lineage delivers found =>
      have same := kept id
      rw [found, Option.map_some, eq_comm, Option.map_eq_some_iff] at same
      obtain ⟨own, held, type⟩ := same
      rw [delivers] at follows
      obtain ⟨source, _, carried⟩ := lineage.along
      rw [← type] at closes ⊢
      cases follows with
      | call calls => exact calls.elim
      | delivery holds _ _ _ known subscribed =>
          obtain ⟨⟩ := holds
          rw [source] at known
          rw [carried] at subscribed
          have closes : path.closesAt (.delivery own.actuatorType) = true := by simpa using closes
          exact .delivered lineage.way known subscribed held closes

theorem forall_passages {holds : Passage → Prop}
    (emissions : ∀ any ∈ early ++ [turn], ∀ sensor edge, any.Emits application sensor edge →
      holds (.emission sensor.tupleType))
    (executions : ∀ any ∈ early ++ [turn], ∀ parent ∈
      any.before.orchestrator.executes any.event.payload, holds (.execution parent.destination))
    (deliveries : ∀ id actuator, turn.before.orchestrator.actuators.get? id = some actuator →
      holds (.delivery actuator.actuatorType))
    (passes : turn.Passes application early root passages) :
    ∀ passage ∈ passages, holds passage := by
  have before {edge : Edge} {tuple : Tuple} {passages : List Passage}
      (lineage : Lineage application early edge tuple passages) :
      ∀ passage ∈ passages, holds passage :=
    lineage.forall_passages (fun turn member => emissions turn (by simp [member]))
      fun turn member => executions turn (by simp [member])
  intro passage member
  cases passes with
  | @emission sensor edge emits =>
      obtain rfl := List.mem_singleton.mp member
      exact emissions turn (by simp) sensor edge emits
  | execution lineage executed =>
      rcases List.mem_append.mp member with old | new
      · exact before lineage passage old
      · obtain rfl := List.mem_singleton.mp new
        exact executions turn (by simp) _ executed
  | delivery lineage _ found =>
      rcases List.mem_append.mp member with old | new
      · exact before lineage passage old
      · obtain rfl := List.mem_singleton.mp new
        exact deliveries _ _ found

end Turn.Passes

def Sometime (holds : List Turn → Turn → Prop) (turns : List Turn) : Prop :=
  ∃ early turn late, turns = early ++ turn :: late ∧ holds early turn

section

variable {holds : List Turn → Turn → Prop} {turns : List Turn} {turn : Turn}

theorem sometime_last (last : holds turns turn) : Sometime holds (turns ++ [turn]) :=
  ⟨turns, turn, [], rfl, last⟩

theorem Sometime.later (sometime : Sometime holds turns) (turn : Turn) :
    Sometime holds (turns ++ [turn]) := by
  obtain ⟨early, own, late, rfl, here⟩ := sometime
  exact ⟨early, own, late ++ [turn], by simp, here⟩

end

def Turn.Comes (turn : Turn) (application : Application) (early : List Turn)
    (chosen : LoopPath → Passage → Bool) (id : LoopId) (root : Nat) : Prop :=
  ∃ path ∈ application.loops, path.id = id ∧ ∃ passages,
    turn.Passes application early root passages ∧
      passages.getLast?.any (chosen path) = true

/-- What may happen to the timing of a loop in a turn. A root enters the loop if a tuple of that
root comes to its beginning, and leaves it if one comes to its end. -/
def Turn.Moves (turn : Turn) (application : Application) (early : List Turn) (id : LoopId) :
    List Trip → LoopTiming → LoopTiming → Prop :=
  LoopTiming.Moves turn.event.time (turn.Comes application early LoopPath.opensAt id)
    (turn.Comes application early LoopPath.closesAt id)

/-- In a turn the root of a trip leaves a loop, and the sample of this number is taken of it. -/
structure Turn.Samples (turn : Turn) (application : Application) (early : List Turn) (id : LoopId)
    (number : Nat) (trip : Trip) : Prop where
  time : turn.event.time = trip.left
  taken : ∃ first last timing deadline,
    turn.Moves application early id first (turn.before.loopTiming id) timing ∧
      timing.samples = number ∧ timing.members.get? trip.root = some trip.entered ∧
      turn.Moves application early id last (timing.leave trip.root trip.latency deadline)
        (turn.after.loopTiming id)

theorem Turn.Samples.between {turn : Turn} {application : Application} {early : List Turn}
    {id : LoopId} {number : Nat} {trip : Trip}
    (samples : turn.Samples application early id number trip) :
    (turn.before.loopTiming id).samples ≤ number ∧ number < (turn.after.loopTiming id).samples := by
  obtain ⟨first, last, timing, deadline, earlier, taken, _, later⟩ := samples.taken
  have before := earlier.samples
  have after := later.samples
  rw [LoopTiming.samples_leave] at after
  omega

namespace Scenario

variable {application : Application} {id : LoopId} {started scenario before after : Scenario}
variable {turns : List Turn} {event : Event} {begun reacted : Context}

def Entered (application : Application) (id : LoopId) (root : Nat) (time : Time)
    (turns : List Turn) : Prop :=
  Sometime (fun early turn => turn.event.time = time ∧
    turn.Comes application early LoopPath.opensAt id root) turns

def Sampled (application : Application) (id : LoopId) (number : Nat) (trip : Trip)
    (turns : List Turn) : Prop :=
  Sometime (fun early turn => turn.Samples application early id number trip ∧
    turn.Comes application early LoopPath.closesAt id trip.root ∧
    Entered application id trip.root trip.entered (early ++ [turn])) turns

structure Timed (application : Application) (id : LoopId) (turns : List Turn)
    (scenario : Scenario) : Prop where
  members : ∀ root entered, (scenario.loopTiming id).members.get? root = some entered →
    Entered application id root entered turns
  trips : ∃ trips : List Trip, (scenario.loopTiming id).latency = trips.foldl
      (fun average? trip => some (Average.extend average? trip.latency)) none ∧
    ∀ number trip, trips[number]? = some trip → Sampled application id number trip turns

theorem Orderly.moves (orderly : before.Orderly application)
    (traced : before.Traced application turns) (id : LoopId)
    (dispatches : before.simulation.Dispatches Orchestrator.handle before.orchestrator event
      after.simulation after.orchestrator begun reacted) :
    ∃ trips, Turn.Moves ⟨event, before, after⟩ application turns id trips (before.loopTiming id)
      (after.loopTiming id) := by
  have moves : begun.timings.Moves id begun.now
      (Turn.Comes ⟨event, before, after⟩ application turns LoopPath.opensAt id)
      (Turn.Comes ⟨event, before, after⟩ application turns LoopPath.closesAt id)
      reacted.timings := by
    refine dispatches.reaction.moves dispatches.begun_running orderly.held orderly.briefed.relays
      ?_ ?_ ?_
    · intro sensor edge emits path listed own begins
      rw [dispatches.begun_timings]
      exact ⟨path, listed, own, _, .emission (emits.turn dispatches), begins⟩
    · intro tuple executed path listed own
      obtain ⟨edge, passages, lineage⟩ := traced.executed executed
      have passes : Turn.Passes ⟨event, before, after⟩ application turns tuple.root _ :=
        .execution lineage executed
      constructor
      · exact fun begins =>
          ⟨path, listed, own, _, passes, by simpa [LoopPath.opensAt] using begins⟩
      · exact fun closes =>
          ⟨path, listed, own, _, passes, by simpa [LoopPath.closesAt] using closes⟩
    · intro actuator tuple target delivers found path listed own closes
      obtain ⟨edge, passages, lineage⟩ := traced.dispatched dispatches (by rw [delivers]; rfl)
      have passes : Turn.Passes ⟨event, before, after⟩ application turns tuple.root _ :=
        .delivery lineage delivers found
      have closes : path.closesAt (.delivery target.actuatorType) = true := closes
      exact ⟨path, listed, own, _, passes, by simpa using closes⟩
  rwa [dispatches.begun_timings, dispatches.begun_now, ← dispatches.after_timings] at moves

theorem Timed.turn (timed : before.Timed application id turns)
    (orderly : before.Orderly application) (traced : before.Traced application turns)
    (dispatches : before.simulation.Dispatches Orchestrator.handle before.orchestrator event
      after.simulation after.orchestrator begun reacted) :
    after.Timed application id (turns ++ [⟨event, before, after⟩]) := by
  obtain ⟨more, moves⟩ := orderly.moves traced id dispatches
  obtain ⟨trips, latency, sampled⟩ := timed.trips
  have entered (root : Nat) (time : Time)
      (inside : (before.loopTiming id).members.get? root = some time ∨ time = event.time ∧
        Turn.Comes ⟨event, before, after⟩ application turns LoopPath.opensAt id root) :
      Entered application id root time (turns ++ [⟨event, before, after⟩]) := by
    rcases inside with old | ⟨rfl, comes⟩
    · exact (timed.members root time old).later _
    · exact sometime_last ⟨rfl, comes⟩
  have counted := LoopTiming.samples_of_latency latency
  refine ⟨fun root time inside => entered root time (moves.members inside), trips ++ more, ?_, ?_⟩
  · rw [moves.latency, latency, List.foldl_append]
  · intro number trip numbered
    rcases Nat.lt_or_ge number trips.length with old | new
    · rw [List.getElem?_append_left old] at numbered
      exact (sampled number trip numbered).later _
    · rw [List.getElem?_append_right new] at numbered
      obtain ⟨time, comes, first, last, timing, deadline, earlier, taken, known, later⟩ :=
        moves.split numbered
      have taken : timing.samples = number := by omega
      have inside := entered trip.root trip.entered (earlier.members known)
      exact sometime_last
        ⟨⟨time.symm, first, last, timing, deadline, earlier, taken, known, later⟩, comes, inside⟩

theorem Reached.timed (orderly : started.Orderly application)
    (traced : started.Traced application [])
    (fresh : started.simulation.context.timings = .initial) (id : LoopId)
    (reached : started.Reached turns scenario) : scenario.Timed application id turns := by
  refine (reached.keeps (motive := fun turns scenario => scenario.Orderly application ∧
    scenario.Traced application turns ∧ scenario.Timed application id turns) ?_ ?_).2.2
  · have timing : started.loopTiming id = .initial := by
      rw [loopTiming, fresh]
      rfl
    refine ⟨orderly, traced, ?_, [], ?_, by simp⟩
    · rw [timing]
      intro root entered inside
      cases inside
    · rw [timing]
      rfl
  · rintro turns before event after begun reacted ⟨orderly, traced, timed⟩ dispatches
    exact ⟨orderly.turn dispatches, traced.turn orderly.held orderly.briefed.relays dispatches,
      timed.turn orderly traced dispatches⟩

theorem Reached.emits_once (application : Application) (reached : started.Reached turns scenario) :
    ∀ first ∈ turns, ∀ second ∈ turns, ∀ sensor edge other last,
      first.Emits application sensor edge → second.Emits application other last →
      first.before.simulation.context.timings.nextTuple =
        second.before.simulation.context.timings.nextTuple → sensor = other := by
  refine (reached.keeps (motive := fun turns scenario =>
    (∀ turn ∈ turns, ∀ sensor edge, turn.Emits application sensor edge →
      turn.before.simulation.context.timings.nextTuple <
        scenario.simulation.context.timings.nextTuple) ∧
    ∀ first ∈ turns, ∀ second ∈ turns, ∀ sensor edge other last,
      first.Emits application sensor edge → second.Emits application other last →
      first.before.simulation.context.timings.nextTuple =
        second.before.simulation.context.timings.nextTuple → sensor = other) ?_ ?_).2
  · exact ⟨by simp, by simp⟩
  rintro turns before event after begun reacted ⟨issued, once⟩ dispatches
  have later := dispatches.reaction.nextTuple_le dispatches.begun_running
  rw [dispatches.begun_timings, ← dispatches.after_timings] at later
  constructor
  · intro turn member sensor edge emits
    rcases List.mem_append.mp member with old | new
    · exact (issued turn old sensor edge emits).trans_le later
    · obtain rfl := List.mem_singleton.mp new
      exact emits.issued
  · intro first member second memberToo sensor edge other last emits emitsToo same
    rcases List.mem_append.mp member with old | new
    · rcases List.mem_append.mp memberToo with oldToo | newToo
      · exact once first old second oldToo sensor edge other last emits emitsToo same
      · obtain rfl := List.mem_singleton.mp newToo
        exact absurd same (issued first old sensor edge emits).ne
    · obtain rfl := List.mem_singleton.mp new
      rcases List.mem_append.mp memberToo with oldToo | newToo
      · exact absurd same (issued second oldToo other last emitsToo).ne'
      · obtain rfl := List.mem_singleton.mp newToo
        obtain ⟨id, transmits, found⟩ := emits.sender
        obtain ⟨again, transmitsToo, foundToo⟩ := emitsToo.sender
        obtain ⟨⟩ := transmits.symm.trans transmitsToo
        exact Option.some.inj (found.symm.trans foundToo)

theorem Reached.emission_of_root (reached : started.Reached turns scenario) {root : Nat}
    {passages : List Passage}
    (passed : Sometime (fun early turn => turn.Passes application early root passages) turns) :
    ∃ tupleType, ∀ others,
      Sometime (fun early turn => turn.Passes application early root others) turns →
        others.head? = some (.emission tupleType) := by
  have origin {passages : List Passage}
      (passed : Sometime (fun early turn => turn.Passes application early root passages) turns) :
      ∃ origin ∈ turns, ∃ sensor edge, origin.Emits application sensor edge ∧
        origin.before.simulation.context.timings.nextTuple = root ∧
        passages.head? = some (.emission sensor.tupleType) := by
    obtain ⟨early, turn, late, rfl, passes⟩ := passed
    obtain ⟨origin, member, shown⟩ := passes.rooted
    refine ⟨origin, ?_, shown⟩
    rcases List.mem_append.mp member with old | new
    · simp [old]
    · simp [List.mem_singleton.mp new]
  obtain ⟨first, member, sensor, edge, emits, own, _⟩ := origin passed
  refine ⟨sensor.tupleType, fun others passedToo => ?_⟩
  obtain ⟨second, memberToo, other, last, emitsToo, same, head⟩ := origin passedToo
  rw [reached.emits_once application first member second memberToo sensor edge other last emits
    emitsToo (own.trans same.symm)]
  exact head

/-- Every sample of a loop is taken of a root as it leaves the loop, in a turn in which a tuple of
that root comes to the end of the loop, and it is the time since the root entered. The passages of
that tuple begin with the emission of the root. They go through the whole loop if there is no other
way to its end. -/
theorem loops_traced {orchestrator : Orchestrator}
    (unused : orchestrator.devices.All Device.Unused)
    (held : orchestrator.application? = some application)
    (begun : (ofOrchestrator orchestrator).Begun started turns scenario) (id : LoopId) :
    ∃ trips : List Trip, trips.length = (scenario.loopTiming id).samples ∧
      (scenario.loopTiming id).latency = trips.foldl
        (fun average? trip => some (Average.extend average? trip.latency)) none ∧
      ∀ number trip, trips[number]? = some trip → ∃ tupleType,
        (∀ passages,
          Sometime (fun early turn => turn.Passes application early trip.root passages) turns →
            passages.head? = some (.emission tupleType)) ∧
        Sometime (fun early turn =>
          (turn.before.loopTiming id).samples ≤ number ∧
          number < (turn.after.loopTiming id).samples ∧
          turn.Samples application early id number trip ∧
          Entered application id trip.root trip.entered (early ++ [turn]) ∧
          ∃ path ∈ application.loops, path.id = id ∧ ∃ passages,
            turn.Passes application early trip.root passages ∧
              passages.getLast?.any path.closesAt = true ∧
              (path.Unavoidable application orchestrator.actuators tupleType →
                Passage.Through path.members passages)) turns := by
  obtain ⟨reached, asks, time, same⟩ := begun.cases
  have traced : started.Traced application [] := traced_start unused asks same
  have orderly := orderly_of_asks unused held asks same
  obtain ⟨_, trips, latency, sampled⟩ := reached.timed orderly traced asks.timings_eq id
  obtain ⟨_, _, follows⟩ := reached.briefed orderly.held orderly.briefed
  have kept := (reached.unchanged
    (fun orchestrator id => (orchestrator.actuators.get? id).map (·.actuatorType))
    (fun _ reaction => funext reaction.actuatorType_eq)).1
  rw [same] at kept
  have length := (LoopTiming.samples_of_latency latency).symm
  refine ⟨trips, length, latency, fun number trip numbered => ?_⟩
  obtain ⟨early, turn, late, rfl, samples, ⟨path, listed, own, passages, passes, closes⟩,
    entered⟩ := sampled number trip numbered
  have here : turn ∈ early ++ turn :: late := by simp
  obtain ⟨tupleType, first⟩ := reached.emission_of_root ⟨early, turn, late, rfl, passes⟩
  refine ⟨tupleType, first, early, turn, late, rfl, samples.between.1, samples.between.2, samples,
    entered, path, listed, own, passages, passes, closes, fun unavoidable => ?_⟩
  exact unavoidable passages (passes.way closes (follows turn here) (congrFun (kept turn here)))
    (first passages ⟨early, turn, late, rfl, passes⟩)

end Scenario

def Turn.avoids (name : String) (turn : Turn) : Bool :=
  turn.before.orchestrator.sensors.values.all (fun sensor => sensor.tupleType != name) &&
    (turn.before.orchestrator.executes turn.event.payload).all
      (fun tuple => tuple.destination != name) &&
    turn.before.orchestrator.actuators.values.all
      (fun actuator => !equalIgnoringCase actuator.actuatorType name)

theorem Turn.Passes.not_through {turn : Turn} {application : Application} {early : List Turn}
    {root : Nat} {passages : List Passage} {name : String} {names : List String}
    (avoid : ∀ any ∈ early ++ [turn], any.avoids name = true)
    (passes : turn.Passes application early root passages) (member : name ∈ names) :
    ¬Passage.Through names passages := by
  have none : ∀ passage ∈ passages, passage.isAt name = false := by
    simp only [avoids, Bool.and_eq_true, List.all_eq_true, bne_iff_ne, Bool.not_eq_true'] at avoid
    refine passes.forall_passages ?_ ?_ ?_
    · intro any member sensor edge emits
      obtain ⟨id, _, found⟩ := emits.sender
      exact beq_eq_false_iff_ne.mpr
        ((avoid any member).1.1 sensor (SortedMap.mem_values_of_get? found))
    · intro any member parent executed
      exact beq_eq_false_iff_ne.mpr ((avoid any member).1.2 parent executed)
    · intro id actuator found
      exact (avoid turn (by simp)).2 actuator (SortedMap.mem_values_of_get? found)
  intro through
  obtain ⟨passage, listed, here⟩ := through.isAt_of_mem member
  rw [none passage listed] at here
  cases here

namespace Demo

def step (source destination tupleType : String) : Edge :=
  { Edge.between source destination tupleType .module with cpuLength := 10 }

def controlApplication (shortcuts : List Edge) : Application :=
  { Application.named "control" with
    modules := [⟨"read", 10, []⟩, ⟨"check", 10, []⟩, ⟨"act", 10, []⟩]
    edges := .between "TICK" "read" "TICK" .sensor ::
      (shortcuts ++ [step "read" "check" "VALUE", step "check" "act" "ORDER"])
    loops := [⟨⟨0⟩, ["TICK", "read", "check", "act"], none⟩] }

def control (shortcuts : List Edge) : Blueprint :=
  { Blueprint.empty with
    config := ⟨60, 55⟩
    relays := [{ Relay.named ⟨0⟩ "node" with mips := 1 }]
    sensors := [(Sensor.named ⟨0⟩ "tick" "TICK" "control").every 20]
    mapped := some ⟨controlApplication shortcuts,
      ((Mapping.empty.add "node" "read").add "node" "check").add "node" "act", 0⟩ }

theorem control_unused (shortcuts : List Edge) : (control shortcuts).Unused := by
  constructor
  · exact nofun
  · intro relay member
    obtain rfl := List.mem_singleton.mp member
    exact ⟨rfl, rfl, rfl, rfl, rfl⟩

theorem control_straight : ∃ built application scenario,
    (control []).build.outcome = .ok (.ok built) ∧
      built.orchestrator.application? = some application ∧
      (∀ path ∈ application.loops, path.members = ["TICK", "read", "check", "act"] ∧
        path.Straight application built.orchestrator.actuators) ∧
      (Scenario.Call.performAll [.runSteps 17] built).outcome = .ok scenario ∧
      (scenario.loopTiming ⟨0⟩).samples = 1 := by
  have straight : ((control []).after? []).any (fun built =>
      built.orchestrator.application?.any fun application => application.loops.all fun path =>
        path.members == ["TICK", "read", "check", "act"] &&
          decide (path.Straight application built.orchestrator.actuators)) = true := by
    decide +kernel
  have sampled : ((control []).after? [.runSteps 17]).any (fun scenario =>
      (scenario.loopTiming ⟨0⟩).samples == 1) = true := by
    decide +kernel
  obtain ⟨scenario, left, samples⟩ := (Option.any_eq_true _ _).mp sampled
  obtain ⟨built, builds, performed⟩ := Blueprint.after?_eq_some left
  obtain ⟨other, unrun, straight⟩ := (Option.any_eq_true _ _).mp straight
  obtain ⟨_, buildsToo, same⟩ := Blueprint.after?_eq_some unrun
  cases same
  cases builds.symm.trans buildsToo
  obtain ⟨application, holds, straight⟩ := (Option.any_eq_true _ _).mp straight
  refine ⟨built, application, scenario, builds, holds, fun path listed => ?_, performed,
    eq_of_beq samples⟩
  obtain ⟨members, own⟩ := Bool.and_eq_true_iff.mp (List.all_eq_true.mp straight path listed)
  exact ⟨eq_of_beq members, of_decide_eq_true own⟩

end Demo

theorem Scenario.loops_traced_control : ∃ (built started scenario : Scenario) (turns : List Turn)
    (application : Application) (path : LoopPath) (trip : Trip),
    (Demo.control []).build.outcome = .ok (.ok built) ∧ built.Begun started turns scenario ∧
      built.orchestrator.application? = some application ∧ path ∈ application.loops ∧
      path.members = ["TICK", "read", "check", "act"] ∧
      (scenario.loopTiming path.id).samples = 1 ∧
      Sometime (fun early turn => turn.Samples application early path.id 0 trip ∧
        (turn.before.loopTiming path.id).samples = 0 ∧
        0 < (turn.after.loopTiming path.id).samples ∧ ∃ passages,
          turn.Passes application early trip.root passages ∧
            Passage.Through path.members passages) turns := by
  obtain ⟨built, application, scenario, builds, held, straight, performed, samples⟩ :=
    Demo.control_straight
  obtain ⟨started, turns, begun⟩ := Blueprint.begun_of_calls builds performed
  have here := begun
  rw [← Blueprint.build_eq builds] at here
  obtain ⟨trips, length, _, traced⟩ :=
    loops_traced ((Demo.control_unused []).of_build builds) held here ⟨0⟩
  rw [samples] at length
  obtain ⟨trip, rfl⟩ := List.length_eq_one_iff.mp length
  obtain ⟨tupleType, _, early, turn, late, split, before, after, sampled, _, path, listed, own,
    passages, passes, _, through⟩ := traced 0 trip rfl
  obtain ⟨members, direct⟩ := straight path listed
  rw [← own] at samples before after sampled
  exact ⟨built, started, scenario, turns, application, path, trip, builds, begun, held, listed,
    members, samples, early, turn, late, split, sampled, Nat.le_zero.mp before, after, passages,
    passes, through (direct.unavoidable tupleType)⟩

namespace Demo

theorem control_shortcut : ∃ built started application path turn,
    (control [step "read" "act" "HURRY"]).build.outcome = .ok (.ok built) ∧
      built.start.outcome = .ok (.ok (), started) ∧
      built.orchestrator.application? = some application ∧ path ∈ application.loops ∧
      path.members = ["TICK", "read", "check", "act"] ∧ turn ∈ started.firstTurns 15 ∧
      (turn.before.loopTiming path.id).samples = 0 ∧
      (turn.after.loopTiming path.id).samples = 1 ∧
      ∀ turn ∈ started.firstTurns 15, turn.avoids "check" = true := by
  have hurries : ((control [step "read" "act" "HURRY"]).after? []).any (fun built =>
      built.orchestrator.application?.any fun application => application.loops.any fun path =>
        path.members == ["TICK", "read", "check", "act"] && built.started?.any fun started =>
          (started.firstTurns 15).any (fun turn =>
            (turn.before.loopTiming path.id).samples == 0 &&
              (turn.after.loopTiming path.id).samples == 1) &&
            (started.firstTurns 15).all fun turn => turn.avoids "check") = true := by
    decide +kernel
  obtain ⟨scenario, left, hurries⟩ := (Option.any_eq_true _ _).mp hurries
  obtain ⟨built, builds, same⟩ := Blueprint.after?_eq_some left
  obtain rfl : built = scenario := by cases same; rfl
  obtain ⟨application, holds, hurries⟩ := (Option.any_eq_true _ _).mp hurries
  obtain ⟨path, listed, hurries⟩ := List.any_eq_true.mp hurries
  obtain ⟨members, hurries⟩ := Bool.and_eq_true_iff.mp hurries
  obtain ⟨started, begins, hurries⟩ := (Option.any_eq_true _ _).mp hurries
  obtain ⟨samples, avoids⟩ := Bool.and_eq_true_iff.mp hurries
  obtain ⟨turn, member, samples⟩ := List.any_eq_true.mp samples
  obtain ⟨none, one⟩ := Bool.and_eq_true_iff.mp samples
  exact ⟨built, started, application, path, turn, builds, Scenario.started?_eq_some begins, holds,
    listed, eq_of_beq members, member, eq_of_beq none, eq_of_beq one, List.all_eq_true.mp avoids⟩

/-- A sample is taken though nothing has been checked. -/
theorem control_unchecked : ∃ built started ended application path turn,
    (control [step "read" "act" "HURRY"]).build.outcome = .ok (.ok built) ∧
      built.Begun started (started.firstTurns 15) ended ∧
      built.orchestrator.application? = some application ∧ path ∈ application.loops ∧
      path.members = ["TICK", "read", "check", "act"] ∧ turn ∈ started.firstTurns 15 ∧
      (turn.before.loopTiming path.id).samples = 0 ∧
      (turn.after.loopTiming path.id).samples = 1 ∧
      ∀ root passages, Sometime (fun early turn =>
        turn.Passes application early root passages) (started.firstTurns 15) →
          ¬Passage.Through path.members passages := by
  obtain ⟨built, started, application, path, turn, builds, begins, held, listed, members, member,
    none, one, avoids⟩ := control_shortcut
  obtain ⟨ended, reached⟩ := started.reached_firstTurns 15
  refine ⟨built, started, ended, application, path, turn, builds, .inr ⟨begins, reached⟩, held,
    listed, members, member, none, one, ?_⟩
  rintro root passages ⟨early, last, late, split, passes⟩
  have inner : "check" ∈ path.members := by simp [members]
  refine passes.not_through (fun any own => avoids any ?_) inner
  rw [split]
  rcases List.mem_append.mp own with before | here
  · simp [before]
  · simp [List.mem_singleton.mp here]

end Demo
end FogNetwork
