import FogNetwork.Proofs.Lineage
import FogNetwork.Proofs.Loops

/-! What an event does to the timing of any loop: which roots may enter the loop meanwhile, and
which may leave it. -/

namespace FogNetwork

namespace LoopTiming

variable {now : Time} {enters leaves : Nat → Prop} {first last trips : List Trip}
variable {before middle after : LoopTiming}

def leave (root : Nat) (latency : Float) (deadline : Option Float) (timing : LoopTiming) :
    LoopTiming :=
  { timing with members := timing.members.erase root }.record latency deadline

/-- From one timing of a loop to another while, `now`, some roots may enter it and some leave it. -/
inductive Moves (now : Time) (enters leaves : Nat → Prop) :
    List Trip → LoopTiming → LoopTiming → Prop
  | refl (timing : LoopTiming) : Moves now enters leaves [] timing timing
  | enter {trips : List Trip} {before after : LoopTiming} {root : Nat} (may : enters root)
      (rest : Moves now enters leaves trips (before.enter root now) after) :
      Moves now enters leaves trips before after
  | leave {trips : List Trip} {before after : LoopTiming} {root : Nat} {entered : Time}
      (deadline : Option Float) (known : before.members.get? root = some entered)
      (may : leaves root)
      (rest : Moves now enters leaves trips
        (before.leave root (entered.elapsed now) deadline) after) :
      Moves now enters leaves (⟨root, entered, now⟩ :: trips) before after

theorem Moves.trans (early : Moves now enters leaves first before middle)
    (late : Moves now enters leaves last middle after) :
    Moves now enters leaves (first ++ last) before after := by
  induction early with
  | refl => exact late
  | enter may _ ih => exact .enter may (ih late)
  | leave deadline known may _ ih => exact .leave deadline known may (ih late)

theorem members_enter {root other : Nat} {entered : Time}
    (inside : (before.enter root now).members.get? other = some entered) :
    before.members.get? other = some entered ∨ entered = now ∧ other = root := by
  unfold enter at inside
  split at inside
  · exact .inl inside
  · rw [SortedMap.get?_insert] at inside
    split at inside
    next same =>
      cases inside
      exact .inr ⟨rfl, same⟩
    · exact .inl inside

theorem members_leave {root other : Nat} {entered : Time} {latency : Float}
    {deadline : Option Float}
    (inside : (before.leave root latency deadline).members.get? other = some entered) :
    before.members.get? other = some entered := by
  simp only [leave, record, SortedMap.get?_erase] at inside
  split at inside
  · cases inside
  · exact inside

theorem Moves.members (moves : Moves now enters leaves trips before after) {root : Nat}
    {entered : Time} (inside : after.members.get? root = some entered) :
    before.members.get? root = some entered ∨ entered = now ∧ enters root := by
  induction moves with
  | refl => exact .inl inside
  | enter may _ ih =>
      rcases ih inside with old | new
      · rcases members_enter old with older | ⟨time, rfl⟩
        · exact .inl older
        · exact .inr ⟨time, may⟩
      · exact .inr new
  | leave _ _ _ _ ih =>
      rcases ih inside with old | new
      · exact .inl (members_leave old)
      · exact .inr new

theorem latency_enter (root : Nat) (timing : LoopTiming) :
    (timing.enter root now).latency = timing.latency := by
  unfold enter
  split <;> rfl

theorem samples_enter (root : Nat) (timing : LoopTiming) :
    (timing.enter root now).samples = timing.samples := by
  rw [samples, latency_enter, samples]

theorem Moves.latency (moves : Moves now enters leaves trips before after) :
    after.latency = trips.foldl
      (fun average? trip => some (Average.extend average? trip.latency)) before.latency := by
  induction moves with
  | refl => rfl
  | enter _ _ ih => rw [ih, latency_enter]
  | leave _ _ _ _ ih => exact ih

theorem Moves.samples (moves : Moves now enters leaves trips before after) :
    after.samples = before.samples + trips.length := by
  rw [LoopTiming.samples, moves.latency, Average.count_foldl_extend]
  rfl

theorem samples_leave (root : Nat) (latency : Float) (deadline : Option Float)
    (timing : LoopTiming) :
    (timing.leave root latency deadline).samples = timing.samples + 1 := by
  rw [samples, samples]
  cases held : timing.latency <;> simp [leave, record, held, Average.extend, Average.ofSample,
    Average.push]

theorem Moves.split {number : Nat} {trip : Trip}
    (moves : Moves now enters leaves trips before after) (made : trips[number]? = some trip) :
    trip.left = now ∧ leaves trip.root ∧ ∃ first last timing deadline,
      Moves now enters leaves first before timing ∧ timing.samples = before.samples + number ∧
        timing.members.get? trip.root = some trip.entered ∧
        Moves now enters leaves last (timing.leave trip.root trip.latency deadline) after := by
  induction moves generalizing number with
  | refl => cases made
  | @enter _ before _ root may _ ih =>
      obtain ⟨left, leaves, first, last, timing, deadline, earlier, counted, known, later⟩ := ih made
      rw [samples_enter] at counted
      exact ⟨left, leaves, first, last, timing, deadline, .enter may earlier, counted, known, later⟩
  | @leave _ before _ _ _ deadline known may rest ih =>
      cases number with
      | zero =>
          cases made
          exact ⟨rfl, may, [], _, before, deadline, .refl before, rfl, known, rest⟩
      | succ number =>
          obtain ⟨left, leaves, first, last, timing, due, earlier, counted, inside, later⟩ := ih made
          rw [samples_leave] at counted
          exact ⟨left, leaves, _, last, timing, due, .leave deadline known may earlier, by omega,
            inside, later⟩

end LoopTiming

/-- Where a module is passed on behalf of a root, the root may enter or leave a loop that begins or
ends there. -/
structure LoopPath.Lets (enters leaves : Nat → Prop) (path : LoopPath) (name : String)
    (root : Nat) : Prop where
  begins : path.startsWith name = true → enters root
  closes : path.endsWith name = true → leaves root

namespace Timings

variable {id : LoopId} {paths : List LoopPath} {now : Time} {enters leaves : Nat → Prop}
variable {before middle after : Timings}

def Moves (id : LoopId) (now : Time) (enters leaves : Nat → Prop) (before after : Timings) :
    Prop :=
  ∃ trips, LoopTiming.Moves now enters leaves trips (before.loopTiming id) (after.loopTiming id)

theorem moves_of_same (same : after.loopTiming id = before.loopTiming id) :
    before.Moves id now enters leaves after := by
  refine ⟨[], ?_⟩
  rw [same]
  exact .refl _

theorem Moves.refl (timings : Timings) : timings.Moves id now enters leaves timings :=
  moves_of_same rfl

theorem Moves.trans (early : before.Moves id now enters leaves middle)
    (late : middle.Moves id now enters leaves after) : before.Moves id now enters leaves after := by
  obtain ⟨first, moved⟩ := early
  obtain ⟨last, movedLater⟩ := late
  exact ⟨first ++ last, moved.trans movedLater⟩

theorem foldl_moves {ι : Type} {step : Timings → ι → Timings} {items : List ι}
    (each : ∀ item ∈ items, ∀ timings, Moves id now enters leaves timings (step timings item))
    (timings : Timings) : Moves id now enters leaves timings (items.foldl step timings) := by
  refine List.foldlRecOn items step (motive := Moves id now enters leaves timings)
    (.refl timings) ?_
  exact fun between earlier item member => earlier.trans (each item member between)

theorem completeLoop_moves {other : LoopId} {root : Nat} (may : other = id → leaves root)
    (deadline : Option Float) (timings : Timings) :
    timings.Moves id now enters leaves (timings.completeLoop other root now deadline).2 := by
  unfold completeLoop
  split
  · exact .refl timings
  next entered known =>
    unfold Moves
    rw [loopTiming_changeLoop]
    split
    next same =>
      rw [same]
      exact ⟨_, .leave deadline known (may same.symm) (.refl _)⟩
    · exact ⟨[], .refl _⟩

theorem enterLoop_moves {other : LoopId} {root : Nat} (may : other = id → enters root)
    (timings : Timings) :
    timings.Moves id now enters leaves (timings.enterLoop other root now) := by
  unfold Moves
  rw [loopTiming_enterLoop]
  split
  next same =>
    rw [same]
    exact ⟨[], .enter (may same.symm) (.refl _)⟩
  · exact ⟨[], .refl _⟩

theorem passModule_moves {name : String} {root : Nat}
    (lets : ∀ path ∈ paths, path.id = id → path.Lets enters leaves name root) (timings : Timings) :
    timings.Moves id now enters leaves (timings.passModule name root now paths) := by
  refine foldl_moves (fun path member timings => ?_) timings
  have completed : timings.Moves id now enters leaves (if path.endsWith name then
      (timings.completeLoop path.id root now path.deadline).2 else timings) := by
    split
    next closes =>
      exact completeLoop_moves (fun same => (lets path member same).closes closes) _ timings
    · exact .refl timings
  refine completed.trans ?_
  generalize (if path.endsWith name then
    (timings.completeLoop path.id root now path.deadline).2 else timings) = between
  dsimp only
  split
  next begins => exact enterLoop_moves (fun same => (lets path member same).begins begins) _
  · exact .refl _

theorem enterLoops_moves {tupleType : String} {root : Nat}
    (begins : ∀ path ∈ paths, path.id = id → path.startsWith tupleType = true → enters root)
    (timings : Timings) :
    timings.Moves id now enters leaves (timings.enterLoops tupleType root now paths) := by
  refine foldl_moves (fun path member timings => enterLoop_moves (fun same => ?_) timings) timings
  obtain ⟨listed, starts⟩ := List.mem_filter.mp member
  exact begins path listed same starts

end Timings

namespace Relay

variable {before after : Bench} {application : Application} {id : LoopId}
variable {enters leaves : Nat → Prop}

theorem Deed.moves (deed : Deed before after) (runs : before.relay.Runs (some application))
    (lets : ∀ tuple ∈ after.done, ∀ path ∈ application.loops, path.id = id →
      path.Lets enters leaves tuple.destination tuple.root) :
    before.context.timings.Moves id before.context.now enters leaves after.context.timings := by
  cases deed with
  | forward _ _ _ _ _ sent =>
      rw [sent.timings]
      exact .refl _
  | deliver _ _ _ _ _ _ _ _ sent =>
      rw [sent.timings]
      exact .refl _
  | rearm _ _ asked =>
      rw [asked.timings]
      exact .refl _
  | execute =>
      refine Timings.moves_of_same ?_
      dsimp only
      rw [(Timings.endExecution_keeps _ _ _ _).2]
  | @pass tuple other executed known =>
      obtain ⟨⟩ := runs.application other known
      exact Timings.passModule_moves (lets tuple executed) _
  | queue | park | derive | take | charge => exact Timings.moves_of_same rfl

theorem Deeds.moves (deeds : Deeds before after) (runs : before.relay.Runs (some application))
    (lets : ∀ tuple ∈ after.done, ∀ path ∈ application.loops, path.id = id →
      path.Lets enters leaves tuple.destination tuple.root) :
    before.context.timings.Moves id before.context.now enters leaves after.context.timings := by
  induction deeds with
  | refl => exact .refl _
  | tail earlier deed ih =>
      have kept : Deeds before _ := earlier
      have step := deed.moves (runs.of_setup kept.keeps.2) lets
      rw [kept.now_eq] at step
      exact (ih fun tuple executed => lets tuple (deed.done_subset executed)).trans step

end Relay

theorem Device.Reaction.moves {application : Application} {id : LoopId}
    {enters leaves : Nat → Prop} {begun reacted : Context} {device next : Device}
    {event : DeviceEvent} (reaction : Device.Reaction begun device event next reacted)
    (runs : ∀ relay, device = .relay relay → relay.Runs (some application))
    (lets : ∀ relay, device = .relay relay → event = .manageResources →
      ∀ tuple ∈ (round relay.budget relay.north).1, ∀ path ∈ application.loops, path.id = id →
        path.Lets enters leaves tuple.destination tuple.root) :
    begun.timings.Moves id begun.now enters leaves reacted.timings := by
  cases reaction with
  | recorder | active | received | launch => exact .refl _
  | manage deeds => exact deeds.moves (runs _ rfl) (lets _ rfl rfl)
  | arrival deeds => exact deeds.moves (runs _ rfl) nofun

namespace Reaction

variable {orchestrator next : Orchestrator} {begun reacted : Context} {payload : Payload}
variable {application : Application} {loop : LoopId} {enters leaves : Nat → Prop}

theorem moves (running : begun.halted = false)
    (reaction : Reaction orchestrator begun payload next reacted)
    (held : orchestrator.application? = some application)
    (runs : ∀ id relay, orchestrator.devices.get? id = some (.relay relay) →
      relay.Runs (some application))
    (emits : ∀ sensor edge,
      Reaction.Emits application orchestrator begun payload reacted sensor edge →
      ∀ path ∈ application.loops, path.id = loop → path.startsWith sensor.tupleType = true →
        enters begun.timings.nextTuple)
    (executes : ∀ tuple ∈ orchestrator.executes payload, ∀ path ∈ application.loops,
      path.id = loop → path.Lets enters leaves tuple.destination tuple.root)
    (delivers : ∀ id tuple actuator, payload = .delivery id tuple →
      orchestrator.actuators.get? id = some actuator → ∀ path ∈ application.loops,
      path.id = loop → actuator.closes path = true → leaves tuple.root) :
    begun.timings.Moves loop begun.now enters leaves reacted.timings := by
  cases reaction with
  | launch asks | control asks =>
      rw [Context.Asks.timings_eq asks]
      exact .refl _
  | finished | unknownDevice | silent | unknownActuator => exact .refl _
  | stop halts => rcases halts with rfl | rfl <;> exact .refl _
  | @device id event target changed _ found reacts =>
      refine (Device.react_reaction running reacts).moves
        (fun relay same => runs id relay (same ▸ found)) ?_
      rintro relay rfl rfl tuple executed
      apply executes
      simpa [Orchestrator.executes, Orchestrator.relay?, found, Device.relay?] using executed
  | @actuator id tuple actuator changed _ found reacts =>
      obtain ⟨rfl, rfl⟩ := Actuator.receive_ends reacts
      rw [held]
      refine Timings.foldl_moves (fun path member timings =>
        Timings.completeLoop_moves (fun same => ?_) _ timings) _
      obtain ⟨listed, closes⟩ := List.mem_filter.mp member
      exact delivers id tuple actuator rfl found path listed same closes
  | @sensor id sensor changed other _ found holds _ reacts =>
      obtain ⟨⟩ := held.symm.trans holds
      rcases Sensor.transmit_ends running reacts with
        ⟨_, _, rfl⟩ | ⟨edge, usage, time, later, sent, sends, _⟩
      · exact .refl _
      rw [sends.timings]
      have issued : begun.timings.Moves loop begun.now enters leaves begun.timings.issue.2 :=
        Timings.moves_of_same rfl
      exact issued.trans (Timings.enterLoops_moves
        (emits sensor edge (sends.shows running found)) _)

theorem nextTuple_le (running : begun.halted = false)
    (reaction : Reaction orchestrator begun payload next reacted) :
    begun.timings.nextTuple ≤ reacted.timings.nextTuple := by
  cases reaction with
  | launch asks | control asks => rw [Context.Asks.timings_eq asks]
  | finished | unknownDevice | silent | unknownActuator => exact Nat.le_refl _
  | stop halts => rcases halts with rfl | rfl <;> exact Nat.le_refl _
  | device _ reacts =>
      cases Device.react_reaction running reacts with
      | recorder | active | received | launch => exact Nat.le_refl _
      | manage deeds | arrival deeds => exact deeds.nextTuple_le
  | actuator _ reacts =>
      obtain ⟨loops, rfl⟩ := Actuator.receive_changesLoops reacts
      exact Nat.le_refl _
  | @sensor id sensor _ application _ found _ _ reacts =>
      rcases Sensor.transmit_ends running reacts with
        ⟨_, _, rfl⟩ | ⟨edge, usage, time, later, sent, sends, _⟩
      · exact Nat.le_refl _
      · exact (sends.shows running found).issued.le

theorem actuatorType_eq (reaction : Reaction orchestrator begun payload next reacted)
    (id : ActuatorId) : (next.actuators.get? id).map (·.actuatorType) =
      (orchestrator.actuators.get? id).map (·.actuatorType) := by
  cases reaction with
  | @actuator _ _ _ _ _ found reacts =>
      obtain ⟨rfl, _⟩ := Actuator.receive_ends reacts
      rw [SortedMap.get?_insert]
      split
      next same => rw [same, found]; rfl
      · rfl
  | _ => rfl

end Reaction
end FogNetwork
