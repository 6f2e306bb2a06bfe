import FogNetwork.Proofs.Emissions
import FogNetwork.Proofs.Loops
import FogNetwork.Proofs.Whereabouts

/-! The trips around a loop in a whole run: what is emitted into the loop is under way in it or
has come to its end, once. -/

namespace FogNetwork

namespace Scenario

def roots (application tupleType : String) (turns : List Turn) : List (Nat × Time) :=
  (turns.filter fun turn =>
      turn.before.orchestrator.sentOf application tupleType <
        turn.after.orchestrator.sentOf application tupleType).map
    fun turn => (turn.before.simulation.context.timings.nextTuple, turn.event.time)

def loopTiming (id : LoopId) (scenario : Scenario) : LoopTiming :=
  scenario.simulation.context.timings.loopTiming id

structure Rooted (application tupleType : String) (turns : List Turn) (scenario : Scenario) :
    Prop where
  emitted : ∀ root ∈ roots application tupleType turns, ∃ turn ∈ turns,
    turn.event.time = root.2 ∧ ∃ edge, edge.source = tupleType ∧
      Tuple.emitted root.1 application edge ∈ turn.after.travelling
  once : ((roots application tupleType turns).map Prod.fst).Nodup
  count : (roots application tupleType turns).length =
    scenario.orchestrator.sentOf application tupleType
  dated : ∀ root ∈ roots application tupleType turns,
    root.1 < scenario.simulation.context.timings.nextTuple ∧
      root.2.ticks ≤ scenario.simulation.context.now.ticks

/-- The trips that were made around a loop, in the order in which they ended. All other roots are
still under way. -/
structure Toured (application tupleType : String) (path : LoopPath) (turns : List Turn)
    (trips : List Trip) (scenario : Scenario) : Prop where
  entries : (roots application tupleType turns).Perm
    (trips.map Trip.entry ++ (scenario.loopTiming path.id).members.entries)
  ended : ∀ trip ∈ trips, trip.entered.ticks ≤ trip.left.ticks ∧ ∃ turn ∈ turns,
    turn.event.time = trip.left ∧
      (turn.before.loopTiming path.id).members.get? trip.root = some trip.entered ∧
      (turn.after.loopTiming path.id).members.get? trip.root = none
  latency : (scenario.loopTiming path.id).latency = trips.foldl
    (fun average? trip => some (Average.extend average? trip.latency)) none
  onTime : (scenario.loopTiming path.id).onTime = trips.countP (Trip.isPunctual path.deadline)

structure Orderly (application : Application) (scenario : Scenario) : Prop where
  held : scenario.orchestrator.application? = some application
  briefed : Briefed (some application) scenario.orchestrator.devices
    scenario.simulation.context.agenda.pending
  serves : scenario.orchestrator.devices.All Device.Serves

variable {application : Application} {tupleType : String} {path : LoopPath}
variable {started scenario before after : Scenario} {turns : List Turn} {trips : List Trip}
variable {event : Event} {begun reacted : Context}

theorem roots_append (application tupleType : String) (early late : List Turn) :
    roots application tupleType (early ++ late) =
      roots application tupleType early ++ roots application tupleType late := by
  simp [roots]

theorem roots_of_same {application : String}
    (same : after.orchestrator.sentOf application tupleType =
      before.orchestrator.sentOf application tupleType) :
    roots application tupleType (turns ++ [⟨event, before, after⟩]) =
      roots application tupleType turns := by
  rw [roots_append]
  simp [roots, same]

theorem roots_of_more {application : String}
    (more : after.orchestrator.sentOf application tupleType =
      before.orchestrator.sentOf application tupleType + 1) :
    roots application tupleType (turns ++ [⟨event, before, after⟩]) =
      roots application tupleType turns ++
        [(before.simulation.context.timings.nextTuple, event.time)] := by
  rw [roots_append]
  simp [roots, more]

theorem Orderly.turn (orderly : before.Orderly application)
    (dispatches : before.simulation.Dispatches Orchestrator.handle before.orchestrator event
      after.simulation after.orchestrator begun reacted) : after.Orderly application := by
  have kept := dispatches.reaction.keeps.1
  have briefed := orderly.briefed
  rw [← orderly.held] at briefed
  refine ⟨?_, ?_, ?_⟩
  · rw [Orchestrator.application?, kept]
    exact orderly.held
  · rw [← orderly.held]
    exact briefed_turn briefed dispatches
  · exact dispatches.reaction.serves dispatches.begun_running orderly.serves

theorem Orderly.loop_cases (sensed : path.Sensed application tupleType)
    (orderly : before.Orderly application)
    (dispatches : before.simulation.Dispatches Orchestrator.handle before.orchestrator event
      after.simulation after.orchestrator begun reacted) :
    path.Opens application tupleType before.orchestrator begun after.orchestrator reacted ∨
      (after.orchestrator.sentOf application.id tupleType =
          before.orchestrator.sentOf application.id tupleType ∧
        begun.timings.Completes path begun.now reacted.timings) :=
  dispatches.reaction.loop_cases dispatches.begun_running orderly.held sensed
    orderly.briefed.relays orderly.serves

theorem Rooted.opens (rooted : before.Rooted application.id tupleType turns)
    (dispatches : before.simulation.Dispatches Orchestrator.handle before.orchestrator event
      after.simulation after.orchestrator begun reacted)
    (opens : path.Opens application tupleType before.orchestrator begun after.orchestrator
      reacted) : after.Rooted application.id tupleType (turns ++ [⟨event, before, after⟩]) := by
  have issued := opens.issued
  rw [dispatches.begun_timings, ← dispatches.after_timings] at issued
  have later := dispatches.notPast
  constructor
  · rw [roots_of_more opens.counted]
    intro root member
    rcases List.mem_append.mp member with old | new
    · obtain ⟨turn, listed, emitted⟩ := rooted.emitted root old
      exact ⟨turn, List.mem_append_left _ listed, emitted⟩
    · obtain rfl := List.mem_singleton.mp new
      obtain ⟨edge, source, carried⟩ := opens.sends
      refine ⟨_, List.mem_append_right _ (List.mem_singleton_self _), rfl, edge, source, ?_⟩
      have settled : after.simulation.context = reacted := by
        rw [dispatches.context, Context.settled, if_neg (by simp [opens.running])]
      rw [dispatches.begun_timings] at carried
      rw [travelling, settled]
      exact Multiset.mem_coe.mp carried
  · rw [roots_of_more opens.counted, List.map_append, List.nodup_append]
    refine ⟨rooted.once, List.nodup_singleton _, ?_⟩
    intro number old _ new
    obtain ⟨root, listed, rfl⟩ := List.mem_map.mp old
    obtain rfl := List.mem_singleton.mp new
    exact Nat.ne_of_lt (rooted.dated root listed).1
  · rw [roots_of_more opens.counted, opens.counted, ← rooted.count]
    simp
  · rw [roots_of_more opens.counted, dispatches.after_now]
    intro root member
    rcases List.mem_append.mp member with old | new
    · obtain ⟨number, time⟩ := rooted.dated root old
      omega
    · obtain rfl := List.mem_singleton.mp new
      exact ⟨issued, Nat.le_refl _⟩

theorem Rooted.completes (rooted : before.Rooted application.id tupleType turns)
    (dispatches : before.simulation.Dispatches Orchestrator.handle before.orchestrator event
      after.simulation after.orchestrator begun reacted)
    (same : after.orchestrator.sentOf application.id tupleType =
      before.orchestrator.sentOf application.id tupleType)
    (completes : begun.timings.Completes path begun.now reacted.timings) :
    after.Rooted application.id tupleType (turns ++ [⟨event, before, after⟩]) := by
  have issued := completes.issued
  rw [dispatches.begun_timings, ← dispatches.after_timings] at issued
  have later := dispatches.notPast
  constructor
  · rw [roots_of_same same]
    intro root member
    obtain ⟨turn, listed, emitted⟩ := rooted.emitted root member
    exact ⟨turn, List.mem_append_left _ listed, emitted⟩
  · rw [roots_of_same same]
    exact rooted.once
  · rw [roots_of_same same, same, rooted.count]
  · rw [roots_of_same same, dispatches.after_now]
    intro root member
    obtain ⟨number, time⟩ := rooted.dated root member
    omega

theorem Toured.opens (toured : before.Toured application.id tupleType path turns trips)
    (rooted : before.Rooted application.id tupleType turns)
    (dispatches : before.simulation.Dispatches Orchestrator.handle before.orchestrator event
      after.simulation after.orchestrator begun reacted)
    (opens : path.Opens application tupleType before.orchestrator begun after.orchestrator
      reacted) :
    after.Toured application.id tupleType path (turns ++ [⟨event, before, after⟩]) trips := by
  have fresh : (before.loopTiming path.id).members.get?
      before.simulation.context.timings.nextTuple = none := by
    rw [Option.eq_none_iff_forall_not_mem]
    intro time known
    have listed := SortedMap.get?_eq_some_iff.mp known
    have root := toured.entries.symm.subset (List.mem_append_right _ listed)
    exact absurd (rooted.dated _ root).1 (Nat.lt_irrefl _)
  have timing : after.loopTiming path.id = { before.loopTiming path.id with
      members := (before.loopTiming path.id).members.insert
        before.simulation.context.timings.nextTuple event.time } := by
    have enters := opens.enters
    rw [dispatches.begun_timings, dispatches.begun_now, ← dispatches.after_timings] at enters
    exact enters.trans (LoopTiming.enter_of_fresh fresh)
  constructor
  · obtain ⟨front, back, split, inserted⟩ := SortedMap.entries_of_get?_eq_none fresh
    have entries := toured.entries
    rw [split] at entries
    rw [roots_of_more opens.counted, timing, inserted]
    refine (List.perm_append_comm.trans (entries.cons _)).trans ?_
    simp only [← List.append_assoc]
    exact List.perm_middle.symm
  · intro trip member
    obtain ⟨inOrder, turn, listed, own⟩ := toured.ended trip member
    exact ⟨inOrder, turn, List.mem_append_left _ listed, own⟩
  · rw [timing]
    exact toured.latency
  · rw [timing]
    exact toured.onTime

theorem Toured.completes (toured : before.Toured application.id tupleType path turns trips)
    (rooted : before.Rooted application.id tupleType turns)
    (dispatches : before.simulation.Dispatches Orchestrator.handle before.orchestrator event
      after.simulation after.orchestrator begun reacted)
    (same : after.orchestrator.sentOf application.id tupleType =
      before.orchestrator.sentOf application.id tupleType)
    (completes : begun.timings.Completes path begun.now reacted.timings) :
    ∃ more, after.Toured application.id tupleType path (turns ++ [⟨event, before, after⟩])
      (trips ++ more) := by
  obtain ⟨more, gone⟩ := completes.trips
  rw [dispatches.begun_timings, dispatches.begun_now, ← dispatches.after_timings] at gone
  change LoopTiming.Completes _ _ _ (before.loopTiming path.id) (after.loopTiming path.id) at gone
  have known : ∀ trip ∈ more, trip.entry ∈ (before.loopTiming path.id).members.entries :=
    fun trip member => gone.members.symm.subset
      (List.mem_append_left _ (List.mem_map_of_mem member))
  have apart : ∀ trip ∈ more, trip.root ∉ (after.loopTiming path.id).members.keys := by
    have keys := (gone.members.map Prod.fst).nodup_iff.mp (SortedMap.keys_nodup _)
    rw [List.map_append, List.map_map, List.nodup_append] at keys
    intro trip member listed
    exact keys.2.2 trip.root (List.mem_map_of_mem member) trip.root listed rfl
  refine ⟨more, ?_, ?_, ?_, ?_⟩
  · rw [roots_of_same same, List.map_append, List.append_assoc]
    exact toured.entries.trans (gone.members.append_left _)
  · intro trip member
    rcases List.mem_append.mp member with old | new
    · obtain ⟨inOrder, turn, listed, own⟩ := toured.ended trip old
      exact ⟨inOrder, turn, List.mem_append_left _ listed, own⟩
    have listed := known trip new
    have root := toured.entries.symm.subset (List.mem_append_right _ listed)
    have left := gone.left trip new
    refine ⟨?_, _, List.mem_append_right _ (List.mem_singleton_self _), left.symm,
      SortedMap.get?_eq_some_iff.mpr listed, ?_⟩
    · rw [left]
      exact (rooted.dated _ root).2.trans dispatches.notPast
    · rw [Option.eq_none_iff_forall_not_mem]
      exact fun time found => apart trip new (SortedMap.mem_keys_iff.mpr ⟨time, found⟩)
  · rw [gone.latency, toured.latency, List.foldl_append]
  · rw [gone.onTime, toured.onTime, List.countP_append]

theorem Toured.roots_nodup (toured : scenario.Toured application.id tupleType path turns trips)
    (rooted : scenario.Rooted application.id tupleType turns) : (trips.map Trip.root).Nodup := by
  have once := (toured.entries.map Prod.fst).nodup_iff.mp rooted.once
  rw [List.map_append, List.map_map, List.nodup_append] at once
  exact once.1

theorem Toured.length_eq (toured : scenario.Toured application.id tupleType path turns trips) :
    trips.length = (scenario.loopTiming path.id).samples :=
  (LoopTiming.samples_of_latency toured.latency).symm

theorem Reached.toured (sensed : path.Sensed application tupleType)
    (orderly : started.Orderly application)
    (unsent : started.orchestrator.sentOf application.id tupleType = 0)
    (fresh : started.simulation.context.timings = .initial)
    (reached : started.Reached turns scenario) :
    scenario.Rooted application.id tupleType turns ∧
      ∃ trips, scenario.Toured application.id tupleType path turns trips := by
  refine (reached.keeps (motive := fun turns scenario => scenario.Orderly application ∧
    scenario.Rooted application.id tupleType turns ∧
    ∃ trips, scenario.Toured application.id tupleType path turns trips) ?_ ?_).2
  · have timing : started.loopTiming path.id = .initial := by
      rw [loopTiming, fresh]
      rfl
    refine ⟨orderly, ⟨nofun, .nil, unsent.symm, nofun⟩, [], ?_, nofun, ?_, ?_⟩
    · rw [timing]
      rfl
    · rw [timing]
      rfl
    · rw [timing]
      rfl
  · intro turns before event after begun reacted ⟨orderly, rooted, trips, toured⟩ dispatches
    refine ⟨orderly.turn dispatches, ?_⟩
    rcases orderly.loop_cases sensed dispatches with opens | ⟨same, completes⟩
    · exact ⟨rooted.opens dispatches opens, trips, toured.opens rooted dispatches opens⟩
    · obtain ⟨more, onward⟩ := toured.completes rooted dispatches same completes
      exact ⟨rooted.completes dispatches same completes, _, onward⟩

theorem orderly_of_asks {orchestrator : Orchestrator} {time : Option Time}
    (unused : orchestrator.devices.All Device.Unused)
    (held : orchestrator.application? = some application)
    (asks : Context.initial.Asks (Context.CallsFor orchestrator.application?)
      started.simulation.context)
    (same : started.orchestrator = { orchestrator with startedAt := time }) :
    started.Orderly application := by
  rw [held] at asks
  refine ⟨by rw [same]; exact held, ?_, ?_⟩
  · rw [same]
    exact asks.briefed [] (Briefed.of_unused (some application) unused)
  · rw [same]
    intro id device known
    have own := unused id device known
    cases device with
    | relay relay =>
        intro tuple queued
        rw [own.north] at queued
        cases queued
    | recorder => trivial

/-- Every tuple that a sensor of the application has emitted into a loop is under way in it or has
come to its end, once. What is measured for the loop is measured of these trips. -/
theorem loops_conserved {orchestrator : Orchestrator}
    (unused : orchestrator.devices.All Device.Unused)
    (unsent : orchestrator.sensors.All (·.sent = 0))
    (held : orchestrator.application? = some application)
    (sensed : path.Sensed application tupleType)
    (begun : (ofOrchestrator orchestrator).Begun started turns scenario) :
    (scenario.loopTiming path.id).samples + (scenario.loopTiming path.id).members.size =
        scenario.orchestrator.sentOf application.id tupleType ∧
      (scenario.loopTiming path.id).onTime ≤ (scenario.loopTiming path.id).samples ∧
      scenario.Rooted application.id tupleType turns ∧
      ∃ trips, scenario.Toured application.id tupleType path turns trips ∧
        trips.length = (scenario.loopTiming path.id).samples ∧ (trips.map Trip.root).Nodup := by
  obtain ⟨reached, asks, time, same⟩ := begun.cases
  have nothing : started.orchestrator.sentOf application.id tupleType = 0 := by
    rw [same]
    refine SortedMap.total_eq_zero fun id sensor known => ?_
    have own : sensor.sent = 0 := unsent id sensor known
    simp [own]
  obtain ⟨rooted, trips, toured⟩ := reached.toured sensed (orderly_of_asks unused held asks same)
    nothing asks.timings_eq
  have length := toured.length_eq
  refine ⟨?_, ?_, rooted, trips, toured, length, toured.roots_nodup rooted⟩
  · have all := toured.entries.length_eq
    rw [List.length_append, List.length_map] at all
    rw [← length, ← rooted.count, all]
    rfl
  · rw [← length, toured.onTime]
    exact List.countP_le_length

end Scenario

theorem Blueprint.declared_of_build {blueprint : Blueprint} {built : Scenario}
    (declared : ∀ mapped, blueprint.mapped = some mapped → mapped.application.Declared)
    (builds : blueprint.build.outcome = .ok (.ok built)) {application : Application}
    (held : built.orchestrator.application? = some application) : application.Declared := by
  rw [build_holds builds, Option.map_eq_some_iff] at held
  obtain ⟨mapped, own, rfl⟩ := held
  exact (declared mapped own).subscribed _

namespace Demo

theorem application_declared {made : Application} (makes : application = .ok made) :
    made.Declared := by
  simp only [application, bind, Except.bind] at makes
  split at makes
  · cases makes
  next declares =>
    cases makes
    refine .deadline (.loop ?_ declares) _ _
    exact .edge (.edge (.edge (.module (.module (.named _) _ _) _ _) _) _) _

theorem blueprint_fresh {config : Config} {exporter : Exporter} {network : Blueprint}
    (made : blueprint config exporter = .ok network) :
    (∀ mapped, network.mapped = some mapped → mapped.application.Declared) ∧
      ∀ sensor ∈ network.sensors, sensor.sent = 0 := by
  unfold blueprint at made
  cases declared : application with
  | error rejection =>
      rw [declared] at made
      cases made
  | ok application =>
      rw [declared] at made
      cases made
      constructor
      · rintro mapped ⟨⟩
        exact application_declared declared
      · intro sensor member
        simp only [List.mem_cons, List.not_mem_nil, or_false] at member
        rcases member with rfl | rfl
        · rfl
        · rfl

theorem blueprint_looped : ∃ network built scenario application path,
    blueprint ⟨50, 400⟩ .keeping = .ok network ∧ network.build.outcome = .ok (.ok built) ∧
      (Scenario.Call.performAll [.runSteps 300] built).outcome = .ok scenario ∧
      scenario.orchestrator.application? = some application ∧ application.id = "smart-building" ∧
      path ∈ application.loops ∧ path.id = ⟨0⟩ ∧ path.members.head? = some "TEMP" ∧
      application.hasModule "TEMP" = false ∧ (scenario.loopTiming ⟨0⟩).samples = 2 ∧
      (scenario.loopTiming ⟨0⟩).members.size = 75 := by
  have looped : ((blueprint ⟨50, 400⟩ .keeping).toOption.bind
      (·.after? [.runSteps 300])).any (fun scenario =>
        scenario.orchestrator.application?.any (fun application =>
          application.id == "smart-building" && application.loops.any (fun path =>
            path.id == ⟨0⟩ && path.members.head? == some "TEMP") &&
            !application.hasModule "TEMP") &&
          (scenario.loopTiming ⟨0⟩).samples == 2 &&
          (scenario.loopTiming ⟨0⟩).members.size == 75) = true := by
    decide +kernel
  cases made : blueprint ⟨50, 400⟩ .keeping with
  | error rejection =>
      rw [made] at looped
      cases looped
  | ok network =>
      rw [made] at looped
      obtain ⟨scenario, left, looped⟩ := (Option.any_eq_true _ _).mp looped
      obtain ⟨built, builds, performed⟩ := Blueprint.after?_eq_some left
      simp only [Bool.and_eq_true, beq_iff_eq] at looped
      obtain ⟨⟨held, samples⟩, members⟩ := looped
      obtain ⟨application, holds, held⟩ := (Option.any_eq_true _ _).mp held
      simp only [Bool.and_eq_true, Bool.not_eq_true', beq_iff_eq, List.any_eq_true] at held
      obtain ⟨⟨own, path, listed, id, begins⟩, outside⟩ := held
      exact ⟨network, built, scenario, application, path, rfl, builds, performed, holds, own,
        listed, id, begins, outside, samples, members⟩

end Demo

theorem Scenario.loops_conserved_demo : ∃ (network : Blueprint) (built started : Scenario)
    (turns : List Turn) (scenario : Scenario) (path : LoopPath) (trips : List Trip),
    Demo.blueprint ⟨50, 400⟩ .keeping = .ok network ∧
      network.build.outcome = .ok (.ok built) ∧ built.Begun started turns scenario ∧
      (scenario.loopTiming path.id).samples = 2 ∧ (scenario.loopTiming path.id).members.size = 75 ∧
      scenario.orchestrator.sentOf "smart-building" "TEMP" = 77 ∧
      scenario.Toured "smart-building" "TEMP" path turns trips ∧ trips.length = 2 := by
  obtain ⟨network, built, scenario, application, path, made, builds, performed, holds, own,
    listed, id, begins, outside, samples, members⟩ := Demo.blueprint_looped
  obtain ⟨started, turns, begun⟩ := Blueprint.begun_of_calls builds performed
  rw [← id] at samples members
  have held : built.orchestrator.application? = some application := by
    obtain ⟨reached, _, _, same⟩ := Blueprint.begun_cases builds begun
    rw [← holds, Orchestrator.application?, Orchestrator.application?, reached.submission_eq.1, same]
  have sensed : path.Sensed application "TEMP" := by
    refine ⟨listed, fun other member same => ?_, begins, outside⟩
    have declared : application.Declared :=
      Blueprint.declared_of_build (Demo.blueprint_fresh made).1 builds held
    exact declared.alone listed member same
  have silent := Blueprint.silent_of_build (Demo.blueprint_fresh made).2 builds
  have here := begun
  rw [← Blueprint.build_eq builds] at here
  obtain ⟨total, _, _, trips, toured, length, _⟩ := loops_conserved
    ((Demo.blueprint_unused made).of_build builds) silent.unsent held sensed here
  rw [own] at total toured
  rw [samples, members] at total
  rw [samples] at length
  exact ⟨network, built, started, turns, scenario, path, trips, made, builds, begun, samples,
    members, total.symm, toured, length⟩

end FogNetwork
