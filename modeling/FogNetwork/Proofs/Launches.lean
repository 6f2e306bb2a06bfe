import FogNetwork.Proofs.Answers

/-! The launch of the held application. It happens once, with the start of the run or after its
delay, unless the timer comes first. -/

namespace FogNetwork

def Payload.isLaunch : Payload → Bool
  | .launchApplication _ => true
  | _ => false

theorem Payload.opens_of_isLaunch {payload : Payload} (launches : payload.isLaunch = true) :
    payload.opens = true := by
  cases payload with
  | launchApplication => rfl
  | _ => cases launches

theorem Payload.isLaunch_of_isBrief {payload : Payload} (brief : payload.isBrief = true) :
    payload.isLaunch = false := by
  cases payload with
  | device => rfl
  | _ => cases brief

namespace Orchestrator

variable {orchestrator other : Orchestrator} {cause payload : Payload} {delay : Nat}
variable {held : Submission}

theorem Answers.opens_eq_false (answers : orchestrator.Answers cause delay payload)
    (quiet : cause.opens = false) : payload.opens = false := by
  cases answers with
  | tick | round => rfl
  | launch | emission => cases quiet
  | tuple carries =>
      cases payload with
      | delivery => rfl
      | device _ event =>
          cases event with
          | tupleArrival => rfl
          | _ => exact carries.2.elim
      | _ => exact carries.2.elim

theorem Answers.isLaunch_eq_false (answers : orchestrator.Answers cause delay payload) :
    payload.isLaunch = false := by
  cases answers with
  | tick | round | emission => rfl
  | launch active own listed =>
      rcases launchRequests_cases _ listed with brief | ⟨sensor, armed⟩
      · exact Payload.isLaunch_of_isBrief brief
      · cases armed
        rfl
  | tuple carries =>
      cases payload with
      | launchApplication => exact carries.2.elim
      | _ => rfl

theorem Answers.isBrief_eq_false (answers : orchestrator.Answers cause delay payload)
    (quiet : cause.isLaunch = false) : payload.isBrief = false := by
  cases answers with
  | tick | round | emission => rfl
  | launch => cases quiet
  | tuple carries =>
      cases payload with
      | device _ event =>
          cases event with
          | tupleArrival => rfl
          | _ => exact carries.2.elim
      | _ => rfl

theorem launchRequests_isLaunch :
    (orchestrator.launchRequests held).filter (·.2.isLaunch) = [] := by
  rw [List.filter_eq_nil_iff]
  intro request member
  rcases launchRequests_cases request member with brief | ⟨sensor, armed⟩
  · rw [Payload.isLaunch_of_isBrief brief]
    exact Bool.false_ne_true
  · rw [armed]
    exact Bool.false_ne_true

theorem launchDue_of_active (active : orchestrator.active = some held) :
    orchestrator.launchDue held.application.id = orchestrator.activate := by
  simp [launchDue, application?, active]

theorem launchRequests_congr (keys : other.devices.keys = orchestrator.devices.keys)
    (sensors : other.sensors = orchestrator.sensors) :
    other.launchRequests held = orchestrator.launchRequests held := by
  rw [launchRequests, launchRequests, feeders, feeders, keys, sensors]

end Orchestrator

namespace Reaction

variable {orchestrator next : Orchestrator} {begun reacted : Context} {payload : Payload}

theorem keys_eq (reaction : Reaction orchestrator begun payload next reacted) :
    next.devices.keys = orchestrator.devices.keys := by
  cases reaction with
  | device known => exact SortedMap.keys_insert_of_some known _
  | _ => rfl

theorem sensors_eq (reaction : Reaction orchestrator begun payload next reacted)
    (quiet : ∀ id, payload ≠ .transmit id) : next.sensors = orchestrator.sensors := by
  cases reaction with
  | sensor => exact absurd rfl (quiet _)
  | _ => rfl

end Reaction

namespace Scenario

variable {started scenario ended before after : Scenario} {turns : List Turn}
variable {timer launch event : Event} {held : Submission} {marks : Payload → Bool}
variable {begun reacted : Context}

theorem never_turn (closed : ∀ orchestrator cause delay payload,
      Orchestrator.Answers orchestrator cause delay payload → marks cause = false →
        marks payload = false)
    (none : before.simulation.context.pendingOf marks = [])
    (dispatches : before.simulation.Dispatches Orchestrator.handle before.orchestrator event
      after.simulation after.orchestrator begun reacted) :
    marks event.payload = false ∧ after.simulation.context.pendingOf marks = [] := by
  have own : marks event.payload = false := by
    by_contra marked
    rw [pendingOf_of_mark dispatches (by simpa using marked)] at none
    cases none
  rw [pendingOf_of_other dispatches own] at none
  have rest : reacted.pendingOf marks = [] := by
    by_cases stops : event.payload = .stop
    · rcases (Orchestrator.stop_ends (Orchestrator.handle_of_stop stops dispatches.reacts)).1 with
        rfl | rfl
      · exact none
      · exact none
    · rw [pendingOf_reacted dispatches stops fun _ _ answers => closed _ _ _ _ answers own]
      exact none
  refine ⟨own, ?_⟩
  rw [dispatches.context, Context.settled]
  split
  · rfl
  · exact rest

theorem Reached.keeps_sensors (reached : started.Reached turns scenario)
    (silent : ∀ turn ∈ turns, turn.event.payload.opens = false) :
    scenario.orchestrator.sensors = started.orchestrator.sensors := by
  refine reached.keeps (motive := fun turns scenario =>
    (∀ turn ∈ turns, turn.event.payload.opens = false) →
      scenario.orchestrator.sensors = started.orchestrator.sensors) (fun _ => rfl) ?_ silent
  intro turns before event after begun reacted earlier dispatches silent
  have last := silent ⟨event, before, after⟩ (by simp)
  rw [dispatches.reaction.sensors_eq ?_, earlier fun turn member => silent turn (by simp [member])]
  intro id transmits
  simp only [transmits] at last
  cases last

theorem Reached.keys_eq (reached : started.Reached turns scenario) :
    scenario.orchestrator.devices.keys = started.orchestrator.devices.keys :=
  (reached.unchanged (·.devices.keys) fun _ reaction => reaction.keys_eq).2

theorem Reached.launch_cases (underway : started.Underway timer)
    (waiting : started.simulation.context.pendingOf Payload.opens = [launch])
    (reached : started.Reached turns ended) (isOver : ended.simulation.isTerminated = true) :
    (timer.before launch ∧ ∀ turn ∈ turns, turn.event.payload.opens = false) ∨
      ∃ early before after late, turns = early ++ ⟨launch, before, after⟩ :: late ∧
        (∀ turn ∈ early, turn.event.payload.opens = false) ∧ started.Reached early before ∧
        before.simulation.context.pendingOf Payload.opens = [launch] ∧
        (before.simulation.step Orchestrator.handle before.orchestrator).outcome =
          .ok (some launch, after.simulation, after.orchestrator) ∧
        after.Reached late ended := by
  induction turns generalizing started with
  | nil =>
      obtain ⟨_, _, _, _, _, split, _⟩ := reached.first_turn underway.running isOver
      cases split
  | cons turn rest ih =>
      obtain ⟨event, after, _, begun, reacted, split, reached, stepped, dispatches⟩ :=
        reached.first_turn underway.running isOver
      cases split
      cases opens : event.payload.opens with
      | true =>
          rw [pendingOf_of_mark dispatches opens] at waiting
          obtain ⟨rfl, _⟩ := List.cons.inj waiting
          exact .inr ⟨[], started, after, _, rfl, by simp, .start,
            by rw [pendingOf_of_mark dispatches opens, waiting], stepped, reached⟩
      | false =>
          have later := waiting
          rw [pendingOf_of_other dispatches opens] at later
          by_cases stops : event.payload = .stop
          · obtain ⟨rfl, figures, stops⟩ := underway.stops dispatches stops
            obtain ⟨rfl, rfl⟩ := reached.of_halted (by rw [stops.context])
            have member : launch ∈ begun.pendingOf Payload.opens := by simp [later]
            refine .inl ⟨dispatched_first dispatches (Context.mem_pendingOf.mp member).1, ?_⟩
            intro turn member
            obtain rfl := List.mem_singleton.mp member
            exact opens
          · obtain ⟨still, settled⟩ := underway.goes_on dispatches stops
            have same : after.simulation.context.pendingOf Payload.opens = [launch] := by
              rw [settled, pendingOf_reacted dispatches stops fun _ _ answers =>
                answers.opens_eq_false opens]
              exact later
            rcases ih still same reached with ⟨beyond, silent⟩ | ⟨early, before, next, late, rfl,
              silent, leads, waits, launches, goesOn⟩
            · refine .inl ⟨beyond, ?_⟩
              intro turn member
              rcases List.mem_cons.mp member with rfl | other
              · exact opens
              · exact silent turn other
            · refine .inr ⟨⟨event, started, after⟩ :: early, before, next, late, rfl, ?_,
                leads.cons stepped, waits, launches, goesOn⟩
              intro turn member
              rcases List.mem_cons.mp member with rfl | other
              · exact opens
              · exact silent turn other

end Scenario

/-- A run of an orchestrator from its launch at `time` on. Everything that the launch asks for is
pending, and nothing else of its kind. Only without a delay it was entered ahead of the timer. -/
structure Scenario.Launched (orchestrator : Orchestrator) (held : Submission) (time : Nat)
    (timer : Event) (late : List Turn) (launched ended : Scenario) : Prop where
  underway : launched.Underway timer
  reached : launched.Reached late ended
  active : launched.orchestrator.active = some held
  sensors : launched.orchestrator.sensors = orchestrator.sensors
  keys : launched.orchestrator.devices.keys = orchestrator.devices.keys
  clock : launched.simulation.context.now.ticks = time
  once : launched.simulation.context.pendingOf Payload.isLaunch = []
  fresh : ∃ fresh, (launched.simulation.context.pendingOf Payload.opens).Perm fresh ∧
    fresh.map (fun event => (event.time.ticks, event.payload)) =
      (orchestrator.launchRequests held).map (fun request => (time + request.1, request.2)) ∧
    fresh.Pairwise (fun early late => early.id.number < late.id.number) ∧
    ∀ event ∈ fresh, event.id.number < timer.id.number ↔ held.delay = 0

namespace Orchestrator.Starts

variable {orchestrator : Orchestrator} {before launched ticked stopped after : Context}
variable {timer : Event} {held : Submission}

theorem pendingOf_opened
    (starts : orchestrator.Starts before launched ticked stopped after timer)
    {marks : Payload → Bool} (tick : marks .controlTick = false) (stop : marks .stop = false)
    (round : ∀ device, marks (.device device .manageResources) = false) :
    after.pendingOf marks = launched.pendingOf marks := by
  rw [starts.rousing.pendingOf_eq ?_, starts.stopping.pendingOf_eq ?_,
    starts.ticking.pendingOf_eq ?_]
  · exact List.filter_cons_of_neg (by simp [tick])
  · exact List.filter_cons_of_neg (by simp [stop])
  · rw [List.filter_eq_nil_iff]
    intro request member
    obtain ⟨device, _, rfl⟩ := List.mem_map.mp member
    simp [round device]

theorem launched_lt_timer
    (starts : orchestrator.Starts before launched ticked stopped after timer) :
    launched.agenda.nextId < timer.id.number := by
  have next := starts.ticking.nextId
  have behind := starts.behind
  simp only [List.length_singleton] at next
  omega

end Orchestrator.Starts

namespace Scenario

variable {orchestrator : Orchestrator} {held : Submission} {timer : Event}
variable {before launched ticked stopped : Context} {started ended : Scenario} {turns : List Turn}

theorem launched_at_once (active : orchestrator.active = some held) (atOnce : held.delay = 0)
    (same : started.orchestrator = { orchestrator with startedAt := some before.now })
    (stages : orchestrator.Starts before launched ticked stopped started.simulation.context timer)
    (underway : started.Underway timer) (reached : started.Reached turns ended) :
    Launched orchestrator held before.now.ticks timer turns started ended := by
  have opening := stages.opening
  simp only [Orchestrator.openingRequests, active, if_pos atOnce] at opening
  have none (marks : Payload → Bool) : before.pendingOf marks = [] := by
    rw [Context.pendingOf, stages.empty]
    rfl
  obtain ⟨fresh, pending, listed, rising, numbered⟩ := opening.pendingOf Payload.opens
  rw [none, List.nil_append, ← stages.pendingOf_opened rfl rfl fun _ => rfl] at pending
  rw [List.filter_eq_self.mpr Orchestrator.launchRequests_opens] at listed
  refine
    { underway := underway
      reached := reached
      active := by rw [same]; exact active
      sensors := by rw [same]
      keys := by rw [same]
      clock := by
        rw [stages.rousing.now, stages.stopping.now, stages.ticking.now, opening.now]
      once := ?_
      fresh := ⟨fresh, pending, listed, rising, ?_⟩ }
  · rw [stages.pendingOf_opened rfl rfl fun _ => rfl,
      opening.pendingOf_eq Orchestrator.launchRequests_isLaunch, none]
  · intro event member
    have older := (numbered event member).2
    have newer := stages.launched_lt_timer
    exact ⟨fun _ => atOnce, fun _ => by omega⟩

theorem launched_by {launch : Event} {after early : Scenario} {late : List Turn}
    (active : early.orchestrator.active = some held) (delayed : held.delay ≠ 0)
    (underway : early.Underway timer)
    (waiting : early.simulation.context.pendingOf Payload.opens = [launch])
    (launches : launch.payload = .launchApplication held.application.id)
    (stepped : (early.simulation.step Orchestrator.handle early.orchestrator).outcome =
      .ok (some launch, after.simulation, after.orchestrator))
    (reached : after.Reached late ended) :
    Launched early.orchestrator held launch.time.ticks timer late after ended := by
  obtain ⟨begun, reacted, dispatches⟩ := Simulation.dispatches_of_step stepped
  obtain ⟨same, launched⟩ := Orchestrator.handle_of_launch launches dispatches.reacts
  rw [Orchestrator.launchDue_of_active active] at launched
  obtain ⟨still, settled⟩ := underway.goes_on dispatches (by simp [launches])
  have opens : launch.payload.opens = true := by rw [launches]; rfl
  rw [pendingOf_of_mark dispatches opens, List.cons.injEq] at waiting
  have asked := Orchestrator.activate_requests active dispatches.begun_running launched
  have now : begun.now = launch.time := by rw [dispatches.begins]
  obtain ⟨fresh, pending, listed, rising, numbered⟩ := asked.pendingOf Payload.opens
  rw [waiting.2, List.nil_append, ← settled] at pending
  rw [List.filter_eq_self.mpr Orchestrator.launchRequests_opens, now] at listed
  refine
    { underway := still
      reached := reached
      active := by rw [same]; exact active
      sensors := by rw [same]
      keys := by rw [same]
      clock := by rw [settled, asked.now, now]
      once := ?_
      fresh := ⟨fresh, pending, listed, rising, ?_⟩ }
  · rw [settled, asked.pendingOf_eq Orchestrator.launchRequests_isLaunch,
      ← Context.filter_pendingOf fun _ => Payload.opens_of_isLaunch, waiting.2]
    rfl
  · intro event member
    have newer := (numbered event member).1
    have older := timer_id_lt underway dispatches
    exact ⟨fun _ => by omega, fun atOnce => absurd atOnce delayed⟩

theorem Launched.pendingOf {time : Nat} {late : List Turn} {launched : Scenario}
    (course : Launched orchestrator held time timer late launched ended) {marks : Payload → Bool}
    (narrower : ∀ payload, marks payload = true → payload.opens = true) :
    ∃ fresh, (launched.simulation.context.pendingOf marks).Perm fresh ∧
      fresh.map (fun event => (event.time.ticks, event.payload)) =
        ((orchestrator.launchRequests held).filter (marks ·.2)).map
          (fun request => (time + request.1, request.2)) ∧
      fresh.Pairwise (fun early late => early.id.number < late.id.number) ∧
      ∀ event ∈ fresh, event.id.number < timer.id.number ↔ held.delay = 0 := by
  obtain ⟨fresh, pending, listed, rising, order⟩ := course.fresh
  refine ⟨fresh.filter (marks ·.payload), ?_, ?_, rising.filter _, ?_⟩
  · rw [← Context.filter_pendingOf narrower]
    exact pending.filter _
  · have filtered := congrArg (List.filter fun request => marks request.2) listed
    rw [List.filter_map, List.filter_map] at filtered
    exact filtered
  · intro event member
    exact order event (List.mem_filter.mp member).1

theorem Launched.pendingOf_single {time delay : Nat} {late : List Turn} {launched : Scenario}
    {payload : Payload} (course : Launched orchestrator held time timer late launched ended)
    {marks : Payload → Bool} (narrower : ∀ payload, marks payload = true → payload.opens = true)
    (one : (orchestrator.launchRequests held).filter (marks ·.2) = [(delay, payload)]) :
    ∃ next, launched.simulation.context.pendingOf marks = [next] ∧
      next.time.ticks = time + delay ∧
      (next.id.number < timer.id.number ↔ held.delay = 0) := by
  obtain ⟨fresh, pending, listed, _, order⟩ := course.pendingOf narrower
  rw [one] at listed
  obtain ⟨next, rest, rfl, first, last⟩ := List.map_eq_cons_iff.mp listed
  obtain rfl := List.map_eq_nil_iff.mp last
  exact ⟨next, List.perm_singleton.mp pending, (Prod.mk.inj first).1, order next (by simp)⟩

theorem Launched.congr {early : Orchestrator} {time : Nat} {late : List Turn} {launched : Scenario}
    (course : Launched early held time timer late launched ended)
    (sensors : early.sensors = orchestrator.sensors)
    (keys : early.devices.keys = orchestrator.devices.keys) :
    Launched orchestrator held time timer late launched ended := by
  refine ⟨course.underway, course.reached, course.active, course.sensors.trans sensors,
    course.keys.trans keys, course.clock, course.once, ?_⟩
  rw [← Orchestrator.launchRequests_congr keys sensors]
  exact course.fresh

theorem launch_course (active : orchestrator.active = some held)
    (same : started.orchestrator = { orchestrator with startedAt := some before.now })
    (stages : orchestrator.Starts before launched ticked stopped started.simulation.context timer)
    (underway : started.Underway timer) (reached : started.Reached turns ended)
    (isOver : ended.simulation.isTerminated = true) :
    (orchestrator.config.runLength < held.delay ∧
        ∀ turn ∈ turns, turn.event.payload.opens = false) ∨
      ∃ early late opened, turns = early ++ late ∧
        (∀ turn ∈ early, turn.event.payload.opens = true → turn.event.payload.isLaunch = true) ∧
        started.Reached early opened ∧
        Launched orchestrator held (before.now.ticks + held.delay) timer late opened ended := by
  by_cases atOnce : held.delay = 0
  · refine .inr ⟨[], turns, started, rfl, by simp, .start, ?_⟩
    rw [atOnce]
    exact launched_at_once active atOnce same stages underway reached
  have opening := stages.opening
  simp only [Orchestrator.openingRequests, active, if_neg atOnce] at opening
  have none : before.pendingOf Payload.opens = [] := by
    rw [Context.pendingOf, stages.empty]
    rfl
  obtain ⟨launch, waiting, launches, due, _, older⟩ := opening.pendingOf_single none rfl
  rw [← stages.pendingOf_opened rfl rfl fun _ => rfl] at waiting
  have newer := stages.launched_lt_timer
  rcases reached.launch_cases underway waiting isOver with ⟨beyond, silent⟩ |
    ⟨early, first, after, late, rfl, silent, leads, waits, stepped, goesOn⟩
  · refine .inl ⟨?_, silent⟩
    have finish := stages.due
    simp only [Event.before] at beyond
    omega
  · have opens : launch.payload.isLaunch = true := by
      rw [launches]
      rfl
    have still : first.Underway timer := by
      rcases (leads.underway underway).2 with still | halted
      · exact still
      · rw [Simulation.step_outcome, if_pos halted] at stepped
        cases stepped
    have held' : first.orchestrator.active = some held := by
      rw [leads.submission_eq.1, same]
      exact active
    have course := launched_by held' atOnce still waits launches stepped goesOn
    rw [due] at course
    refine .inr ⟨early ++ [⟨launch, first, after⟩], late, after, by simp, ?_,
      .turn leads stepped, course.congr ?_ ?_⟩
    · intro turn member opened
      rcases List.mem_append.mp member with old | new
      · rw [silent turn old] at opened
        cases opened
      · obtain rfl := List.mem_singleton.mp new
        exact opens
    · rw [leads.keeps_sensors silent, same]
    · rw [leads.keys_eq, same]

end Scenario
end FogNetwork
