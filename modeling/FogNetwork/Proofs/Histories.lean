import FogNetwork.Proofs.Chronicle
import FogNetwork.Proofs.Reactions
import FogNetwork.Scenario.Basic

/-! The states that a started scenario reaches, each with the turns that lead there. -/

namespace FogNetwork

structure Turn where
  event : Event
  before : Scenario
  after : Scenario

namespace Scenario

inductive Reached (started : Scenario) : List Turn → Scenario → Prop
  | start : Reached started [] started
  | turn {turns : List Turn} {before after : Scenario} {event : Event}
      (earlier : Reached started turns before)
      (stepped : (before.simulation.step Orchestrator.handle before.orchestrator).outcome =
        .ok (some event, after.simulation, after.orchestrator)) :
      Reached started (turns ++ [⟨event, before, after⟩]) after

/-- The events scheduled since the beginning: what the start asked for, and what was asked for in
each turn. -/
def scheduled (started : Scenario) (turns : List Turn) : List Event :=
  started.simulation.context.agenda.pending ++ turns.flatMap fun turn =>
    turn.after.simulation.context.agenda.since turn.before.simulation.context.agenda

end Scenario

theorem Reaction.keeps {orchestrator next : Orchestrator} {begun reacted : Context}
    {payload : Payload} (reaction : Reaction orchestrator begun payload next reacted) :
    next.active = orchestrator.active ∧ next.startedAt = orchestrator.startedAt := by
  cases reaction <;> exact ⟨rfl, rfl⟩

namespace Simulation.Dispatches

variable {simulation after : Simulation} {orchestrator next : Orchestrator} {event : Event}
variable {begun reacted : Context}

theorem reaction (dispatches : simulation.Dispatches Orchestrator.handle orchestrator event
    after next begun reacted) : Reaction orchestrator begun event.payload next reacted :=
  Orchestrator.handle_reaction dispatches.begun_running dispatches.reacts

theorem after_now (dispatches : simulation.Dispatches Orchestrator.handle orchestrator event
    after next begun reacted) : after.context.now = event.time := by
  obtain ⟨_, advances⟩ :=
    (Orchestrator.handle_expressible event orchestrator).advances dispatches.reacts
  obtain ⟨_, settled⟩ := reacted.settled_eq
  rw [← dispatches.begun_now, ← advances.now, dispatches.context, settled]

theorem since_perm (dispatches : simulation.Dispatches Orchestrator.handle orchestrator event
    after next begun reacted) (running : after.context.halted = false) :
    ∃ entered, begun.Advances reacted entered ∧
      (after.context.agenda.since simulation.context.agenda).Perm entered ∧
      after.context = reacted := by
  obtain ⟨entered, advances⟩ :=
    (Orchestrator.handle_expressible event orchestrator).advances dispatches.reacts
  have settled := dispatches.after_context running
  have fresh := Chronicle.since_perm advances
  unfold Agenda.since at fresh
  rw [dispatches.nextId] at fresh
  refine ⟨entered, advances, ?_, settled⟩
  rw [settled]
  exact fresh

end Simulation.Dispatches

namespace Scenario

variable {started scenario after : Scenario} {turns : List Turn}

theorem start_outcome (unstarted : scenario.isStarted = false)
    {result : Except Rejection Unit}
    (starts : scenario.start.outcome = .ok (result, started)) :
    scenario.orchestrator.start.Ends scenario.simulation.context (result, started.orchestrator)
        started.simulation.context ∧
      started.simulation.eventsProcessed = scenario.simulation.eventsProcessed := by
  unfold start at starts
  rw [unstarted] at starts
  obtain ⟨reached, performs, last⟩ := Run.outcome_bind_eq_ok_iff.mp starts
  obtain ⟨ended, begins, rest⟩ := Run.outcome_bind_eq_ok_iff.mp performs
  cases rest
  cases last
  exact ⟨begins, rfl⟩

theorem Reached.keeps {motive : List Turn → Scenario → Prop} (begun : motive [] started)
    (step : ∀ turns before event after begun reacted, motive turns before →
      before.simulation.Dispatches Orchestrator.handle before.orchestrator event
        after.simulation after.orchestrator begun reacted →
      motive (turns ++ [⟨event, before, after⟩]) after)
    (reached : started.Reached turns scenario) : motive turns scenario := by
  induction reached with
  | start => exact begun
  | turn _ stepped ih =>
      obtain ⟨_, _, dispatches⟩ := Simulation.dispatches_of_step stepped
      exact step _ _ _ _ _ _ ih dispatches

theorem Reached.always {motive : Scenario → Prop} (begun : motive started)
    (step : ∀ before event after begun reacted, motive before →
      before.simulation.Dispatches Orchestrator.handle before.orchestrator event
        after.simulation after.orchestrator begun reacted → motive after)
    (reached : started.Reached turns scenario) :
    (∀ turn ∈ turns, motive turn.before) ∧ motive scenario := by
  refine reached.keeps (motive := fun turns scenario =>
    (∀ turn ∈ turns, motive turn.before) ∧ motive scenario) ⟨by simp, begun⟩ ?_
  intro turns before event after begun reacted ⟨earlier, now⟩ dispatches
  refine ⟨?_, step before event after begun reacted now dispatches⟩
  intro turn member
  rcases List.mem_append.mp member with old | new
  · exact earlier turn old
  · obtain rfl := List.mem_singleton.mp new
    exact now

theorem Reached.unchanged {α : Type} (look : Orchestrator → α)
    (same : ∀ {orchestrator next begun reacted payload}, begun.halted = false →
      Reaction orchestrator begun payload next reacted → look next = look orchestrator)
    (reached : started.Reached turns scenario) :
    (∀ turn ∈ turns, look turn.before.orchestrator = look started.orchestrator) ∧
      look scenario.orchestrator = look started.orchestrator := by
  refine reached.always (motive := fun scenario =>
    look scenario.orchestrator = look started.orchestrator) rfl ?_
  intro before event after begun reacted earlier dispatches
  exact (same dispatches.begun_running dispatches.reaction).trans earlier

theorem Reached.currentTime_eq (reached : started.Reached turns scenario) :
    ∀ turn ∈ turns, turn.after.simulation.currentTime = turn.event.time := by
  refine reached.keeps (motive := fun turns _ =>
    ∀ turn ∈ turns, turn.after.simulation.currentTime = turn.event.time) (by simp) ?_
  intro turns before event after begun reacted earlier dispatches turn member
  rcases List.mem_append.mp member with old | new
  · exact earlier turn old
  · obtain rfl := List.mem_singleton.mp new
    exact dispatches.after_now

theorem Reached.submission_eq (reached : started.Reached turns scenario) :
    scenario.orchestrator.active = started.orchestrator.active ∧
      scenario.orchestrator.startedAt = started.orchestrator.startedAt :=
  ⟨(reached.unchanged (·.active) fun _ reaction => reaction.keeps.1).2,
    (reached.unchanged (·.startedAt) fun _ reaction => reaction.keeps.2).2⟩

theorem Reached.scheduled_perm (reached : started.Reached turns scenario)
    (running : scenario.simulation.isTerminated = false) :
    (turns.map (·.event) ++ scenario.simulation.context.agenda.pending).Perm
      (started.scheduled turns) := by
  refine Reached.keeps (motive := fun turns scenario =>
    scenario.simulation.context.halted = false →
      (turns.map (·.event) ++ scenario.simulation.context.agenda.pending).Perm
        (started.scheduled turns)) (fun _ => by simp [scheduled]) ?_ reached
    running
  intro turns before event after begun reacted earlier dispatches running
  obtain ⟨entered, advances, since, settled⟩ := dispatches.since_perm running
  have pending := earlier dispatches.running
  rw [dispatches.pending] at pending
  rw [settled, List.map_append, scheduled, List.flatMap_append, ← List.append_assoc]
  refine List.Perm.trans ?_ (pending.append (since.symm.trans (.of_eq (by simp))))
  refine (advances.pending.append_left _).trans (.of_eq ?_)
  simp

theorem Reached.happened_or_pending (reached : started.Reached turns scenario)
    (running : scenario.simulation.isTerminated = false) {event : Event}
    (scheduled : event ∈ started.scheduled turns) :
    event ∈ scenario.simulation.context.agenda.pending ∨ ∃ turn ∈ turns, turn.event = event := by
  rcases List.mem_append.mp ((reached.scheduled_perm running).symm.subset scheduled) with
    happened | pending
  · exact .inr (List.mem_map.mp happened)
  · exact .inl pending

inductive Call where
  | step
  | runSteps (limit : Nat)
  | run

def Call.perform (call : Call) (scenario : Scenario) : Run Scenario :=
  match call with
  | .step => do return (← scenario.step).2
  | .runSteps limit => do return (← scenario.runSteps limit).2
  | .run => do return (← scenario.run).2

def Call.performAll (calls : List Call) (scenario : Scenario) : Run Scenario :=
  calls.foldlM (fun scenario call => call.perform scenario) scenario

/-- Either the run has not started, or the state is one that the started scenario reaches. -/
def Begun (built started : Scenario) (turns : List Turn) (scenario : Scenario) : Prop :=
  (scenario = built ∧ started = built ∧ turns = []) ∨
    (built.start.outcome = .ok (.ok (), started) ∧ started.Reached turns scenario)

theorem start_cases (unstarted : scenario.isStarted = false)
    (running : scenario.simulation.context.halted = false) {result : Except Rejection Unit}
    (starts : scenario.start.outcome = .ok (result, started)) :
    ((∃ rejection, result = .error rejection) ∧ started = scenario) ∨
      (result = .ok () ∧ started.isStarted = true) := by
  obtain ⟨begins, processed⟩ := start_outcome unstarted starts
  cases result with
  | error rejection =>
      refine .inl ⟨⟨rejection, rfl⟩, ?_⟩
      obtain ⟨⟨context, count⟩, orchestrator⟩ := started
      simp only [Orchestrator.start, Act.ends_bind_iff, Act.ends_now_iff] at begins
      obtain ⟨_, _, ⟨rfl, rfl⟩, begins⟩ := begins
      split at begins
      · obtain ⟨same, rfl⟩ := Act.ends_pure_iff.mp begins
        cases same
        cases processed
        rfl
      · simp only [Act.ends_bind_iff, Act.ends_pure_iff] at begins
        obtain ⟨_, _, _, _, _, _, _, _, _, _, _, _, _, _, _, same, _⟩ := begins
        cases same
  | ok =>
      obtain ⟨_, orchestrator⟩ := Orchestrator.start_asks running begins
      exact .inr ⟨rfl, by rw [isStarted, orchestrator]; rfl⟩

theorem start_of_isStarted (begun : scenario.isStarted = true) :
    scenario.start.outcome = .ok (.ok (), scenario) := by
  unfold start
  rw [begun]
  rfl

theorem Reached.runFor (reached : started.Reached turns scenario) {limit count : Nat}
    {simulation : Simulation} {orchestrator : Orchestrator}
    (counted : (scenario.simulation.runFor Orchestrator.handle limit
      scenario.orchestrator).outcome = .ok (count, simulation, orchestrator)) :
    ∃ turns, started.Reached turns ⟨simulation, orchestrator⟩ := by
  obtain ⟨last, ran, same⟩ := Run.outcome_bind_eq_ok_iff.mp counted
  cases same
  refine Simulation.runOnto_keeps (motive := fun simulation orchestrator =>
    ∃ turns, started.Reached turns ⟨simulation, orchestrator⟩) ?_ ⟨turns, reached⟩ ran
  intro simulation orchestrator event after next ⟨turns, earlier⟩ stepped
  exact ⟨_, .turn earlier stepped⟩

theorem whenStarted_cases {α : Type} {next : Scenario → Run (Except Rejection α × Scenario)}
    {result : Except Rejection α × Scenario}
    (performed : (scenario.whenStarted next).outcome = .ok result) :
    (∃ rejection, scenario.start.outcome = .ok (.error rejection, result.2)) ∨
      ∃ started, scenario.start.outcome = .ok (.ok (), started) ∧
        (next started).outcome = .ok result := by
  obtain ⟨⟨outcome, started⟩, starts, performed⟩ := Run.outcome_bind_eq_ok_iff.mp performed
  cases outcome with
  | error rejection =>
      cases performed
      exact .inl ⟨rejection, starts⟩
  | ok => exact .inr ⟨started, starts, performed⟩

theorem Call.perform_cases {call : Call} (performed : (call.perform scenario).outcome = .ok after) :
    (∃ rejection, scenario.start.outcome = .ok (.error rejection, after)) ∨
      ∃ ready, scenario.start.outcome = .ok (.ok (), ready) ∧
        ∀ started turns, Reached started turns ready → ∃ turns, started.Reached turns after := by
  cases call with
  | step =>
      obtain ⟨done, called, last⟩ := Run.outcome_bind_eq_ok_iff.mp performed
      cases last
      rcases whenStarted_cases called with rejected | ⟨ready, starts, called⟩
      · exact .inl rejected
      · refine .inr ⟨ready, starts, fun started turns reached => ?_⟩
        obtain ⟨⟨event?, simulation, orchestrator⟩, stepped, same⟩ :=
          Run.outcome_bind_eq_ok_iff.mp called
        cases same
        cases event? with
        | none =>
            obtain ⟨rfl, rfl⟩ := Simulation.unchanged_of_step stepped
            exact ⟨turns, reached⟩
        | some event => exact ⟨_, .turn reached stepped⟩
  | runSteps limit =>
      obtain ⟨done, called, last⟩ := Run.outcome_bind_eq_ok_iff.mp performed
      cases last
      rcases whenStarted_cases called with rejected | ⟨ready, starts, called⟩
      · exact .inl rejected
      · refine .inr ⟨ready, starts, fun started turns reached => ?_⟩
        obtain ⟨counted, ran, same⟩ := Run.outcome_bind_eq_ok_iff.mp called
        cases same
        exact reached.runFor ran
  | run =>
      obtain ⟨done, called, last⟩ := Run.outcome_bind_eq_ok_iff.mp performed
      cases last
      rcases whenStarted_cases called with rejected | ⟨ready, starts, called⟩
      · exact .inl rejected
      · refine .inr ⟨ready, starts, fun started turns reached => ?_⟩
        obtain ⟨counted, ran, same⟩ := Run.outcome_bind_eq_ok_iff.mp called
        cases same
        exact reached.runFor ran

theorem Begun.perform {built : Scenario} (unstarted : built.isStarted = false)
    (running : built.simulation.context.halted = false) {call : Call}
    (begun : built.Begun started turns scenario)
    (performed : (call.perform scenario).outcome = .ok after) :
    ∃ started turns, built.Begun started turns after := by
  rcases begun with ⟨rfl, _, _⟩ | ⟨starts, reached⟩
  · rcases Call.perform_cases performed with ⟨rejection, rejected⟩ | ⟨ready, starts, leads⟩
    · rcases start_cases unstarted running rejected with ⟨_, rfl⟩ | ⟨same, _⟩
      · exact ⟨_, _, .inl ⟨rfl, rfl, rfl⟩⟩
      · cases same
    · obtain ⟨turns, reached⟩ := leads ready [] .start
      exact ⟨ready, turns, .inr ⟨starts, reached⟩⟩
  · have still : scenario.isStarted = true := by
      rcases start_cases unstarted running starts with ⟨⟨_, same⟩, _⟩ | ⟨_, isStarted⟩
      · cases same
      · rw [Scenario.isStarted, Orchestrator.isStarted, reached.submission_eq.2]
        exact isStarted
    have again := start_of_isStarted still
    rcases Call.perform_cases performed with ⟨rejection, rejected⟩ | ⟨ready, restarts, leads⟩
    · rw [again] at rejected
      cases rejected
    · rw [again] at restarts
      cases restarts
      obtain ⟨turns, reached⟩ := leads started turns reached
      exact ⟨started, turns, .inr ⟨starts, reached⟩⟩

theorem Begun.performAll {built : Scenario} (unstarted : built.isStarted = false)
    (running : built.simulation.context.halted = false) {calls : List Call}
    (begun : built.Begun started turns scenario)
    (performed : (Call.performAll calls scenario).outcome = .ok after) :
    ∃ started turns, built.Begun started turns after := by
  induction calls generalizing scenario started turns with
  | nil =>
      cases performed
      exact ⟨started, turns, begun⟩
  | cons call rest ih =>
      rw [Call.performAll, List.foldlM_cons] at performed
      obtain ⟨middle, first, later⟩ := Run.outcome_bind_eq_ok_iff.mp performed
      obtain ⟨started, turns, between⟩ := begun.perform unstarted running first
      exact ih between later

end Scenario
end FogNetwork
