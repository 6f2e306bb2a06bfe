import FogNetwork.Proofs.Horizon

/-! Whole runs, turn by turn from the start on. -/

namespace FogNetwork
namespace Scenario

structure Agrees (left right : Scenario) : Prop where
  devices : left.orchestrator.devices = right.orchestrator.devices
  sensors : left.orchestrator.sensors = right.orchestrator.sensors
  actuators : left.orchestrator.actuators = right.orchestrator.actuators
  timings : left.simulation.context.timings = right.simulation.context.timings
  usage : left.simulation.context.usage = right.simulation.context.usage

variable {scenario started ended after : Scenario} {turns rest : List Turn} {event : Event}

theorem Agrees.symm (agrees : started.Agrees ended) : ended.Agrees started :=
  ⟨agrees.devices.symm, agrees.sensors.symm, agrees.actuators.symm, agrees.timings.symm,
    agrees.usage.symm⟩

theorem Agrees.trans (early : started.Agrees after) (late : after.Agrees ended) :
    started.Agrees ended :=
  ⟨early.devices.trans late.devices, early.sensors.trans late.sensors,
    early.actuators.trans late.actuators, early.timings.trans late.timings,
    early.usage.trans late.usage⟩

theorem Stops.agrees {timer : Event} {begun : Context} {figures : Snapshot}
    (stops : started.Stops timer begun figures ended) : started.Agrees ended := by
  have timings : begun.timings = started.simulation.context.timings := by rw [stops.begins]
  have usage : begun.usage = started.simulation.context.usage := by rw [stops.begins]
  refine ⟨?_, ?_, ?_, ?_, ?_⟩
  · rw [stops.orchestrator]
  · rw [stops.orchestrator]
  · rw [stops.orchestrator]
  · rw [stops.context, timings]
  · rw [stops.context, usage]

theorem Reached.cons
    (stepped : (started.simulation.step Orchestrator.handle started.orchestrator).outcome =
      .ok (some event, after.simulation, after.orchestrator))
    (reached : after.Reached rest ended) :
    started.Reached (⟨event, started, after⟩ :: rest) ended := by
  induction reached with
  | start =>
      have begun : started.Reached [] started := .start
      exact begun.turn stepped
  | turn _ later ih => exact .turn ih later

theorem Reached.cases_head (reached : started.Reached turns ended) :
    (turns = [] ∧ ended = started) ∨ ∃ event after rest,
      turns = ⟨event, started, after⟩ :: rest ∧ after.Reached rest ended ∧
        (started.simulation.step Orchestrator.handle started.orchestrator).outcome =
          .ok (some event, after.simulation, after.orchestrator) := by
  induction reached with
  | start => exact .inl ⟨rfl, rfl⟩
  | turn _ stepped ih =>
      refine .inr ?_
      rcases ih with ⟨rfl, rfl⟩ | ⟨event, after, rest, rfl, reached, first⟩
      · exact ⟨_, _, [], rfl, .start, stepped⟩
      · exact ⟨event, after, _, rfl, .turn reached stepped, first⟩

theorem Reached.last {turn : Turn} (reached : started.Reached turns ended)
    (last : turns.getLast? = some turn) : turn.after = ended := by
  cases reached with
  | start => cases last
  | turn =>
      rw [List.getLast?_concat] at last
      cases last
      rfl

theorem Reached.of_halted (reached : started.Reached turns ended)
    (isOver : started.simulation.context.halted = true) : turns = [] ∧ ended = started := by
  rcases reached.cases_head with same | ⟨_, _, _, _, _, stepped⟩
  · exact same
  · rw [Simulation.step_outcome, if_pos isOver] at stepped
    cases stepped

theorem Reached.first_turn (running : started.simulation.context.halted = false)
    (reached : started.Reached turns ended) (isOver : ended.simulation.isTerminated = true) :
    ∃ event after rest begun reacted, turns = ⟨event, started, after⟩ :: rest ∧
      after.Reached rest ended ∧
      (started.simulation.step Orchestrator.handle started.orchestrator).outcome =
        .ok (some event, after.simulation, after.orchestrator) ∧
      started.simulation.Dispatches Orchestrator.handle started.orchestrator event
        after.simulation after.orchestrator begun reacted := by
  rcases reached.cases_head with ⟨_, rfl⟩ | ⟨event, after, rest, rfl, reached, stepped⟩
  · rw [Simulation.isTerminated, running] at isOver
    cases isOver
  · obtain ⟨begun, reacted, dispatches⟩ := Simulation.dispatches_of_step stepped
    exact ⟨event, after, rest, begun, reacted, rfl, reached, stepped, dispatches⟩

theorem run_course {figures : Snapshot} (ran : scenario.run.outcome = .ok (.ok figures, ended)) :
    ∃ started turns, scenario.start.outcome = .ok (.ok (), started) ∧
      started.Reached turns ended ∧ ended.orchestrator.snapshot = some figures := by
  obtain ⟨⟨result, started⟩, starts, ran⟩ := Run.outcome_bind_eq_ok_iff.mp ran
  cases result with
  | error rejection => cases ran
  | ok =>
      obtain ⟨⟨count, simulation, orchestrator⟩, counted, last⟩ :=
        Run.outcome_bind_eq_ok_iff.mp ran
      have same := Except.ok.inj last
      simp only [Prod.mk.injEq] at same
      obtain ⟨taken, rfl⟩ := same
      obtain ⟨turns, reached⟩ := Reached.start.runFor counted
      refine ⟨started, turns, starts, reached, ?_⟩
      unfold Orchestrator.snapshot? at taken
      split at taken
      next snapshot kept =>
        cases taken
        exact kept
      · cases taken

theorem Reached.running_of_snapshot (reached : started.Reached turns scenario)
    (running : started.simulation.context.halted = false)
    (taken : started.orchestrator.snapshot.isSome = true) :
    scenario.simulation.context.halted = false := by
  refine (reached.keeps (motive := fun _ scenario =>
    scenario.simulation.context.halted = false ∧ scenario.orchestrator.snapshot.isSome = true)
    ⟨running, taken⟩ ?_).1
  intro _ before event after begun reacted ⟨_, taken⟩ dispatches
  have still : reacted.halted = false ∧ after.orchestrator.snapshot.isSome = true := by
    by_cases stops : event.payload = .stop
    · have ended := Orchestrator.handle_of_stop stops dispatches.reacts
      simp only [Orchestrator.stop, taken, ↓reduceIte, Act.ends_bind_iff, Act.ends_note_iff,
        Act.ends_pure_iff] at ended
      obtain ⟨_, _, rfl, same, rfl⟩ := ended
      rw [same]
      exact ⟨dispatches.begun_running, taken⟩
    · rw [dispatches.reaction.snapshot_eq stops]
      exact ⟨(gains_of_dispatches dispatches stops).halted.trans dispatches.begun_running, taken⟩
  refine ⟨?_, still.2⟩
  rw [dispatches.context, Context.settled, if_neg (by simp [still.1])]
  exact still.1

theorem Reached.unfinished (running : started.simulation.context.halted = false)
    (reached : started.Reached turns ended) (isOver : ended.simulation.isTerminated = true) :
    started.orchestrator.snapshot = none := by
  cases taken : started.orchestrator.snapshot with
  | none => rfl
  | some figures =>
      have still := reached.running_of_snapshot running (by simp [taken])
      rw [Simulation.isTerminated, still] at isOver
      cases isOver

theorem course_of_over {orchestrator : Orchestrator}
    (starts : (ofOrchestrator orchestrator).start.outcome = .ok (.ok (), started))
    (reached : started.Reached turns ended) (isOver : ended.simulation.isTerminated = true) :
    orchestrator.start.Ends .initial (.ok (), started.orchestrator) started.simulation.context ∧
      ∃ timer, started.Underway timer ∧ timer.time.ticks = orchestrator.config.runLength := by
  have unstarted : (ofOrchestrator orchestrator).isStarted = false := by
    rw [← Bool.not_eq_true]
    intro begun
    rw [start_of_isStarted begun] at starts
    cases starts
    obtain ⟨_, _, _, _, _, _, _, _, dispatches⟩ := reached.first_turn rfl isOver
    cases dispatches.pending
  obtain ⟨begins, _⟩ := start_outcome unstarted starts
  have unarmed : ∀ event ∈ Context.initial.agenda.pending, event.payload ≠ .stop :=
    fun _ member => absurd member List.not_mem_nil
  obtain ⟨same, running, timer, armed, due⟩ := Orchestrator.start_arms rfl unarmed begins
  exact ⟨begins, timer, ⟨running, reached.unfinished running isOver, armed⟩,
    due.trans (Nat.zero_add _)⟩

def started? (scenario : Scenario) : Option Scenario :=
  match scenario.start.outcome with
  | .ok (.ok (), started) => some started
  | _ => none

theorem started?_eq_some (begins : scenario.started? = some started) :
    scenario.start.outcome = .ok (.ok (), started) := by
  unfold started? at begins
  split at begins
  next starts =>
    cases begins
    exact starts
  · cases begins

/-- The turns that a started scenario takes, up to a limit or until it is over or fails. -/
def firstTurns : Nat → Scenario → List Turn
  | 0, _ => []
  | limit + 1, scenario =>
      match (scenario.simulation.step Orchestrator.handle scenario.orchestrator).outcome with
      | .ok (some event, simulation, orchestrator) =>
          ⟨event, scenario, ⟨simulation, orchestrator⟩⟩ ::
            firstTurns limit ⟨simulation, orchestrator⟩
      | _ => []

theorem reached_firstTurns (limit : Nat) (scenario : Scenario) :
    ∃ ended, scenario.Reached (scenario.firstTurns limit) ended := by
  induction limit generalizing scenario with
  | zero => exact ⟨scenario, .start⟩
  | succ limit ih =>
      simp only [firstTurns]
      split
      next event simulation orchestrator stepped =>
        obtain ⟨ended, later⟩ := ih ⟨simulation, orchestrator⟩
        exact ⟨ended, Reached.cons stepped later⟩
      · exact ⟨scenario, .start⟩

def finish? (scenario : Scenario) : Option (Snapshot × Scenario) :=
  match scenario.run.outcome with
  | .ok (.ok figures, ended) => some (figures, ended)
  | _ => none

theorem finishes_of_any {passes : Snapshot × Scenario → Bool}
    (finishes : scenario.finish?.any passes = true) :
    ∃ figures ended, scenario.run.outcome = .ok (.ok figures, ended) ∧
      passes (figures, ended) = true := by
  obtain ⟨⟨figures, ended⟩, finished, passed⟩ := (Option.any_eq_true _ _).mp finishes
  unfold finish? at finished
  split at finished
  next ran =>
    cases finished
    exact ⟨figures, ended, ran, passed⟩
  · cases finished

end Scenario
end FogNetwork
