import FogNetwork.Proofs.Outstanding
import FogNetwork.Proofs.Runs
import Mathlib.Order.WellFounded

/-! Every run ends: after finitely many turns its timer goes off, unless a number outgrows its range
before. -/

namespace FogNetwork

/-! The engine goes on as long as there is anything to dispatch. -/

namespace Simulation

variable {σ : Type} {react : Event → σ → Act σ} {simulation after : Simulation} {state next : σ}

theorem finished_of_step
    (stepped : (simulation.step react state).outcome = .ok (none, after, next)) :
    simulation.isFinished = true := by
  rw [step_outcome] at stepped
  split at stepped
  next halted => simp [isFinished, isTerminated, halted]
  · split at stepped
    next idle => simp [isFinished, Agenda.isEmpty_of_next?_eq_none idle]
    · split at stepped
      · cases stepped
      · split at stepped
        · split at stepped <;> cases stepped
        · cases stepped

theorem runOnto_finished {limit : Nat} {written : List Notice}
    (counted : simulation.eventsProcessed ≤ largest)
    (enough : largest < simulation.eventsProcessed + limit)
    (ran : (runOnto react limit written simulation state).outcome = .ok (after, next)) :
    after.isFinished = true := by
  induction limit generalizing written simulation state with
  | zero => omega
  | succ limit ih =>
      rw [runOnto_outcome_succ] at ran
      split at ran
      · cases ran
      next stepped =>
        cases ran
        obtain ⟨rfl, _⟩ := unchanged_of_step stepped
        exact finished_of_step stepped
      next stepped =>
        obtain ⟨_, _, dispatches⟩ := dispatches_of_step stepped
        have one := dispatches.counted
        exact ih dispatches.countable (by omega) ran

theorem run_finished {count : Nat} (counted : simulation.eventsProcessed ≤ largest)
    (ran : (simulation.run react state).outcome = .ok (count, after, next)) :
    after.isFinished = true := by
  obtain ⟨⟨reached, last⟩, ran, same⟩ := Run.outcome_bind_eq_ok_iff.mp ran
  cases same
  exact runOnto_finished counted (by omega) ran

end Simulation

def Context.Timely (context : Context) : Prop :=
  ∀ event ∈ context.agenda.pending, context.now.ticks ≤ event.time.ticks

theorem Expressible.timely {α : Type} {allowed : Notice → Prop} {act : Act α}
    {before after : Context} {value : α} (expressible : Expressible allowed act)
    (timely : before.Timely) (ended : act.Ends before value after) : after.Timely := by
  obtain ⟨entered, advances⟩ := expressible.advances ended
  intro event member
  rw [advances.now]
  rcases List.mem_append.mp (advances.pending.subset member) with old | new
  · exact timely event old
  · exact advances.notPast event new

namespace Scenario

variable {started scenario : Scenario} {turns : List Turn} {timer : Event}

theorem Reached.timely (reached : started.Reached turns scenario)
    (timely : started.simulation.context.Timely) : scenario.simulation.context.Timely := by
  refine reached.keeps (motive := fun _ scenario => scenario.simulation.context.Timely) timely ?_
  intro _ before event after begun reacted _ dispatches
  have ordered := before.simulation.context.agenda.ordered
  rw [dispatches.pending, List.pairwise_cons] at ordered
  have first : begun.Timely := by
    intro other member
    have later := ordered.1 other member
    rw [dispatches.begins]
    simp only [Event.before] at later
    dsimp only
    omega
  have last : reacted.Timely :=
    (before.orchestrator.handle_expressible event).timely first dispatches.reacts
  rw [dispatches.context, Context.settled]
  split
  · exact fun _ member => absurd member List.not_mem_nil
  · exact last

theorem Reached.lowers (underway : started.Underway timer) (paced : started.orchestrator.Paced)
    (reached : started.Reached turns scenario) :
    ∀ turn ∈ turns, turn.after.outstanding timer.time.ticks <
      turn.before.outstanding timer.time.ticks := by
  induction reached with
  | start => exact fun _ member => absurd member List.not_mem_nil
  | @turn turns before after event reached stepped ih =>
      intro turn member
      rcases List.mem_append.mp member with old | new
      · exact ih turn old
      obtain rfl := List.mem_singleton.mp new
      obtain ⟨begun, reacted, dispatches⟩ := Simulation.dispatches_of_step stepped
      rcases (reached.underway underway).2 with still | isOver
      · by_cases stops : event.payload = .stop
        · obtain ⟨_, figures, halting⟩ := still.stops dispatches stops
          exact halting.lowers
        · exact Scenario.lowers (reached.paced paced) dispatches (still.goes_on dispatches stops).2
            stops (still.armed.due dispatches.pending)
      · rw [dispatches.running] at isOver
        cases isOver

theorem Underway.not_finished (underway : scenario.Underway timer) :
    scenario.simulation.isFinished = false := by
  have running : scenario.simulation.isTerminated = false := underway.running
  have pending := underway.armed.pending
  rw [Simulation.isFinished, running, Bool.false_or, Agenda.isEmpty, List.isEmpty_eq_false_iff]
  intro none
  rw [none] at pending
  cases pending

theorem Reached.step_fault {fault : Fault} (underway : started.Underway timer)
    (timely : started.simulation.context.Timely) (reached : started.Reached turns scenario)
    (failed : (scenario.simulation.step Orchestrator.handle scenario.orchestrator).outcome =
      .error fault) : fault = .overflow ∨ fault = .unreachableTime := by
  have within := reached.within started.orchestrator.within_any
  rcases (reached.underway underway).2 with still | isOver
  · rcases still.step_fault within failed with large | ⟨now, late, rfl⟩ | ⟨far, _⟩
    · exact .inl large
    · exact absurd failed (Simulation.step_sound
        (fun event orchestrator => orchestrator.handle_expressible event) (reached.timely timely))
    · exact .inr far
  · rw [Simulation.step_outcome, if_pos isOver] at failed
    cases failed

theorem Underway.run_fault {fault : Fault} (underway : started.Underway timer)
    (timely : started.simulation.context.Timely)
    (failed : (started.simulation.run Orchestrator.handle started.orchestrator).outcome =
      .error fault) : fault = .overflow ∨ fault = .unreachableTime := by
  by_contra other
  rcases Run.outcome_bind_eq_error_iff.mp failed with early | ⟨_, _, late⟩
  · refine Simulation.runOnto_fails (motive := fun simulation orchestrator =>
      ∃ turns, started.Reached turns ⟨simulation, orchestrator⟩) ?_ ?_ ⟨[], .start⟩ early
    · intro simulation orchestrator event after next ⟨turns, reached⟩ stepped
      exact ⟨_, .turn reached stepped⟩
    · rintro simulation orchestrator ⟨turns, reached⟩ failed
      exact other (reached.step_fault underway timely failed)
  · cases late

theorem Underway.run_terminates {count : Nat} {simulation : Simulation}
    {orchestrator : Orchestrator} (underway : started.Underway timer)
    (counted : started.simulation.eventsProcessed ≤ largest)
    (ran : (started.simulation.run Orchestrator.handle started.orchestrator).outcome =
      .ok (count, simulation, orchestrator)) :
    simulation.isTerminated = true ∧ ∃ figures, orchestrator.snapshot = some figures := by
  obtain ⟨turns, reached⟩ := Reached.start.runFor ran
  have finished := Simulation.run_finished counted ran
  rcases (reached.underway underway).2 with still | isOver
  · rw [still.not_finished] at finished
    cases finished
  · obtain ⟨_, _, _, figures, _, _, stops⟩ := reached.stopped underway isOver
    exact ⟨isOver, figures, congrArg Orchestrator.snapshot stops.orchestrator⟩

theorem start_fault {fault : Fault} (unstarted : scenario.isStarted = false)
    (failed : scenario.start.outcome = .error fault) :
    (scenario.orchestrator.start.run scenario.simulation.context).outcome = .error fault := by
  rw [start, unstarted] at failed
  rcases Run.outcome_bind_eq_error_iff.mp failed with early | ⟨_, _, late⟩
  · rcases Run.outcome_bind_eq_error_iff.mp early with begins | ⟨_, _, late⟩
    · exact begins
    · cases late
  · cases late

theorem run_outcome_of_start (starts : scenario.start.outcome = .ok (.ok (), started)) :
    scenario.run.outcome =
      match (started.simulation.run Orchestrator.handle started.orchestrator).outcome with
      | .ok (_, simulation, orchestrator) =>
          .ok (orchestrator.snapshot?, ⟨simulation, orchestrator⟩)
      | .error fault => .error fault := by
  rw [run, whenStarted, Run.outcome_bind, starts]
  dsimp only
  rw [Run.outcome_bind]
  cases (started.simulation.run Orchestrator.handle started.orchestrator).outcome <;> rfl

end Scenario

namespace Orchestrator

variable {orchestrator next : Orchestrator} {before after : Context} {now : Time}

theorem start_modest (orchestrator : Orchestrator) :
    Act.Modest now (fun _ _ => True) orchestrator.start fun _ => True := by
  refine Act.Modest.look.bind fun _ _ => ?_
  split
  · exact .pure trivial
  · exact (orchestrator.launch_modest.mono (fun _ _ _ => trivial) fun _ own => own).bind fun _ _ =>
      Act.Modest.scheduleAfter trivial <| Act.Modest.scheduleAfter trivial <|
        (orchestrator.rouse_modest.mono (fun _ _ _ => trivial) fun _ own => own).bind fun _ _ =>
          (Act.Modest.note _).bind fun _ _ => .pure trivial

theorem start_result {result : Except Rejection Unit}
    (ready : orchestrator.readyAt before.now = .ok ())
    (ended : orchestrator.start.Ends before (result, next) after) : result = .ok () := by
  simp only [start, Act.ends_bind_iff, Act.ends_now_iff] at ended
  obtain ⟨_, _, ⟨rfl, rfl⟩, ended⟩ := ended
  simp only [ready, Act.ends_bind_iff, Act.ends_pure_iff] at ended
  obtain ⟨_, _, _, _, _, _, _, _, _, _, _, _, _, _, _, same, _⟩ := ended
  exact (Prod.mk.inj same).1

end Orchestrator

/-- The numbers that say when a run has something to do are times that there are. -/
structure Blueprint.InRange (blueprint : Blueprint) : Prop where
  control : blueprint.config.controlInterval ≤ largest
  length : blueprint.config.runLength ≤ largest
  delay : ∀ mapped, blueprint.mapped = some mapped → mapped.delay ≤ largest

namespace Blueprint

variable {blueprint : Blueprint} {built started scenario : Scenario} {turns : List Turn}

theorem InRange.ready (inRange : blueprint.InRange)
    (builds : blueprint.build.outcome = .ok (.ok built)) :
    built.orchestrator.readyAt .zero = .ok () := by
  obtain ⟨config, _, submitted⟩ := build_settings builds
  obtain ⟨_, unstarted⟩ := build_initial builds
  have reach {delay : Nat} (fits : delay ≤ largest) : (Time.zero.after? delay).isNone = false := by
    simp [Time.after?, sum?, Time.zero, fits]
  have launch : (built.orchestrator.active.map (·.delay)).getD 0 ≤ largest := by
    cases active : built.orchestrator.active with
    | none => exact Nat.zero_le _
    | some held =>
        obtain ⟨mapped, mapping, same⟩ := submitted held active
        exact same.trans_le (inRange.delay mapped mapping)
  have reachable : Orchestrator.unreachable? .zero
      [(built.orchestrator.active.map (·.delay)).getD 0, blueprint.config.controlInterval,
        blueprint.config.runLength] = none := by
    simp only [Orchestrator.unreachable?, List.find?_cons, reach launch, reach inRange.control,
      reach inRange.length, List.find?_nil]
  rw [← config] at reachable
  have valid : built.orchestrator.config.validate = .ok () := config ▸ config_valid builds
  have fresh : built.orchestrator.isStarted = false := by
    simp [Orchestrator.isStarted, unstarted]
  simp only [Orchestrator.readyAt, fresh, valid, reachable, Bool.false_eq_true, ↓reduceIte]
  rfl

theorem started_underway (builds : blueprint.build.outcome = .ok (.ok built))
    (starts : built.start.outcome = .ok (.ok (), started)) :
    started.orchestrator = { built.orchestrator with startedAt := some .zero } ∧
      started.simulation.context.Timely ∧ started.simulation.eventsProcessed = 0 ∧
      ∃ timer, started.Underway timer ∧ timer.time.ticks = blueprint.config.runLength := by
  obtain ⟨initial, unstarted⟩ := build_initial builds
  obtain ⟨config, fresh, _⟩ := build_settings builds
  obtain ⟨begins, processed⟩ := Scenario.start_outcome
    (by rw [Scenario.isStarted, Orchestrator.isStarted, unstarted]; rfl) starts
  rw [initial] at begins processed
  have unarmed : ∀ event ∈ Simulation.initial.context.agenda.pending, event.payload ≠ .stop :=
    fun _ member => absurd member List.not_mem_nil
  have timely : Simulation.initial.context.Timely :=
    fun _ member => absurd member List.not_mem_nil
  obtain ⟨same, running, timer, armed, due⟩ := Orchestrator.start_arms rfl unarmed begins
  refine ⟨same, (built.orchestrator.start_expressible).timely timely begins, processed, timer,
    ⟨running, ?_, armed⟩, ?_⟩
  · rw [same]
    exact fresh
  · rw [due, config]
    exact Nat.zero_add _

theorem Timed.lowers (timed : blueprint.Timed) (builds : blueprint.build.outcome = .ok (.ok built))
    (starts : built.start.outcome = .ok (.ok (), started))
    (reached : started.Reached turns scenario) :
    ∀ turn ∈ turns, turn.after.outstanding blueprint.config.runLength <
      turn.before.outstanding blueprint.config.runLength := by
  obtain ⟨same, _, _, timer, underway, due⟩ := started_underway builds starts
  have paced := timed.of_build builds
  have own : started.orchestrator.Paced := by
    rw [same]
    exact ⟨paced.control, paced.sensors, paced.devices⟩
  rw [← due]
  exact reached.lowers underway own

theorem Timed.path_ends (timed : blueprint.Timed)
    (builds : blueprint.build.outcome = .ok (.ok built)) {path : ℕ → Scenario}
    (starts : built.start.outcome = .ok (.ok (), path 0)) :
    ∃ step, ∀ event,
      ((path step).simulation.step Orchestrator.handle (path step).orchestrator).outcome ≠
        .ok (some event, (path (step + 1)).simulation, (path (step + 1)).orchestrator) := by
  by_contra goesOn
  push Not at goesOn
  have reaches : ∀ step, ∃ turns, (path 0).Reached turns (path step) := by
    intro step
    induction step with
    | zero => exact ⟨[], .start⟩
    | succ step ih =>
        obtain ⟨turns, reached⟩ := ih
        obtain ⟨event, stepped⟩ := goesOn step
        exact ⟨_, .turn reached stepped⟩
  obtain ⟨step, still⟩ := WellFounded.not_rel_apply_succ (r := (· < ·)) fun step =>
    (path step).outstanding blueprint.config.runLength
  obtain ⟨turns, reached⟩ := reaches step
  obtain ⟨event, stepped⟩ := goesOn step
  exact still (timed.lowers builds starts (.turn reached stepped)
    ⟨event, path step, path (step + 1)⟩ (by simp))

theorem InRange.run_outcome (inRange : blueprint.InRange)
    (builds : blueprint.build.outcome = .ok (.ok built)) :
    built.run.outcome = .error .overflow ∨ built.run.outcome = .error .unreachableTime ∨
      ∃ figures ended, built.run.outcome = .ok (.ok figures, ended) ∧
        ended.simulation.isTerminated = true := by
  obtain ⟨initial, unstarted⟩ := build_initial builds
  have unstarted : built.isStarted = false := by
    rw [Scenario.isStarted, Orchestrator.isStarted, unstarted]
    rfl
  cases begun : built.start.outcome with
  | error fault =>
      have failed := Scenario.start_fault unstarted begun
      have ran : built.run.outcome = .error fault := by
        rw [Scenario.run, Scenario.whenStarted, Run.outcome_bind, begun]
      rcases (Orchestrator.start_modest built.orchestrator).fails rfl failed with rfl | ⟨rfl, _⟩
      · exact .inl ran
      · exact .inr (.inl ran)
  | ok reached =>
      obtain ⟨result, started⟩ := reached
      obtain ⟨begins, _⟩ := Scenario.start_outcome unstarted begun
      rw [initial] at begins
      have ready : built.orchestrator.readyAt Simulation.initial.context.now = .ok () :=
        inRange.ready builds
      obtain rfl := Orchestrator.start_result ready begins
      obtain ⟨_, timely, counted, timer, underway, _⟩ := started_underway builds begun
      rw [Scenario.run_outcome_of_start begun]
      cases ran : (started.simulation.run Orchestrator.handle started.orchestrator).outcome with
      | error fault =>
          rcases underway.run_fault timely ran with rfl | rfl
          · exact .inl rfl
          · exact .inr (.inl rfl)
      | ok reached =>
          obtain ⟨count, simulation, orchestrator⟩ := reached
          obtain ⟨isOver, figures, taken⟩ := underway.run_terminates (by simp [counted]) ran
          refine .inr (.inr ⟨figures, ⟨simulation, orchestrator⟩, ?_, isOver⟩)
          simp only [Orchestrator.snapshot?, taken]

/-- A run comes to its end, with its figures, unless a number outgrows its range before. Every turn
leaves less outstanding, in an order in which nothing grows less forever. -/
theorem run_ends (timed : blueprint.Timed) (inRange : blueprint.InRange)
    (builds : blueprint.build.outcome = .ok (.ok built)) :
    (∀ started turns scenario, built.start.outcome = .ok (.ok (), started) →
      started.Reached turns scenario → ∀ turn ∈ turns,
        turn.after.outstanding blueprint.config.runLength <
          turn.before.outstanding blueprint.config.runLength) ∧
    (∀ path : ℕ → Scenario, built.start.outcome = .ok (.ok (), path 0) →
      ∃ step, ∀ event,
        ((path step).simulation.step Orchestrator.handle (path step).orchestrator).outcome ≠
          .ok (some event, (path (step + 1)).simulation, (path (step + 1)).orchestrator)) ∧
    (built.run.outcome = .error .overflow ∨ built.run.outcome = .error .unreachableTime ∨
      ∃ figures ended, built.run.outcome = .ok (.ok figures, ended) ∧
        ended.simulation.isTerminated = true) :=
  ⟨fun _ _ _ starts reached => timed.lowers builds starts reached,
    fun _ starts => timed.path_ends builds starts, inRange.run_outcome builds⟩

end Blueprint

namespace Demo

def ringApplication : Application :=
  { Application.named "ring" with
    modules := [⟨"ping", 10, []⟩, ⟨"pong", 10, []⟩]
    edges := [{ Edge.between "BALL" "ping" "BALL" .sensor with cpuLength := 10, dataSize := 5 },
      { Edge.between "ping" "pong" "PING" .module with dataSize := 1 },
      { Edge.between "pong" "ping" "PONG" .module with dataSize := 1 }] }

def ring : Blueprint :=
  { Blueprint.empty with
    config := ⟨50, 45⟩
    relays := [.named ⟨0⟩ "left", (Relay.named ⟨1⟩ "right").withParent ⟨0⟩ 0]
    sensors := [((Sensor.named ⟨0⟩ "player" "BALL" "ring").attachedTo ⟨0⟩ 0).every 20]
    mapped := some ⟨ringApplication, (Mapping.empty.add "left" "ping").add "right" "pong", 0⟩ }

theorem ring_timed : ring.Timed := by
  refine ⟨nofun, ?_, ?_⟩
  · intro relay member
    simp only [ring, List.mem_cons, List.not_mem_nil, or_false] at member
    rcases member with rfl | rfl
    · exact ⟨by decide, nofun⟩
    · exact ⟨by decide, nofun⟩
  · intro sensor member
    obtain rfl := List.mem_singleton.mp member
    decide

theorem ring_inRange : ring.InRange := by
  refine ⟨by decide, by decide, ?_⟩
  rintro _ ⟨⟩
  decide

theorem ring_finishes : ∃ built figures ended, ring.build.outcome = .ok (.ok built) ∧
    built.run.outcome = .ok (.ok figures, ended) ∧
      figures.processedPerModule.get? "pong" = some 1 := by
  have finishes : (ring.after? []).any (fun built => built.finish?.any fun finished =>
      decide (finished.1.processedPerModule.get? "pong" = some 1)) = true := by
    decide +kernel
  obtain ⟨scenario, left, finishes⟩ := (Option.any_eq_true _ _).mp finishes
  obtain ⟨built, builds, same⟩ := Blueprint.after?_eq_some left
  cases same
  obtain ⟨figures, ended, ran, passed⟩ := Scenario.finishes_of_any finishes
  exact ⟨_, figures, ended, builds, ran, of_decide_eq_true passed⟩

end Demo

theorem Blueprint.run_ends_ring : ∃ built figures ended started turns,
    Demo.ring.build.outcome = .ok (.ok built) ∧ built.run.outcome = .ok (.ok figures, ended) ∧
      ended.simulation.isTerminated = true ∧
      figures.processedPerModule.get? "pong" = some 1 ∧
      built.start.outcome = .ok (.ok (), started) ∧ started.Reached turns ended ∧
      ∀ turn ∈ turns, turn.after.outstanding 45 < turn.before.outstanding 45 := by
  obtain ⟨built, figures, ended, builds, ran, processed⟩ := Demo.ring_finishes
  obtain ⟨lowers, _, outcome⟩ := run_ends Demo.ring_timed Demo.ring_inRange builds
  obtain ⟨started, turns, starts, reached, _⟩ := Scenario.run_course ran
  have isOver : ended.simulation.isTerminated = true := by
    rw [ran] at outcome
    rcases outcome with large | far | ⟨_, _, same, isOver⟩
    · cases large
    · cases far
    · cases same
      exact isOver
  exact ⟨built, figures, ended, started, turns, builds, ran, isOver, processed, starts, reached,
    lowers started turns ended starts reached⟩

end FogNetwork
