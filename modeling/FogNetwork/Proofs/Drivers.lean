import FogNetwork.Proofs.Endings

/-! The ways to drive a scenario agree: whatever is asked of it, it starts once and then takes
steps, as many as are asked for, and reports the same on the way. -/

namespace FogNetwork

namespace Run

variable {α β : Type}

theorem ext {left right : Run α} (notices : left.notices = right.notices)
    (outcome : left.outcome = right.outcome) : left = right :=
  Logged.ext notices outcome

@[simp] theorem notices_pure (value : α) : (pure value : Run α).notices = [] := rfl

theorem bind_congr {first : Run α} {left right : α → Run β}
    (agree : ∀ value, first.outcome = .ok value → left value = right value) :
    first >>= left = first >>= right := by
  refine ext ?_ ?_
  · rw [notices_bind, notices_bind]
    cases reached : first.outcome with
    | error fault => rfl
    | ok value => exact congrArg (first.notices ++ ·.notices) (agree value reached)
  · rw [outcome_bind, outcome_bind]
    cases reached : first.outcome with
    | error fault => rfl
    | ok value => exact congrArg outcome (agree value reached)

end Run

namespace Simulation

variable {σ : Type} {react : Event → σ → Act σ} {simulation after : Simulation} {state next : σ}

theorem step_of_finished (finished : simulation.isFinished = true) :
    simulation.step react state = pure (none, simulation, state) := by
  unfold step
  dsimp only
  split
  · rfl
  next running =>
    split
    · rfl
    next event agenda taken =>
      rw [isFinished, isTerminated, Bool.or_eq_true] at finished
      rcases finished with halted | idle
      · exact absurd halted running
      · rw [Agenda.isEmpty, (Agenda.next?_eq_some taken).1] at idle
        cases idle

def stepTimes (react : Event → σ → Act σ) : Nat → Simulation → σ → Run (Simulation × σ)
  | 0, simulation, state => pure (simulation, state)
  | count + 1, simulation, state => do
      let (_, simulation, state) ← simulation.step react state
      stepTimes react count simulation state

theorem stepTimes_of_finished (react : Event → σ → Act σ) (state : σ)
    (finished : simulation.isFinished = true) (count : Nat) :
    stepTimes react count simulation state = pure (simulation, state) := by
  induction count with
  | zero => rfl
  | succ count ih =>
      rw [stepTimes, step_of_finished finished, pure_bind]
      exact ih

theorem stepTimes_add (first second : Nat) (simulation : Simulation) (state : σ) :
    stepTimes react (first + second) simulation state = (do
      let (simulation, state) ← stepTimes react first simulation state
      stepTimes react second simulation state) := by
  induction first generalizing simulation state with
  | zero => rw [Nat.zero_add, stepTimes, pure_bind]
  | succ first ih =>
      rw [Nat.succ_add, stepTimes, stepTimes, bind_assoc]
      exact congrArg _ (funext fun _ => ih ..)

theorem runOnto_eq (react : Event → σ → Act σ) (limit : Nat) (written : List Notice)
    (simulation : Simulation) (state : σ) :
    (runOnto react limit written simulation state).notices =
        written.reverse ++ (stepTimes react limit simulation state).notices ∧
      (runOnto react limit written simulation state).outcome =
        (stepTimes react limit simulation state).outcome := by
  induction limit generalizing written simulation state with
  | zero => exact ⟨(List.append_nil _).symm, rfl⟩
  | succ limit ih =>
      have reported : ((simulation.step react state).notices.reverseAux written).reverse =
          written.reverse ++ (simulation.step react state).notices := by
        rw [List.reverseAux_eq, List.reverse_append, List.reverse_reverse]
      rw [stepTimes, Run.notices_bind, Run.outcome_bind, runOnto]
      dsimp only
      cases stepped : (simulation.step react state).outcome with
      | error fault => exact ⟨reported.trans (by simp), rfl⟩
      | ok result =>
          obtain ⟨event?, after, next⟩ := result
          cases event? with
          | none =>
              obtain ⟨rfl, rfl⟩ := unchanged_of_step stepped
              have ended := stepTimes_of_finished react next (finished_of_step stepped) limit
              dsimp only
              rw [ended]
              exact ⟨by rw [Run.notices_pure, List.append_nil]; exact reported, rfl⟩
          | some event =>
              obtain ⟨notices, outcome⟩ :=
                ih ((simulation.step react state).notices.reverseAux written) after next
              exact ⟨by rw [notices, reported, List.append_assoc], outcome⟩

theorem runFor_eq (limit : Nat) (simulation : Simulation) (state : σ) :
    simulation.runFor react limit state = (do
      let (reached, state) ← stepTimes react limit simulation state
      return (reached.eventsProcessed - simulation.eventsProcessed, reached, state)) := by
  obtain ⟨notices, outcome⟩ := runOnto_eq react limit [] simulation state
  rw [runFor, Run.ext notices outcome]

theorem eventsProcessed_le {limit : Nat}
    (stepped : (stepTimes react limit simulation state).outcome = .ok (after, next)) :
    simulation.eventsProcessed ≤ after.eventsProcessed := by
  rw [← (runOnto_eq react limit [] simulation state).2] at stepped
  refine runOnto_keeps (motive := fun after _ =>
    simulation.eventsProcessed ≤ after.eventsProcessed) ?_ (Nat.le_refl _) stepped
  intro between state event after next earlier stepped
  obtain ⟨_, _, dispatches⟩ := dispatches_of_step stepped
  rw [dispatches.counted]
  omega

theorem runFor_add (first second : Nat) (simulation : Simulation) (state : σ) :
    simulation.runFor react (first + second) state = (do
      let (count, simulation, state) ← simulation.runFor react first state
      let (more, simulation, state) ← simulation.runFor react second state
      return (count + more, simulation, state)) := by
  simp only [runFor_eq, stepTimes_add, bind_assoc, pure_bind]
  refine Run.bind_congr fun halfway reached => ?_
  obtain ⟨middle, state⟩ := halfway
  refine Run.bind_congr fun done ended => ?_
  obtain ⟨last, state⟩ := done
  have early : simulation.eventsProcessed ≤ middle.eventsProcessed := eventsProcessed_le reached
  have late : middle.eventsProcessed ≤ last.eventsProcessed := eventsProcessed_le ended
  have counted : last.eventsProcessed - simulation.eventsProcessed =
      middle.eventsProcessed - simulation.eventsProcessed +
        (last.eventsProcessed - middle.eventsProcessed) := by omega
  rw [counted]

theorem run_exhausts {count : Nat}
    (ran : (simulation.run react state).outcome = .ok (count, after, next)) :
    after.isFinished = true := by
  by_cases counted : simulation.eventsProcessed ≤ largest
  · exact run_finished counted ran
  · -- Nothing more can be counted, so nothing is dispatched.
    obtain ⟨⟨reached, last⟩, ran, same⟩ := Run.outcome_bind_eq_ok_iff.mp ran
    cases same
    rw [runOnto_outcome_succ] at ran
    split at ran
    · cases ran
    next stepped =>
      cases ran
      obtain ⟨rfl, rfl⟩ := unchanged_of_step stepped
      exact finished_of_step stepped
    next stepped =>
      obtain ⟨_, _, dispatches⟩ := dispatches_of_step stepped
      have one := dispatches.counted
      have countable := dispatches.countable
      omega

end Simulation

namespace Scenario

variable {scenario begun after : Scenario}

theorem start_eq_of_isStarted (isStarted : scenario.isStarted = true) :
    scenario.start = pure (.ok (), scenario) := by
  rw [start, if_pos isStarted]

theorem start_alternatives (scenario : Scenario) :
    (∃ rejection, scenario.start = pure (.error rejection, scenario)) ∨
      ∀ result begun, scenario.start.outcome = .ok (result, begun) →
        result = .ok () ∧ begun.isStarted = true := by
  cases isStarted : scenario.isStarted with
  | true =>
      refine .inr fun result begun starts => ?_
      rw [start_eq_of_isStarted isStarted] at starts
      cases starts
      exact ⟨rfl, isStarted⟩
  | false =>
      cases ready : scenario.orchestrator.readyAt scenario.simulation.context.now with
      | error rejection =>
          refine .inl ⟨rejection, ?_⟩
          have declines : scenario.orchestrator.start.run scenario.simulation.context =
              pure ((.error rejection, scenario.orchestrator), scenario.simulation.context) := by
            have now : Act.now.run scenario.simulation.context =
              pure (scenario.simulation.context.now, scenario.simulation.context) := rfl
            rw [Orchestrator.start, StateT.run_bind, now, pure_bind, ready]
            rfl
          rw [start, if_neg (by simp [isStarted]), Simulation.perform, declines]
          rfl
      | ok =>
          refine .inr fun result begun starts => ?_
          obtain ⟨begins, _⟩ := start_outcome isStarted starts
          simp only [Orchestrator.start, Act.ends_bind_iff, Act.ends_now_iff] at begins
          obtain ⟨_, _, ⟨rfl, rfl⟩, begins⟩ := begins
          rw [ready] at begins
          simp only [Act.ends_bind_iff, Act.ends_pure_iff] at begins
          obtain ⟨_, _, _, _, _, _, _, _, _, _, _, _, _, _, _, same, _⟩ := begins
          obtain ⟨rfl, orchestrator⟩ := Prod.mk.inj same
          refine ⟨rfl, ?_⟩
          rw [Scenario.isStarted, orchestrator]
          rfl

theorem whenStarted_start {α : Type} (scenario : Scenario)
    (next : Scenario → Run (Except Rejection α × Scenario)) :
    (do (← scenario.start).2.whenStarted next) = scenario.whenStarted next := by
  rcases scenario.start_alternatives with ⟨rejection, rejects⟩ | accepts
  · rw [rejects, pure_bind]
  · refine Run.bind_congr fun launched starts => ?_
    obtain ⟨result, begun⟩ := launched
    obtain ⟨rfl, isStarted⟩ := accepts result begun starts
    dsimp only
    rw [whenStarted, start_eq_of_isStarted isStarted, pure_bind]

def stepTimes : Nat → Scenario → Run Scenario
  | 0, scenario => pure scenario
  | count + 1, scenario => do stepTimes count (← scenario.step).2

theorem stepTimes_add (first second : Nat) (scenario : Scenario) :
    scenario.stepTimes (first + second) = scenario.stepTimes first >>= stepTimes second := by
  induction first generalizing scenario with
  | zero => rw [Nat.zero_add, stepTimes, pure_bind]
  | succ first ih =>
      rw [Nat.succ_add, stepTimes, stepTimes, bind_assoc]
      exact congrArg _ (funext fun _ => ih _)

theorem stepTimes_of_rejected {rejection : Rejection}
    (rejects : scenario.start = pure (.error rejection, scenario)) (count : Nat) :
    scenario.stepTimes count = pure scenario := by
  induction count with
  | zero => rfl
  | succ count ih =>
      rw [stepTimes, step, whenStarted, rejects, pure_bind, pure_bind]
      exact ih

theorem isStarted_of_step {event? : Option Event} {simulation : Simulation}
    {orchestrator : Orchestrator} (isStarted : scenario.isStarted = true)
    (stepped : (scenario.simulation.step Orchestrator.handle scenario.orchestrator).outcome =
      .ok (event?, simulation, orchestrator)) :
    (Scenario.mk simulation orchestrator).isStarted = true := by
  cases event? with
  | none =>
      obtain ⟨rfl, rfl⟩ := Simulation.unchanged_of_step stepped
      exact isStarted
  | some event =>
      obtain ⟨_, _, dispatches⟩ := Simulation.dispatches_of_step stepped
      rw [Scenario.isStarted, Orchestrator.isStarted, dispatches.reaction.keeps.2]
      exact isStarted

theorem stepTimes_of_isStarted (isStarted : scenario.isStarted = true) (count : Nat) :
    scenario.stepTimes count = (do
      let (simulation, orchestrator) ←
        Simulation.stepTimes Orchestrator.handle count scenario.simulation scenario.orchestrator
      return ⟨simulation, orchestrator⟩) := by
  induction count generalizing scenario with
  | zero => rfl
  | succ count ih =>
      rw [stepTimes, Simulation.stepTimes, step, whenStarted, start_eq_of_isStarted isStarted]
      simp only [pure_bind, bind_assoc]
      refine Run.bind_congr fun taken stepped => ?_
      obtain ⟨event?, simulation, orchestrator⟩ := taken
      exact ih (isStarted_of_step isStarted stepped)

theorem isStarted_of_stepTimes {count : Nat} (isStarted : scenario.isStarted = true)
    (stepped : (scenario.stepTimes count).outcome = .ok after) : after.isStarted = true := by
  induction count generalizing scenario with
  | zero =>
      cases stepped
      exact isStarted
  | succ count ih =>
      rw [stepTimes, step, whenStarted, start_eq_of_isStarted isStarted] at stepped
      simp only [pure_bind, bind_assoc] at stepped
      obtain ⟨⟨event?, simulation, orchestrator⟩, first, rest⟩ :=
        Run.outcome_bind_eq_ok_iff.mp stepped
      exact ih (isStarted_of_step isStarted first) rest

def advance (count : Nat) (scenario : Scenario) : Run Scenario := do
  (← scenario.start).2.stepTimes count

theorem advance_succ (count : Nat) (scenario : Scenario) :
    scenario.advance (count + 1) = scenario.stepTimes (count + 1) := by
  rw [stepTimes, step, ← whenStarted_start, bind_assoc]
  rfl

theorem advance_advance (first second : Nat) (scenario : Scenario) :
    scenario.advance first >>= advance second = scenario.advance (first + second) := by
  rw [advance, advance, bind_assoc]
  rcases scenario.start_alternatives with ⟨rejection, rejects⟩ | accepts
  · rw [rejects, pure_bind, pure_bind]
    dsimp only
    rw [stepTimes_of_rejected rejects, stepTimes_of_rejected rejects, pure_bind, advance, rejects,
      pure_bind]
    exact stepTimes_of_rejected rejects second
  · refine Run.bind_congr fun launched starts => ?_
    obtain ⟨result, begun⟩ := launched
    obtain ⟨rfl, isStarted⟩ := accepts result begun starts
    dsimp only
    rw [stepTimes_add]
    refine Run.bind_congr fun after stepped => ?_
    rw [advance, start_eq_of_isStarted (isStarted_of_stepTimes isStarted stepped), pure_bind]

theorem whenStarted_then {α : Type} {next : Scenario → Run (Except Rejection α × Scenario)}
    {count : Nat} (agrees : ∀ begun : Scenario, begun.isStarted = true →
      (do return (← next begun).2) = begun.stepTimes count) (scenario : Scenario) :
    (do return (← scenario.whenStarted next).2) = scenario.advance count := by
  rw [advance, whenStarted, bind_assoc]
  rcases scenario.start_alternatives with ⟨rejection, rejects⟩ | accepts
  · rw [rejects, pure_bind, pure_bind]
    exact (stepTimes_of_rejected rejects count).symm
  · refine Run.bind_congr fun launched starts => ?_
    obtain ⟨result, begun⟩ := launched
    obtain ⟨rfl, isStarted⟩ := accepts result begun starts
    exact agrees begun isStarted

/-- How many steps a call takes at most. A run to the end takes no more than can be counted. -/
def Call.length : Call → Nat
  | .step => 1
  | .runSteps limit => limit
  | .run => largest + 1

theorem Call.perform_eq (call : Call) (scenario : Scenario) :
    call.perform scenario = scenario.advance call.length := by
  cases call with
  | step =>
      refine whenStarted_then (fun begun isStarted => ?_) scenario
      rw [stepTimes_of_isStarted isStarted, Call.length]
      simp only [Simulation.stepTimes, bind_assoc, pure_bind]
  | runSteps limit =>
      refine whenStarted_then (fun begun isStarted => ?_) scenario
      rw [stepTimes_of_isStarted isStarted, Call.length]
      simp only [Simulation.runFor_eq, bind_assoc, pure_bind]
  | run =>
      refine whenStarted_then (fun begun isStarted => ?_) scenario
      rw [stepTimes_of_isStarted isStarted, Call.length]
      simp only [Simulation.run, Simulation.runFor_eq, bind_assoc, pure_bind]

theorem Call.performAll_eq (call : Call) (calls : List Call) (scenario : Scenario) :
    Call.performAll (call :: calls) scenario =
      scenario.advance ((call :: calls).map Call.length).sum := by
  induction calls generalizing call scenario with
  | nil =>
      rw [Call.performAll, List.foldlM_cons, Call.perform_eq]
      exact bind_pure _
  | cons next rest ih =>
      rw [Call.performAll, List.foldlM_cons, Call.perform_eq, List.map_cons, List.sum_cons,
        ← advance_advance]
      exact congrArg _ (funext fun middle => ih next middle)

theorem runSteps_of_isStarted (isStarted : scenario.isStarted = true) (limit : Nat) :
    scenario.runSteps limit = (do
      let (count, simulation, orchestrator) ←
        scenario.simulation.runFor Orchestrator.handle limit scenario.orchestrator
      return (.ok count, ⟨simulation, orchestrator⟩)) := by
  rw [runSteps, whenStarted, start_eq_of_isStarted isStarted, pure_bind]

theorem isStarted_of_runFor {limit count : Nat} {simulation : Simulation}
    {orchestrator : Orchestrator} (isStarted : scenario.isStarted = true)
    (ran : (scenario.simulation.runFor Orchestrator.handle limit scenario.orchestrator).outcome =
      .ok (count, simulation, orchestrator)) :
    (Scenario.mk simulation orchestrator).isStarted = true := by
  obtain ⟨turns, reached⟩ := Reached.start.runFor ran
  have same : orchestrator.startedAt = scenario.orchestrator.startedAt := reached.submission_eq.2
  rw [Scenario.isStarted, Orchestrator.isStarted, same]
  exact isStarted

theorem runSteps_add (first second : Nat) (scenario : Scenario) : (do
      let (count, middle) ← scenario.runSteps first
      let (more, after) ← middle.runSteps second
      return ((do return (← count) + (← more)), after)) = scenario.runSteps (first + second) := by
  rcases scenario.start_alternatives with ⟨rejection, rejects⟩ | accepts
  · have declines (limit : Nat) : scenario.runSteps limit = pure (.error rejection, scenario) := by
      rw [runSteps, whenStarted, rejects, pure_bind]
    rw [declines, declines, pure_bind]
    dsimp only
    rw [declines, pure_bind]
    rfl
  · have after (limit : Nat) : scenario.runSteps limit =
        (do (← scenario.start).2.runSteps limit) := (scenario.whenStarted_start _).symm
    rw [after, after, bind_assoc]
    refine Run.bind_congr fun launched starts => ?_
    obtain ⟨result, begun⟩ := launched
    obtain ⟨rfl, isStarted⟩ := accepts result begun starts
    simp only [runSteps_of_isStarted isStarted, Simulation.runFor_add, bind_assoc, pure_bind]
    refine Run.bind_congr fun counted ran => ?_
    obtain ⟨count, simulation, orchestrator⟩ := counted
    simp only [runSteps_of_isStarted (isStarted_of_runFor isStarted ran), bind_assoc, pure_bind]
    rfl

theorem step_of_isStarted (isStarted : scenario.isStarted = true) : scenario.step = (do
    let (event?, simulation, orchestrator) ←
      scenario.simulation.step Orchestrator.handle scenario.orchestrator
    return (.ok (event?.map fun event => ⟨event.id.number, event.time.ticks,
      event.payload.text, simulation.eventsProcessed⟩), ⟨simulation, orchestrator⟩)) := by
  rw [step, whenStarted, start_eq_of_isStarted isStarted, pure_bind]

theorem isFinished_iff (isStarted : scenario.isStarted = true) :
    scenario.isFinished = true ↔ scenario.step = pure (.ok none, scenario) := by
  rw [isFinished, isStarted, Bool.true_and, step_of_isStarted isStarted]
  constructor
  · intro finished
    rw [Simulation.step_of_finished finished, pure_bind]
    rfl
  · intro idle
    obtain ⟨⟨event?, simulation, orchestrator⟩, stepped, same⟩ :=
      Run.outcome_bind_eq_ok_iff.mp (congrArg Run.outcome idle)
    cases event? with
    | none => exact Simulation.finished_of_step stepped
    | some event => cases same

theorem run_cases {result : Except Rejection Snapshot}
    (ran : scenario.run.outcome = .ok (result, after)) :
    (∃ rejection, result = .error rejection ∧ after = scenario ∧
        scenario.step = pure (.error rejection, scenario)) ∨
      (result = after.orchestrator.snapshot? ∧ after.step = pure (.ok none, after)) := by
  rcases scenario.start_alternatives with ⟨rejection, rejects⟩ | accepts
  · refine .inl ⟨rejection, ?_⟩
    rw [run, whenStarted, rejects, pure_bind] at ran
    cases ran
    exact ⟨rfl, rfl, by rw [step, whenStarted, rejects, pure_bind]⟩
  · rcases whenStarted_cases ran with ⟨rejection, rejected⟩ | ⟨begun, starts, ran⟩
    · cases (accepts _ _ rejected).1
    · obtain ⟨_, isStarted⟩ := accepts _ _ starts
      obtain ⟨⟨count, simulation, orchestrator⟩, counted, same⟩ :=
        Run.outcome_bind_eq_ok_iff.mp ran
      cases same
      have still := isStarted_of_runFor isStarted counted
      refine .inr ⟨rfl, (isFinished_iff still).mp ?_⟩
      rw [isFinished, still, Bool.true_and]
      exact Simulation.run_exhausts counted

theorem step_reports {event : Event} {simulation : Simulation} {orchestrator : Orchestrator}
    (stepped : (scenario.simulation.step Orchestrator.handle scenario.orchestrator).outcome =
      .ok (some event, simulation, orchestrator)) :
    ∃ rest, (scenario.simulation.step Orchestrator.handle scenario.orchestrator).notices =
      .dispatch event.id event.time event.payload :: rest := by
  unfold Simulation.step at stepped ⊢
  dsimp only at stepped ⊢
  split at stepped
  · cases stepped
  next running =>
    rw [if_neg running]
    split at stepped
    · cases stepped
    next first agenda taken =>
      split at stepped
      · cases stepped
      next notPast =>
        rw [if_neg notPast]
        obtain ⟨count, counts, reacts⟩ := Run.outcome_bind_eq_ok_iff.mp stepped
        obtain ⟨⟨next, context⟩, reacted, rest⟩ := Run.outcome_bind_eq_ok_iff.mp reacts
        obtain ⟨settled, _, same⟩ := Run.outcome_bind_eq_ok_iff.mp rest
        cases same
        rw [Run.outcome_orFault_eq_ok_iff.mp counts, Run.orFault, pure_bind, Run.notices_bind]
        exact ⟨_, rfl⟩

/-- However a scenario is driven, it starts once and then takes steps one by one: what is reported,
how it ends and the state that is left are the same. Calls that ask for no step at all still start
it. -/
theorem calls_are_steps (scenario : Scenario) :
    (∀ call calls, Call.performAll (call :: calls) scenario =
      (do (← scenario.start).2.stepTimes ((call :: calls).map Call.length).sum)) ∧
    (∀ calls, 0 < (calls.map Call.length).sum →
      Call.performAll calls scenario = scenario.stepTimes (calls.map Call.length).sum) ∧
    (∀ first second, (do
      let (count, middle) ← scenario.runSteps first
      let (more, after) ← middle.runSteps second
      return ((do return (← count) + (← more)), after)) = scenario.runSteps (first + second)) ∧
    (do return (← scenario.run).2) = scenario.stepTimes (largest + 1) ∧
    (∀ result after, scenario.run.outcome = .ok (result, after) →
      (∃ rejection, result = .error rejection ∧ after = scenario ∧
          scenario.step = pure (.error rejection, scenario)) ∨
        (result = after.orchestrator.snapshot? ∧ after.step = pure (.ok none, after))) ∧
    (scenario.isStarted = true →
      (scenario.isFinished = true ↔ scenario.step = pure (.ok none, scenario))) ∧
    (∀ event simulation orchestrator,
      (scenario.simulation.step Orchestrator.handle scenario.orchestrator).outcome =
        .ok (some event, simulation, orchestrator) →
      ∃ rest, (scenario.simulation.step Orchestrator.handle scenario.orchestrator).notices =
        .dispatch event.id event.time event.payload :: rest) := by
  refine ⟨fun call calls => Call.performAll_eq call calls scenario, ?_,
    fun first second => scenario.runSteps_add first second, ?_, fun _ _ => run_cases,
    isFinished_iff, fun _ _ _ => step_reports⟩
  · intro calls some
    cases calls with
    | nil => cases some
    | cons call rest =>
        obtain ⟨count, counted⟩ := Nat.exists_eq_add_of_lt some
        rw [Call.performAll_eq, counted, Nat.zero_add]
        exact advance_succ count scenario
  · exact (Call.perform_eq .run scenario).trans (advance_succ largest scenario)

theorem calls_are_steps_unless_none :
    ∃ built, Blueprint.empty.build.outcome = .ok (.ok built) ∧ built.isStarted = false ∧
      built.simulation.pendingCount = 0 ∧
      (∃ after, (Call.performAll [.runSteps 0] built).outcome = .ok after ∧
        after.isStarted = true ∧ after.simulation.pendingCount = 2) ∧
      Call.performAll [.runSteps 0] built ≠
        built.stepTimes ([Call.runSteps 0].map Call.length).sum := by
  have begins : (Blueprint.empty.after? [.runSteps 0]).any (fun after =>
      after.isStarted && after.simulation.pendingCount == 2) = true := by
    decide +kernel
  obtain ⟨after, left, begins⟩ := (Option.any_eq_true _ _).mp begins
  simp only [Bool.and_eq_true, beq_iff_eq] at begins
  obtain ⟨built, builds, performed⟩ := Blueprint.after?_eq_some left
  obtain ⟨fresh, unstarted⟩ := Blueprint.build_initial builds
  have idle : built.isStarted = false := by
    simp [Scenario.isStarted, Orchestrator.isStarted, unstarted]
  refine ⟨built, builds, idle, by rw [fresh]; rfl, ⟨after, performed, begins⟩, fun same => ?_⟩
  rw [same] at performed
  cases performed
  rw [begins.1] at idle
  cases idle

end Scenario
end FogNetwork
