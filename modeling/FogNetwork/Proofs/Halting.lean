import FogNetwork.Proofs.Chronicle
import FogNetwork.Proofs.Scripts

/-! The end of a run that a handler calls for: until the handler returns, everything that is pending
stays in sight and nothing is added; afterwards nothing is pending and nothing happens any more. -/

namespace FogNetwork

namespace Ask

variable {ask : Ask} {answer : ask.Answer} {before after : Context}

def event? : Ask → Agenda → Option Event
  | .schedule time payload, agenda => some ⟨agenda.nextEventId, time, payload⟩
  | _, _ => none

theorem runs (running : before.halted = false) (other : ask ≠ .terminate)
    (answered : ask.act.Ends before answer after) :
    after.halted = false ∧ after.agenda.pending.Perm
      (before.agenda.pending ++ (ask.event? before.agenda).toList) := by
  cases ask with
  | look =>
      obtain ⟨_, rfl⟩ := Act.ends_get_iff.mp answered
      exact ⟨running, by simp [event?]⟩
  | schedule time payload =>
      have enters := Act.scheduleAt_enters running answered
      exact ⟨enters.halted.trans running,
        enters.pending.trans (List.perm_append_singleton _ _).symm⟩
  | measure timings usage =>
      obtain rfl := Act.ends_modify_iff.mp answered
      exact ⟨running, by simp [event?]⟩
  | terminate => exact absurd rfl other

theorem rests (halted : before.halted = true) (answered : ask.act.Ends before answer after) :
    after.halted = true ∧ after.agenda = before.agenda := by
  cases ask with
  | look =>
      obtain ⟨_, rfl⟩ := Act.ends_get_iff.mp answered
      exact ⟨halted, rfl⟩
  | schedule time payload =>
      obtain ⟨_, ⟨_, rfl⟩ | ⟨running, _⟩⟩ := Act.scheduleAt_cases answered
      · exact ⟨halted, rfl⟩
      · rw [halted] at running
        cases running
  | measure timings usage =>
      obtain rfl := Act.ends_modify_iff.mp answered
      exact ⟨halted, rfl⟩
  | terminate =>
      obtain rfl := Act.ends_terminate_iff.mp answered
      exact ⟨rfl, rfl⟩

end Ask

namespace Moment

def Obeys (moment : Moment) : Prop :=
  ∃ answer, moment.ask.act.Ends moment.before answer moment.after

def requested? (moment : Moment) : Option Event := moment.ask.event? moment.before.agenda

variable {moment : Moment}

theorem Obeys.runs (obeys : moment.Obeys) (running : moment.before.halted = false)
    (other : moment.ask ≠ .terminate) :
    moment.after.halted = false ∧ moment.after.agenda.pending.Perm
      (moment.before.agenda.pending ++ moment.requested?.toList) := by
  obtain ⟨_, answered⟩ := obeys
  exact Ask.runs running other answered

theorem Obeys.rests (obeys : moment.Obeys) (halted : moment.before.halted = true) :
    moment.after.halted = true ∧ moment.after.agenda = moment.before.agenda := by
  obtain ⟨_, answered⟩ := obeys
  exact Ask.rests halted answered

theorem Obeys.halts (obeys : moment.Obeys) (halt : moment.ask = .terminate) :
    moment.after = { moment.before with halted := true } := by
  obtain ⟨ask, before, after⟩ := moment
  cases halt
  obtain ⟨_, answered⟩ := obeys
  exact Act.ends_terminate_iff.mp answered

end Moment

inductive Leads : Context → List Moment → Context → Prop
  | stay (context : Context) : Leads context [] context
  | call {moment : Moment} {rest : List Moment} {last : Context} (obeys : moment.Obeys)
      (goesOn : Leads moment.after rest last) : Leads moment.before (moment :: rest) last

theorem Script.course_leads {α : Type} (script : Script α) (before : Context) :
    ∃ last, Leads before (script.course before) last ∧
      ∀ value after, script.play.Ends before value after → after = last := by
  induction script generalizing before with
  | done value => exact ⟨before, .stay before, fun _ _ ended => (Act.ends_pure_iff.mp ended).2⟩
  | fail fault => exact ⟨before, .stay before, fun _ _ ended => (Act.ends_lift_iff.mp ended).2⟩
  | note notice rest ih =>
      obtain ⟨last, leads, concludes⟩ := ih before
      refine ⟨last, leads, fun value after ended => ?_⟩
      obtain ⟨_, _, noted, ended⟩ := Act.ends_bind_iff.mp ended
      obtain rfl := Act.ends_note_iff.mp noted
      exact concludes value after ended
  | call ask rest ih =>
      rw [course]
      split
      next answer after answered =>
        obtain ⟨last, leads, concludes⟩ := ih answer after
        have obeys : Moment.Obeys ⟨ask, before, after⟩ := ⟨answer, answered⟩
        refine ⟨last, .call obeys leads, ?_⟩
        intro value final ended
        obtain ⟨again, between, asked, ended⟩ := Act.ends_bind_iff.mp ended
        cases answered.symm.trans asked
        exact concludes value final ended
      next fault failed =>
        refine ⟨before, .stay before, fun value final ended => ?_⟩
        obtain ⟨_, _, asked, _⟩ := Act.ends_bind_iff.mp ended
        cases failed.symm.trans asked

namespace Leads

variable {before last : Context} {moments earlier later : List Moment} {moment : Moment}

theorem split (leads : Leads before (earlier ++ moment :: later) last) :
    Leads before earlier moment.before ∧ moment.Obeys ∧ Leads moment.after later last := by
  induction earlier generalizing before with
  | nil =>
      cases leads with
      | call obeys goesOn => exact ⟨.stay _, obeys, goesOn⟩
  | cons first rest ih =>
      cases leads with
      | call obeys goesOn =>
          obtain ⟨left, own, right⟩ := ih goesOn
          exact ⟨.call obeys left, own, right⟩

theorem runs (leads : Leads before moments last) (running : before.halted = false)
    (goesOn : ∀ moment ∈ moments, moment.ask ≠ .terminate) :
    last.halted = false ∧ last.agenda.pending.Perm
      (before.agenda.pending ++ moments.filterMap Moment.requested?) := by
  induction leads with
  | stay => exact ⟨running, by simp⟩
  | @call moment rest last obeys _ ih =>
      obtain ⟨still, first⟩ := obeys.runs running (goesOn moment (by simp))
      obtain ⟨runs, others⟩ := ih still fun other member => goesOn other (by simp [member])
      refine ⟨runs, others.trans ((first.append_right _).trans (.of_eq ?_))⟩
      rw [List.append_assoc]
      cases asked : moment.requested? with
      | none => rw [List.filterMap_cons_none asked, Option.toList_none, List.nil_append]
      | some event => rw [List.filterMap_cons_some asked]; rfl

theorem rests (leads : Leads before moments last) (halted : before.halted = true) :
    (last.halted = true ∧ last.agenda = before.agenda) ∧
      ∀ moment ∈ moments,
        moment.before.agenda = before.agenda ∧ moment.after.agenda = before.agenda := by
  induction leads with
  | stay => exact ⟨⟨halted, rfl⟩, nofun⟩
  | @call moment rest last obeys _ ih =>
      obtain ⟨still, same⟩ := obeys.rests halted
      obtain ⟨⟨halts, agenda⟩, others⟩ := ih still
      rw [same] at agenda others
      refine ⟨⟨halts, agenda⟩, fun other member => ?_⟩
      rcases List.mem_cons.mp member with rfl | member
      · exact ⟨rfl, same⟩
      · exact others other member

end Leads

namespace Command

/-- Whether a command can be given at a time: nothing is scheduled for the past. -/
def NotPast (now : Time) : Command → Prop
  | .schedule time _ => now.ticks ≤ time.ticks
  | _ => True

def performFrom {σ : Type} (react : Event → σ → Act σ) (commands : List Command)
    (simulation : Simulation) (state : σ) : Run (Simulation × σ) :=
  commands.foldlM (fun reached command => command.perform react reached.1 reached.2)
    (simulation, state)

variable {σ : Type} {react : Event → σ → Act σ} {motive : Simulation → σ → Prop}
variable {simulation after : Simulation} {state next : σ}

theorem perform_keeps (schedules : ∀ simulation state time payload id after,
      motive simulation state → (simulation.schedule time payload).outcome = .ok (id, after) →
        motive after state)
    (steps : ∀ simulation state event after next, motive simulation state →
      (simulation.step react state).outcome = .ok (some event, after, next) → motive after next)
    {command : Command} (begun : motive simulation state)
    (performed : (command.perform react simulation state).outcome = .ok (after, next)) :
    motive after next := by
  have runs {limit count : Nat}
      (ran : (simulation.runFor react limit state).outcome = .ok (count, after, next)) :
      motive after next := by
    obtain ⟨_, onto, last⟩ := Run.outcome_bind_eq_ok_iff.mp ran
    cases last
    exact Simulation.runOnto_keeps steps begun onto
  cases command with
  | schedule =>
      obtain ⟨_, scheduled, last⟩ := Run.outcome_bind_eq_ok_iff.mp performed
      cases last
      exact schedules _ _ _ _ _ _ begun scheduled
  | step =>
      obtain ⟨⟨event?, _⟩, stepped, last⟩ := Run.outcome_bind_eq_ok_iff.mp performed
      cases last
      cases event? with
      | none =>
          obtain ⟨rfl, rfl⟩ := Simulation.unchanged_of_step stepped
          exact begun
      | some event => exact steps _ _ _ _ _ begun stepped
  | runFor =>
      obtain ⟨_, ran, last⟩ := Run.outcome_bind_eq_ok_iff.mp performed
      cases last
      exact runs ran
  | run =>
      obtain ⟨_, ran, last⟩ := Run.outcome_bind_eq_ok_iff.mp performed
      cases last
      exact runs ran

theorem performFrom_keeps (schedules : ∀ simulation state time payload id after,
      motive simulation state → (simulation.schedule time payload).outcome = .ok (id, after) →
        motive after state)
    (steps : ∀ simulation state event after next, motive simulation state →
      (simulation.step react state).outcome = .ok (some event, after, next) → motive after next)
    {commands : List Command} (begun : motive simulation state)
    (performed : (performFrom react commands simulation state).outcome = .ok (after, next)) :
    motive after next := by
  induction commands generalizing simulation state with
  | nil =>
      cases performed
      exact begun
  | cons command rest ih =>
      rw [performFrom, List.foldlM_cons] at performed
      obtain ⟨_, first, later⟩ := Run.outcome_bind_eq_ok_iff.mp performed
      exact ih (perform_keeps schedules steps begun first) later

end Command

namespace Simulation

variable {σ : Type} {react : Event → σ → Act σ} {simulation : Simulation}

/-- Nothing happens any more, whoever is there to react and whatever is asked for. -/
def AtRest (simulation : Simulation) : Prop :=
  ∀ (σ : Type) (react : Event → σ → Act σ) (state : σ),
    (simulation.step react state).outcome = .ok (none, simulation, state) ∧
      ∀ commands : List Command,
        (∀ command ∈ commands, command.NotPast simulation.currentTime) →
          (Command.performFrom react commands simulation state).outcome = .ok (simulation, state)

theorem step_of_halted (react : Event → σ → Act σ) (state : σ)
    (halted : simulation.context.halted = true) :
    (simulation.step react state).outcome = .ok (none, simulation, state) := by
  rw [step_outcome, if_pos halted]

theorem runFor_of_halted (react : Event → σ → Act σ) (state : σ)
    (halted : simulation.context.halted = true) (limit : Nat) :
    ∃ count, (simulation.runFor react limit state).outcome = .ok (count, simulation, state) := by
  have ran : (runOnto react limit [] simulation state).outcome = .ok (simulation, state) := by
    cases limit with
    | zero => rfl
    | succ limit => rw [runOnto_outcome_succ, step_of_halted react state halted]
  exact ⟨_, Run.outcome_bind_eq_ok_iff.mpr ⟨_, ran, rfl⟩⟩

theorem perform_of_halted (react : Event → σ → Act σ) (state : σ)
    (halted : simulation.context.halted = true) {command : Command}
    (notPast : command.NotPast simulation.currentTime) :
    (command.perform react simulation state).outcome = .ok (simulation, state) := by
  cases command with
  | schedule time payload =>
      have asked : ((Act.scheduleAt time payload).run simulation.context).outcome =
          .ok (simulation.context.agenda.nextEventId, simulation.context) := by
        have fits : ¬time.ticks < simulation.context.now.ticks := Nat.not_lt.mpr notPast
        rw [Act.scheduleAt_outcome, if_neg fits, if_pos halted]
      have scheduled : (simulation.schedule time payload).outcome =
          .ok (simulation.context.agenda.nextEventId, simulation) :=
        Run.outcome_bind_eq_ok_iff.mpr ⟨_, asked, rfl⟩
      exact Run.outcome_bind_eq_ok_iff.mpr ⟨_, scheduled, rfl⟩
  | step => exact Run.outcome_bind_eq_ok_iff.mpr ⟨_, step_of_halted react state halted, rfl⟩
  | runFor limit =>
      obtain ⟨_, ran⟩ := runFor_of_halted react state halted limit
      exact Run.outcome_bind_eq_ok_iff.mpr ⟨_, ran, rfl⟩
  | run =>
      obtain ⟨_, ran⟩ := runFor_of_halted react state halted (largest + 1)
      exact Run.outcome_bind_eq_ok_iff.mpr ⟨_, ran, rfl⟩

theorem atRest_of_halted (halted : simulation.context.halted = true) : simulation.AtRest := by
  intro σ react state
  refine ⟨step_of_halted react state halted, fun commands notPast => ?_⟩
  induction commands with
  | nil => rfl
  | cons command rest ih =>
      rw [Command.performFrom, List.foldlM_cons]
      exact Run.outcome_bind_eq_ok_iff.mpr
        ⟨_, perform_of_halted react state halted (notPast command (by simp)),
          ih fun other member => notPast other (by simp [member])⟩

/-- A reaction is a course of calls, and up to the call that ends the run all that was pending and
all that was asked for is in sight. From then on, until the reaction is over, that stays so, and
nothing is added and no identifier used up. After that nothing is pending and nothing happens any
more. -/
theorem halted_by_reaction (expressible : ∀ event state, Expressible Notice.Any (react event state))
    {state : σ} {event : Event} {agenda : Agenda} (running : simulation.context.halted = false)
    (due : simulation.context.agenda.next? = some (event, agenda)) :
    (∃ script : Script σ, script.play = react event state) ∧
      ∀ script : Script σ, script.play = react event state → ∀ early moment late,
        script.course { simulation.context with agenda := agenda, now := event.time } =
          early ++ moment :: late →
        (∀ other ∈ early, other.ask ≠ .terminate) →
        moment.before.agenda.pending.Perm
            (agenda.pending ++ early.filterMap Moment.requested?) ∧
          (moment.ask = .terminate →
            (∀ other ∈ moment :: late, other.before.agenda = moment.before.agenda ∧
              other.after.agenda = moment.before.agenda) ∧
            ∀ after next, (simulation.step react state).outcome = .ok (some event, after, next) →
              after.pendingCount = 0 ∧
                after.context.agenda.nextId = moment.before.agenda.nextId ∧
                after.isTerminated = true ∧ after.AtRest) := by
  refine ⟨(expressible event state).exists_script, fun script plays early moment late course
    first => ?_⟩
  obtain ⟨last, leads, concludes⟩ := script.course_leads
    { simulation.context with agenda := agenda, now := event.time }
  rw [course] at leads
  obtain ⟨before, obeys, behind⟩ := leads.split
  refine ⟨(before.runs running first).2, fun halts => ?_⟩
  have halted := obeys.halts halts
  obtain ⟨⟨isOver, lastAgenda⟩, kept⟩ := behind.rests (by rw [halted])
  have same : moment.after.agenda = moment.before.agenda := by rw [halted]
  rw [same] at lastAgenda kept
  refine ⟨?_, fun after next stepped => ?_⟩
  · intro other member
    rcases List.mem_cons.mp member with rfl | member
    · exact ⟨rfl, same⟩
    · exact kept other member
  · obtain ⟨begun, reacted, dispatches⟩ := dispatches_of_step stepped
    obtain ⟨pending, nextId⟩ := Agenda.next?_eq_some due
    have rest : begun.agenda = agenda := by
      apply Agenda.ext
      · rw [dispatches.pending, List.cons.injEq] at pending
        exact pending.2
      · rw [dispatches.nextId, nextId]
    have reacts := dispatches.reacts
    rw [dispatches.begins, rest, ← plays] at reacts
    obtain rfl := concludes next reacted reacts
    have settled : after.context = { reacted with agenda := reacted.agenda.clear } := by
      rw [dispatches.context, Context.settled, if_pos isOver]
    have finished : after.context.halted = true := by
      rw [settled]
      exact isOver
    refine ⟨?_, ?_, finished, atRest_of_halted finished⟩
    · rw [pendingCount, settled]
      rfl
    · rw [settled, ← lastAgenda]
      rfl

def farewell (_ : Event) (_ : Nat) : Act Nat := do
  let _ ← Act.scheduleAt ⟨5⟩ .controlTick
  Act.terminate
  let late ← Act.scheduleAt ⟨6⟩ .controlTick
  return late.number

theorem farewell_expressible (event : Event) (state : Nat) :
    Expressible Notice.Any (farewell event state) :=
  .sequence (.schedule _ trivial) fun _ => .sequence .terminate fun _ =>
    .sequence (.schedule _ trivial) fun _ => .result _

def parting : Script Nat :=
  .call (.schedule ⟨5⟩ .controlTick) fun _ => .call .terminate fun _ =>
    .call (.schedule ⟨6⟩ .controlTick) fun late => .done (Identifier.number late)

def remaining : Agenda :=
  { pending := [⟨⟨1⟩, ⟨9⟩, .stop⟩], nextId := 2, ordered := by decide, issued := by decide }

def parted : Simulation :=
  { context := { Context.initial with
      agenda := {
        pending := ⟨⟨0⟩, ⟨3⟩, .stop⟩ :: remaining.pending
        nextId := 2
        ordered := by decide
        issued := by decide } }
    eventsProcessed := 4 }

theorem halted_by_reaction_farewell :
    ∃ (simulation after : Simulation) (next : Nat) (halt late : Moment),
      simulation.context.agenda.pending.map (·.id.number) = [0, 1] ∧
        halt.before.agenda.pending.map (·.id.number) = [2, 1] ∧
        late.ask = .schedule ⟨6⟩ .controlTick ∧
        late.after.agenda = halt.before.agenda ∧
        (simulation.step farewell 0).outcome = .ok (some ⟨⟨0⟩, ⟨3⟩, .stop⟩, after, next) ∧
        after.pendingCount = 0 ∧ after.context.agenda.nextId = halt.before.agenda.nextId ∧
        after.AtRest := by
  obtain ⟨first, halt, late, course, opens, halts, seen, asks⟩ :
      ∃ first halt late, parting.course { parted.context with agenda := remaining, now := ⟨3⟩ } =
        [first] ++ halt :: [late] ∧ first.ask ≠ .terminate ∧ halt.ask = .terminate ∧
        halt.before.agenda.pending.map (·.id.number) = [2, 1] ∧
        late.ask = .schedule ⟨6⟩ .controlTick := ⟨_, _, _, rfl, nofun, rfl, rfl, rfl⟩
  obtain ⟨after, next, stepped⟩ : ∃ after next, (parted.step farewell 0).outcome =
      .ok (some ⟨⟨0⟩, ⟨3⟩, .stop⟩, after, next) := ⟨_, _, rfl⟩
  have due : parted.context.agenda.next? = some (⟨⟨0⟩, ⟨3⟩, .stop⟩, remaining) := rfl
  have plays : parting.play = farewell ⟨⟨0⟩, ⟨3⟩, .stop⟩ 0 := rfl
  obtain ⟨_, quiet⟩ := (halted_by_reaction farewell_expressible rfl due).2 parting plays _ _ _
    course (by simpa using opens)
  obtain ⟨kept, ended⟩ := quiet halts
  obtain ⟨none, nextId, _, rests⟩ := ended _ _ stepped
  exact ⟨parted, after, next, halt, late, rfl, seen, asks, (kept late (by simp)).2, stepped,
    none, nextId, rests⟩

end Simulation
end FogNetwork
