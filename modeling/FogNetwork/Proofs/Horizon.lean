import FogNetwork.Proofs.Deliveries
import FogNetwork.Proofs.Histories
import FogNetwork.Proofs.Requests

/-! The horizon of a run: the timer that ends it, what happens when it goes off, and that nothing
is dispatched later. -/

namespace FogNetwork

/-! The figures are taken once, by the stop that ends the run. -/

theorem addWaiting_fault {report : SortedMap String Nat} {waiting : Waiting} {fault : Fault}
    (failed : (addWaiting report waiting).outcome = .error fault) : fault = .overflow := by
  unfold addWaiting at failed
  split at failed
  · rw [Run.outcome_bind_eq_error_iff] at failed
    rcases failed with early | ⟨_, _, late⟩
    · cases early
    · cases late
  · rw [Run.outcome_bind_eq_error_iff] at failed
    rcases failed with early | ⟨_, _, late⟩
    · exact (Run.outcome_orFault_eq_error_iff.mp early).2
    · cases late

theorem backlog_fault {application : Application} {pending : List Event} {devices : Devices}
    {fault : Fault} (failed : (backlog application pending devices).outcome = .error fault) :
    fault = .overflow := by
  unfold backlog at failed
  -- The report may have got some way already.
  generalize SortedMap.ofList (application.moduleNames.map (·, 0)) = report at failed
  generalize waitingTuples pending devices = waiting at failed
  induction waiting generalizing report with
  | nil => cases failed
  | cons first rest ih =>
      rw [List.foldlM_cons, Run.outcome_bind_eq_error_iff] at failed
      rcases failed with early | ⟨middle, _, late⟩
      · exact addWaiting_fault early
      · exact ih middle late

namespace Orchestrator

variable {orchestrator next : Orchestrator} {before after context : Context}

theorem figures_fault {fault : Fault}
    (failed : (orchestrator.figures context).outcome = .error fault) : fault = .overflow := by
  unfold figures at failed
  dsimp only at failed
  split at failed
  · cases failed
  · rw [Run.outcome_bind_eq_error_iff] at failed
    rcases failed with early | ⟨_, _, late⟩
    · exact backlog_fault early
    · cases late

theorem figures_cases {snapshot : Snapshot}
    (taken : (orchestrator.figures context).outcome = .ok snapshot) :
    (orchestrator.active = none ∧
        snapshot = orchestrator.plainFigures context (orchestrator.elapsed context.now)) ∨
      ∃ held waiting, orchestrator.active = some held ∧
        snapshot = { applicationFigures orchestrator.devices held context
          (orchestrator.plainFigures context (orchestrator.elapsed context.now)) with
          backlogPerModule := waiting } := by
  unfold figures at taken
  dsimp only at taken
  split at taken
  next none =>
    cases taken
    exact .inl ⟨none, rfl⟩
  next held active =>
    obtain ⟨waiting, _, last⟩ := Run.outcome_bind_eq_ok_iff.mp taken
    cases last
    exact .inr ⟨held, waiting, active, rfl⟩

theorem figures_simulationTime {snapshot : Snapshot}
    (taken : (orchestrator.figures context).outcome = .ok snapshot) :
    snapshot.simulationTime = orchestrator.elapsed context.now := by
  rcases figures_cases taken with ⟨_, rfl⟩ | ⟨held, waiting, _, rfl⟩
  · rfl
  · rfl

theorem stop_ends_of_fresh (fresh : orchestrator.snapshot = none)
    (ended : orchestrator.stop.Ends before next after) :
    after = { before with halted := true } ∧
      ∃ figures, (orchestrator.figures { before with halted := true }).outcome = .ok figures ∧
        next = { orchestrator with
          exporter := (orchestrator.exporter.handOver figures).2
          snapshot := some figures } := by
  simp only [stop, fresh, Option.isSome_none, Bool.false_eq_true, ↓reduceIte, Act.ends_bind_iff,
    Act.ends_terminate_iff, Act.ends_get_iff, Act.ends_lift_iff, Act.ends_note_iff] at ended
  obtain ⟨_, _, rfl, _, _, ⟨rfl, rfl⟩, figures, _, ⟨taken, rfl⟩, _, _, rfl, ended⟩ := ended
  split at ended
  · simp only [Act.ends_pure_iff] at ended
    exact ⟨ended.2, figures, taken, ended.1⟩
  · simp only [Act.ends_bind_iff, Act.ends_note_iff, Act.ends_pure_iff] at ended
    obtain ⟨_, _, rfl, rfl, rfl⟩ := ended
    exact ⟨rfl, figures, taken, rfl⟩
  · simp only [Act.ends_bind_iff, Act.ends_note_iff, Act.ends_pure_iff] at ended
    obtain ⟨_, _, rfl, rfl, rfl⟩ := ended
    exact ⟨rfl, figures, taken, rfl⟩

theorem stop_fault {fault : Fault}
    (failed : (orchestrator.stop.run before).outcome = .error fault) : fault = .overflow := by
  unfold stop at failed
  split at failed
  · cases failed
  · rw [StateT.run_bind, Run.outcome_bind_eq_error_iff] at failed
    rcases failed with early | ⟨halted, _, failed⟩
    · cases early
    rw [StateT.run_bind, Run.outcome_bind_eq_error_iff] at failed
    rcases failed with early | ⟨seen, _, failed⟩
    · cases early
    rw [StateT.run_bind, Run.outcome_bind_eq_error_iff] at failed
    rcases failed with early | ⟨taken, _, failed⟩
    · rw [show (liftM (orchestrator.figures seen.1) : Act Snapshot).run seen.2 =
        orchestrator.figures seen.1 >>= fun figures => pure (figures, seen.2) from rfl,
        Run.outcome_bind_eq_error_iff] at early
      rcases early with failed | ⟨_, _, late⟩
      · exact figures_fault failed
      · cases late
    · dsimp only at failed
      split at failed <;> cases failed

theorem handle_of_stop {event : Event} (stops : event.payload = .stop)
    (ended : (orchestrator.handle event).Ends before next after) :
    orchestrator.stop.Ends before next after := by
  simp only [handle, stops, Act.ends_bind_iff, Act.ends_now_iff, Act.ends_note_iff] at ended
  obtain ⟨_, _, ⟨rfl, rfl⟩, _, _, rfl, ended⟩ := ended
  exact ended

theorem handle_of_tick {event : Event} (ticks : event.payload = .controlTick)
    (ended : (orchestrator.handle event).Ends before next after) :
    orchestrator.control.Ends before next after := by
  simp only [handle, ticks, Act.ends_bind_iff, Act.ends_now_iff, Act.ends_note_iff] at ended
  obtain ⟨_, _, ⟨rfl, rfl⟩, _, _, rfl, ended⟩ := ended
  exact ended

theorem handle_fault_of_stop {event : Event} {fault : Fault} (stops : event.payload = .stop)
    (failed : ((orchestrator.handle event).run before).outcome = .error fault) :
    fault = .overflow := by
  unfold handle at failed
  rw [stops, StateT.run_bind, Run.outcome_bind_eq_error_iff] at failed
  rcases failed with early | ⟨looked, _, failed⟩
  · cases early
  rw [StateT.run_bind, Run.outcome_bind_eq_error_iff] at failed
  rcases failed with early | ⟨noted, _, failed⟩
  · cases early
  · exact stop_fault failed

end Orchestrator

namespace Reaction

variable {orchestrator next : Orchestrator} {begun reacted : Context} {payload : Payload}

theorem config_eq (reaction : Reaction orchestrator begun payload next reacted) :
    next.config = orchestrator.config := by
  cases reaction <;> rfl

theorem snapshot_eq (reaction : Reaction orchestrator begun payload next reacted)
    (running : payload ≠ .stop) : next.snapshot = orchestrator.snapshot := by
  cases reaction with
  | stop => exact absurd rfl running
  | _ => rfl

end Reaction

theorem Simulation.perform_outcome {α : Type} {act : Act α} {simulation after : Simulation}
    {value : α} (performs : (simulation.perform act).outcome = .ok (value, after)) :
    act.Ends simulation.context value after.context ∧
      after.eventsProcessed = simulation.eventsProcessed := by
  obtain ⟨_, ended, last⟩ := Run.outcome_bind_eq_ok_iff.mp performs
  cases last
  exact ⟨ended, rfl⟩

/-- The timer that ends the run is pending, and no other event would end it. -/
structure Context.Armed (timer : Event) (context : Context) : Prop where
  stops : timer.payload = .stop
  pending : timer ∈ context.agenda.pending
  only : ∀ event ∈ context.agenda.pending, event.payload = .stop → event = timer

theorem Context.Armed.gains {timer : Event} {fits : Nat → Payload → Prop} {before after : Context}
    (armed : before.Armed timer) (gains : before.Gains fits after)
    (apart : ∀ delay payload, fits delay payload → payload ≠ .stop) : after.Armed timer := by
  refine ⟨armed.stops, gains.still_pending armed.pending, ?_⟩
  intro event member stops
  rcases gains.mem_pending member with old | ⟨delay, own, _⟩
  · exact armed.only event old stops
  · exact absurd stops (apart delay event.payload own)

theorem Context.Armed.due {timer event : Event} {context : Context} {rest : List Event}
    (armed : context.Armed timer) (next : context.agenda.pending = event :: rest) :
    event.time.ticks ≤ timer.time.ticks := by
  have ordered := context.agenda.ordered
  have member := armed.pending
  rw [next, List.pairwise_cons] at ordered
  rw [next] at member
  rcases List.mem_cons.mp member with rfl | later
  · exact Nat.le_refl _
  · have earlier := ordered.1 timer later
    simp only [Event.before] at earlier
    omega

def Payload.Ordinary (payload : Payload) : Prop := payload ≠ .stop ∧ payload ≠ .controlTick

theorem Payload.Ordinary.of_recipient {payload : Payload}
    (entity : payload.recipient ≠ .orchestrator) : payload.Ordinary := by
  constructor
  · rintro rfl
    exact entity rfl
  · rintro rfl
    exact entity rfl

namespace Orchestrator

variable {orchestrator next : Orchestrator} {before after : Context} {now : Time}

theorem within_any (orchestrator : Orchestrator) : orchestrator.Within fun _ => True := by
  refine ⟨?_, fun _ _ _ => ⟨trivial, trivial⟩, trivial, trivial⟩
  intro _ device _
  cases device with
  | relay relay => exact ⟨trivial, fun _ _ _ => trivial, fun _ => trivial⟩
  | recorder recorder => trivial

theorem launch_modest (orchestrator : Orchestrator) :
    Act.Modest now (fun _ payload => payload.Ordinary) orchestrator.launch fun _ => True := by
  unfold launch
  split
  · exact Act.Modest.note _
  · split
    · exact (activate_modest orchestrator.within_any).mono
        (fun _ _ own => .of_recipient own.2) fun _ own => own
    · exact Act.Modest.scheduleAfter ⟨nofun, nofun⟩ (.pure trivial)

def rouse (orchestrator : Orchestrator) : Act Unit :=
  orchestrator.devices.keys.forM fun device => do
    let _ ← Act.manageLater device 0

theorem rouse_modest (orchestrator : Orchestrator) :
    Act.Modest now (fun _ payload => payload.Ordinary) orchestrator.rouse fun _ => True :=
  Act.Modest.forM fun _ _ => Act.Modest.scheduleAfter ⟨nofun, nofun⟩ (.pure trivial)

theorem start_course (ended : orchestrator.start.Ends before (.ok (), next) after) :
    next = { orchestrator with startedAt := some before.now } ∧
      orchestrator.readyAt before.now = .ok () ∧
      ∃ launched tick ticked stop stopped,
        orchestrator.launch.Ends before () launched ∧
        (Act.scheduleAfter orchestrator.config.controlInterval .controlTick).Ends launched tick
          ticked ∧
        (Act.scheduleAfter orchestrator.config.runLength .stop).Ends ticked stop stopped ∧
        orchestrator.rouse.Ends stopped () after := by
  simp only [start, Act.ends_bind_iff, Act.ends_now_iff] at ended
  obtain ⟨_, before, ⟨rfl, rfl⟩, ended⟩ := ended
  split at ended
  · obtain ⟨same, _⟩ := Act.ends_pure_iff.mp ended
    cases same
  next ready =>
    simp only [Act.ends_bind_iff, Act.ends_note_iff, Act.ends_pure_iff] at ended
    obtain ⟨_, launched, launching, tick, ticked, ticking, stop, stopped, stopping, _, managed,
      managing, _, _, rfl, same, rfl⟩ := ended
    cases same
    exact ⟨rfl, ready, launched, tick, ticked, stop, stopped, launching, ticking, stopping,
      managing⟩

theorem start_arms (running : before.halted = false)
    (unarmed : ∀ event ∈ before.agenda.pending, event.payload ≠ .stop)
    (ended : orchestrator.start.Ends before (.ok (), next) after) :
    next = { orchestrator with startedAt := some before.now } ∧ after.halted = false ∧
      ∃ timer, after.Armed timer ∧
        timer.time.ticks = before.now.ticks + orchestrator.config.runLength := by
  obtain ⟨same, _, launched, _, ticked, _, stopped, launching, ticking, stopping, rousing⟩ :=
    start_course ended
  refine ⟨same, ?_⟩
  have launches := (orchestrator.launch_modest.ends rfl launching).1
  obtain ⟨first, _, ticks⟩ :=
    Act.scheduleAfter_enters (launches.halted.trans running) ticking
  have now : ticked.now = before.now := ticks.now.trans launches.now
  have halted : ticked.halted = false := ticks.halted.trans (launches.halted.trans running)
  have still : ∀ event ∈ ticked.agenda.pending, event.payload ≠ .stop := by
    intro event member
    rcases List.mem_cons.mp (ticks.pending.subset member) with rfl | earlier
    · exact nofun
    · rcases launches.mem_pending earlier with old | ⟨_, own, _⟩
      · exact unarmed event old
      · exact own.1
  obtain ⟨time, reached, enters⟩ := Act.scheduleAfter_enters halted stopping
  rw [now] at reached
  have armed : stopped.Armed ⟨ticked.agenda.nextEventId, time, .stop⟩ := by
    refine ⟨rfl, enters.pending.symm.subset (by simp), ?_⟩
    intro event member stops
    rcases List.mem_cons.mp (enters.pending.subset member) with same | old
    · exact same
    · exact absurd stops (still event old)
  have rouses := (orchestrator.rouse_modest.ends (enters.now.trans now) rousing).1
  exact ⟨rouses.halted.trans (enters.halted.trans halted), _,
    armed.gains rouses fun _ _ own => own.1, (Time.after?_eq_some_iff.mp reached).2⟩

end Orchestrator

namespace Scenario

/-- The run has started and is not over: its timer is still to go off. -/
structure Underway (timer : Event) (scenario : Scenario) : Prop where
  running : scenario.simulation.context.halted = false
  fresh : scenario.orchestrator.snapshot = none
  armed : scenario.simulation.context.Armed timer

variable {timer event : Event} {before after started scenario : Scenario} {begun reacted : Context}
variable {turns : List Turn}

theorem ticks_of_dispatches
    (dispatches : before.simulation.Dispatches Orchestrator.handle before.orchestrator event
      after.simulation after.orchestrator begun reacted) (ticks : event.payload = .controlTick) :
    begun.Gains (fun delay payload =>
        delay = before.orchestrator.config.controlInterval ∧ payload = .controlTick) reacted ∧
      after.orchestrator =
        { before.orchestrator with controlTicks := before.orchestrator.controlTicks + 1 } :=
  (before.orchestrator.handle_modest_of_tick ticks).ends rfl dispatches.reacts

theorem Underway.begins (underway : before.Underway timer)
    (dispatches : before.simulation.Dispatches Orchestrator.handle before.orchestrator event
      after.simulation after.orchestrator begun reacted) (other : event.payload ≠ .stop) :
    begun.Armed timer := by
  have member := underway.armed.pending
  rw [dispatches.pending] at member
  refine ⟨underway.armed.stops, ?_, ?_⟩
  · rcases List.mem_cons.mp member with rfl | later
    · exact absurd underway.armed.stops other
    · exact later
  · intro pending rest stops
    exact underway.armed.only pending (by rw [dispatches.pending]; simp [rest]) stops

theorem gains_of_dispatches
    (dispatches : before.simulation.Dispatches Orchestrator.handle before.orchestrator event
      after.simulation after.orchestrator begun reacted) (other : event.payload ≠ .stop) :
    begun.Gains (fun _ payload => payload = .controlTick ∨ payload.recipient ≠ .orchestrator)
      reacted := by
  by_cases ticks : event.payload = .controlTick
  · exact (ticks_of_dispatches dispatches ticks).1.mono fun _ _ own => .inl own.2
  · exact ((Orchestrator.handle_modest before.orchestrator.within_any other ticks).ends rfl
      dispatches.reacts).1.mono fun _ _ own => .inr own.2

theorem Underway.goes_on (underway : before.Underway timer)
    (dispatches : before.simulation.Dispatches Orchestrator.handle before.orchestrator event
      after.simulation after.orchestrator begun reacted) (other : event.payload ≠ .stop) :
    after.Underway timer ∧ after.simulation.context = reacted := by
  have gains := gains_of_dispatches dispatches other
  have running : reacted.halted = false := gains.halted.trans dispatches.begun_running
  have settled : after.simulation.context = reacted := by
    rw [dispatches.context]
    exact if_neg (by simp [running])
  refine ⟨⟨?_, ?_, ?_⟩, settled⟩
  · rw [settled]
    exact running
  · rw [dispatches.reaction.snapshot_eq other]
    exact underway.fresh
  · rw [settled]
    refine (underway.begins dispatches other).gains gains ?_
    rintro _ _ (rfl | entity)
    · exact nofun
    · exact (Payload.Ordinary.of_recipient entity).1

/-- The turn in which the timer goes off: the figures are taken before the rest of the agenda is
dropped. -/
structure Stops (timer : Event) (before : Scenario) (begun : Context) (figures : Snapshot)
    (after : Scenario) : Prop where
  underway : before.Underway timer
  pending : before.simulation.context.agenda.pending = timer :: begun.agenda.pending
  begins : begun = { before.simulation.context with agenda := begun.agenda, now := timer.time }
  taken : (before.orchestrator.figures { begun with halted := true }).outcome = .ok figures
  context : after.simulation.context = { begun with halted := true, agenda := begun.agenda.clear }
  orchestrator : after.orchestrator = { before.orchestrator with
    exporter := (before.orchestrator.exporter.handOver figures).2
    snapshot := some figures }

theorem Underway.stops (underway : before.Underway timer)
    (dispatches : before.simulation.Dispatches Orchestrator.handle before.orchestrator event
      after.simulation after.orchestrator begun reacted) (stops : event.payload = .stop) :
    event = timer ∧ ∃ figures, before.Stops timer begun figures after := by
  have same : event = timer :=
    underway.armed.only event (by rw [dispatches.pending]; simp) stops
  obtain ⟨rfl, figures, taken, orchestrator⟩ := Orchestrator.stop_ends_of_fresh underway.fresh
    (Orchestrator.handle_of_stop stops dispatches.reacts)
  refine ⟨same, figures, underway, ?_, ?_, taken, ?_, orchestrator⟩
  · rw [dispatches.pending, same]
  · rw [← same]
    exact dispatches.begins
  · rw [dispatches.context]
    rfl

theorem Underway.turn (underway : before.Underway timer)
    (dispatches : before.simulation.Dispatches Orchestrator.handle before.orchestrator event
      after.simulation after.orchestrator begun reacted) :
    event.time.ticks ≤ timer.time.ticks ∧
      (after.simulation.context.halted = true ↔ event = timer) ∧
      (after.Underway timer ∨ ∃ figures, before.Stops timer begun figures after) := by
  refine ⟨underway.armed.due dispatches.pending, ?_⟩
  by_cases stops : event.payload = .stop
  · obtain ⟨rfl, figures, stopped⟩ := underway.stops dispatches stops
    exact ⟨⟨fun _ => rfl, fun _ => by rw [stopped.context]⟩, .inr ⟨figures, stopped⟩⟩
  · have later := (underway.goes_on dispatches stops).1
    refine ⟨⟨fun halted => ?_, ?_⟩, .inl later⟩
    · rw [later.running] at halted
      cases halted
    · rintro rfl
      exact absurd underway.armed.stops stops

theorem Reached.underway (underway : started.Underway timer)
    (reached : started.Reached turns scenario) :
    (∀ turn ∈ turns, turn.event.time.ticks ≤ timer.time.ticks ∧
        (turn.after.simulation.context.halted = true ↔ turn.event = timer)) ∧
      (scenario.Underway timer ∨ scenario.simulation.context.halted = true) := by
  refine reached.keeps (motive := fun turns scenario =>
    (∀ turn ∈ turns, turn.event.time.ticks ≤ timer.time.ticks ∧
        (turn.after.simulation.context.halted = true ↔ turn.event = timer)) ∧
      (scenario.Underway timer ∨ scenario.simulation.context.halted = true))
    ⟨by simp, .inl underway⟩ ?_
  intro turns before event after begun reacted ⟨earlier, stands⟩ dispatches
  rcases stands with underway | isOver
  · obtain ⟨due, isLast, goesOn⟩ := underway.turn dispatches
    refine ⟨?_, goesOn.imp_right fun ⟨_, stops⟩ => by rw [stops.context]⟩
    intro turn member
    rcases List.mem_append.mp member with old | new
    · exact earlier turn old
    · obtain rfl := List.mem_singleton.mp new
      exact ⟨due, isLast⟩
  · have running := dispatches.running
    rw [isOver] at running
    cases running

theorem Reached.stopped (underway : started.Underway timer)
    (reached : started.Reached turns scenario)
    (isOver : scenario.simulation.context.halted = true) :
    ∃ earlier before begun figures, turns = earlier ++ [⟨timer, before, scenario⟩] ∧
      started.Reached earlier before ∧ before.Stops timer begun figures scenario := by
  cases reached with
  | start =>
      rw [underway.running] at isOver
      cases isOver
  | @turn earlier before _ event reached stepped =>
      obtain ⟨begun, reacted, dispatches⟩ := Simulation.dispatches_of_step stepped
      rcases (reached.underway underway).2 with still | halted
      · obtain ⟨_, isLast, goesOn⟩ := still.turn dispatches
        obtain rfl := isLast.mp isOver
        rcases goesOn with later | ⟨figures, stops⟩
        · rw [later.running] at isOver
          cases isOver
        · exact ⟨earlier, before, begun, figures, rfl, reached, stops⟩
      · rw [dispatches.running] at halted
        cases halted

theorem Reached.within {allowed : Nat → Prop} (within : started.orchestrator.Within allowed)
    (reached : started.Reached turns scenario) : scenario.orchestrator.Within allowed := by
  refine reached.keeps (motive := fun _ scenario => scenario.orchestrator.Within allowed) within ?_
  intro _ before event after begun reacted own dispatches
  by_cases stops : event.payload = .stop
  · obtain ⟨_, _, _, same⟩ :=
      Orchestrator.stop_ends (Orchestrator.handle_of_stop stops dispatches.reacts)
    rw [same]
    exact ⟨own.devices, own.sensors, own.control, own.zero⟩
  by_cases ticks : event.payload = .controlTick
  · rw [(ticks_of_dispatches dispatches ticks).2]
    exact ⟨own.devices, own.sensors, own.control, own.zero⟩
  · obtain ⟨_, still⟩ := (Orchestrator.handle_modest own stops ticks).ends rfl dispatches.reacts
    exact still

/-- Besides a number that outgrows its range, only a delay from some time before the timer can
make a reaction fail. -/
theorem Underway.handle_fault {allowed : Nat → Prop} {fault : Fault} {agenda : Agenda}
    (underway : scenario.Underway timer) (within : scenario.orchestrator.Within allowed)
    (taken : scenario.simulation.context.agenda.next? = some (event, agenda))
    (failed : ((scenario.orchestrator.handle event).run
      { scenario.simulation.context with agenda := agenda, now := event.time }).outcome =
        .error fault) :
    fault = .overflow ∨ fault = .unreachableTime ∧
      ∃ delay, allowed delay ∧ largest < timer.time.ticks + delay := by
  have due := underway.armed.due (Agenda.next?_eq_some taken).1
  have late {fits : Nat → Payload → Prop}
      (own : ∀ delay payload, fits delay payload → allowed delay)
      (failed : fault = .overflow ∨ fault = .unreachableTime ∧
        ∃ delay payload, fits delay payload ∧ largest < event.time.ticks + delay) :
      fault = .overflow ∨ fault = .unreachableTime ∧
        ∃ delay, allowed delay ∧ largest < timer.time.ticks + delay := by
    rcases failed with large | ⟨unreachable, delay, payload, fits, beyond⟩
    · exact .inl large
    · exact .inr ⟨unreachable, delay, own delay payload fits, by omega⟩
  by_cases stops : event.payload = .stop
  · exact .inl (Orchestrator.handle_fault_of_stop stops failed)
  by_cases ticks : event.payload = .controlTick
  · refine late ?_ ((scenario.orchestrator.handle_modest_of_tick ticks).fails rfl failed)
    rintro _ _ ⟨rfl, _⟩
    exact within.control
  · have failed := (Orchestrator.handle_modest within stops ticks).fails rfl failed
    exact late (fun _ _ own => own.1) failed

theorem Underway.step_fault {allowed : Nat → Prop} {fault : Fault}
    (underway : scenario.Underway timer) (within : scenario.orchestrator.Within allowed)
    (failed : (scenario.simulation.step Orchestrator.handle scenario.orchestrator).outcome =
      .error fault) :
    fault = .overflow ∨ (∃ now late, fault = .backwardTime now late) ∨
      fault = .unreachableTime ∧ ∃ delay, allowed delay ∧ largest < timer.time.ticks + delay := by
  rw [Simulation.step_outcome] at failed
  split at failed
  · cases failed
  · split at failed
    · cases failed
    next event agenda taken =>
      split at failed
      · cases failed
        exact .inr (.inl ⟨_, _, rfl⟩)
      · split at failed
        · split at failed
          · cases failed
          next own reacts =>
            cases failed
            exact (underway.handle_fault within taken reacts).imp_right .inr
        · cases failed
          exact .inl rfl

end Scenario

/-- A run ends with its timer and in no other way, and nothing is dispatched later than that.
Where the longest delay of all entities fits behind the horizon, no step asks for a time that there
is not. -/
theorem Scenario.horizon_kept {simulation : Simulation} {orchestrator : Orchestrator}
    {started : Scenario} (running : simulation.isTerminated = false)
    (fresh : orchestrator.snapshot = none)
    (unarmed : ∀ event ∈ simulation.context.agenda.pending, event.payload ≠ .stop)
    (starts : (simulation.perform orchestrator.start).outcome =
      .ok ((.ok (), started.orchestrator), started.simulation)) :
    ∃ timer ∈ started.simulation.context.agenda.pending, timer.payload = .stop ∧
      timer.time.ticks = simulation.currentTime.ticks + orchestrator.config.runLength ∧
      ∀ turns scenario, started.Reached turns scenario →
        (∀ turn ∈ turns, turn.event.time.ticks ≤ timer.time.ticks ∧
          (turn.after.simulation.isTerminated = true ↔ turn.event = timer)) ∧
        (∀ event rest, scenario.simulation.context.agenda.pending = event :: rest →
          event.time.ticks ≤ timer.time.ticks) ∧
        (scenario.simulation.isTerminated = true →
          (∃ last, turns.getLast? = some last ∧ last.event = timer) ∧
          scenario.simulation.currentTime = timer.time ∧
          ∃ figures, scenario.orchestrator.snapshot = some figures ∧
            figures.simulationTime = orchestrator.config.runLength) ∧
        ∀ bound, orchestrator.Within (· ≤ bound) → timer.time.ticks + bound ≤ largest →
          ∀ fault,
            (scenario.simulation.step Orchestrator.handle scenario.orchestrator).outcome =
              .error fault →
            fault ≠ .unreachableTime ∧ ∀ now requested, fault ≠ .pastTime now requested := by
  obtain ⟨begins, _⟩ := Simulation.perform_outcome starts
  obtain ⟨orchestratorStarted, still, timer, armed, due⟩ :=
    Orchestrator.start_arms running unarmed begins
  have underway : started.Underway timer := by
    refine ⟨still, ?_, armed⟩
    rw [orchestratorStarted]
    exact fresh
  refine ⟨timer, armed.pending, armed.stops, due, ?_⟩
  intro turns scenario reached
  obtain ⟨each, stands⟩ := reached.underway underway
  refine ⟨each, ?_, ?_, ?_⟩
  · intro event rest next
    rcases stands with underway | isOver
    · exact underway.armed.due next
    · obtain ⟨_, _, _, _, _, _, stops⟩ := reached.stopped underway isOver
      rw [stops.context] at next
      cases next
  · intro terminated
    obtain ⟨earlier, before, begun, figures, rfl, reached, stops⟩ :=
      reached.stopped underway terminated
    have clock : scenario.simulation.context.now = timer.time := by
      rw [stops.context, stops.begins]
    refine ⟨⟨_, List.getLast?_concat, rfl⟩, clock, figures, by rw [stops.orchestrator], ?_⟩
    have begun : before.orchestrator.startedAt = some simulation.currentTime := by
      rw [reached.submission_eq.2, orchestratorStarted]
      rfl
    have later : simulation.currentTime.ticks ≤ timer.time.ticks := by
      rw [due]
      exact Nat.le_add_right ..
    have length : timer.time.ticks - simulation.currentTime.ticks =
        orchestrator.config.runLength := by
      rw [due]
      exact Nat.add_sub_cancel_left ..
    rw [Orchestrator.figures_simulationTime stops.taken, stops.begins, Orchestrator.elapsed, begun,
      Option.bind_some, Time.since?, if_pos later, length, Option.getD_some]
  · intro bound within fits fault failed
    have own : started.orchestrator.Within (· ≤ bound) := by
      rw [orchestratorStarted]
      exact ⟨within.devices, within.sensors, within.control, within.zero⟩
    rcases stands with underway | isOver
    · rcases underway.step_fault (reached.within own) failed with
        rfl | ⟨_, _, rfl⟩ | ⟨_, delay, small, beyond⟩
      · exact ⟨nofun, nofun⟩
      · exact ⟨nofun, nofun⟩
      · omega
    · rw [Simulation.step_outcome, if_pos isOver] at failed
      cases failed

namespace Demo

def late : Simulation :=
  { Simulation.initial with
    context := { Context.initial with
      agenda := (Agenda.empty.enter? ⟨9⟩ (.transmit ⟨5⟩)).elim .empty Prod.snd
      now := ⟨7⟩ } }

def beacon : Orchestrator :=
  { Orchestrator.initial ⟨50, 45⟩ .keeping with
    devices := SortedMap.empty.insert ⟨0⟩ (.relay (.named ⟨0⟩ "node"))
    sensors := SortedMap.empty.insert ⟨0⟩ ((Sensor.named ⟨0⟩ "tick" "TICK" "panel").every 20)
    active :=
      some ⟨panelApplication "LIGHT" "TURN", Placement.empty.assign ⟨0⟩ "control", 3⟩ }

theorem beacon_within : beacon.Within (· ≤ 50) := by
  refine ⟨(SortedMap.all_empty _).insert ?_, (SortedMap.all_empty _).insert ?_, by decide,
    by decide⟩
  · exact ⟨by decide, nofun, fun _ => by simp [Relay.named, SortedMap.getD]⟩
  · exact ⟨by decide, by decide⟩

def startedOn? (simulation : Simulation) (orchestrator : Orchestrator) : Option Scenario :=
  match (simulation.perform orchestrator.start).outcome with
  | .ok ((.ok (), orchestrator), simulation) => some ⟨simulation, orchestrator⟩
  | _ => none

theorem startedOn?_eq_some {simulation : Simulation} {orchestrator : Orchestrator}
    {started : Scenario} (starts : startedOn? simulation orchestrator = some started) :
    (simulation.perform orchestrator.start).outcome =
      .ok ((.ok (), started.orchestrator), started.simulation) := by
  unfold startedOn? at starts
  split at starts
  next performed =>
    cases starts
    exact performed
  · cases starts

theorem ends_of_any {simulation : Simulation} {orchestrator : Orchestrator} {limit : Nat}
    (terminates : (startedOn? simulation orchestrator).any (fun started =>
      (started.simulation.runFor Orchestrator.handle limit
        started.orchestrator).outcome.toOption.any (·.2.1.isTerminated)) = true) :
    ∃ (started : Scenario) (turns : List Turn) (scenario : Scenario),
      (simulation.perform orchestrator.start).outcome =
          .ok ((.ok (), started.orchestrator), started.simulation) ∧
        started.Reached turns scenario ∧ scenario.simulation.isTerminated = true := by
  obtain ⟨started, starts, terminates⟩ := (Option.any_eq_true _ _).mp terminates
  obtain ⟨⟨count, simulation, orchestrator⟩, ran, terminated⟩ := (Option.any_eq_true _ _).mp terminates
  have counted : (started.simulation.runFor Orchestrator.handle limit
      started.orchestrator).outcome = .ok (count, simulation, orchestrator) := by
    cases outcome : (started.simulation.runFor Orchestrator.handle limit
        started.orchestrator).outcome with
    | error fault =>
        rw [outcome] at ran
        cases ran
    | ok reached =>
        rw [outcome] at ran
        cases ran
        rfl
  obtain ⟨turns, reached⟩ := Scenario.Reached.start.runFor counted
  exact ⟨started, turns, ⟨simulation, orchestrator⟩, startedOn?_eq_some starts, reached,
    terminated⟩

theorem beacon_ends : ∃ (started : Scenario) (turns : List Turn) (scenario : Scenario),
    (late.perform beacon.start).outcome =
        .ok ((.ok (), started.orchestrator), started.simulation) ∧
      started.Reached turns scenario ∧ scenario.simulation.isTerminated = true := by
  have terminates : (startedOn? late beacon).any (fun started =>
      (started.simulation.runFor Orchestrator.handle 40
        started.orchestrator).outcome.toOption.any (·.2.1.isTerminated)) = true := by
    decide +kernel
  exact ends_of_any terminates

end Demo

theorem Scenario.horizon_kept_beacon :
    ∃ (started : Scenario) (turns : List Turn) (scenario : Scenario),
    (Demo.late.perform Demo.beacon.start).outcome =
        .ok ((.ok (), started.orchestrator), started.simulation) ∧
      started.Reached turns scenario ∧ scenario.simulation.isTerminated = true ∧
      (∀ turn ∈ turns, turn.event.time.ticks ≤ 52) ∧
      scenario.simulation.currentTime.ticks = 52 ∧
      (∃ figures, scenario.orchestrator.snapshot = some figures ∧ figures.simulationTime = 45) ∧
      ∀ turns (scenario : Scenario) fault, started.Reached turns scenario →
        (scenario.simulation.step Orchestrator.handle scenario.orchestrator).outcome =
          .error fault → fault ≠ .unreachableTime := by
  obtain ⟨started, turns, scenario, starts, reached, terminated⟩ := Demo.beacon_ends
  have unarmed : ∀ event ∈ Demo.late.context.agenda.pending, event.payload ≠ .stop := by
    intro event member
    obtain rfl := List.mem_singleton.mp member
    exact nofun
  obtain ⟨timer, _, _, due, kept⟩ := horizon_kept rfl rfl unarmed starts
  have last : timer.time.ticks = 52 := due
  obtain ⟨each, _, atEnd, _⟩ := kept turns scenario reached
  obtain ⟨_, clock, figures, taken, length⟩ := atEnd terminated
  refine ⟨started, turns, scenario, starts, reached, terminated, ?_, ?_, ⟨figures, taken, length⟩,
    ?_⟩
  · intro turn member
    rw [← last]
    exact (each turn member).1
  · rw [clock, last]
  · intro turns scenario fault reached failed
    obtain ⟨_, _, _, sound⟩ := kept turns scenario reached
    have fits : timer.time.ticks + 50 ≤ largest := by
      rw [last]
      decide
    exact (sound 50 Demo.beacon_within fits fault failed).1

end FogNetwork
