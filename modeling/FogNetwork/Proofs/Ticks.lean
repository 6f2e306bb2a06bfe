import FogNetwork.Proofs.Views

/-! Two runs of one network whose control ticks come at different intervals. The ticks take event
identifiers and come in between, and nothing else of the run depends on them. -/

namespace FogNetwork

def Payload.isTick : Payload → Bool
  | .controlTick => true
  | _ => false

theorem Payload.isTick_iff {payload : Payload} :
    payload.isTick = true ↔ payload = .controlTick := by
  cases payload <;> simp [isTick]

theorem Payload.isTick_eq_false_iff {payload : Payload} :
    payload.isTick = false ↔ payload ≠ .controlTick := by
  rw [← Bool.not_eq_true, isTick_iff]

def Event.anonymous (event : Event) : Event := { event with id := ⟨0⟩ }

namespace Agenda

variable {agenda rest : Agenda} {event : Event}

def exceptTicks : View (List Event) where
  see agenda := (agenda.pending.filter (!·.payload.isTick)).map Event.anonymous
  put time payload seen :=
    if payload.isTick then seen else insertInOrder ⟨⟨0⟩, time, payload⟩ seen
  entered := by
    intro agenda next time payload id entered
    obtain ⟨_, _, pending⟩ := enter?_eq_some entered
    rw [pending, filter_insertInOrder agenda.ordered]
    have timed : ∀ event : Event, event.anonymous.time = event.time := fun _ => rfl
    cases payload.isTick with
    | true => rfl
    | false => exact map_insertInOrder timed _ _

def ticks (agenda : Agenda) : Nat := agenda.pending.countP (·.payload.isTick)

theorem exceptTicks_of_tick (ticks : event.payload = .controlTick)
    (pending : agenda.pending = event :: rest.pending) :
    exceptTicks.see agenda = exceptTicks.see rest := by
  simp [exceptTicks, pending, ticks, Payload.isTick]

theorem exceptTicks_of_ne (quiet : event.payload ≠ .controlTick)
    (pending : agenda.pending = event :: rest.pending) :
    exceptTicks.see agenda = event.anonymous :: exceptTicks.see rest := by
  simp [exceptTicks, pending, Payload.isTick_eq_false_iff.mpr quiet]

theorem ticks_of_tick (tick : event.payload = .controlTick)
    (pending : agenda.pending = event :: rest.pending) : agenda.ticks = rest.ticks + 1 := by
  simp [ticks, pending, tick, Payload.isTick]

theorem ticks_of_ne (quiet : event.payload ≠ .controlTick)
    (pending : agenda.pending = event :: rest.pending) : agenda.ticks = rest.ticks := by
  simp [ticks, pending, Payload.isTick_eq_false_iff.mpr quiet]

theorem size_eq (agenda : Agenda) :
    agenda.size = (exceptTicks.see agenda).length + agenda.ticks := by
  simp only [size, exceptTicks, ticks, List.length_map]
  rw [List.length_eq_countP_add_countP (fun event => event.payload.isTick), Nat.add_comm,
    List.countP_eq_length_filter]
  simp

theorem arriving_eq (agenda : Agenda) :
    agenda.pending.filterMap (·.payload.arrivingTuple?) =
      (exceptTicks.see agenda).filterMap (·.payload.arrivingTuple?) := by
  simp only [exceptTicks, List.filterMap_map, List.filterMap_filter]
  congr 1
  funext event
  cases ticks : event.payload.isTick with
  | true =>
      rw [Payload.isTick_iff.mp ticks]
      rfl
  | false => rfl

end Agenda

namespace Orchestrator

variable {orchestrator left right next : Orchestrator} {before after : Context}
variable {leftContext rightContext : Context} {change : Config → Config} {count : Nat → Nat}

def ticking (interval : Nat) : Orchestrator → Orchestrator :=
  remap (fun config => { config with controlInterval := interval }) id

theorem control_schedules
    (reach : before.now.ticks + orchestrator.config.controlInterval ≤ largest)
    (ended : orchestrator.control.Ends before next after) :
    ∃ time id, (Act.scheduleAt time .controlTick).Ends before id after := by
  obtain ⟨_, ⟨unreached, _⟩ | ⟨time, id, _, scheduled⟩⟩ := control_cases ended
  · have beyond := sum?_eq_none_iff.mp (Option.map_eq_none_iff.mp unreached)
    omega
  · exact ⟨time, id, scheduled⟩

theorem figures_congr {orchestrator : Orchestrator}
    (timings : leftContext.timings = rightContext.timings)
    (usage : leftContext.usage = rightContext.usage) (now : leftContext.now = rightContext.now)
    (size : leftContext.agenda.size = rightContext.agenda.size)
    (arriving : leftContext.agenda.pending.filterMap (·.payload.arrivingTuple?) =
      rightContext.agenda.pending.filterMap (·.payload.arrivingTuple?)) :
    orchestrator.figures leftContext = orchestrator.figures rightContext := by
  have waiting (devices : Devices) : waitingTuples leftContext.agenda.pending devices =
      waitingTuples rightContext.agenda.pending devices := by
    rw [waitingTuples, arriving]
    rfl
  have applied (held : Submission) (snapshot : Snapshot) :
      applicationFigures orchestrator.devices held leftContext snapshot =
        applicationFigures orchestrator.devices held rightContext snapshot := by
    simp only [applicationFigures, timings, usage]
  have plain (elapsed : Nat) : orchestrator.plainFigures leftContext elapsed =
      orchestrator.plainFigures rightContext elapsed := by
    simp only [plainFigures, timings, usage, size]
  simp only [figures, backlog, now, plain, applied, waiting]

end Orchestrator

def Config.untimed (config : Config) : Config := { config with controlInterval := 0 }

namespace Scenario

/-- A run under way in which one control tick is pending, and the clock has room for another one
until the timer goes off. -/
structure Ticking (timer : Event) (scenario : Scenario) : Prop
    extends Scenario.Underway timer scenario where
  reach : timer.time.ticks + scenario.orchestrator.config.controlInterval ≤ largest
  ticks : scenario.simulation.context.agenda.ticks = 1

structure Beside (timer timerToo : Event) (left right : Scenario) : Prop where
  ticking : left.Ticking timer
  tickingToo : right.Ticking timerToo
  same : left.orchestrator.remap Config.untimed (fun _ => 0) =
    right.orchestrator.remap Config.untimed fun _ => 0
  level : left.simulation.context.Level Agenda.exceptTicks right.simulation.context

variable {timer timerToo event other : Event} {left right leftAfter rightAfter : Scenario}
variable {before after ended endedToo : Scenario} {short long : List Turn}
variable {begun reacted leftBegun rightBegun leftReacted rightReacted : Context}

theorem Ticking.tick (ticking : before.Ticking timer)
    (dispatches : before.simulation.Dispatches Orchestrator.handle before.orchestrator event
      after.simulation after.orchestrator begun reacted) (ticks : event.payload = .controlTick) :
    after.simulation.context.agenda.ticks = 1 ∧
      after.simulation.context.timings = before.simulation.context.timings ∧
      after.simulation.context.usage = before.simulation.context.usage ∧
      Agenda.exceptTicks.see after.simulation.context.agenda =
        Agenda.exceptTicks.see before.simulation.context.agenda := by
  have other : event.payload ≠ .stop := by
    rw [ticks]
    exact nofun
  have settled := (ticking.toUnderway.goes_on dispatches other).2
  have due := ticking.armed.due dispatches.pending
  have reach := ticking.reach
  have now := dispatches.begun_now
  obtain ⟨time, id, scheduled⟩ := Orchestrator.control_schedules (by rw [now]; omega)
    (Orchestrator.handle_of_tick ticks dispatches.reacts)
  obtain ⟨_, ⟨halted, _⟩ | ⟨_, agenda, entered, rfl⟩⟩ := Act.scheduleAt_cases scheduled
  · rw [dispatches.begun_running] at halted
    cases halted
  have none : begun.agenda.ticks = 0 := by
    have one := ticking.ticks
    rw [Agenda.ticks_of_tick ticks dispatches.pending] at one
    exact Nat.add_right_cancel one
  rw [settled]
  refine ⟨?_, by rw [dispatches.begins], by rw [dispatches.begins], ?_⟩
  · have enters := (Act.scheduleAt_enters dispatches.begun_running scheduled).pending
    rw [Agenda.ticks, enters.countP_eq, List.countP_cons]
    exact congrArg (· + 1) none
  · rw [Agenda.exceptTicks_of_tick ticks dispatches.pending]
    exact Agenda.exceptTicks.entered entered

theorem Ticking.turn (ticking : before.Ticking timer)
    (dispatches : before.simulation.Dispatches Orchestrator.handle before.orchestrator event
      after.simulation after.orchestrator begun reacted) (goesOn : event.payload ≠ .stop) :
    after.Ticking timer := by
  obtain ⟨underway, settled⟩ := ticking.toUnderway.goes_on dispatches goesOn
  refine ⟨underway, ?_, ?_⟩
  · rw [dispatches.reaction.config_eq]
    exact ticking.reach
  by_cases ticks : event.payload = .controlTick
  · exact (ticking.tick dispatches ticks).1
  · have within := before.orchestrator.within_any
    have gains := ((Orchestrator.handle_modest within goesOn ticks).ends rfl dispatches.reacts).1
    have same : reacted.agenda.ticks = begun.agenda.ticks := gains.countP_eq fun _ payload own =>
      Payload.isTick_eq_false_iff.mpr (Payload.Ordinary.of_recipient own.2).2
    rw [settled, same, ← Agenda.ticks_of_ne ticks dispatches.pending]
    exact ticking.ticks

theorem Beside.symm (beside : left.Beside timer timerToo right) :
    right.Beside timerToo timer left :=
  ⟨beside.tickingToo, beside.ticking, beside.same.symm, beside.level.symm⟩

theorem Beside.tick (beside : left.Beside timer timerToo right)
    (dispatches : left.simulation.Dispatches Orchestrator.handle left.orchestrator event
      leftAfter.simulation leftAfter.orchestrator leftBegun leftReacted)
    (ticks : event.payload = .controlTick) : leftAfter.Beside timer timerToo right := by
  have other : event.payload ≠ .stop := by
    rw [ticks]
    exact nofun
  have ticking := beside.ticking.turn dispatches other
  obtain ⟨_, timings, usage, agenda⟩ := beside.ticking.tick dispatches ticks
  have level := beside.level
  refine ⟨ticking, beside.tickingToo, ?_, ⟨ticking.running, level.running.2⟩,
    timings.trans level.timings, usage.trans level.usage, agenda.trans level.agenda⟩
  rw [(ticks_of_dispatches dispatches ticks).2]
  exact beside.same

theorem Beside.begins (beside : left.Beside timer timerToo right)
    (dispatches : left.simulation.Dispatches Orchestrator.handle left.orchestrator event
      leftAfter.simulation leftAfter.orchestrator leftBegun leftReacted)
    (dispatchesToo : right.simulation.Dispatches Orchestrator.handle right.orchestrator other
      rightAfter.simulation rightAfter.orchestrator rightBegun rightReacted)
    (quiet : event.payload ≠ .controlTick) (quietToo : other.payload ≠ .controlTick) :
    event.anonymous = other.anonymous ∧ leftBegun.Alike Agenda.exceptTicks rightBegun ∧
      leftBegun.agenda.size = rightBegun.agenda.size := by
  have level := beside.level
  have seen := level.agenda
  rw [Agenda.exceptTicks_of_ne quiet dispatches.pending,
    Agenda.exceptTicks_of_ne quietToo dispatchesToo.pending] at seen
  obtain ⟨same, rest⟩ := List.cons.inj seen
  refine ⟨same, ?_, ?_⟩
  · rw [dispatches.begins, dispatchesToo.begins]
    have time : event.time = other.time := (congrArg Event.time same :)
    exact ⟨⟨level.running, level.timings, level.usage, rest⟩, time⟩
  · have ticks := beside.ticking.ticks
    have ticksToo := beside.tickingToo.ticks
    rw [Agenda.ticks_of_ne quiet dispatches.pending] at ticks
    rw [Agenda.ticks_of_ne quietToo dispatchesToo.pending] at ticksToo
    rw [Agenda.size_eq, Agenda.size_eq, rest, ticks, ticksToo]

theorem Beside.turn (beside : left.Beside timer timerToo right)
    (dispatches : left.simulation.Dispatches Orchestrator.handle left.orchestrator event
      leftAfter.simulation leftAfter.orchestrator leftBegun leftReacted)
    (dispatchesToo : right.simulation.Dispatches Orchestrator.handle right.orchestrator other
      rightAfter.simulation rightAfter.orchestrator rightBegun rightReacted)
    (quiet : event.payload ≠ .controlTick) (quietToo : other.payload ≠ .controlTick)
    (goesOn : event.payload ≠ .stop) : leftAfter.Beside timer timerToo rightAfter := by
  obtain ⟨same, begun, _⟩ := beside.begins dispatches dispatchesToo quiet quietToo
  have payload : event.payload = other.payload := (congrArg Event.payload same :)
  have goesOnToo : other.payload ≠ .stop := payload ▸ goesOn
  have settled := (beside.ticking.toUnderway.goes_on dispatches goesOn).2
  have settledToo := (beside.tickingToo.toUnderway.goes_on dispatchesToo goesOnToo).2
  obtain ⟨reacted, level⟩ := Orchestrator.handle_alike_of_remap beside.same payload goesOn
    (fun ticks => absurd ticks quiet) begun dispatches.reacts dispatchesToo.reacts
  refine ⟨beside.ticking.turn dispatches goesOn, beside.tickingToo.turn dispatchesToo goesOnToo,
    level, ?_⟩
  rw [settled, settledToo]
  exact reacted.toLevel

theorem Beside.stop (beside : left.Beside timer timerToo right)
    (dispatches : left.simulation.Dispatches Orchestrator.handle left.orchestrator event
      leftAfter.simulation leftAfter.orchestrator leftBegun leftReacted)
    (dispatchesToo : right.simulation.Dispatches Orchestrator.handle right.orchestrator other
      rightAfter.simulation rightAfter.orchestrator rightBegun rightReacted)
    (stops : event.payload = .stop) (stopsToo : other.payload = .stop) :
    leftAfter.Agrees rightAfter ∧
      leftAfter.orchestrator.snapshot = rightAfter.orchestrator.snapshot := by
  have quiet : event.payload ≠ .controlTick := by
    rw [stops]
    exact nofun
  have quietToo : other.payload ≠ .controlTick := by
    rw [stopsToo]
    exact nofun
  obtain ⟨_, begun, size⟩ := beside.begins dispatches dispatchesToo quiet quietToo
  obtain ⟨rfl, figures, halting⟩ := beside.ticking.stops dispatches stops
  obtain ⟨rfl, figuresToo, haltingToo⟩ := beside.tickingToo.stops dispatchesToo stopsToo
  have taken := halting.taken
  have arriving := congrArg (List.filterMap (·.payload.arrivingTuple?)) begun.agenda
  rw [← Agenda.arriving_eq, ← Agenda.arriving_eq] at arriving
  have agree : left.orchestrator.figures { leftBegun with halted := true } =
      right.orchestrator.figures { rightBegun with halted := true } := by
    have swapped : left.orchestrator.figures { leftBegun with halted := true } =
        right.orchestrator.figures { leftBegun with halted := true } :=
      (congrArg (fun orchestrator => Orchestrator.figures orchestrator
        { leftBegun with halted := true }) beside.same :)
    rw [swapped]
    exact Orchestrator.figures_congr begun.timings begun.usage begun.now size arriving
  rw [agree, haltingToo.taken] at taken
  have agrees : left.Agrees right := .of_level beside.same beside.level
  refine ⟨(halting.agrees.symm.trans agrees).trans haltingToo.agrees, ?_⟩
  rw [halting.orchestrator, haltingToo.orchestrator]
  exact congrArg some (Except.ok.inj taken).symm

def besidesTicks (turns : List Turn) : List (Time × Payload) :=
  ((turns.map (·.event)).filter (!·.payload.isTick)).map fun event => (event.time, event.payload)

theorem besidesTicks_tick (ticks : event.payload = .controlTick) (turns : List Turn) :
    besidesTicks (⟨event, before, after⟩ :: turns) = besidesTicks turns := by
  simp [besidesTicks, ticks, Payload.isTick]

theorem besidesTicks_ne (quiet : event.payload ≠ .controlTick) (turns : List Turn) :
    besidesTicks (⟨event, before, after⟩ :: turns) =
      (event.time, event.payload) :: besidesTicks turns := by
  simp [besidesTicks, Payload.isTick_eq_false_iff.mpr quiet]

theorem Beside.course {length : Nat} (beside : left.Beside timer timerToo right)
    (reached : left.Reached short ended) (isOver : ended.simulation.isTerminated = true)
    (reachedToo : right.Reached long endedToo) (isOverToo : endedToo.simulation.isTerminated = true)
    (counted : short.length + long.length = length) :
    besidesTicks short = besidesTicks long ∧ ended.Agrees endedToo ∧
      ended.orchestrator.snapshot = endedToo.orchestrator.snapshot := by
  -- One of the two may have several ticks to dispatch before the other goes on.
  induction length using Nat.strong_induction_on generalizing left right short long with
  | _ length ih =>
    obtain ⟨event, after, rest, begun, reacted, rfl, later, _, dispatches⟩ :=
      reached.first_turn beside.ticking.running isOver
    obtain ⟨other, afterToo, restToo, begunToo, reactedToo, rfl, laterToo, _, dispatchesToo⟩ :=
      reachedToo.first_turn beside.tickingToo.running isOverToo
    simp only [List.length_cons] at counted
    by_cases ticks : event.payload = .controlTick
    · rw [besidesTicks_tick ticks]
      have fewer : rest.length + (restToo.length + 1) < length := by omega
      exact ih _ fewer (beside.tick dispatches ticks) later reachedToo rfl
    by_cases ticksToo : other.payload = .controlTick
    · rw [besidesTicks_tick ticksToo]
      have fewer : rest.length + 1 + restToo.length < length := by omega
      exact ih _ fewer (beside.symm.tick dispatchesToo ticksToo).symm reached laterToo rfl
    obtain ⟨same, _, _⟩ := beside.begins dispatches dispatchesToo ticks ticksToo
    have time : event.time = other.time := (congrArg Event.time same :)
    have payload : event.payload = other.payload := (congrArg Event.payload same :)
    rw [besidesTicks_ne ticks, besidesTicks_ne ticksToo, time, payload]
    by_cases stops : event.payload = .stop
    · have stopsToo : other.payload = .stop := payload ▸ stops
      obtain ⟨_, _, halting⟩ := beside.ticking.stops dispatches stops
      obtain ⟨_, _, haltingToo⟩ := beside.tickingToo.stops dispatchesToo stopsToo
      obtain ⟨rfl, rfl⟩ := later.of_halted (by rw [halting.context])
      obtain ⟨rfl, rfl⟩ := laterToo.of_halted (by rw [haltingToo.context])
      exact ⟨rfl, beside.stop dispatches dispatchesToo stops stopsToo⟩
    · have fewer : rest.length + restToo.length < length := by omega
      obtain ⟨played, rest⟩ := ih _ fewer
        (beside.turn dispatches dispatchesToo ticks ticksToo stops) later laterToo rfl
      exact ⟨by rw [played], rest⟩

theorem ticking_of_start {orchestrator : Orchestrator} {started : Scenario}
    (ended : orchestrator.start.Ends .initial (.ok (), started.orchestrator)
      started.simulation.context) (underway : started.Underway timer)
    (reach : timer.time.ticks + orchestrator.config.controlInterval ≤ largest) :
    started.Ticking timer := by
  obtain ⟨same, _, launched, _, ticked, _, stopped, launching, ticking, stopping, rousing⟩ :=
    Orchestrator.start_course ended
  refine ⟨underway, by rw [same]; exact reach, ?_⟩
  have launches := (orchestrator.launch_modest.ends rfl launching).1
  have still : launched.halted = false := launches.halted
  obtain ⟨_, _, ticks⟩ := Act.scheduleAfter_enters still ticking
  obtain ⟨_, _, stops⟩ := Act.scheduleAfter_enters (ticks.halted.trans still) stopping
  have rouses := (orchestrator.rouse_modest.ends rfl rousing).1
  have apart : ∀ (delay : Nat) (payload : Payload), payload.Ordinary → payload.isTick = false :=
    fun _ _ own => Payload.isTick_eq_false_iff.mpr own.2
  have none : launched.agenda.ticks = 0 := launches.countP_eq apart
  have one : ticked.agenda.ticks = 1 := by
    rw [Agenda.ticks, ticks.pending.countP_eq, List.countP_cons]
    exact congrArg (· + 1) none
  rw [Agenda.ticks, rouses.countP_eq apart, stops.pending.countP_eq, List.countP_cons]
  exact one

/-- Two runs whose control ticks come at different intervals dispatch the same at the same times,
control ticks aside, and end in the same state with the same figures. -/
theorem ticks_aside {orchestrator : Orchestrator} {interval : Nat} {figures figuresToo : Snapshot}
    {ended endedToo : Scenario}
    (reach : orchestrator.config.runLength + orchestrator.config.controlInterval ≤ largest)
    (reachToo : orchestrator.config.runLength + interval ≤ largest)
    (ran : (ofOrchestrator orchestrator).run.outcome = .ok (.ok figures, ended))
    (isOver : ended.simulation.isTerminated = true)
    (ranToo : (ofOrchestrator (orchestrator.ticking interval)).run.outcome =
      .ok (.ok figuresToo, endedToo))
    (isOverToo : endedToo.simulation.isTerminated = true) :
    (∃ started startedToo turns turnsToo,
      (ofOrchestrator orchestrator).start.outcome = .ok (.ok (), started) ∧
      (ofOrchestrator (orchestrator.ticking interval)).start.outcome = .ok (.ok (), startedToo) ∧
      started.Reached turns ended ∧ startedToo.Reached turnsToo endedToo ∧
      besidesTicks turns = besidesTicks turnsToo) ∧
    ended.Agrees endedToo ∧ figures = figuresToo := by
  obtain ⟨started, turns, starts, reached, taken⟩ := run_course ran
  obtain ⟨startedToo, turnsToo, startsToo, reachedToo, takenToo⟩ := run_course ranToo
  obtain ⟨begins, timer, underway, due⟩ := course_of_over starts reached isOver
  obtain ⟨beginsToo, timerToo, underwayToo, dueToo⟩ := course_of_over startsToo reachedToo isOverToo
  obtain ⟨same, alike⟩ : _ ∧ started.simulation.context.Alike Agenda.exceptTicks
      startedToo.simulation.context := by
    refine Orchestrator.start_alike rfl begins beginsToo (fun _ _ _ _ _ => rfl) ?_
    intro time other seen reached reachedToo
    cases reached.symm.trans reachedToo
    rfl
  have level : started.orchestrator.remap Config.untimed (fun _ => 0) =
      startedToo.orchestrator.remap Config.untimed fun _ => 0 := by
    rw [same]
    rfl
  have ticking := ticking_of_start begins underway (by rw [due]; exact reach)
  have tickingToo := ticking_of_start beginsToo underwayToo (by rw [dueToo]; exact reachToo)
  have beside : started.Beside timer timerToo startedToo :=
    ⟨ticking, tickingToo, level, alike.toLevel⟩
  obtain ⟨played, agrees, last⟩ := beside.course reached isOver reachedToo isOverToo rfl
  rw [taken, takenToo] at last
  exact ⟨⟨started, startedToo, turns, turnsToo, starts, startsToo, reached, reachedToo, played⟩,
    agrees, Option.some.inj last⟩

end Scenario

namespace Demo

theorem beacon_ticks {interval count : Nat}
    (finishes : (Scenario.ofOrchestrator (beacon.ticking interval)).finish?.any (fun finished =>
      finished.2.simulation.isTerminated &&
        decide (finished.2.orchestrator.controlTicks = count)) = true) :
    ∃ figures ended,
      (Scenario.ofOrchestrator (beacon.ticking interval)).run.outcome = .ok (.ok figures, ended) ∧
        ended.simulation.isTerminated = true ∧ ended.orchestrator.controlTicks = count := by
  obtain ⟨figures, ended, ran, passed⟩ := Scenario.finishes_of_any finishes
  obtain ⟨isOver, counted⟩ := Bool.and_eq_true_iff.mp passed
  exact ⟨figures, ended, ran, isOver, of_decide_eq_true counted⟩

end Demo

/-- The beacon with a control tick every three ticks of the clock, and with none in time. -/
theorem Scenario.ticks_aside_beacon : ∃ often seldom ended endedToo,
    (ofOrchestrator (Demo.beacon.ticking 3)).run.outcome = .ok (.ok often, ended) ∧
      ended.orchestrator.controlTicks = 14 ∧
      (ofOrchestrator (Demo.beacon.ticking 100)).run.outcome = .ok (.ok seldom, endedToo) ∧
      endedToo.orchestrator.controlTicks = 0 ∧
      (∃ (started startedToo : Scenario) (turns turnsToo : List Turn),
        started.Reached turns ended ∧ startedToo.Reached turnsToo endedToo ∧
          besidesTicks turns = besidesTicks turnsToo) ∧
      ended.Agrees endedToo ∧ often = seldom := by
  have oftenFinishes : (ofOrchestrator (Demo.beacon.ticking 3)).finish?.any (fun finished =>
      finished.2.simulation.isTerminated &&
        decide (finished.2.orchestrator.controlTicks = 14)) = true := by
    decide +kernel
  have seldomFinishes : (ofOrchestrator (Demo.beacon.ticking 100)).finish?.any (fun finished =>
      finished.2.simulation.isTerminated &&
        decide (finished.2.orchestrator.controlTicks = 0)) = true := by
    decide +kernel
  obtain ⟨often, ended, ran, isOver, counted⟩ := Demo.beacon_ticks oftenFinishes
  obtain ⟨seldom, endedToo, ranToo, isOverToo, countedToo⟩ := Demo.beacon_ticks seldomFinishes
  have reach : (Demo.beacon.ticking 3).config.runLength +
      (Demo.beacon.ticking 3).config.controlInterval ≤ largest := by decide
  have reachToo : (Demo.beacon.ticking 3).config.runLength + 100 ≤ largest := by decide
  obtain ⟨⟨started, startedToo, turns, turnsToo, _, _, reached, reachedToo, same⟩, agrees,
    figures⟩ := ticks_aside reach reachToo ran isOver ranToo isOverToo
  exact ⟨often, seldom, ended, endedToo, ran, counted, ranToo, countedToo,
    ⟨started, startedToo, turns, turnsToo, reached, reachedToo, same⟩, agrees, figures⟩

end FogNetwork
