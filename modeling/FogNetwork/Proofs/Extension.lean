import FogNetwork.Proofs.Views

/-! Two runs of one network that differ in their length only. The longer one begins as the shorter
one does and has done no less in the end. -/

namespace FogNetwork

def Payload.isStop : Payload → Bool
  | .stop => true
  | _ => false

theorem Payload.isStop_iff {payload : Payload} : payload.isStop = true ↔ payload = .stop := by
  cases payload <;> simp [isStop]

namespace Agenda

def exceptTimer : View (Nat × List Event) where
  see agenda := (agenda.nextId, agenda.pending.filter (!·.payload.isStop))
  put time payload seen :=
    (seen.1 + 1,
      if payload.isStop then seen.2 else insertInOrder ⟨⟨seen.1⟩, time, payload⟩ seen.2)
  entered := by
    intro agenda next time payload id entered
    obtain ⟨_, nextId, pending⟩ := enter?_eq_some entered
    rw [nextId, pending, filter_insertInOrder agenda.ordered]
    cases payload.isStop <;> rfl

theorem exceptTimer_of_pending {agenda rest : Agenda} {event : Event}
    (other : event.payload ≠ .stop) (pending : agenda.pending = event :: rest.pending)
    (nextId : rest.nextId = agenda.nextId) :
    exceptTimer.see agenda = (rest.nextId, event :: (exceptTimer.see rest).2) := by
  have shown : event.payload.isStop = false := by
    rw [← Bool.not_eq_true, Payload.isStop_iff]
    exact other
  simp [exceptTimer, pending, nextId, shown]

end Agenda

def Config.endless (config : Config) : Config := { config with runLength := 0 }

namespace Orchestrator

def lasting (length : Nat) : Orchestrator → Orchestrator :=
  remap (fun config => { config with runLength := length }) id

end Orchestrator

namespace Scenario

/-- A run and a longer one that have come equally far. -/
structure Abreast (timer late : Event) (left right : Scenario) : Prop where
  underway : left.Underway timer
  underwayToo : right.Underway late
  later : timer.time.ticks < late.time.ticks
  level : left.orchestrator.remap Config.endless id = right.orchestrator.remap Config.endless id
  alike : left.simulation.context.Alike Agenda.exceptTimer right.simulation.context

variable {timer late event other : Event} {left right leftAfter rightAfter : Scenario}
variable {leftBegun rightBegun leftReacted rightReacted : Context}
variable {ended endedToo started scenario : Scenario} {short long turns : List Turn}

theorem Abreast.begins (abreast : left.Abreast timer late right)
    (dispatches : left.simulation.Dispatches Orchestrator.handle left.orchestrator event
      leftAfter.simulation leftAfter.orchestrator leftBegun leftReacted)
    (dispatchesToo : right.simulation.Dispatches Orchestrator.handle right.orchestrator other
      rightAfter.simulation rightAfter.orchestrator rightBegun rightReacted)
    (goesOn : event.payload ≠ .stop) :
    event = other ∧ leftBegun.Alike Agenda.exceptTimer rightBegun := by
  have alike := abreast.alike
  have seen := alike.agenda
  rw [Agenda.exceptTimer_of_pending goesOn dispatches.pending dispatches.nextId] at seen
  have goesOnToo : other.payload ≠ .stop := by
    intro stops
    obtain rfl := abreast.underwayToo.armed.only other (by rw [dispatchesToo.pending]; simp) stops
    have due := abreast.underway.armed.due dispatches.pending
    have member : event ∈ right.simulation.context.agenda.pending := by
      have shown : event ∈ (Agenda.exceptTimer.see right.simulation.context.agenda).2 := by
        rw [← seen]
        simp
      exact (List.mem_filter.mp shown).1
    have ordered := right.simulation.context.agenda.ordered
    rw [dispatchesToo.pending] at ordered member
    rcases List.mem_cons.mp member with rfl | behind
    · exact goesOn stops
    · have earlier := (List.pairwise_cons.mp ordered).1 event behind
      have later := abreast.later
      simp only [Event.before] at earlier
      omega
  rw [Agenda.exceptTimer_of_pending goesOnToo dispatchesToo.pending dispatchesToo.nextId] at seen
  simp only [Prod.mk.injEq, List.cons.injEq] at seen
  obtain ⟨nextId, rfl, rest⟩ := seen
  refine ⟨rfl, ?_⟩
  rw [dispatches.begins, dispatchesToo.begins]
  exact ⟨⟨alike.running, alike.timings, alike.usage, Prod.ext nextId rest⟩, rfl⟩

theorem Abreast.turn (abreast : left.Abreast timer late right)
    (dispatches : left.simulation.Dispatches Orchestrator.handle left.orchestrator event
      leftAfter.simulation leftAfter.orchestrator leftBegun leftReacted)
    (dispatchesToo : right.simulation.Dispatches Orchestrator.handle right.orchestrator other
      rightAfter.simulation rightAfter.orchestrator rightBegun rightReacted)
    (goesOn : event.payload ≠ .stop) :
    event = other ∧ leftAfter.Abreast timer late rightAfter := by
  obtain ⟨rfl, begun⟩ := abreast.begins dispatches dispatchesToo goesOn
  obtain ⟨underway, settled⟩ := abreast.underway.goes_on dispatches goesOn
  obtain ⟨underwayToo, settledToo⟩ := abreast.underwayToo.goes_on dispatchesToo goesOn
  obtain ⟨reacted, next⟩ := Orchestrator.handle_alike_of_remap abreast.level rfl goesOn
    (fun _ => ⟨rfl, fun _ => rfl⟩) begun dispatches.reacts dispatchesToo.reacts
  refine ⟨rfl, underway, underwayToo, abreast.later, next, ?_⟩
  rw [settled, settledToo]
  exact reacted

theorem Abreast.course (abreast : left.Abreast timer late right)
    (reached : left.Reached short ended) (isOver : ended.simulation.isTerminated = true)
    (reachedToo : right.Reached long endedToo)
    (isOverToo : endedToo.simulation.isTerminated = true) :
    ∃ played followed rest before aligned begun figures,
      short = played ++ [⟨timer, before, ended⟩] ∧ long = followed ++ rest ∧
      left.Reached played before ∧ right.Reached followed aligned ∧
      aligned.Reached rest endedToo ∧ played.map (·.event) = followed.map (·.event) ∧
      before.Abreast timer late aligned ∧ before.Stops timer begun figures ended := by
  induction short generalizing left right long with
  | nil =>
      obtain ⟨_, _, _, _, _, split, _⟩ := reached.first_turn abreast.underway.running isOver
      cases split
  | cons turn short ih =>
      obtain ⟨event, after, _, begun, reacted, split, reached, stepped, dispatches⟩ :=
        reached.first_turn abreast.underway.running isOver
      cases split
      by_cases stops : event.payload = .stop
      · obtain ⟨rfl, figures, stops⟩ := abreast.underway.stops dispatches stops
        obtain ⟨rfl, rfl⟩ := reached.of_halted (by rw [stops.context])
        exact ⟨[], [], long, left, right, _, _, rfl, rfl, .start, .start, reachedToo, rfl, abreast,
          stops⟩
      · obtain ⟨other, afterToo, _, begunToo, reactedToo, rfl, later, steppedToo,
          dispatchesToo⟩ := reachedToo.first_turn abreast.underwayToo.running isOverToo
        obtain ⟨rfl, next⟩ := abreast.turn dispatches dispatchesToo stops
        obtain ⟨played, followed, rest, before, aligned, _, _, rfl, rfl, leads, leadsToo, goesOn,
          same, abreast, stops⟩ := ih next reached later
        exact ⟨_ :: played, _ :: followed, rest, before, aligned, _, _, rfl, rfl,
          leads.cons stepped, leadsToo.cons steppedToo, goesOn, by simp [same], abreast, stops⟩

end Scenario

/-! Counts only grow. -/

namespace Usage

variable {before middle after usage : Usage} {name : String} {change : Tally → Tally}

def Grows (before after : Usage) : Prop :=
  ∀ name, (before.tally name).processed ≤ (after.tally name).processed

theorem Grows.refl (usage : Usage) : usage.Grows usage := fun _ => Nat.le_refl _

theorem Grows.trans (early : before.Grows middle) (late : middle.Grows after) :
    before.Grows after :=
  fun name => Nat.le_trans (early name) (late name)

theorem grows_changeModule (adds : ∀ tally, tally.processed ≤ (change tally).processed) :
    usage.Grows (usage.changeModule name change) := by
  intro wanted
  rw [tally_changeModule]
  split
  next same =>
    rw [same]
    exact adds _
  · exact Nat.le_refl _

theorem grows_of_transfer {size : Nat} (paid : before.transfer? size = some after) :
    before.Grows after := by
  simp only [transfer?, Option.map_eq_some_iff] at paid
  obtain ⟨_, _, rfl⟩ := paid
  exact .refl before

end Usage

theorem Relay.Deed.grows {before after : Bench} (deed : Relay.Deed before after) :
    before.context.usage.Grows after.context.usage := by
  cases deed with
  | queue => exact Usage.grows_changeModule fun _ => Nat.le_refl _
  | derive => exact Usage.grows_changeModule fun _ => Nat.le_refl _
  | execute => exact Usage.grows_changeModule fun _ => Nat.le_succ _
  | forward _ _ _ moved _ sent =>
      rw [sent.usage]
      exact Usage.grows_of_transfer moved
  | deliver _ _ _ _ _ _ moved _ sent =>
      rw [sent.usage]
      exact Usage.grows_of_transfer moved
  | rearm _ _ asked =>
      rw [asked.usage]
      exact .refl _
  | park | pass | take | charge => exact .refl _

theorem Relay.Deeds.grows {before after : Bench} (deeds : Relay.Deeds before after) :
    before.context.usage.Grows after.context.usage := by
  induction deeds with
  | refl => exact .refl _
  | tail _ deed ih => exact ih.trans deed.grows

theorem Context.Asks.usage_eq {kind : Context → Event → Prop} {before after : Context}
    (asks : before.Asks kind after) : after.usage = before.usage := by
  induction asks with
  | refl => rfl
  | tail _ asked ih =>
      obtain ⟨_, enters, _⟩ := asked
      rw [enters.usage, ih]

def Orchestrator.sent (orchestrator : Orchestrator) : Nat := orchestrator.sensors.total (·.sent)

theorem Reaction.grows {orchestrator next : Orchestrator} {begun reacted : Context}
    {payload : Payload} (running : begun.halted = false)
    (reaction : Reaction orchestrator begun payload next reacted) :
    orchestrator.sent ≤ next.sent ∧ begun.usage.Grows reacted.usage := by
  cases reaction with
  | launch asks | control asks =>
      rw [asks.usage_eq]
      exact ⟨Nat.le_refl _, .refl _⟩
  | finished | unknownDevice | silent | unknownActuator => exact ⟨Nat.le_refl _, .refl _⟩
  | stop halts =>
      rcases halts with rfl | rfl
      · exact ⟨Nat.le_refl _, .refl _⟩
      · exact ⟨Nat.le_refl _, .refl _⟩
  | device known reacts =>
      refine ⟨Nat.le_refl _, ?_⟩
      cases Device.react_reaction running reacts with
      | manage deeds => exact deeds.grows
      | arrival deeds => exact deeds.grows
      | recorder | active | received | launch => exact .refl _
  | @sensor id sensor next application reacted known _ _ reacts =>
      obtain ⟨others, old, new⟩ := SortedMap.total_of_get?_eq_some known (·.sent)
      have total : (orchestrator.sensors.insert id next).total (·.sent) = next.sent + others :=
        new next
      rw [Orchestrator.sent, Orchestrator.sent, old, total]
      rcases Sensor.transmit_ends running reacts with
        ⟨_, rfl, rfl⟩ | ⟨_, _, _, _, _, emits, rfl⟩
      · exact ⟨Nat.le_refl _, .refl _⟩
      · rw [emits.arms.usage, emits.sends.usage]
        exact ⟨Nat.add_le_add_right (Nat.le_succ _) _, Usage.grows_of_transfer emits.paid⟩
  | actuator known reacts =>
      obtain ⟨_, rfl⟩ := Actuator.receive_ends reacts
      exact ⟨Nat.le_refl _, .refl _⟩

namespace Scenario

variable {started scenario : Scenario} {turns : List Turn}

theorem Reached.grows (reached : started.Reached turns scenario) :
    started.orchestrator.sent ≤ scenario.orchestrator.sent ∧
      started.simulation.context.usage.Grows scenario.simulation.context.usage := by
  refine reached.keeps (motive := fun _ scenario =>
    started.orchestrator.sent ≤ scenario.orchestrator.sent ∧
      started.simulation.context.usage.Grows scenario.simulation.context.usage)
    ⟨Nat.le_refl _, .refl _⟩ ?_
  intro _ before event after begun reacted ⟨sent, usage⟩ dispatches
  obtain ⟨more, grows⟩ := dispatches.reaction.grows dispatches.begun_running
  rw [dispatches.begun_usage, ← dispatches.after_usage] at grows
  exact ⟨Nat.le_trans sent more, usage.trans grows⟩

end Scenario

namespace Orchestrator

variable {orchestrator : Orchestrator} {context : Context} {snapshot : Snapshot}

theorem figures_sent (taken : (orchestrator.figures context).outcome = .ok snapshot) :
    snapshot.tuplesSentBySensors = orchestrator.sent := by
  have plain (elapsed : Nat) :
      (orchestrator.plainFigures context elapsed).tuplesSentBySensors = orchestrator.sent := by
    rw [sent, SortedMap.total, List.sum_eq_foldl, List.foldl_map]
    rfl
  rcases figures_cases taken with ⟨_, rfl⟩ | ⟨held, waiting, _, rfl⟩
  · exact plain _
  · exact plain (orchestrator.elapsed context.now)

theorem figures_processed (taken : (orchestrator.figures context).outcome = .ok snapshot)
    (name : String) :
    snapshot.processedPerModule.get? name =
      if name ∈ (orchestrator.application?.map (·.moduleNames)).getD [] then
        some (context.usage.tally name).processed
      else none := by
  rcases figures_cases taken with ⟨none, rfl⟩ | ⟨held, waiting, active, rfl⟩
  · simp [application?, none, plainFigures, Snapshot.empty]
  · simp only [application?, active, Option.map_some, Option.getD_some]
    exact SortedMap.get?_ofList_map held.application.moduleNames _ name

end Orchestrator

namespace Scenario

theorem Abreast.figures_le {timer late : Event} {left right ended endedToo : Scenario}
    {begun : Context} {early figures : Snapshot} {rest : List Turn}
    (abreast : left.Abreast timer late right) (stops : left.Stops timer begun early ended)
    (reached : right.Reached rest endedToo) (isOver : endedToo.simulation.isTerminated = true)
    (taken : endedToo.orchestrator.snapshot = some figures) :
    early.tuplesSentBySensors ≤ figures.tuplesSentBySensors ∧
      ∀ name count, early.processedPerModule.get? name = some count →
        ∃ more, figures.processedPerModule.get? name = some more ∧ count ≤ more := by
  obtain ⟨_, before, begunToo, last, _, leads, stopsToo⟩ :=
    reached.stopped abreast.underwayToo isOver
  have same : last = figures := by
    rw [stopsToo.orchestrator] at taken
    exact Option.some.inj taken
  subst same
  obtain ⟨sent, processed⟩ := leads.grows
  have active : left.orchestrator.active = right.orchestrator.active :=
    (congrArg Orchestrator.active abreast.level :)
  have held : before.orchestrator.application? = left.orchestrator.application? := by
    rw [Orchestrator.application?, leads.submission_eq.1, ← active]
    rfl
  refine ⟨?_, ?_⟩
  · have sentBefore : left.orchestrator.sent = right.orchestrator.sent :=
      (congrArg Orchestrator.sent abreast.level :)
    rw [Orchestrator.figures_sent stops.taken, Orchestrator.figures_sent stopsToo.taken, sentBefore]
    exact sent
  · intro name count found
    have grows := processed name
    rw [Orchestrator.figures_processed stops.taken, stops.begins] at found
    rw [Orchestrator.figures_processed stopsToo.taken, held, stopsToo.begins]
    split at found
    next listed =>
      cases found
      rw [if_pos listed, abreast.alike.usage]
      exact ⟨_, rfl, grows⟩
    · cases found

/-- A run that is given more time repeats the run with less time, event by event up to the timer
that ended it, and finds everything in the same state there. In the end it has sent and processed
no less. -/
theorem horizon_extended {orchestrator : Orchestrator} {longer : Nat}
    {early late : Snapshot} {short long : Scenario}
    (later : orchestrator.config.runLength < longer)
    (ran : (ofOrchestrator orchestrator).run.outcome = .ok (.ok early, short))
    (isOver : short.simulation.isTerminated = true)
    (ranLonger : (ofOrchestrator (orchestrator.lasting longer)).run.outcome = .ok (.ok late, long))
    (isOverToo : long.simulation.isTerminated = true) :
    (∃ started startedToo played followed rest timer before aligned,
      (ofOrchestrator orchestrator).start.outcome = .ok (.ok (), started) ∧
      (ofOrchestrator (orchestrator.lasting longer)).start.outcome = .ok (.ok (), startedToo) ∧
      started.Reached (played ++ [⟨timer, before, short⟩]) short ∧ timer.payload = .stop ∧
      startedToo.Reached (followed ++ rest) long ∧
      played.map (·.event) = followed.map (·.event) ∧
      started.Reached played before ∧ startedToo.Reached followed aligned ∧
      before.Agrees aligned) ∧
    early.tuplesSentBySensors ≤ late.tuplesSentBySensors ∧
    ∀ name count, early.processedPerModule.get? name = some count →
      ∃ more, late.processedPerModule.get? name = some more ∧ count ≤ more := by
  obtain ⟨started, turns, starts, reached, taken⟩ := run_course ran
  obtain ⟨startedToo, turnsToo, startsToo, reachedToo, takenToo⟩ := run_course ranLonger
  obtain ⟨begins, timer, underway, due⟩ := course_of_over starts reached isOver
  obtain ⟨beginsToo, timerToo, underwayToo, dueToo⟩ := course_of_over startsToo reachedToo isOverToo
  obtain ⟨same, alike⟩ : _ ∧ started.simulation.context.Alike Agenda.exceptTimer
      startedToo.simulation.context := by
    refine Orchestrator.start_alike rfl begins beginsToo ?_ fun _ _ _ _ _ => rfl
    intro time other seen reached reachedToo
    cases reached.symm.trans reachedToo
    rfl
  have level : started.orchestrator.remap Config.endless id =
      startedToo.orchestrator.remap Config.endless id := by
    rw [same]
    rfl
  have apart : timer.time.ticks < timerToo.time.ticks := by
    rw [due, dueToo]
    exact later
  have abreast : started.Abreast timer timerToo startedToo :=
    ⟨underway, underwayToo, apart, level, alike⟩
  obtain ⟨played, followed, rest, before, aligned, begun, figures, rfl, rfl, leads, leadsToo,
    goesOn, same, abreast, stops⟩ := abreast.course reached isOver reachedToo isOverToo
  have agrees : before.Agrees aligned := .of_level abreast.level abreast.alike.toLevel
  have last : figures = early := by
    rw [stops.orchestrator] at taken
    exact Option.some.inj taken
  subst last
  exact ⟨⟨started, startedToo, played, followed, rest, timer, before, aligned, starts, startsToo,
    reached, underway.armed.stops, reachedToo, same, leads, leadsToo, agrees⟩,
    abreast.figures_le stops goesOn isOverToo takenToo⟩

end Scenario

namespace Demo

theorem beacon_finishes : ∃ figures ended,
    (Scenario.ofOrchestrator beacon).run.outcome = .ok (.ok figures, ended) ∧
      ended.simulation.isTerminated = true ∧ figures.tuplesSentBySensors = 2 ∧
      figures.processedPerModule.get? "control" = some 1 := by
  have finishes : (Scenario.ofOrchestrator beacon).finish?.any (fun finished =>
      finished.2.simulation.isTerminated && decide (finished.1.tuplesSentBySensors = 2 ∧
        finished.1.processedPerModule.get? "control" = some 1)) = true := by
    decide +kernel
  obtain ⟨figures, ended, ran, passed⟩ := Scenario.finishes_of_any finishes
  obtain ⟨isOver, counts⟩ := Bool.and_eq_true_iff.mp passed
  exact ⟨figures, ended, ran, isOver, of_decide_eq_true counts⟩

theorem beacon_goes_on : ∃ figures ended,
    (Scenario.ofOrchestrator (beacon.lasting 90)).run.outcome = .ok (.ok figures, ended) ∧
      ended.simulation.isTerminated = true := by
  have finishes : (Scenario.ofOrchestrator (beacon.lasting 90)).finish?.any
      (·.2.simulation.isTerminated) = true := by
    decide +kernel
  exact Scenario.finishes_of_any finishes

end Demo

theorem Scenario.horizon_extended_beacon : ∃ early late short long,
    (ofOrchestrator Demo.beacon).run.outcome = .ok (.ok early, short) ∧
      short.simulation.isTerminated = true ∧
      (ofOrchestrator (Demo.beacon.lasting 90)).run.outcome = .ok (.ok late, long) ∧
      long.simulation.isTerminated = true ∧
      (∃ (started startedToo : Scenario) (played followed rest : List Turn) (timer : Event)
          (before aligned : Scenario),
        started.Reached (played ++ [⟨timer, before, short⟩]) short ∧
        startedToo.Reached (followed ++ rest) long ∧
        played.map (·.event) = followed.map (·.event) ∧
        startedToo.Reached followed aligned ∧ before.Agrees aligned) ∧
      2 ≤ late.tuplesSentBySensors ∧
      ∃ more, late.processedPerModule.get? "control" = some more ∧ 1 ≤ more := by
  obtain ⟨early, short, ran, isOver, sent, processed⟩ := Demo.beacon_finishes
  obtain ⟨late, long, ranLonger, isOverToo⟩ := Demo.beacon_goes_on
  have later : Demo.beacon.config.runLength < 90 := by decide
  obtain ⟨⟨started, startedToo, played, followed, rest, timer, before, aligned, _, _, reached, _,
    reachedToo, same, _, leads, agrees⟩, sentMore, processedMore⟩ :=
    horizon_extended later ran isOver ranLonger isOverToo
  rw [sent] at sentMore
  exact ⟨early, late, short, long, ran, isOver, ranLonger, isOverToo,
    ⟨started, startedToo, played, followed, rest, timer, before, aligned, reached, reachedToo, same,
      leads, agrees⟩, sentMore, processedMore "control" 1 processed⟩
end FogNetwork
