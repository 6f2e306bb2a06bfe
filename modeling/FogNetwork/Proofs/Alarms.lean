import FogNetwork.Proofs.Openings

/-! Alarms that are set again whenever they go off, and by nothing else. In a whole run they go off
at regular times, up to the timer. -/

namespace FogNetwork

namespace Scenario

variable {timer event : Event} {started before after scenario : Scenario} {turns : List Turn}
variable {begun reacted : Context} {marks : Payload → Bool}

theorem pendingOf_of_mark
    (dispatches : before.simulation.Dispatches Orchestrator.handle before.orchestrator event
      after.simulation after.orchestrator begun reacted) (marked : marks event.payload = true) :
    before.simulation.context.pendingOf marks = event :: begun.pendingOf marks := by
  rw [Context.pendingOf, dispatches.pending]
  exact List.filter_cons_of_pos marked

theorem pendingOf_of_other
    (dispatches : before.simulation.Dispatches Orchestrator.handle before.orchestrator event
      after.simulation after.orchestrator begun reacted) (other : marks event.payload = false) :
    before.simulation.context.pendingOf marks = begun.pendingOf marks := by
  rw [Context.pendingOf, dispatches.pending]
  exact List.filter_cons_of_neg (by simp [other])

theorem dispatched_first
    (dispatches : before.simulation.Dispatches Orchestrator.handle before.orchestrator event
      after.simulation after.orchestrator begun reacted) {other : Event}
    (member : other ∈ begun.agenda.pending) : event.before other := by
  have ordered := before.simulation.context.agenda.ordered
  rw [dispatches.pending] at ordered
  exact (List.pairwise_cons.mp ordered).1 other member

theorem timer_id_lt (underway : before.Underway timer)
    (dispatches : before.simulation.Dispatches Orchestrator.handle before.orchestrator event
      after.simulation after.orchestrator begun reacted) :
    timer.id.number < begun.agenda.nextId := by
  rw [dispatches.nextId]
  exact before.simulation.context.agenda.issued timer underway.armed.pending

theorem Reached.keeps_underway {motive : List Turn → Scenario → Prop}
    (underway : started.Underway timer) (first : motive [] started)
    (step : ∀ turns before event after begun reacted, before.Underway timer →
      motive turns before →
      before.simulation.Dispatches Orchestrator.handle before.orchestrator event
        after.simulation after.orchestrator begun reacted →
      event.payload ≠ .stop → after.simulation.context = reacted →
      motive (turns ++ [⟨event, before, after⟩]) after)
    (reached : started.Reached turns scenario)
    (running : scenario.simulation.context.halted = false) :
    scenario.Underway timer ∧ motive turns scenario := by
  refine reached.keeps (motive := fun turns scenario =>
    scenario.simulation.context.halted = false → scenario.Underway timer ∧ motive turns scenario)
    (fun _ => ⟨underway, first⟩) ?_ running
  intro turns before event after begun reacted earlier dispatches running
  obtain ⟨underway, holds⟩ := earlier dispatches.running
  have goesOn : event.payload ≠ .stop := by
    intro stops
    obtain ⟨_, figures, halting⟩ := underway.stops dispatches stops
    rw [halting.context] at running
    cases running
  obtain ⟨still, settled⟩ := underway.goes_on dispatches goesOn
  exact ⟨still, step turns before event after begun reacted underway holds dispatches goesOn
    settled⟩

def timesOf (marks : Payload → Bool) (turns : List Turn) : List Nat :=
  (turns.filter (marks ·.event.payload)).map (·.event.time.ticks)

theorem timesOf_append (marks : Payload → Bool) (early late : List Turn) :
    timesOf marks (early ++ late) = timesOf marks early ++ timesOf marks late := by
  simp [timesOf]

theorem timesOf_of_mark {turn : Turn} (marked : marks turn.event.payload = true) :
    timesOf marks [turn] = [turn.event.time.ticks] := by
  simp [timesOf, marked]

theorem timesOf_of_other {turn : Turn} (other : marks turn.event.payload = false) :
    timesOf marks [turn] = [] := by
  simp [timesOf, other]

theorem timesOf_eq_nil (other : ∀ turn ∈ turns, marks turn.event.payload = false) :
    timesOf marks turns = [] := by
  rw [timesOf, List.map_eq_nil_iff, List.filter_eq_nil_iff]
  intro turn member
  simp [other turn member]

end Scenario

/-- A kind of event that comes round at regular times. -/
structure Rhythm where
  marks : Payload → Bool
  first : Nat
  step : Nat
  /-- Whether the first event was entered ahead of the timer. -/
  early : Bool

namespace Rhythm

def time (rhythm : Rhythm) (beat : Nat) : Nat := rhythm.first + beat * rhythm.step

/-- Whether a beat comes ahead of a timer that goes off at `finish`. All beats but the first are
entered when the timer is already pending, so at the same time they come behind it. -/
def Due (rhythm : Rhythm) (finish beat : Nat) : Prop :=
  rhythm.time beat < finish ∨ rhythm.time beat = finish ∧ beat = 0 ∧ rhythm.early = true

/-- The next beat is the only pending event of its kind, unless there is no time left for it. -/
inductive Awaits (rhythm : Rhythm) (timer : Event) (beat : Nat) (context : Context) : Prop
  | pending {next : Event} (only : context.pendingOf rhythm.marks = [next])
      (due : next.time.ticks = rhythm.time beat)
      (order : next.id.number < timer.id.number ↔ beat = 0 ∧ rhythm.early = true)
  | lapsed (none : context.pendingOf rhythm.marks = []) (beyond : largest < rhythm.time beat)

/-- What the reaction to an event does to a rhythm: an event of the kind sets the next one, and
others leave it alone. -/
structure Repeats (rhythm : Rhythm) (event : Event) (begun reacted : Context) : Prop where
  aside : rhythm.marks event.payload = false →
    reacted.pendingOf rhythm.marks = begun.pendingOf rhythm.marks
  again : rhythm.marks event.payload = true → begun.pendingOf rhythm.marks = [] →
    (∃ next, reacted.pendingOf rhythm.marks = [next] ∧
      next.time.ticks = event.time.ticks + rhythm.step ∧
      begun.agenda.nextId ≤ next.id.number) ∨
    (reacted.pendingOf rhythm.marks = [] ∧ largest < event.time.ticks + rhythm.step)

variable {rhythm : Rhythm} {timer event : Event} {beat finish : Nat}
variable {started before after scenario ended : Scenario} {turns : List Turn}
variable {begun reacted : Context}

theorem time_succ (rhythm : Rhythm) (beat : Nat) :
    rhythm.time (beat + 1) = rhythm.time beat + rhythm.step := by
  rw [time, time, Nat.succ_mul, Nat.add_assoc]

theorem time_le (rhythm : Rhythm) {beat later : Nat} (order : beat ≤ later) :
    rhythm.time beat ≤ rhythm.time later :=
  Nat.add_le_add_left (Nat.mul_le_mul_right rhythm.step order) rhythm.first

theorem Due.earlier {later : Nat} (due : rhythm.Due finish later) (order : beat ≤ later) :
    rhythm.Due finish beat := by
  have times := rhythm.time_le order
  rcases due with inside | ⟨atEnd, first, early⟩
  · exact .inl (by omega)
  · obtain rfl : beat = later := by omega
    exact .inr ⟨atEnd, first, early⟩

theorem Repeats.of_other (other : rhythm.marks event.payload = false)
    (same : reacted.pendingOf rhythm.marks = begun.pendingOf rhythm.marks) :
    rhythm.Repeats event begun reacted := by
  refine ⟨fun _ => same, fun marked => ?_⟩
  rw [other] at marked
  cases marked

theorem Repeats.of_mark (marked : rhythm.marks event.payload = true)
    (again : begun.pendingOf rhythm.marks = [] →
      (∃ next, reacted.pendingOf rhythm.marks = [next] ∧
        next.time.ticks = event.time.ticks + rhythm.step ∧
        begun.agenda.nextId ≤ next.id.number) ∨
      (reacted.pendingOf rhythm.marks = [] ∧ largest < event.time.ticks + rhythm.step)) :
    rhythm.Repeats event begun reacted := by
  refine ⟨fun other => ?_, fun _ => again⟩
  rw [marked] at other
  cases other

theorem Awaits.dispatched (awaits : rhythm.Awaits timer beat before.simulation.context)
    (dispatches : before.simulation.Dispatches Orchestrator.handle before.orchestrator event
      after.simulation after.orchestrator begun reacted)
    (marked : rhythm.marks event.payload = true) :
    begun.pendingOf rhythm.marks = [] ∧ event.time.ticks = rhythm.time beat ∧
      (event.id.number < timer.id.number ↔ beat = 0 ∧ rhythm.early = true) := by
  have split := Scenario.pendingOf_of_mark dispatches marked
  cases awaits with
  | lapsed none =>
      rw [none] at split
      cases split
  | pending only due order =>
      rw [only] at split
      obtain ⟨rfl, rest⟩ := List.cons.inj split
      exact ⟨rest.symm, due, order⟩

theorem Awaits.turn (awaits : rhythm.Awaits timer beat before.simulation.context)
    (underway : before.Underway timer)
    (dispatches : before.simulation.Dispatches Orchestrator.handle before.orchestrator event
      after.simulation after.orchestrator begun reacted) (goesOn : event.payload ≠ .stop)
    (repeats : rhythm.Repeats event begun reacted) :
    (rhythm.marks event.payload = false ∧ rhythm.Awaits timer beat reacted) ∨
      (rhythm.marks event.payload = true ∧ event.time.ticks = rhythm.time beat ∧
        rhythm.Due timer.time.ticks beat ∧ rhythm.Awaits timer (beat + 1) reacted) := by
  cases marked : rhythm.marks event.payload with
  | false =>
      have same := Scenario.pendingOf_of_other dispatches marked
      rw [← repeats.aside marked] at same
      refine .inl ⟨rfl, ?_⟩
      cases awaits with
      | pending only due order => exact .pending (same ▸ only) due order
      | lapsed none beyond => exact .lapsed (same ▸ none) beyond
  | true =>
      obtain ⟨none, due, order⟩ := awaits.dispatched dispatches marked
      have earlier := Scenario.dispatched_first dispatches
        (underway.begins dispatches goesOn).pending
      have older := Scenario.timer_id_lt underway dispatches
      simp only [Event.before] at earlier
      refine .inr ⟨rfl, due, ?_, ?_⟩
      · rcases earlier with inside | ⟨atEnd, ahead⟩
        · exact .inl (by omega)
        · exact .inr ⟨by omega, order.mp ahead⟩
      · rcases repeats.again marked none with ⟨next, only, later, fresh⟩ | ⟨none, beyond⟩
        · refine .pending only (by rw [time_succ, later, due]) ?_
          constructor
          · omega
          · omega
        · exact .lapsed none (by rw [time_succ, ← due]; exact beyond)

def KeptBy (rhythm : Rhythm) (timer : Event) (extra : Nat → Scenario → Prop) : Prop :=
  ∀ beat before event after begun reacted,
    rhythm.Awaits timer beat before.simulation.context → extra beat before →
    before.simulation.Dispatches Orchestrator.handle before.orchestrator event
      after.simulation after.orchestrator begun reacted → event.payload ≠ .stop →
    rhythm.Repeats event begun reacted ∧
      extra (if rhythm.marks event.payload then beat + 1 else beat) after

structure Beaten (rhythm : Rhythm) (timer : Event) (extra : Nat → Scenario → Prop) (beat : Nat)
    (turns : List Turn) (scenario : Scenario) : Prop where
  times : Scenario.timesOf rhythm.marks turns = (List.range beat).map rhythm.time
  due : ∀ earlier < beat, rhythm.Due timer.time.ticks earlier
  awaits : rhythm.Awaits timer beat scenario.simulation.context
  own : extra beat scenario

variable {extra : Nat → Scenario → Prop}

theorem Beaten.turn (beaten : rhythm.Beaten timer extra beat turns before)
    (kept : rhythm.KeptBy timer extra) (underway : before.Underway timer)
    (dispatches : before.simulation.Dispatches Orchestrator.handle before.orchestrator event
      after.simulation after.orchestrator begun reacted) (goesOn : event.payload ≠ .stop)
    (settled : after.simulation.context = reacted) :
    ∃ beat, rhythm.Beaten timer extra beat (turns ++ [⟨event, before, after⟩]) after := by
  obtain ⟨repeats, own⟩ := kept beat before event after begun reacted beaten.awaits beaten.own
    dispatches goesOn
  rcases beaten.awaits.turn underway dispatches goesOn repeats with
    ⟨other, awaits⟩ | ⟨marked, now, due, awaits⟩
  · rw [other] at own
    refine ⟨beat, ?_, beaten.due, by rwa [settled], own⟩
    rw [Scenario.timesOf_append, Scenario.timesOf_of_other other, List.append_nil, beaten.times]
  · rw [marked] at own
    refine ⟨beat + 1, ?_, ?_, by rwa [settled], own⟩
    · rw [Scenario.timesOf_append, Scenario.timesOf_of_mark marked, beaten.times,
        List.range_succ, List.map_append, now]
      rfl
    · intro earlier before
      exact due.earlier (by omega)

theorem Beaten.of_reached (kept : rhythm.KeptBy timer extra) (underway : started.Underway timer)
    (first : rhythm.Awaits timer 0 started.simulation.context) (own : extra 0 started)
    (reached : started.Reached turns scenario)
    (running : scenario.simulation.context.halted = false) :
    ∃ beat, rhythm.Beaten timer extra beat turns scenario := by
  refine (reached.keeps_underway (motive := fun turns scenario =>
    ∃ beat, rhythm.Beaten timer extra beat turns scenario) underway ?_ ?_ running).2
  · exact ⟨0, rfl, fun _ before => absurd before (Nat.not_lt_zero _), first, own⟩
  · rintro turns before event after begun reacted underway ⟨beat, beaten⟩ dispatches goesOn settled
    exact beaten.turn kept underway dispatches goesOn settled

theorem Awaits.not_due (awaits : rhythm.Awaits timer beat before.simulation.context)
    {figures : Snapshot} (stops : before.Stops timer begun figures ended)
    (silent : rhythm.marks .stop = false) (inRange : timer.time.ticks ≤ largest) :
    ¬rhythm.Due timer.time.ticks beat := by
  intro due
  cases awaits with
  | lapsed _ beyond =>
      rcases due with inside | ⟨atEnd, _⟩
      · omega
      · omega
  | @pending next only time order =>
      have member : next ∈ before.simulation.context.pendingOf rhythm.marks := by simp [only]
      obtain ⟨listed, marked⟩ := Context.mem_pendingOf.mp member
      have ordered := before.simulation.context.agenda.ordered
      rw [stops.pending] at listed ordered
      rcases List.mem_cons.mp listed with rfl | later
      · rw [stops.underway.armed.stops, silent] at marked
        cases marked
      · have behind := (List.pairwise_cons.mp ordered).1 next later
        simp only [Event.before] at behind
        rcases due with inside | ⟨atEnd, first⟩
        · omega
        · have ahead := order.mpr first
          omega

/-- In a run that is over the beats have gone off that come ahead of the timer, and no others. -/
theorem course_of_over (kept : rhythm.KeptBy timer extra) (silent : rhythm.marks .stop = false)
    (underway : started.Underway timer) (inRange : timer.time.ticks ≤ largest)
    (first : rhythm.Awaits timer 0 started.simulation.context) (own : extra 0 started)
    (reached : started.Reached turns ended) (isOver : ended.simulation.isTerminated = true) :
    ∃ beat before begun figures, before.Stops timer begun figures ended ∧ extra beat before ∧
      Scenario.timesOf rhythm.marks turns = (List.range beat).map rhythm.time ∧
      ∀ index, index < beat ↔ rhythm.Due timer.time.ticks index := by
  obtain ⟨earlier, before, begun, figures, rfl, reached, stops⟩ :=
    reached.stopped underway isOver
  obtain ⟨beat, beaten⟩ := Beaten.of_reached kept underway first own reached stops.underway.running
  refine ⟨beat, before, begun, figures, stops, beaten.own, ?_, ?_⟩
  · have last : rhythm.marks timer.payload = false := by rw [underway.armed.stops, silent]
    rw [Scenario.timesOf_append, Scenario.timesOf_of_other last, List.append_nil, beaten.times]
  · intro index
    constructor
    · exact beaten.due index
    · intro due
      by_contra beyond
      exact beaten.awaits.not_due stops silent inRange (due.earlier (by omega))

end Rhythm
end FogNetwork
