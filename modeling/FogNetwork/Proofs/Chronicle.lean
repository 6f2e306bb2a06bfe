import FogNetwork.Proofs.Engine
import FogNetwork.Proofs.Handlers

/-! The chronicle of a simulation: which events were entered, dispatched and discarded, whoever
reacts to them and in whatever order the simulation is used. -/

namespace FogNetwork

structure Chronicle where
  dispatched : List Event
  entered : List Event
  discarded : List Event

def Agenda.since (agenda earlier : Agenda) : List Event :=
  agenda.pending.filter (earlier.nextId ≤ ·.id.number)

namespace Chronicle

def empty : Chronicle := ⟨[], [], []⟩

def request (chronicle : Chronicle) (before after : Context) : Chronicle :=
  { chronicle with entered := chronicle.entered ++ after.agenda.since before.agenda }

def reaction (chronicle : Chronicle) (event : Event) (begun reacted : Context) : Chronicle where
  dispatched := chronicle.dispatched ++ [event]
  entered := chronicle.entered ++ reacted.agenda.since begun.agenda
  discarded := chronicle.discarded ++ if reacted.halted then reacted.agenda.pending else []

def lastTime (chronicle : Chronicle) : Time :=
  (chronicle.dispatched.getLast?.map (·.time)).getD .zero

end Chronicle

section Commands

variable {σ : Type}

/-- The handler together with somebody who writes down what it is handed and what it asks for. -/
def chronicled (react : Event → σ → Act σ) (event : Event) (seen : σ × Chronicle) :
    Act (σ × Chronicle) := do
  let begun ← get
  let state ← react event seen.1
  let reacted ← get
  return (state, seen.2.reaction event begun reacted)

inductive Command where
  | schedule (time : Time) (payload : Payload)
  | step
  | runFor (limit : Nat)
  | run

namespace Command

def perform (react : Event → σ → Act σ) (command : Command) (simulation : Simulation)
    (state : σ) : Run (Simulation × σ) :=
  match command with
  | .schedule time payload => do
      let (_, simulation) ← simulation.schedule time payload
      return (simulation, state)
  | .step => do
      let (_, simulation, state) ← simulation.step react state
      return (simulation, state)
  | .runFor limit => do
      let (_, simulation, state) ← simulation.runFor react limit state
      return (simulation, state)
  | .run => do
      let (_, simulation, state) ← simulation.run react state
      return (simulation, state)

def performAll (react : Event → σ → Act σ) (commands : List Command) (state : σ) :
    Run (Simulation × σ) :=
  commands.foldlM (fun reached command => command.perform react reached.1 reached.2)
    (Simulation.initial, state)

def record (react : Event → σ → Act σ) (command : Command) (simulation : Simulation)
    (seen : σ × Chronicle) : Run (Simulation × σ × Chronicle) := do
  let (after, state, chronicle) ← command.perform (chronicled react) simulation seen
  match command with
  | .schedule .. => return (after, state, chronicle.request simulation.context after.context)
  | _ => return (after, state, chronicle)

def recordAll (react : Event → σ → Act σ) (commands : List Command) (state : σ) :
    Run (Simulation × σ × Chronicle) :=
  commands.foldlM (fun reached command => command.record react reached.1 reached.2)
    (Simulation.initial, state, Chronicle.empty)

end Command
end Commands

theorem Simulation.step_sound {σ : Type} {react : Event → σ → Act σ} {simulation : Simulation}
    {state : σ} {now late : Time}
    (expressible : ∀ event state, Expressible Notice.Any (react event state))
    (due : ∀ event ∈ simulation.context.agenda.pending,
      simulation.context.now.ticks ≤ event.time.ticks) :
    (simulation.step react state).outcome ≠ .error (.backwardTime now late) := by
  intro failed
  rw [step_outcome] at failed
  split at failed
  · cases failed
  · split at failed
    · cases failed
    next event agenda taken =>
      have member : event ∈ simulation.context.agenda.pending := by
        simp [(Agenda.next?_eq_some taken).1]
      split at failed
      next early => exact Nat.not_lt.mpr (due event member) early
      · split at failed
        · split at failed
          · cases failed
          next fault faulted =>
            cases failed
            exact (expressible event state).fault_ne_backwardTime faulted
        · cases failed

structure Chronicle.Describes (chronicle : Chronicle) (context : Context) : Prop where
  ordered : chronicle.dispatched.Pairwise Event.before
  ahead : ∀ past ∈ chronicle.dispatched, ∀ event ∈ context.agenda.pending, past.before event
  clock : context.now = chronicle.lastTime
  passed : ∀ past ∈ chronicle.dispatched, past.time.ticks ≤ context.now.ticks
  due : ∀ event ∈ context.agenda.pending, context.now.ticks ≤ event.time.ticks
  accounted : (chronicle.dispatched ++ context.agenda.pending ++ chronicle.discarded).Perm
    chronicle.entered
  numbered : (chronicle.entered.map (·.id.number)).Perm (List.range context.agenda.nextId)
  kept : context.halted = false → chronicle.discarded = []

namespace Chronicle

open scoped List

variable {σ : Type} {react : Event → σ → Act σ} {chronicle : Chronicle}

theorem empty_describes : empty.Describes .initial := by
  constructor <;> simp [empty, Context.initial, Agenda.empty, lastTime]

theorem since_perm {before after : Context} {entered : List Event}
    (advances : before.Advances after entered) :
    (after.agenda.since before.agenda).Perm entered := by
  have old : before.agenda.pending.filter (before.agenda.nextId ≤ ·.id.number) = [] := by
    rw [List.filter_eq_nil_iff]
    intro event member
    have issued := before.agenda.issued event member
    simpa using issued
  have new : entered.filter (before.agenda.nextId ≤ ·.id.number) = entered := by
    rw [List.filter_eq_self]
    intro event member
    have number : event.id.number ∈ entered.map (·.id.number) := List.mem_map_of_mem member
    rw [advances.numbered, List.mem_range'_1] at number
    simpa using number.1
  have split := advances.pending.filter (before.agenda.nextId ≤ ·.id.number)
  rwa [List.filter_append, old, new, List.nil_append] at split

theorem Describes.id_lt {context : Context} (describes : chronicle.Describes context)
    {past : Event} (member : past ∈ chronicle.dispatched) :
    past.id.number < context.agenda.nextId := by
  have entered : past ∈ chronicle.entered := describes.accounted.subset (by simp [member])
  have number : past.id.number ∈ chronicle.entered.map (·.id.number) :=
    List.mem_map_of_mem entered
  simpa using describes.numbered.subset number

theorem Describes.dispatch {context begun : Context} {event : Event}
    (describes : chronicle.Describes context)
    (pending : context.agenda.pending = event :: begun.agenda.pending)
    (nextId : begun.agenda.nextId = context.agenda.nextId)
    (now : begun.now = event.time) (halted : begun.halted = context.halted) :
    Describes { chronicle with dispatched := chronicle.dispatched ++ [event] } begun := by
  have later := context.agenda.ordered
  rw [pending, List.pairwise_cons] at later
  have member : event ∈ context.agenda.pending := by simp [pending]
  constructor
  · rw [List.pairwise_append]
    refine ⟨describes.ordered, by simp, ?_⟩
    intro past old last same
    rw [List.mem_singleton.mp same]
    exact describes.ahead past old event member
  · intro past old other rest
    rcases List.mem_append.mp old with old | same
    · exact describes.ahead past old other (by simp [pending, rest])
    · rw [List.mem_singleton.mp same]
      exact later.1 other rest
  · simp [lastTime, now]
  · intro past old
    rw [now]
    rcases List.mem_append.mp old with old | same
    · exact Nat.le_trans (describes.passed past old) (describes.due event member)
    · obtain rfl := List.mem_singleton.mp same
      exact Nat.le_refl _
  · intro other rest
    rw [now]
    have order := later.1 other rest
    simp only [Event.before] at order
    omega
  · have accounted := describes.accounted
    rw [pending] at accounted
    simpa using accounted
  · rw [nextId]
    exact describes.numbered
  · rw [halted]
    exact describes.kept

theorem Describes.enter {before after : Context} {entered : List Event}
    (describes : chronicle.Describes before) (advances : before.Advances after entered) :
    (chronicle.request before after).Describes after := by
  have fresh := since_perm advances
  have numbers : ((after.agenda.since before.agenda).map (·.id.number)).Perm
      (List.range' before.agenda.nextId entered.length) := by
    rw [← advances.numbered]
    exact fresh.map _
  constructor
  · exact describes.ordered
  · intro past old event member
    rcases List.mem_append.mp (advances.pending.subset member) with early | late
    · exact describes.ahead past old event early
    · have number : event.id.number ∈ entered.map (·.id.number) := List.mem_map_of_mem late
      rw [advances.numbered, List.mem_range'_1] at number
      have smaller := describes.id_lt old
      have earlier := describes.passed past old
      have reached := advances.notPast event late
      simp only [Event.before]
      omega
  · rw [advances.now]
    exact describes.clock
  · rw [advances.now]
    exact describes.passed
  · intro event member
    rw [advances.now]
    rcases List.mem_append.mp (advances.pending.subset member) with early | late
    · exact describes.due event early
    · exact advances.notPast event late
  · calc chronicle.dispatched ++ after.agenda.pending ++ chronicle.discarded
      _ ~ chronicle.dispatched ++ (before.agenda.pending ++ entered) ++ chronicle.discarded :=
        (advances.pending.append_left _).append_right _
      _ = (chronicle.dispatched ++ before.agenda.pending) ++ (entered ++ chronicle.discarded) := by
        simp
      _ ~ (chronicle.dispatched ++ before.agenda.pending) ++ (chronicle.discarded ++ entered) :=
        List.perm_append_comm.append_left _
      _ = chronicle.dispatched ++ before.agenda.pending ++ chronicle.discarded ++ entered := by
        simp
      _ ~ chronicle.entered ++ after.agenda.since before.agenda :=
        describes.accounted.append fresh.symm
  · calc (chronicle.entered ++ after.agenda.since before.agenda).map (·.id.number)
      _ = chronicle.entered.map (·.id.number) ++
          (after.agenda.since before.agenda).map (·.id.number) := List.map_append
      _ ~ List.range before.agenda.nextId ++
          List.range' before.agenda.nextId entered.length := describes.numbered.append numbers
      _ = List.range after.agenda.nextId := by
        rw [advances.nextId, List.range_eq_range', List.range_eq_range', ← List.range'_append_1,
          Nat.zero_add]
  · intro running
    apply describes.kept
    cases halted : before.halted with
    | false => rfl
    | true =>
        rw [(advances.halted halted).1] at running
        cases running

theorem Describes.settle {context : Context} (describes : chronicle.Describes context)
    (fresh : chronicle.discarded = []) :
    Describes { chronicle with
      discarded := chronicle.discarded ++ if context.halted then context.agenda.pending else [] }
      context.settled := by
  unfold Context.settled
  split
  next halted =>
    constructor
    · exact describes.ordered
    · simp [Agenda.clear]
    · exact describes.clock
    · exact describes.passed
    · simp [Agenda.clear]
    · simpa [Agenda.clear, fresh] using describes.accounted
    · exact describes.numbered
    · intro running
      rw [show context.halted = false from running] at halted
      cases halted
  next running =>
    rw [List.append_nil]
    exact describes

structure Of (chronicle : Chronicle) (simulation : Simulation) : Prop where
  describes : chronicle.Describes simulation.context
  counted : simulation.eventsProcessed = chronicle.dispatched.length

theorem empty_of_initial : empty.Of .initial := ⟨empty_describes, rfl⟩

theorem Of.reaction {simulation after : Simulation} {state next : σ} {event : Event}
    {begun reacted : Context} (expressible : ∀ event state, Expressible Notice.Any (react event state))
    (known : chronicle.Of simulation)
    (dispatches : simulation.Dispatches react state event after next begun reacted) :
    (chronicle.reaction event begun reacted).Of after := by
  have begins : begun.now = event.time ∧ begun.halted = simulation.context.halted := by
    rw [dispatches.begins]
    exact ⟨rfl, rfl⟩
  obtain ⟨entered, advances⟩ := (expressible event state).advances dispatches.reacts
  have dispatched := known.describes.dispatch dispatches.pending dispatches.nextId begins.1
    begins.2
  have reached := (dispatched.enter advances).settle
    (known.describes.kept dispatches.running)
  constructor
  · rw [dispatches.context]
    exact reached
  · rw [dispatches.counted, known.counted]
    simp [Chronicle.reaction]

theorem Of.step_sound {simulation : Simulation} {state : σ} {now late : Time}
    (expressible : ∀ event state, Expressible Notice.Any (react event state))
    (known : chronicle.Of simulation) :
    (simulation.step react state).outcome ≠ .error (.backwardTime now late) :=
  Simulation.step_sound expressible known.describes.due

theorem Of.schedule {simulation after : Simulation} {time : Time} {payload : Payload}
    {id : EventId} (known : chronicle.Of simulation)
    (scheduled : (simulation.schedule time payload).outcome = .ok (id, after)) :
    (chronicle.request simulation.context after.context).Of after := by
  obtain ⟨⟨_, context⟩, entered, rest⟩ := Run.outcome_bind_eq_ok_iff.mp scheduled
  cases rest
  have asks : Expressible Notice.Any (Act.scheduleAt time payload) := .schedule time trivial
  obtain ⟨events, advances⟩ := asks.advances entered
  exact ⟨known.describes.enter advances, known.counted⟩

end Chronicle

section Commands

variable {σ : Type} {react : Event → σ → Act σ}

theorem chronicled_shadows : Simulation.Shadows Prod.fst (chronicled react) react := by
  intro event seen begun
  change ((react event seen.1).run begun >>= fun reached => pure
    ((reached.1, seen.2.reaction event begun reached.2), reached.2) : Run _).outcome.map _ = _
  rw [Run.outcome_bind]
  cases ((react event seen.1).run begun).outcome with
  | error fault => rfl
  | ok reached => rfl

theorem chronicled_ends_iff {event : Event} {seen next : σ × Chronicle} {begun reacted : Context} :
    (chronicled react event seen).Ends begun next reacted ↔
      (react event seen.1).Ends begun next.1 reacted ∧
        next.2 = seen.2.reaction event begun reacted := by
  simp only [chronicled, Act.ends_bind_iff, Act.ends_get_iff, Act.ends_pure_iff]
  constructor
  · rintro ⟨_, _, ⟨rfl, rfl⟩, state, _, reacts, _, _, ⟨rfl, rfl⟩, rfl, rfl⟩
    exact ⟨reacts, rfl⟩
  · rintro ⟨reacts, noted⟩
    refine ⟨_, _, ⟨rfl, rfl⟩, _, _, reacts, _, _, ⟨rfl, rfl⟩, ?_, rfl⟩
    rw [← noted]

namespace Command

theorem chronicled_perform (command : Command) (simulation : Simulation) (seen : σ × Chronicle) :
    (command.perform (chronicled react) simulation seen).outcome.map (fun reached =>
        (reached.1, reached.2.1)) =
      (command.perform react simulation seen.1).outcome := by
  have shadows : Simulation.Shadows Prod.fst (chronicled react) react := chronicled_shadows
  have runs (limit : Nat) := shadows.runFor limit simulation seen
  cases command with
  | schedule time payload => exact Run.outcome_bind_map id _ (by simp) fun _ => rfl
  | step => exact Run.outcome_bind_map _ _ (shadows.step simulation seen) fun _ => rfl
  | runFor limit => exact Run.outcome_bind_map _ _ (runs limit) fun _ => rfl
  | run => exact Run.outcome_bind_map _ _ (runs (largest + 1)) fun _ => rfl

theorem record_outcome (command : Command) (simulation : Simulation) (seen : σ × Chronicle) :
    (command.record react simulation seen).outcome.map (fun reached =>
        (reached.1, reached.2.1)) =
      (command.perform react simulation seen.1).outcome := by
  rw [← chronicled_perform]
  unfold record
  rw [Run.outcome_bind]
  cases (command.perform (chronicled react) simulation seen).outcome with
  | error fault => rfl
  | ok reached => cases command <;> rfl

theorem recordAll_outcome (commands : List Command) (state : σ) :
    (recordAll react commands state).outcome.map (fun reached => (reached.1, reached.2.1)) =
      (performAll react commands state).outcome := by
  unfold recordAll performAll
  generalize Simulation.initial = simulation
  generalize Chronicle.empty = chronicle
  induction commands generalizing simulation state chronicle with
  | nil => rfl
  | cons command rest ih =>
      rw [List.foldlM_cons, List.foldlM_cons]
      exact Run.outcome_bind_map _ _ (record_outcome command simulation (state, chronicle))
        fun reached => ih _ _ _

theorem record_describes (expressible : ∀ event state, Expressible Notice.Any (react event state))
    {command : Command} {simulation after : Simulation} {seen next : σ × Chronicle}
    (known : seen.2.Of simulation)
    (recorded : (command.record react simulation seen).outcome = .ok (after, next)) :
    next.2.Of after := by
  have stepped : ∀ (simulation : Simulation) (seen : σ × Chronicle) event after next,
      seen.2.Of simulation →
      (simulation.step (chronicled react) seen).outcome = .ok (some event, after, next) →
      next.2.Of after := by
    intro simulation seen event after next known stepped
    obtain ⟨begun, reacted, dispatches⟩ := Simulation.dispatches_of_step stepped
    obtain ⟨reacts, noted⟩ := chronicled_ends_iff.mp dispatches.reacts
    rw [noted]
    exact known.reaction expressible { dispatches with reacts := reacts }
  have runs : ∀ {limit count : Nat}, (simulation.runFor (chronicled react) limit seen).outcome =
      .ok (count, after, next) → next.2.Of after := by
    intro limit count counted
    obtain ⟨reached, ran, last⟩ := Run.outcome_bind_eq_ok_iff.mp counted
    cases last
    exact Simulation.runOnto_keeps (motive := fun simulation (seen : σ × Chronicle) =>
      seen.2.Of simulation) stepped known ran
  obtain ⟨done, performed, rest⟩ := Run.outcome_bind_eq_ok_iff.mp recorded
  cases command with
  | schedule time payload =>
      obtain ⟨entered, scheduled, last⟩ := Run.outcome_bind_eq_ok_iff.mp performed
      cases last
      cases rest
      exact known.schedule scheduled
  | step =>
      obtain ⟨⟨event?, reached⟩, taken, last⟩ := Run.outcome_bind_eq_ok_iff.mp performed
      cases last
      cases rest
      cases event? with
      | none =>
          obtain ⟨rfl, rfl⟩ := Simulation.unchanged_of_step taken
          exact known
      | some event => exact stepped _ _ _ _ _ known taken
  | runFor limit =>
      obtain ⟨counted, ran, last⟩ := Run.outcome_bind_eq_ok_iff.mp performed
      cases last
      cases rest
      exact runs ran
  | run =>
      obtain ⟨counted, ran, last⟩ := Run.outcome_bind_eq_ok_iff.mp performed
      cases last
      cases rest
      exact runs ran

theorem recordAll_describes (expressible : ∀ event state, Expressible Notice.Any (react event state))
    {commands : List Command} {state : σ} {after : Simulation} {next : σ × Chronicle}
    (recorded : (recordAll react commands state).outcome = .ok (after, next)) :
    next.2.Of after := by
  unfold recordAll at recorded
  have begun : Chronicle.Of (state, Chronicle.empty).2 .initial := Chronicle.empty_of_initial
  generalize Simulation.initial = simulation at begun recorded
  generalize (state, Chronicle.empty) = seen at begun recorded
  induction commands generalizing simulation seen with
  | nil =>
      cases recorded
      exact begun
  | cons command rest ih =>
      rw [List.foldlM_cons] at recorded
      obtain ⟨reached, first, later⟩ := Run.outcome_bind_eq_ok_iff.mp recorded
      exact ih _ _ (record_describes expressible begun first) later

theorem perform_sound (expressible : ∀ event state, Expressible Notice.Any (react event state))
    {command : Command} {simulation : Simulation} {state : σ} {chronicle : Chronicle}
    {now late : Time} (known : chronicle.Of simulation) :
    (command.perform react simulation state).outcome ≠ .error (.backwardTime now late) := by
  have ran : ∀ {limit : Nat}, (simulation.runFor react limit state).outcome ≠
      .error (.backwardTime now late) := by
    intro limit failed
    rcases Run.outcome_bind_eq_error_iff.mp failed with failed | ⟨_, _, failed⟩
    · refine Simulation.runOnto_fails
        (motive := fun simulation _ => ∃ chronicle : Chronicle, chronicle.Of simulation)
        ?_ ?_ ⟨chronicle, known⟩ failed
      · intro simulation state event after next ⟨chronicle, known⟩ stepped
        obtain ⟨begun, reacted, dispatches⟩ := Simulation.dispatches_of_step stepped
        exact ⟨_, known.reaction expressible dispatches⟩
      · intro simulation state ⟨chronicle, known⟩
        exact known.step_sound expressible
    · cases failed
  intro failed
  cases command with
  | schedule time payload =>
      rcases Run.outcome_bind_eq_error_iff.mp failed with failed | ⟨_, _, failed⟩
      · rcases Run.outcome_bind_eq_error_iff.mp failed with failed | ⟨_, _, failed⟩
        · have asks : Expressible Notice.Any (Act.scheduleAt time payload) := .schedule time trivial
          exact asks.fault_ne_backwardTime failed
        · cases failed
      · cases failed
  | step =>
      rcases Run.outcome_bind_eq_error_iff.mp failed with failed | ⟨_, _, failed⟩
      · exact known.step_sound expressible failed
      · cases failed
  | runFor limit =>
      rcases Run.outcome_bind_eq_error_iff.mp failed with failed | ⟨_, _, failed⟩
      · exact ran failed
      · cases failed
  | run =>
      rcases Run.outcome_bind_eq_error_iff.mp failed with failed | ⟨_, _, failed⟩
      · exact ran failed
      · cases failed

theorem recordAll_sound (expressible : ∀ event state, Expressible Notice.Any (react event state))
    {commands : List Command} {state : σ} {now late : Time} :
    (recordAll react commands state).outcome ≠ .error (.backwardTime now late) := by
  unfold recordAll
  have begun : Chronicle.Of (state, Chronicle.empty).2 .initial := Chronicle.empty_of_initial
  generalize Simulation.initial = simulation at begun
  generalize (state, Chronicle.empty) = seen at begun
  induction commands generalizing simulation seen with
  | nil => exact nofun
  | cons command rest ih =>
      rw [List.foldlM_cons]
      intro failed
      rcases Run.outcome_bind_eq_error_iff.mp failed with early | ⟨reached, first, late⟩
      · have performed := @record_outcome σ react command simulation seen
        rw [early] at performed
        exact perform_sound expressible begun performed.symm
      · exact ih _ _ (record_describes expressible begun first) late

/-- Whoever reacts to the events, and in whatever order events are scheduled and dispatched: the
events are dispatched in their order, each at its time, and every event that was entered was
dispatched, is pending or was discarded when the run was halted. The engine never sees the time go
backward. -/
theorem performAll_inOrder (expressible : ∀ event state, Expressible Notice.Any (react event state))
    (commands : List Command) (state : σ) :
    (∀ now late,
      (performAll react commands state).outcome ≠ .error (.backwardTime now late)) ∧
      ∀ simulation final, (performAll react commands state).outcome = .ok (simulation, final) →
        ∃ chronicle,
          (recordAll react commands state).outcome = .ok (simulation, final, chronicle) ∧
            chronicle.dispatched.Pairwise Event.before ∧
            simulation.eventsProcessed = chronicle.dispatched.length ∧
            simulation.currentTime = chronicle.lastTime ∧
            (chronicle.dispatched ++ simulation.context.agenda.pending ++
              chronicle.discarded).Perm chronicle.entered ∧
            (chronicle.entered.map (·.id.number)).Perm
              (List.range simulation.context.agenda.nextId) ∧
            (simulation.isTerminated = false → chronicle.discarded = []) := by
  have same := @recordAll_outcome σ react commands state
  constructor
  · intro now late failed
    rw [failed] at same
    cases recorded : (recordAll react commands state).outcome with
    | error fault =>
        rw [recorded] at same
        cases same
        exact recordAll_sound expressible recorded
    | ok reached =>
        rw [recorded] at same
        cases same
  · intro simulation final performed
    rw [performed] at same
    cases recorded : (recordAll react commands state).outcome with
    | error fault =>
        rw [recorded] at same
        cases same
    | ok reached =>
        obtain ⟨after, next, chronicle⟩ := reached
        rw [recorded] at same
        cases same
        have known : chronicle.Of after := recordAll_describes expressible recorded
        exact ⟨chronicle, rfl, known.describes.ordered, known.counted, known.describes.clock,
          known.describes.accounted, known.describes.numbered, known.describes.kept⟩

/-- A handler that asks for one event later and for one at once as long as `left` says, and then
ends the run. -/
def echo (event : Event) (left : Nat) : Act Nat := do
  if left = 0 then
    Act.terminate
    return 0
  else
    let _ ← Act.scheduleAfter 2 event.payload
    let _ ← Act.scheduleNow .stop
    return left - 1

theorem echo_expressible (event : Event) (left : Nat) : Expressible Notice.Any (echo event left) := by
  unfold echo
  split
  · exact .sequence .terminate fun _ => .result _
  · exact .sequence (.scheduleAfter _ trivial) fun _ =>
      .sequence (.scheduleNow trivial) fun _ => .result _

theorem performAll_inOrder_echo :
    ∃ simulation chronicle,
      (recordAll echo [.schedule ⟨3⟩ .controlTick, .step, .schedule ⟨3⟩ .stop, .run] 2).outcome
          = .ok (simulation, 0, chronicle) ∧
        chronicle.dispatched.map (·.id.number) = [0, 2, 3] ∧
        chronicle.discarded.map (·.id.number) = [5, 1, 4] ∧
        chronicle.dispatched.Pairwise Event.before ∧
        simulation.currentTime = chronicle.lastTime ∧
        (chronicle.dispatched ++ simulation.context.agenda.pending ++ chronicle.discarded).Perm
          chronicle.entered := by
  obtain ⟨chronicle, recorded, ordered, _, clock, accounted, _⟩ :=
    (performAll_inOrder echo_expressible
      [.schedule ⟨3⟩ .controlTick, .step, .schedule ⟨3⟩ .stop, .run] 2).2 _ 0 rfl
  refine ⟨_, chronicle, recorded, ?_, ?_, ordered, clock, accounted⟩
  · cases recorded
    rfl
  · cases recorded
    rfl

end Command
end Commands
end FogNetwork
