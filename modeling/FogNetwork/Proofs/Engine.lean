import FogNetwork.Proofs.Acts

/-! One step of the engine, and what a run keeps that every step keeps. -/

namespace FogNetwork

def Context.settled (context : Context) : Context :=
  if context.halted then { context with agenda := context.agenda.clear } else context

theorem Context.settled_eq (context : Context) :
    ∃ agenda, context.settled = { context with agenda := agenda } := by
  unfold settled
  split
  · exact ⟨_, rfl⟩
  · exact ⟨context.agenda, rfl⟩

theorem Context.settled_eq_self {context : Context} (running : context.settled.halted = false) :
    context.settled = context := by
  unfold settled at running ⊢
  split
  next halted =>
    rw [if_pos halted, show context.halted = true from halted] at running
    cases running
  · rfl

theorem Agenda.next?_eq_some {agenda rest : Agenda} {event : Event}
    (taken : agenda.next? = some (event, rest)) :
    agenda.pending = event :: rest.pending ∧ rest.nextId = agenda.nextId := by
  obtain ⟨pending, nextId, ordered, issued⟩ := agenda
  cases pending with
  | nil => cases taken
  | cons first others =>
      cases taken
      exact ⟨rfl, rfl⟩

theorem Agenda.isEmpty_of_next?_eq_none {agenda : Agenda} (idle : agenda.next? = none) :
    agenda.isEmpty = true := by
  obtain ⟨pending, nextId, ordered, issued⟩ := agenda
  cases pending with
  | nil => rfl
  | cons => cases idle

namespace Run

theorem outcome_bind_map {α α' β β' : Type} {full : Run α'} {plain : Run α}
    {fullNext : α' → Run β'} {plainNext : α → Run β} (early : α' → α) (late : β' → β)
    (first : full.outcome.map early = plain.outcome)
    (next : ∀ middle, (fullNext middle).outcome.map late = (plainNext (early middle)).outcome) :
    (full >>= fullNext).outcome.map late = (plain >>= plainNext).outcome := by
  rw [outcome_bind, outcome_bind, ← first]
  cases full.outcome with
  | error fault => rfl
  | ok middle => exact next middle

end Run

namespace Simulation

variable {σ : Type} {react : Event → σ → Act σ}

theorem settle_outcome (context : Context) : (settle context).outcome = .ok context.settled := by
  unfold settle Context.settled
  split
  · rfl
  · rfl

theorem step_outcome (react : Event → σ → Act σ) (simulation : Simulation) (state : σ) :
    (simulation.step react state).outcome =
      if simulation.context.halted then .ok (none, simulation, state)
      else
        match simulation.context.agenda.next? with
        | none => .ok (none, simulation, state)
        | some (event, agenda) =>
            if event.time.ticks < simulation.context.now.ticks then
              .error (.backwardTime simulation.context.now event.time)
            else if simulation.eventsProcessed + 1 ≤ largest then
              match ((react event state).run
                { simulation.context with agenda := agenda, now := event.time }).outcome with
              | .ok reached =>
                  .ok (some event, ⟨reached.2.settled, simulation.eventsProcessed + 1⟩, reached.1)
              | .error fault => .error fault
            else .error .overflow := by
  unfold step
  dsimp only
  split
  · rfl
  · cases simulation.context.agenda.next? with
    | none => rfl
    | some pair =>
        obtain ⟨event, agenda⟩ := pair
        dsimp only
        split
        · rfl
        · rw [Run.outcome_bind]
          by_cases fits : simulation.eventsProcessed + 1 ≤ largest
          · simp only [sum?, if_pos fits, Run.orFault, Run.outcome_pure, Run.outcome_bind,
              settle_outcome]
            generalize ((react event state).run _).outcome = ran
            cases ran <;> rfl
          · simp only [sum?, if_neg fits, Run.orFault, Run.outcome_throw]

theorem step_notices {simulation : Simulation} {state : σ} {notice : Notice}
    (reported : notice ∈ (simulation.step react state).notices) :
    (∃ now pending, notice = .simulationTerminated now pending) ∨
      ∃ event agenda, simulation.context.halted = false ∧
        simulation.context.agenda.next? = some (event, agenda) ∧
        notice ∈ ((react event state).run
          { simulation.context with agenda := agenda, now := event.time }).notices := by
  unfold step at reported
  dsimp only at reported
  split at reported
  · cases reported
  next running =>
    split at reported
    · cases reported
    next event agenda taken =>
      split at reported
      · cases reported
      · simp only [Run.mem_notices_bind] at reported
        rcases reported with counting | ⟨_, _, reacting | ⟨_, _, settling | ⟨_, _, returning⟩⟩⟩
        · cases fits : sum? simulation.eventsProcessed 1 <;> rw [fits] at counting <;>
            cases counting
        · exact .inr ⟨event, agenda, by simpa using running, taken, reacting⟩
        · unfold settle at settling
          split at settling
          · exact .inl ⟨_, _, List.mem_singleton.mp settling⟩
          · cases settling
        · cases returning

/-- A step that dispatches `event`. The reaction begins in the context `begun` and leaves the
context `reacted` to be settled. -/
structure Dispatches (react : Event → σ → Act σ) (simulation : Simulation) (state : σ)
    (event : Event) (after : Simulation) (next : σ) (begun reacted : Context) : Prop where
  running : simulation.context.halted = false
  pending : simulation.context.agenda.pending = event :: begun.agenda.pending
  nextId : begun.agenda.nextId = simulation.context.agenda.nextId
  begins : begun = { simulation.context with agenda := begun.agenda, now := event.time }
  notPast : simulation.context.now.ticks ≤ event.time.ticks
  reacts : (react event state).Ends begun next reacted
  context : after.context = reacted.settled
  counted : after.eventsProcessed = simulation.eventsProcessed + 1
  countable : after.eventsProcessed ≤ largest

theorem dispatches_of_step {simulation after : Simulation} {state next : σ} {event : Event}
    (stepped : (simulation.step react state).outcome = .ok (some event, after, next)) :
    ∃ begun reacted, simulation.Dispatches react state event after next begun reacted := by
  rw [step_outcome] at stepped
  split at stepped
  · cases stepped
  next running =>
    split at stepped
    · cases stepped
    next first agenda taken =>
      split at stepped
      · cases stepped
      next notPast =>
        split at stepped
        next countable =>
          split at stepped
          next reached reacts =>
            cases stepped
            obtain ⟨pending, nextId⟩ := Agenda.next?_eq_some taken
            exact ⟨_, _,
              { running := by simpa using running
                pending := pending
                nextId := nextId
                begins := rfl
                notPast := Nat.le_of_not_lt notPast
                reacts := reacts
                context := rfl
                counted := rfl
                countable := countable }⟩
          · cases stepped
        · cases stepped

namespace Dispatches

variable {simulation after : Simulation} {state next : σ} {event : Event} {begun reacted : Context}
variable (dispatches : simulation.Dispatches react state event after next begun reacted)
include dispatches

theorem begun_running : begun.halted = false := by
  rw [dispatches.begins]
  exact dispatches.running

theorem begun_now : begun.now = event.time := by
  rw [dispatches.begins]

theorem begun_timings : begun.timings = simulation.context.timings := by
  rw [dispatches.begins]

theorem begun_usage : begun.usage = simulation.context.usage := by
  rw [dispatches.begins]

theorem after_timings : after.context.timings = reacted.timings := by
  obtain ⟨_, settled⟩ := reacted.settled_eq
  rw [dispatches.context, settled]

theorem after_usage : after.context.usage = reacted.usage := by
  obtain ⟨_, settled⟩ := reacted.settled_eq
  rw [dispatches.context, settled]

theorem after_context (running : after.context.halted = false) : after.context = reacted := by
  rw [dispatches.context] at running ⊢
  exact Context.settled_eq_self running

end Dispatches

theorem unchanged_of_step {simulation after : Simulation} {state next : σ}
    (stepped : (simulation.step react state).outcome = .ok (none, after, next)) :
    after = simulation ∧ next = state := by
  rw [step_outcome] at stepped
  split at stepped
  · cases stepped
    exact ⟨rfl, rfl⟩
  · split at stepped
    · cases stepped
      exact ⟨rfl, rfl⟩
    · split at stepped
      · cases stepped
      · split at stepped
        · split at stepped <;> cases stepped
        · cases stepped

theorem runOnto_outcome_succ (limit : Nat) (written : List Notice) (simulation : Simulation)
    (state : σ) :
    (runOnto react (limit + 1) written simulation state).outcome =
      match (simulation.step react state).outcome with
      | .error fault => .error fault
      | .ok (none, after, next) => .ok (after, next)
      | .ok (some _, after, next) =>
          (runOnto react limit ((simulation.step react state).notices.reverseAux written)
            after next).outcome := by
  simp only [runOnto]
  split <;> simp_all [Run.outcome, ExceptT.run]

/-! One way of reacting shadows another if it does the same with what can be seen of the state. Then
the engine takes the same turns with both. -/

section Shadows

variable {τ : Type} {look : τ → σ} {full : Event → τ → Act τ} {plain : Event → σ → Act σ}

def Shadows (look : τ → σ) (full : Event → τ → Act τ) (plain : Event → σ → Act σ) : Prop :=
  ∀ event state begun, ((full event state).run begun).outcome.map (fun reached =>
      (look reached.1, reached.2)) = ((plain event (look state)).run begun).outcome

theorem Shadows.step (shadows : Shadows look full plain) (simulation : Simulation) (state : τ) :
    (simulation.step full state).outcome.map (fun reached =>
        (reached.1, reached.2.1, look reached.2.2)) =
      (simulation.step plain (look state)).outcome := by
  rw [step_outcome, step_outcome]
  split
  · rfl
  · split
    · rfl
    next event agenda taken =>
      split
      · rfl
      · split
        · rw [← shadows]
          generalize ((full event state).run _).outcome = ran
          cases ran <;> rfl
        · rfl

theorem Shadows.runOnto (shadows : Shadows look full plain) {limit : Nat}
    {written noted : List Notice} (simulation : Simulation) (state : τ) :
    (Simulation.runOnto full limit written simulation state).outcome.map
        (fun reached => (reached.1, look reached.2)) =
      (Simulation.runOnto plain limit noted simulation (look state)).outcome := by
  induction limit generalizing written noted simulation state with
  | zero => rfl
  | succ limit ih =>
      rw [runOnto_outcome_succ, runOnto_outcome_succ, ← shadows.step]
      cases (simulation.step full state).outcome with
      | error fault => rfl
      | ok reached =>
          obtain ⟨event?, after, next⟩ := reached
          cases event? with
          | none => rfl
          | some event => exact ih after next

theorem Shadows.runFor (shadows : Shadows look full plain) (limit : Nat) (simulation : Simulation)
    (state : τ) :
    (simulation.runFor full limit state).outcome.map (fun reached =>
        (reached.1, reached.2.1, look reached.2.2)) =
      (simulation.runFor plain limit (look state)).outcome :=
  Run.outcome_bind_map _ _ (shadows.runOnto simulation state) fun _ => rfl

end Shadows

theorem runOnto_keeps {motive : Simulation → σ → Prop}
    (step : ∀ simulation state event after next, motive simulation state →
      (simulation.step react state).outcome = .ok (some event, after, next) → motive after next)
    {limit : Nat} {written : List Notice} {simulation after : Simulation} {state next : σ}
    (begun : motive simulation state)
    (ran : (runOnto react limit written simulation state).outcome = .ok (after, next)) :
    motive after next := by
  induction limit generalizing written simulation state with
  | zero =>
      cases ran
      exact begun
  | succ limit ih =>
      rw [runOnto_outcome_succ] at ran
      split at ran
      · cases ran
      next stepped =>
        cases ran
        obtain ⟨rfl, rfl⟩ := unchanged_of_step stepped
        exact begun
      next stepped => exact ih (step _ _ _ _ _ begun stepped) ran

theorem runOnto_fails {motive : Simulation → σ → Prop} {fault : Fault}
    (step : ∀ simulation state event after next, motive simulation state →
      (simulation.step react state).outcome = .ok (some event, after, next) → motive after next)
    (sound : ∀ simulation state, motive simulation state →
      (simulation.step react state).outcome ≠ .error fault)
    {limit : Nat} {written : List Notice} {simulation : Simulation} {state : σ}
    (begun : motive simulation state) :
    (runOnto react limit written simulation state).outcome ≠ .error fault := by
  induction limit generalizing written simulation state with
  | zero => exact nofun
  | succ limit ih =>
      rw [runOnto_outcome_succ]
      split
      next failed =>
        intro same
        cases same
        exact sound _ _ begun failed
      · exact nofun
      next stepped => exact ih (step _ _ _ _ _ begun stepped)

end Simulation
end FogNetwork
