import FogNetwork.Simulation.Engine

/-! How acts end. A composed act is taken apart into what its parts did, down to the single changes
of the context. -/

namespace FogNetwork

theorem insertInOrder_perm (event : Event) (pending : List Event) :
    (insertInOrder event pending).Perm (event :: pending) := by
  induction pending with
  | nil => exact .refl _
  | cons first rest ih =>
      simp only [insertInOrder]
      split
      · exact .refl _
      · exact (ih.cons first).trans (List.Perm.swap event first rest)

theorem Agenda.enter?_eq_some {agenda next : Agenda} {time : Time} {payload : Payload}
    {id : EventId} (entered : agenda.enter? time payload = some (id, next)) :
    id = agenda.nextEventId ∧ next.nextId = agenda.nextId + 1 ∧
      next.pending = insertInOrder ⟨agenda.nextEventId, time, payload⟩ agenda.pending := by
  simp only [enter?] at entered
  split at entered
  · simp only [Option.some.injEq, Prod.mk.injEq] at entered
    obtain ⟨rfl, rfl⟩ := entered
    exact ⟨rfl, rfl, rfl⟩
  · cases entered

namespace Run

variable {α β : Type}

theorem outcome_bind (first : Run α) (next : α → Run β) :
    (first >>= next).outcome =
      match first.outcome with
      | .ok middle => (next middle).outcome
      | .error fault => .error fault := by
  obtain ⟨notices, reached⟩ := first
  cases reached <;> rfl

theorem outcome_bind_eq_error_iff {first : Run α} {next : α → Run β} {fault : Fault} :
    (first >>= next).outcome = .error fault ↔
      first.outcome = .error fault ∨
        ∃ middle, first.outcome = .ok middle ∧ (next middle).outcome = .error fault := by
  rw [outcome_bind]
  cases first.outcome <;> simp

theorem notices_bind (first : Run α) (next : α → Run β) :
    (first >>= next).notices = first.notices ++
      match first.outcome with
      | .ok middle => (next middle).notices
      | .error _ => [] := by
  obtain ⟨notices, reached⟩ := first
  cases reached <;> rfl

theorem mem_notices_bind {first : Run α} {next : α → Run β} {notice : Notice} :
    notice ∈ (first >>= next).notices ↔
      notice ∈ first.notices ∨
        ∃ middle, first.outcome = .ok middle ∧ notice ∈ (next middle).notices := by
  rw [notices_bind, List.mem_append]
  cases first.outcome <;> simp

theorem outcome_orFault_eq_ok_iff {value? : Option α} {fault : Fault} {value : α} :
    (orFault value? fault).outcome = .ok value ↔ value? = some value := by
  cases value? <;> simp [orFault]

theorem outcome_orFault_eq_error_iff {value? : Option α} {fault other : Fault} :
    (orFault value? fault).outcome = .error other ↔ value? = none ∧ other = fault := by
  cases value? <;> simp [orFault, eq_comm]

end Run

namespace Context

structure Enters (before : Context) (event : Event) (after : Context) : Prop where
  numbered : event.id = before.agenda.nextEventId
  notPast : before.now.ticks ≤ event.time.ticks
  pending : after.agenda.pending.Perm (event :: before.agenda.pending)
  nextId : after.agenda.nextId = before.agenda.nextId + 1
  timings : after.timings = before.timings
  usage : after.usage = before.usage
  halted : after.halted = before.halted
  now : after.now = before.now

end Context

namespace Act

variable {α β : Type} {before after : Context} {value : α}

/-- The act ends in `value`, without a fault, and leaves the context `after` behind. -/
def Ends (act : Act α) (before : Context) (value : α) (after : Context) : Prop :=
  (act.run before).outcome = .ok (value, after)

theorem ends_pure_iff {result : α} :
    (pure result : Act α).Ends before value after ↔ value = result ∧ after = before := by
  simp [Ends, eq_comm]

theorem ends_bind_iff {first : Act α} {next : α → Act β} {value : β} :
    (first >>= next).Ends before value after ↔
      ∃ middle between, first.Ends before middle between ∧
        (next middle).Ends between value after := by
  simp only [Ends, StateT.run_bind, Run.outcome_bind_eq_ok_iff, Prod.exists]

theorem mem_notices_bind {first : Act α} {next : α → Act β} {notice : Notice} :
    notice ∈ ((first >>= next).run before).notices ↔
      notice ∈ (first.run before).notices ∨
        ∃ middle between, first.Ends before middle between ∧
          notice ∈ ((next middle).run between).notices := by
  simp only [Ends, StateT.run_bind, Run.mem_notices_bind, Prod.exists]

theorem ends_map_iff {act : Act α} {change : α → β} {value : β} :
    (change <$> act).Ends before value after ↔
      ∃ result, act.Ends before result after ∧ value = change result := by
  rw [map_eq_pure_bind, ends_bind_iff]
  simp only [ends_pure_iff]
  constructor
  · rintro ⟨result, _, ended, rfl, rfl⟩
    exact ⟨result, ended, rfl⟩
  · rintro ⟨result, ended, rfl⟩
    exact ⟨result, after, ended, rfl, rfl⟩

theorem ends_lift_iff {run : Run α} :
    (liftM run : Act α).Ends before value after ↔ run.outcome = .ok value ∧ after = before := by
  change (run >>= fun result => pure (result, before) : Run (α × Context)).outcome = _ ↔ _
  simp only [Run.outcome_bind_eq_ok_iff, Run.outcome_pure, Except.ok.injEq, Prod.mk.injEq]
  constructor
  · rintro ⟨middle, ended, rfl, rfl⟩
    exact ⟨ended, rfl⟩
  · rintro ⟨ended, rfl⟩
    exact ⟨value, ended, rfl, rfl⟩

theorem ends_get_iff {context : Context} :
    (get : Act Context).Ends before context after ↔ context = before ∧ after = before := by
  change ((pure (before, before) : Run (Context × Context)).outcome = _) ↔ _
  simp [eq_comm]

theorem ends_set_iff {context : Context} {done : PUnit} :
    (set context : Act PUnit).Ends before done after ↔ after = context := by
  change ((pure (PUnit.unit, context) : Run (PUnit × Context)).outcome = _) ↔ _
  simp [eq_comm]

theorem ends_modify_iff {change : Context → Context} {done : PUnit} :
    (modify change : Act PUnit).Ends before done after ↔ after = change before := by
  change ((pure (PUnit.unit, change before) : Run (PUnit × Context)).outcome = _) ↔ _
  simp [eq_comm]

theorem ends_modifyGet_iff {change : Context → α × Context} :
    (modifyGet change : Act α).Ends before value after ↔ change before = (value, after) := by
  change ((pure (change before) : Run (α × Context)).outcome = _) ↔ _
  simp

theorem ends_note_iff {notice : Notice} {done : Unit} :
    (note notice).Ends before done after ↔ after = before := by
  refine (@ends_lift_iff _ _ _ _ (Run.note notice)).trans ?_
  simp

theorem ends_now_iff {time : Time} :
    now.Ends before time after ↔ time = before.now ∧ after = before := by
  simp only [now, ends_bind_iff, ends_get_iff, ends_pure_iff]
  constructor
  · rintro ⟨_, _, ⟨rfl, rfl⟩, rfl, rfl⟩
    exact ⟨rfl, rfl⟩
  · rintro ⟨rfl, rfl⟩
    exact ⟨_, _, ⟨rfl, rfl⟩, rfl, rfl⟩

theorem ends_withTimings_iff {work : Timings → α × Timings} :
    (withTimings work).Ends before value after ↔
      value = (work before.timings).1 ∧
        after = { before with timings := (work before.timings).2 } := by
  simp only [withTimings, ends_modifyGet_iff, Prod.mk.injEq]
  exact and_congr eq_comm eq_comm

theorem ends_changeTimings_iff {change : Timings → Timings} {done : Unit} :
    (changeTimings change).Ends before done after ↔
      after = { before with timings := change before.timings } :=
  ends_modify_iff

theorem ends_changeUsage_iff {change : Usage → Usage} {done : Unit} :
    (changeUsage change).Ends before done after ↔
      after = { before with usage := change before.usage } :=
  ends_modify_iff

theorem ends_terminate_iff {done : Unit} :
    terminate.Ends before done after ↔ after = { before with halted := true } :=
  ends_modify_iff

theorem ends_transfer_iff {size : Nat} {done : Unit} :
    (transfer size).Ends before done after ↔
      ∃ usage, before.usage.transfer? size = some usage ∧ after = { before with usage := usage } := by
  simp only [transfer, ends_bind_iff, ends_get_iff, ends_lift_iff, ends_set_iff,
    Run.outcome_orFault_eq_ok_iff]
  constructor
  · rintro ⟨_, _, ⟨rfl, rfl⟩, usage, _, ⟨found, rfl⟩, rfl⟩
    exact ⟨usage, found, rfl⟩
  · rintro ⟨usage, found, rfl⟩
    exact ⟨_, _, ⟨rfl, rfl⟩, usage, _, ⟨found, rfl⟩, rfl⟩

theorem ends_endExecution_iff {tuple : Tuple} {taken : Option Float} :
    (endExecution tuple).Ends before taken after ↔
      taken = (before.timings.endExecution tuple.id tuple.tupleType before.now).1 ∧
        after = { before with
          timings := (before.timings.endExecution tuple.id tuple.tupleType before.now).2 } := by
  simp only [endExecution, ends_bind_iff, ends_now_iff, ends_withTimings_iff]
  constructor
  · rintro ⟨_, _, ⟨rfl, rfl⟩, found, _, ⟨rfl, rfl⟩, ended⟩
    split at ended
    · obtain ⟨_, _, noted, ended⟩ := ends_bind_iff.mp ended
      obtain rfl := ends_note_iff.mp noted
      exact ends_pure_iff.mp ended
    · exact ends_pure_iff.mp ended
  · rintro ⟨rfl, rfl⟩
    refine ⟨_, _, ⟨rfl, rfl⟩, _, _, ⟨rfl, rfl⟩, ?_⟩
    split
    · exact ends_bind_iff.mpr ⟨(), _, ends_note_iff.mpr rfl, ends_pure_iff.mpr ⟨rfl, rfl⟩⟩
    · exact ends_pure_iff.mpr ⟨rfl, rfl⟩

theorem endExecution_notices {tuple : Tuple} {start : Time}
    (started : before.timings.started.get? tuple.id = some start) :
    ((endExecution tuple).run before).notices = [] := by
  have ended : (before.timings.endExecution tuple.id tuple.tupleType before.now).1.isNone =
      false := by
    simp [Timings.endExecution, started]
  change ((if (before.timings.endExecution tuple.id tuple.tupleType before.now).1.isNone then
    note (.endWithoutStart tuple.id) >>= fun _ => _ else _ : Act _).run _).notices = []
  rw [ended]
  rfl

theorem scheduleAt_outcome (before : Context) (time : Time) (payload : Payload) :
    ((scheduleAt time payload).run before).outcome =
      if time.ticks < before.now.ticks then .error (.pastTime before.now time)
      else if before.halted then .ok (before.agenda.nextEventId, before)
      else
        match before.agenda.enter? time payload with
        | some (id, agenda) => .ok (id, { before with agenda := agenda })
        | none => .error .overflow := by
  by_cases past : time.ticks < before.now.ticks
  · simp only [scheduleAt, StateT.run_bind, StateT.run_get, pure_bind, if_pos past]
    rfl
  · simp only [scheduleAt, StateT.run_bind, StateT.run_get, pure_bind, if_neg past]
    cases before.halted with
    | true => rfl
    | false =>
        simp only [Bool.false_eq_true, ↓reduceIte]
        cases before.agenda.enter? time payload <;> rfl

theorem scheduleAt_notices (before : Context) (time : Time) (payload : Payload) :
    ((scheduleAt time payload).run before).notices =
      if time.ticks < before.now.ticks then []
      else if before.halted then [.notAdmitted payload]
      else [] := by
  by_cases past : time.ticks < before.now.ticks
  · simp only [scheduleAt, StateT.run_bind, StateT.run_get, pure_bind, if_pos past]
    rfl
  · simp only [scheduleAt, StateT.run_bind, StateT.run_get, pure_bind, if_neg past]
    cases before.halted with
    | true => rfl
    | false =>
        simp only [Bool.false_eq_true, ↓reduceIte]
        cases before.agenda.enter? time payload <;> rfl

theorem scheduleAt_cases {time : Time} {payload : Payload} {id : EventId}
    (ended : (scheduleAt time payload).Ends before id after) :
    before.now.ticks ≤ time.ticks ∧
      ((before.halted = true ∧ after = before) ∨
        (before.halted = false ∧ ∃ agenda,
          before.agenda.enter? time payload = some (id, agenda) ∧
            after = { before with agenda := agenda })) := by
  rw [Ends, scheduleAt_outcome] at ended
  split at ended
  next past => cases ended
  next later =>
    refine ⟨Nat.le_of_not_lt later, ?_⟩
    split at ended
    next halted =>
      cases ended
      exact .inl ⟨halted, rfl⟩
    next running =>
      split at ended
      next agenda found =>
        cases ended
        exact .inr ⟨by simpa using running, agenda, found, rfl⟩
      next => cases ended

theorem scheduleAt_enters {time : Time} {payload : Payload} {id : EventId}
    (running : before.halted = false) (ended : (scheduleAt time payload).Ends before id after) :
    before.Enters ⟨before.agenda.nextEventId, time, payload⟩ after := by
  obtain ⟨later, ⟨halted, _⟩ | ⟨_, agenda, found, rfl⟩⟩ := scheduleAt_cases ended
  · rw [running] at halted
    cases halted
  · obtain ⟨_, nextId, pending⟩ := Agenda.enter?_eq_some found
    constructor
    · rfl
    · exact later
    · change agenda.pending.Perm _
      rw [pending]
      exact insertInOrder_perm _ _
    · exact nextId
    · rfl
    · rfl
    · rfl
    · rfl

theorem scheduleAfter_enters {delay : Nat} {payload : Payload} {id : EventId}
    (running : before.halted = false)
    (ended : (scheduleAfter delay payload).Ends before id after) :
    ∃ time, before.now.after? delay = some time ∧
      before.Enters ⟨before.agenda.nextEventId, time, payload⟩ after := by
  simp only [scheduleAfter, ends_bind_iff, ends_now_iff, ends_lift_iff,
    Run.outcome_orFault_eq_ok_iff] at ended
  obtain ⟨_, _, ⟨rfl, rfl⟩, time, _, ⟨reached, rfl⟩, ended⟩ := ended
  exact ⟨time, reached, scheduleAt_enters running ended⟩

theorem scheduleNow_enters {payload : Payload} {id : EventId} (running : before.halted = false)
    (ended : (scheduleNow payload).Ends before id after) :
    before.Enters ⟨before.agenda.nextEventId, before.now, payload⟩ after := by
  simp only [scheduleNow, ends_bind_iff, ends_now_iff] at ended
  obtain ⟨_, _, ⟨rfl, rfl⟩, ended⟩ := ended
  exact scheduleAt_enters running ended

section Loops

variable {ι σ : Type}

theorem foldlM_keeps {body : σ → ι → Act σ} {motive : List ι → Context → σ → Prop}
    (step : ∀ item rest before state after next, motive (item :: rest) before state →
      (body state item).Ends before next after → motive rest after next)
    {items : List ι} {before after : Context} {state next : σ} (begun : motive items before state)
    (ended : (items.foldlM body state).Ends before next after) : motive [] after next := by
  induction items generalizing before state with
  | nil =>
      rw [List.foldlM_nil, ends_pure_iff] at ended
      obtain ⟨rfl, rfl⟩ := ended
      exact begun
  | cons item rest ih =>
      rw [List.foldlM_cons, ends_bind_iff] at ended
      obtain ⟨middle, between, first, later⟩ := ended
      exact ih (step _ _ _ _ _ _ begun first) later

theorem foldlM_visits {body : σ → ι → Act σ} {motive : List ι → Context → σ → Prop}
    (step : ∀ item rest before state after next, motive (item :: rest) before state →
      (body state item).Ends before next after → motive rest after next)
    {items : List ι} {before after : Context} {state next : σ} (begun : motive items before state)
    (ended : (items.foldlM body state).Ends before next after) :
    ∀ item ∈ items, ∃ rest before state after next,
      motive (item :: rest) before state ∧ (body state item).Ends before next after := by
  induction items generalizing before state with
  | nil => exact nofun
  | cons item rest ih =>
      rw [List.foldlM_cons, ends_bind_iff] at ended
      obtain ⟨middle, between, first, later⟩ := ended
      intro other member
      rcases List.mem_cons.mp member with rfl | member
      · exact ⟨rest, before, state, between, middle, begun, first⟩
      · exact ih (step _ _ _ _ _ _ begun first) later other member

theorem foldlM_notices {body : σ → ι → Act σ} {allowed : Notice → Prop}
    {motive : List ι → Context → σ → Prop}
    (step : ∀ item rest before state after next, motive (item :: rest) before state →
      (body state item).Ends before next after → motive rest after next)
    (sound : ∀ item rest before state, motive (item :: rest) before state →
      ∀ notice ∈ ((body state item).run before).notices, allowed notice)
    {items : List ι} {before : Context} {state : σ} (begun : motive items before state) :
    ∀ notice ∈ ((items.foldlM body state).run before).notices, allowed notice := by
  induction items generalizing before state with
  | nil => exact nofun
  | cons item rest ih =>
      intro notice reported
      rw [List.foldlM_cons, mem_notices_bind] at reported
      rcases reported with early | ⟨middle, between, ended, late⟩
      · exact sound item rest before state begun notice early
      · exact ih (step _ _ _ _ _ _ begun ended) notice late

theorem forM_keeps {body : ι → Act PUnit} {motive : List ι → Context → Prop}
    (step : ∀ item rest before after done, motive (item :: rest) before →
      (body item).Ends before done after → motive rest after)
    {items : List ι} {before after : Context} {done : PUnit} (begun : motive items before)
    (ended : (items.forM body).Ends before done after) : motive [] after := by
  induction items generalizing before with
  | nil =>
      rw [List.forM_eq_forM, List.forM_nil, ends_pure_iff] at ended
      exact ended.2 ▸ begun
  | cons item rest ih =>
      rw [List.forM_eq_forM, List.forM_cons, ends_bind_iff] at ended
      obtain ⟨_, between, first, later⟩ := ended
      exact ih (step _ _ _ _ _ begun first) later

end Loops

end Act
end FogNetwork
