import FogNetwork.Orchestrator.Dispatch
import FogNetwork.Proofs.Acts

/-! What a reaction can do to its context, whoever reacts. It may read everything, ask for events,
change the measurements and end the run; it can neither take events off the agenda nor turn the
clock. -/

namespace FogNetwork

def Notice.Any : Notice → Prop := fun _ => True

def Notice.Expected (notice : Notice) : Prop := ∀ tuple, notice ≠ .endWithoutStart tuple

/-- A computation that reports no notice but those allowed, and that leaves the fault of a clock
that runs backward to the engine. -/
structure Run.Within {α : Type} (allowed : Notice → Prop) (run : Run α) : Prop where
  own : ∀ now event, run.outcome ≠ .error (.backwardTime now event)
  reports : ∀ notice ∈ run.notices, allowed notice

/-- The acts that can be put together from what a context offers to a handler and that report no
notice but those allowed. -/
inductive Expressible (allowed : Notice → Prop) : {α : Type} → Act α → Prop
  | result {α : Type} (value : α) : Expressible allowed (pure value : Act α)
  | sequence {α β : Type} {first : Act α} {next : α → Act β} :
      Expressible allowed first → (∀ value, Expressible allowed (next value)) →
        Expressible allowed (first >>= next)
  | look : Expressible allowed (get : Act Context)
  | compute {α : Type} {run : Run α} (within : run.Within allowed) :
      Expressible allowed (liftM run : Act α)
  | schedule (time : Time) {payload : Payload} (fits : allowed (.notAdmitted payload)) :
      Expressible allowed (Act.scheduleAt time payload)
  | measure (timings : Timings) (usage : Usage) :
      Expressible allowed (modify fun context => { context with timings := timings, usage := usage })
  | terminate : Expressible allowed Act.terminate

namespace Run.Within

variable {α β : Type} {allowed : Notice → Prop}

theorem pure (value : α) : Within allowed (pure value : Run α) := ⟨fun _ _ => nofun, nofun⟩

theorem bind {first : Run α} {next : α → Run β} (left : first.Within allowed)
    (right : ∀ value, (next value).Within allowed) : (first >>= next).Within allowed := by
  constructor
  · intro now event failed
    rcases Run.outcome_bind_eq_error_iff.mp failed with early | ⟨middle, _, late⟩
    · exact left.own now event early
    · exact (right middle).own now event late
  · intro notice reported
    rcases Run.mem_notices_bind.mp reported with early | ⟨middle, _, late⟩
    · exact left.reports notice early
    · exact (right middle).reports notice late

theorem note {notice : Notice} (fits : allowed notice) : (Run.note notice).Within allowed :=
  ⟨fun _ _ => nofun, fun _ member => by rwa [List.mem_singleton.mp member]⟩

theorem orFault (value? : Option α) {fault : Fault}
    (own : ∀ now event, fault ≠ .backwardTime now event) :
    (Run.orFault value? fault).Within allowed := by
  constructor
  · intro now event failed
    exact own now event (Run.outcome_orFault_eq_error_iff.mp failed).2.symm
  · intro notice member
    cases value? <;> cases member

theorem mono {more : Notice → Prop} (wider : ∀ notice, allowed notice → more notice)
    {run : Run α} (within : run.Within allowed) : run.Within more :=
  ⟨within.own, fun notice member => wider notice (within.reports notice member)⟩

end Run.Within

structure Context.Advances (before after : Context) (entered : List Event) : Prop where
  now : after.now = before.now
  pending : after.agenda.pending.Perm (before.agenda.pending ++ entered)
  numbered : entered.map (·.id.number) = List.range' before.agenda.nextId entered.length
  nextId : after.agenda.nextId = before.agenda.nextId + entered.length
  notPast : ∀ event ∈ entered, before.now.ticks ≤ event.time.ticks
  halted : before.halted = true → after.halted = true ∧ entered = []

namespace Context

theorem Advances.unchanged {before after : Context} (agenda : after.agenda = before.agenda)
    (now : after.now = before.now) (halted : before.halted = true → after.halted = true) :
    before.Advances after [] := by
  constructor
  · exact now
  · simp [agenda]
  · rfl
  · simp [agenda]
  · simp
  · exact fun halts => ⟨halted halts, rfl⟩

theorem Enters.advances {before after : Context} {event : Event}
    (enters : before.Enters event after) (running : before.halted = false) :
    before.Advances after [event] := by
  constructor
  · exact enters.now
  · exact enters.pending.trans (List.perm_append_singleton event _).symm
  · simp [enters.numbered, Agenda.nextEventId]
  · exact enters.nextId
  · simpa using enters.notPast
  · simp [running]

theorem Advances.trans {before middle after : Context} {first second : List Event}
    (left : before.Advances middle first) (right : middle.Advances after second) :
    before.Advances after (first ++ second) := by
  constructor
  · rw [right.now, left.now]
  · rw [← List.append_assoc]
    exact right.pending.trans (left.pending.append_right second)
  · rw [List.map_append, left.numbered, right.numbered, left.nextId, List.length_append,
      List.range'_append_1]
  · rw [right.nextId, left.nextId, List.length_append, Nat.add_assoc]
  · intro event member
    rcases List.mem_append.mp member with early | late
    · exact left.notPast event early
    · exact left.now ▸ right.notPast event late
  · intro halted
    obtain ⟨still, rfl⟩ := left.halted halted
    obtain ⟨halts, rfl⟩ := right.halted still
    exact ⟨halts, rfl⟩

end Context

namespace Expressible

variable {α β : Type} {allowed : Notice → Prop}

theorem advances {act : Act α} (expressible : Expressible allowed act) {before after : Context}
    {value : α} (ended : act.Ends before value after) :
    ∃ entered, before.Advances after entered := by
  induction expressible generalizing before after with
  | result =>
      obtain ⟨_, rfl⟩ := Act.ends_pure_iff.mp ended
      exact ⟨[], .unchanged rfl rfl id⟩
  | sequence _ _ first next =>
      obtain ⟨_, _, began, ended⟩ := Act.ends_bind_iff.mp ended
      obtain ⟨early, left⟩ := first began
      obtain ⟨late, right⟩ := next _ ended
      exact ⟨early ++ late, left.trans right⟩
  | look =>
      obtain ⟨_, rfl⟩ := Act.ends_get_iff.mp ended
      exact ⟨[], .unchanged rfl rfl id⟩
  | compute =>
      obtain ⟨_, rfl⟩ := Act.ends_lift_iff.mp ended
      exact ⟨[], .unchanged rfl rfl id⟩
  | schedule time =>
      cases halted : before.halted with
      | true =>
          obtain ⟨_, ⟨_, rfl⟩ | ⟨running, _⟩⟩ := Act.scheduleAt_cases ended
          · exact ⟨[], .unchanged rfl rfl id⟩
          · rw [halted] at running
            cases running
      | false => exact ⟨_, (Act.scheduleAt_enters halted ended).advances halted⟩
  | measure =>
      obtain rfl := Act.ends_modify_iff.mp ended
      exact ⟨[], .unchanged rfl rfl id⟩
  | terminate =>
      obtain rfl := Act.ends_terminate_iff.mp ended
      exact ⟨[], .unchanged rfl rfl fun _ => rfl⟩

theorem fault_ne_backwardTime {act : Act α} (expressible : Expressible allowed act) {before : Context}
    {now event : Time} : (act.run before).outcome ≠ .error (.backwardTime now event) := by
  induction expressible generalizing before with
  | result => simp
  | sequence _ _ first next =>
      intro failed
      rw [StateT.run_bind, Run.outcome_bind_eq_error_iff] at failed
      rcases failed with early | ⟨middle, _, late⟩
      · exact first early
      · exact next middle.1 late
  | look => exact fun failed => nomatch failed
  | @compute _ run within =>
      intro failed
      rw [show (liftM run : Act _).run before = run >>= fun value => pure (value, before) from rfl,
        Run.outcome_bind_eq_error_iff] at failed
      rcases failed with early | ⟨middle, _, late⟩
      · exact within.own now event early
      · cases late
  | schedule time =>
      intro failed
      rw [Act.scheduleAt_outcome] at failed
      split at failed
      · cases failed
      · split at failed
        · cases failed
        · split at failed <;> cases failed
  | measure => exact fun failed => nomatch failed
  | terminate => exact fun failed => nomatch failed

theorem notices_allowed {act : Act α} (expressible : Expressible allowed act) {before : Context}
    {notice : Notice} (reported : notice ∈ (act.run before).notices) : allowed notice := by
  induction expressible generalizing before with
  | result => cases reported
  | sequence _ _ first next =>
      rcases Act.mem_notices_bind.mp reported with early | ⟨middle, between, _, late⟩
      · exact first early
      · exact next middle late
  | look => cases reported
  | @compute _ run within =>
      rw [show (liftM run : Act _).run before = run >>= fun value => pure (value, before) from rfl]
        at reported
      rcases Run.mem_notices_bind.mp reported with early | ⟨_, _, late⟩
      · exact within.reports notice early
      · cases late
  | schedule time fits =>
      rw [Act.scheduleAt_notices] at reported
      split at reported
      · cases reported
      · split at reported
        · rw [List.mem_singleton.mp reported]
          exact fits
        · cases reported
  | measure => cases reported
  | terminate => cases reported

theorem mono {more : Notice → Prop} (wider : ∀ notice, allowed notice → more notice)
    {act : Act α} (expressible : Expressible allowed act) : Expressible more act := by
  induction expressible with
  | result value => exact .result value
  | sequence _ _ first next => exact .sequence first next
  | look => exact .look
  | compute within => exact .compute (within.mono wider)
  | schedule time fits => exact .schedule time (wider _ fits)
  | measure timings usage => exact .measure timings usage
  | terminate => exact .terminate

theorem any {act : Act α} (expressible : Expressible allowed act) : Expressible Notice.Any act :=
  expressible.mono fun _ _ => trivial

/-! What the context offers beyond its basic steps. -/

theorem change {act : Act α} (expressible : Expressible allowed act) (change : α → β) :
    Expressible allowed (change <$> act) := by
  rw [map_eq_pure_bind]
  exact .sequence expressible fun _ => .result _

theorem report {notice : Notice} (fits : allowed notice) : Expressible allowed (Act.note notice) :=
  .compute (.note fits)

theorem now : Expressible allowed Act.now := .sequence .look fun _ => .result _

theorem orFault (value? : Option α) {fault : Fault}
    (own : ∀ now event, fault ≠ .backwardTime now event) :
    Expressible allowed (liftM (Run.orFault value? fault) : Act α) :=
  .compute (.orFault value? own)

theorem withTimings (work : Timings → α × Timings) : Expressible allowed (Act.withTimings work) :=
  .sequence .look fun context =>
    .sequence (.measure (work context.timings).2 context.usage) fun _ => .result _

theorem changeTimings (change : Timings → Timings) : Expressible allowed (Act.changeTimings change) :=
  .sequence .look fun context => .measure (change context.timings) context.usage

theorem changeUsage (change : Usage → Usage) : Expressible allowed (Act.changeUsage change) :=
  .sequence .look fun context => .measure context.timings (change context.usage)

theorem transfer (size : Nat) : Expressible allowed (Act.transfer size) := by
  have parts : Act.transfer size = get >>= fun context =>
      liftM (Run.orFault (context.usage.transfer? size) .overflow) >>= fun usage =>
        modify fun now => { now with timings := context.timings, usage := usage } := by
    apply StateT.ext
    intro context
    simp only [Act.transfer, StateT.run_bind, StateT.run_get, pure_bind]
    cases context.usage.transfer? size <;> rfl
  rw [parts]
  exact .sequence .look fun context => .sequence (orFault _ (by simp)) fun usage =>
    .measure context.timings usage

theorem scheduleAfter (delay : Nat) {payload : Payload} (fits : allowed (.notAdmitted payload)) :
    Expressible allowed (Act.scheduleAfter delay payload) :=
  .sequence now fun _ => .sequence (orFault _ (by simp)) fun time => .schedule time fits

theorem scheduleNow {payload : Payload} (fits : allowed (.notAdmitted payload)) :
    Expressible allowed (Act.scheduleNow payload) :=
  .sequence now fun time => .schedule time fits

theorem send (device : DeviceId) (latency : Nat) {tuple : Tuple}
    (fits : allowed (.notAdmitted (.device device (.tupleArrival tuple)))) :
    Expressible allowed (Act.send device latency tuple) :=
  .sequence (transfer _) fun _ => scheduleAfter _ fits

theorem sendToActuator (actuator : ActuatorId) (latency : Nat) {tuple : Tuple}
    (fits : allowed (.notAdmitted (.delivery actuator tuple))) :
    Expressible allowed (Act.sendToActuator actuator latency tuple) :=
  .sequence (transfer _) fun _ => scheduleAfter _ fits

theorem endExecution {tuple : Tuple} (fits : allowed (.endWithoutStart tuple.id)) :
    Expressible allowed (Act.endExecution tuple) := by
  refine .sequence now fun _ => .sequence (withTimings _) fun taken => ?_
  split
  · exact .sequence (.report fits) fun _ => .result _
  · exact .result _

theorem forM {ι : Type} {body : ι → Act PUnit}
    (expressible : ∀ item, Expressible allowed (body item)) (items : List ι) :
    Expressible allowed (items.forM body) := by
  induction items with
  | nil => exact .result _
  | cons item rest ih => exact .sequence (expressible item) fun _ => ih

theorem foldlM {ι σ : Type} {body : σ → ι → Act σ}
    (expressible : ∀ state item, Expressible allowed (body state item)) (items : List ι) (state : σ) :
    Expressible allowed (items.foldlM body state) := by
  induction items generalizing state with
  | nil => exact .result _
  | cons item rest ih => exact .sequence (expressible state item) ih

end Expressible

/-! Everything in a network reacts within these means. -/

namespace Relay

theorem accept_expressible (tuple : Tuple) (relay : Relay) :
    Expressible Notice.Expected (relay.accept tuple) := by
  unfold accept
  split
  · exact .sequence .now fun _ => .sequence (.changeUsage _) fun _ =>
      .sequence (.changeTimings _) fun _ => .result _
  · split
    · exact .sequence (.report nofun) fun _ => .sequence (.send _ _ nofun) fun _ => .result _
    · exact .sequence (.report nofun) fun _ => .result _

theorem deliver_expressible (parent : Tuple) (edge : Edge) (relay : Relay)
    (actuator : ActuatorId) : Expressible Notice.Expected (relay.deliver parent edge actuator) :=
  .sequence (.withTimings _) fun _ => .sequence (.changeUsage _) fun _ =>
    .sequence (.sendToActuator _ _ nofun) fun _ => .result _

theorem emitAlong_expressible (parent : Tuple) (relay : Relay) (edge : Edge) :
    Expressible Notice.Expected (relay.emitAlong parent edge) := by
  unfold emitAlong
  split
  · exact .result _
  · exact .sequence (.withTimings _) fun _ => .sequence (.changeUsage _) fun _ =>
      accept_expressible _ _
  · exact .sequence (.forM (deliver_expressible parent edge relay) _) fun _ => .result _

def conclude (relay : Relay) (tuple : Tuple) : Act Relay := do
  Act.changeUsage (·.countProcessed tuple.destination)
  let relay :=
    { relay with
      energy := relay.energy + relay.busyPower * Float.ofNat tuple.cpuLength
      executed := relay.executed + 1 }
  match relay.application with
  | none =>
      Act.note (.executedWithoutApplication relay.id tuple.destination)
      return relay
  | some application =>
      let now ← Act.now
      Act.changeTimings (·.passModule tuple.destination tuple.root now application.loops)
      (application.edgesFrom tuple.destination).foldlM (emitAlong tuple) relay

theorem execute_eq (relay : Relay) (tuple : Tuple) :
    relay.execute tuple = Act.endExecution tuple >>= fun _ => relay.conclude tuple := rfl

theorem conclude_expressible (relay : Relay) (tuple : Tuple) :
    Expressible Notice.Expected (relay.conclude tuple) := by
  refine .sequence (.changeUsage _) fun _ => ?_
  dsimp only
  split
  · exact .sequence (.report nofun) fun _ => .result _
  · exact .sequence .now fun _ => .sequence (.changeTimings _) fun _ =>
      .foldlM (emitAlong_expressible tuple) _ _

theorem execute_expressible (relay : Relay) (tuple : Tuple) :
    Expressible Notice.Any (relay.execute tuple) :=
  .sequence (.endExecution trivial) fun _ => (relay.conclude_expressible tuple).any

theorem rearm_expressible (relay : Relay) : Expressible Notice.Expected relay.rearm := by
  refine .sequence .now fun _ => ?_
  split
  · exact .sequence (.scheduleAfter _ nofun) fun _ => .result _
  · exact .result _

theorem manage_expressible (relay : Relay) : Expressible Notice.Any relay.manage :=
  .sequence relay.rearm_expressible.any fun _ => .sequence .now fun _ =>
    .foldlM execute_expressible _ _

end Relay

namespace Device

theorem react_expected {event : DeviceEvent} (device : Device) (quiet : event ≠ .manageResources) :
    Expressible Notice.Expected (device.react event) := by
  cases device with
  | relay relay =>
      refine .change ?_ _
      cases event with
      | applicationActive application => exact .result _
      | applicationReceived application => exact .result _
      | launchModule spec => exact .sequence (.report nofun) fun _ => .result _
      | manageResources => exact absurd rfl quiet
      | tupleArrival tuple => exact relay.accept_expressible tuple
  | recorder recorder => exact .change (.sequence .now fun _ => .result _) _

theorem react_expressible (event : DeviceEvent) (device : Device) :
    Expressible Notice.Any (device.react event) := by
  cases device with
  | relay relay =>
      cases event with
      | manageResources => exact .change relay.manage_expressible _
      | applicationActive | applicationReceived | launchModule | tupleArrival =>
          refine (react_expected _ ?_).any
          exact nofun
  | recorder recorder => exact .change (.sequence .now fun _ => .result _) _

end Device

theorem Sensor.arm_expressible (sensor : Sensor) : Expressible Notice.Expected sensor.arm :=
  .sequence (.scheduleAfter _ nofun) fun _ => .result _

theorem Sensor.transmit_expressible (application : Application) (sensor : Sensor) :
    Expressible Notice.Expected (sensor.transmit application) := by
  unfold transmit
  split
  · exact .sequence (.report nofun) fun _ => .result _
  · exact .sequence .now fun _ => .sequence (.withTimings _) fun _ =>
      .sequence (.changeTimings _) fun _ => .sequence (.send _ _ nofun) fun _ =>
        .sequence (arm_expressible _) fun _ => .result _

theorem Actuator.receive_expressible (application : Option Application) (tuple : Tuple)
    (actuator : Actuator) : Expressible Notice.Expected (actuator.receive application tuple) :=
  .sequence (.report nofun) fun _ => .sequence .now fun _ => .sequence (.changeTimings _) fun _ =>
    .result _

namespace Orchestrator

theorem activate_expressible (orchestrator : Orchestrator) :
    Expressible Notice.Expected orchestrator.activate := by
  unfold activate
  split
  · exact .result _
  · refine .sequence (.forM (fun _ => .sequence (.scheduleNow nofun) fun _ => .result _) _) fun _ =>
      .sequence (.forM (fun _ => .forM (fun name => ?_) _) _) fun _ =>
        .sequence (.forM Sensor.arm_expressible _) fun _ => .sequence .now fun _ => .report nofun
    unfold launchModule
    split
    · exact .result _
    · exact .sequence (.scheduleNow nofun) fun _ => .sequence (.scheduleNow nofun) fun _ => .result _

theorem start_expressible (orchestrator : Orchestrator) :
    Expressible Notice.Expected orchestrator.start := by
  refine .sequence .now fun now => ?_
  split
  · exact .result _
  · refine .sequence ?_ fun _ => .sequence (.scheduleAfter _ nofun) fun _ =>
      .sequence (.scheduleAfter _ nofun) fun _ =>
        .sequence (.forM (fun _ => .sequence (.scheduleAfter _ nofun) fun _ => .result _) _) fun _ =>
          .sequence (.report nofun) fun _ => .result _
    unfold launch
    split
    · exact .report nofun
    · split
      · exact orchestrator.activate_expressible
      · exact .sequence (.scheduleAfter _ nofun) fun _ => .result _

theorem figures_expressible (orchestrator : Orchestrator) (context : Context) :
    Expressible Notice.Expected (liftM (orchestrator.figures context) : Act Snapshot) := by
  have added (waiting : Waiting) (report : SortedMap String Nat) :
      (addWaiting report waiting).Within Notice.Expected := by
    unfold addWaiting
    split
    · exact .bind (.note nofun) fun _ => .pure _
    · exact .bind (.orFault _ (by simp)) fun _ => .pure _
  have folded (waiting : List Waiting) (report : SortedMap String Nat) :
      (waiting.foldlM addWaiting report : Run _).Within Notice.Expected := by
    induction waiting generalizing report with
    | nil => exact .pure _
    | cons first rest ih => exact .bind (added first report) ih
  unfold figures
  split
  · exact .compute (.pure _)
  · exact .compute (.bind (folded _ _) fun _ => .pure _)

theorem stop_expressible (orchestrator : Orchestrator) :
    Expressible Notice.Expected orchestrator.stop := by
  unfold stop
  split
  · exact .sequence (.report nofun) fun _ => .result _
  · refine .sequence .terminate fun _ => .sequence .look fun context =>
      .sequence (orchestrator.figures_expressible context) fun snapshot =>
        .sequence (.report nofun) fun _ => ?_
    dsimp only
    split
    · exact .result _
    · exact .sequence (.report nofun) fun _ => .result _
    · exact .sequence (.report nofun) fun _ => .result _

theorem deliver_expressible {allowed : Notice → Prop} {device : DeviceId} {event : DeviceEvent}
    (orchestrator : Orchestrator) (fits : allowed (.unknownDevice device event))
    (reacts : ∀ target : Device, Expressible allowed (target.react event)) :
    Expressible allowed (orchestrator.deliver device event) := by
  unfold deliver
  split
  · exact .sequence (.report fits) fun _ => .result _
  · exact .sequence (reacts _) fun _ => .result _

theorem transmit_expressible (id : SensorId) (orchestrator : Orchestrator) :
    Expressible Notice.Expected (orchestrator.transmit id) := by
  unfold transmit
  split
  · exact .sequence (.report (by rintro _ ⟨⟩)) fun _ => .result _
  · split
    · split
      · exact .sequence (Sensor.transmit_expressible _ _) fun _ => .result _
      · exact .sequence (.report (by rintro _ ⟨⟩)) fun _ => .result _
    · exact .sequence (.report (by rintro _ ⟨⟩)) fun _ => .result _

theorem actuate_expressible (id : ActuatorId) (tuple : Tuple) (orchestrator : Orchestrator) :
    Expressible Notice.Expected (orchestrator.actuate id tuple) := by
  unfold actuate
  split
  · exact .sequence (.report nofun) fun _ => .result _
  · exact .sequence (Actuator.receive_expressible _ _ _) fun _ => .result _

theorem control_expressible (orchestrator : Orchestrator) :
    Expressible Notice.Expected orchestrator.control := by
  refine .sequence .now fun _ => .sequence (.report nofun) fun _ => ?_
  dsimp only
  split
  · exact .sequence (.report nofun) fun _ => .result _
  · exact .sequence (.schedule _ nofun) fun _ => .result _

theorem handle_expected {event : Event} (orchestrator : Orchestrator)
    (quiet : ∀ id, event.payload ≠ .device id .manageResources) :
    Expressible Notice.Expected (orchestrator.handle event) := by
  refine .sequence .now fun _ => .sequence (.report nofun) fun _ => ?_
  split
  · unfold launchDue
    split
    · exact .sequence orchestrator.activate_expressible fun _ => .result _
    · exact .sequence (.report nofun) fun _ => .result _
  · exact orchestrator.control_expressible
  · exact .sequence (.report nofun) fun _ => .result _
  · exact orchestrator.stop_expressible
  next id deviceEvent payload =>
    refine orchestrator.deliver_expressible nofun fun target => target.react_expected ?_
    intro managing
    exact quiet id (payload.trans (by rw [managing]))
  · exact transmit_expressible _ orchestrator
  · exact actuate_expressible _ _ orchestrator

theorem handle_expressible (event : Event) (orchestrator : Orchestrator) :
    Expressible Notice.Any (orchestrator.handle event) := by
  rcases Classical.em (∃ id, event.payload = .device id .manageResources) with
    ⟨id, managing⟩ | quiet
  · refine .sequence .now fun _ => .sequence (.report trivial) fun _ => ?_
    rw [managing]
    exact orchestrator.deliver_expressible trivial (Device.react_expressible _)
  · exact (orchestrator.handle_expected fun id managing => quiet ⟨id, managing⟩).any

end Orchestrator
end FogNetwork
