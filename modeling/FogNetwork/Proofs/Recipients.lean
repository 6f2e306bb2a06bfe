import FogNetwork.Proofs.Halting
import FogNetwork.Proofs.Reactions
import FogNetwork.SortedMap.Lemmas

/-! Who reacts to an event: its recipient and nobody else, whatever the devices make of what they
are told. The other parts of the orchestrator stay as they are, and so does what is pending. -/

namespace FogNetwork

namespace Act

variable {α : Type} {notice : Notice} {act : Act α} {value result : α} {before after : Context}

theorem noted_ends_iff :
    (note notice >>= fun _ => act).Ends before value after ↔ act.Ends before value after := by
  simp only [ends_bind_iff, ends_note_iff]
  constructor
  · rintro ⟨_, _, rfl, ended⟩
    exact ended
  · intro ended
    exact ⟨(), before, rfl, ended⟩

theorem noted_pure_iff :
    (note notice >>= fun _ => pure result).Ends before value after ↔
      value = result ∧ after = before :=
  noted_ends_iff.trans ends_pure_iff

end Act

/-- What a recipient of events is in an orchestrator: one of its entities, if it is registered, or
the orchestrator apart from its entities. -/
inductive Part where
  | own (orchestrator : Orchestrator)
  | device (device : Option Device)
  | sensor (sensor : Option Sensor)
  | actuator (actuator : Option Actuator)

namespace Orchestrator

def part (orchestrator : Orchestrator) : Recipient → Part
  | .orchestrator =>
      .own { orchestrator with devices := .empty, sensors := .empty, actuators := .empty }
  | .device id => .device (orchestrator.devices.get? id)
  | .sensor id => .sensor (orchestrator.sensors.get? id)
  | .actuator id => .actuator (orchestrator.actuators.get? id)

section Parts

variable {orchestrator next : Orchestrator} {recipient : Recipient}

theorem ext_parts (same : ∀ recipient, next.part recipient = orchestrator.part recipient) :
    next = orchestrator := by
  have own := Part.own.inj (same .orchestrator)
  have devices : next.devices = orchestrator.devices :=
    SortedMap.ext fun id => Part.device.inj (same (.device id))
  have sensors : next.sensors = orchestrator.sensors :=
    SortedMap.ext fun id => Part.sensor.inj (same (.sensor id))
  have actuators : next.actuators = orchestrator.actuators :=
    SortedMap.ext fun id => Part.actuator.inj (same (.actuator id))
  cases next
  cases orchestrator
  cases devices
  cases sensors
  cases actuators
  cases own
  rfl

theorem part_of_entities (devices : next.devices = orchestrator.devices)
    (sensors : next.sensors = orchestrator.sensors)
    (actuators : next.actuators = orchestrator.actuators) (apart : recipient ≠ .orchestrator) :
    next.part recipient = orchestrator.part recipient := by
  cases recipient with
  | orchestrator => exact absurd rfl apart
  | device id => rw [part, part, devices]
  | sensor id => rw [part, part, sensors]
  | actuator id => rw [part, part, actuators]

theorem part_insert_device {id : DeviceId} {device : Device} (apart : recipient ≠ .device id) :
    part { orchestrator with devices := orchestrator.devices.insert id device } recipient =
      orchestrator.part recipient := by
  cases recipient with
  | device other =>
      have differs : other ≠ id := fun same => apart (by rw [same])
      exact congrArg Part.device (SortedMap.get?_insert_of_ne _ _ differs)
  | _ => rfl

theorem part_insert_sensor {id : SensorId} {sensor : Sensor} (apart : recipient ≠ .sensor id) :
    part { orchestrator with sensors := orchestrator.sensors.insert id sensor } recipient =
      orchestrator.part recipient := by
  cases recipient with
  | sensor other =>
      have differs : other ≠ id := fun same => apart (by rw [same])
      exact congrArg Part.sensor (SortedMap.get?_insert_of_ne _ _ differs)
  | _ => rfl

theorem part_insert_actuator {id : ActuatorId} {actuator : Actuator}
    (apart : recipient ≠ .actuator id) :
    part { orchestrator with actuators := orchestrator.actuators.insert id actuator } recipient =
      orchestrator.part recipient := by
  cases recipient with
  | actuator other =>
      have differs : other ≠ id := fun same => apart (by rw [same])
      exact congrArg Part.actuator (SortedMap.get?_insert_of_ne _ _ differs)
  | _ => rfl

end Parts

/-- Nothing has changed but some of these recipients. What the orchestrator holds has not changed
even if it is one of them. -/
structure ChangesOnly (orchestrator : Orchestrator) (recipients : List Recipient)
    (next : Orchestrator) : Prop where
  parts : ∀ recipient ∉ recipients, next.part recipient = orchestrator.part recipient
  active : next.active = orchestrator.active
  coverage : next.coverage = orchestrator.coverage

namespace ChangesOnly

variable {orchestrator next last : Orchestrator} {early late : List Recipient}

theorem nil_iff : orchestrator.ChangesOnly [] next ↔ next = orchestrator := by
  constructor
  · intro unchanged
    exact ext_parts fun recipient => unchanged.parts recipient List.not_mem_nil
  · rintro rfl
    exact ⟨fun _ _ => rfl, rfl, rfl⟩

theorem trans (left : orchestrator.ChangesOnly early next) (right : next.ChangesOnly late last) :
    orchestrator.ChangesOnly (early ++ late) last where
  parts := by
    intro recipient apart
    rw [List.mem_append, not_or] at apart
    exact (right.parts recipient apart.2).trans (left.parts recipient apart.1)
  active := right.active.trans left.active
  coverage := right.coverage.trans left.coverage

end ChangesOnly

def Ignores (orchestrator : Orchestrator) : Payload → Prop
  | .launchApplication name =>
      ∀ application, orchestrator.application? = some application → application.id ≠ name
  | .controlTick => False
  | .tupleFinished _ => True
  | .stop => False
  | .device id _ => orchestrator.devices.get? id = none
  | .transmit id =>
      ∀ sensor application, orchestrator.sensors.get? id = some sensor →
        orchestrator.application? = some application → sensor.application ≠ application.id
  | .delivery id _ => orchestrator.actuators.get? id = none

end Orchestrator

/-- How devices behave: what each of them makes of the events it is handed, by whatever means a
context offers to a handler. -/
structure Conduct where
  react : DeviceEvent → Device → Act Device
  expressible : ∀ event device, Expressible Notice.Any (react event device)

namespace Conduct

def usual : Conduct := ⟨Device.react, Device.react_expressible⟩

def deliver (conduct : Conduct) (id : DeviceId) (event : DeviceEvent)
    (orchestrator : Orchestrator) : Act Orchestrator := do
  match orchestrator.devices.get? id with
  | none =>
      Act.note (.unknownDevice id event)
      return orchestrator
  | some target =>
      let target ← conduct.react event target
      return { orchestrator with devices := orchestrator.devices.insert id target }

def handle (conduct : Conduct) (event : Event) (orchestrator : Orchestrator) :
    Act Orchestrator :=
  match event.payload with
  | .device id payload => do
      Act.note (.dispatch event.id (← Act.now) event.payload)
      conduct.deliver id payload orchestrator
  | _ => orchestrator.handle event

theorem handle_usual : usual.handle = Orchestrator.handle := by
  funext event orchestrator
  obtain ⟨id, time, payload⟩ := event
  cases payload <;> rfl

/-- From what an event finds to what it leaves: its recipient has reacted, or nobody has. -/
inductive Response (conduct : Conduct) (orchestrator : Orchestrator) (before : Context) :
    Payload → Orchestrator → Context → Prop
  | ignored {payload : Payload} (ignores : orchestrator.Ignores payload) :
      Response conduct orchestrator before payload orchestrator before
  | launch {application : Application} {after : Context}
      (held : orchestrator.application? = some application)
      (activates : orchestrator.activate.Ends before () after) :
      Response conduct orchestrator before (.launchApplication application.id) orchestrator after
  | control {next : Orchestrator} {after : Context}
      (ticks : orchestrator.control.Ends before next after) :
      Response conduct orchestrator before .controlTick next after
  | stop {next : Orchestrator} {after : Context}
      (stops : orchestrator.stop.Ends before next after) :
      Response conduct orchestrator before .stop next after
  | device {id : DeviceId} {event : DeviceEvent} {target result : Device} {after : Context}
      (known : orchestrator.devices.get? id = some target)
      (reacts : (conduct.react event target).Ends before result after) :
      Response conduct orchestrator before (.device id event)
        { orchestrator with devices := orchestrator.devices.insert id result } after
  | sensor {id : SensorId} {sensor result : Sensor} {application : Application} {after : Context}
      (known : orchestrator.sensors.get? id = some sensor)
      (held : orchestrator.application? = some application)
      (feeds : sensor.application = application.id)
      (reacts : (sensor.transmit application).Ends before result after) :
      Response conduct orchestrator before (.transmit id)
        { orchestrator with sensors := orchestrator.sensors.insert id result } after
  | actuator {id : ActuatorId} {tuple : Tuple} {actuator result : Actuator} {after : Context}
      (known : orchestrator.actuators.get? id = some actuator)
      (reacts : (actuator.receive orchestrator.application? tuple).Ends before result after) :
      Response conduct orchestrator before (.delivery id tuple)
        { orchestrator with actuators := orchestrator.actuators.insert id result } after

variable {conduct : Conduct} {orchestrator next : Orchestrator} {before after : Context}

/-! Each way that an event can take leads to a response, and every response is taken. -/

theorem deliver_ends_iff {id : DeviceId} {event : DeviceEvent} :
    (conduct.deliver id event orchestrator).Ends before next after ↔
      conduct.Response orchestrator before (.device id event) next after := by
  unfold deliver
  constructor
  · intro ended
    split at ended
    next unknown =>
      obtain ⟨rfl, rfl⟩ := Act.noted_pure_iff.mp ended
      exact .ignored unknown
    next target known =>
      simp only [Act.ends_bind_iff, Act.ends_pure_iff] at ended
      obtain ⟨_, _, reacts, rfl, rfl⟩ := ended
      exact .device known reacts
  · intro response
    cases response with
    | ignored unknown =>
        rw [show orchestrator.devices.get? id = none from unknown]
        exact Act.noted_pure_iff.mpr ⟨rfl, rfl⟩
    | device known reacts =>
        rw [known]
        exact Act.ends_bind_iff.mpr ⟨_, _, reacts, Act.ends_pure_iff.mpr ⟨rfl, rfl⟩⟩

theorem transmit_ends_iff {id : SensorId} :
    (orchestrator.transmit id).Ends before next after ↔
      conduct.Response orchestrator before (.transmit id) next after := by
  unfold Orchestrator.transmit
  constructor
  · intro ended
    split at ended
    next unknown =>
      obtain ⟨rfl, rfl⟩ := Act.noted_pure_iff.mp ended
      exact .ignored fun sensor application known => by simp [unknown] at known
    next sensor known =>
      split at ended
      next application held =>
        split at ended
        next feeds =>
          simp only [Act.ends_bind_iff, Act.ends_pure_iff] at ended
          obtain ⟨_, _, reacts, rfl, rfl⟩ := ended
          exact .sensor known held feeds reacts
        next feedsOther =>
          obtain ⟨rfl, rfl⟩ := Act.noted_pure_iff.mp ended
          refine .ignored fun found active same holds => ?_
          cases known.symm.trans same
          cases held.symm.trans holds
          exact feedsOther
      next idle =>
        obtain ⟨rfl, rfl⟩ := Act.noted_pure_iff.mp ended
        exact .ignored fun sensor application _ held => by simp [idle] at held
  · intro response
    cases response with
    | ignored ignores =>
        split
        · exact Act.noted_pure_iff.mpr ⟨rfl, rfl⟩
        next sensor known =>
          split
          next application held =>
            rw [if_neg (ignores sensor application known held)]
            exact Act.noted_pure_iff.mpr ⟨rfl, rfl⟩
          · exact Act.noted_pure_iff.mpr ⟨rfl, rfl⟩
    | sensor known held feeds reacts =>
        simp only [known, held, if_pos feeds]
        exact Act.ends_bind_iff.mpr ⟨_, _, reacts, Act.ends_pure_iff.mpr ⟨rfl, rfl⟩⟩

theorem actuate_ends_iff {id : ActuatorId} {tuple : Tuple} :
    (orchestrator.actuate id tuple).Ends before next after ↔
      conduct.Response orchestrator before (.delivery id tuple) next after := by
  unfold Orchestrator.actuate
  constructor
  · intro ended
    split at ended
    next unknown =>
      obtain ⟨rfl, rfl⟩ := Act.noted_pure_iff.mp ended
      exact .ignored unknown
    next actuator known =>
      simp only [Act.ends_bind_iff, Act.ends_pure_iff] at ended
      obtain ⟨_, _, reacts, rfl, rfl⟩ := ended
      exact .actuator known reacts
  · intro response
    cases response with
    | ignored unknown =>
        rw [show orchestrator.actuators.get? id = none from unknown]
        exact Act.noted_pure_iff.mpr ⟨rfl, rfl⟩
    | actuator known reacts =>
        rw [known]
        exact Act.ends_bind_iff.mpr ⟨_, _, reacts, Act.ends_pure_iff.mpr ⟨rfl, rfl⟩⟩

theorem launch_ends_iff {name : String} :
    (do
      orchestrator.launchDue name
      return orchestrator : Act Orchestrator).Ends before next after ↔
      conduct.Response orchestrator before (.launchApplication name) next after := by
  have due_iff : orchestrator.application?.any (·.id == name) = true ↔
      ∃ application, orchestrator.application? = some application ∧ application.id = name := by
    simp [Option.any_eq_true]
  simp only [Act.ends_bind_iff, Act.ends_pure_iff, Orchestrator.launchDue]
  constructor
  · rintro ⟨_, _, launched, rfl, rfl⟩
    split at launched
    next due =>
      obtain ⟨application, held, rfl⟩ := due_iff.mp due
      exact .launch held launched
    next notDue =>
      obtain rfl := Act.ends_note_iff.mp launched
      exact .ignored fun application held same => notDue (due_iff.mpr ⟨application, held, same⟩)
  · intro response
    cases response with
    | ignored ignores =>
        have notDue : ¬orchestrator.application?.any (·.id == name) = true := by
          intro due
          obtain ⟨application, held, same⟩ := due_iff.mp due
          exact ignores application held same
        exact ⟨(), before, by rw [if_neg notDue]; exact Act.ends_note_iff.mpr rfl, rfl, rfl⟩
    | launch held activates =>
        exact ⟨(), after, by rw [if_pos (due_iff.mpr ⟨_, held, rfl⟩)]; exact activates, rfl, rfl⟩

theorem handle_ends_iff {event : Event} :
    (conduct.handle event orchestrator).Ends before next after ↔
      conduct.Response orchestrator before event.payload next after := by
  have dispatched (act : Act Orchestrator) :
      (do
        Act.note (.dispatch event.id (← Act.now) event.payload)
        act : Act Orchestrator).Ends before next after ↔ act.Ends before next after := by
    rw [Act.ends_bind_iff]
    simp only [Act.ends_now_iff, Act.noted_ends_iff]
    constructor
    · rintro ⟨_, _, ⟨rfl, rfl⟩, ended⟩
      exact ended
    · intro ended
      exact ⟨_, _, ⟨rfl, rfl⟩, ended⟩
  obtain ⟨id, time, payload⟩ := event
  cases payload with
  | launchApplication name => exact (dispatched _).trans launch_ends_iff
  | controlTick =>
      refine (dispatched _).trans ⟨.control, fun response => ?_⟩
      cases response with
      | ignored ignores => exact ignores.elim
      | control ticks => exact ticks
  | tupleFinished tuple =>
      refine (dispatched _).trans (Act.noted_pure_iff.trans ?_)
      constructor
      · rintro ⟨rfl, rfl⟩
        exact .ignored trivial
      · intro response
        cases response with
        | ignored => exact ⟨rfl, rfl⟩
  | stop =>
      refine (dispatched _).trans ⟨.stop, fun response => ?_⟩
      cases response with
      | ignored ignores => exact ignores.elim
      | stop stops => exact stops
  | device id deviceEvent => exact (dispatched _).trans deliver_ends_iff
  | transmit id => exact (dispatched _).trans transmit_ends_iff
  | delivery id tuple => exact (dispatched _).trans actuate_ends_iff

theorem Response.changesOnly {payload : Payload}
    (response : conduct.Response orchestrator before payload next after) :
    orchestrator.ChangesOnly [payload.recipient] next := by
  have changed
      (parts : ∀ recipient, recipient ≠ payload.recipient →
        next.part recipient = orchestrator.part recipient)
      (active : next.active = orchestrator.active)
      (coverage : next.coverage = orchestrator.coverage) :
      orchestrator.ChangesOnly [payload.recipient] next :=
    ⟨fun recipient apart => parts recipient (List.ne_of_not_mem_cons apart), active, coverage⟩
  cases response with
  | ignored | launch => exact changed (fun _ _ => rfl) rfl rfl
  | control ticks =>
      obtain ⟨rfl, _⟩ := Orchestrator.control_cases ticks
      exact changed (fun _ => Orchestrator.part_of_entities rfl rfl rfl) rfl rfl
  | stop stops =>
      obtain ⟨_, _, _, rfl⟩ := Orchestrator.stop_ends stops
      exact changed (fun _ => Orchestrator.part_of_entities rfl rfl rfl) rfl rfl
  | device => exact changed (fun _ => Orchestrator.part_insert_device) rfl rfl
  | sensor => exact changed (fun _ => Orchestrator.part_insert_sensor) rfl rfl
  | actuator => exact changed (fun _ => Orchestrator.part_insert_actuator) rfl rfl

theorem handle_expressible (conduct : Conduct) (event : Event) (orchestrator : Orchestrator) :
    Expressible Notice.Any (conduct.handle event orchestrator) := by
  unfold handle
  split
  next id payload _ =>
    refine .sequence .now fun _ => .sequence (.report trivial) fun _ => ?_
    unfold deliver
    split
    · exact .sequence (.report trivial) fun _ => .result _
    · exact .sequence (conduct.expressible _ _) fun _ => .result _
  · exact orchestrator.handle_expressible event

end Conduct

section Pending

variable {σ : Type} {react : Event → σ → Act σ} {simulation between after : Simulation}
variable {state next : σ}

/-- All that was pending has been dispatched since, or is pending still. -/
def Simulation.Retains (simulation : Simulation) (dispatched : List Event) (after : Simulation) :
    Prop :=
  ∃ entered, (dispatched ++ after.context.agenda.pending).Perm
    (simulation.context.agenda.pending ++ entered)

namespace Simulation

theorem Retains.refl : simulation.Retains [] simulation := ⟨[], by simp⟩

open scoped List in
theorem Retains.trans {early late : List Event} (left : simulation.Retains early between)
    (right : between.Retains late after) : simulation.Retains (early ++ late) after := by
  obtain ⟨entered, kept⟩ := left
  obtain ⟨added, keptThen⟩ := right
  refine ⟨entered ++ added, ?_⟩
  calc early ++ late ++ after.context.agenda.pending
    _ = early ++ (late ++ after.context.agenda.pending) := List.append_assoc ..
    _ ~ early ++ (between.context.agenda.pending ++ added) := keptThen.append_left _
    _ = early ++ between.context.agenda.pending ++ added := (List.append_assoc ..).symm
    _ ~ simulation.context.agenda.pending ++ entered ++ added := kept.append_right _
    _ = simulation.context.agenda.pending ++ (entered ++ added) := List.append_assoc ..

theorem step_retains (expressible : ∀ event state, Expressible Notice.Any (react event state))
    {event : Event}
    (stepped : (simulation.step react state).outcome = .ok (some event, after, next))
    (goesOn : after.isTerminated = false) : simulation.Retains [event] after := by
  obtain ⟨begun, reacted, dispatches⟩ := dispatches_of_step stepped
  obtain ⟨entered, advances⟩ := (expressible event state).advances dispatches.reacts
  refine ⟨entered, ?_⟩
  rw [dispatches.after_context goesOn, dispatches.pending]
  exact advances.pending.cons event

theorem schedule_retains {time : Time} {payload : Payload} {id : EventId}
    (scheduled : (simulation.schedule time payload).outcome = .ok (id, after)) :
    simulation.Retains [] after ∧
      (after.isTerminated = false → simulation.isTerminated = false) := by
  obtain ⟨_, asked, rest⟩ := Run.outcome_bind_eq_ok_iff.mp scheduled
  cases rest
  have asks : Expressible Notice.Any (Act.scheduleAt time payload) := .schedule time trivial
  obtain ⟨entered, advances⟩ := asks.advances asked
  refine ⟨⟨entered, advances.pending⟩, fun goesOn => ?_⟩
  cases halted : simulation.isTerminated with
  | false => rfl
  | true => exact (advances.halted halted).1.symm.trans goesOn

end Simulation

theorem chronicled_expressible {allowed : Notice → Prop}
    (expressible : ∀ event state, Expressible allowed (react event state)) (event : Event)
    (seen : σ × Chronicle) : Expressible allowed (chronicled react event seen) :=
  .sequence .look fun _ => .sequence (expressible event seen.1) fun _ =>
    .sequence .look fun _ => .result _

theorem chronicled_step_dispatched {seen told : σ × Chronicle} {event : Event}
    (stepped : (simulation.step (chronicled react) seen).outcome = .ok (some event, after, told)) :
    told.2.dispatched = seen.2.dispatched ++ [event] := by
  obtain ⟨_, _, dispatches⟩ := Simulation.dispatches_of_step stepped
  rw [(chronicled_ends_iff.mp dispatches.reacts).2]
  rfl

theorem Command.performFrom_retains
    (expressible : ∀ event state, Expressible Notice.Any (react event state))
    {commands : List Command} {told : Chronicle}
    (performed : (performFrom (chronicled react) commands simulation (state, .empty)).outcome =
      .ok (after, next, told)) (goesOn : after.isTerminated = false) :
    simulation.Retains told.dispatched after := by
  -- A reaction that ends the simulation drops what is pending. One that goes on has gone on so far,
  -- so the invariant need not say anything about the others.
  refine performFrom_keeps (motive := fun reached (seen : σ × Chronicle) =>
    reached.isTerminated = false → simulation.Retains seen.2.dispatched reached)
    ?_ ?_ ?_ performed goesOn
  · intro between seen _ _ _ later known scheduled goesOn
    obtain ⟨retains, going⟩ := Simulation.schedule_retains scheduled
    have both := (known (going goesOn)).trans retains
    rwa [List.append_nil] at both
  · intro between seen event later _ known stepped goesOn
    obtain ⟨_, _, dispatches⟩ := Simulation.dispatches_of_step stepped
    rw [chronicled_step_dispatched stepped]
    exact (known dispatches.running).trans
      (Simulation.step_retains (chronicled_expressible expressible) stepped goesOn)
  · exact fun _ => .refl

end Pending

theorem Conduct.performFrom_changesOnly {conduct : Conduct} {commands : List Command}
    {simulation after : Simulation} {orchestrator next : Orchestrator} {told : Chronicle}
    (performed : (Command.performFrom (chronicled conduct.handle) commands simulation
      (orchestrator, .empty)).outcome = .ok (after, next, told)) :
    orchestrator.ChangesOnly (told.dispatched.map (·.payload.recipient)) next := by
  refine Command.performFrom_keeps (motive := fun _ (seen : Orchestrator × Chronicle) =>
    orchestrator.ChangesOnly (seen.2.dispatched.map (·.payload.recipient)) seen.1)
    ?_ ?_ ?_ performed
  · exact fun _ _ _ _ _ _ known _ => known
  · intro _ seen event _ seenAfter known stepped
    obtain ⟨_, _, dispatches⟩ := Simulation.dispatches_of_step stepped
    obtain ⟨reacts, _⟩ := chronicled_ends_iff.mp dispatches.reacts
    rw [chronicled_step_dispatched stepped, List.map_append]
    exact known.trans (handle_ends_iff.mp reacts).changesOnly
  · exact Orchestrator.ChangesOnly.nil_iff.mpr rfl

/-- An event changes its recipient and nothing else, and some events change nothing at all. -/
theorem Orchestrator.only_recipients_change :
    Conduct.usual.handle = handle ∧ ∀ (conduct : Conduct) (orchestrator : Orchestrator),
      (∀ next, orchestrator.ChangesOnly [] next ↔ next = orchestrator) ∧
      (∀ event begun next reacted, (conduct.handle event orchestrator).Ends begun next reacted ↔
        conduct.Response orchestrator begun event.payload next reacted) ∧
      (∀ event begun next reacted, (conduct.handle event orchestrator).Ends begun next reacted →
        orchestrator.ChangesOnly [event.payload.recipient] next ∧
          ∃ entered, begun.Advances reacted entered) ∧
      (∀ event, orchestrator.Ignores event.payload →
        ∀ context, (conduct.handle event orchestrator).Ends context orchestrator context) ∧
      (∀ (simulation after : Simulation) event next,
        (simulation.step conduct.handle orchestrator).outcome = .ok (some event, after, next) →
          after.isTerminated = false → simulation.Retains [event] after) ∧
      ∀ commands (simulation after : Simulation) next told,
        (Command.performFrom (chronicled conduct.handle) commands simulation
          (orchestrator, .empty)).outcome = .ok (after, next, told) →
            orchestrator.ChangesOnly (told.dispatched.map (·.payload.recipient)) next ∧
              (after.isTerminated = false → simulation.Retains told.dispatched after) := by
  refine ⟨Conduct.handle_usual, fun conduct orchestrator => ⟨fun _ => ChangesOnly.nil_iff,
    fun _ _ _ _ => Conduct.handle_ends_iff, ?_, ?_, ?_, ?_⟩⟩
  · intro event begun next reacted ended
    exact ⟨(Conduct.handle_ends_iff.mp ended).changesOnly,
      (conduct.handle_expressible event orchestrator).advances ended⟩
  · intro event ignores context
    exact Conduct.handle_ends_iff.mpr (.ignored ignores)
  · intro simulation after event next stepped goesOn
    exact Simulation.step_retains conduct.handle_expressible stepped goesOn
  · intro commands simulation after next told performed
    exact ⟨Conduct.performFrom_changesOnly performed,
      Command.performFrom_retains conduct.handle_expressible performed⟩

namespace Demo

def foyer : Orchestrator :=
  { Orchestrator.initial .standard .keeping with
    devices := (SortedMap.empty.insert ⟨0⟩ (.relay (.named ⟨0⟩ "desk"))).insert ⟨1⟩
      (.relay (.named ⟨1⟩ "door"))
    sensors := SortedMap.empty.insert ⟨1⟩ (Sensor.named ⟨1⟩ "bell" "RING" "upstairs")
    active := some ⟨Application.named "foyer", .empty, 0⟩ }

def prodding : Conduct where
  react _ device := do
    let _ ← Act.manageLater ⟨1⟩ 3
    return device.changeRelay fun relay => { relay with executed := relay.executed + 1 }
  expressible _ _ := .sequence (.scheduleAfter 3 trivial) fun _ => .result _

def visit : Simulation :=
  { Simulation.initial with
    context := { Context.initial with
      agenda := {
        pending := [⟨⟨0⟩, ⟨1⟩, .device ⟨0⟩ .manageResources⟩, ⟨⟨1⟩, ⟨2⟩, .transmit ⟨1⟩⟩,
          ⟨⟨2⟩, ⟨9⟩, .device ⟨1⟩ .manageResources⟩]
        nextId := 3
        ordered := by decide
        issued := by decide } } }

theorem foyer_ignores : foyer.Ignores (.transmit ⟨1⟩) := by
  intro sensor application known held
  cases known
  cases held
  decide

theorem visit_step : ∃ event after next,
    (visit.step prodding.handle foyer).outcome = .ok (some event, after, next) ∧
      after.isTerminated = false ∧ event.payload.recipient = .device ⟨0⟩ :=
  ⟨_, _, _, rfl, rfl, rfl⟩

theorem visit_performed : ∃ after next told,
    (Command.performFrom (chronicled prodding.handle) [.step, .step] visit
      (foyer, .empty)).outcome = .ok (after, next, told) ∧ after.isTerminated = false ∧
        told.dispatched.map (·.payload.recipient) = [.device ⟨0⟩, .sensor ⟨1⟩] ∧
        (next.relay? ⟨0⟩).map (·.executed) = some 1 :=
  ⟨_, _, _, rfl, rfl, rfl, rfl⟩

end Demo

theorem Orchestrator.only_recipients_change_foyer :
    (∃ event after next, (Demo.visit.step Demo.prodding.handle Demo.foyer).outcome =
        .ok (some event, after, next) ∧
      after.isTerminated = false ∧ Demo.foyer.ChangesOnly [.device ⟨0⟩] next ∧
      Demo.visit.Retains [event] after) ∧
    Demo.foyer.Ignores (.transmit ⟨1⟩) ∧
    (Demo.prodding.handle ⟨⟨1⟩, ⟨2⟩, .transmit ⟨1⟩⟩ Demo.foyer).Ends .initial Demo.foyer .initial ∧
    ∃ after next told, (Command.performFrom (chronicled Demo.prodding.handle) [.step, .step]
        Demo.visit (Demo.foyer, .empty)).outcome = .ok (after, next, told) ∧
      after.isTerminated = false ∧
      told.dispatched.map (·.payload.recipient) = [.device ⟨0⟩, .sensor ⟨1⟩] ∧
      (next.relay? ⟨0⟩).map (·.executed) = some 1 ∧
      next.devices.get? ⟨1⟩ = Demo.foyer.devices.get? ⟨1⟩ ∧
      Demo.visit.Retains told.dispatched after := by
  obtain ⟨_, _, changes, ignores, steps, runs⟩ :=
    only_recipients_change.2 Demo.prodding Demo.foyer
  obtain ⟨event, between, middle, stepped, going, addressed⟩ := Demo.visit_step
  obtain ⟨begun, reacted, dispatches⟩ := Simulation.dispatches_of_step stepped
  obtain ⟨changed, _⟩ := changes event begun middle reacted dispatches.reacts
  rw [addressed] at changed
  obtain ⟨after, next, told, performed, goesOn, recipients, executed⟩ := Demo.visit_performed
  obtain ⟨changedOnly, retains⟩ := runs _ _ _ _ _ performed
  rw [recipients] at changedOnly
  have door : next.devices.get? ⟨1⟩ = Demo.foyer.devices.get? ⟨1⟩ :=
    Part.device.inj (changedOnly.parts (.device ⟨1⟩) (by decide))
  exact ⟨⟨event, between, middle, stepped, going, changed, steps _ _ _ _ stepped going⟩,
    Demo.foyer_ignores, ignores ⟨⟨1⟩, ⟨2⟩, .transmit ⟨1⟩⟩ Demo.foyer_ignores .initial,
    after, next, told, performed, goesOn, recipients, executed, door, retains goesOn⟩

end FogNetwork
