import FogNetwork.Orchestrator.Dispatch
import FogNetwork.Proofs.Acts
import Mathlib.Logic.Relation

/-! How the orchestrator reacts to an event: which entity it hands the event to, and what it asks
for on its own account. -/

namespace FogNetwork

/-- From one context to another by entering events, each of a kind that may depend on what was
there before it. -/
def Context.Asks (kind : Context → Event → Prop) : Context → Context → Prop :=
  Relation.ReflTransGen fun before after => ∃ event, before.Enters event after ∧ kind before event

theorem Context.Asks.halted_eq {kind : Context → Event → Prop} {before after : Context}
    (asks : before.Asks kind after) : after.halted = before.halted := by
  induction asks with
  | refl => rfl
  | tail _ asked ih =>
      obtain ⟨_, enters, _⟩ := asked
      rw [enters.halted, ih]

theorem Context.Asks.now_eq {kind : Context → Event → Prop} {before after : Context}
    (asks : before.Asks kind after) : after.now = before.now := by
  induction asks with
  | refl => rfl
  | tail _ asked ih =>
      obtain ⟨_, enters, _⟩ := asked
      exact enters.now.trans ih

theorem Context.Asks.timings_eq {kind : Context → Event → Prop} {before after : Context}
    (asks : before.Asks kind after) : after.timings = before.timings := by
  induction asks with
  | refl => rfl
  | tail _ asked ih =>
      obtain ⟨_, enters, _⟩ := asked
      rw [enters.timings, ih]

def Payload.CallsFor (held : Option Application) : Payload → Prop
  | .device _ (.applicationActive application) => held = some application
  | .device _ (.applicationReceived application) => held = some application
  | .device _ (.launchModule spec) =>
      ∃ application, held = some application ∧ application.module? spec.name = some spec
  | .device _ .manageResources => True
  | .device _ (.tupleArrival _) => False
  | .delivery _ _ => False
  | .tupleFinished _ => False
  | .launchApplication _ => True
  | .controlTick => True
  | .stop => True
  | .transmit _ => True

structure Context.CallsFor (held : Option Application) (context : Context) (event : Event) :
    Prop where
  calls : event.payload.CallsFor held
  announced : ∀ id spec, event.payload = .device id (.launchModule spec) →
    ∃ told ∈ context.agenda.pending, told.time.ticks ≤ event.time.ticks ∧
      ∃ application, held = some application ∧
        told.payload = .device id (.applicationReceived application)

namespace Act

variable {before after : Context} {kind : Context → Event → Prop} {payload : Payload}

theorem scheduleNow_asks {id : EventId} (running : before.halted = false)
    (ended : (scheduleNow payload).Ends before id after)
    (fits : kind before ⟨before.agenda.nextEventId, before.now, payload⟩) :
    before.Asks kind after :=
  .single ⟨_, scheduleNow_enters running ended, fits⟩

theorem scheduleAfter_asks {delay : Nat} {id : EventId} (running : before.halted = false)
    (ended : (scheduleAfter delay payload).Ends before id after)
    (fits : ∀ time, kind before ⟨before.agenda.nextEventId, time, payload⟩) :
    before.Asks kind after := by
  obtain ⟨_, _, enters⟩ := scheduleAfter_enters running ended
  exact .single ⟨_, enters, fits _⟩

theorem forM_asks {ι : Type} {body : ι → Act PUnit} {items : List ι} {done : PUnit}
    (running : before.halted = false)
    (step : ∀ item ∈ items, ∀ before after done, before.halted = false →
      (body item).Ends before done after → before.Asks kind after)
    (ended : (items.forM body).Ends before done after) : before.Asks kind after := by
  refine (forM_keeps (motive := fun rest between => (∀ item ∈ rest, item ∈ items) ∧
    before.Asks kind between) ?_ ⟨fun _ member => member, .refl⟩ ended).2
  intro item rest between next done ⟨within, asked⟩ ended
  refine ⟨fun other member => within other (by simp [member]), asked.trans ?_⟩
  exact step item (within item (by simp)) between next done (asked.halted_eq.trans running) ended

end Act

namespace Orchestrator

variable {orchestrator : Orchestrator} {before after : Context}

theorem launchModule_asks {application : Application} {device : DeviceId} {name : String}
    {done : Unit} (running : before.halted = false)
    (ended : (launchModule application device name).Ends before done after) :
    before.Asks (Context.CallsFor (some application)) after := by
  unfold launchModule at ended
  split at ended
  · obtain ⟨_, rfl⟩ := Act.ends_pure_iff.mp ended
    exact .refl
  next spec found =>
    simp only [Act.ends_bind_iff, Act.ends_pure_iff] at ended
    obtain ⟨_, between, received, _, _, launched, _, rfl⟩ := ended
    have own : spec.name = name := by simpa using List.find?_some found
    have first : before.Asks (Context.CallsFor (some application)) between :=
      Act.scheduleNow_asks running received ⟨rfl, nofun⟩
    refine first.trans (Act.scheduleNow_asks (first.halted_eq.trans running) launched ?_)
    refine ⟨⟨application, rfl, by rwa [own]⟩, ?_⟩
    rintro _ _ ⟨⟩
    have enters := Act.scheduleNow_enters running received
    refine ⟨_, enters.pending.symm.subset (List.mem_cons_self ..), ?_, application, rfl, rfl⟩
    simp [enters.now]

theorem activate_asks {done : Unit} (running : before.halted = false)
    (ended : orchestrator.activate.Ends before done after) :
    before.Asks (Context.CallsFor orchestrator.application?) after := by
  unfold activate at ended
  split at ended
  · obtain ⟨_, rfl⟩ := Act.ends_pure_iff.mp ended
    exact .refl
  next held active =>
    have held? : orchestrator.application? = some held.application := by
      simp [application?, active]
    rw [held?]
    simp only [Act.ends_bind_iff, Act.ends_now_iff, Act.ends_note_iff] at ended
    obtain ⟨_, informed, told, _, launched, placed, _, armed, emitting, _, _, ⟨rfl, rfl⟩, rfl⟩ :=
      ended
    have first : before.Asks (Context.CallsFor (some held.application)) informed := by
      refine Act.forM_asks running ?_ told
      intro device _ between next done still ended
      simp only [Act.ends_bind_iff, Act.ends_pure_iff] at ended
      obtain ⟨_, _, asked, _, rfl⟩ := ended
      exact Act.scheduleNow_asks still asked ⟨rfl, nofun⟩
    have second : before.Asks (Context.CallsFor (some held.application)) launched := by
      refine first.trans (Act.forM_asks (first.halted_eq.trans running) ?_ placed)
      intro entry _ between next done still ended
      refine Act.forM_asks still ?_ ended
      intro name _ between next done still ended
      exact launchModule_asks still ended
    refine second.trans (Act.forM_asks (second.halted_eq.trans running) ?_ emitting)
    intro sensor _ between next done still ended
    simp only [Sensor.arm, Act.ends_bind_iff, Act.ends_pure_iff] at ended
    obtain ⟨_, _, asked, _, rfl⟩ := ended
    exact Act.scheduleAfter_asks still asked fun _ => ⟨trivial, nofun⟩

theorem launchDue_asks {application : String} {done : Unit} (running : before.halted = false)
    (ended : (orchestrator.launchDue application).Ends before done after) :
    before.Asks (Context.CallsFor orchestrator.application?) after := by
  unfold launchDue at ended
  split at ended
  · exact activate_asks running ended
  · obtain rfl := Act.ends_note_iff.mp ended
    exact .refl

theorem start_asks {next : Orchestrator} (running : before.halted = false)
    (ended : orchestrator.start.Ends before (.ok (), next) after) :
    before.Asks (Context.CallsFor orchestrator.application?) after ∧
      next = { orchestrator with startedAt := some before.now } := by
  simp only [start, Act.ends_bind_iff, Act.ends_now_iff] at ended
  obtain ⟨_, before, ⟨rfl, rfl⟩, ended⟩ := ended
  split at ended
  · obtain ⟨same, _⟩ := Act.ends_pure_iff.mp ended
    cases same
  · simp only [Act.manageLater, Act.ends_bind_iff, Act.ends_note_iff, Act.ends_pure_iff] at ended
    obtain ⟨_, launched, launching, _, ticked, ticking, _, stopped, stopping, _, managed, managing,
      _, _, rfl, same, rfl⟩ := ended
    cases same
    refine ⟨?_, rfl⟩
    have first : before.Asks (Context.CallsFor orchestrator.application?) launched := by
      unfold launch at launching
      split at launching
      · obtain rfl := Act.ends_note_iff.mp launching
        exact .refl
      · split at launching
        · exact activate_asks running launching
        · simp only [Act.ends_bind_iff, Act.ends_pure_iff] at launching
          obtain ⟨_, _, asked, _, rfl⟩ := launching
          exact Act.scheduleAfter_asks running asked fun _ => ⟨trivial, nofun⟩
    have second : before.Asks (Context.CallsFor orchestrator.application?) ticked :=
      first.trans (Act.scheduleAfter_asks (first.halted_eq.trans running) ticking fun _ =>
        ⟨trivial, nofun⟩)
    have third : before.Asks (Context.CallsFor orchestrator.application?) stopped :=
      second.trans (Act.scheduleAfter_asks (second.halted_eq.trans running) stopping fun _ =>
        ⟨trivial, nofun⟩)
    refine third.trans (Act.forM_asks (third.halted_eq.trans running) ?_ managing)
    intro device _ between next done still ended
    simp only [Act.ends_bind_iff, Act.ends_pure_iff] at ended
    obtain ⟨_, _, asked, _, rfl⟩ := ended
    exact Act.scheduleAfter_asks still asked fun _ => ⟨trivial, nofun⟩

theorem control_cases {next : Orchestrator} (ended : orchestrator.control.Ends before next after) :
    next = { orchestrator with controlTicks := orchestrator.controlTicks + 1 } ∧
      ((before.now.after? orchestrator.config.controlInterval = none ∧ after = before) ∨
        ∃ time id, before.now.after? orchestrator.config.controlInterval = some time ∧
          (Act.scheduleAt time .controlTick).Ends before id after) := by
  simp only [control, Act.ends_bind_iff, Act.ends_now_iff, Act.ends_note_iff] at ended
  obtain ⟨_, before, ⟨rfl, rfl⟩, _, _, rfl, ended⟩ := ended
  split at ended
  next unreached =>
    simp only [Act.ends_bind_iff, Act.ends_note_iff, Act.ends_pure_iff] at ended
    obtain ⟨_, _, rfl, rfl, rfl⟩ := ended
    exact ⟨rfl, .inl ⟨unreached, rfl⟩⟩
  next time reached =>
    simp only [Act.ends_bind_iff, Act.ends_pure_iff] at ended
    obtain ⟨id, _, asked, rfl, rfl⟩ := ended
    exact ⟨rfl, .inr ⟨time, id, reached, asked⟩⟩

theorem control_asks {next : Orchestrator} (running : before.halted = false)
    (ended : orchestrator.control.Ends before next after) :
    before.Asks (Context.CallsFor orchestrator.application?) after ∧
      next = { orchestrator with controlTicks := orchestrator.controlTicks + 1 } := by
  obtain ⟨counted, ⟨_, rfl⟩ | ⟨_, _, _, asked⟩⟩ := control_cases ended
  · exact ⟨.refl, counted⟩
  · exact ⟨.single ⟨_, Act.scheduleAt_enters running asked, trivial, nofun⟩, counted⟩

theorem stop_ends {next : Orchestrator} (ended : orchestrator.stop.Ends before next after) :
    (after = before ∨ after = { before with halted := true }) ∧
      ∃ exporter snapshot,
        next = { orchestrator with exporter := exporter, snapshot := snapshot } := by
  unfold stop at ended
  split at ended
  · simp only [Act.ends_bind_iff, Act.ends_note_iff, Act.ends_pure_iff] at ended
    obtain ⟨_, _, rfl, rfl, rfl⟩ := ended
    exact ⟨.inl rfl, _, _, rfl⟩
  · simp only [Act.ends_bind_iff, Act.ends_terminate_iff, Act.ends_get_iff, Act.ends_lift_iff,
      Act.ends_note_iff] at ended
    obtain ⟨_, _, rfl, _, _, ⟨rfl, rfl⟩, snapshot, _, ⟨_, rfl⟩, _, _, rfl, ended⟩ := ended
    split at ended
    · simp only [Act.ends_pure_iff] at ended
      obtain ⟨rfl, rfl⟩ := ended
      exact ⟨.inr rfl, _, _, rfl⟩
    · simp only [Act.ends_bind_iff, Act.ends_note_iff, Act.ends_pure_iff] at ended
      obtain ⟨_, _, rfl, rfl, rfl⟩ := ended
      exact ⟨.inr rfl, _, _, rfl⟩
    · simp only [Act.ends_bind_iff, Act.ends_note_iff, Act.ends_pure_iff] at ended
      obtain ⟨_, _, rfl, rfl, rfl⟩ := ended
      exact ⟨.inr rfl, _, _, rfl⟩

end Orchestrator

structure Sensor.Emits (sensor : Sensor) (application : Application) (edge : Edge) (usage : Usage)
    (time later : Time) (before sent after : Context) : Prop where
  feeds : application.sensorEdge? sensor.tupleType = some edge
  paid : before.usage.transfer? edge.dataSize = some usage
  reached : before.now.after? sensor.latency = some time
  sends : { before with
    timings := before.timings.issue.2.enterLoops sensor.tupleType before.timings.nextTuple
      before.now application.loops
    usage := usage }.Enters ⟨before.agenda.nextEventId, time, .device sensor.gateway
      (.tupleArrival (Tuple.emitted before.timings.nextTuple application.id edge))⟩ sent
  goesOn : before.now.after? sensor.interval = some later
  arms : sent.Enters ⟨sent.agenda.nextEventId, later, .transmit sensor.id⟩ after

theorem Sensor.transmit_ends {sensor next : Sensor} {application : Application}
    {before after : Context} (running : before.halted = false)
    (ended : (sensor.transmit application).Ends before next after) :
    (application.sensorEdge? sensor.tupleType = none ∧ next = sensor ∧ after = before) ∨
      ∃ edge usage time later sent,
        sensor.Emits application edge usage time later before sent after ∧
        next = { sensor with sent := sensor.sent + 1 } := by
  unfold transmit at ended
  split at ended
  next useless =>
    simp only [Act.ends_bind_iff, Act.ends_note_iff, Act.ends_pure_iff] at ended
    obtain ⟨_, _, rfl, rfl, rfl⟩ := ended
    exact .inl ⟨useless, rfl, rfl⟩
  next edge found =>
    simp only [Act.send, arm, Act.ends_bind_iff, Act.ends_now_iff, Act.ends_withTimings_iff,
      Act.ends_changeTimings_iff, Act.ends_transfer_iff, Act.ends_pure_iff] at ended
    obtain ⟨_, before, ⟨rfl, rfl⟩, _, _, ⟨rfl, rfl⟩, _, _, rfl, _, sent,
      ⟨_, _, ⟨usage, paid, rfl⟩, sending⟩, _, _, ⟨_, _, arming, _, rfl⟩, rfl, rfl⟩ := ended
    obtain ⟨time, reached, sends⟩ := Act.scheduleAfter_enters (by exact running) sending
    have still : sent.halted = false := sends.halted.trans running
    obtain ⟨later, goesOn, arms⟩ := Act.scheduleAfter_enters still arming
    rw [sends.now] at goesOn
    exact .inr ⟨edge, usage, time, later, sent, ⟨found, paid, reached, sends, goesOn, arms⟩, rfl⟩

theorem Actuator.receive_ends {actuator next : Actuator} {application : Option Application}
    {tuple : Tuple} {before after : Context}
    (ended : (actuator.receive application tuple).Ends before next after) :
    next = { actuator with received := actuator.received + 1 } ∧
      after = { before with
        timings := ((application.elim [] (·.loops)).filter actuator.closes).foldl
          (fun timings path =>
            (timings.completeLoop path.id tuple.root before.now path.deadline).2)
          before.timings } := by
  simp only [receive, Act.ends_bind_iff, Act.ends_note_iff, Act.ends_now_iff,
    Act.ends_changeTimings_iff, Act.ends_pure_iff] at ended
  obtain ⟨_, _, rfl, _, before, ⟨rfl, rfl⟩, _, _, rfl, rfl, rfl⟩ := ended
  exact ⟨rfl, rfl⟩

/-- From what an event asks and the state before it to the state after it. -/
inductive Reaction (orchestrator : Orchestrator) (begun : Context) :
    Payload → Orchestrator → Context → Prop
  | launch {application : String} {reacted : Context}
      (asks : begun.Asks (Context.CallsFor orchestrator.application?) reacted) :
      Reaction orchestrator begun (.launchApplication application) orchestrator reacted
  | control {reacted : Context}
      (asks : begun.Asks (Context.CallsFor orchestrator.application?) reacted) :
      Reaction orchestrator begun .controlTick
        { orchestrator with controlTicks := orchestrator.controlTicks + 1 } reacted
  | finished {tuple : Tuple} :
      Reaction orchestrator begun (.tupleFinished tuple) orchestrator begun
  | stop {reacted : Context} {exporter : Exporter} {snapshot : Option Snapshot}
      (halts : reacted = begun ∨ reacted = { begun with halted := true }) :
      Reaction orchestrator begun .stop
        { orchestrator with exporter := exporter, snapshot := snapshot } reacted
  | unknownDevice {id : DeviceId} {event : DeviceEvent}
      (unknown : orchestrator.devices.get? id = none) :
      Reaction orchestrator begun (.device id event) orchestrator begun
  | device {id : DeviceId} {event : DeviceEvent} {target next : Device} {reacted : Context}
      (known : orchestrator.devices.get? id = some target)
      (reacts : (target.react event).Ends begun next reacted) :
      Reaction orchestrator begun (.device id event)
        { orchestrator with devices := orchestrator.devices.insert id next } reacted
  | silent {id : SensorId}
      (mute : ∀ sensor application, orchestrator.sensors.get? id = some sensor →
        orchestrator.application? = some application → sensor.application ≠ application.id) :
      Reaction orchestrator begun (.transmit id) orchestrator begun
  | sensor {id : SensorId} {sensor next : Sensor} {application : Application} {reacted : Context}
      (known : orchestrator.sensors.get? id = some sensor)
      (held : orchestrator.application? = some application)
      (feeds : sensor.application = application.id)
      (reacts : (sensor.transmit application).Ends begun next reacted) :
      Reaction orchestrator begun (.transmit id)
        { orchestrator with sensors := orchestrator.sensors.insert id next } reacted
  | unknownActuator {id : ActuatorId} {tuple : Tuple}
      (unknown : orchestrator.actuators.get? id = none) :
      Reaction orchestrator begun (.delivery id tuple) orchestrator begun
  | actuator {id : ActuatorId} {tuple : Tuple} {actuator next : Actuator} {reacted : Context}
      (known : orchestrator.actuators.get? id = some actuator)
      (reacts : (actuator.receive orchestrator.application? tuple).Ends begun next reacted) :
      Reaction orchestrator begun (.delivery id tuple)
        { orchestrator with actuators := orchestrator.actuators.insert id next } reacted

theorem Orchestrator.handle_reaction {event : Event} {orchestrator next : Orchestrator}
    {begun reacted : Context} (running : begun.halted = false)
    (ended : (orchestrator.handle event).Ends begun next reacted) :
    Reaction orchestrator begun event.payload next reacted := by
  simp only [handle, Act.ends_bind_iff, Act.ends_now_iff, Act.ends_note_iff] at ended
  obtain ⟨_, begun, ⟨rfl, rfl⟩, _, _, rfl, ended⟩ := ended
  cases payload : event.payload with
  | launchApplication application =>
      simp only [payload, Act.ends_bind_iff, Act.ends_pure_iff] at ended
      obtain ⟨_, _, launched, rfl, rfl⟩ := ended
      exact .launch (launchDue_asks running launched)
  | controlTick =>
      rw [payload] at ended
      obtain ⟨asks, rfl⟩ := control_asks running ended
      exact .control asks
  | tupleFinished tuple =>
      simp only [payload, Act.ends_bind_iff, Act.ends_note_iff, Act.ends_pure_iff] at ended
      obtain ⟨_, _, rfl, rfl, rfl⟩ := ended
      exact .finished
  | stop =>
      rw [payload] at ended
      obtain ⟨halts, _, _, rfl⟩ := stop_ends ended
      exact .stop halts
  | device id deviceEvent =>
      simp only [payload, deliver] at ended
      split at ended
      next unknown =>
        simp only [Act.ends_bind_iff, Act.ends_note_iff, Act.ends_pure_iff] at ended
        obtain ⟨_, _, rfl, rfl, rfl⟩ := ended
        exact .unknownDevice unknown
      next target known =>
        simp only [Act.ends_bind_iff, Act.ends_pure_iff] at ended
        obtain ⟨_, _, reacts, rfl, rfl⟩ := ended
        exact .device known reacts
  | transmit id =>
      simp only [payload, transmit] at ended
      split at ended
      next unknown =>
        simp only [Act.ends_bind_iff, Act.ends_note_iff, Act.ends_pure_iff] at ended
        obtain ⟨_, _, rfl, rfl, rfl⟩ := ended
        exact .silent (by simp [unknown])
      next sensor known =>
        split at ended
        next application held =>
          split at ended
          next feeds =>
            simp only [Act.ends_bind_iff, Act.ends_pure_iff] at ended
            obtain ⟨_, _, reacts, rfl, rfl⟩ := ended
            exact .sensor known held feeds reacts
          next foreign =>
            simp only [Act.ends_bind_iff, Act.ends_note_iff, Act.ends_pure_iff] at ended
            obtain ⟨_, _, rfl, rfl, rfl⟩ := ended
            refine .silent ?_
            simpa [known, held] using foreign
        next none =>
          simp only [Act.ends_bind_iff, Act.ends_note_iff, Act.ends_pure_iff] at ended
          obtain ⟨_, _, rfl, rfl, rfl⟩ := ended
          exact .silent (by simp [none])
  | delivery id tuple =>
      simp only [payload, actuate] at ended
      split at ended
      next unknown =>
        simp only [Act.ends_bind_iff, Act.ends_note_iff, Act.ends_pure_iff] at ended
        obtain ⟨_, _, rfl, rfl, rfl⟩ := ended
        exact .unknownActuator unknown
      next actuator known =>
        simp only [Act.ends_bind_iff, Act.ends_pure_iff] at ended
        obtain ⟨_, _, reacts, rfl, rfl⟩ := ended
        exact .actuator known reacts

end FogNetwork
