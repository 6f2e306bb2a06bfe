import FogNetwork.Proofs.Alarms

/-! Which events the reaction to an event asks for. -/

namespace FogNetwork

/-- The events that an event can lead to being asked for, each with the delay it is due after. -/
inductive Orchestrator.Answers (orchestrator : Orchestrator) : Payload → Nat → Payload → Prop
  | tick : Answers orchestrator .controlTick orchestrator.config.controlInterval .controlTick
  | launch {application : String} {held : Submission} {delay : Nat} {payload : Payload}
      (active : orchestrator.active = some held) (own : held.application.id = application)
      (listed : (delay, payload) ∈ orchestrator.launchRequests held) :
      Answers orchestrator (.launchApplication application) delay payload
  | round {id : DeviceId} {relay : Relay}
      (known : orchestrator.devices.get? id = some (.relay relay)) :
      Answers orchestrator (.device id .manageResources) relay.interval
        (.device relay.id .manageResources)
  | emission {id : SensorId} {sensor : Sensor}
      (known : orchestrator.sensors.get? id = some sensor) :
      Answers orchestrator (.transmit id) sensor.interval (.transmit sensor.id)
  | tuple {cause payload : Payload} {delay : Nat}
      (carries : payload.Carries (fun _ => True) delay) :
      Answers orchestrator cause delay payload

namespace Orchestrator

variable {orchestrator next : Orchestrator} {before after : Context} {held : Submission}
variable {event : Event}

theorem launchDue_requests {application : String} {done : Unit} (running : before.halted = false)
    (ended : (orchestrator.launchDue application).Ends before done after) :
    after = before ∨ ∃ held, orchestrator.active = some held ∧ held.application.id = application ∧
      before.Requests (orchestrator.launchRequests held) after := by
  unfold launchDue at ended
  split at ended
  next due =>
    cases active : orchestrator.active with
    | none => simp [application?, active] at due
    | some held =>
        have own : held.application.id = application := by
          simpa [application?, active] using due
        exact .inr ⟨held, rfl, own, activate_requests active running ended⟩
  · exact .inl (Act.ends_note_iff.mp ended)

theorem handle_of_launch {application : String} (launches : event.payload =
    .launchApplication application) (ended : (orchestrator.handle event).Ends before next after) :
    next = orchestrator ∧ (orchestrator.launchDue application).Ends before () after := by
  simp only [handle, launches, Act.ends_bind_iff, Act.ends_now_iff, Act.ends_note_iff,
    Act.ends_pure_iff] at ended
  obtain ⟨_, _, ⟨rfl, rfl⟩, _, _, rfl, _, _, ended, rfl, rfl⟩ := ended
  exact ⟨rfl, ended⟩

theorem deliver_answers {id : DeviceId} {target changed : Device} {deviceEvent : DeviceEvent}
    (known : orchestrator.devices.get? id = some target)
    (reacts : (target.react deviceEvent).Ends before changed after) :
    before.Gains (fun delay payload => orchestrator.Answers (.device id deviceEvent) delay payload)
      after := by
  cases target with
  | recorder recorder =>
      obtain ⟨_, ended, _⟩ := Act.ends_map_iff.mp reacts
      simp only [Recorder.react, Act.ends_bind_iff, Act.ends_now_iff, Act.ends_pure_iff] at ended
      obtain ⟨_, _, ⟨_, rfl⟩, _, rfl⟩ := ended
      exact .unchanged rfl rfl rfl
  | relay relay =>
      have any : relay.Within fun _ => True := ⟨trivial, fun _ _ _ => trivial, fun _ => trivial⟩
      obtain ⟨_, ended, _⟩ := Act.ends_map_iff.mp reacts
      cases deviceEvent with
      | applicationActive | applicationReceived =>
          obtain ⟨_, rfl⟩ := Act.ends_pure_iff.mp ended
          exact .unchanged rfl rfl rfl
      | launchModule =>
          simp only [Relay.react, Act.ends_bind_iff, Act.ends_note_iff, Act.ends_pure_iff] at ended
          obtain ⟨_, _, rfl, _, rfl⟩ := ended
          exact .unchanged rfl rfl rfl
      | manageResources =>
          refine ((Relay.manage_modest any).ends rfl ended).1.mono ?_
          rintro _ _ (carries | ⟨rfl, rfl⟩)
          · exact .tuple carries
          · exact .round known
      | tupleArrival =>
          refine ((Relay.accept_modest any _).ends rfl ended).1.mono ?_
          exact fun _ _ carries => .tuple carries

theorem handle_answers (running : before.halted = false) (goesOn : event.payload ≠ .stop)
    (ended : (orchestrator.handle event).Ends before next after) :
    before.Gains (fun delay payload => orchestrator.Answers event.payload delay payload) after := by
  by_cases ticks : event.payload = .controlTick
  · refine ((orchestrator.handle_modest_of_tick ticks).ends rfl ended).1.mono ?_
    rintro _ _ ⟨rfl, rfl⟩
    rw [ticks]
    exact .tick
  have reaction := handle_reaction running ended
  cases payload : event.payload with
  | launchApplication application =>
      obtain ⟨_, launched⟩ := handle_of_launch payload ended
      rcases launchDue_requests running launched with rfl | ⟨held, active, own, asked⟩
      · exact .unchanged rfl rfl rfl
      · exact asked.gains.mono fun _ _ listed => .launch active own listed
  | controlTick => exact absurd payload ticks
  | stop => exact absurd payload goesOn
  | tupleFinished =>
      rw [payload] at reaction
      cases reaction
      exact .unchanged rfl rfl rfl
  | device id deviceEvent =>
      rw [payload] at reaction
      cases reaction with
      | unknownDevice => exact .unchanged rfl rfl rfl
      | device known reacts => exact deliver_answers known reacts
  | transmit id =>
      rw [payload] at reaction
      cases reaction with
      | silent => exact .unchanged rfl rfl rfl
      | sensor known held feeds reacts =>
          refine ((Sensor.transmit_modest _ _).ends rfl reacts).1.mono ?_
          rintro _ _ (carries | ⟨rfl, rfl⟩)
          · exact .tuple ⟨trivial, carries.2⟩
          · exact .emission known
  | delivery id tuple =>
      rw [payload] at reaction
      cases reaction with
      | unknownActuator => exact .unchanged rfl rfl rfl
      | actuator known reacts =>
          obtain ⟨_, rfl⟩ := Actuator.receive_ends reacts
          exact .unchanged rfl rfl rfl

end Orchestrator

namespace Scenario

variable {event : Event} {before after : Scenario} {begun reacted : Context}
variable {marks : Payload → Bool}

theorem answers_of_dispatches
    (dispatches : before.simulation.Dispatches Orchestrator.handle before.orchestrator event
      after.simulation after.orchestrator begun reacted) (goesOn : event.payload ≠ .stop) :
    begun.Gains (fun delay payload => before.orchestrator.Answers event.payload delay payload)
      reacted :=
  Orchestrator.handle_answers dispatches.begun_running goesOn dispatches.reacts

theorem pendingOf_reacted
    (dispatches : before.simulation.Dispatches Orchestrator.handle before.orchestrator event
      after.simulation after.orchestrator begun reacted) (goesOn : event.payload ≠ .stop)
    (apart : ∀ delay payload, before.orchestrator.Answers event.payload delay payload →
      marks payload = false) :
    reacted.pendingOf marks = begun.pendingOf marks :=
  (answers_of_dispatches dispatches goesOn).pendingOf_eq apart

end Scenario
end FogNetwork
