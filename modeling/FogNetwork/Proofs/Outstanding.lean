import FogNetwork.Proofs.Horizon
import FogNetwork.Proofs.Pace
import Mathlib.Data.Prod.Lex

/-! How much of a run is still outstanding. What is pending is told apart in three grades, and every
turn leaves less of one grade without adding to a higher one. -/

namespace FogNetwork

/-! A launch may ask for alarms, and an alarm for errands. Neither asks for its own kind at once. -/

def Payload.Alarm : Payload → Prop
  | .controlTick | .transmit _ | .device _ .manageResources => True
  | _ => False

def Payload.Errand : Payload → Prop
  | .launchApplication _ | .controlTick | .stop | .transmit _ | .device _ .manageResources => False
  | _ => True

theorem Payload.grades (payload : Payload) :
    (∃ application, payload = .launchApplication application) ∨ payload.Alarm ∨
      payload = .stop ∨ payload.Errand := by
  cases payload with
  | launchApplication application => exact .inl ⟨application, rfl⟩
  | controlTick | transmit => exact .inr (.inl trivial)
  | stop => exact .inr (.inr (.inl rfl))
  | device device event =>
      cases event with
      | manageResources => exact .inr (.inl trivial)
      | _ => exact .inr (.inr (.inr trivial))
  | tupleFinished | delivery => exact .inr (.inr (.inr trivial))

namespace Event

/-- The ticks that the event lies before the end of the run, its own one among them. -/
def left (finish : Nat) (event : Event) : Nat := finish + 1 - event.time.ticks

def launches (event : Event) : Nat :=
  match event.payload with
  | .launchApplication _ => 1
  | _ => 0

/-- The ticks in which an entity may be roused that asks to be roused again. -/
def alarms (finish : Nat) (event : Event) : Nat :=
  match event.payload with
  | .controlTick | .transmit _ | .device _ .manageResources => event.left finish
  | _ => 0

/-- The turns that the event may still lead to at most, if nobody is roused meanwhile. A tuple moves
on in the same tick once, to a device where its module is placed. -/
def errands (finish : Nat) (placement : Placement) (event : Event) : Nat :=
  match event.payload with
  | .launchApplication _ | .controlTick | .transmit _ | .device _ .manageResources => 0
  | .device device (.tupleArrival tuple) =>
      2 * event.left finish + if tuple.destination ∈ placement.modulesOn device then 0 else 1
  | _ => 1

theorem alarms_le_left (finish : Nat) (event : Event) :
    event.alarms finish ≤ event.left finish := by
  unfold alarms
  split <;> omega

theorem alarms_of_alarm {finish : Nat} {event : Event} (alarm : event.payload.Alarm) :
    event.alarms finish = event.left finish := by
  obtain ⟨id, time, payload⟩ := event
  cases payload with
  | controlTick | transmit => rfl
  | device device event =>
      cases event with
      | manageResources => rfl
      | _ => cases alarm
  | _ => cases alarm

theorem errands_pos {finish : Nat} {placement : Placement} {event : Event}
    (errand : event.payload.Errand) (due : event.time.ticks ≤ finish) :
    0 < event.errands finish placement := by
  obtain ⟨id, time, payload⟩ := event
  cases payload with
  | launchApplication | controlTick | stop | transmit => cases errand
  | tupleFinished | delivery => exact Nat.one_pos
  | device device event =>
      cases event with
      | manageResources => cases errand
      | tupleArrival =>
          have ahead : 0 < finish + 1 - time.ticks := by
            dsimp only at due
            omega
          exact Nat.add_pos_left (Nat.mul_pos Nat.two_pos ahead) _
      | _ => exact Nat.one_pos

theorem alarms_of_carries {allowed : Nat → Prop} {delay : Nat} {event : Event}
    (carries : event.payload.Carries allowed delay) (finish : Nat) : event.alarms finish = 0 := by
  have tuple := carries.2
  split at tuple
  next same => simp only [alarms, same]
  next same => simp only [alarms, same]
  · cases tuple

end Event

namespace Context

variable {before middle after : Context} {event : Event} {fits : Nat → Payload → Prop}
variable {measure : Event → Nat}

def total (measure : Event → Nat) (context : Context) : Nat :=
  (context.agenda.pending.map measure).sum

theorem total_of_perm (pending : after.agenda.pending.Perm (event :: before.agenda.pending)) :
    after.total measure = measure event + before.total measure := by
  rw [total, (pending.map measure).sum_eq, List.map_cons, List.sum_cons, total]

theorem Gains.total_eq (gains : before.Gains fits after)
    (free : ∀ delay event, fits delay event.payload → measure event = 0) :
    after.total measure = before.total measure := by
  obtain ⟨entered, pending, asked⟩ := gains.pending
  have none : (entered.map measure).sum = 0 := by
    apply List.sum_eq_zero
    intro count member
    obtain ⟨event, listed, rfl⟩ := List.mem_map.mp member
    obtain ⟨delay, own, _⟩ := asked event listed
    exact free delay event own
  rw [Context.total, (pending.map measure).sum_eq, List.map_append, List.sum_append, none,
    Nat.add_zero, Context.total]

def Rearms (before after : Context) : Prop :=
  ∀ finish, after.total (Event.alarms finish) ≤
    before.total (Event.alarms finish) + (finish - before.now.ticks)

theorem Rearms.unchanged (same : after.agenda = before.agenda) : before.Rearms after := by
  intro finish
  rw [total, same]
  exact Nat.le_add_right _ _

theorem Rearms.of_enters (enters : before.Enters event after)
    (later : before.now.ticks < event.time.ticks) : before.Rearms after := by
  intro finish
  have bound := event.alarms_le_left finish
  rw [total_of_perm enters.pending]
  simp only [Event.left] at bound
  omega

theorem Rearms.trans_gains (rearms : before.Rearms middle) (gains : middle.Gains fits after)
    (free : ∀ (finish delay : Nat) (event : Event), fits delay event.payload →
      event.alarms finish = 0) :
    before.Rearms after := by
  intro finish
  rw [gains.total_eq (free finish)]
  exact rearms finish

end Context

namespace Relay

variable {relay next : Relay} {before after : Context} {tuple : Tuple}

theorem rearm_rearms (running : before.halted = false) (interval : 1 ≤ relay.interval)
    (ended : relay.rearm.Ends before next after) : before.Rearms after := by
  rcases rearm_cases running ended with ⟨_, time, reached, enters, _⟩ | ⟨_, _, _, _, rfl⟩
  · refine .of_enters enters ?_
    have due := (Time.after?_eq_some_iff.mp reached).2
    dsimp only
    omega
  · exact .unchanged rfl

theorem manage_rearms (running : before.halted = false) (interval : 1 ≤ relay.interval)
    (ended : relay.manage.Ends before next after) : before.Rearms after := by
  obtain ⟨armed, between, rearmed, gains, _⟩ := manage_course ended
  exact (rearm_rearms running interval rearmed).trans_gains gains
    fun finish _ _ carries => Event.alarms_of_carries carries finish

end Relay

theorem Sensor.transmit_rearms {sensor next : Sensor} {application : Application}
    {before after : Context} (running : before.halted = false) (interval : 1 ≤ sensor.interval)
    (ended : (sensor.transmit application).Ends before next after) : before.Rearms after := by
  rcases transmit_ends running ended with ⟨_, _, rfl⟩ | ⟨_, _, _, later, sent, emits, _⟩
  · exact .unchanged rfl
  · have due := (Time.after?_eq_some_iff.mp emits.goesOn).2
    have now : sent.now.ticks = before.now.ticks := congrArg Time.ticks emits.sends.now
    have rearms : sent.Rearms after := .of_enters emits.arms (by dsimp only; omega)
    intro finish
    have bound := rearms finish
    rw [Context.total_of_perm emits.sends.pending, now] at bound
    exact bound.trans_eq (by rw [Event.alarms, Nat.zero_add]; rfl)

namespace Orchestrator

variable {orchestrator next : Orchestrator} {before after : Context} {event : Event}

theorem control_rearms (running : before.halted = false)
    (interval : 1 ≤ orchestrator.config.controlInterval)
    (ended : orchestrator.control.Ends before next after) : before.Rearms after := by
  obtain ⟨_, ⟨_, rfl⟩ | ⟨time, _, reached, scheduled⟩⟩ := control_cases ended
  · exact .unchanged rfl
  · have due := (Time.after?_eq_some_iff.mp reached).2
    exact .of_enters (Act.scheduleAt_enters running scheduled) (by dsimp only; omega)

theorem handle_rearms (paced : orchestrator.Paced) (running : before.halted = false)
    (alarm : event.payload.Alarm) (ended : (orchestrator.handle event).Ends before next after) :
    before.Rearms after := by
  by_cases ticks : event.payload = .controlTick
  · exact control_rearms running paced.control (handle_of_tick ticks ended)
  have reaction := handle_reaction running ended
  generalize event.payload = payload at ticks alarm reaction
  cases reaction with
  | launch | finished | stop | unknownActuator | actuator => cases alarm
  | control => exact absurd rfl ticks
  | silent | unknownDevice => exact .unchanged rfl
  | sensor known _ _ transmits =>
      exact Sensor.transmit_rearms running (paced.sensors _ _ known) transmits
  | @device id deviceEvent target device _ known reacts =>
      cases deviceEvent with
      | applicationActive | applicationReceived | launchModule | tupleArrival => cases alarm
      | manageResources =>
          have own := paced.devices id target known
          cases target with
          | recorder recorder =>
              cases Device.react_reaction running reacts
              exact .unchanged rfl
          | relay relay =>
              obtain ⟨_, managed, rfl⟩ := Act.ends_map_iff.mp reacts
              exact Relay.manage_rearms running own.interval managed

theorem handle_cases (running : before.halted = false) (errand : event.payload.Errand)
    (ended : (orchestrator.handle event).Ends before next after) :
    after.agenda = before.agenda ∨ ∃ id tuple relay route time,
      event.payload = .device id (.tupleArrival tuple) ∧
      orchestrator.devices.get? id = some (.relay relay) ∧
      relay.routes.get? tuple.destination = some route ∧
      before.now.after? route.latency = some time ∧
      after.agenda.pending.Perm (⟨before.agenda.nextEventId, time,
        .device route.device (.tupleArrival tuple)⟩ :: before.agenda.pending) := by
  have reaction := handle_reaction running ended
  generalize event.payload = payload at errand reaction
  cases reaction with
  | launch | control | stop | silent | sensor => cases errand
  | finished | unknownDevice | unknownActuator => exact .inl rfl
  | actuator _ receives =>
      obtain ⟨_, rfl⟩ := Actuator.receive_ends receives
      exact .inl rfl
  | @device id deviceEvent target device _ known reacts =>
      cases target with
      | recorder recorder =>
          cases Device.react_reaction running reacts
          exact .inl rfl
      | relay relay =>
          cases deviceEvent with
          | manageResources => cases errand
          | tupleArrival tuple =>
              obtain ⟨relay, accepted, rfl⟩ := Act.ends_map_iff.mp reacts
              rcases Relay.accept_cases running accepted with ⟨_, _, rfl⟩ |
                ⟨_, ⟨route, _, time, routed, _, reached, entered, _⟩ | ⟨_, _, rfl⟩⟩
              · exact .inl rfl
              · exact .inr ⟨id, tuple, _, route, time, rfl, known, routed, reached,
                  entered.pending⟩
              · exact .inl rfl
          | applicationActive | applicationReceived | launchModule =>
              cases Device.react_reaction running reacts
              exact .inl rfl

end Orchestrator

/-- What is outstanding, in the order of the grades: fewer launches outweigh any alarms, and fewer
alarms any errands. -/
def Scenario.outstanding (finish : Nat) (scenario : Scenario) : ℕ ×ₗ ℕ ×ₗ ℕ :=
  let context := scenario.simulation.context
  toLex (context.total Event.launches,
    toLex (context.total (Event.alarms finish),
      context.total (Event.errands finish scenario.orchestrator.placement)))

namespace Scenario

variable {before after : Scenario} {begun reacted : Context} {event timer : Event} {finish : Nat}

theorem outstanding_lt_iff : after.outstanding finish < before.outstanding finish ↔
    let total := fun (scenario : Scenario) measure => scenario.simulation.context.total measure
    let errands := fun scenario : Scenario =>
      total scenario (Event.errands finish scenario.orchestrator.placement)
    total after Event.launches < total before Event.launches ∨
      total after Event.launches = total before Event.launches ∧
        (total after (Event.alarms finish) < total before (Event.alarms finish) ∨
          total after (Event.alarms finish) = total before (Event.alarms finish) ∧
            errands after < errands before) := by
  simp only [outstanding, Prod.Lex.toLex_lt_toLex]

theorem Stops.lowers {figures : Snapshot} (stops : before.Stops timer begun figures after) :
    after.outstanding finish < before.outstanding finish := by
  have none (measure : Event → Nat) : after.simulation.context.total measure = 0 := by
    rw [stops.context]
    rfl
  have own : timer.errands finish before.orchestrator.placement = 1 := by
    rw [Event.errands, stops.underway.armed.stops]
  have last : before.simulation.context.total (Event.errands finish before.orchestrator.placement) =
      _ := Context.total_of_perm (.of_eq stops.pending)
  rw [outstanding_lt_iff]
  simp only [none]
  omega

theorem launches_eq
    (dispatches : before.simulation.Dispatches Orchestrator.handle before.orchestrator event
      after.simulation after.orchestrator begun reacted) (other : event.payload ≠ .stop) :
    reacted.total Event.launches = begun.total Event.launches := by
  refine (gains_of_dispatches dispatches other).total_eq ?_
  intro _ event own
  unfold Event.launches
  split
  next launches =>
    rw [launches] at own
    rcases own with same | entity
    · cases same
    · exact absurd rfl entity
  · rfl

theorem errands_lt (paced : before.orchestrator.Paced)
    (dispatches : before.simulation.Dispatches Orchestrator.handle before.orchestrator event
      after.simulation after.orchestrator begun reacted) (errand : event.payload.Errand)
    (due : event.time.ticks ≤ finish) :
    let errands := Event.errands finish before.orchestrator.placement
    reacted.total (Event.alarms finish) = begun.total (Event.alarms finish) ∧
      reacted.total errands < errands event + begun.total errands := by
  intro errands
  have now := dispatches.begun_now
  rcases Orchestrator.handle_cases dispatches.begun_running errand dispatches.reacts with
    same | ⟨id, tuple, relay, route, time, arrives, known, routed, reached, pending⟩
  · have unchanged (measure : Event → Nat) : reacted.total measure = begun.total measure := by
      rw [Context.total, same, Context.total]
    have positive : 0 < errands event := Event.errands_pos errand due
    rw [unchanged, unchanged]
    exact ⟨rfl, by omega⟩
  · have own : relay.Paced before.orchestrator.placement id := paced.devices id _ known
    have late := (Time.after?_eq_some_iff.mp reached).2
    rw [now] at late
    rw [Context.total_of_perm pending, Context.total_of_perm pending]
    refine ⟨Nat.zero_add _, ?_⟩
    simp only [errands, Event.errands, arrives, Event.left]
    rcases own.routes _ route routed with slow | ⟨elsewhere, hosted⟩
    · split <;> split <;> omega
    · rw [if_pos hosted, if_neg elsewhere]
      omega

theorem lowers (paced : before.orchestrator.Paced)
    (dispatches : before.simulation.Dispatches Orchestrator.handle before.orchestrator event
      after.simulation after.orchestrator begun reacted)
    (goesOn : after.simulation.context = reacted) (other : event.payload ≠ .stop)
    (due : event.time.ticks ≤ finish) : after.outstanding finish < before.outstanding finish := by
  have placed : after.orchestrator.placement = before.orchestrator.placement := by
    rw [Orchestrator.placement, dispatches.reaction.keeps.1, Orchestrator.placement]
  have launches := launches_eq dispatches other
  have split (measure : Event → Nat) : before.simulation.context.total measure = _ :=
    Context.total_of_perm (.of_eq dispatches.pending)
  rw [outstanding_lt_iff]
  simp only [goesOn, placed, split, launches]
  rcases event.payload.grades with ⟨application, launch⟩ | alarm | stops | errand
  · have own : event.launches = 1 := by rw [Event.launches, launch]
    omega
  · have rearms := Orchestrator.handle_rearms paced dispatches.begun_running alarm
      dispatches.reacts finish
    have now := dispatches.begun_now
    have own : event.alarms finish = finish + 1 - event.time.ticks := Event.alarms_of_alarm alarm
    rw [now] at rearms
    omega
  · exact absurd stops other
  · obtain ⟨alarms, errands⟩ := errands_lt paced dispatches errand due
    omega

end Scenario
end FogNetwork
