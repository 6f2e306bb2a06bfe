import FogNetwork.Proofs.Briefings
import FogNetwork.Proofs.Runs

/-! Where every tuple of a run is, place by place. -/

namespace FogNetwork

namespace Relay

theorem Deed.executed_eq {before after : Bench} (deed : Deed before after) :
    after.relay.executed + before.done.length = before.relay.executed + after.done.length := by
  cases deed with
  | execute =>
      simp only [List.length_append, List.length_singleton]
      omega
  | queue | park | forward | derive | deliver | pass | take | rearm | charge => rfl

theorem Deeds.executed_eq {before after : Bench} (deeds : Deeds before after) :
    after.relay.executed + before.done.length = before.relay.executed + after.done.length := by
  induction deeds with
  | refl => rfl
  | tail _ deed ih =>
      have last := deed.executed_eq
      omega

end Relay

def Device.arrivals : Device → List Tuple
  | .relay _ => []
  | .recorder device =>
      device.received.filterMap fun entry =>
        match entry.2 with
        | .tupleArrival tuple => some tuple
        | _ => none

theorem Device.Reaction.tallies {orchestrator : Orchestrator} {begun reacted : Context}
    {id : DeviceId} {event : DeviceEvent} {target next : Device}
    (known : orchestrator.devices.get? id = some target)
    (reaction : Device.Reaction begun target event next reacted) :
    next.executed = target.executed + (orchestrator.executes (.device id event)).length ∧
      next.arrivals = target.arrivals ++ orchestrator.records (.device id event) := by
  cases reaction with
  | recorder =>
      constructor
      · cases event <;>
          simp [Orchestrator.executes, Orchestrator.relay?, known, Device.relay?, Device.executed]
      · cases event <;> simp [Orchestrator.records, known, Device.arrivals]
  | active | received | launch => exact ⟨rfl, rfl⟩
  | manage deeds =>
      refine ⟨?_, by simp [Orchestrator.records, Device.arrivals]⟩
      have counted := deeds.executed_eq
      simp only [Device.executed, Orchestrator.executes, Orchestrator.relay?, known,
        Option.bind_some, Device.relay?, List.length_nil] at counted ⊢
      omega
  | arrival deeds =>
      refine ⟨?_, by simp [Orchestrator.records, known, Device.arrivals]⟩
      have counted := deeds.executed_eq
      simp only [Device.executed, Orchestrator.executes, List.length_nil] at counted ⊢
      omega

theorem Reaction.tallies {orchestrator next : Orchestrator} {begun reacted : Context}
    {payload : Payload} (running : begun.halted = false)
    (reaction : Reaction orchestrator begun payload next reacted) :
    next.devices.total (·.executed) =
        orchestrator.devices.total (·.executed) + (orchestrator.executes payload).length ∧
      next.devices.total (fun device => (device.arrivals : Multiset Tuple)) =
        orchestrator.devices.total (fun device => (device.arrivals : Multiset Tuple)) +
          orchestrator.records payload ∧
      next.actuators.total (·.received) =
        orchestrator.actuators.total (·.received) + (orchestrator.receives payload).length := by
  cases reaction with
  | launch | control | finished | stop | silent | sensor =>
      exact ⟨rfl, by simp [Orchestrator.records], rfl⟩
  | @unknownDevice id event unknown =>
      have absent : orchestrator.relay? id = none := by simp [Orchestrator.relay?, unknown]
      refine ⟨?_, ?_, by simp [Orchestrator.receives]⟩
      · cases event <;> simp [Orchestrator.executes, absent]
      · cases event <;> simp [Orchestrator.records, unknown]
  | @device id event target next reacted known reacts =>
      obtain ⟨executes, records⟩ := (Device.react_reaction running reacts).tallies known
      obtain ⟨executed, executedBefore, executedAfter⟩ :=
        SortedMap.total_of_get?_eq_some known Device.executed
      obtain ⟨arrivals, arrivalsBefore, arrivalsAfter⟩ :=
        SortedMap.total_of_get?_eq_some known fun device => (device.arrivals : Multiset Tuple)
      refine ⟨?_, ?_, by simp [Orchestrator.receives]⟩
      · rw [executedBefore]
        refine (executedAfter next).trans ?_
        rw [executes]
        exact add_right_comm _ _ _
      · rw [arrivalsBefore]
        refine (arrivalsAfter next).trans ?_
        rw [records, ← Multiset.coe_add]
        exact add_right_comm _ _ _
  | unknownActuator unknown =>
      refine ⟨rfl, by simp [Orchestrator.records], ?_⟩
      simp [Orchestrator.receives, SortedMap.contains, unknown]
  | @actuator id tuple actuator next reacted known reacts =>
      obtain ⟨others, before, after⟩ := SortedMap.total_of_get?_eq_some known Actuator.received
      obtain ⟨rfl, _⟩ := Actuator.receive_ends reacts
      refine ⟨rfl, by simp [Orchestrator.records], ?_⟩
      rw [before]
      refine (after _).trans ?_
      simp [Orchestrator.receives, SortedMap.contains, known]
      omega

namespace Scenario

def travelling (scenario : Scenario) : List Tuple :=
  scenario.simulation.context.agenda.pending.filterMap (·.payload.carried?)

def queued (scenario : Scenario) : List Tuple :=
  scenario.orchestrator.devices.values.flatMap Device.waiting ++
    scenario.orchestrator.devices.values.flatMap Device.parked

def executed (turns : List Turn) : List Tuple :=
  turns.flatMap fun turn => turn.before.orchestrator.executes turn.event.payload

def recorded (turns : List Turn) : List Tuple :=
  turns.flatMap fun turn => turn.before.orchestrator.records turn.event.payload

def received (turns : List Turn) : List Tuple :=
  turns.flatMap fun turn => turn.before.orchestrator.receives turn.event.payload

def dropped (turns : List Turn) : List Tuple :=
  turns.flatMap fun turn => turn.before.orchestrator.drops turn.event.payload

def whereabouts (scenario : Scenario) (turns : List Turn) : List Tuple :=
  scenario.travelling ++ scenario.queued ++ executed turns ++ recorded turns ++ received turns ++
    dropped turns

def conveyed (started : Scenario) (turns : List Turn) : List Tuple :=
  (started.scheduled turns).filterMap (·.payload.carried?)

variable {started scenario : Scenario} {turns : List Turn}

theorem settled_perm (turns : List Turn) :
    (settled turns).Perm (executed turns ++ recorded turns ++ received turns ++ dropped turns) := by
  have both := fun (first second : Turn → List Tuple) =>
    (List.flatMap_append_perm turns first second).symm
  refine (both _ _).trans (.append_right _ ?_)
  refine (both _ _).trans (.append_right _ ?_)
  exact both _ _

theorem Reached.tallies (reached : started.Reached turns scenario) :
    scenario.orchestrator.devices.total (·.executed) =
        started.orchestrator.devices.total (·.executed) + (executed turns).length ∧
      scenario.orchestrator.devices.total (fun device => (device.arrivals : Multiset Tuple)) =
        started.orchestrator.devices.total (fun device => (device.arrivals : Multiset Tuple)) +
          recorded turns ∧
      scenario.orchestrator.actuators.total (·.received) =
        started.orchestrator.actuators.total (·.received) + (received turns).length := by
  refine reached.keeps (motive := fun turns scenario =>
    scenario.orchestrator.devices.total (·.executed) =
        started.orchestrator.devices.total (·.executed) + (executed turns).length ∧
      scenario.orchestrator.devices.total (fun device => (device.arrivals : Multiset Tuple)) =
        started.orchestrator.devices.total (fun device => (device.arrivals : Multiset Tuple)) +
          recorded turns ∧
      scenario.orchestrator.actuators.total (·.received) =
        started.orchestrator.actuators.total (·.received) + (received turns).length) ?_ ?_
  · exact ⟨rfl, by simp [recorded], rfl⟩
  · intro turns before event after begun reacted ⟨executions, recordings, receipts⟩ dispatches
    obtain ⟨executes, records, receives⟩ := dispatches.reaction.tallies dispatches.begun_running
    refine ⟨?_, ?_, ?_⟩
    · rw [executes, executions]
      simp [executed, Nat.add_assoc]
    · rw [records, recordings, add_assoc, Multiset.coe_add]
      simp [recorded]
    · rw [receives, receipts]
      simp [received, Nat.add_assoc]

theorem whereabouts_coe (scenario : Scenario) (turns : List Turn) :
    (scenario.whereabouts turns : Multiset Tuple) =
      scenario.simulation.context.carried +
        scenario.orchestrator.devices.total (fun device => (device.waiting : Multiset Tuple)) +
        (scenario.orchestrator.devices.total (fun device => (device.parked : Multiset Tuple)) +
          settled turns) := by
  rw [SortedMap.total_coe, SortedMap.total_coe, Multiset.coe_eq_coe.mpr (settled_perm turns)]
  unfold Context.carried whereabouts travelling queued
  simp only [← Multiset.coe_add]
  abel

end Scenario

theorem Custody.perm_range' {next : Nat} {all : List Tuple} (custody : Custody next all) :
    (all.map (·.id)).Perm (List.range' 1 (next - 1)) := by
  have issued := custody.issued
  rw [Multiset.map_coe, Multiset.cons_coe, Multiset.range, Multiset.coe_eq_coe] at issued
  cases next with
  | zero => exact absurd issued.length_eq (by simp)
  | succ count =>
      rw [List.range_eq_range', List.range'_succ] at issued
      exact issued.cons_inv

structure Scenario.Conserved (built started : Scenario) (turns : List Turn)
    (scenario : Scenario) : Prop where
  issued : ((scenario.whereabouts turns).map (·.id)).Perm
    (List.range' 1 (scenario.simulation.context.timings.nextTuple - 1))
  unfinished : ∀ event ∈ scenario.simulation.context.agenda.pending, ∀ tuple,
    event.payload ≠ .tupleFinished tuple
  sensed : ∀ tuple ∈ scenario.whereabouts turns, tuple.origin = .sensor → tuple.root = tuple.id
  derived : ∀ tuple ∈ scenario.whereabouts turns, tuple.origin = .module →
    ∃ first ∈ scenario.whereabouts turns,
      first.origin = .sensor ∧ first.id = tuple.root ∧ first.id < tuple.id
  executions : scenario.orchestrator.devices.total (·.executed) = (executed turns).length
  recordings :
    scenario.orchestrator.devices.total (fun device => (device.arrivals : Multiset Tuple)) =
    built.orchestrator.devices.total (fun device => (device.arrivals : Multiset Tuple)) +
      recorded turns
  receipts : scenario.orchestrator.actuators.total (·.received) =
    built.orchestrator.actuators.total (·.received) + (received turns).length
  transfers : scenario.simulation.context.usage.transfers = (started.conveyed turns).length
  bytes : scenario.simulation.context.usage.bytes = ((started.conveyed turns).map (·.size)).sum

theorem Orchestrator.drops_cases {orchestrator : Orchestrator} {payload : Payload} {tuple : Tuple}
    (dropped : tuple ∈ orchestrator.drops payload) :
    (∃ id, payload = .device id (.tupleArrival tuple) ∧
        orchestrator.devices.contains id = false) ∨
      ∃ id, payload = .delivery id tuple ∧ orchestrator.actuators.contains id = false := by
  unfold drops at dropped
  split at dropped
  next id arriving =>
    split at dropped
    · cases dropped
    next unknown =>
      obtain rfl := List.mem_singleton.mp dropped
      exact .inl ⟨id, rfl, by simpa using unknown⟩
  next id delivered =>
    split at dropped
    · cases dropped
    next unknown =>
      obtain rfl := List.mem_singleton.mp dropped
      exact .inr ⟨id, rfl, by simpa using unknown⟩
  · cases dropped

theorem Blueprint.drops_of_begun {blueprint : Blueprint} {built started scenario : Scenario}
    {turns : List Turn} {turn : Turn} {tuple : Tuple} (unused : blueprint.Unused)
    (builds : blueprint.build.outcome = .ok (.ok built))
    (begun : built.Begun started turns scenario) (member : turn ∈ turns)
    (dropped : tuple ∈ turn.before.orchestrator.drops turn.event.payload) :
    (∃ id, turn.event.payload = .device id (.tupleArrival tuple) ∧
        turn.before.orchestrator.devices.contains id = false) ∨
      ¬blueprint.Plain ∧ ∃ id, turn.event.payload = .delivery id tuple ∧
        turn.before.orchestrator.actuators.contains id = false := by
  rcases Orchestrator.drops_cases dropped with device | ⟨id, delivers, unknown⟩
  · exact .inl device
  · refine .inr ⟨fun plain => ?_, id, delivers, unknown⟩
    rw [delivery_registered unused builds begun plain member delivers] at unknown
    cases unknown

/-- In every state that a scenario is left in before the run is over, no tuple was lost or
duplicated, and the links have carried what they were given to carry. Only tuples for unregistered
devices were dropped and, if the application came with subscriptions of its own, tuples for
unregistered actuators. -/
theorem Blueprint.tuples_conserved {blueprint : Blueprint} {built scenario : Scenario}
    {calls : List Scenario.Call} (unused : blueprint.Unused)
    (builds : blueprint.build.outcome = .ok (.ok built))
    (performed : (Scenario.Call.performAll calls built).outcome = .ok scenario)
    (running : scenario.simulation.isTerminated = false) :
    ∃ started turns, built.Begun started turns scenario ∧
      Scenario.Conserved built started turns scenario ∧
      ∀ turn ∈ turns, ∀ tuple ∈ turn.before.orchestrator.drops turn.event.payload,
        (∃ id, turn.event.payload = .device id (.tupleArrival tuple) ∧
            turn.before.orchestrator.devices.contains id = false) ∨
          ¬blueprint.Plain ∧ ∃ id, turn.event.payload = .delivery id tuple ∧
            turn.before.orchestrator.actuators.contains id = false := by
  obtain ⟨started, turns, begun⟩ := begun_of_calls builds performed
  refine ⟨started, turns, begun, ?_, fun turn member tuple dropped =>
    drops_of_begun unused builds begun member dropped⟩
  obtain ⟨reached, _, time, orchestrator⟩ := begun_cases builds begun
  have accounts := (accounted_of_begun unused builds begun).accounts running
  have custody : Custody scenario.simulation.context.timings.nextTuple
      (scenario.whereabouts turns) := by
    rw [Scenario.whereabouts_coe]
    exact accounts.custody
  -- What the links have carried so far has arrived or is pending, and all of it was scheduled.
  have traffic : Traffic scenario.simulation.context.usage (started.conveyed turns) := by
    have same : (started.conveyed turns : Multiset Tuple) =
        scenario.simulation.context.carried + Scenario.moved turns := by
      have scheduled := (reached.scheduled_perm running).filterMap (·.payload.carried?)
      rw [List.filterMap_append, List.filterMap_map] at scheduled
      rw [add_comm]
      exact (Multiset.coe_eq_coe.mpr scheduled).symm
    rw [same]
    exact accounts.traffic
  obtain ⟨executions, recordings, receipts⟩ := reached.tallies
  rw [orchestrator] at executions recordings receipts
  constructor
  · exact custody.perm_range'
  · exact accounts.unfinished
  · intro tuple member sensed
    have rooted := custody.rooted tuple (Multiset.mem_coe.mpr member)
    rwa [Tuple.RootedIn, sensed] at rooted
  · intro tuple member derived
    have rooted := custody.rooted tuple (Multiset.mem_coe.mpr member)
    rwa [Tuple.RootedIn, derived] at rooted
  · rw [executions, (Devices.totals_of_unused (unused.of_build builds)).2.2, Nat.zero_add]
  · exact recordings
  · exact receipts
  · exact traffic.transfers
  · have bytes := traffic.bytes
    rwa [Multiset.map_coe, Multiset.sum_coe] at bytes

theorem Blueprint.tuples_conserved_demo : ∃ network built scenario,
    Demo.blueprint ⟨50, 400⟩ .keeping = .ok network ∧ network.Unused ∧
      network.build.outcome = .ok (.ok built) ∧
      (Scenario.Call.performAll [.step, .runSteps 60] built).outcome = .ok scenario ∧
      scenario.simulation.isTerminated = false ∧
      scenario.simulation.context.timings.nextTuple = 29 ∧
      ∃ started turns, built.Begun started turns scenario ∧
        Scenario.Conserved built started turns scenario := by
  obtain ⟨network, built, scenario, made, builds, performed, running, issued⟩ :=
    Demo.blueprint_busy
  have unused := Demo.blueprint_unused made
  obtain ⟨started, turns, begun, conserved, _⟩ :=
    tuples_conserved unused builds performed running
  exact ⟨network, built, scenario, made, unused, builds, performed, running, issued, started,
    turns, begun, conserved⟩

/-- The tuples that are dropped because no device is registered to receive them. -/
def Orchestrator.strays (orchestrator : Orchestrator) : Payload → List Tuple
  | .device id (.tupleArrival tuple) => if orchestrator.devices.contains id then [] else [tuple]
  | _ => []

namespace Demo

def kiosk : Blueprint :=
  { panel "LIGHT" "TURN" with
    actuators := []
    mapped := some ⟨{ panelApplication "LIGHT" "TURN" with
        modules := [⟨"control", 10, [⟨⟨7⟩, "LIGHT"⟩]⟩] },
      Mapping.empty.add "node" "control", 0⟩ }

theorem kiosk_unused : kiosk.Unused :=
  ⟨(panel_unused "LIGHT" "TURN").devices, (panel_unused "LIGHT" "TURN").relays⟩

/-- The tuple for the light is dropped although it was not sent to a device. -/
theorem kiosk_unheard : ∃ built started scenario turns,
    kiosk.Unused ∧ kiosk.build.outcome = .ok (.ok built) ∧ built.Begun started turns scenario ∧
      scenario.simulation.isTerminated = false ∧
      2 < scenario.simulation.context.timings.nextTuple ∧
      ∀ tuple ∈ scenario.travelling ++ scenario.queued ++ Scenario.executed turns ++
          Scenario.recorded turns ++ Scenario.received turns ++
          turns.flatMap (fun turn => turn.before.orchestrator.strays turn.event.payload),
        tuple.id ≠ 2 := by
  have unheard : (kiosk.after? []).any (fun built => built.started?.any fun started =>
      (started.firstTurns 10).getLast?.any fun last =>
        !last.after.simulation.isTerminated &&
          (decide (2 < last.after.simulation.context.timings.nextTuple) &&
            (last.after.travelling ++ last.after.queued ++
              Scenario.executed (started.firstTurns 10) ++
              Scenario.recorded (started.firstTurns 10) ++
              Scenario.received (started.firstTurns 10) ++
              (started.firstTurns 10).flatMap fun turn =>
                turn.before.orchestrator.strays turn.event.payload).all (·.id != 2))) = true := by
    decide +kernel
  obtain ⟨built, left, unheard⟩ := (Option.any_eq_true _ _).mp unheard
  obtain ⟨_, builds, same⟩ := Blueprint.after?_eq_some left
  cases same
  obtain ⟨started, begins, unheard⟩ := (Option.any_eq_true _ _).mp unheard
  obtain ⟨last, latest, unheard⟩ := (Option.any_eq_true _ _).mp unheard
  obtain ⟨running, unheard⟩ := Bool.and_eq_true_iff.mp unheard
  obtain ⟨issued, unheard⟩ := Bool.and_eq_true_iff.mp unheard
  obtain ⟨ended, reached⟩ := started.reached_firstTurns 10
  obtain rfl := reached.last latest
  refine ⟨built, started, last.after, started.firstTurns 10, kiosk_unused, builds,
    .inr ⟨Scenario.started?_eq_some begins, reached⟩, by simpa using running,
    of_decide_eq_true issued, ?_⟩
  intro tuple member
  simpa using List.all_eq_true.mp unheard tuple member

end Demo

end FogNetwork
