import FogNetwork.Proofs.Briefings

/-! Where the results for actuators go. An execution delivers along each actuator edge of its
module to the matches of all such edges that carry the same type of tuples, so what is delivered
follows the edges exactly where matched edges carry different types. -/

namespace FogNetwork

def Context.deliveriesUntil (before after : Context) : List (ActuatorId × Tuple) :=
  (after.agenda.since before.agenda).filterMap (·.payload.delivery?)

/-- In some management round, a relay of the scenario executes a tuple at a module that it
hosts. -/
structure Scenario.Executes (scenario : Scenario) (tuple : Tuple) (before after : Context) :
    Prop where
  work : ∃ id relay begun rest working next,
    scenario.orchestrator.relay? id = some relay ∧ relay.hosts tuple.destination = true ∧
      begun.halted = false ∧ Relay.Serving relay begun (tuple :: rest) before working ∧
      (working.execute tuple).Ends before next after

namespace Scenario

variable {scenario : Scenario} {application : Application} {tuple : Tuple}
variable {before after : Context}

theorem Executes.deliveries (executes : scenario.Executes tuple before after)
    {actuators : SortedMap ActuatorId Actuator} {pending : List Event}
    (briefed : Briefed (some (Orchestrator.subscribeActuators actuators application).value)
      scenario.orchestrator.devices pending)
    (plain : ∀ spec ∈ application.modules, spec.subscriptions = []) :
    (before.deliveriesUntil after).Perm
      (Orchestrator.deliveriesMade actuators application tuple) := by
  obtain ⟨id, relay, begun, rest, working, next, registered, hosts, running, serving, ended⟩ :=
    executes.work
  obtain ⟨device, known, own⟩ := Option.bind_eq_some_iff.mp registered
  cases device with
  | recorder recorder => cases own
  | relay _ =>
      cases own
      obtain ⟨spec, hosted⟩ := Option.isSome_iff_exists.mp hosts
      obtain ⟨runs, _, same, module⟩ := (briefed.relays id relay known).hosted _ _ hosted
      cases same
      have subscribed := Orchestrator.subscriptions_of_plain actuators plain module
      obtain ⟨done, _, deeds⟩ := serving
      obtain ⟨halted, setup⟩ := deeds.keeps
      have knows := (Relay.application_of_setup setup).trans runs
      have schedules := Relay.execute_schedules (halted.trans running) knows ended
      have edges : (Orchestrator.subscribeActuators actuators application).value.edgesFrom
          tuple.destination = application.edgesFrom tuple.destination := by
        rw [Application.edgesFrom, Orchestrator.subscribeActuators_edges]
        rfl
      rw [edges, Relay.deliveriesAlong_eq_of_setup setup,
        Orchestrator.deliveriesAlong_eq_deliveriesMade actuators hosted subscribed] at schedules
      exact schedules

theorem executes_of_manage {id : DeviceId} {relay next : Relay} {context later : Context}
    (registered : scenario.orchestrator.relay? id = some relay) (running : context.halted = false)
    (ended : relay.manage.Ends context next later)
    (taken : tuple ∈ (round relay.budget relay.north).1)
    (hosts : relay.hosts tuple.destination = true) :
    ∃ before after, scenario.Executes tuple before after := by
  obtain ⟨rest, before, working, after, executed, serving, ended⟩ :=
    Relay.manage_executes running ended tuple taken
  exact ⟨before, after, ⟨id, relay, context, rest, working, executed, registered, hosts, running,
    serving, ended⟩⟩

end Scenario

/-- An execution delivers by tuple type, and this is what the edges call for exactly where matched
edges carry different types. If they do so everywhere, whatever is delivered in a run matches. -/
theorem Blueprint.deliveries_follow_edges {blueprint : Blueprint} {mapped : MappedApplication}
    {built scenario : Scenario} {calls : List Scenario.Call} (unused : blueprint.Unused)
    (submits : blueprint.mapped = some mapped)
    (plain : blueprint.Plain) (builds : blueprint.build.outcome = .ok (.ok built))
    (performed : (Scenario.Call.performAll calls built).outcome = .ok scenario) :
    let actuators := scenario.orchestrator.actuators
    (∀ tuple before after, scenario.Executes tuple before after →
        (before.deliveriesUntil after).Perm
            (Orchestrator.deliveriesMade actuators mapped.application tuple) ∧
          ((before.deliveriesUntil after).Perm
              (Orchestrator.deliveriesDue actuators mapped.application tuple) ↔
            Orchestrator.Separate actuators mapped.application tuple.destination)) ∧
      ((∀ name, Orchestrator.Separate actuators mapped.application name) →
        ∃ started turns, built.Begun started turns scenario ∧
          ∀ event ∈ started.scheduled turns, ∀ actuator tuple,
            event.payload = .delivery actuator tuple →
              actuator ∈ Orchestrator.matching actuators tuple.destination) := by
  obtain ⟨started, turns, begun⟩ := begun_of_calls builds performed
  obtain ⟨reached, _, time, orchestrator⟩ := begun_cases builds begun
  obtain ⟨briefed, follow, _⟩ := briefed_of_begun unused builds begun
  rw [build_holds builds, submits] at briefed follow
  have matching : Orchestrator.matching scenario.orchestrator.actuators =
      Orchestrator.matching built.orchestrator.actuators := by
    rw [reached.matching_eq, orchestrator]
  constructor
  · intro tuple before after executes
    have made : (before.deliveriesUntil after).Perm (Orchestrator.deliveriesMade
        scenario.orchestrator.actuators mapped.application tuple) := by
      rw [Orchestrator.deliveriesMade, matching]
      exact executes.deliveries briefed (plain mapped submits)
    refine ⟨made, ?_⟩
    rw [← Orchestrator.deliveriesMade_perm_iff]
    exact ⟨made.symm.trans, made.trans⟩
  · intro separate
    refine ⟨started, turns, begun, ?_⟩
    intro event member actuator tuple delivers
    have follows := follow event member
    rw [delivers] at follows
    obtain ⟨edge, leaves, other, leavesToo, same, toward, matched⟩ :=
      follows.delivered (plain mapped submits)
    rw [← matching] at matched
    -- Subscriptions forget their edge, but only one edge of this type has the actuator as a match.
    have one : edge = other := (separate tuple.source).eq_of_match leaves leavesToo same matched
    rwa [← toward, one]

namespace Demo

def panelApplication (light motor : String) : Application :=
  { Application.named "panel" with
    modules := [⟨"control", 10, []⟩]
    edges := [{ Edge.between "TICK" "control" "TICK" .sensor with cpuLength := 10, dataSize := 5 },
      { Edge.between "control" "LED" light .actuator with dataSize := 1 },
      { Edge.between "control" "MOTOR" motor .actuator with dataSize := 1 }] }

def panel (light motor : String) : Blueprint :=
  { Blueprint.empty with
    config := ⟨50, 45⟩
    relays := [.named ⟨0⟩ "node"]
    sensors := [(Sensor.named ⟨0⟩ "tick" "TICK" "panel").every 20]
    actuators := [.named ⟨0⟩ "led" "LED", .named ⟨1⟩ "motor" "MOTOR"]
    mapped := some ⟨panelApplication light motor, Mapping.empty.add "node" "control", 0⟩ }

theorem panel_unused (light motor : String) : (panel light motor).Unused := by
  constructor
  · exact nofun
  · intro relay member
    obtain rfl := List.mem_singleton.mp member
    exact ⟨rfl, rfl, rfl, rfl, rfl⟩

theorem panel_plain (light motor : String) : (panel light motor).Plain := by
  rintro mapped ⟨⟩ spec member
  obtain rfl := List.mem_singleton.mp member
  rfl

theorem panel_ready : ∃ built scenario relay next later tuple,
    (panel "LIGHT" "TURN").build.outcome = .ok (.ok built) ∧
      (Scenario.Call.performAll [.runSteps 8] built).outcome = .ok scenario ∧
      scenario.simulation.context.halted = false ∧
      scenario.orchestrator.relay? ⟨0⟩ = some relay ∧
      relay.manage.Ends scenario.simulation.context next later ∧
      tuple ∈ (round relay.budget relay.north).1 ∧ tuple.destination = "control" ∧
      relay.hosts "control" = true := by
  have ready : ((panel "LIGHT" "TURN").after? [.runSteps 8]).any (fun scenario =>
      !scenario.simulation.context.halted &&
        (scenario.orchestrator.relay? ⟨0⟩).any fun relay =>
          (relay.manage.run scenario.simulation.context).outcome.isOk &&
            (relay.hosts "control" &&
              (round relay.budget relay.north).1.any (·.destination == "control"))) = true := by
    decide +kernel
  obtain ⟨scenario, left, ready⟩ := (Option.any_eq_true _ _).mp ready
  obtain ⟨running, ready⟩ := Bool.and_eq_true_iff.mp ready
  obtain ⟨relay, registered, ready⟩ := (Option.any_eq_true _ _).mp ready
  obtain ⟨managed, ready⟩ := Bool.and_eq_true_iff.mp ready
  obtain ⟨hosts, ready⟩ := Bool.and_eq_true_iff.mp ready
  obtain ⟨tuple, taken, control⟩ := List.any_eq_true.mp ready
  obtain ⟨built, builds, performed⟩ := Blueprint.after?_eq_some left
  cases ended : (relay.manage.run scenario.simulation.context).outcome with
  | error fault =>
      rw [ended] at managed
      cases managed
  | ok reached =>
      exact ⟨built, scenario, relay, reached.1, reached.2, tuple, builds, performed,
        by simpa using running, registered, ended, taken, by simpa using control, hosts⟩

theorem panel_separate (actuators : SortedMap ActuatorId Actuator) (name : String) :
    Orchestrator.Separate actuators (panelApplication "LIGHT" "TURN") name := by
  by_cases own : name = "control"
  · subst own
    exact .cons (by simp [Edge.between]) (.cons nofun .nil)
  · have none : (panelApplication "LIGHT" "TURN").actuatorEdges name = [] := by
      simp [Application.actuatorEdges, Application.edgesFrom, panelApplication, Edge.between,
        Ne.symm own]
    rw [Orchestrator.Separate, none]
    exact .nil

end Demo

theorem Blueprint.deliveries_follow_edges_panel : ∃ built scenario tuple before after,
    (Demo.panel "LIGHT" "TURN").build.outcome = .ok (.ok built) ∧
      (Scenario.Call.performAll [.runSteps 8] built).outcome = .ok scenario ∧
      scenario.Executes tuple before after ∧ tuple.destination = "control" ∧
      (before.deliveriesUntil after).Perm (Orchestrator.deliveriesDue
        scenario.orchestrator.actuators (Demo.panelApplication "LIGHT" "TURN") tuple) ∧
      ∃ started turns, built.Begun started turns scenario ∧
        ∀ event ∈ started.scheduled turns, ∀ actuator tuple,
          event.payload = .delivery actuator tuple →
            actuator ∈ Orchestrator.matching scenario.orchestrator.actuators
              tuple.destination := by
  obtain ⟨built, scenario, relay, next, later, tuple, builds, performed, running, registered,
    ended, taken, control, hosts⟩ := Demo.panel_ready
  obtain ⟨before, after, executes⟩ := Scenario.executes_of_manage registered running ended taken
    (by rwa [control])
  obtain ⟨follows, straight⟩ := deliveries_follow_edges (Demo.panel_unused "LIGHT" "TURN") rfl
    (Demo.panel_plain "LIGHT" "TURN") builds performed
  have separate := Demo.panel_separate scenario.orchestrator.actuators
  exact ⟨built, scenario, tuple, before, after, builds, performed, executes, control,
    (follows tuple before after executes).2.mpr (separate _), straight separate⟩

namespace Demo

/-- Where the light and the motor have one type in common, one execution has four deliveries made
instead of two, and half of them go astray. -/
theorem panel_crossed : ∃ built scenario,
    (panel "OUT" "OUT").build.outcome = .ok (.ok built) ∧
      (Scenario.Call.performAll [.runSteps 9] built).outcome = .ok scenario ∧
      scenario.orchestrator.devices.total (·.executed) = 1 ∧
      scenario.simulation.context.deliveries.map (fun delivery =>
        (delivery.1.number, delivery.2.destination)) =
          [(0, "LED"), (1, "LED"), (0, "MOTOR"), (1, "MOTOR")] ∧
      ∃ event ∈ scenario.simulation.context.agenda.pending, ∃ actuator tuple,
        event.payload = .delivery actuator tuple ∧
          actuator ∉ Orchestrator.matching scenario.orchestrator.actuators tuple.destination := by
  have crossed : ((panel "OUT" "OUT").after? [.runSteps 9]).any (fun scenario =>
      decide (scenario.orchestrator.devices.total (·.executed) = 1 ∧
          scenario.simulation.context.deliveries.map (fun delivery =>
            (delivery.1.number, delivery.2.destination)) =
              [(0, "LED"), (1, "LED"), (0, "MOTOR"), (1, "MOTOR")]) &&
        scenario.simulation.context.agenda.pending.any fun event =>
          event.payload.delivery?.any fun delivery => !decide (delivery.1 ∈
            Orchestrator.matching scenario.orchestrator.actuators delivery.2.destination)) =
        true := by
    decide +kernel
  obtain ⟨scenario, left, crossed⟩ := (Option.any_eq_true _ _).mp crossed
  obtain ⟨counts, stray⟩ := Bool.and_eq_true_iff.mp crossed
  obtain ⟨executed, deliveries⟩ := of_decide_eq_true counts
  obtain ⟨event, pending, stray⟩ := List.any_eq_true.mp stray
  obtain ⟨built, builds, performed⟩ := Blueprint.after?_eq_some left
  refine ⟨built, scenario, builds, performed, executed, deliveries, event, pending, ?_⟩
  obtain ⟨delivery, found, stray⟩ := (Option.any_eq_true _ _).mp stray
  obtain ⟨tuple, delivers, same⟩ := Payload.delivery?_eq_some found
  refine ⟨delivery.1, tuple, delivers, ?_⟩
  rw [same] at stray
  simpa using stray

end Demo

end FogNetwork
