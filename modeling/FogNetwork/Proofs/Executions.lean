import FogNetwork.Proofs.Conservation

/-! The work of a run: what waits, what was executed, and what the measurements say of both. -/

namespace FogNetwork

theorem Bench.Accounts.started {bench : Bench} {waiting rest moved : Multiset Tuple}
    {executed : Nat} (accounts : bench.Accounts waiting rest moved executed) {tuple : Tuple}
    {others : List Tuple} (next : bench.taken = tuple :: others) :
    ∃ start, bench.context.timings.started.get? tuple.id = some start := by
  apply SortedMap.mem_keys_iff.mp
  rw [← Multiset.mem_coe, accounts.work.started, next]
  simp

namespace Relay

variable {relay : Relay} {context : Context}

theorem manage_expected (running : context.halted = false)
    (started : ∀ tuple rest between working,
      Serving relay context (tuple :: rest) between working →
        ∃ start, between.timings.started.get? tuple.id = some start) :
    ∀ notice ∈ (relay.manage.run context).notices, notice.Expected := by
  intro notice reported
  rcases Act.mem_notices_bind.mp reported with early | ⟨armed, after, rearmed, late⟩
  · exact relay.rearm_expressible.notices_allowed early
  · obtain ⟨budget, north, begins⟩ := Serving.begin running rearmed
    rcases Act.mem_notices_bind.mp late with looking | ⟨_, _, looked, serving⟩
    · cases looking
    · obtain ⟨rfl, rfl⟩ := Act.ends_now_iff.mp looked
      rw [serve, budget, north] at serving
      refine Act.foldlM_notices (motive := Serving relay context)
        (fun _ _ _ _ _ _ serving ended => serving.step running ended) ?_ begins notice serving
      intro tuple rest between working serving notice reported
      obtain ⟨start, found⟩ := started tuple rest between working serving
      rw [execute_eq, Act.mem_notices_bind, Act.endExecution_notices found] at reported
      rcases reported with ending | ⟨_, _, _, concluding⟩
      · cases ending
      · exact (conclude_expressible _ _).notices_allowed concluding

end Relay

namespace Orchestrator

variable {orchestrator : Orchestrator} {begun : Context} {rest moved : Multiset Tuple}

theorem Accounts.deliver_expected {id : DeviceId} (running : begun.halted = false)
    (accounts : orchestrator.Accounts begun rest moved) :
    ∀ notice ∈ ((orchestrator.deliver id .manageResources).run begun).notices,
      notice.Expected := by
  intro notice reported
  unfold deliver at reported
  split at reported
  · have quiet : Expressible Notice.Expected (do
        Act.note (.unknownDevice id .manageResources)
        return orchestrator) := .sequence (.report (by rintro _ ⟨⟩)) fun _ => .result _
    exact quiet.notices_allowed reported
  next target known =>
    rcases Act.mem_notices_bind.mp reported with reacting | ⟨_, _, _, returning⟩
    · cases target with
      | recorder recorder =>
          have quiet : Expressible Notice.Expected
              (Device.react .manageResources (.recorder recorder)) :=
            .change (.sequence .now fun _ => .result _) _
          exact quiet.notices_allowed reacting
      | relay relay =>
          rw [show Device.react .manageResources (.relay relay) =
            relay.manage >>= fun next => pure (.relay next) from map_eq_pure_bind _ _] at reacting
          rcases Act.mem_notices_bind.mp reacting with serving | ⟨_, _, _, returning⟩
          · rw [← zero_add rest, ← Multiset.coe_nil] at accounts
            obtain ⟨waiting, parked, executed, bench, _⟩ := accounts.bench known
            refine relay.manage_expected running ?_ notice serving
            rintro tuple others between working ⟨done, all, deeds⟩
            exact (deeds.accounts bench).started rfl
          · cases returning
    · cases returning

theorem Accounts.handle_expected {event : Event} (running : begun.halted = false)
    (accounts : orchestrator.Accounts begun rest moved) :
    ∀ notice ∈ ((orchestrator.handle event).run begun).notices, notice.Expected := by
  rcases Classical.em (∃ id, event.payload = .device id .manageResources) with
    ⟨id, managing⟩ | quiet
  · intro notice reported
    rcases Act.mem_notices_bind.mp reported with looking | ⟨_, _, looked, reported⟩
    · cases looking
    · obtain ⟨rfl, rfl⟩ := Act.ends_now_iff.mp looked
      rcases Act.mem_notices_bind.mp reported with dispatching | ⟨_, _, dispatched, reported⟩
      · rw [List.mem_singleton.mp dispatching]
        rintro _ ⟨⟩
      · cases Act.ends_note_iff.mp dispatched
        rw [managing] at reported
        exact accounts.deliver_expected running notice reported
  · intro notice reported
    exact (orchestrator.handle_expected fun id managing =>
      quiet ⟨id, managing⟩).notices_allowed reported

end Orchestrator

theorem Scenario.Accounted.step_expected {scenario : Scenario} {turns : List Turn}
    (accounted : Accounted turns scenario) :
    ∀ notice ∈ (scenario.simulation.step Orchestrator.handle scenario.orchestrator).notices,
      notice.Expected := by
  intro notice reported
  rcases Simulation.step_notices reported with
    ⟨_, _, rfl⟩ | ⟨event, agenda, running, taken, reacting⟩
  · exact nofun
  · have dispatched : FogNetwork.Accounts
        { scenario.simulation.context with agenda := agenda, now := event.time } _ _ _ _ :=
      (accounted.accounts running).dispatch (Agenda.next?_eq_some taken).1 rfl
    rw [add_left_comm] at dispatched
    exact Orchestrator.Accounts.handle_expected (by exact running) dispatched notice reacting

/-- In every state that a scenario is left in, over or not, the measurements agree with the
queues of the relays and with what the relays have executed. -/
theorem Blueprint.work_accounted {blueprint : Blueprint} {built scenario : Scenario}
    {calls : List Scenario.Call} (unused : blueprint.Unused)
    (builds : blueprint.build.outcome = .ok (.ok built))
    (performed : (Scenario.Call.performAll calls built).outcome = .ok scenario) :
    let context := scenario.simulation.context
    let devices := scenario.orchestrator.devices
    let waiting := devices.values.flatMap Device.waiting
    (∀ name, (context.usage.tally name).received =
        (context.usage.tally name).processed + waiting.countP (·.destination = name)) ∧
      context.timings.started.keys.Perm (waiting.map (·.id)) ∧
      context.timings.executionsInProgress = waiting.length ∧
      (∀ notice ∈ (scenario.simulation.step Orchestrator.handle scenario.orchestrator).notices,
        ∀ tuple, notice ≠ .endWithoutStart tuple) ∧
      context.timings.tupleTypes.total (·.count) = devices.total (·.executed) ∧
      context.usage.modules.total (·.processed) = devices.total (·.executed) := by
  obtain ⟨started, turns, begun⟩ := begun_of_calls builds performed
  have accounted := accounted_of_begun unused builds begun
  have work := accounted.work
  rw [SortedMap.total_coe] at work
  have starts := Multiset.coe_eq_coe.mp (work.started.trans (Multiset.map_coe _ _))
  refine ⟨?_, starts, ?_, accounted.step_expected, work.samples, work.processed⟩
  · intro name
    rw [work.received name, Multiset.coe_countP]
  · have length := starts.length_eq
    rw [List.length_map] at length
    rw [← length, SortedMap.keys, List.length_map]
    rfl

theorem Blueprint.work_accounted_demo : ∃ network built scenario,
    Demo.blueprint ⟨50, 400⟩ .keeping = .ok network ∧ network.Unused ∧
      network.build.outcome = .ok (.ok built) ∧
      (Scenario.Call.performAll [.step, .runSteps 60] built).outcome = .ok scenario ∧
      scenario.simulation.context.timings.executionsInProgress =
        (scenario.orchestrator.devices.values.flatMap Device.waiting).length ∧
      scenario.simulation.context.usage.modules.total (·.processed) =
        scenario.orchestrator.devices.total (·.executed) := by
  obtain ⟨network, built, scenario, made, builds, performed, _⟩ := Demo.blueprint_busy
  have unused := Demo.blueprint_unused made
  obtain ⟨_, _, inProgress, _, _, processed⟩ := work_accounted unused builds performed
  exact ⟨network, built, scenario, made, unused, builds, performed, inProgress, processed⟩

end FogNetwork
