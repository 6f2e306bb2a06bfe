import FogNetwork.Proofs.Timekeeping
import FogNetwork.Proofs.Ways
import FogNetwork.Proofs.Whereabouts

/-! Where tuples come from. Every tuple that is on its way or waits for its execution descends from
a tuple that a sensor emitted, by executions one after another. -/

namespace FogNetwork

structure Turn.Emits (turn : Turn) (application : Application) (sensor : Sensor) (edge : Edge) :
    Prop where
  sender : ∃ id, turn.event.payload = .transmit id ∧
    turn.before.orchestrator.sensors.get? id = some sensor
  feeds : application.sensorEdge? sensor.tupleType = some edge
  issued : turn.before.simulation.context.timings.nextTuple <
    turn.after.simulation.context.timings.nextTuple
  sends : Tuple.emitted turn.before.simulation.context.timings.nextTuple application.id edge ∈
    turn.after.travelling

structure Turn.Derives (turn : Turn) (application : Application) (parent : Tuple) (edge : Edge)
    (id : Nat) : Prop where
  executed : parent ∈ turn.before.orchestrator.executes turn.event.payload
  leaves : edge ∈ application.edgesFrom parent.destination
  outward : edge.kind ≠ .sensor
  issued : turn.before.simulation.context.timings.nextTuple ≤ id ∧
    id < turn.after.simulation.context.timings.nextTuple

/-- A tuple came up in these turns, along an edge. It and those it descends from went through some
passages before, in this order. -/
inductive Lineage (application : Application) :
    List Turn → Edge → Tuple → List Passage → Prop
  | emitted {turns : List Turn} {turn : Turn} {sensor : Sensor} {edge : Edge}
      (emits : turn.Emits application sensor edge) :
      Lineage application (turns ++ [turn]) edge
        (Tuple.emitted turn.before.simulation.context.timings.nextTuple application.id edge)
        [.emission sensor.tupleType]
  | derived {turns : List Turn} {turn : Turn} {before edge : Edge} {parent : Tuple} {id : Nat}
      {passages : List Passage} (earlier : Lineage application turns before parent passages)
      (derives : turn.Derives application parent edge id) :
      Lineage application (turns ++ [turn]) edge (Tuple.derived id parent edge)
        (passages ++ [.execution parent.destination])
  | later {turns : List Turn} {turn : Turn} {edge : Edge} {tuple : Tuple}
      {passages : List Passage} (earlier : Lineage application turns edge tuple passages) :
      Lineage application (turns ++ [turn]) edge tuple passages

namespace Lineage

variable {application : Application} {turns : List Turn} {edge : Edge} {tuple : Tuple}
variable {passages : List Passage}

theorem along (lineage : Lineage application turns edge tuple passages) :
    tuple.source = edge.source ∧ tuple.destination = edge.destination ∧
      tuple.tupleType = edge.tupleType := by
  induction lineage with
  | emitted | derived => exact ⟨rfl, rfl, rfl⟩
  | later _ ih => exact ih

theorem way (lineage : Lineage application turns edge tuple passages) :
    application.Way passages edge := by
  induction lineage with
  | emitted emits => exact .sensor emits.feeds
  | derived earlier derives ih =>
      have leaves := derives.leaves
      rw [earlier.along.2.1] at leaves ⊢
      exact .onward ih leaves derives.outward
  | later _ ih => exact ih

theorem rooted (lineage : Lineage application turns edge tuple passages) :
    ∃ turn ∈ turns, ∃ sensor first, turn.Emits application sensor first ∧
      turn.before.simulation.context.timings.nextTuple = tuple.root ∧
      passages.head? = some (.emission sensor.tupleType) := by
  induction lineage with
  | @emitted turns turn sensor edge emits => exact ⟨turn, by simp, sensor, edge, emits, rfl, rfl⟩
  | derived _ _ ih =>
      obtain ⟨turn, member, sensor, first, emits, root, head⟩ := ih
      exact ⟨turn, by simp [member], sensor, first, emits, root, by simp [head]⟩
  | later _ ih =>
      obtain ⟨turn, member, sensor, first, emits, root, head⟩ := ih
      exact ⟨turn, by simp [member], sensor, first, emits, root, head⟩

theorem forall_passages {holds : Passage → Prop}
    (emissions : ∀ turn ∈ turns, ∀ sensor edge, turn.Emits application sensor edge →
      holds (.emission sensor.tupleType))
    (executions : ∀ turn ∈ turns, ∀ parent ∈
      turn.before.orchestrator.executes turn.event.payload, holds (.execution parent.destination))
    (lineage : Lineage application turns edge tuple passages) :
    ∀ passage ∈ passages, holds passage := by
  induction lineage with
  | @emitted turns turn sensor edge emits =>
      intro passage member
      obtain rfl := List.mem_singleton.mp member
      exact emissions turn (by simp) sensor edge emits
  | @derived turns turn _ _ parent _ _ _ derives ih =>
      intro passage member
      rcases List.mem_append.mp member with old | new
      · exact ih (fun turn member => emissions turn (by simp [member]))
          (fun turn member => executions turn (by simp [member])) passage old
      · obtain rfl := List.mem_singleton.mp new
        exact executions turn (by simp) parent derives.executed
  | later _ ih =>
      exact ih (fun turn member => emissions turn (by simp [member]))
        fun turn member => executions turn (by simp [member])

end Lineage

def Bench.All (known : Tuple → Prop) (bench : Bench) : Prop :=
  (∀ tuple ∈ bench.context.carried, known tuple) ∧
    ∀ tuple ∈ bench.relay.north ++ bench.taken ++ bench.hand ++ bench.done, known tuple

theorem Context.Enters.all_carried {known : Tuple → Prop} {before after : Context} {event : Event}
    (enters : before.Enters event after) (own : ∀ tuple ∈ event.payload.carried?, known tuple)
    (old : ∀ tuple ∈ before.carried, known tuple) : ∀ tuple ∈ after.carried, known tuple := by
  intro tuple member
  rw [enters.carried, Multiset.mem_add] at member
  rcases member with new | before
  · exact own tuple (by simpa using new)
  · exact old tuple before

theorem Context.Asks.all_carried {known : Tuple → Prop} {held : Option Application}
    {before after : Context} (asks : before.Asks (Context.CallsFor held) after)
    (old : ∀ tuple ∈ before.carried, known tuple) : ∀ tuple ∈ after.carried, known tuple := by
  induction asks with
  | refl => exact old
  | tail _ asked ih =>
      obtain ⟨event, enters, calls⟩ := asked
      refine enters.all_carried ?_ ih
      simp [calls.calls.isCall.1]

namespace Relay

variable {before after : Bench} {known : Tuple → Prop}

theorem Deed.done_subset (deed : Deed before after) : before.done ⊆ after.done := by
  cases deed with
  | execute => simp
  | _ => exact fun _ member => member

theorem Deed.nextTuple_le (deed : Deed before after) :
    before.context.timings.nextTuple ≤ after.context.timings.nextTuple := by
  cases deed with
  | forward _ _ _ _ _ sent => rw [sent.timings]
  | deliver _ _ _ _ _ _ _ _ sent => rw [sent.timings]
  | rearm _ _ asked => rw [asked.timings]
  | derive => exact Nat.le_succ _
  | execute => exact (Timings.endExecution_keeps _ _ _ _).1.ge
  | @pass tuple application _ _ =>
      obtain ⟨loops, changed⟩ := before.context.timings.passModule_changesLoops
        tuple.destination tuple.root before.context.now application.loops
      dsimp only
      rw [changed]
  | queue | park | take | charge => exact Nat.le_refl _

theorem Deed.all (deed : Deed before after) (all : before.All known)
    (derived : ∀ parent ∈ before.done, ∀ application edge,
      before.relay.application = some application →
      edge ∈ application.edgesFrom parent.destination → edge.kind ≠ .sensor →
      before.context.timings.nextTuple < after.context.timings.nextTuple →
      known (Tuple.derived before.context.timings.nextTuple parent edge)) : after.All known := by
  obtain ⟨carried, own⟩ := all
  cases deed with
  | queue held hosted =>
      refine ⟨carried, fun tuple member => own tuple ?_⟩
      simp only [held, List.mem_append, List.mem_singleton, List.append_nil] at member ⊢
      tauto
  | park held =>
      refine ⟨carried, fun tuple member => own tuple ?_⟩
      simp only [List.mem_append, List.append_nil] at member ⊢
      tauto
  | forward held _ _ _ _ sent | deliver held _ _ _ _ _ _ _ sent =>
      constructor
      · refine sent.all_carried ?_ carried
        rintro tuple ⟨⟩
        exact own _ (by simp [held])
      · intro tuple member
        refine own tuple ?_
        simp only [List.mem_append, List.append_nil] at member ⊢
        tauto
  | @derive parent application edge free executed known leaves outward =>
      refine ⟨carried, fun tuple member => ?_⟩
      simp only [List.mem_append, List.mem_singleton] at member
      rcases member with ((queued | taken) | rfl) | done
      · exact own tuple (by simp [queued])
      · exact own tuple (by simp [taken])
      · exact derived parent executed application edge known leaves outward (Nat.lt_succ_self _)
      · exact own tuple (by simp [done])
  | execute free next =>
      refine ⟨carried, fun tuple member => own tuple ?_⟩
      simp only [next, List.mem_append, List.mem_cons, List.not_mem_nil, or_false] at member ⊢
      tauto
  | take idle =>
      refine ⟨carried, fun tuple member => own tuple ?_⟩
      rw [← round_append before.relay.budget before.relay.north]
      simp only [List.mem_append] at member ⊢
      tauto
  | rearm _ _ asked =>
      refine ⟨asked.all_carried ?_ carried, own⟩
      simp [Payload.carried?]
  | pass | charge => exact ⟨carried, own⟩

theorem Deeds.nextTuple_le (deeds : Deeds before after) :
    before.context.timings.nextTuple ≤ after.context.timings.nextTuple := by
  induction deeds with
  | refl => exact Nat.le_refl _
  | tail _ deed ih => exact ih.trans deed.nextTuple_le

theorem Deeds.all (deeds : Deeds before after) (all : before.All known)
    (derived : ∀ parent ∈ after.done, ∀ application edge id,
      before.relay.application = some application →
      edge ∈ application.edgesFrom parent.destination → edge.kind ≠ .sensor →
      before.context.timings.nextTuple ≤ id → id < after.context.timings.nextTuple →
      known (Tuple.derived id parent edge)) : after.All known := by
  induction deeds with
  | refl => exact all
  | @tail middle after earlier deed ih =>
      have kept : Deeds before middle := earlier
      have issued := deed.nextTuple_le
      have done := deed.done_subset
      have same := application_of_setup kept.keeps.2
      refine deed.all (ih ?_) ?_
      · intro parent executed application edge id knows leaves outward low high
        exact derived parent (done executed) application edge id knows leaves outward low
          (high.trans_le issued)
      · intro parent executed application edge knows leaves outward high
        rw [same] at knows
        exact derived parent (done executed) application edge _ knows leaves outward
          kept.nextTuple_le high

end Relay

theorem Device.Reaction.all {known : Tuple → Prop} {begun reacted : Context}
    {device next : Device} {event : DeviceEvent} {application : Application}
    (reaction : Device.Reaction begun device event next reacted)
    (runs : ∀ relay, device = .relay relay → relay.Runs (some application))
    (own : ∀ tuple, event = .tupleArrival tuple → known tuple)
    (carried : ∀ tuple ∈ begun.carried, known tuple)
    (waiting : ∀ tuple ∈ device.waiting, known tuple)
    (derived : ∀ relay, device = .relay relay → event = .manageResources →
      ∀ parent ∈ (round relay.budget relay.north).1, ∀ edge id,
      edge ∈ application.edgesFrom parent.destination → edge.kind ≠ .sensor →
      begun.timings.nextTuple ≤ id → id < reacted.timings.nextTuple →
      known (Tuple.derived id parent edge)) :
    (∀ tuple ∈ reacted.carried, known tuple) ∧ ∀ tuple ∈ next.waiting, known tuple := by
  cases reaction with
  | recorder | active | received | launch => exact ⟨carried, waiting⟩
  | @manage relay next _ deeds =>
      have start : Bench.All known ⟨begun, relay, [], [], []⟩ :=
        ⟨carried, fun tuple queued =>
          waiting tuple (show tuple ∈ relay.north by simpa using queued)⟩
      obtain ⟨sent, left⟩ := deeds.all start fun parent executed other edge id knows => by
        obtain ⟨⟩ := (runs relay rfl).application other knows
        exact derived relay rfl rfl parent executed edge id
      exact ⟨sent, fun tuple queued => left tuple (by simp [show tuple ∈ next.north from queued])⟩
  | @arrival relay next tuple _ deeds =>
      have start : Bench.All known ⟨begun, relay, [], [tuple], []⟩ := by
        refine ⟨carried, fun other member => ?_⟩
        simp only [List.append_nil, List.mem_append, List.mem_singleton] at member
        rcases member with queued | rfl
        · exact waiting other queued
        · exact own other rfl
      obtain ⟨sent, left⟩ := deeds.all start fun _ executed => nomatch executed
      exact ⟨sent, fun tuple queued => left tuple (by simp [show tuple ∈ next.north from queued])⟩

theorem Reaction.all {known : Tuple → Prop} {orchestrator next : Orchestrator}
    {begun reacted : Context} {payload : Payload} {application : Application}
    (running : begun.halted = false)
    (reaction : Reaction orchestrator begun payload next reacted)
    (held : orchestrator.application? = some application)
    (runs : ∀ id relay, orchestrator.devices.get? id = some (.relay relay) →
      relay.Runs (some application))
    (own : ∀ tuple ∈ payload.carried?, known tuple) (carried : ∀ tuple ∈ begun.carried, known tuple)
    (waiting : orchestrator.devices.All fun device => ∀ tuple ∈ device.waiting, known tuple)
    (emitted : ∀ sensor edge,
      Reaction.Emits application orchestrator begun payload reacted sensor edge →
      known (Tuple.emitted begun.timings.nextTuple application.id edge))
    (derived : ∀ parent ∈ orchestrator.executes payload, ∀ edge id,
      edge ∈ application.edgesFrom parent.destination → edge.kind ≠ .sensor →
      begun.timings.nextTuple ≤ id → id < reacted.timings.nextTuple →
      known (Tuple.derived id parent edge)) :
    (∀ tuple ∈ reacted.carried, known tuple) ∧
      next.devices.All fun device => ∀ tuple ∈ device.waiting, known tuple := by
  cases reaction with
  | launch asks | control asks => exact ⟨asks.all_carried carried, waiting⟩
  | finished | unknownDevice | silent | unknownActuator => exact ⟨carried, waiting⟩
  | stop halts => rcases halts with rfl | rfl <;> exact ⟨carried, waiting⟩
  | @device id event target changed _ found reacts =>
      have executes (relay : Relay) (same : target = .relay relay) :
          orchestrator.executes (.device id .manageResources) =
            (round relay.budget relay.north).1 := by
        simp [Orchestrator.executes, Orchestrator.relay?, found, same, Device.relay?]
      obtain ⟨sent, left⟩ := (Device.react_reaction running reacts).all
        (fun relay same => runs id relay (same ▸ found))
        (fun tuple same => own tuple (by simp [same, Payload.carried?])) carried
        (waiting id target found) (by
          rintro relay same rfl parent executed
          exact derived parent (by rwa [executes relay same]))
      exact ⟨sent, waiting.insert left⟩
  | actuator _ reacts =>
      obtain ⟨_, rfl⟩ := Actuator.receive_ends reacts
      exact ⟨carried, waiting⟩
  | @sensor id sensor changed other _ found holds _ reacts =>
      obtain ⟨⟩ := held.symm.trans holds
      rcases Sensor.transmit_ends running reacts with
        ⟨_, _, rfl⟩ | ⟨edge, usage, time, later, sent, emits, _⟩
      · exact ⟨carried, waiting⟩
      have fresh := emitted sensor edge (emits.shows running found)
      refine ⟨emits.arms.all_carried (by simp [Payload.carried?]) ?_, waiting⟩
      refine emits.sends.all_carried ?_ carried
      rintro tuple ⟨⟩
      exact fresh

theorem Reaction.Emits.turn {application : Application} {before after : Scenario} {event : Event}
    {begun reacted : Context}
    (dispatches : before.simulation.Dispatches Orchestrator.handle before.orchestrator event
      after.simulation after.orchestrator begun reacted) {sensor : Sensor} {edge : Edge}
    (emits : Reaction.Emits application before.orchestrator begun event.payload reacted sensor
      edge) : Turn.Emits ⟨event, before, after⟩ application sensor edge := by
  have issued := emits.issued
  have sends := emits.sends
  have settled : after.simulation.context = reacted := by
    rw [dispatches.context, Context.settled, if_neg (by simp [emits.running])]
  rw [dispatches.begun_timings] at issued sends
  refine ⟨emits.sender, emits.feeds, ?_, ?_⟩
  · rwa [← dispatches.after_timings] at issued
  · rw [Scenario.travelling, settled]
    exact Multiset.mem_coe.mp sends

namespace Scenario

variable {application : Application} {started scenario before after : Scenario}
variable {turns : List Turn} {event : Event} {begun reacted : Context}

def Descended (application : Application) (turns : List Turn) (tuple : Tuple) : Prop :=
  ∃ edge passages, Lineage application turns edge tuple passages

structure Traced (application : Application) (turns : List Turn) (scenario : Scenario) : Prop where
  travelling : ∀ tuple ∈ scenario.travelling, Descended application turns tuple
  waiting : scenario.orchestrator.devices.All fun device =>
    ∀ tuple ∈ device.waiting, Descended application turns tuple

theorem Traced.executed (traced : scenario.Traced application turns) {payload : Payload}
    {tuple : Tuple} (executes : tuple ∈ scenario.orchestrator.executes payload) :
    Descended application turns tuple := by
  unfold Orchestrator.executes at executes
  split at executes
  · split at executes
    next id _ relay found =>
      have waits : tuple ∈ Device.waiting (.relay relay) := by
        change tuple ∈ relay.north
        rw [← Relay.round_append relay.budget relay.north]
        exact List.mem_append_left _ executes
      exact traced.waiting id _ (Orchestrator.relay?_eq_some_iff.mp found) tuple waits
    · cases executes
  · cases executes

theorem Traced.dispatched (traced : before.Traced application turns)
    (dispatches : before.simulation.Dispatches Orchestrator.handle before.orchestrator event
      after.simulation after.orchestrator begun reacted) {tuple : Tuple}
    (carries : event.payload.carried? = some tuple) : Descended application turns tuple := by
  apply traced.travelling
  rw [Scenario.travelling, dispatches.pending]
  exact List.mem_filterMap.mpr ⟨event, by simp, carries⟩

theorem traced_start {orchestrator : Orchestrator}
    (unused : orchestrator.devices.All Device.Unused) {held : Option Application}
    (asks : Context.initial.Asks (Context.CallsFor held) started.simulation.context)
    {time : Option Time} (same : started.orchestrator = { orchestrator with startedAt := time }) :
    started.Traced application [] := by
  constructor
  · intro tuple member
    have none : ∀ tuple ∈ started.simulation.context.carried, False := asks.all_carried nofun
    exact (none tuple (Multiset.mem_coe.mpr member)).elim
  · rw [same]
    intro id device found tuple waits
    have own := unused id device found
    cases device with
    | relay relay =>
        change tuple ∈ relay.north at waits
        rw [own.north] at waits
        cases waits
    | recorder => cases waits

theorem Traced.turn (traced : before.Traced application turns)
    (held : before.orchestrator.application? = some application)
    (runs : ∀ id relay, before.orchestrator.devices.get? id = some (.relay relay) →
      relay.Runs (some application))
    (dispatches : before.simulation.Dispatches Orchestrator.handle before.orchestrator event
      after.simulation after.orchestrator begun reacted) :
    after.Traced application (turns ++ [⟨event, before, after⟩]) := by
  have later (tuple : Tuple) (descended : Descended application turns tuple) :
      Descended application (turns ++ [⟨event, before, after⟩]) tuple := by
    obtain ⟨edge, passages, lineage⟩ := descended
    exact ⟨edge, passages, lineage.later⟩
  have known (tuple : Tuple) (member : tuple ∈ (event :: begun.agenda.pending).filterMap
      (·.payload.carried?)) : Descended application (turns ++ [⟨event, before, after⟩]) tuple := by
    rw [← dispatches.pending] at member
    exact later tuple (traced.travelling tuple member)
  have own : ∀ tuple ∈ event.payload.carried?,
      Descended application (turns ++ [⟨event, before, after⟩]) tuple := by
    intro tuple member
    exact known tuple (List.mem_filterMap.mpr ⟨event, by simp, member⟩)
  have old : ∀ tuple ∈ begun.carried,
      Descended application (turns ++ [⟨event, before, after⟩]) tuple := by
    intro tuple member
    obtain ⟨other, listed, carries⟩ := List.mem_filterMap.mp (Multiset.mem_coe.mp member)
    exact known tuple (List.mem_filterMap.mpr ⟨other, by simp [listed], carries⟩)
  have waiting : before.orchestrator.devices.All fun device => ∀ tuple ∈ device.waiting,
      Descended application (turns ++ [⟨event, before, after⟩]) tuple :=
    fun id device found tuple member => later tuple (traced.waiting id device found tuple member)
  obtain ⟨carried, waiting⟩ := dispatches.reaction.all dispatches.begun_running held runs own old
    waiting (by
      intro sensor edge emits
      rw [dispatches.begun_timings]
      exact ⟨edge, _, .emitted (emits.turn dispatches)⟩)
    (by
      intro parent executed edge id leaves outward low high
      rw [dispatches.begun_timings] at low
      rw [← dispatches.after_timings] at high
      obtain ⟨before, passages, lineage⟩ := traced.executed executed
      exact ⟨edge, _, lineage.derived ⟨executed, leaves, outward, low, high⟩⟩)
  refine ⟨?_, waiting⟩
  intro tuple member
  rw [Scenario.travelling, dispatches.context, Context.settled] at member
  split at member
  · cases member
  · exact carried tuple (Multiset.mem_coe.mpr member)

end Scenario
end FogNetwork
