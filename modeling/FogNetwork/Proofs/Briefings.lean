import FogNetwork.Proofs.Conservation
import FogNetwork.Proofs.Fanout

/-! What relays and pending events know of the held application, in every state of a run: no relay
runs anything else, and every delivery follows an actuator edge and a subscription. -/

namespace FogNetwork

inductive Payload.Follows (held : Option Application) : Payload → Prop
  | call {payload : Payload} (calls : payload.CallsFor held) : Follows held payload
  | arrival {device : DeviceId} {tuple : Tuple} :
      Follows held (.device device (.tupleArrival tuple))
  | delivery {actuator : ActuatorId} {tuple : Tuple} {application : Application} {edge : Edge}
      {spec : ModuleSpec} (holds : held = some application)
      (leaves : edge ∈ application.actuatorEdges tuple.source)
      (toward : edge.destination = tuple.destination) (carries : edge.tupleType = tuple.tupleType)
      (known : application.module? tuple.source = some spec)
      (subscribed : ⟨actuator, tuple.tupleType⟩ ∈ spec.subscriptions) :
      Follows held (.delivery actuator tuple)

structure Relay.Runs (held : Option Application) (relay : Relay) : Prop where
  application : ∀ application, relay.application = some application → held = some application
  hosted : ∀ name spec, relay.hosted.get? name = some spec →
    relay.application = held ∧
      ∃ application, held = some application ∧ application.module? name = some spec

/-- Who is to host a module has heard of the application, or hears of it before. -/
structure Briefed (held : Option Application) (devices : Devices) (pending : List Event) :
    Prop where
  relays : ∀ id relay, devices.get? id = some (.relay relay) → relay.Runs held
  follows : ∀ event ∈ pending, event.payload.Follows held
  announced : ∀ event ∈ pending, ∀ id spec, event.payload = .device id (.launchModule spec) →
    (∀ relay, devices.get? id = some (.relay relay) → relay.application = held) ∨
      ∃ told ∈ pending, told.before event ∧
        ∃ application, held = some application ∧
          told.payload = .device id (.applicationReceived application)

theorem Relay.application_of_setup {relay next : Relay} (same : next.setup = relay.setup) :
    next.application = relay.application := by
  have setup : next.setup.application = relay.setup.application := by rw [same]
  exact setup

theorem Relay.Runs.of_setup {held : Option Application} {relay next : Relay} (runs : relay.Runs held)
    (same : next.setup = relay.setup) : next.Runs held := by
  have runsSetup : relay.setup.Runs held := ⟨runs.application, runs.hosted⟩
  rw [← same] at runsSetup
  exact ⟨runsSetup.application, runsSetup.hosted⟩

theorem Payload.Follows.delivered {application : Application} {actuator : ActuatorId}
    {tuple : Tuple} {actuators : SortedMap ActuatorId Actuator}
    (follows : Payload.Follows
      (some (Orchestrator.subscribeActuators actuators application).value)
      (.delivery actuator tuple))
    (plain : ∀ spec ∈ application.modules, spec.subscriptions = []) :
    ∃ edge ∈ application.actuatorEdges tuple.source,
      ∃ other ∈ application.actuatorEdges tuple.source,
        edge.tupleType = other.tupleType ∧ edge.destination = tuple.destination ∧
          actuator ∈ Orchestrator.matching actuators other.destination := by
  cases follows with
  | call calls => exact calls.elim
  | delivery holds leaves toward carries known subscribed =>
      cases holds
      rw [Orchestrator.subscriptions_of_plain actuators plain known] at subscribed
      obtain ⟨other, leavesToo, listed⟩ := List.mem_flatMap.mp subscribed
      obtain ⟨_, matched, same⟩ := List.mem_map.mp listed
      obtain ⟨rfl, type⟩ := Subscription.mk.inj same
      refine ⟨_, ?_, other, leavesToo, carries.trans type.symm, toward, matched⟩
      rwa [Application.actuatorEdges, Application.edgesFrom,
        Orchestrator.subscribeActuators_edges] at leaves

namespace Briefed

variable {held : Option Application} {devices : Devices} {pending after : List Event} {event : Event}

theorem enter (briefed : Briefed held devices pending) (entered : after.Perm (event :: pending))
    (follows : event.payload.Follows held)
    (announced : ∀ id spec, event.payload = .device id (.launchModule spec) →
      ∃ told ∈ pending, told.before event ∧
        ∃ application, held = some application ∧
          told.payload = .device id (.applicationReceived application)) :
    Briefed held devices after := by
  constructor
  · exact briefed.relays
  · intro other member
    rcases List.mem_cons.mp (entered.subset member) with rfl | old
    · exact follows
    · exact briefed.follows other old
  · intro other member id spec launches
    rcases List.mem_cons.mp (entered.subset member) with rfl | old
    · obtain ⟨told, listed, tells⟩ := announced id spec launches
      exact .inr ⟨told, entered.symm.subset (List.mem_cons_of_mem _ listed), tells⟩
    · refine (briefed.announced other old id spec launches).imp_right ?_
      rintro ⟨told, listed, tells⟩
      exact ⟨told, entered.symm.subset (List.mem_cons_of_mem _ listed), tells⟩

theorem drop (briefed : Briefed held devices (event :: pending))
    (learnt : ∀ id application, event.payload = .device id (.applicationReceived application) →
      ∀ relay, devices.get? id = some (.relay relay) → relay.application = some application) :
    Briefed held devices pending := by
  constructor
  · exact briefed.relays
  · exact fun other member => briefed.follows other (List.mem_cons_of_mem _ member)
  · intro other member id spec launches
    rcases briefed.announced other (List.mem_cons_of_mem _ member) id spec launches with
      knows | ⟨told, listed, earlier, application, holds, tells⟩
    · exact .inl knows
    · rcases List.mem_cons.mp listed with rfl | later
      · rw [holds]
        exact .inl (learnt id application tells)
      · exact .inr ⟨told, later, earlier, application, holds, tells⟩

theorem clear (briefed : Briefed held devices pending) : Briefed held devices [] :=
  ⟨briefed.relays, nofun, nofun⟩

theorem of_unused (held : Option Application) (unused : devices.All Device.Unused) :
    Briefed held devices [] := by
  refine ⟨fun id relay known => ?_, nofun, nofun⟩
  have own : relay.Unused := unused id _ known
  constructor
  · rw [own.application]
    exact nofun
  · rw [own.hosted]
    exact nofun

theorem relay {id : DeviceId} {relay next : Relay} (briefed : Briefed held devices pending)
    (known : devices.get? id = some (.relay relay)) (runs : next.Runs held)
    (remembers : relay.application = held → next.application = held) :
    Briefed held (devices.insert id (.relay next)) pending := by
  constructor
  · intro wanted other found
    rw [SortedMap.get?_insert] at found
    split at found
    · cases found
      exact runs
    · exact briefed.relays wanted other found
  · exact briefed.follows
  · intro event member wanted spec launches
    refine (briefed.announced event member wanted spec launches).imp_left ?_
    intro knows other found
    rw [SortedMap.get?_insert] at found
    split at found
    next same =>
      cases found
      exact remembers (knows relay (same ▸ known))
    · exact knows other found

theorem recorder {id : DeviceId} {next : Recorder} (briefed : Briefed held devices pending) :
    Briefed held (devices.insert id (.recorder next)) pending := by
  have others (wanted : DeviceId) (relay : Relay)
      (found : (devices.insert id (.recorder next)).get? wanted = some (.relay relay)) :
      devices.get? wanted = some (.relay relay) := by
    rw [SortedMap.get?_insert] at found
    split at found
    · cases found
    · exact found
  constructor
  · exact fun wanted relay found => briefed.relays wanted relay (others wanted relay found)
  · exact briefed.follows
  · intro event member wanted spec launches
    exact (briefed.announced event member wanted spec launches).imp_left fun knows relay found =>
      knows relay (others wanted relay found)

theorem knows (briefed : Briefed held devices (event :: pending))
    (first : ∀ other ∈ pending, event.before other) {id : DeviceId} {spec : ModuleSpec}
    (launches : event.payload = .device id (.launchModule spec)) {relay : Relay}
    (known : devices.get? id = some (.relay relay)) : relay.application = held := by
  rcases briefed.announced event (List.mem_cons_self ..) id spec launches with
    knows | ⟨told, listed, earlier, _⟩
  · exact knows relay known
  · rcases List.mem_cons.mp listed with rfl | later
    · exact absurd earlier told.not_before_self
    · exact absurd (Event.before_trans (first told later) earlier) event.not_before_self

end Briefed

namespace Context

variable {held : Option Application} {devices : Devices} {before after : Context}

theorem Asks.briefed (asks : before.Asks (CallsFor held) after) (front : List Event)
    (briefed : Briefed held devices (front ++ before.agenda.pending)) :
    Briefed held devices (front ++ after.agenda.pending) := by
  induction asks with
  | refl => exact briefed
  | @tail between last _ asked ih =>
      obtain ⟨event, enters, calls, announced⟩ := asked
      refine ih.enter ((enters.pending.append_left front).trans List.perm_middle) (.call calls) ?_
      intro id spec launches
      obtain ⟨told, listed, notLater, tells⟩ := announced id spec launches
      refine ⟨told, by simp [listed], ?_, tells⟩
      have older : told.id.number < event.id.number := by
        rw [enters.numbered]
        exact between.agenda.issued told listed
      simp only [Event.before]
      omega

end Context

namespace Relay

variable {held : Option Application} {devices : Devices} {before after : Bench}

theorem Deed.briefed (deed : Deed before after) (runs : before.relay.Runs held)
    (front : List Event) (briefed : Briefed held devices (front ++ before.context.agenda.pending)) :
    Briefed held devices (front ++ after.context.agenda.pending) := by
  cases deed with
  | forward _ _ _ _ _ sent =>
      refine briefed.enter ((sent.pending.append_left front).trans List.perm_middle) .arrival ?_
      rintro _ _ ⟨⟩
  | rearm _ _ asked =>
      refine briefed.enter ((asked.pending.append_left front).trans List.perm_middle)
        (.call trivial) ?_
      rintro _ _ ⟨⟩
  | @deliver parent tuple application edge id actuator usage time context hand born known leaves
      kind target paid reached sent =>
      refine briefed.enter ((sent.pending.append_left front).trans List.perm_middle) ?_ ?_
      on_goal 2 => exact nofun
      have holds := runs.application application known
      have source : edge.source = parent.destination := by
        simpa using (List.mem_filter.mp leaves).2
      unfold targets at target
      split at target
      · cases target
      next spec hosted =>
        obtain ⟨subscription, listed, rfl⟩ := List.mem_map.mp target
        obtain ⟨listed, type⟩ := List.mem_filter.mp listed
        have type : subscription.tupleType = edge.tupleType := by simpa using type
        obtain ⟨_, other, same, own⟩ := runs.hosted _ _ hosted
        obtain rfl : other = application := Option.some.inj (same.symm.trans holds)
        rw [born]
        have leaves : edge ∈ other.actuatorEdges edge.source := by
          rw [source]
          exact List.mem_filter.mpr ⟨leaves, by simp [kind]⟩
        have own : other.module? edge.source = some spec := by rwa [source]
        have subscribed : ⟨subscription.actuator, edge.tupleType⟩ ∈ spec.subscriptions := by
          rwa [← type]
        exact .delivery holds leaves rfl rfl own subscribed
  | queue | park | derive | execute | pass | take | charge => exact briefed

theorem Deeds.briefed (deeds : Deeds before after) (runs : before.relay.Runs held)
    (front : List Event) (briefed : Briefed held devices (front ++ before.context.agenda.pending)) :
    Briefed held devices (front ++ after.context.agenda.pending) := by
  induction deeds with
  | refl => exact briefed
  | tail earlier deed ih =>
      have kept : Deeds before _ := earlier
      exact deed.briefed (runs.of_setup kept.keeps.2) front ih

end Relay

namespace Reaction

variable {held : Option Application} {orchestrator next : Orchestrator} {begun reacted : Context}
variable {payload : Payload}

theorem learns (running : begun.halted = false)
    (reaction : Reaction orchestrator begun payload next reacted) {id : DeviceId}
    {application : Application} (told : payload = .device id (.applicationReceived application))
    {relay : Relay} (known : next.devices.get? id = some (.relay relay)) :
    relay.application = some application := by
  subst told
  cases reaction with
  | unknownDevice unknown =>
      rw [unknown] at known
      cases known
  | device _ reacts =>
      rw [SortedMap.get?_insert_self, Option.some.injEq] at known
      subst known
      cases Device.react_reaction running reacts with
      | received => rfl

theorem briefed (running : begun.halted = false)
    (reaction : Reaction orchestrator begun payload next reacted) {event : Event}
    (own : event.payload = payload) (first : ∀ other ∈ begun.agenda.pending, event.before other)
    (briefed : Briefed orchestrator.application? orchestrator.devices
      (event :: begun.agenda.pending)) :
    Briefed orchestrator.application? next.devices (event :: reacted.agenda.pending) := by
  cases reaction with
  | launch asks | control asks => exact asks.briefed [event] briefed
  | finished | unknownDevice | silent | unknownActuator => exact briefed
  | stop halts => rcases halts with rfl | rfl <;> exact briefed
  | actuator _ reacts =>
      obtain ⟨_, rfl⟩ := Actuator.receive_ends reacts
      exact briefed
  | sensor _ _ _ reacts =>
      rcases Sensor.transmit_ends running reacts with
        ⟨_, _, rfl⟩ | ⟨_, _, _, _, sent, emits, _⟩
      · exact briefed
      · have sends : Briefed orchestrator.application? orchestrator.devices
            (event :: sent.agenda.pending) :=
          briefed.enter ((emits.sends.pending.cons event).trans (.swap ..)) .arrival
            (by rintro _ _ ⟨⟩)
        exact sends.enter ((emits.arms.pending.cons event).trans (.swap ..)) (.call trivial)
          (by rintro _ _ ⟨⟩)
  | @device id deviceEvent target changed _ known reacts =>
      have follows := briefed.follows event (List.mem_cons_self ..)
      rw [own] at follows
      cases Device.react_reaction running reacts with
      | recorder => exact briefed.recorder
      | @active relay application | @received relay application =>
          have runs := briefed.relays id relay known
          cases follows with
          | call calls =>
              have holds : orchestrator.application? = some application := calls
              refine briefed.relay known ⟨?_, ?_⟩ fun _ => holds.symm
              · rintro _ ⟨⟩
                exact holds
              · exact fun name spec found => ⟨holds.symm, (runs.hosted name spec found).2⟩
      | @launch relay spec =>
          have runs := briefed.relays id relay known
          have knows := briefed.knows first own known
          cases follows with
          | call calls =>
              obtain ⟨application, holds, own⟩ := calls
              refine briefed.relay known ⟨runs.application, ?_⟩ fun knows => knows
              intro name other found
              rw [SortedMap.get?_insert] at found
              split at found
              next same =>
                cases found
                exact ⟨knows, application, holds, same ▸ own⟩
              · exact runs.hosted name other found
      | @manage relay next _ deeds | @arrival relay next _ _ deeds =>
          have runs := briefed.relays id relay known
          have kept := deeds.keeps.2
          exact (deeds.briefed runs [event] briefed).relay known (runs.of_setup kept)
            (Relay.application_of_setup kept).trans

theorem matching_eq (reaction : Reaction orchestrator begun payload next reacted) :
    Orchestrator.matching next.actuators = Orchestrator.matching orchestrator.actuators := by
  cases reaction with
  | @actuator _ _ actuator _ _ known reacts =>
      obtain ⟨rfl, _⟩ := Actuator.receive_ends reacts
      obtain ⟨front, back, split, inserted, _⟩ := SortedMap.entries_of_get?_eq_some known
      funext destination
      have type : Actuator.matchesType { actuator with received := actuator.received + 1 }
          destination = actuator.matchesType destination := rfl
      simp only [Orchestrator.matching, SortedMap.values, split, inserted, List.map_append,
        List.map_cons, List.filter_append, List.filter_cons, type]
      by_cases chosen : actuator.matchesType destination = true
      · simp [chosen]
      · simp [chosen]
  | _ => rfl

theorem actuators_contains (reaction : Reaction orchestrator begun payload next reacted)
    (id : ActuatorId) : next.actuators.contains id = orchestrator.actuators.contains id := by
  cases reaction with
  | actuator known _ =>
      rw [SortedMap.contains, SortedMap.get?_insert]
      split
      next same => rw [same, SortedMap.contains, known]; rfl
      · rfl
  | _ => rfl

end Reaction

namespace Scenario

variable {held : Option Application} {started scenario : Scenario} {turns : List Turn}

theorem briefed_turn {before after : Scenario} {event : Event} {begun reacted : Context}
    (briefed : Briefed before.orchestrator.application? before.orchestrator.devices
      before.simulation.context.agenda.pending)
    (dispatches : before.simulation.Dispatches Orchestrator.handle before.orchestrator event
      after.simulation after.orchestrator begun reacted) :
    Briefed before.orchestrator.application? after.orchestrator.devices
      after.simulation.context.agenda.pending := by
  rw [dispatches.pending] at briefed
  have ordered := before.simulation.context.agenda.ordered
  rw [dispatches.pending, List.pairwise_cons] at ordered
  have reaction := dispatches.reaction
  have reacts : Briefed before.orchestrator.application? after.orchestrator.devices
      reacted.agenda.pending :=
    (reaction.briefed dispatches.begun_running rfl ordered.1 briefed).drop
      fun id application told relay known =>
        reaction.learns dispatches.begun_running told known
  rw [dispatches.context]
  unfold Context.settled
  split
  · exact reacts.clear
  · exact reacts

theorem Reached.briefed (reached : started.Reached turns scenario)
    (holds : started.orchestrator.application? = held)
    (begun : Briefed held started.orchestrator.devices started.simulation.context.agenda.pending) :
    Briefed held scenario.orchestrator.devices scenario.simulation.context.agenda.pending ∧
      (∀ event ∈ started.scheduled turns, event.payload.Follows held) ∧
      ∀ turn ∈ turns, turn.event.payload.Follows held := by
  refine (reached.keeps (motive := fun turns scenario =>
    scenario.orchestrator.application? = held ∧
      Briefed held scenario.orchestrator.devices scenario.simulation.context.agenda.pending ∧
      (∀ event ∈ started.scheduled turns, event.payload.Follows held) ∧
      ∀ turn ∈ turns, turn.event.payload.Follows held) ?_ ?_).2
  · exact ⟨holds, begun, by simpa [scheduled] using begun.follows, by simp⟩
  · rintro turns before event after begun reacted ⟨rfl, briefed, scheduled, happened⟩ dispatches
    have briefedAfter := briefed_turn briefed dispatches
    have kept := dispatches.reaction.keeps.1
    refine ⟨by rw [Orchestrator.application?, kept]; rfl, briefedAfter, ?_, ?_⟩
    · intro other member
      rw [Scenario.scheduled, List.flatMap_append, ← List.append_assoc, List.mem_append] at member
      rcases member with old | new
      · exact scheduled other old
      · rw [List.flatMap_singleton] at new
        exact briefedAfter.follows other (List.mem_filter.mp new).1
    · intro turn member
      rcases List.mem_append.mp member with old | new
      · exact happened turn old
      · obtain rfl := List.mem_singleton.mp new
        apply briefed.follows
        rw [dispatches.pending]
        exact List.mem_cons_self ..

theorem Reached.matching_eq (reached : started.Reached turns scenario) :
    Orchestrator.matching scenario.orchestrator.actuators =
      Orchestrator.matching started.orchestrator.actuators :=
  (reached.unchanged (Orchestrator.matching ·.actuators) fun _ reaction => reaction.matching_eq).2

theorem Reached.actuators_contains (reached : started.Reached turns scenario) (id : ActuatorId) :
    ∀ turn ∈ turns, turn.before.orchestrator.actuators.contains id =
      started.orchestrator.actuators.contains id :=
  (reached.unchanged (·.actuators.contains id) fun _ reaction => reaction.actuators_contains id).1

end Scenario

/-- The application of a blueprint comes without subscriptions of its own. -/
def Blueprint.Plain (blueprint : Blueprint) : Prop :=
  ∀ mapped, blueprint.mapped = some mapped →
    ∀ spec ∈ mapped.application.modules, spec.subscriptions = []

namespace Blueprint

variable {blueprint : Blueprint} {built started scenario : Scenario} {turns : List Turn}

theorem build_holds (builds : blueprint.build.outcome = .ok (.ok built)) :
    built.orchestrator.application? = blueprint.mapped.map fun mapped =>
      (Orchestrator.subscribeActuators built.orchestrator.actuators mapped.application).value := by
  obtain ⟨registered, registers, rest⟩ := build_outcome builds
  rcases rest with ⟨none, rfl⟩ | ⟨mapped, placement, wires, submitted, some, _, _, submits, rfl⟩
  · obtain ⟨_, _, same⟩ := Orchestrator.register_value registers
    rw [none, Scenario.ofOrchestrator, same]
    rfl
  · obtain ⟨_, coverage, held⟩ := Orchestrator.submit_value submits
    obtain ⟨devices, wired⟩ := Orchestrator.applyWires_frame wires submitted
    rw [some, Scenario.ofOrchestrator, wired, held]
    rfl

theorem briefed_of_begun (unused : blueprint.Unused)
    (builds : blueprint.build.outcome = .ok (.ok built))
    (begun : built.Begun started turns scenario) :
    Briefed built.orchestrator.application? scenario.orchestrator.devices
        scenario.simulation.context.agenda.pending ∧
      (∀ event ∈ started.scheduled turns,
        event.payload.Follows built.orchestrator.application?) ∧
      ∀ turn ∈ turns, turn.event.payload.Follows built.orchestrator.application? := by
  obtain ⟨reached, asks, time, orchestrator⟩ := begun_cases builds begun
  have idle := Briefed.of_unused built.orchestrator.application? (unused.of_build builds)
  apply reached.briefed
  · rw [orchestrator]
    rfl
  · rw [orchestrator]
    exact asks.briefed [] idle

theorem Plain.registered (plain : blueprint.Plain)
    (builds : blueprint.build.outcome = .ok (.ok built)) {id : ActuatorId} {tuple : Tuple}
    (follows : (Payload.delivery id tuple).Follows built.orchestrator.application?) :
    ∃ actuator, built.orchestrator.actuators.get? id = some actuator := by
  rw [build_holds builds] at follows
  cases submits : blueprint.mapped with
  | none =>
      rw [submits] at follows
      cases follows with
      | call calls => cases calls
      | delivery holds => cases holds
  | some mapped =>
      rw [submits] at follows
      obtain ⟨_, _, other, _, _, _, matched⟩ := follows.delivered (plain mapped submits)
      obtain ⟨found, listed, rfl⟩ := List.mem_map.mp matched
      obtain ⟨entry, member, rfl⟩ := List.mem_map.mp (List.mem_filter.mp listed).1
      have known := SortedMap.get?_eq_some_iff.mpr member
      exact ⟨entry.2, by rw [build_actuators builds known, known]⟩

theorem delivery_registered (unused : blueprint.Unused)
    (builds : blueprint.build.outcome = .ok (.ok built))
    (begun : built.Begun started turns scenario) (plain : blueprint.Plain) {turn : Turn}
    (member : turn ∈ turns) {actuator : ActuatorId} {tuple : Tuple}
    (delivers : turn.event.payload = .delivery actuator tuple) :
    turn.before.orchestrator.actuators.contains actuator = true := by
  obtain ⟨reached, _, time, orchestrator⟩ := begun_cases builds begun
  obtain ⟨_, _, happened⟩ := briefed_of_begun unused builds begun
  have follows := happened turn member
  rw [delivers] at follows
  obtain ⟨own, known⟩ := plain.registered builds follows
  rw [reached.actuators_contains actuator turn member, orchestrator, SortedMap.contains, known]
  rfl

end Blueprint

end FogNetwork
