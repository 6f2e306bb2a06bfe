import FogNetwork.Proofs.Deliveries
import FogNetwork.Proofs.Forwarding

/-! How long deliveries to actuators take. A relay delivers over the link that it was given when it
was wired, and at once where it was given none. -/

namespace FogNetwork

def Payload.isDelivery : Payload → Bool
  | .delivery _ _ => true
  | _ => false

theorem Payload.CallsFor.isDelivery_eq_false {held : Option Application} {payload : Payload}
    (calls : payload.CallsFor held) : payload.isDelivery = false := by
  cases payload with
  | delivery => exact calls.elim
  | _ => rfl

namespace Relay

/-- A delivery that a relay asks for. An actuator without a link counts as being at hand. -/
def Delivers (relay : Relay) (now : Time) (delivery : Event) : Prop :=
  ∃ actuator tuple, delivery.payload = .delivery actuator tuple ∧
    delivery.time.ticks = now.ticks + relay.actuators.getD actuator 0

variable {before after : Bench} {delivery : Event}

theorem Delivers.of_setup {relay next : Relay} {now : Time} (same : next.setup = relay.setup)
    (delivers : next.Delivers now delivery) : relay.Delivers now delivery := by
  have links : next.actuators = relay.actuators := congrArg (·.actuators) same
  unfold Delivers at delivers ⊢
  rwa [links] at delivers

theorem Deed.delivers (deed : Deed before after)
    (comes : delivery ∈ after.context.pendingOf Payload.isDelivery) :
    delivery ∈ before.context.pendingOf Payload.isDelivery ∨
      before.relay.Delivers before.context.now delivery := by
  cases deed with
  | forward _ _ _ _ _ sent =>
      rw [sent.pendingOf_eq rfl] at comes
      exact .inl comes
  | rearm _ _ asked =>
      rw [asked.pendingOf_eq rfl] at comes
      exact .inl comes
  | deliver _ _ _ _ _ _ _ reached sent =>
      obtain ⟨pending, marked⟩ := Context.mem_pendingOf.mp comes
      rcases List.mem_cons.mp (sent.pending.subset pending) with rfl | old
      · exact .inr ⟨_, _, rfl, (Time.after?_eq_some_iff.mp reached).2⟩
      · exact .inl (Context.mem_pendingOf.mpr ⟨old, marked⟩)
  | queue | park | derive | execute | pass | take | charge => exact .inl comes

theorem Deeds.delivers (deeds : Deeds before after)
    (comes : delivery ∈ after.context.pendingOf Payload.isDelivery) :
    delivery ∈ before.context.pendingOf Payload.isDelivery ∨
      before.relay.Delivers before.context.now delivery := by
  induction deeds with
  | refl => exact .inl comes
  | tail earlier deed ih =>
      have kept : Deeds before _ := earlier
      rcases deed.delivers comes with old | new
      · exact ih old
      · rw [kept.now_eq] at new
        exact .inr (new.of_setup kept.keeps.2)

end Relay

theorem Device.react_delivers {device next : Device} {event : DeviceEvent}
    {begun reacted : Context} {delivery : Event} (running : begun.halted = false)
    (reacts : (device.react event).Ends begun next reacted)
    (comes : delivery ∈ reacted.pendingOf Payload.isDelivery) :
    delivery ∈ begun.pendingOf Payload.isDelivery ∨
      ∃ relay, device = .relay relay ∧ event = .manageResources ∧
        relay.Delivers begun.now delivery := by
  cases Device.react_reaction running reacts with
  | recorder | active | received | launch => exact .inl comes
  | manage deeds => exact (deeds.delivers comes).imp_right fun new => ⟨_, rfl, rfl, new⟩
  | arrival =>
      obtain ⟨_, accepted, _⟩ := Act.ends_map_iff.mp reacts
      refine .inl ?_
      rcases Relay.accept_cases running accepted with ⟨_, _, rfl⟩ |
        ⟨_, ⟨_, _, _, _, _, _, sent, _⟩ | ⟨_, _, rfl⟩⟩
      · exact comes
      · rwa [sent.pendingOf_eq rfl] at comes
      · exact comes

theorem Reaction.delivers {orchestrator next : Orchestrator} {begun reacted : Context}
    {payload : Payload} {delivery : Event} (running : begun.halted = false)
    (reaction : Reaction orchestrator begun payload next reacted)
    (comes : delivery ∈ reacted.pendingOf Payload.isDelivery) :
    delivery ∈ begun.pendingOf Payload.isDelivery ∨
      ∃ id relay, payload = .device id .manageResources ∧ orchestrator.relay? id = some relay ∧
        relay.Delivers begun.now delivery := by
  cases reaction with
  | launch asks | control asks =>
      rw [asks.pendingOf_eq fun _ _ calls => calls.calls.isDelivery_eq_false] at comes
      exact .inl comes
  | finished | unknownDevice | silent | unknownActuator => exact .inl comes
  | stop halts => rcases halts with rfl | rfl <;> exact .inl comes
  | @device id event target changed _ known reacts =>
      rcases Device.react_delivers running reacts comes with old | ⟨relay, rfl, rfl, new⟩
      · exact .inl old
      · exact .inr ⟨id, relay, rfl, Orchestrator.relay?_eq_some_iff.mpr known, new⟩
  | actuator _ reacts =>
      obtain ⟨_, rfl⟩ := Actuator.receive_ends reacts
      exact .inl comes
  | sensor _ _ _ reacts =>
      rcases Sensor.transmit_ends running reacts with
        ⟨_, _, rfl⟩ | ⟨_, _, _, _, _, emits, _⟩
      · exact .inl comes
      · rw [emits.arms.pendingOf_eq rfl, emits.sends.pendingOf_eq rfl] at comes
        exact .inl comes

def Turn.deliveries (turn : Turn) : List Event :=
  (turn.after.simulation.context.agenda.since turn.before.simulation.context.agenda).filter
    (·.payload.isDelivery)

namespace Scenario

variable {started before after scenario : Scenario} {turns : List Turn} {event : Event}
variable {begun reacted : Context}

theorem deliveries_of_dispatches
    (dispatches : before.simulation.Dispatches Orchestrator.handle before.orchestrator event
      after.simulation after.orchestrator begun reacted) :
    ∀ delivery ∈ Turn.deliveries ⟨event, before, after⟩, ∃ id relay,
      event.payload = .device id .manageResources ∧ before.orchestrator.relay? id = some relay ∧
        relay.Delivers event.time delivery := by
  intro delivery member
  obtain ⟨fresh, marked⟩ := List.mem_filter.mp member
  obtain ⟨pending, new⟩ := List.mem_filter.mp fresh
  have comes : delivery ∈ reacted.pendingOf Payload.isDelivery := by
    refine Context.mem_pendingOf.mpr ⟨?_, marked⟩
    rw [dispatches.context, Context.settled] at pending
    split at pending
    · cases pending
    · exact pending
  rcases dispatches.reaction.delivers dispatches.begun_running comes with old | asked
  · -- What was pending before has an identifier that was issued before.
    have issued := begun.agenda.issued delivery (Context.mem_pendingOf.mp old).1
    rw [dispatches.nextId] at issued
    simp only [decide_eq_true_eq] at new
    omega
  · rwa [dispatches.begun_now] at asked

theorem Reached.deliveries (reached : started.Reached turns scenario) :
    ∀ turn ∈ turns, ∀ delivery ∈ turn.deliveries, ∃ id relay,
      turn.event.payload = .device id .manageResources ∧
        turn.before.orchestrator.relay? id = some relay ∧
        relay.Delivers turn.event.time delivery := by
  refine reached.keeps (motive := fun turns _ =>
    ∀ turn ∈ turns, ∀ delivery ∈ turn.deliveries, ∃ id relay,
      turn.event.payload = .device id .manageResources ∧
        turn.before.orchestrator.relay? id = some relay ∧
        relay.Delivers turn.event.time delivery) (by simp) ?_
  intro turns before event after begun reacted earlier dispatches turn member
  rcases List.mem_append.mp member with old | new
  · exact earlier turn old
  · obtain rfl := List.mem_singleton.mp new
    exact deliveries_of_dispatches dispatches

end Scenario

theorem actuatorWires_way {devices : Devices} {relay : DeviceId} {link : ActuatorLink}
    {wires : List Wire} (wired : (actuatorWires devices relay link).outcome = .ok wires) :
    ∃ way?, pathLatency devices relay link.gateway = .ok way? ∧
      ∀ way, way? = some way → way + link.latency ≤ largest := by
  obtain ⟨way?, path, wired⟩ := Run.outcome_bind_eq_ok_iff.mp wired
  rw [Run.outcome_liftExcept] at path
  refine ⟨way?, path, ?_⟩
  rintro way rfl
  obtain ⟨total, fits, _⟩ := Run.outcome_bind_eq_ok_iff.mp wired
  exact (sum?_eq_some_iff.mp (Run.outcome_orFault_eq_ok_iff.mp fits)).1

namespace Blueprint

variable {blueprint : Blueprint} {built started scenario : Scenario} {turns : List Turn}

def Unlinked (blueprint : Blueprint) : Prop :=
  ∀ relay ∈ blueprint.relays, relay.actuators = .empty

def Identified (blueprint : Blueprint) : Prop := (blueprint.actuators.map (·.id)).Nodup

theorem build_reaches (builds : blueprint.build.outcome = .ok (.ok built))
    {mapped : MappedApplication} (submits : blueprint.mapped = some mapped) {relay : DeviceId}
    (known : relay ∈ blueprint.relays.map (·.id)) {actuator : Actuator}
    (listed : actuator ∈ blueprint.actuators) :
    ∃ way?, pathLatency built.orchestrator.devices relay actuator.gateway = .ok way? ∧
      ∀ way, way? = some way → way + actuator.latency ≤ largest := by
  obtain ⟨registered, registers, ⟨none, _⟩ |
    ⟨_, placement, wires, submitted, _, _, wired, submission, rfl⟩⟩ := build_outcome builds
  · rw [submits] at none
    cases none
  · obtain ⟨_, coverage, held⟩ := Orchestrator.submit_value submission
    have links : linksOf (wires.foldl Orchestrator.applyWire submitted).devices =
        linksOf registered.devices := by
      rw [show registered.devices = submitted.devices by rw [held]]
      exact Orchestrator.applyWires_mapValues (fun _ _ _ => rfl) wires submitted
    have laid := (exists_wiring_iff.mp ⟨wires, wired⟩ relay known).2
      ⟨actuator.id, actuator.gateway, actuator.latency⟩ (List.mem_map_of_mem listed)
    obtain ⟨_, laid⟩ := laid
    simp only [Scenario.ofOrchestrator, pathLatency_congr links]
    exact actuatorWires_way laid

theorem build_linked (builds : blueprint.build.outcome = .ok (.ok built))
    (identified : blueprint.Identified) {mapped : MappedApplication}
    (submits : blueprint.mapped = some mapped) {relay : Relay} (listed : relay ∈ blueprint.relays)
    (unlinked : relay.actuators = .empty) :
    ∃ wired, built.orchestrator.relay? relay.id = some wired ∧
      ∀ actuator ∈ blueprint.actuators, ∃ way?,
        pathLatency built.orchestrator.devices relay.id actuator.gateway = .ok way? ∧
          wired.actuators.get? actuator.id = way?.map (· + actuator.latency) := by
  obtain ⟨registered, wires, registers, devices, ⟨none, _⟩ | ⟨_, held, _, _, _, wanted⟩⟩ :=
    build_wired builds
  · rw [submits] at none
    cases none
  obtain ⟨linked, found, _, actuators⟩ := registered_relay listed registers
  have known : relay.id ∈ blueprint.relays.map (·.id) := List.mem_map_of_mem listed
  refine ⟨linked.wired relay.id wires, by rw [Orchestrator.relay?, devices, found]; rfl, ?_⟩
  intro actuator own
  obtain ⟨way?, path, fits⟩ := build_reaches builds submits known own
  refine ⟨way?, path, ?_⟩
  have distinct : (blueprint.actuatorLinks.map (·.actuator)).Nodup := by
    rw [actuatorLinks, List.map_map]
    exact identified
  have link : ActuatorLink.mk actuator.id actuator.gateway actuator.latency ∈
      blueprint.actuatorLinks := List.mem_map_of_mem own
  rcases Relay.actuators_wired wires relay.id linked actuator.id with
    ⟨latency, laid, got⟩ | ⟨none, kept⟩
  · obtain ⟨_, other, listedToo, same, way, reached, total⟩ := (wanted _).mp laid
    obtain rfl := List.inj_on_of_nodup_map distinct listedToo link same
    rw [path] at reached
    cases reached
    rw [got, (sum?_eq_some_iff.mp total).2]
    rfl
  · rw [kept, actuators, unlinked]
    cases way? with
    | none => rfl
    | some way =>
        have laid : Wire.actuator relay.id actuator.id (way + actuator.latency) ∈ wires :=
          (wanted _).mpr ⟨known, _, link, rfl, way, path,
            sum?_eq_some_iff.mpr ⟨fits way rfl, rfl⟩⟩
        exact absurd laid (none _)

theorem build_actuators_listed (builds : blueprint.build.outcome = .ok (.ok built)) :
    built.orchestrator.actuators.All (· ∈ blueprint.actuators) := by
  obtain ⟨registered, registers, rest⟩ := build_outcome builds
  obtain ⟨entered, _, same⟩ := Orchestrator.register_value registers
  have all : registered.actuators.All (· ∈ blueprint.actuators) := by
    rw [same]
    exact (SortedMap.all_empty _).enter fun _ own => own
  rcases rest with ⟨_, rfl⟩ | ⟨mapped, placement, wires, submitted, _, _, _, submits, rfl⟩
  · exact all
  · obtain ⟨_, coverage, held⟩ := Orchestrator.submit_value submits
    obtain ⟨devices, wired⟩ := Orchestrator.applyWires_frame wires submitted
    rw [Scenario.ofOrchestrator, wired, held]
    exact all

theorem Plain.delivered (plain : blueprint.Plain)
    (builds : blueprint.build.outcome = .ok (.ok built)) {id : ActuatorId} {tuple : Tuple}
    (follows : (Payload.delivery id tuple).Follows built.orchestrator.application?) :
    ∃ actuator ∈ blueprint.actuators, actuator.id = id := by
  obtain ⟨actuator, known⟩ := plain.registered builds follows
  exact ⟨actuator, build_actuators_listed builds id actuator known, build_actuators builds known⟩

end Blueprint

/-- In a management round a relay has a tuple delivered to an actuator. If the gateway of the
actuator can be reached, this takes as long as the path there and the actuator's own link together.
If not, it takes no time. -/
structure Turn.DeliversTo (turn : Turn) (devices : Devices) (relay : DeviceId)
    (actuator : Actuator) (way? : Option Nat) (delivery : Event) : Prop where
  sender : turn.event.payload = .device relay .manageResources
  receiver : ∃ tuple, delivery.payload = .delivery actuator.id tuple
  path : pathLatency devices relay actuator.gateway = .ok way?
  due : delivery.time.ticks =
    turn.after.simulation.currentTime.ticks + way?.elim 0 (· + actuator.latency)

namespace Blueprint

variable {blueprint : Blueprint} {built started scenario : Scenario} {turns : List Turn}

theorem Unlinked.delivers (unlinked : blueprint.Unlinked) (identified : blueprint.Identified)
    (unused : blueprint.Unused) (builds : blueprint.build.outcome = .ok (.ok built))
    (begun : built.Begun started turns scenario) {turn : Turn} (member : turn ∈ turns)
    {delivery : Event} (sent : delivery ∈ turn.deliveries) :
    ∃ id target tuple, turn.event.payload = .device id .manageResources ∧
      delivery.payload = .delivery target tuple ∧
      (blueprint.Plain → ∃ actuator ∈ blueprint.actuators, actuator.id = target) ∧
      (id ∈ blueprint.relays.map (·.id) →
        ∀ actuator ∈ blueprint.actuators, actuator.id = target → ∃ way?,
          turn.DeliversTo built.orchestrator.devices id actuator way? delivery) := by
  obtain ⟨reached, asks, time, same⟩ := begun_cases builds begun
  obtain ⟨id, relay, payload, known, target, tuple, delivers, due⟩ :=
    reached.deliveries turn member delivery sent
  obtain ⟨_, follow, _⟩ := briefed_of_begun unused builds begun
  have scheduled : delivery ∈ started.scheduled turns :=
    List.mem_append_right _ (List.mem_flatMap.mpr ⟨turn, member, (List.mem_filter.mp sent).1⟩)
  have follows := follow delivery scheduled
  rw [delivers] at follows
  refine ⟨id, target, tuple, payload, delivers, fun plain => plain.delivered builds follows, ?_⟩
  rintro wiredOne actuator listed rfl
  obtain ⟨mapped, submits⟩ : ∃ mapped, blueprint.mapped = some mapped := by
    rw [← Option.isSome_iff_exists]
    by_contra none
    rw [build_holds builds, Option.not_isSome_iff_eq_none.mp none] at follows
    cases follows with
    | call calls => cases calls
    | delivery holds => cases holds
  obtain ⟨own, ownListed, rfl⟩ := List.mem_map.mp wiredOne
  obtain ⟨wired, knownAtFirst, links⟩ :=
    build_linked builds identified submits ownListed (unlinked own ownListed)
  obtain ⟨way?, path, linked⟩ := links actuator listed
  have tables := congrFun ((reached.unchanged Orchestrator.tablesOf?
    fun running reaction => reaction.tables_eq running).1 turn member) own.id
  have static : started.orchestrator.tablesOf? = built.orchestrator.tablesOf? := by
    rw [same]
    rfl
  rw [static, Orchestrator.tablesOf?_eq, Orchestrator.tablesOf?_eq, known, knownAtFirst] at tables
  have actuators : relay.actuators = wired.actuators :=
    congrArg Prod.snd (Option.some.inj tables)
  refine ⟨way?, payload, ⟨tuple, delivers⟩, path, ?_⟩
  rw [reached.currentTime_eq turn member, due, actuators, SortedMap.getD, linked]
  cases way? <;> rfl

/-- Deliveries come from relays that execute, and happen when they are due. One to an actuator that
the relay can reach is due when it has gone all the way there, and any other at once. -/
theorem deliveries_over_links (builds : blueprint.build.outcome = .ok (.ok built))
    (unlinked : blueprint.Unlinked) (identified : blueprint.Identified)
    (unused : blueprint.Unused) (begun : built.Begun started turns scenario) :
    ∀ turn ∈ turns, ∀ delivery ∈ turn.deliveries,
      (∃ id target tuple, turn.event.payload = .device id .manageResources ∧
        delivery.payload = .delivery target tuple ∧
        (blueprint.Plain → ∃ actuator ∈ blueprint.actuators, actuator.id = target) ∧
        (id ∈ blueprint.relays.map (·.id) →
          ∀ actuator ∈ blueprint.actuators, actuator.id = target → ∃ way?,
            turn.DeliversTo built.orchestrator.devices id actuator way? delivery)) ∧
      (∀ later ∈ turns, later.event = delivery →
        later.after.simulation.currentTime = delivery.time) ∧
      (scenario.simulation.isTerminated = false →
        delivery ∈ scenario.simulation.context.agenda.pending ∨
          ∃ later ∈ turns, later.event = delivery) := by
  intro turn member delivery sent
  obtain ⟨reached, _⟩ := begun_cases builds begun
  refine ⟨unlinked.delivers identified unused builds begun member sent, ?_, ?_⟩
  · rintro later happened rfl
    exact reached.currentTime_eq later happened
  · intro running
    refine reached.happened_or_pending running ?_
    exact List.mem_append_right _
      (List.mem_flatMap.mpr ⟨turn, member, (List.mem_filter.mp sent).1⟩)

end Blueprint

namespace Demo

def attic : Blueprint :=
  { panel "LIGHT" "TURN" with
    actuators := [(Actuator.named ⟨0⟩ "led" "LED").attachedTo ⟨7⟩ 5, .named ⟨1⟩ "motor" "MOTOR"] }

theorem attic_unused : attic.Unused :=
  ⟨(panel_unused "LIGHT" "TURN").devices, (panel_unused "LIGHT" "TURN").relays⟩

theorem attic_unlinked : attic.Unlinked := by
  intro relay member
  obtain rfl := List.mem_singleton.mp member
  rfl

theorem attic_identified : attic.Identified := by
  unfold Blueprint.Identified
  decide

theorem attic_delivers : ∃ built started turn light turning,
    attic.build.outcome = .ok (.ok built) ∧ built.start.outcome = .ok (.ok (), started) ∧
      turn ∈ started.firstTurns 9 ∧ turn.event.payload.recipient = .device ⟨0⟩ ∧
      turn.deliveries = [light, turning] ∧
      (∃ tuple, light.payload = .delivery ⟨0⟩ tuple) ∧
      (∃ tuple, turning.payload = .delivery ⟨1⟩ tuple) ∧
      light.time.ticks = turn.after.simulation.currentTime.ticks ∧
      turning.time.ticks = turn.after.simulation.currentTime.ticks + 1 := by
  have delivers : (attic.after? []).any (fun built => built.started?.any fun started =>
      (started.firstTurns 9).any fun turn =>
        decide (turn.event.payload.recipient = .device ⟨0⟩) &&
          turn.deliveries.map (fun delivery =>
            (delivery.payload.delivery?.map (·.1.number), delivery.time.ticks)) ==
            [(some 0, turn.after.simulation.currentTime.ticks),
              (some 1, turn.after.simulation.currentTime.ticks + 1)]) = true := by
    decide +kernel
  obtain ⟨scenario, left, delivers⟩ := (Option.any_eq_true _ _).mp delivers
  obtain ⟨built, builds, same⟩ := Blueprint.after?_eq_some left
  cases same
  obtain ⟨started, begins, delivers⟩ := (Option.any_eq_true _ _).mp delivers
  obtain ⟨turn, member, delivers⟩ := List.any_eq_true.mp delivers
  obtain ⟨sender, delivers⟩ := Bool.and_eq_true_iff.mp delivers
  have both := eq_of_beq delivers
  obtain ⟨light, others, two, lit, rest⟩ := List.map_eq_cons_iff.mp both
  obtain ⟨turning, none, rfl, turned, last⟩ := List.map_eq_cons_iff.mp rest
  obtain rfl := List.map_eq_nil_iff.mp last
  obtain ⟨lit, lightDue⟩ := Prod.mk.inj lit
  obtain ⟨turned, turningDue⟩ := Prod.mk.inj turned
  have sentTo (number : Nat) (delivery : Event)
      (own : delivery.payload.delivery?.map (·.1.number) = some number) :
      ∃ tuple, delivery.payload = .delivery ⟨number⟩ tuple := by
    obtain ⟨known, found, rfl⟩ := Option.map_eq_some_iff.mp own
    obtain ⟨tuple, payload, _⟩ := Payload.delivery?_eq_some found
    exact ⟨tuple, payload⟩
  exact ⟨_, started, turn, light, turning, builds, Scenario.started?_eq_some begins, member,
    of_decide_eq_true sender, two, sentTo 0 light lit, sentTo 1 turning turned, lightDue, turningDue⟩

end Demo

theorem Blueprint.deliveries_over_links_attic : ∃ built started ended turn delivery motor,
    Demo.attic.build.outcome = .ok (.ok built) ∧
      built.Begun started (started.firstTurns 9) ended ∧ turn ∈ started.firstTurns 9 ∧
      delivery ∈ turn.deliveries ∧ motor ∈ Demo.attic.actuators ∧ motor.id = ⟨1⟩ ∧
      turn.DeliversTo built.orchestrator.devices ⟨0⟩ motor (some 0) delivery := by
  obtain ⟨built, started, turn, light, turning, builds, begins, member, own, both, _,
    ⟨tuple, turned⟩, _, late⟩ := Demo.attic_delivers
  obtain ⟨ended, reached⟩ := started.reached_firstTurns 9
  have begun : built.Begun started (started.firstTurns 9) ended := .inr ⟨begins, reached⟩
  have sent : turning ∈ turn.deliveries := by simp [both]
  obtain ⟨⟨id, target, other, sender, receiver, _, along⟩, _⟩ := deliveries_over_links builds
    Demo.attic_unlinked Demo.attic_identified Demo.attic_unused begun turn member turning sent
  rw [turned] at receiver
  cases receiver
  rw [sender] at own
  cases own
  have listed : Actuator.named ⟨1⟩ "motor" "MOTOR" ∈ Demo.attic.actuators := by simp [Demo.attic]
  obtain ⟨way?, delivers⟩ := along (by decide) _ listed rfl
  have due := delivers.due
  cases way? with
  | none =>
      simp only [Option.elim_none] at due
      omega
  | some way =>
      simp only [Option.elim_some, Actuator.named] at due
      obtain rfl : way = 0 := by omega
      exact ⟨built, started, ended, turn, turning, _, builds, begun, member, sent, listed, rfl,
        delivers⟩

namespace Demo

/-- The light is out of reach, and yet the relay delivers to it, faster than anybody. -/
theorem attic_out_of_reach : ∃ built started ended turn delivery led,
    attic.build.outcome = .ok (.ok built) ∧ attic.Unlinked ∧ attic.Identified ∧
      built.Begun started (started.firstTurns 9) ended ∧ turn ∈ started.firstTurns 9 ∧
      delivery ∈ turn.deliveries ∧ led ∈ attic.actuators ∧ led.latency = 5 ∧
      turn.DeliversTo built.orchestrator.devices ⟨0⟩ led none delivery ∧
      delivery.time = turn.after.simulation.currentTime ∧
      ¬∃ way, turn.DeliversTo built.orchestrator.devices ⟨0⟩ led (some way) delivery := by
  obtain ⟨built, started, turn, light, turning, builds, begins, member, own, both, ⟨tuple, lit⟩,
    _, early, _⟩ := attic_delivers
  obtain ⟨ended, reached⟩ := started.reached_firstTurns 9
  have begun : built.Begun started (started.firstTurns 9) ended := .inr ⟨begins, reached⟩
  have sent : light ∈ turn.deliveries := by simp [both]
  obtain ⟨id, target, other, sender, receiver, _, along⟩ := attic_unlinked.delivers
    attic_identified attic_unused builds begun member sent
  rw [lit] at receiver
  cases receiver
  rw [sender] at own
  cases own
  have listed : (Actuator.named ⟨0⟩ "led" "LED").attachedTo ⟨7⟩ 5 ∈ attic.actuators := by
    simp [attic]
  have no (way : Nat) : ¬turn.DeliversTo built.orchestrator.devices ⟨0⟩
      ((Actuator.named ⟨0⟩ "led" "LED").attachedTo ⟨7⟩ 5) (some way) light := by
    intro delivers
    have due := delivers.due
    simp only [Option.elim_some, Actuator.attachedTo] at due
    omega
  obtain ⟨way?, delivers⟩ := along (by decide) _ listed rfl
  cases way? with
  | some way => exact absurd delivers (no way)
  | none =>
      exact ⟨built, started, ended, turn, light, _, builds, attic_unlinked, attic_identified,
        begun, member, sent, listed, rfl, delivers, Time.ext early, not_exists.mpr no⟩

end Demo

end FogNetwork
