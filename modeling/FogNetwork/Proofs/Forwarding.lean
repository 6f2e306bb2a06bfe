import FogNetwork.Proofs.Preparation
import FogNetwork.Proofs.Reordering
import FogNetwork.Proofs.Timekeeping

/-! Forwarding. A relay sends on the tuples for modules that it does not host, along its routes. If
these lead to nearest hosts, a tuple that was sent on reaches a host and stays there. -/

namespace FogNetwork

def arrivingTuples (events : List Event) : List Tuple :=
  events.filterMap (·.payload.arrivingTuple?)

theorem arrivingTuples_append (early late : List Event) :
    arrivingTuples (early ++ late) = arrivingTuples early ++ arrivingTuples late :=
  List.filterMap_append

theorem Payload.arrivingTuple?_eq_some_iff {payload : Payload} {tuple : Tuple} :
    payload.arrivingTuple? = some tuple ↔ ∃ id, payload = .device id (.tupleArrival tuple) := by
  cases payload with
  | device id event => cases event <;> simp [arrivingTuple?]
  | _ => simp [arrivingTuple?]

theorem mem_arrivingTuples {tuple : Tuple} {events : List Event} :
    tuple ∈ arrivingTuples events ↔
      ∃ event ∈ events, ∃ id, event.payload = .device id (.tupleArrival tuple) := by
  simp only [arrivingTuples, List.mem_filterMap, Payload.arrivingTuple?_eq_some_iff]

theorem nodup_ids_append {early late : List Tuple} :
    ((early ++ late).map (·.id)).Nodup ↔ (early.map (·.id)).Nodup ∧ (late.map (·.id)).Nodup ∧
      ∀ first ∈ early, ∀ last ∈ late, first.id ≠ last.id := by
  rw [List.map_append, List.nodup_append]
  simp only [List.forall_mem_map]

/-! What comes up while a relay works. -/

/-- From one context to another in which some arrivals were `sent`. The tuples that were sent or are
in hand are all different, and each is one of its `own` from before or was issued since. -/
structure Context.Sends (before : Context) (own : List Tuple) (sent : List Event)
    (hand : List Tuple) (after : Context) : Prop where
  now : after.now = before.now
  arrivals : (after.pendingOf Payload.isArrival).Perm (before.pendingOf Payload.isArrival ++ sent)
  issued : before.timings.nextTuple ≤ after.timings.nextTuple
  fresh : ∀ tuple ∈ arrivingTuples sent ++ hand,
    tuple ∈ own ∨ before.timings.nextTuple ≤ tuple.id ∧ tuple.id < after.timings.nextTuple
  apart : ((arrivingTuples sent ++ hand).map (·.id)).Nodup

namespace Context.Sends

variable {before after later : Context} {own hand : List Tuple} {sent : List Event} {tuple : Tuple}

theorem start (context : Context) (distinct : (own.map (·.id)).Nodup) :
    context.Sends own [] own context where
  now := rfl
  arrivals := by rw [List.append_nil]
  issued := Nat.le_refl _
  fresh := fun _ member => .inl member
  apart := distinct

theorem same (sends : before.Sends own sent hand after) (now : later.now = after.now)
    (arrivals : later.pendingOf Payload.isArrival = after.pendingOf Payload.isArrival)
    (issued : later.timings.nextTuple = after.timings.nextTuple) :
    before.Sends own sent hand later where
  now := now.trans sends.now
  arrivals := by rw [arrivals]; exact sends.arrivals
  issued := by rw [issued]; exact sends.issued
  fresh := by rw [issued]; exact sends.fresh
  apart := sends.apart

theorem drop (sends : before.Sends own sent hand after) : before.Sends own sent [] after where
  now := sends.now
  arrivals := sends.arrivals
  issued := sends.issued
  fresh := by
    intro tuple member
    rw [List.append_nil] at member
    exact sends.fresh tuple (List.mem_append_left _ member)
  apart := by
    rw [List.append_nil]
    exact (nodup_ids_append.mp sends.apart).1

theorem issue (sends : before.Sends own sent [] after)
    (old : ∀ tuple ∈ own, tuple.id < before.timings.nextTuple)
    (number : tuple.id = after.timings.nextTuple) (now : later.now = after.now)
    (arrivals : later.pendingOf Payload.isArrival = after.pendingOf Payload.isArrival)
    (issued : later.timings.nextTuple = after.timings.nextTuple + 1) :
    before.Sends own sent [tuple] later := by
  have begun := sends.issued
  have known : ∀ other ∈ arrivingTuples sent, other ∈ own ∨
      before.timings.nextTuple ≤ other.id ∧ other.id < after.timings.nextTuple := by
    intro other member
    exact sends.fresh other (by rwa [List.append_nil])
  refine ⟨now.trans sends.now, by rw [arrivals]; exact sends.arrivals, by omega, ?_, ?_⟩
  · intro other member
    rcases List.mem_append.mp member with before | new
    · exact (known other before).imp_right fun range => ⟨range.1, by omega⟩
    · obtain rfl := List.mem_singleton.mp new
      exact .inr ⟨by omega, by omega⟩
  · refine nodup_ids_append.mpr ⟨(nodup_ids_append.mp sends.apart).1, List.nodup_singleton _, ?_⟩
    intro other member last new
    obtain rfl := List.mem_singleton.mp new
    rcases known other member with before | range
    · have early := old other before
      omega
    · omega

theorem send (sends : before.Sends own sent [tuple] after) {middle : Context} {event : Event}
    {id : DeviceId} (enters : middle.Enters event later)
    (arrives : event.payload = .device id (.tupleArrival tuple))
    (agenda : middle.agenda = after.agenda) (now : middle.now = after.now)
    (timings : middle.timings = after.timings) :
    before.Sends own (sent ++ [event]) [] later := by
  have tuples : arrivingTuples (sent ++ [event]) ++ [] = arrivingTuples sent ++ [tuple] := by
    rw [List.append_nil, arrivingTuples_append]
    congr 1
    simp [arrivingTuples, arrives, Payload.arrivingTuple?]
  refine ⟨(enters.now.trans now).trans sends.now, ?_, ?_, ?_, ?_⟩
  · have filtered := enters.pending.filter (·.payload.isArrival)
    rw [List.filter_cons_of_pos (by rw [arrives]; rfl), agenda] at filtered
    refine filtered.trans ((List.Perm.cons event sends.arrivals).trans ?_)
    rw [← List.append_assoc]
    exact (List.perm_append_singleton event _).symm
  · rw [enters.timings, timings]
    exact sends.issued
  · rw [enters.timings, timings, tuples]
    exact sends.fresh
  · rw [tuples]
    exact sends.apart

end Context.Sends

namespace Relay

def Forwards (relay : Relay) (now : Time) (arrival : Event) : Prop :=
  ∃ tuple route, relay.hosts tuple.destination = false ∧
    relay.routes.get? tuple.destination = some route ∧
    arrival.payload = .device route.device (.tupleArrival tuple) ∧
    arrival.time.ticks = now.ticks + route.latency

theorem Forwards.of_setup {relay next : Relay} {now : Time} {arrival : Event}
    (same : next.setup = relay.setup) (forwards : next.Forwards now arrival) :
    relay.Forwards now arrival := by
  have hosted : next.hosted = relay.hosted := congrArg (·.hosted) same
  have routes : next.routes = relay.routes := congrArg (·.routes) same
  unfold Forwards hosts at forwards ⊢
  rwa [hosted, routes] at forwards

variable {begun : Context} {own : List Tuple} {sent : List Event} {before after : Bench}

theorem Deed.sends (deed : Deed before after)
    (old : ∀ tuple ∈ own, tuple.id < begun.timings.nextTuple)
    (sends : begun.Sends own sent before.hand before.context) :
    ∃ more, begun.Sends own (sent ++ more) after.hand after.context ∧
      ∀ arrival ∈ more, before.relay.Forwards begun.now arrival := by
  have quiet (rest : begun.Sends own sent after.hand after.context) :
      ∃ more, begun.Sends own (sent ++ more) after.hand after.context ∧
        ∀ arrival ∈ more, before.relay.Forwards begun.now arrival := by
    refine ⟨[], ?_, by simp⟩
    rwa [List.append_nil]
  cases deed with
  | queue => exact quiet (sends.drop.same rfl rfl rfl)
  | park => exact quiet sends.drop
  | forward held elsewhere routed moved reached sending =>
      rw [held] at sends
      refine ⟨_, sends.send sending rfl rfl rfl rfl, ?_⟩
      intro arrival member
      obtain rfl := List.mem_singleton.mp member
      refine ⟨_, _, elsewhere, routed, rfl, ?_⟩
      rw [← sends.now]
      exact (Time.after?_eq_some_iff.mp reached).2
  | derive free =>
      rw [free] at sends
      exact quiet (sends.issue old rfl rfl rfl rfl)
  | deliver _ _ _ _ _ _ _ _ delivers =>
      refine quiet (sends.drop.same delivers.now (delivers.pendingOf_eq rfl) ?_)
      rw [delivers.timings]
  | execute =>
      exact quiet (sends.same rfl rfl (Timings.endExecution_keeps _ _ _ _).1)
  | @pass tuple application _ _ =>
      obtain ⟨loops, changed⟩ := before.context.timings.passModule_changesLoops
        tuple.destination tuple.root before.context.now application.loops
      refine quiet (sends.same rfl rfl ?_)
      dsimp only
      rw [changed]
  | take | charge => exact quiet sends
  | rearm _ _ asked =>
      refine quiet (sends.same asked.now (asked.pendingOf_eq rfl) ?_)
      rw [asked.timings]

theorem Deeds.sends (deeds : Deeds before after) (distinct : (before.hand.map (·.id)).Nodup)
    (old : ∀ tuple ∈ before.hand, tuple.id < before.context.timings.nextTuple) :
    ∃ sent, before.context.Sends before.hand sent after.hand after.context ∧
      ∀ arrival ∈ sent, before.relay.Forwards before.context.now arrival := by
  induction deeds with
  | refl => exact ⟨[], .start before.context distinct, List.forall_mem_nil _⟩
  | tail early deed ih =>
      obtain ⟨sent, sends, forwards⟩ := ih
      obtain ⟨more, sends, last⟩ := deed.sends old sends
      refine ⟨sent ++ more, sends, ?_⟩
      intro arrival member
      rcases List.mem_append.mp member with before | new
      · exact forwards arrival before
      · exact (last arrival new).of_setup (Deeds.keeps early).2

end Relay

theorem Payload.ids_nodup (payload : Payload) :
    (payload.arrivingTuple?.toList.map (·.id)).Nodup := by
  cases payload.arrivingTuple? <;> simp

theorem Device.Reaction.sends {device next : Device} {event : DeviceEvent} {begun reacted : Context}
    {id : DeviceId} (reaction : Device.Reaction begun device event next reacted)
    (old : ∀ tuple ∈ (Payload.device id event).arrivingTuple?.toList,
      tuple.id < begun.timings.nextTuple) :
    ∃ sent, begun.Sends (Payload.device id event).arrivingTuple?.toList sent [] reacted ∧
      ∀ arrival ∈ sent, ∃ relay, device = .relay relay ∧ relay.Forwards begun.now arrival := by
  have distinct := Payload.ids_nodup (.device id event)
  cases reaction with
  | recorder | active | received | launch =>
      exact ⟨[], (Context.Sends.start begun distinct).drop, List.forall_mem_nil _⟩
  | manage deeds | arrival deeds =>
      obtain ⟨sent, sends, forwards⟩ := deeds.sends distinct old
      exact ⟨sent, sends, fun arrival member => ⟨_, rfl, forwards arrival member⟩⟩

theorem Reaction.sends {orchestrator next : Orchestrator} {begun reacted : Context}
    {payload : Payload} (reaction : Reaction orchestrator begun payload next reacted)
    (running : begun.halted = false)
    (old : ∀ tuple ∈ payload.arrivingTuple?.toList, tuple.id < begun.timings.nextTuple) :
    ∃ sent, begun.Sends payload.arrivingTuple?.toList sent [] reacted ∧
      ∀ id event, payload = .device id event → ∀ arrival ∈ sent,
        ∃ relay, orchestrator.relay? id = some relay ∧ relay.Forwards begun.now arrival := by
  have still := Context.Sends.start begun payload.ids_nodup
  have none : ∀ id event, payload = .device id event → ∀ arrival ∈ ([] : List Event),
      ∃ relay, orchestrator.relay? id = some relay ∧ relay.Forwards begun.now arrival :=
    fun _ _ _ => List.forall_mem_nil _
  cases reaction with
  | launch asks | control asks =>
      refine ⟨[], still.same asks.now_eq ?_ (by rw [asks.timings_eq]), none⟩
      exact asks.pendingOf_eq fun _ _ calls => calls.calls.isArrival_eq_false
  | finished | silent | unknownActuator => exact ⟨[], still, none⟩
  | stop halts =>
      rcases halts with rfl | rfl
      · exact ⟨[], still, none⟩
      · exact ⟨[], still.same rfl rfl rfl, none⟩
  | unknownDevice => exact ⟨[], still.drop, none⟩
  | @device id event target changed _ known reacts =>
      obtain ⟨sent, sends, forwards⟩ := (Device.react_reaction running reacts).sends old
      refine ⟨sent, sends, ?_⟩
      rintro _ _ ⟨⟩ arrival member
      obtain ⟨relay, rfl, own⟩ := forwards arrival member
      exact ⟨relay, by rw [Orchestrator.relay?, known]; rfl, own⟩
  | actuator _ reacts =>
      obtain ⟨loops, rfl⟩ := Actuator.receive_changesLoops reacts
      exact ⟨[], still.same rfl rfl rfl, none⟩
  | @sensor id sensor changed application reacted known _ _ reacts =>
      rcases Sensor.transmit_ends running reacts with
        ⟨_, _, rfl⟩ | ⟨edge, usage, time, later, sent, emits, _⟩
      · exact ⟨[], still, none⟩
      · obtain ⟨loops, entered⟩ := begun.timings.issue.2.enterLoops_changesLoops
          sensor.tupleType begun.timings.nextTuple begun.now application.loops
        have minted : begun.Sends [] [] [Tuple.emitted begun.timings.nextTuple application.id edge]
            { begun with
              timings := begun.timings.issue.2.enterLoops sensor.tupleType begun.timings.nextTuple
                begun.now application.loops
              usage := usage } :=
          still.issue (List.forall_mem_nil _) rfl rfl rfl (by rw [entered]; rfl)
        exact ⟨_, (minted.send emits.sends rfl rfl rfl rfl).same emits.arms.now
          (emits.arms.pendingOf_eq rfl) (by rw [emits.arms.timings]), by rintro _ _ ⟨⟩⟩

/-! What was sent on in a run. -/

def Turn.forwards (turn : Turn) : List Event :=
  match turn.event.payload with
  | .device _ _ =>
      (turn.after.simulation.context.agenda.since turn.before.simulation.context.agenda).filter
        (·.payload.isArrival)
  | _ => []

/-- In a turn, a relay sends a tuple on to a host of its module. It will arrive as much later as the
path between them is long. -/
structure Turn.SendsOn (turn : Turn) (devices : Devices) (placement : Placement)
    (relay target : DeviceId) (tuple : Tuple) (latency : Nat) (arrival : Event) : Prop where
  sender : ∃ news, turn.event.payload = .device relay news
  receiver : arrival.payload = .device target (.tupleArrival tuple)
  hosted : tuple.destination ∈ placement.modulesOn target
  path : pathLatency devices relay target = .ok (some latency)
  due : arrival.time.ticks = turn.after.simulation.currentTime.ticks + latency

def Scenario.forwarded (turns : List Turn) : List Tuple :=
  turns.flatMap fun turn => arrivingTuples turn.forwards

/-- The tuples on their way and those that were `forwarded` are all known and all different. Where a
tuple was sent on to, its module is placed. -/
structure Context.Tracks (placement : Placement) (forwarded : List Tuple) (context : Context) :
    Prop where
  once : (forwarded.map (·.id)).Nodup
  issued : ∀ tuple ∈ forwarded, tuple.id < context.timings.nextTuple
  apart : ((arrivingTuples (context.pendingOf Payload.isArrival)).map (·.id)).Nodup
  known : ∀ tuple ∈ arrivingTuples (context.pendingOf Payload.isArrival),
    tuple.id < context.timings.nextTuple
  placed : ∀ arrival ∈ context.pendingOf Payload.isArrival, ∀ id tuple,
    arrival.payload = .device id (.tupleArrival tuple) → tuple.id ∈ forwarded.map (·.id) →
      tuple.destination ∈ placement.modulesOn id

namespace Context

variable {placement : Placement} {before begun after : Context} {event : Event}
variable {forwarded more own : List Tuple} {sent : List Event}

theorem Tracks.start {context : Context} (none : context.pendingOf Payload.isArrival = []) :
    context.Tracks placement [] := by
  refine ⟨List.nodup_nil, List.forall_mem_nil _, ?_, ?_, ?_⟩
  · rw [none]
    exact List.nodup_nil
  · rw [none]
    exact List.forall_mem_nil _
  · rw [none]
    exact List.forall_mem_nil _

theorem Tracks.id_lt (tracks : before.Tracks placement forwarded) {number : Nat}
    (sentOn : number ∈ forwarded.map (·.id)) : number < before.timings.nextTuple := by
  obtain ⟨tuple, member, rfl⟩ := List.mem_map.mp sentOn
  exact tracks.issued tuple member

theorem Tracks.settle {context : Context} (tracks : context.Tracks placement forwarded) :
    context.settled.Tracks placement forwarded := by
  unfold settled
  split
  · exact ⟨tracks.once, tracks.issued, List.nodup_nil, List.forall_mem_nil _,
      List.forall_mem_nil _⟩
  · exact tracks

theorem arrivingTuples_dispatch (pending : before.agenda.pending = event :: begun.agenda.pending) :
    arrivingTuples (before.pendingOf Payload.isArrival) =
      event.payload.arrivingTuple?.toList ++
        arrivingTuples (begun.pendingOf Payload.isArrival) := by
  have shown (context : Context) : arrivingTuples (context.pendingOf Payload.isArrival) =
      arrivingTuples context.agenda.pending := by
    rw [pendingOf, arrivingTuples, arrivingTuples, List.filterMap_filter]
    refine List.filterMap_congr fun other _ => ?_
    cases other.payload with
    | device _ news => cases news <;> rfl
    | _ => rfl
  rw [shown, shown, pending, arrivingTuples, arrivingTuples, List.filterMap_cons]
  cases event.payload.arrivingTuple? <;> rfl

theorem Tracks.arrived_of_mem (tracks : before.Tracks placement forwarded)
    (timings : begun.timings = before.timings)
    (sends : begun.Sends event.payload.arrivingTuple?.toList sent [] after) {tuple : Tuple}
    (comes : tuple ∈ arrivingTuples sent) (sentOn : tuple.id ∈ forwarded.map (·.id)) :
    ∃ id, event.payload = .device id (.tupleArrival tuple) := by
  have early := tracks.id_lt sentOn
  rcases sends.fresh tuple (by rwa [List.append_nil]) with here | range
  · exact Payload.arrivingTuple?_eq_some_iff.mp (Option.mem_toList.mp here)
  · rw [timings] at range
    omega

theorem Tracks.comes_lt (tracks : before.Tracks placement forwarded)
    (pending : before.agenda.pending = event :: begun.agenda.pending)
    (timings : begun.timings = before.timings)
    (sends : begun.Sends event.payload.arrivingTuple?.toList sent [] after) {tuple : Tuple}
    (comes : tuple ∈ arrivingTuples sent) : tuple.id < after.timings.nextTuple := by
  have ahead := sends.issued
  rcases sends.fresh tuple (by rwa [List.append_nil]) with own | range
  · have early := tracks.known tuple (by
      rw [arrivingTuples_dispatch pending]
      exact List.mem_append_left _ own)
    rw [timings] at ahead
    omega
  · exact range.2

theorem Tracks.waits_ne_comes (tracks : before.Tracks placement forwarded)
    (pending : before.agenda.pending = event :: begun.agenda.pending)
    (timings : begun.timings = before.timings)
    (sends : begun.Sends event.payload.arrivingTuple?.toList sent [] after) {waits comes : Tuple}
    (waiting : waits ∈ arrivingTuples (begun.pendingOf Payload.isArrival))
    (coming : comes ∈ arrivingTuples sent) : waits.id ≠ comes.id := by
  have split := arrivingTuples_dispatch pending
  rcases sends.fresh comes (by rwa [List.append_nil]) with own | range
  · have apart := tracks.apart
    rw [split] at apart
    exact ((nodup_ids_append.mp apart).2.2 comes own waits waiting).symm
  · have early := tracks.known waits (by
      rw [split]
      exact List.mem_append_right _ waiting)
    rw [timings] at range
    omega

theorem Tracks.extend (tracks : before.Tracks placement forwarded)
    (pending : before.agenda.pending = event :: begun.agenda.pending)
    (timings : begun.timings = before.timings)
    (sends : begun.Sends event.payload.arrivingTuple?.toList sent [] after)
    (listed : ∀ tuple ∈ more, tuple ∈ arrivingTuples sent) (distinct : (more.map (·.id)).Nodup)
    (new : ∀ tuple ∈ more, tuple.id ∉ forwarded.map (·.id))
    (placed : ∀ arrival ∈ sent, ∀ id tuple, arrival.payload = .device id (.tupleArrival tuple) →
      tuple.id ∈ (forwarded ++ more).map (·.id) → tuple.destination ∈ placement.modulesOn id) :
    after.Tracks placement (forwarded ++ more) := by
  have split := arrivingTuples_dispatch pending
  have ahead : before.timings.nextTuple ≤ after.timings.nextTuple := timings ▸ sends.issued
  have early : ∀ tuple ∈ arrivingTuples sent, tuple.id < after.timings.nextTuple :=
    fun _ comes => tracks.comes_lt pending timings sends comes
  have arrivals := sends.arrivals.filterMap (·.payload.arrivingTuple?)
  rw [List.filterMap_append] at arrivals
  refine ⟨?_, ?_, ?_, ?_, ?_⟩
  · refine nodup_ids_append.mpr ⟨tracks.once, distinct, ?_⟩
    intro earlier member tuple now same
    exact new tuple now (same ▸ List.mem_map_of_mem member)
  · intro tuple member
    rcases List.mem_append.mp member with old | fresh
    · exact (tracks.issued tuple old).trans_le ahead
    · exact early tuple (listed tuple fresh)
  · refine (arrivals.map (·.id)).nodup_iff.mpr ?_
    have waiting := tracks.apart
    rw [split] at waiting
    refine nodup_ids_append.mpr
      ⟨(nodup_ids_append.mp waiting).2.1, (nodup_ids_append.mp sends.apart).1, ?_⟩
    intro waits waiting comes coming
    exact tracks.waits_ne_comes pending timings sends waiting coming
  · intro tuple member
    rcases List.mem_append.mp (arrivals.subset member) with old | fresh
    · exact (tracks.known tuple (by rw [split]; exact List.mem_append_right _ old)).trans_le ahead
    · exact early tuple fresh
  · intro arrival member id tuple arrives sentOn
    rcases List.mem_append.mp (sends.arrivals.subset member) with old | fresh
    · have waiting : tuple ∈ arrivingTuples (begun.pendingOf Payload.isArrival) :=
        mem_arrivingTuples.mpr ⟨arrival, old, id, arrives⟩
      refine tracks.placed arrival ?_ id tuple arrives ?_
      · obtain ⟨waits, marked⟩ := mem_pendingOf.mp old
        rw [mem_pendingOf, pending]
        exact ⟨List.mem_cons_of_mem event waits, marked⟩
      · rw [List.map_append] at sentOn
        rcases List.mem_append.mp sentOn with earlier | now
        · exact earlier
        · obtain ⟨other, member, same⟩ := List.mem_map.mp now
          exact absurd same.symm
            (tracks.waits_ne_comes pending timings sends waiting (listed other member))
    · exact placed arrival fresh id tuple arrives sentOn

end Context

def Orchestrator.tablesOf? (orchestrator : Orchestrator) (id : DeviceId) :
    Option (SortedMap String Route × SortedMap ActuatorId Nat) :=
  (orchestrator.devices.get? id).bind Device.tables?

def Orchestrator.routesOf? (orchestrator : Orchestrator) (id : DeviceId) :
    Option (SortedMap String Route) :=
  (orchestrator.relay? id).map (·.routes)

theorem Orchestrator.tablesOf?_eq (orchestrator : Orchestrator) (id : DeviceId) :
    orchestrator.tablesOf? id =
      (orchestrator.relay? id).map fun relay => (relay.routes, relay.actuators) := by
  rw [tablesOf?, relay?]
  cases orchestrator.devices.get? id <;> rfl

theorem Orchestrator.routesOf?_eq (orchestrator : Orchestrator) (id : DeviceId) :
    orchestrator.routesOf? id = (orchestrator.tablesOf? id).map Prod.fst := by
  rw [tablesOf?_eq, Option.map_map]
  rfl

theorem Device.Reaction.tables_eq {device next : Device} {event : DeviceEvent}
    {begun reacted : Context} (reaction : Device.Reaction begun device event next reacted) :
    next.tables? = device.tables? := by
  cases reaction with
  | recorder | active | received | launch => rfl
  | @manage relay changed _ deeds | @arrival relay changed _ _ deeds =>
      have setup : changed.setup = relay.setup := deeds.keeps.2
      have routes : changed.routes = relay.routes := congrArg (·.routes) setup
      have actuators : changed.actuators = relay.actuators := congrArg (·.actuators) setup
      simp only [Device.tables?, Device.relay?, Option.map_some, routes, actuators]

theorem Reaction.tables_eq {orchestrator next : Orchestrator} {begun reacted : Context}
    {payload : Payload} (running : begun.halted = false)
    (reaction : Reaction orchestrator begun payload next reacted) :
    next.tablesOf? = orchestrator.tablesOf? := by
  cases reaction with
  | @device id event target changed _ known reacts =>
      funext wanted
      have same := (Device.react_reaction running reacts).tables_eq
      simp only [Orchestrator.tablesOf?, SortedMap.get?_insert]
      split
      next own => rw [own, known]; exact same
      next => rfl
  | _ => rfl

theorem Reaction.routes_eq {orchestrator next : Orchestrator} {begun reacted : Context}
    {payload : Payload} (running : begun.halted = false)
    (reaction : Reaction orchestrator begun payload next reacted) :
    next.routesOf? = orchestrator.routesOf? := by
  funext id
  rw [Orchestrator.routesOf?_eq, Orchestrator.routesOf?_eq, reaction.tables_eq running]

def Orchestrator.LeadsTo (orchestrator : Orchestrator) (placement : Placement) : Prop :=
  ∀ id routes name route, orchestrator.routesOf? id = some routes →
    routes.get? name = some route →
      name ∉ placement.modulesOn id ∧ name ∈ placement.modulesOn route.device

theorem Orchestrator.LeadsTo.route {orchestrator : Orchestrator} {placement : Placement}
    (leads : orchestrator.LeadsTo placement) {id : DeviceId} {relay : Relay} {name : String}
    {route : Route} (known : orchestrator.relay? id = some relay)
    (routed : relay.routes.get? name = some route) :
    name ∉ placement.modulesOn id ∧ name ∈ placement.modulesOn route.device :=
  leads id relay.routes name route (by rw [routesOf?, known]; rfl) routed

namespace Scenario

variable {placement : Placement} {before after : Scenario} {turns : List Turn} {event : Event}
variable {begun reacted : Context} {own hand : List Tuple} {sent : List Event}

theorem forwarded_append (turns : List Turn) (turn : Turn) :
    forwarded (turns ++ [turn]) = forwarded turns ++ arrivingTuples turn.forwards := by
  rw [forwarded, List.flatMap_append, List.flatMap_singleton]
  rfl

theorem forwards_perm
    (dispatches : before.simulation.Dispatches Orchestrator.handle before.orchestrator event
      after.simulation after.orchestrator begun reacted) {id : DeviceId} {news : DeviceEvent}
    (device : event.payload = .device id news) (sends : begun.Sends own sent hand reacted) :
    (Turn.forwards ⟨event, before, after⟩).Perm sent := by
  have running : after.simulation.context.halted = false := by
    have still := (gains_of_dispatches dispatches (by simp [device])).halted
    rw [dispatches.begun_running] at still
    rw [dispatches.context, Context.settled, if_neg (by simp [still])]
    exact still
  obtain ⟨entered, advances, since, _⟩ := dispatches.since_perm running
  have pending := advances.pending.filter (·.payload.isArrival)
  rw [List.filter_append] at pending
  have new := (List.perm_append_left_iff _).mp (pending.symm.trans sends.arrivals)
  simp only [Turn.forwards, device]
  exact (since.filter _).trans new

theorem forwards_eq_nil (other : ¬∃ id news, event.payload = .device id news) :
    Turn.forwards ⟨event, before, after⟩ = [] := by
  unfold Turn.forwards
  split
  next id news payload => exact absurd ⟨id, news, payload⟩ other
  · rfl

/-- What a relay sends on was not sent on before: then it would just have arrived at a host, and a
host has no route for it. -/
theorem forwards_new (tracks : before.simulation.context.Tracks placement (forwarded turns))
    (dispatches : before.simulation.Dispatches Orchestrator.handle before.orchestrator event
      after.simulation after.orchestrator begun reacted)
    (leads : before.orchestrator.LeadsTo placement)
    (sends : begun.Sends event.payload.arrivingTuple?.toList sent [] reacted) {id : DeviceId}
    {news : DeviceEvent} (device : event.payload = .device id news)
    (forwards : ∀ arrival ∈ sent, ∃ relay,
      before.orchestrator.relay? id = some relay ∧ relay.Forwards event.time arrival)
    {tuple : Tuple} (comes : tuple ∈ arrivingTuples sent) :
    tuple.id ∉ (forwarded turns).map (·.id) := by
  intro sentOn
  obtain ⟨place, reaches⟩ := tracks.arrived_of_mem dispatches.begun_timings sends comes sentOn
  have pending : event ∈ before.simulation.context.pendingOf Payload.isArrival := by
    rw [pendingOf_of_mark dispatches (by rw [reaches]; rfl)]
    exact List.mem_cons_self
  have placed := tracks.placed event pending place tuple reaches sentOn
  obtain ⟨arrival, member, target, payload⟩ := mem_arrivingTuples.mp comes
  obtain ⟨relay, known, other, route, _, routed, same, _⟩ := forwards arrival member
  rw [payload] at same
  cases same
  rw [reaches] at device
  cases device
  exact (leads.route known routed).1 placed

theorem tracks_turn
    (tracks : before.simulation.context.Tracks placement (forwarded turns))
    (dispatches : before.simulation.Dispatches Orchestrator.handle before.orchestrator event
      after.simulation after.orchestrator begun reacted)
    (leads : before.orchestrator.LeadsTo placement) :
    after.simulation.context.Tracks placement (forwarded (turns ++ [⟨event, before, after⟩])) ∧
      ∀ arrival ∈ Turn.forwards ⟨event, before, after⟩, ∃ id news relay,
        event.payload = .device id news ∧ before.orchestrator.relay? id = some relay ∧
        relay.Forwards event.time arrival := by
  have timings := dispatches.begun_timings
  have old : ∀ tuple ∈ event.payload.arrivingTuple?.toList,
      tuple.id < begun.timings.nextTuple := by
    intro tuple member
    rw [timings]
    refine tracks.known tuple ?_
    rw [Context.arrivingTuples_dispatch dispatches.pending]
    exact List.mem_append_left _ member
  obtain ⟨sent, sends, forwards⟩ := dispatches.reaction.sends dispatches.begun_running old
  rw [dispatches.begun_now] at forwards
  rw [forwarded_append, dispatches.context]
  by_cases device : ∃ id news, event.payload = .device id news
  · obtain ⟨id, news, device⟩ := device
    have own := forwards id news device
    have same := forwards_perm dispatches device sends
    have tuples : (arrivingTuples (Turn.forwards ⟨event, before, after⟩)).Perm
        (arrivingTuples sent) := same.filterMap _
    have apart := (nodup_ids_append.mp sends.apart).1
    constructor
    · refine (tracks.extend dispatches.pending timings sends
        (fun tuple member => tuples.subset member) ((tuples.map _).nodup_iff.mpr apart)
        (fun tuple member => forwards_new tracks dispatches leads sends device own
          (tuples.subset member)) ?_).settle
      intro arrival comes target tuple arrives _
      obtain ⟨relay, known, other, route, _, routed, payload, _⟩ := own arrival comes
      rw [arrives] at payload
      cases payload
      exact (leads.route known routed).2
    · intro arrival member
      obtain ⟨relay, known, forwards⟩ := own arrival (same.subset member)
      exact ⟨id, news, relay, device, known, forwards⟩
  · have tracked : reacted.Tracks placement (forwarded turns ++ []) := by
      refine tracks.extend dispatches.pending timings sends (by simp) List.nodup_nil (by simp) ?_
      intro arrival comes target tuple arrives sentOn
      rw [List.append_nil] at sentOn
      have listed := mem_arrivingTuples.mpr ⟨arrival, comes, target, arrives⟩
      obtain ⟨id, payload⟩ := tracks.arrived_of_mem timings sends listed sentOn
      exact absurd ⟨id, _, payload⟩ device
    rw [forwards_eq_nil device]
    exact ⟨tracked.settle, by simp⟩

theorem Reached.tracks {started scenario : Scenario}
    (none : started.simulation.context.pendingOf Payload.isArrival = [])
    (leads : started.orchestrator.LeadsTo placement) (reached : started.Reached turns scenario) :
    scenario.simulation.context.Tracks placement (forwarded turns) ∧
      ∀ turn ∈ turns, ∀ arrival ∈ turn.forwards, ∃ id news relay,
        turn.event.payload = .device id news ∧ turn.before.orchestrator.relay? id = some relay ∧
        relay.Forwards turn.event.time arrival := by
  refine (reached.keeps (motive := fun turns scenario =>
    scenario.orchestrator.routesOf? = started.orchestrator.routesOf? ∧
    scenario.simulation.context.Tracks placement (forwarded turns) ∧
      ∀ turn ∈ turns, ∀ arrival ∈ turn.forwards, ∃ id news relay,
        turn.event.payload = .device id news ∧ turn.before.orchestrator.relay? id = some relay ∧
        relay.Forwards turn.event.time arrival) ⟨rfl, .start none, by simp⟩ ?_).2
  intro turns before event after begun reacted earlier dispatches
  obtain ⟨routes, tracks, along⟩ := earlier
  have leading : before.orchestrator.LeadsTo placement := by
    rw [Orchestrator.LeadsTo, routes]
    exact leads
  obtain ⟨still, new⟩ := tracks_turn tracks dispatches leading
  refine ⟨(dispatches.reaction.routes_eq dispatches.begun_running).trans routes, still, ?_⟩
  intro turn member
  rcases List.mem_append.mp member with old | last
  · exact along turn old
  · obtain rfl := List.mem_singleton.mp last
    exact new

end Scenario

namespace Blueprint

variable {blueprint : Blueprint} {built started scenario : Scenario} {turns : List Turn}

theorem Unrouted.forwards (unrouted : blueprint.Unrouted)
    (builds : blueprint.build.outcome = .ok (.ok built))
    (begun : built.Begun started turns scenario) :
    ((Scenario.forwarded turns).map (·.id)).Nodup ∧
      ∀ turn ∈ turns, ∀ arrival ∈ turn.forwards, ∃ id news tuple route,
        turn.event.payload = .device id news ∧
        arrival.payload = .device route.device (.tupleArrival tuple) ∧
        built.orchestrator.placement.Nearest built.orchestrator.devices id tuple.destination
          route ∧
        arrival.time.ticks = turn.event.time.ticks + route.latency := by
  obtain ⟨reached, asks, time, same⟩ := begun_cases builds begun
  have none : started.simulation.context.pendingOf Payload.isArrival = [] :=
    asks.pendingOf_eq fun _ _ calls => calls.calls.isArrival_eq_false
  have static : started.orchestrator.routesOf? = built.orchestrator.routesOf? := by
    rw [same]
    rfl
  have nearest : ∀ id routes name route, started.orchestrator.routesOf? id = some routes →
      routes.get? name = some route →
        name ∉ built.orchestrator.placement.modulesOn id ∧
          built.orchestrator.placement.Nearest built.orchestrator.devices id name route := by
    intro id routes name route known routed
    rw [static] at known
    obtain ⟨relay, found, rfl⟩ := Option.map_eq_some_iff.mp known
    exact unrouted.nearest builds (Orchestrator.relay?_eq_some_iff.mp found) routed
  obtain ⟨tracks, along⟩ := reached.tracks none
    fun id routes name route known routed =>
      (nearest id routes name route known routed).imp_right fun nearest =>
        Placement.mem_modulesOn nearest.host
  refine ⟨tracks.once, ?_⟩
  intro turn member arrival sent
  obtain ⟨id, news, relay, device, known, tuple, route, _, routed, payload, due⟩ :=
    along turn member arrival sent
  refine ⟨id, news, tuple, route, device, payload, ?_, due⟩
  have routes := congrFun ((reached.unchanged Orchestrator.routesOf?
    fun running reaction => reaction.routes_eq running).1 turn member) id
  rw [Orchestrator.routesOf?, known] at routes
  exact (nearest id relay.routes _ route routes.symm routed).2

/-- A built relay that came without routes has one for each module that is placed elsewhere and can
be reached, and it leads to the nearest host. If no relay came with routes, tuples are only sent on
to hosts of their modules, each at most once, and arrive as much later as the path is long. Relays
that had nothing to execute in the beginning then run the module. -/
theorem routes_to_nearest_hosts (builds : blueprint.build.outcome = .ok (.ok built)) :
    let devices := built.orchestrator.devices
    let placement := built.orchestrator.placement
    (∀ mapped, blueprint.mapped = some mapped → mapped.mapping.resolve devices = .ok placement) ∧
    (∀ relay ∈ blueprint.relays, relay.routes = .empty → ∃ wired,
      built.orchestrator.relay? relay.id = some wired ∧
      ∀ name,
        (wired.routes.contains name = true ↔ name ∉ placement.modulesOn relay.id ∧
          ∃ host ∈ placement.devicesFor name, ∃ latency,
            pathLatency devices relay.id host = .ok (some latency)) ∧
        ∀ route, wired.routes.get? name = some route ↔ name ∉ placement.modulesOn relay.id ∧
          placement.Nearest devices relay.id name route) ∧
    (blueprint.Unrouted → ∀ started turns scenario, built.Begun started turns scenario →
      ((Scenario.forwarded turns).map (·.id)).Nodup ∧
      ∀ turn ∈ turns, ∀ arrival ∈ turn.forwards, ∃ relay target tuple latency,
        turn.SendsOn devices placement relay target tuple latency arrival ∧
        (∀ later ∈ turns, later.event = arrival →
          later.after.simulation.currentTime = arrival.time ∧
            (blueprint.Idle → later.before.orchestrator.Hosts target tuple.destination)) ∧
        (scenario.simulation.isTerminated = false →
          arrival ∈ scenario.simulation.context.agenda.pending ∨
            ∃ later ∈ turns, later.event = arrival)) := by
  intro devices placement
  refine ⟨fun mapped some => build_resolved builds some, ?_, ?_⟩
  · intro relay listed fresh
    obtain ⟨wired, known, routes⟩ := build_route_iff builds listed
    have all (name : String) := routes name (by rw [fresh]; rfl)
    refine ⟨wired, known, fun name => ⟨?_, all name⟩⟩
    rw [SortedMap.contains, Option.isSome_iff_exists, ← Placement.exists_nearest_iff,
      ← exists_and_left]
    exact exists_congr (all name)
  · intro unrouted started turns scenario begun
    obtain ⟨once, along⟩ := unrouted.forwards builds begun
    obtain ⟨reached, _⟩ := begun_cases builds begun
    refine ⟨once, ?_⟩
    intro turn member arrival sent
    obtain ⟨id, news, tuple, route, device, payload, nearest, due⟩ :=
      along turn member arrival sent
    have hosted := Placement.mem_modulesOn nearest.host
    refine ⟨id, route.device, tuple, route.latency,
      ⟨⟨news, device⟩, payload, hosted, nearest.reached, ?_⟩, ?_, ?_⟩
    · rw [reached.currentTime_eq turn member]
      exact due
    · rintro later visited rfl
      exact ⟨reached.currentTime_eq later visited, fun idle =>
        hosts_prepared builds idle begun visited (by rw [payload]; rfl) hosted⟩
    · intro running
      have scheduled : arrival ∈ started.scheduled turns := by
        refine List.mem_append_right _ (List.mem_flatMap.mpr ⟨turn, member, ?_⟩)
        simp only [Turn.forwards, device] at sent
        exact (List.mem_filter.mp sent).1
      exact reached.happened_or_pending running scheduled

end Blueprint

namespace Demo

theorem hall_unrouted : hall.Unrouted := by
  constructor
  · intro relay listed
    simp [hall] at listed
  · intro relay listed
    simp only [hall, List.mem_cons, List.not_mem_nil, or_false] at listed
    rcases listed with rfl | rfl | rfl <;> rfl

theorem hall_idle : hall.Idle := by
  constructor
  · intro device listed
    obtain rfl : device = .recorder (.named ⟨3⟩ "log") := by simpa [hall] using listed
    trivial
  · intro relay listed
    simp only [hall, List.mem_cons, List.not_mem_nil, or_false] at listed
    rcases listed with rfl | rfl | rfl <;> rfl

theorem hall_forwards : ∃ built started desk,
    hall.build.outcome = .ok (.ok built) ∧ built.start.outcome = .ok (.ok (), started) ∧
      built.orchestrator.relay? ⟨0⟩ = some desk ∧
      desk.routes.get? "light" = some ⟨⟨1⟩, 4⟩ ∧
      (Scenario.forwarded (started.firstTurns 44)).map (·.id) = [3, 5, 8] := by
  have sends : (hall.after? []).any (fun built =>
      (built.orchestrator.relay? ⟨0⟩).any (fun desk =>
        decide (desk.routes.get? "light" = some ⟨⟨1⟩, 4⟩)) &&
      built.started?.any fun started =>
        decide ((Scenario.forwarded (started.firstTurns 44)).map (·.id) = [3, 5, 8])) = true := by
    decide +kernel
  obtain ⟨scenario, left, sends⟩ := (Option.any_eq_true _ _).mp sends
  obtain ⟨built, builds, same⟩ := Blueprint.after?_eq_some left
  cases same
  obtain ⟨routed, sends⟩ := Bool.and_eq_true_iff.mp sends
  obtain ⟨desk, known, route⟩ := (Option.any_eq_true _ _).mp routed
  obtain ⟨started, begins, sent⟩ := (Option.any_eq_true _ _).mp sends
  exact ⟨_, started, desk, builds, Scenario.started?_eq_some begins, known,
    of_decide_eq_true route, of_decide_eq_true sent⟩

end Demo

theorem Blueprint.routes_to_nearest_hosts_hall : ∃ built started desk turns ended,
    Demo.hall.build.outcome = .ok (.ok built) ∧ Demo.hall.Unrouted ∧
      built.orchestrator.relay? ⟨0⟩ = some desk ∧
      desk.routes.get? "light" = some ⟨⟨1⟩, 4⟩ ∧
      built.orchestrator.placement.Nearest built.orchestrator.devices ⟨0⟩ "light" ⟨⟨1⟩, 4⟩ ∧
      built.Begun started turns ended ∧
      (Scenario.forwarded turns).map (·.id) = [3, 5, 8] ∧
      ∀ turn ∈ turns, ∀ arrival ∈ turn.forwards, ∃ relay target tuple latency,
        turn.SendsOn built.orchestrator.devices built.orchestrator.placement relay target tuple
          latency arrival ∧
        ∀ later ∈ turns, later.event = arrival →
          later.before.orchestrator.Hosts target tuple.destination := by
  obtain ⟨built, started, desk, builds, begins, known, routed, sent⟩ := Demo.hall_forwards
  obtain ⟨ended, reached⟩ := started.reached_firstTurns 44
  obtain ⟨_, routes, along⟩ := routes_to_nearest_hosts builds
  obtain ⟨wired, knownToo, nearest⟩ := routes (.named ⟨0⟩ "desk") (by simp [Demo.hall]) rfl
  rw [show built.orchestrator.relay? (Relay.named ⟨0⟩ "desk").id =
    built.orchestrator.relay? ⟨0⟩ from rfl, known] at knownToo
  obtain rfl := Option.some.inj knownToo
  have begun : built.Begun started (started.firstTurns 44) ended := .inr ⟨begins, reached⟩
  refine ⟨built, started, desk, _, ended, builds, Demo.hall_unrouted, known, routed, ?_, begun,
    sent, ?_⟩
  · exact (((nearest "light").2 ⟨⟨1⟩, 4⟩).mp routed).2
  · intro turn member arrival sends
    obtain ⟨relay, target, tuple, latency, onward, arrives, _⟩ :=
      (along Demo.hall_unrouted started _ ended begun).2 turn member arrival sends
    exact ⟨relay, target, tuple, latency, onward, fun later visited same =>
      (arrives later visited same).2 Demo.hall_idle⟩

end FogNetwork
