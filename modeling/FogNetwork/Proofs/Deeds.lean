import FogNetwork.Device.Basic
import FogNetwork.Proofs.Acts
import Mathlib.Logic.Relation

/-! What a relay does while it reacts to one event, as single deeds. Every reaction is a sequence
of them, so what each deed keeps the reaction keeps. -/

namespace FogNetwork

/-- A relay at work. It has `taken` tuples out of its queue that are still to be executed and has
`done` others, and at most one tuple is in its `hand` to be placed. -/
structure Bench where
  context : Context
  relay : Relay
  taken : List Tuple
  hand : List Tuple
  done : List Tuple

namespace Relay

inductive Deed : Bench → Bench → Prop
  | queue {bench : Bench} {tuple : Tuple} (held : bench.hand = [tuple])
      (hosted : bench.relay.hosts tuple.destination = true) :
      Deed bench
        { bench with
          context := { bench.context with
            timings := bench.context.timings.beginExecution tuple.id bench.context.now
            usage := bench.context.usage.countReceived tuple.destination }
          relay := { bench.relay with north := bench.relay.north ++ [tuple] }
          hand := [] }
  | park {bench : Bench} {tuple : Tuple} (held : bench.hand = [tuple])
      (elsewhere : bench.relay.hosts tuple.destination = false)
      (unrouted : bench.relay.routes.get? tuple.destination = none) :
      Deed bench
        { bench with
          relay := { bench.relay with south := bench.relay.south ++ [tuple] }
          hand := [] }
  | forward {bench : Bench} {tuple : Tuple} {route : Route} {usage : Usage} {time : Time}
      {after : Context} (held : bench.hand = [tuple])
      (elsewhere : bench.relay.hosts tuple.destination = false)
      (routed : bench.relay.routes.get? tuple.destination = some route)
      (moved : bench.context.usage.transfer? tuple.size = some usage)
      (reached : bench.context.now.after? route.latency = some time)
      (sent : { bench.context with usage := usage }.Enters
        ⟨bench.context.agenda.nextEventId, time, .device route.device (.tupleArrival tuple)⟩
        after) :
      Deed bench { bench with context := after, hand := [] }
  | derive {bench : Bench} {parent : Tuple} {application : Application} {edge : Edge}
      (free : bench.hand = []) (executed : parent ∈ bench.done)
      (known : bench.relay.application = some application)
      (leaves : edge ∈ application.edgesFrom parent.destination)
      (outward : edge.kind ≠ .sensor) :
      Deed bench
        { bench with
          context := { bench.context with
            timings := bench.context.timings.issue.2
            usage := bench.context.usage.countSent parent.destination }
          hand := [Tuple.derived bench.context.timings.nextTuple parent edge] }
  | deliver {bench : Bench} {parent tuple : Tuple} {application : Application} {edge : Edge}
      {id : Nat} {actuator : ActuatorId} {usage : Usage} {time : Time} {after : Context}
      (held : bench.hand = [tuple]) (born : tuple = Tuple.derived id parent edge)
      (known : bench.relay.application = some application)
      (leaves : edge ∈ application.edgesFrom parent.destination) (kind : edge.kind = .actuator)
      (target : actuator ∈ bench.relay.targets parent.destination edge.tupleType)
      (moved : bench.context.usage.transfer? tuple.size = some usage)
      (reached : bench.context.now.after? (bench.relay.actuators.getD actuator 0) = some time)
      (sent : { bench.context with usage := usage }.Enters
        ⟨bench.context.agenda.nextEventId, time, .delivery actuator tuple⟩ after) :
      Deed bench { bench with context := after, hand := [] }
  | execute {bench : Bench} {tuple : Tuple} {rest : List Tuple} (free : bench.hand = [])
      (next : bench.taken = tuple :: rest) :
      Deed bench
        { bench with
          context := { bench.context with
            timings := (bench.context.timings.endExecution tuple.id tuple.tupleType
              bench.context.now).2
            usage := bench.context.usage.countProcessed tuple.destination }
          relay := { bench.relay with
            energy := bench.relay.energy + bench.relay.busyPower * Float.ofNat tuple.cpuLength
            executed := bench.relay.executed + 1 }
          taken := rest
          done := bench.done ++ [tuple] }
  | pass {bench : Bench} {tuple : Tuple} {application : Application}
      (executed : tuple ∈ bench.done) (known : bench.relay.application = some application) :
      Deed bench
        { bench with
          context := { bench.context with
            timings := bench.context.timings.passModule tuple.destination tuple.root
              bench.context.now application.loops } }
  | take {bench : Bench} (idle : bench.taken = []) :
      Deed bench
        { bench with
          relay := { bench.relay with north := (round bench.relay.budget bench.relay.north).2 }
          taken := (round bench.relay.budget bench.relay.north).1 }
  | rearm {bench : Bench} {time : Time} {after : Context}
      (lapsed : ∀ time, bench.relay.nextTick = some time → time.ticks ≤ bench.context.now.ticks)
      (reached : bench.context.now.after? bench.relay.interval = some time)
      (asked : bench.context.Enters
        ⟨bench.context.agenda.nextEventId, time, .device bench.relay.id .manageResources⟩ after) :
      Deed bench
        { bench with context := after, relay := { bench.relay with nextTick := some time } }
  | charge {bench : Bench} :
      Deed bench { bench with relay := bench.relay.chargeIdle bench.context.now }

abbrev Deeds : Bench → Bench → Prop := Relation.ReflTransGen Deed

def setup (relay : Relay) : Relay :=
  { relay with
    north := []
    south := []
    energy := 0
    nextTick := none
    lastManaged := .zero
    executed := 0 }

theorem Deed.keeps {before after : Bench} (deed : Deed before after) :
    after.context.halted = before.context.halted ∧ after.relay.setup = before.relay.setup := by
  cases deed with
  | forward _ _ _ _ _ sent => exact ⟨sent.halted, rfl⟩
  | deliver _ _ _ _ _ _ _ _ sent => exact ⟨sent.halted, rfl⟩
  | rearm _ _ asked => exact ⟨asked.halted, rfl⟩
  | queue | park | derive | execute | pass | take | charge => exact ⟨rfl, rfl⟩

theorem Deeds.keeps {before after : Bench} (deeds : Deeds before after) :
    after.context.halted = before.context.halted ∧ after.relay.setup = before.relay.setup := by
  induction deeds with
  | refl => exact ⟨rfl, rfl⟩
  | tail _ deed ih =>
      obtain ⟨halted, setup⟩ := deed.keeps
      exact ⟨halted.trans ih.1, setup.trans ih.2⟩

section Reactions

variable {relay next : Relay} {context after : Context} {tuple : Tuple} {taken done : List Tuple}

theorem accept_cases (running : context.halted = false)
    (ended : (relay.accept tuple).Ends context next after) :
    (relay.hosts tuple.destination = true ∧ next = { relay with north := relay.north ++ [tuple] } ∧
        after = { context with
          timings := context.timings.beginExecution tuple.id context.now
          usage := context.usage.countReceived tuple.destination }) ∨
      relay.hosts tuple.destination = false ∧
        ((∃ route usage time, relay.routes.get? tuple.destination = some route ∧
            context.usage.transfer? tuple.size = some usage ∧
            context.now.after? route.latency = some time ∧
            { context with usage := usage }.Enters ⟨context.agenda.nextEventId, time,
              .device route.device (.tupleArrival tuple)⟩ after ∧ next = relay) ∨
          (relay.routes.get? tuple.destination = none ∧
            next = { relay with south := relay.south ++ [tuple] } ∧ after = context)) := by
  unfold accept at ended
  split at ended
  next hosted =>
    simp only [Act.ends_bind_iff, Act.ends_now_iff, Act.ends_changeUsage_iff,
      Act.ends_changeTimings_iff, Act.ends_pure_iff] at ended
    obtain ⟨_, _, ⟨rfl, rfl⟩, _, _, rfl, _, _, rfl, rfl, rfl⟩ := ended
    exact .inl ⟨hosted, rfl, rfl⟩
  next elsewhere =>
    rw [Bool.not_eq_true] at elsewhere
    refine .inr ⟨elsewhere, ?_⟩
    split at ended
    next route routed =>
      simp only [Act.send, Act.ends_bind_iff, Act.ends_note_iff, Act.ends_transfer_iff,
        Act.ends_pure_iff] at ended
      obtain ⟨_, _, rfl, id, _, ⟨_, _, ⟨usage, moved, rfl⟩, sent⟩, rfl, rfl⟩ := ended
      obtain ⟨time, reached, entered⟩ := Act.scheduleAfter_enters (by exact running) sent
      exact .inl ⟨route, usage, time, routed, moved, reached, entered, rfl⟩
    next unrouted =>
      simp only [Act.ends_bind_iff, Act.ends_note_iff, Act.ends_pure_iff] at ended
      obtain ⟨_, _, rfl, rfl, rfl⟩ := ended
      exact .inr ⟨unrouted, rfl, rfl⟩

theorem accept_deeds (running : context.halted = false)
    (ended : (relay.accept tuple).Ends context next after) :
    Deeds ⟨context, relay, taken, [tuple], done⟩ ⟨after, next, taken, [], done⟩ := by
  rcases accept_cases running ended with ⟨hosted, rfl, rfl⟩ |
    ⟨elsewhere, ⟨route, usage, time, routed, moved, reached, entered, rfl⟩ | ⟨unrouted, rfl, rfl⟩⟩
  · exact .single (.queue rfl hosted)
  · exact .single (.forward rfl elsewhere routed moved reached entered)
  · exact .single (.park rfl elsewhere unrouted)

variable {parent : Tuple} {edge : Edge} {application : Application}

theorem deliver_ends {actuator : ActuatorId} {done : Unit} (running : context.halted = false)
    (ended : (relay.deliver parent edge actuator).Ends context done after) :
    ∃ usage time,
      (context.usage.countSent parent.destination).transfer? edge.dataSize = some usage ∧
      context.now.after? (relay.actuators.getD actuator 0) = some time ∧
      { context with timings := context.timings.issue.2, usage := usage }.Enters
        ⟨context.agenda.nextEventId, time,
          .delivery actuator (Tuple.derived context.timings.nextTuple parent edge)⟩ after := by
  simp only [deliver, Act.sendToActuator, Act.ends_bind_iff, Act.ends_withTimings_iff,
    Act.ends_changeUsage_iff, Act.ends_transfer_iff, Act.ends_pure_iff] at ended
  obtain ⟨_, _, ⟨rfl, rfl⟩, _, _, rfl, _, _, ⟨_, _, ⟨usage, moved, rfl⟩, sent⟩, _, rfl⟩ := ended
  obtain ⟨time, reached, entered⟩ := Act.scheduleAfter_enters (by exact running) sent
  exact ⟨usage, time, moved, reached, entered⟩

theorem deliver_deeds {actuator : ActuatorId} {done' : Unit} (running : context.halted = false)
    (executed : parent ∈ done) (known : relay.application = some application)
    (leaves : edge ∈ application.edgesFrom parent.destination) (kind : edge.kind = .actuator)
    (target : actuator ∈ relay.targets parent.destination edge.tupleType)
    (ended : (relay.deliver parent edge actuator).Ends context done' after) :
    Deeds ⟨context, relay, taken, [], done⟩ ⟨after, relay, taken, [], done⟩ := by
  obtain ⟨usage, time, moved, reached, entered⟩ := deliver_ends running ended
  have outward : edge.kind ≠ .sensor := by simp [kind]
  exact .tail (.single (.derive rfl executed known leaves outward))
    (.deliver rfl rfl known leaves kind target moved reached entered)

theorem emitAlong_deeds (running : context.halted = false) (executed : parent ∈ done)
    (known : relay.application = some application)
    (leaves : edge ∈ application.edgesFrom parent.destination)
    (ended : (relay.emitAlong parent edge).Ends context next after) :
    Deeds ⟨context, relay, taken, [], done⟩ ⟨after, next, taken, [], done⟩ := by
  unfold emitAlong at ended
  split at ended
  · obtain ⟨rfl, rfl⟩ := Act.ends_pure_iff.mp ended
    exact .refl
  next kind =>
    simp only [Act.ends_bind_iff, Act.ends_withTimings_iff, Act.ends_changeUsage_iff] at ended
    obtain ⟨_, _, ⟨rfl, rfl⟩, _, _, rfl, accepted⟩ := ended
    have outward : edge.kind ≠ .sensor := by simp [kind]
    exact .head (.derive rfl executed known leaves outward) (accept_deeds running accepted)
  next kind =>
    simp only [Act.ends_bind_iff, Act.ends_pure_iff] at ended
    obtain ⟨_, _, delivered, rfl, rfl⟩ := ended
    -- Along the way, what is still to be delivered to are targets.
    refine (Act.forM_keeps (motive := fun targets between =>
      (∀ actuator ∈ targets, actuator ∈ next.targets parent.destination edge.tupleType) ∧
        Deeds ⟨context, next, taken, [], done⟩ ⟨between, next, taken, [], done⟩)
      ?_ ⟨fun _ member => member, .refl⟩ delivered).2
    intro actuator rest before between _ ⟨targets, so_far⟩ delivered
    have still : before.halted = false := so_far.keeps.1.trans running
    refine ⟨fun other member => targets other (by simp [member]), so_far.trans ?_⟩
    exact deliver_deeds still executed known leaves kind (targets actuator (by simp)) delivered

theorem execute_deeds {rest : List Tuple} (running : context.halted = false)
    (ended : (relay.execute tuple).Ends context next after) :
    Deeds ⟨context, relay, tuple :: rest, [], done⟩ ⟨after, next, rest, [], done ++ [tuple]⟩ := by
  simp only [execute, Act.ends_bind_iff, Act.ends_endExecution_iff,
    Act.ends_changeUsage_iff] at ended
  obtain ⟨_, _, ⟨rfl, rfl⟩, _, _, rfl, ended⟩ := ended
  refine .head (.execute rfl rfl) ?_
  have last : tuple ∈ done ++ [tuple] := by simp
  split at ended
  next unknown =>
    simp only [Act.ends_bind_iff, Act.ends_note_iff, Act.ends_pure_iff] at ended
    obtain ⟨_, _, rfl, rfl, rfl⟩ := ended
    exact .refl
  next application known =>
    simp only [Act.ends_bind_iff, Act.ends_now_iff, Act.ends_changeTimings_iff] at ended
    obtain ⟨_, _, ⟨rfl, rfl⟩, _, _, rfl, emitted⟩ := ended
    refine .head (.pass last known) ?_
    -- Along the way, what is still to be emitted along are edges of the application that the
    -- relay still runs.
    refine (Act.foldlM_keeps (motive := fun edges between relay =>
      (∀ edge ∈ edges, edge ∈ application.edgesFrom tuple.destination) ∧
        relay.application = some application ∧ Deeds _ ⟨between, relay, rest, [], done ++ [tuple]⟩)
      ?_ ⟨fun _ member => member, by exact known, .refl⟩ emitted).2.2
    intro edge edges before relay between next ⟨leave, knows, so_far⟩ emitted
    have still : before.halted = false := so_far.keeps.1.trans running
    have deeds : Deeds ⟨before, relay, rest, [], done ++ [tuple]⟩ ⟨_, next, rest, [], _⟩ :=
      emitAlong_deeds still last knows (leave edge (by simp)) emitted
    refine ⟨fun other member => leave other (by simp [member]), ?_, so_far.trans deeds⟩
    have setup := deeds.keeps.2
    exact (congrArg Relay.application setup).trans knows

theorem rearm_cases (running : context.halted = false)
    (ended : relay.rearm.Ends context next after) :
    ((∀ time, relay.nextTick = some time → time.ticks ≤ context.now.ticks) ∧
      ∃ time, context.now.after? relay.interval = some time ∧
        context.Enters
          ⟨context.agenda.nextEventId, time, .device relay.id .manageResources⟩ after ∧
        next = { relay with nextTick := some time }) ∨
    ∃ time, relay.nextTick = some time ∧ context.now.ticks < time.ticks ∧ next = relay ∧
      after = context := by
  simp only [rearm, Act.ends_bind_iff, Act.ends_now_iff] at ended
  obtain ⟨_, _, ⟨rfl, rfl⟩, ended⟩ := ended
  split at ended
  next due =>
    simp only [Act.manageLater, Act.ends_bind_iff, Act.ends_pure_iff] at ended
    obtain ⟨_, _, asked, rfl, rfl⟩ := ended
    obtain ⟨time, reached, entered⟩ := Act.scheduleAfter_enters running asked
    refine .inl ⟨?_, time, reached, entered, by rw [reached]⟩
    intro time next
    simpa [next] using due
  next armed =>
    obtain ⟨rfl, rfl⟩ := Act.ends_pure_iff.mp ended
    cases tick : next.nextTick with
    | none => simp [tick] at armed
    | some time => exact .inr ⟨time, rfl, by simpa [tick] using armed, rfl, rfl⟩

theorem rearm_deeds (running : context.halted = false)
    (ended : relay.rearm.Ends context next after) :
    Deeds ⟨context, relay, taken, [], done⟩ ⟨after, next, taken, [], done⟩ := by
  rcases rearm_cases running ended with ⟨lapsed, time, reached, entered, rfl⟩ | ⟨_, _, _, rfl, rfl⟩
  · exact .single (.rearm lapsed reached entered)
  · exact .refl

/-- A relay in the middle of a management round that began in the context `begun`: of the tuples
taken, some are done and the `rest` is still to be executed. -/
def Serving (relay : Relay) (begun : Context) (rest : List Tuple) (context : Context)
    (next : Relay) : Prop :=
  ∃ done, (round relay.budget relay.north).1 = done ++ rest ∧
    Deeds ⟨begun, relay, [], [], []⟩ ⟨context, next, rest, [], done⟩

theorem Serving.begin {armed : Relay} (running : context.halted = false)
    (rearmed : relay.rearm.Ends context armed after) :
    (armed.chargeIdle after.now).budget = relay.budget ∧
      (armed.chargeIdle after.now).north = relay.north ∧
      Serving relay context (round relay.budget relay.north).1 after
        { armed.chargeIdle after.now with north := (round relay.budget relay.north).2 } := by
  have queue : armed.budget = relay.budget ∧ armed.north = relay.north := by
    rcases rearm_cases running rearmed with ⟨_, _, _, _, rfl⟩ | ⟨_, _, _, rfl, _⟩
    · exact ⟨rfl, rfl⟩
    · exact ⟨rfl, rfl⟩
  refine ⟨queue.1, queue.2, [], rfl, ?_⟩
  have first : Deeds ⟨context, relay, [], [], []⟩ ⟨after, armed, [], [], []⟩ :=
    rearm_deeds running rearmed
  have deeds := (first.tail .charge).tail (.take rfl)
  rwa [show (armed.chargeIdle after.now).budget = relay.budget from queue.1,
    show (armed.chargeIdle after.now).north = relay.north from queue.2] at deeds

theorem Serving.step {begun : Context} {rest : List Tuple} {working : Relay}
    (running : begun.halted = false)
    (serving : Serving relay begun (tuple :: rest) context working)
    (ended : (working.execute tuple).Ends context next after) :
    Serving relay begun rest after next := by
  obtain ⟨done, all, so_far⟩ := serving
  have still : context.halted = false := so_far.keeps.1.trans running
  exact ⟨done ++ [tuple], by simp [all], so_far.trans (execute_deeds still ended)⟩

theorem manage_serves (running : context.halted = false)
    (ended : relay.manage.Ends context next after) :
    ∃ between first, Serving relay context (round relay.budget relay.north).1 between first ∧
      between.usage = context.usage ∧
      ((round relay.budget relay.north).1.foldlM execute first).Ends between next after := by
  simp only [manage, serve, Act.ends_bind_iff, Act.ends_now_iff] at ended
  obtain ⟨armed, _, rearmed, _, between, ⟨rfl, rfl⟩, served⟩ := ended
  obtain ⟨budget, north, begins⟩ := Serving.begin running rearmed
  rw [budget, north] at served
  have unspent : between.usage = context.usage := by
    rcases rearm_cases running rearmed with ⟨_, _, _, asked, _⟩ | ⟨_, _, _, _, rfl⟩
    · exact asked.usage
    · rfl
  exact ⟨between, _, begins, unspent, served⟩

theorem manage_deeds (running : context.halted = false)
    (ended : relay.manage.Ends context next after) :
    Deeds ⟨context, relay, [], [], []⟩
      ⟨after, next, [], [], (round relay.budget relay.north).1⟩ := by
  obtain ⟨between, first, begins, _, served⟩ := manage_serves running ended
  obtain ⟨done, all, deeds⟩ := Act.foldlM_keeps (motive := Serving relay context)
    (fun _ _ _ _ _ _ serving ended => serving.step running ended) begins served
  rw [all, List.append_nil]
  exact deeds

theorem manage_executes (running : context.halted = false)
    (ended : relay.manage.Ends context next after) :
    ∀ tuple ∈ (round relay.budget relay.north).1, ∃ rest before working later executed,
      Serving relay context (tuple :: rest) before working ∧
        (working.execute tuple).Ends before executed later := by
  obtain ⟨_, _, begins, _, served⟩ := manage_serves running ended
  intro tuple member
  obtain ⟨rest, before, working, later, executed, visited⟩ := Act.foldlM_visits
    (motive := Serving relay context)
    (fun _ _ _ _ _ _ serving ended => serving.step running ended) begins served tuple member
  exact ⟨rest, before, working, later, executed, visited⟩

end Reactions

end Relay

inductive Device.Reaction (begun : Context) : Device → DeviceEvent → Device → Context → Prop
  | recorder {recorder : Recorder} {event : DeviceEvent} :
      Reaction begun (.recorder recorder) event
        (.recorder { recorder with received := recorder.received ++ [(begun.now, event)] }) begun
  | active {relay : Relay} {application : Application} :
      Reaction begun (.relay relay) (.applicationActive application)
        (.relay { relay with application := some application }) begun
  | received {relay : Relay} {application : Application} :
      Reaction begun (.relay relay) (.applicationReceived application)
        (.relay { relay with application := some application }) begun
  | launch {relay : Relay} {spec : ModuleSpec} :
      Reaction begun (.relay relay) (.launchModule spec)
        (.relay { relay with hosted := relay.hosted.insert spec.name spec }) begun
  | manage {relay next : Relay} {reacted : Context}
      (deeds : Relay.Deeds ⟨begun, relay, [], [], []⟩
        ⟨reacted, next, [], [], (round relay.budget relay.north).1⟩) :
      Reaction begun (.relay relay) .manageResources (.relay next) reacted
  | arrival {relay next : Relay} {tuple : Tuple} {reacted : Context}
      (deeds : Relay.Deeds ⟨begun, relay, [], [tuple], []⟩ ⟨reacted, next, [], [], []⟩) :
      Reaction begun (.relay relay) (.tupleArrival tuple) (.relay next) reacted

theorem Device.react_reaction {begun reacted : Context} {device next : Device}
    {event : DeviceEvent} (running : begun.halted = false)
    (reacts : (device.react event).Ends begun next reacted) :
    Reaction begun device event next reacted := by
  cases device with
  | recorder recorder =>
      obtain ⟨_, ended, rfl⟩ := Act.ends_map_iff.mp reacts
      simp only [Recorder.react, Act.ends_bind_iff, Act.ends_now_iff, Act.ends_pure_iff] at ended
      obtain ⟨_, begun, ⟨rfl, rfl⟩, rfl, rfl⟩ := ended
      exact .recorder
  | relay relay =>
      obtain ⟨_, ended, rfl⟩ := Act.ends_map_iff.mp reacts
      cases event with
      | applicationActive application =>
          obtain ⟨rfl, rfl⟩ := Act.ends_pure_iff.mp ended
          exact .active
      | applicationReceived application =>
          obtain ⟨rfl, rfl⟩ := Act.ends_pure_iff.mp ended
          exact .received
      | launchModule spec =>
          simp only [Relay.react, Act.ends_bind_iff, Act.ends_note_iff,
            Act.ends_pure_iff] at ended
          obtain ⟨_, _, rfl, rfl, rfl⟩ := ended
          exact .launch
      | manageResources => exact .manage (Relay.manage_deeds running ended)
      | tupleArrival tuple => exact .arrival (Relay.accept_deeds running ended)

end FogNetwork
