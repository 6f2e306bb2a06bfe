import FogNetwork.Proofs.Dues
import FogNetwork.Proofs.Requests
import Mathlib.Order.Bounds.Defs

/-! How a relay serves its queue. A round executes the front of the queue as far as the budget
goes, and what is derived on the way queues up behind the rest. So over all events, tuples are
executed in the order in which they were accepted. -/

namespace FogNetwork

def cpuTotal : List Tuple → Nat
  | [] => 0
  | tuple :: rest => tuple.cpuLength + cpuTotal rest

namespace Usage

variable (usage : Usage) (name wanted : String)

theorem counts_countReceived :
    ((usage.countReceived name).tally wanted).received =
        (usage.tally wanted).received + (if name = wanted then 1 else 0) ∧
      ((usage.countReceived name).tally wanted).processed = (usage.tally wanted).processed := by
  rw [countReceived, tally_changeModule]
  by_cases own : wanted = name
  · simp [own]
  · simp [own, Ne.symm own]

theorem counts_countProcessed :
    ((usage.countProcessed name).tally wanted).received = (usage.tally wanted).received ∧
      ((usage.countProcessed name).tally wanted).processed =
        (usage.tally wanted).processed + (if name = wanted then 1 else 0) := by
  rw [countProcessed, tally_changeModule]
  by_cases own : wanted = name
  · simp [own]
  · simp [own, Ne.symm own]

theorem counts_countSent :
    ((usage.countSent name).tally wanted).received = (usage.tally wanted).received ∧
      ((usage.countSent name).tally wanted).processed = (usage.tally wanted).processed := by
  rw [countSent, tally_changeModule]
  by_cases own : wanted = name
  · simp [own]
  · simp [own]

end Usage

section Sends

variable {before after : Context} {tuple : Tuple} {latency : Nat} {id : EventId}

theorem Act.scheduleAfter_keeps {payload : Payload}
    (ended : (scheduleAfter latency payload).Ends before id after) :
    after.timings = before.timings ∧ after.usage = before.usage := by
  simp only [scheduleAfter, ends_bind_iff, ends_now_iff, ends_lift_iff] at ended
  obtain ⟨_, _, ⟨rfl, rfl⟩, time, _, ⟨_, rfl⟩, ended⟩ := ended
  obtain ⟨_, ⟨_, rfl⟩ | ⟨_, _, _, rfl⟩⟩ := scheduleAt_cases ended
  · exact ⟨rfl, rfl⟩
  · exact ⟨rfl, rfl⟩

theorem Act.transfer_keeps {payload : Payload} {size : Nat}
    (ended : (transfer size >>= fun _ => scheduleAfter latency payload).Ends before id after) :
    after.timings = before.timings ∧ after.usage.tally = before.usage.tally := by
  simp only [ends_bind_iff, ends_transfer_iff] at ended
  obtain ⟨_, _, ⟨usage, paid, rfl⟩, asked⟩ := ended
  obtain ⟨timings, same⟩ := scheduleAfter_keeps asked
  refine ⟨timings, ?_⟩
  funext name
  rw [same, Usage.tally, Usage.tally, Usage.modules_of_transfer paid]

end Sends

theorem affordable_split (budget : Nat) (queue : List Tuple) :
    ∃ count ≤ queue.length, affordable budget queue = (queue.take count, queue.drop count) ∧
      (∀ place tuple, place < count → queue[place]? = some tuple →
        tuple.cpuLength ≤ budget - cpuTotal (queue.take place)) ∧
      ∀ tuple, queue[count]? = some tuple →
        budget - cpuTotal (queue.take count) < tuple.cpuLength := by
  induction queue generalizing budget with
  | nil => exact ⟨0, Nat.le_refl _, rfl, by simp, by simp⟩
  | cons first rest ih =>
      by_cases fits : first.cpuLength ≤ budget
      · obtain ⟨count, queued, split, within, full⟩ := ih (budget - first.cpuLength)
        have left (place : Nat) : budget - cpuTotal ((first :: rest).take (place + 1)) =
            budget - first.cpuLength - cpuTotal (rest.take place) := by
          rw [List.take_succ_cons, cpuTotal, Nat.sub_sub]
        refine ⟨count + 1, by simpa using queued, ?_, ?_, ?_⟩
        · simp [affordable, fits, split]
        · intro place tuple before found
          cases place with
          | zero =>
              obtain rfl : first = tuple := by simpa using found
              simpa [cpuTotal] using fits
          | succ place =>
              rw [left]
              exact within place tuple (by omega) (by simpa using found)
        · intro tuple found
          rw [left]
          exact full tuple (by simpa using found)
      · refine ⟨0, Nat.zero_le _, by simp [affordable, fits], by simp, ?_⟩
        intro tuple found
        obtain rfl : first = tuple := by simpa using found
        simp only [List.take_zero, cpuTotal]
        omega

namespace Relay

/-- The first `count` tuples of the queue fit into one round: behind the first of them, each takes
no more than those before it leave of the budget. -/
structure Affords (relay : Relay) (count : Nat) : Prop where
  first : 1 ≤ count
  queued : count ≤ relay.north.length
  within : ∀ place tuple, 1 ≤ place → place < count → relay.north[place]? = some tuple →
    tuple.cpuLength ≤
      min (relay.mips * relay.interval) largest - cpuTotal (relay.north.take place)

/-- The length of a round: the most that fits into it, if anything is queued at all. -/
def Serves (relay : Relay) (count : Nat) : Prop :=
  relay.north = [] ∧ count = 0 ∨ IsGreatest { count | relay.Affords count } count

theorem Serves.queued {relay : Relay} {count : Nat} (serves : relay.Serves count) :
    count ≤ relay.north.length := by
  rcases serves with ⟨_, rfl⟩ | greatest
  · exact Nat.zero_le _
  · exact greatest.1.queued

theorem Serves.empty_or_some {relay : Relay} {count : Nat} (serves : relay.Serves count) :
    relay.north = [] ∨ 1 ≤ count := by
  rcases serves with ⟨empty, _⟩ | greatest
  · exact .inl empty
  · exact .inr greatest.1.first

theorem round_split (relay : Relay) :
    ∃ count, relay.Serves count ∧
      round relay.budget relay.north = (relay.north.take count, relay.north.drop count) := by
  cases queue : relay.north with
  | nil => exact ⟨0, .inl ⟨queue, rfl⟩, rfl⟩
  | cons first rest =>
      obtain ⟨count, queued, split, within, full⟩ :=
        affordable_split (relay.budget - first.cpuLength) rest
      have left (place : Nat) : min (relay.mips * relay.interval) largest -
            cpuTotal (relay.north.take (place + 1)) =
          relay.budget - first.cpuLength - cpuTotal (rest.take place) := by
        rw [queue, List.take_succ_cons, cpuTotal, Nat.sub_sub]
        rfl
      refine ⟨count + 1, .inr ⟨⟨by omega, by simpa [queue] using queued, ?_⟩, ?_⟩, ?_⟩
      · intro place tuple behind before found
        obtain ⟨place, rfl⟩ := Nat.exists_eq_add_one.mpr behind
        rw [left]
        exact within place tuple (by omega) (by simpa [queue] using found)
      · intro other affords
        by_contra more
        have most := affords.queued
        rw [queue, List.length_cons] at most
        have inside : count < rest.length := by omega
        have fits := affords.within (count + 1) rest[count] (by omega) (by omega)
          (by simp [queue, inside])
        rw [left] at fits
        have exceeds := full rest[count] (by simp [inside])
        omega
      · simp [round, split]

/-! The results of executions, and which of them stay. -/

def outletsAlong (relay : Relay) (parent : Tuple) (edge : Edge) : List Edge :=
  match edge.kind with
  | .sensor => []
  | .module => [edge]
  | .actuator => List.replicate (relay.targets parent.destination edge.tupleType).length edge

def outlets (relay : Relay) (parent : Tuple) : List Edge :=
  match relay.application with
  | none => []
  | some application =>
      (application.edgesFrom parent.destination).flatMap (relay.outletsAlong parent)

def staying (relay : Relay) (parent : Tuple) : Nat → List Edge → List Tuple
  | _, [] => []
  | number, edge :: rest =>
      if edge.kind = .module ∧ relay.hosts edge.destination = true then
        Tuple.derived number parent edge :: relay.staying parent (number + 1) rest
      else relay.staying parent (number + 1) rest

/-- What executing some tuples in turn adds to the queue, if `number` is the next to be issued. -/
def yield (relay : Relay) : Nat → List Tuple → List Tuple
  | _, [] => []
  | number, parent :: rest =>
      relay.staying parent number (relay.outlets parent) ++
        relay.yield (number + (relay.outlets parent).length) rest

theorem staying_append (relay : Relay) (parent : Tuple) (number : Nat) (early late : List Edge) :
    relay.staying parent number (early ++ late) =
      relay.staying parent number early ++ relay.staying parent (number + early.length) late := by
  induction early generalizing number with
  | nil => rfl
  | cons edge rest ih =>
      have shift : number + 1 + rest.length = number + (rest.length + 1) := by omega
      simp only [List.cons_append, staying, ih, List.length_cons, shift]
      split
      · rfl
      · rfl

section Setup

variable {relay next : Relay}

theorem staying_of_setup (same : next.setup = relay.setup) : next.staying = relay.staying := by
  have hosted : next.hosts = relay.hosts := by
    funext name
    exact congrArg (·.hosts name) same
  funext parent number edges
  induction edges generalizing number with
  | nil => rfl
  | cons edge rest ih => simp only [staying, hosted, ih]

theorem outletsAlong_of_setup (same : next.setup = relay.setup) :
    next.outletsAlong = relay.outletsAlong := by
  have alike : next.setup.outletsAlong = relay.setup.outletsAlong := by rw [same]
  exact alike

theorem outlets_of_setup (same : next.setup = relay.setup) : next.outlets = relay.outlets := by
  have alike : next.setup.outlets = relay.setup.outlets := by rw [same]
  exact alike

theorem yield_of_setup (same : next.setup = relay.setup) : next.yield = relay.yield := by
  funext number parents
  induction parents generalizing number with
  | nil => rfl
  | cons parent rest ih => simp only [yield, staying_of_setup same, outlets_of_setup same, ih]

end Setup

/-- From one state of a relay to another in which some tuples were `queued` and some were `done`,
while `issued` identifiers were issued. -/
structure Progress (relay : Relay) (before : Context) (queued done : List Tuple) (issued : Nat)
    (next : Relay) (after : Context) : Prop where
  setup : next.setup = relay.setup
  north : next.north = relay.north ++ queued
  executed : next.executed = relay.executed + done.length
  issued : after.timings.nextTuple = before.timings.nextTuple + issued
  received : ∀ name, (after.usage.tally name).received =
    (before.usage.tally name).received + queued.countP (·.destination = name)
  processed : ∀ name, (after.usage.tally name).processed =
    (before.usage.tally name).processed + done.countP (·.destination = name)

namespace Progress

variable {relay working next : Relay} {before between after : Context}
variable {queued more done others : List Tuple} {issued further : Nat}

theorem idle (setup : next.setup = relay.setup) (north : next.north = relay.north)
    (executed : next.executed = relay.executed)
    (issued : after.timings.nextTuple = before.timings.nextTuple + further)
    (received : ∀ name, (after.usage.tally name).received = (before.usage.tally name).received)
    (processed : ∀ name,
      (after.usage.tally name).processed = (before.usage.tally name).processed) :
    relay.Progress before [] [] further next after where
  setup := setup
  north := by rw [north, List.append_nil]
  executed := executed
  issued := issued
  received := received
  processed := processed

theorem quiet (progress : relay.Progress before queued done issued next between)
    (timings : after.timings = between.timings) (tally : after.usage.tally = between.usage.tally) :
    relay.Progress before queued done issued next after where
  setup := progress.setup
  north := progress.north
  executed := progress.executed
  issued := by rw [timings]; exact progress.issued
  received := by rw [tally]; exact progress.received
  processed := by rw [tally]; exact progress.processed

theorem trans (early : relay.Progress before queued done issued working between)
    (late : working.Progress between more others further next after) :
    relay.Progress before (queued ++ more) (done ++ others) (issued + further) next after where
  setup := late.setup.trans early.setup
  north := by rw [late.north, early.north, List.append_assoc]
  executed := by rw [late.executed, early.executed, List.length_append, Nat.add_assoc]
  issued := by rw [late.issued, early.issued, Nat.add_assoc]
  received := by
    intro name
    rw [late.received, early.received, List.countP_append, Nat.add_assoc]
  processed := by
    intro name
    rw [late.processed, early.processed, List.countP_append, Nat.add_assoc]

end Progress

section Acts

variable {relay next : Relay} {before after : Context} {parent tuple : Tuple} {edge : Edge}

theorem accept_progress (ended : (relay.accept tuple).Ends before next after) :
    relay.Progress before (if relay.hosts tuple.destination then [tuple] else []) [] 0 next
      after := by
  unfold accept at ended
  split at ended
  next hosted =>
    simp only [Act.ends_bind_iff, Act.ends_now_iff, Act.ends_changeUsage_iff,
      Act.ends_changeTimings_iff, Act.ends_pure_iff] at ended
    obtain ⟨_, _, ⟨rfl, rfl⟩, _, _, rfl, _, _, rfl, rfl, rfl⟩ := ended
    rw [if_pos hosted]
    refine ⟨rfl, rfl, rfl, rfl, ?_, ?_⟩
    · intro name
      simpa [List.countP_singleton] using (Usage.counts_countReceived _ _ name).1
    · intro name
      exact (Usage.counts_countReceived _ _ name).2
  next elsewhere =>
    rw [if_neg elsewhere]
    split at ended
    next route routed =>
      simp only [Act.ends_bind_iff, Act.ends_note_iff, Act.ends_pure_iff] at ended
      obtain ⟨_, _, rfl, _, _, sent, rfl, rfl⟩ := ended
      obtain ⟨timings, tally⟩ := Act.transfer_keeps sent
      exact .idle rfl rfl rfl (by rw [timings]; rfl) (by simp [tally]) (by simp [tally])
    next unrouted =>
      simp only [Act.ends_bind_iff, Act.ends_note_iff, Act.ends_pure_iff] at ended
      obtain ⟨_, _, rfl, rfl, rfl⟩ := ended
      exact .idle rfl rfl rfl rfl (fun _ => rfl) fun _ => rfl

theorem numbers_progress (relay : Relay) (before : Context) (sender : String) :
    relay.Progress before [] [] 1 relay
      { before with timings := before.timings.issue.2, usage := before.usage.countSent sender } :=
  .idle rfl rfl rfl rfl
    (fun name => (Usage.counts_countSent _ _ name).1)
    (fun name => (Usage.counts_countSent _ _ name).2)

theorem deliver_progress {actuator : ActuatorId} {done : Unit}
    (ended : (relay.deliver parent edge actuator).Ends before done after) :
    relay.Progress before [] [] 1 relay after := by
  simp only [deliver, Act.ends_bind_iff, Act.ends_withTimings_iff, Act.ends_changeUsage_iff,
    Act.ends_pure_iff] at ended
  obtain ⟨_, _, ⟨rfl, rfl⟩, _, _, rfl, _, _, sent, _, rfl⟩ := ended
  obtain ⟨timings, tally⟩ := Act.transfer_keeps sent
  exact (numbers_progress relay before parent.destination).quiet timings tally

theorem deliveries_progress {actuators : List ActuatorId} {done : Unit}
    (ended : (actuators.forM (relay.deliver parent edge)).Ends before done after) :
    relay.Progress before [] [] actuators.length relay after := by
  induction actuators generalizing before with
  | nil =>
      obtain ⟨_, rfl⟩ := Act.ends_pure_iff.mp ended
      exact .idle rfl rfl rfl rfl (fun _ => rfl) fun _ => rfl
  | cons actuator rest ih =>
      rw [List.forM_eq_forM, List.forM_cons, Act.ends_bind_iff] at ended
      obtain ⟨_, _, first, later⟩ := ended
      rw [List.length_cons, Nat.add_comm]
      exact (deliver_progress first).trans (ih later)

theorem emitAlong_progress (ended : (relay.emitAlong parent edge).Ends before next after) :
    relay.Progress before
      (relay.staying parent before.timings.nextTuple (relay.outletsAlong parent edge)) []
      (relay.outletsAlong parent edge).length next after := by
  unfold emitAlong at ended
  split at ended
  next kind =>
    obtain ⟨rfl, rfl⟩ := Act.ends_pure_iff.mp ended
    simp only [outletsAlong, kind]
    exact .idle rfl rfl rfl rfl (fun _ => rfl) fun _ => rfl
  next kind =>
    simp only [Act.ends_bind_iff, Act.ends_withTimings_iff, Act.ends_changeUsage_iff] at ended
    obtain ⟨_, _, ⟨rfl, rfl⟩, _, _, rfl, accepted⟩ := ended
    have all := (numbers_progress relay before parent.destination).trans (accept_progress accepted)
    simp only [outletsAlong, kind, staying, true_and]
    exact all
  next kind =>
    simp only [Act.ends_bind_iff, Act.ends_pure_iff] at ended
    obtain ⟨_, _, delivered, rfl, rfl⟩ := ended
    have none (number copies : Nat) :
        next.staying parent number (List.replicate copies edge) = [] := by
      induction copies generalizing number with
      | zero => rfl
      | succ copies ih => simp [List.replicate_succ, staying, kind, ih]
    simp only [outletsAlong, kind, none, List.length_replicate]
    exact deliveries_progress delivered

theorem emissions_progress {edges : List Edge}
    (ended : (edges.foldlM (emitAlong parent) relay).Ends before next after) :
    relay.Progress before
      (relay.staying parent before.timings.nextTuple (edges.flatMap (relay.outletsAlong parent)))
      [] (edges.flatMap (relay.outletsAlong parent)).length next after := by
  induction edges generalizing before relay with
  | nil =>
      obtain ⟨rfl, rfl⟩ := Act.ends_pure_iff.mp ended
      exact .idle rfl rfl rfl rfl (fun _ => rfl) fun _ => rfl
  | cons edge rest ih =>
      rw [List.foldlM_cons, Act.ends_bind_iff] at ended
      obtain ⟨working, between, first, later⟩ := ended
      have early := emitAlong_progress first
      have all := early.trans (ih later)
      rwa [staying_of_setup early.setup, outletsAlong_of_setup early.setup, early.issued,
        ← staying_append, ← List.length_append, ← List.flatMap_cons] at all

theorem execute_progress (ended : (relay.execute tuple).Ends before next after) :
    relay.Progress before
      (relay.staying tuple before.timings.nextTuple (relay.outlets tuple)) [tuple]
      (relay.outlets tuple).length next after := by
  simp only [execute, Act.ends_bind_iff, Act.ends_endExecution_iff,
    Act.ends_changeUsage_iff] at ended
  obtain ⟨_, _, ⟨rfl, rfl⟩, _, _, rfl, ended⟩ := ended
  have issued := (before.timings.endExecution_keeps tuple.id tuple.tupleType before.now).1
  have counts {timings : Timings} (same : timings.nextTuple = before.timings.nextTuple) :
      relay.Progress before [] [tuple] 0
        { relay with
          energy := relay.energy + relay.busyPower * Float.ofNat tuple.cpuLength
          executed := relay.executed + 1 }
        { before with
          timings := timings
          usage := before.usage.countProcessed tuple.destination } := by
    refine ⟨rfl, (List.append_nil _).symm, rfl, same, ?_, ?_⟩
    · intro name
      exact (Usage.counts_countProcessed _ _ name).1
    · intro name
      simpa [List.countP_singleton] using (Usage.counts_countProcessed _ _ name).2
  split at ended
  next unknown =>
    simp only [Act.ends_bind_iff, Act.ends_note_iff, Act.ends_pure_iff] at ended
    obtain ⟨_, _, rfl, rfl, rfl⟩ := ended
    have nothing : relay.outlets tuple = [] := by
      rw [outlets, show relay.application = none from unknown]
    rw [nothing]
    exact counts issued
  next application known =>
    simp only [Act.ends_bind_iff, Act.ends_now_iff, Act.ends_changeTimings_iff] at ended
    obtain ⟨_, _, ⟨rfl, rfl⟩, _, _, rfl, emitted⟩ := ended
    have passed : ∀ timings : Timings, (timings.passModule tuple.destination tuple.root before.now
        application.loops).nextTuple = timings.nextTuple := by
      intro timings
      obtain ⟨loops, changed⟩ := timings.passModule_changesLoops tuple.destination tuple.root
        before.now application.loops
      rw [changed]
    have numbered := (passed _).trans issued
    have early := counts numbered
    have all := early.trans (emissions_progress emitted)
    have out : relay.outlets tuple =
        (application.edgesFrom tuple.destination).flatMap (relay.outletsAlong tuple) := by
      rw [outlets, show relay.application = some application from known]
    dsimp only at numbered all
    rwa [numbered, staying_of_setup early.setup, outletsAlong_of_setup early.setup, ← out,
      Nat.zero_add] at all

theorem executions_progress {taken : List Tuple}
    (ended : (taken.foldlM execute relay).Ends before next after) :
    ∃ issued, relay.Progress before (relay.yield before.timings.nextTuple taken) taken issued next
      after := by
  induction taken generalizing before relay with
  | nil =>
      obtain ⟨rfl, rfl⟩ := Act.ends_pure_iff.mp ended
      exact ⟨0, .idle rfl rfl rfl rfl (fun _ => rfl) fun _ => rfl⟩
  | cons tuple rest ih =>
      rw [List.foldlM_cons, Act.ends_bind_iff] at ended
      obtain ⟨working, between, first, later⟩ := ended
      have early := execute_progress first
      obtain ⟨issued, late⟩ := ih later
      have all := early.trans late
      rw [yield_of_setup early.setup, early.issued] at all
      exact ⟨_, all⟩

theorem rearm_keeps {armed : Relay} (ended : relay.rearm.Ends before armed after) :
    (∃ tick, armed = { relay with nextTick := tick }) ∧ after.timings = before.timings ∧
      after.usage = before.usage := by
  simp only [rearm, Act.ends_bind_iff, Act.ends_now_iff] at ended
  obtain ⟨_, _, ⟨rfl, rfl⟩, ended⟩ := ended
  split at ended
  · simp only [Act.manageLater, Act.ends_bind_iff, Act.ends_pure_iff] at ended
    obtain ⟨_, _, asked, rfl, rfl⟩ := ended
    exact ⟨⟨_, rfl⟩, Act.scheduleAfter_keeps asked⟩
  · obtain ⟨rfl, rfl⟩ := Act.ends_pure_iff.mp ended
    exact ⟨⟨_, rfl⟩, rfl, rfl⟩

end Acts

/-- One management round of a relay. It executes the first `count` tuples of the queue, in order,
and those results that stay queue up behind the rest. -/
structure Rounds (relay : Relay) (before : Context) (count : Nat) (next : Relay)
    (after : Context) : Prop where
  serves : relay.Serves count
  executes : ∃ armed between, relay.rearm.Ends before armed between ∧
    ((relay.north.take count).foldlM execute
      { armed.chargeIdle between.now with north := relay.north.drop count }).Ends between next after
  north : next.north =
    relay.north.drop count ++ relay.yield before.timings.nextTuple (relay.north.take count)
  executed : next.executed = relay.executed + count
  processed : ∀ name, (after.usage.tally name).processed =
    (before.usage.tally name).processed +
      (relay.north.take count).countP (·.destination = name)
  received : ∀ name, (after.usage.tally name).received =
    (before.usage.tally name).received +
      (relay.yield before.timings.nextTuple (relay.north.take count)).countP
        (·.destination = name)

theorem manage_rounds {relay next : Relay} {before after : Context} {count : Nat}
    (serves : relay.Serves count) (split : round relay.budget relay.north =
      (relay.north.take count, relay.north.drop count))
    (ended : relay.manage.Ends before next after) : relay.Rounds before count next after := by
  simp only [manage, serve, Act.ends_bind_iff, Act.ends_now_iff] at ended
  obtain ⟨armed, _, rearmed, _, between, ⟨rfl, rfl⟩, served⟩ := ended
  obtain ⟨same, timings, usage⟩ := rearm_keeps rearmed
  have kept : (armed.chargeIdle between.now).setup = relay.setup ∧
      (armed.chargeIdle between.now).budget = relay.budget ∧
      (armed.chargeIdle between.now).north = relay.north ∧
      (armed.chargeIdle between.now).executed = relay.executed := by
    obtain ⟨tick, rfl⟩ := same
    exact ⟨rfl, rfl, rfl, rfl⟩
  obtain ⟨setup, budget, north, executed⟩ := kept
  rw [budget, north, split] at served
  obtain ⟨issued, progress⟩ := executions_progress served
  have yields : Relay.yield { armed.chargeIdle between.now with north := relay.north.drop count } =
      relay.yield := yield_of_setup setup
  rw [yields, timings] at progress
  refine ⟨serves, ⟨armed, between, rearmed, served⟩, progress.north, ?_, ?_, ?_⟩
  · rw [progress.executed, List.length_take_of_le serves.queued]
    exact congrArg (· + count) executed
  · rw [← usage]
    exact progress.processed
  · rw [← usage]
    exact progress.received

structure Episode where
  relay : Relay
  context : Context
  event : DeviceEvent

namespace Episode

variable (episode : Episode)

def isRound : Bool :=
  match episode.event with
  | .manageResources => true
  | _ => false

def executed : List Tuple :=
  match episode.event with
  | .manageResources => (round episode.relay.budget episode.relay.north).1
  | _ => []

def accepted : List Tuple :=
  match episode.event with
  | .manageResources => episode.relay.yield episode.context.timings.nextTuple episode.executed
  | .tupleArrival tuple => if episode.relay.hosts tuple.destination then [tuple] else []
  | _ => []

structure Leads (next : Relay) (after : Context) : Prop where
  queue : episode.executed ++ next.north = episode.relay.north ++ episode.accepted
  executed : next.executed = episode.relay.executed + episode.executed.length
  processed : ∀ name, (after.usage.tally name).processed =
    (episode.context.usage.tally name).processed +
      episode.executed.countP (·.destination = name)
  received : ∀ name, (after.usage.tally name).received =
    (episode.context.usage.tally name).received +
      episode.accepted.countP (·.destination = name)

theorem leads {next : Relay} {after : Context}
    (ended : (episode.relay.react episode.event).Ends episode.context next after) :
    episode.Leads next after := by
  obtain ⟨relay, context, event⟩ := episode
  cases event with
  | applicationActive application | applicationReceived application =>
      obtain ⟨rfl, rfl⟩ := Act.ends_pure_iff.mp ended
      exact ⟨(List.append_nil _).symm, rfl, fun _ => rfl, fun _ => rfl⟩
  | launchModule spec =>
      simp only [react, Act.ends_bind_iff, Act.ends_note_iff, Act.ends_pure_iff] at ended
      obtain ⟨_, _, rfl, rfl, rfl⟩ := ended
      exact ⟨(List.append_nil _).symm, rfl, fun _ => rfl, fun _ => rfl⟩
  | tupleArrival tuple =>
      have progress := accept_progress ended
      exact ⟨progress.north, progress.executed, progress.processed, progress.received⟩
  | manageResources =>
      obtain ⟨count, serves, split⟩ := relay.round_split
      have rounds := manage_rounds serves split ended
      have taken : Episode.executed ⟨relay, context, .manageResources⟩ =
          relay.north.take count := by
        simp only [Episode.executed, split]
      have accepted : Episode.accepted ⟨relay, context, .manageResources⟩ =
          relay.yield context.timings.nextTuple (relay.north.take count) := by
        simp only [Episode.accepted, taken]
      constructor
      · rw [taken, accepted, rounds.north, ← List.append_assoc, List.take_append_drop]
      · rw [taken, rounds.executed, List.length_take_of_le serves.queued]
      · rw [taken]
        exact rounds.processed
      · rw [accepted]
        exact rounds.received

end Episode

/-- The events that reached a relay while it went from one state to another. What the world around
it looks like may change between them. -/
inductive Lived (first : Relay) : List Episode → Relay → Prop
  | start : Lived first [] first
  | react {episodes : List Episode} {relay next : Relay} {context after : Context}
      {event : DeviceEvent} (earlier : Lived first episodes relay)
      (ended : (relay.react event).Ends context next after) :
      Lived first (episodes ++ [⟨relay, context, event⟩]) next

namespace Lived

variable {first last : Relay} {episodes : List Episode}

theorem conserves (lived : first.Lived episodes last) :
    episodes.flatMap Episode.executed ++ last.north =
      first.north ++ episodes.flatMap Episode.accepted := by
  induction lived with
  | start => simp
  | @react earlier relay next context after event _ ended ih =>
      have step := (Episode.leads ⟨relay, context, event⟩ ended).queue
      simp only [List.flatMap_append, List.flatMap_singleton]
      rw [List.append_assoc, step, ← List.append_assoc, ih, List.append_assoc]

theorem executes_many (lived : first.Lived episodes last) :
    min (episodes.countP Episode.isRound) first.north.length ≤
      (episodes.flatMap Episode.executed).length := by
  induction lived with
  | start => simp
  | @react earlier relay next context after event lived _ ih =>
      have balance := congrArg List.length lived.conserves
      simp only [List.length_append] at balance
      simp only [List.countP_append, List.countP_singleton, List.flatMap_append,
        List.flatMap_singleton, List.length_append]
      cases event with
      | manageResources =>
          obtain ⟨count, serves, split⟩ := relay.round_split
          simp only [Episode.isRound, Episode.executed, split, if_true]
          rw [List.length_take_of_le serves.queued]
          rcases serves.empty_or_some with empty | served
          · rw [empty, List.length_nil] at balance
            omega
          · omega
      | _ =>
          simp only [Episode.isRound, Bool.false_eq_true, if_false]
          omega

theorem executes_front (lived : first.Lived episodes last) :
    first.north.take (episodes.countP Episode.isRound) <+: episodes.flatMap Episode.executed := by
  have front : first.north.take (episodes.countP Episode.isRound) <+:
      episodes.flatMap Episode.executed ++ last.north := by
    rw [lived.conserves]
    exact (List.take_prefix _ _).trans (List.prefix_append _ _)
  refine List.prefix_of_prefix_length_le front (List.prefix_append _ _) ?_
  rw [List.length_take]
  exact lived.executes_many

end Lived

/-- A round executes the longest front of the queue that the budget allows, and the results that
stay wait behind the rest. Over all that happens to a relay, what was executed and what still waits
are the tuples that it accepted, in the order in which it did. -/
theorem served_in_order (relay : Relay) :
    (∃ count, relay.Serves count ∧ ∀ context,
      (∀ next after, (relay.react .manageResources).Ends context next after →
        relay.Rounds context count next after) ∧
      ∀ fault, ((relay.react .manageResources).run context).outcome = .error fault →
        fault = .overflow ∨ fault = .unreachableTime) ∧
    (∀ context event next after, (relay.react event).Ends context next after →
      Episode.Leads ⟨relay, context, event⟩ next after) ∧
    ∀ episodes last, relay.Lived episodes last →
      episodes.flatMap Episode.executed ++ last.north =
        relay.north ++ episodes.flatMap Episode.accepted ∧
      relay.north.take (episodes.countP Episode.isRound) <+:
        episodes.flatMap Episode.executed := by
  refine ⟨?_, ?_, ?_⟩
  · obtain ⟨count, serves, split⟩ := relay.round_split
    refine ⟨count, serves, fun context => ⟨?_, ?_⟩⟩
    · intro next after ended
      exact manage_rounds serves split ended
    · intro fault failed
      have any : relay.Within fun _ => True :=
        ⟨trivial, fun _ _ _ => trivial, fun _ => trivial⟩
      rcases (manage_modest any).fails rfl failed with large | ⟨late, _⟩
      · exact .inl large
      · exact .inr late
  · intro context event next after ended
    exact Episode.leads ⟨relay, context, event⟩ ended
  · intro episodes last lived
    exact ⟨lived.conserves, lived.executes_front⟩

end Relay

namespace Demo

def wheelApplication : Application :=
  { Application.named "wheel" with
    modules := [⟨"spin", 10, []⟩, ⟨"turn", 10, []⟩]
    edges := [Edge.between "spin" "turn" "TURN" .module,
      Edge.between "turn" "spin" "SPIN" .module] }

def sensed (id : Nat) (name : String) (length : Nat) : Tuple :=
  Tuple.emitted id "wheel"
    { Edge.between "SENSE" name "SENSE" .sensor with cpuLength := length }

def wheel : Relay :=
  { Relay.named ⟨0⟩ "wheel" with
    mips := 1
    interval := 5
    application := some wheelApplication
    hosted := .ofList (wheelApplication.modules.map fun spec => (spec.name, spec))
    north := [sensed 7 "spin" 7, sensed 8 "turn" 0, sensed 9 "spin" 1] }

/-- The first tuple exceeds the budget, the second takes nothing, and the third is left. -/
theorem wheel_turns : ∃ next after,
    (wheel.react .manageResources).Ends .initial next after ∧ next.executed = 2 ∧
      next.north.map (fun tuple => (tuple.id, tuple.destination)) =
        [(9, "spin"), (1, "turn"), (2, "spin")] := by
  have turns : ((wheel.react .manageResources).run .initial).outcome.toOption.any (fun ended =>
      decide (ended.1.executed = 2 ∧
        ended.1.north.map (fun tuple => (tuple.id, tuple.destination)) =
          [(9, "spin"), (1, "turn"), (2, "spin")])) = true := by
    decide +kernel
  cases turned : ((wheel.react .manageResources).run .initial).outcome with
  | error fault =>
      rw [turned] at turns
      cases turns
  | ok ended =>
      rw [turned] at turns
      exact ⟨ended.1, ended.2, turned, of_decide_eq_true turns⟩

end Demo

theorem Relay.served_in_order_wheel : ∃ next after,
    (Demo.wheel.react .manageResources).Ends .initial next after ∧
      Demo.wheel.Rounds .initial 2 next after ∧
      next.north.map (fun tuple => (tuple.id, tuple.destination)) =
        [(9, "spin"), (1, "turn"), (2, "spin")] ∧
      Episode.Leads ⟨Demo.wheel, .initial, .manageResources⟩ next after ∧
      Demo.wheel.north.take 1 <+:
        Episode.executed ⟨Demo.wheel, .initial, .manageResources⟩ := by
  obtain ⟨next, after, ended, executed, north⟩ := Demo.wheel_turns
  obtain ⟨⟨count, serves, all⟩, leads, lives⟩ := Relay.served_in_order Demo.wheel
  have rounds := (all .initial).1 next after ended
  obtain rfl : count = 2 := by
    have counted := rounds.executed
    rw [executed] at counted
    exact (Nat.zero_add count).symm.trans counted.symm
  obtain ⟨_, front⟩ := lives _ next (.react .start ended)
  exact ⟨next, after, ended, rounds, north, leads _ _ next after ended,
    by simpa [Episode.isRound] using front⟩

end FogNetwork
