import FogNetwork.Proofs.Deeds
import FogNetwork.Sensor
import FogNetwork.Proofs.Entries
import Mathlib.Algebra.BigOperators.Group.Multiset.Basic
import Mathlib.Data.Multiset.Range
import Mathlib.Tactic.Abel

/-! The accounts of a run: where every tuple is that was ever issued, what the links have carried,
and how the measurements agree with the queues. -/

namespace FogNetwork

theorem SortedMap.total_coe {κ α β : Type} [Ord κ] (map : SortedMap κ α) (measure : α → List β) :
    map.total (fun value => (measure value : Multiset β)) = ↑(map.values.flatMap measure) := by
  unfold total
  induction map.values with
  | nil => rfl
  | cons value rest ih => rw [List.map_cons, List.sum_cons, ih, List.flatMap_cons,
      Multiset.coe_add]

def Payload.carried? : Payload → Option Tuple
  | .device _ (.tupleArrival tuple) => some tuple
  | .delivery _ tuple => some tuple
  | _ => none

def Context.carried (context : Context) : Multiset Tuple :=
  ↑(context.agenda.pending.filterMap (·.payload.carried?))

def Tuple.RootedIn (all : Multiset Tuple) (tuple : Tuple) : Prop :=
  match tuple.origin with
  | .sensor => tuple.root = tuple.id
  | .module => ∃ first ∈ all, first.origin = .sensor ∧ first.id = tuple.root ∧ first.id < tuple.id

/-- The tuples are those issued so far, each once. -/
structure Custody (next : Nat) (all : Multiset Tuple) : Prop where
  issued : 0 ::ₘ all.map (·.id) = Multiset.range next
  rooted : ∀ tuple ∈ all, tuple.RootedIn all

structure Traffic (usage : Usage) (ever : Multiset Tuple) : Prop where
  transfers : usage.transfers = ever.card
  bytes : usage.bytes = (ever.map (·.size)).sum

structure Workload (timings : Timings) (usage : Usage) (waiting : Multiset Tuple)
    (executed : Nat) : Prop where
  received : ∀ name, (usage.tally name).received =
    (usage.tally name).processed + waiting.countP (·.destination = name)
  started : (timings.started.keys : Multiset Nat) = waiting.map (·.id)
  samples : timings.tupleTypes.total (·.count) = executed
  processed : usage.modules.total (·.processed) = executed

theorem Tuple.RootedIn.mono {all more : Multiset Tuple} {tuple : Tuple} (subset : all ⊆ more)
    (rooted : tuple.RootedIn all) : tuple.RootedIn more := by
  unfold RootedIn at rooted ⊢
  split at rooted
  · exact rooted
  · obtain ⟨first, member, descends⟩ := rooted
    exact ⟨first, subset member, descends⟩

namespace Custody

variable {next : Nat} {all : Multiset Tuple} {tuple : Tuple}

theorem id_lt (custody : Custody next all) (member : tuple ∈ all) : tuple.id < next := by
  rw [← Multiset.mem_range, ← custody.issued]
  exact Multiset.mem_cons_of_mem (Multiset.mem_map_of_mem _ member)

theorem ids_nodup (custody : Custody next all) : (all.map (·.id)).Nodup := by
  have distinct := Multiset.nodup_range next
  rw [← custody.issued] at distinct
  exact (Multiset.nodup_cons.mp distinct).2

theorem mint (custody : Custody next all) (own : tuple.id = next)
    (rooted : tuple.RootedIn (tuple ::ₘ all)) : Custody (next + 1) (tuple ::ₘ all) := by
  constructor
  · rw [Multiset.map_cons, Multiset.cons_swap, custody.issued, own, Multiset.range_succ]
  · intro other member
    rcases Multiset.mem_cons.mp member with rfl | member
    · exact rooted
    · exact (custody.rooted other member).mono (Multiset.subset_cons _ _)

theorem mint_emitted (custody : Custody next all) (application : String) (edge : Edge) :
    Custody (next + 1) (Tuple.emitted next application edge ::ₘ all) :=
  custody.mint rfl rfl

theorem mint_derived (custody : Custody next all) {parent : Tuple} (member : parent ∈ all)
    (edge : Edge) : Custody (next + 1) (Tuple.derived next parent edge ::ₘ all) := by
  refine custody.mint rfl ?_
  have rooted := custody.rooted parent member
  unfold Tuple.RootedIn at rooted
  change ∃ first ∈ Tuple.derived next parent edge ::ₘ all,
    first.origin = .sensor ∧ first.id = parent.root ∧ first.id < next
  split at rooted
  next sensed =>
    exact ⟨parent, Multiset.mem_cons_of_mem member, sensed, rooted.symm, custody.id_lt member⟩
  · obtain ⟨first, found, sensed, same, _⟩ := rooted
    exact ⟨first, Multiset.mem_cons_of_mem found, sensed, same, custody.id_lt found⟩

end Custody

theorem Traffic.transfer {usage after : Usage} {ever : Multiset Tuple} {tuple : Tuple}
    (traffic : Traffic usage ever) (moved : usage.transfer? tuple.size = some after) :
    Traffic after (tuple ::ₘ ever) := by
  simp only [Usage.transfer?, Option.map_eq_some_iff, sum?_eq_some_iff] at moved
  obtain ⟨total, ⟨_, rfl⟩, rfl⟩ := moved
  constructor
  · simp [traffic.transfers]
  · simp [traffic.bytes, add_comm]

theorem Usage.tally_changeModule (usage : Usage) (name wanted : String) (change : Tally → Tally) :
    (usage.changeModule name change).tally wanted =
      if wanted = name then change (usage.tally name) else usage.tally wanted :=
  SortedMap.getD_update _ _ _ _ _

theorem Usage.total_changeModule (usage : Usage) (name : String) {change : Tally → Tally}
    (measure : Tally → Nat) (more : Nat) (free : measure .zero = 0)
    (adds : ∀ tally, measure (change tally) = measure tally + more) :
    (usage.changeModule name change).modules.total measure =
      usage.modules.total measure + more := by
  obtain ⟨others, before, after⟩ := SortedMap.total_update usage.modules name .zero change
    measure free
  refine after.trans ?_
  rw [before, adds]
  exact Nat.add_right_comm _ _ _

namespace Workload

variable {timings : Timings} {usage : Usage} {waiting : Multiset Tuple} {executed : Nat}
variable {tuple : Tuple}

theorem queue (work : Workload timings usage waiting executed) (now : Time)
    (fresh : tuple.id ∉ waiting.map (·.id)) :
    Workload (timings.beginExecution tuple.id now) (usage.countReceived tuple.destination)
      (tuple ::ₘ waiting) executed := by
  have absent : timings.started.get? tuple.id = none := by
    rw [← work.started, Multiset.mem_coe, SortedMap.mem_keys_iff] at fresh
    exact Option.eq_none_iff_forall_not_mem.mpr fun start found => fresh ⟨start, found⟩
  constructor
  · intro name
    rw [Usage.countReceived, Usage.tally_changeModule, Multiset.countP_cons]
    have received := work.received name
    by_cases own : name = tuple.destination
    · subst own
      simp only [↓reduceIte]
      omega
    · simp [own, Ne.symm own, received]
  · rw [Multiset.map_cons, ← work.started, Multiset.cons_coe, Multiset.coe_eq_coe]
    exact SortedMap.keys_insert_of_none absent now
  · exact work.samples
  · rw [← work.processed]
    change _ = _ + 0
    exact usage.total_changeModule _ _ _ rfl fun _ => rfl

theorem execute (work : Workload timings usage (tuple ::ₘ waiting) executed) (now : Time) :
    Workload (timings.endExecution tuple.id tuple.tupleType now).2
      (usage.countProcessed tuple.destination) waiting (executed + 1) := by
  have known : tuple.id ∈ timings.started.keys := by
    rw [← Multiset.mem_coe, work.started]
    simp
  obtain ⟨start, found⟩ := SortedMap.mem_keys_iff.mp known
  simp only [Timings.endExecution, found]
  constructor
  · intro name
    rw [Usage.countProcessed, Usage.tally_changeModule]
    have received := work.received name
    rw [Multiset.countP_cons] at received
    by_cases own : name = tuple.destination
    · subst own
      simp only [↓reduceIte] at received ⊢
      omega
    · simpa [own, Ne.symm own] using received
  · have keys := Multiset.coe_eq_coe.mpr (SortedMap.keys_erase_of_some found)
    rw [work.started, Multiset.map_cons, ← Multiset.cons_coe, Multiset.cons_inj_right] at keys
    exact keys.symm
  · cases type : timings.tupleTypes.get? tuple.tupleType with
    | none =>
        rw [SortedMap.total_insert_of_none type, work.samples]
        exact Nat.add_comm _ _
    | some average =>
        obtain ⟨others, before, after⟩ :=
          SortedMap.total_of_get?_eq_some type Average.count
        rw [after, ← work.samples, before]
        simp only [Average.extend, Average.push]
        omega
  · rw [← work.processed]
    exact usage.total_changeModule _ _ _ rfl fun _ => rfl

theorem countSent (work : Workload timings usage waiting executed) (name : String) :
    Workload timings (usage.countSent name) waiting executed := by
  constructor
  · intro wanted
    rw [Usage.countSent, Usage.tally_changeModule]
    have received := work.received wanted
    split
    next own => simpa [own] using received
    · exact received
  · exact work.started
  · exact work.samples
  · rw [← work.processed]
    change _ = _ + 0
    exact usage.total_changeModule _ _ _ rfl fun _ => rfl

end Workload

def Payload.IsCall (payload : Payload) : Prop :=
  payload.carried? = none ∧ ∀ tuple, payload ≠ .tupleFinished tuple

/-- The accounts between `waiting`, the tuples in the queues that are executed from, and `rest`,
the tuples in all other places but on the way. The tuples `moved` have arrived. -/
structure Accounts (context : Context) (waiting rest moved : Multiset Tuple)
    (executed : Nat) : Prop where
  custody : Custody context.timings.nextTuple (context.carried + waiting + rest)
  traffic : Traffic context.usage (context.carried + moved)
  unfinished : ∀ event ∈ context.agenda.pending, ∀ tuple, event.payload ≠ .tupleFinished tuple
  work : Workload context.timings context.usage waiting executed

theorem Context.Enters.carried {before after : Context} {event : Event}
    (enters : before.Enters event after) :
    after.carried = ↑event.payload.carried?.toList + before.carried := by
  have pending := enters.pending.filterMap (·.payload.carried?)
  unfold Context.carried
  rw [Multiset.coe_add, Multiset.coe_eq_coe]
  refine pending.trans ?_
  cases carried : event.payload.carried? <;> simp [carried]

namespace Accounts

variable {context after : Context} {waiting rest moved : Multiset Tuple} {executed : Nat}
variable {tuple : Tuple}

theorem call (accounts : Accounts context waiting rest moved executed) {event : Event}
    (enters : context.Enters event after) (plain : event.payload.IsCall) :
    Accounts after waiting rest moved executed := by
  have carried : after.carried = context.carried := by
    rw [enters.carried, plain.1]
    simp
  constructor
  · rw [carried, enters.timings]
    exact accounts.custody
  · rw [carried, enters.usage]
    exact accounts.traffic
  · intro other member
    rcases List.mem_cons.mp (enters.pending.subset member) with rfl | old
    · exact plain.2
    · exact accounts.unfinished other old
  · rw [enters.timings, enters.usage]
    exact accounts.work

theorem send (accounts : Accounts context waiting (tuple ::ₘ rest) moved executed)
    {usage : Usage} {event : Event} (paid : context.usage.transfer? tuple.size = some usage)
    (enters : { context with usage := usage }.Enters event after)
    (carries : event.payload.carried? = some tuple) :
    Accounts after waiting rest moved executed := by
  have carried : after.carried = tuple ::ₘ context.carried := by
    rw [enters.carried, carries, Option.toList_some, Multiset.coe_singleton,
      Multiset.singleton_add]
    rfl
  have modules : usage.modules = context.usage.modules := by
    simp only [Usage.transfer?, Option.map_eq_some_iff] at paid
    obtain ⟨_, _, rfl⟩ := paid
    rfl
  constructor
  · rw [carried, enters.timings]
    have custody := accounts.custody
    rwa [Multiset.add_cons, ← Multiset.cons_add, ← Multiset.cons_add] at custody
  · rw [carried, enters.usage, Multiset.cons_add]
    exact accounts.traffic.transfer paid
  · intro other member
    rcases List.mem_cons.mp (enters.pending.subset member) with rfl | old
    · intro tuple finished
      rw [finished] at carries
      cases carries
    · exact accounts.unfinished other old
  · rw [enters.timings, enters.usage]
    have work := accounts.work
    constructor
    · intro name
      simp only [Usage.tally, modules]
      exact work.received name
    · exact work.started
    · exact work.samples
    · rw [modules]
      exact work.processed

theorem emit (accounts : Accounts context waiting rest moved executed) (application : String)
    (edge : Edge) :
    Accounts { context with timings := context.timings.issue.2 } waiting
      (Tuple.emitted context.timings.nextTuple application edge ::ₘ rest) moved executed := by
  constructor
  · rw [Multiset.add_cons]
    exact accounts.custody.mint_emitted application edge
  · exact accounts.traffic
  · exact accounts.unfinished
  · have work := accounts.work
    exact ⟨work.received, work.started, work.samples, work.processed⟩

theorem derive (accounts : Accounts context waiting rest moved executed) {parent : Tuple}
    (member : parent ∈ rest) (edge : Edge) (name : String) :
    Accounts
      { context with
        timings := context.timings.issue.2
        usage := context.usage.countSent name }
      waiting (Tuple.derived context.timings.nextTuple parent edge ::ₘ rest) moved executed := by
  constructor
  · rw [Multiset.add_cons]
    exact accounts.custody.mint_derived (Multiset.mem_add.mpr (.inr member)) edge
  · exact ⟨accounts.traffic.transfers, accounts.traffic.bytes⟩
  · exact accounts.unfinished
  · have work := accounts.work.countSent name
    exact ⟨work.received, work.started, work.samples, work.processed⟩

theorem queue (accounts : Accounts context waiting (tuple ::ₘ rest) moved executed) (now : Time) :
    Accounts
      { context with
        timings := context.timings.beginExecution tuple.id now
        usage := context.usage.countReceived tuple.destination }
      (tuple ::ₘ waiting) rest moved executed := by
  constructor
  · have custody := accounts.custody
    rwa [Multiset.add_cons, ← Multiset.cons_add, ← Multiset.add_cons] at custody
  · exact ⟨accounts.traffic.transfers, accounts.traffic.bytes⟩
  · exact accounts.unfinished
  · apply accounts.work.queue now
    have distinct := accounts.custody.ids_nodup
    rw [Multiset.add_cons, Multiset.map_cons, Multiset.nodup_cons] at distinct
    intro member
    apply distinct.1
    rw [Multiset.map_add, Multiset.map_add]
    exact Multiset.mem_add.mpr (.inl (Multiset.mem_add.mpr (.inr member)))

theorem execute (accounts : Accounts context (tuple ::ₘ waiting) rest moved executed)
    (now : Time) :
    Accounts
      { context with
        timings := (context.timings.endExecution tuple.id tuple.tupleType now).2
        usage := context.usage.countProcessed tuple.destination }
      waiting (tuple ::ₘ rest) moved (executed + 1) := by
  have issued : (context.timings.endExecution tuple.id tuple.tupleType now).2.nextTuple =
      context.timings.nextTuple := by
    unfold Timings.endExecution
    split
    · rfl
    · rfl
  constructor
  · have custody := accounts.custody
    rw [Multiset.add_cons, ← Multiset.cons_add, ← Multiset.add_cons]
    exact issued.symm ▸ custody
  · exact ⟨accounts.traffic.transfers, accounts.traffic.bytes⟩
  · exact accounts.unfinished
  · exact accounts.work.execute now

theorem changeLoops (accounts : Accounts context waiting rest moved executed)
    (loops : SortedMap LoopId LoopTiming) :
    Accounts { context with timings := { context.timings with loops := loops } }
      waiting rest moved executed :=
  ⟨accounts.custody, accounts.traffic, accounts.unfinished,
    ⟨accounts.work.received, accounts.work.started, accounts.work.samples,
      accounts.work.processed⟩⟩

end Accounts
/-! What is measured of the loops changes nothing else. -/

namespace Timings

theorem foldl_changesLoops {ι : Type} {step : Timings → ι → Timings}
    (each : ∀ timings item, ∃ loops, step timings item = { timings with loops := loops })
    (items : List ι) (timings : Timings) :
    ∃ loops, items.foldl step timings = { timings with loops := loops } := by
  refine List.foldlRecOn items step (motive := fun after =>
    ∃ loops, after = { timings with loops := loops }) ⟨timings.loops, rfl⟩ ?_
  rintro _ ⟨loops, rfl⟩ item _
  obtain ⟨later, changed⟩ := each { timings with loops := loops } item
  exact ⟨later, changed⟩

theorem completeLoop_changesLoops (timings : Timings) (loop : LoopId) (tuple : Nat) (now : Time)
    (deadline : Option Float) :
    ∃ loops, (timings.completeLoop loop tuple now deadline).2 = { timings with loops := loops } := by
  unfold completeLoop
  split
  · exact ⟨timings.loops, rfl⟩
  · exact ⟨_, rfl⟩

theorem passModule_changesLoops (name : String) (root : Nat) (now : Time)
    (paths : List LoopPath) (timings : Timings) :
    ∃ loops, timings.passModule name root now paths = { timings with loops := loops } := by
  refine foldl_changesLoops (fun timings path => ?_) paths timings
  have completed : ∃ loops, (if path.endsWith name then
      (timings.completeLoop path.id root now path.deadline).2 else timings) =
        { timings with loops := loops } := by
    split
    · exact timings.completeLoop_changesLoops _ _ _ _
    · exact ⟨timings.loops, rfl⟩
  obtain ⟨loops, completed⟩ := completed
  rw [completed]
  dsimp only
  split
  · exact ⟨_, rfl⟩
  · exact ⟨_, rfl⟩

theorem enterLoops_changesLoops (tupleType : String) (tuple : Nat) (now : Time)
    (paths : List LoopPath) (timings : Timings) :
    ∃ loops, timings.enterLoops tupleType tuple now paths = { timings with loops := loops } :=
  foldl_changesLoops (fun _ _ => ⟨_, rfl⟩) _ timings

end Timings

def Bench.Accounts (bench : Bench) (waiting rest moved : Multiset Tuple) (executed : Nat) : Prop :=
  FogNetwork.Accounts bench.context (bench.relay.north + bench.taken + waiting)
    (bench.relay.south + bench.hand + bench.done + rest) moved (bench.relay.executed + executed)

namespace Relay

variable {before after : Bench} {waiting rest moved : Multiset Tuple} {executed : Nat}

theorem round_append (budget : Nat) (queue : List Tuple) :
    (round budget queue).1 ++ (round budget queue).2 = queue := by
  have affordable_append (budget : Nat) (queue : List Tuple) :
      (affordable budget queue).1 ++ (affordable budget queue).2 = queue := by
    induction queue generalizing budget with
    | nil => rfl
    | cons tuple rest ih =>
        simp only [affordable]
        split
        · simp [ih]
        · rfl
  cases queue with
  | nil => rfl
  | cons tuple rest => simp [round, affordable_append]

theorem placed_of_held {bench : Bench} {tuple : Tuple} (held : bench.hand = [tuple]) :
    (bench.relay.south : Multiset Tuple) + bench.hand + bench.done + rest =
      tuple ::ₘ (bench.relay.south + ([] : List Tuple) + bench.done + rest) := by
  simp only [held, Multiset.coe_singleton, Multiset.coe_nil, ← Multiset.singleton_add]
  abel

theorem Deed.accounts (deed : Deed before after)
    (accounts : before.Accounts waiting rest moved executed) :
    after.Accounts waiting rest moved executed := by
  unfold Bench.Accounts at accounts ⊢
  cases deed with
  | @queue tuple held hosted =>
      have queued : (↑(before.relay.north ++ [tuple]) : Multiset Tuple) + before.taken + waiting =
          tuple ::ₘ (before.relay.north + before.taken + waiting) := by
        simp only [← Multiset.coe_add, Multiset.coe_singleton, ← Multiset.singleton_add]
        abel
      rw [placed_of_held held] at accounts
      rw [queued]
      exact accounts.queue _
  | @park tuple held elsewhere unrouted =>
      have parked : (↑(before.relay.south ++ [tuple]) : Multiset Tuple) + ([] : List Tuple) +
          before.done + rest = before.relay.south + before.hand + before.done + rest := by
        simp only [held, ← Multiset.coe_add, Multiset.coe_nil]
        abel
      rw [parked]
      exact accounts
  | @forward tuple route usage time context held elsewhere routed paid reached sent =>
      rw [placed_of_held held] at accounts
      exact accounts.send paid sent rfl
  | @derive parent application edge free performed known leaves outward =>
      have member : parent ∈ (before.relay.south : Multiset Tuple) + before.hand + before.done +
          rest := by
        simp [performed]
      have derived := accounts.derive member edge parent.destination
      have placed (tuple : Tuple) :
          (before.relay.south : Multiset Tuple) + ↑[tuple] + before.done + rest =
            tuple ::ₘ (before.relay.south + before.hand + before.done + rest) := by
        simp only [free, Multiset.coe_singleton, Multiset.coe_nil, ← Multiset.singleton_add]
        abel
      rw [placed]
      exact derived
  | @deliver parent tuple application edge id actuator usage time context held born known leaves
      kind target paid reached sent =>
      rw [placed_of_held held] at accounts
      exact accounts.send paid sent rfl
  | @execute tuple taken free next =>
      have queue : (before.relay.north : Multiset Tuple) + before.taken + waiting =
          tuple ::ₘ (before.relay.north + taken + waiting) := by
        simp only [next, ← Multiset.cons_coe, ← Multiset.singleton_add]
        abel
      have placed : (before.relay.south : Multiset Tuple) + before.hand +
          ↑(before.done ++ [tuple]) + rest =
            tuple ::ₘ (before.relay.south + before.hand + before.done + rest) := by
        simp only [← Multiset.coe_add, Multiset.coe_singleton, ← Multiset.singleton_add]
        abel
      rw [queue] at accounts
      rw [placed, Nat.add_right_comm]
      exact accounts.execute _
  | @pass tuple application performed known =>
      obtain ⟨loops, changed⟩ := before.context.timings.passModule_changesLoops
        tuple.destination tuple.root before.context.now application.loops
      rw [changed]
      exact accounts.changeLoops loops
  | take idle =>
      have queue : (↑(round before.relay.budget before.relay.north).2 : Multiset Tuple) +
          (round before.relay.budget before.relay.north).1 + waiting =
            before.relay.north + before.taken + waiting := by
        rw [idle, Multiset.coe_nil, add_zero, add_comm (Multiset.ofList _), Multiset.coe_add,
          round_append]
      rw [queue]
      exact accounts
  | rearm lapsed reached asked => exact accounts.call asked ⟨rfl, nofun⟩
  | charge => exact accounts

theorem Deeds.accounts (deeds : Deeds before after)
    (accounts : before.Accounts waiting rest moved executed) :
    after.Accounts waiting rest moved executed := by
  induction deeds with
  | refl => exact accounts
  | tail _ deed ih => exact deed.accounts ih

end Relay
end FogNetwork
