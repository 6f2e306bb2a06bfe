import FogNetwork.Proofs.Halting
import FogNetwork.Proofs.Rounds

/-! The re-arming of a relay, whatever else makes it manage its resources: its own requests are for
regular times, and after every round exactly one of them is ahead. -/

namespace FogNetwork
namespace Relay

structure Round where
  begun : Context
  relay : Relay
  ended : Context

def Round.time (round : Round) : Nat := round.begun.now.ticks

def Round.asked (round : Round) : List Event :=
  (round.ended.agenda.since round.begun.agenda).filter (·.payload.isRound round.relay.id)

/-- Of the events `own` exactly one is pending that is later than `now`: it is due at the next tick
of the relay, within an interval. -/
def Awaits (relay : Relay) (interval : Nat) (own : List Event) (now : Nat) (context : Context) :
    Prop :=
  ∃ next, relay.nextTick = some next.time ∧ now < next.time.ticks ∧
    next.time.ticks ≤ now + interval ∧
      ∀ event, event ∈ context.agenda.pending ∧ event ∈ own ∧ now < event.time.ticks ↔
        event = next

/-- What goes on besides the rounds: any events may be entered, the run may be ended, and the relay
may change in everything but its timer. -/
structure Unmanaged (before : Context) (relay : Relay) (after : Context) (next : Relay) : Prop where
  advances : ∃ entered, before.Advances after entered
  id : next.id = relay.id
  interval : next.interval = relay.interval
  nextTick : next.nextTick = relay.nextTick

theorem Unmanaged.of_same (context : Context) (relay : Relay) :
    Unmanaged context relay context relay :=
  ⟨⟨[], .unchanged rfl rfl fun halted => halted⟩, rfl, rfl, rfl⟩

/-- What the reaction to an event comes to for a relay: if the event asks it for a round, it holds
one, unless the run is ended. -/
inductive Attends (id : DeviceId) (begun : Context) (relay : Relay) (payload : Payload) :
    List Round → Context → Relay → Prop
  | other {next : Relay} {reacted : Context} (other : payload ≠ .device id .manageResources)
      (unmanaged : Unmanaged begun relay reacted next) :
      Attends id begun relay payload [] reacted next
  | round {first managed next : Relay} {early late reacted : Context}
      (asks : payload = .device id .manageResources) (before : Unmanaged begun relay early first)
      (running : early.halted = false) (manages : first.manage.Ends early managed late)
      (after : Unmanaged late managed reacted next) :
      Attends id begun relay payload [⟨early, managed, late⟩] reacted next
  | ending {next : Relay} {reacted : Context} (halted : reacted.halted = true) :
      Attends id begun relay payload [] reacted next

/-- The rounds of a relay, which is part of the state, while its simulation is driven from
`initial` on: anything is scheduled from outside, and steps are taken, in any order. -/
inductive Driven {σ : Type} (react : Event → σ → Act σ) (look : σ → Option Relay) (id : DeviceId)
    (initial : Simulation) (state : σ) : List Round → Simulation → σ → Prop
  | start : Driven react look id initial state [] initial state
  | schedule {rounds : List Round} {simulation after : Simulation} {reached : σ} {time : Time}
      {payload : Payload} {event : EventId}
      (earlier : Driven react look id initial state rounds simulation reached)
      (scheduled : (simulation.schedule time payload).outcome = .ok (event, after)) :
      Driven react look id initial state rounds after reached
  | step {rounds more : List Round} {simulation after : Simulation} {reached next : σ}
      {event : Event} {begun reacted : Context} {relay changed : Relay}
      (earlier : Driven react look id initial state rounds simulation reached)
      (dispatches : simulation.Dispatches react reached event after next begun reacted)
      (known : look reached = some relay) (kept : look next = some changed)
      (attends : Attends id begun relay event.payload more reacted changed) :
      Driven react look id initial state (rounds ++ more) after next

section Rounds

variable {relay managed : Relay} {begun ended : Context}

theorem Round.asked_perm {new : List Event} (manages : relay.manage.Ends begun managed ended)
    (pending : ended.agenda.pending.Perm (begun.agenda.pending ++ new)) :
    (Round.asked ⟨begun, managed, ended⟩).Perm (new.filter (·.payload.isRound managed.id)) := by
  obtain ⟨entered, advances⟩ := relay.manage_expressible.advances manages
  have same : entered.Perm new :=
    (List.perm_append_left_iff _).mp (advances.pending.symm.trans pending)
  exact ((Chronicle.since_perm advances).trans same).filter _

structure Renews (relay : Relay) (round : Round) : Prop where
  now : round.ended.now = round.begun.now
  halted : round.ended.halted = false
  pending : round.begun.agenda.pending ⊆ round.ended.agenda.pending
  id : round.relay.id = relay.id
  interval : round.relay.interval = relay.interval
  asks : (∃ next, round.asked = [next] ∧
      (∀ time, relay.nextTick = some time → time.ticks ≤ round.time) ∧
      next.time.ticks = round.time + relay.interval ∧
      round.relay.nextTick = some next.time ∧ next ∈ round.ended.agenda.pending) ∨
    ∃ time, round.asked = [] ∧ relay.nextTick = some time ∧ round.time < time.ticks ∧
      round.relay.nextTick = some time

theorem manage_renews (running : begun.halted = false)
    (manages : relay.manage.Ends begun managed ended) : relay.Renews ⟨begun, managed, ended⟩ := by
  obtain ⟨armed, between, rearmed, gains, tick, setup⟩ := manage_course manages
  obtain ⟨served, pending, carried⟩ := gains.pending
  have silent (id : DeviceId) : served.filter (·.payload.isRound id) = [] := by
    rw [List.filter_eq_nil_iff]
    intro event member
    obtain ⟨_, carries, _⟩ := carried event member
    rw [Payload.isRound_iff]
    intro asks
    rw [asks] at carries
    exact carries.2
  have interval := congrArg Relay.interval setup
  have own := congrArg Relay.id setup
  rcases rearm_cases running rearmed with
    ⟨lapsed, time, reached, enters, rfl⟩ | ⟨time, set, ahead, rfl, rfl⟩
  · have entered := enters.pending.trans (List.perm_append_singleton ..).symm
    have all := pending.trans (entered.append_right served)
    rw [List.append_assoc] at all
    have asked := Round.asked_perm manages all
    have request : Payload.isRound managed.id (.device relay.id .manageResources) = true := by
      rw [show managed.id = relay.id from own]
      exact Payload.isRound_iff.mpr rfl
    rw [List.filter_append, silent, List.append_nil, List.filter_singleton, request] at asked
    refine ⟨gains.now.trans enters.now, (gains.halted.trans enters.halted).trans running, ?_, own,
      interval, .inl ⟨_, List.perm_singleton.mp asked, lapsed, ?_, tick, ?_⟩⟩
    · exact fun event member => all.symm.subset (List.mem_append_left _ member)
    · exact (Time.after?_eq_some_iff.mp reached).2
    · exact all.symm.subset (by simp)
  · have asked := Round.asked_perm manages pending
    rw [silent] at asked
    refine ⟨gains.now, gains.halted.trans running, ?_, own, interval,
      .inr ⟨time, asked.eq_nil, set, ahead, tick.trans set⟩⟩
    exact fun event member => pending.symm.subset (List.mem_append_left _ member)

end Rounds

/-- The timer of a relay after some rounds: either there was none yet, or the last of its requests
is pending, for the next of the regular times. -/
inductive Waiting (interval : Nat) (rounds : List Round) (tick? : Option Time) (now : Nat)
    (pending : List Event) : Prop
  | idle (none : rounds = []) (unset : tick? = Option.none)
  | armed {first last : Round} {done : List Event} {next : Event}
      (begins : rounds.head? = some first) (latest : rounds.getLast? = some last)
      (asked : rounds.flatMap Round.asked = done ++ [next])
      (times : (done ++ [next]).map (·.time.ticks) =
        (List.range (done.length + 1)).map fun index => first.time + (index + 1) * interval)
      (set : tick? = some next.time) (since : first.time + done.length * interval ≤ last.time)
      (ahead : last.time < next.time.ticks) (clock : last.time ≤ now)
      (inTime : now ≤ next.time.ticks) (waits : next ∈ pending)

structure Regular (interval : Nat) (rounds : List Round) : Prop where
  times : ∀ first last, rounds.head? = some first → rounds.getLast? = some last →
    (rounds.flatMap Round.asked).map (·.time.ticks) =
      (List.range ((last.time - first.time) / interval + 1)).map fun index =>
        first.time + (index + 1) * interval
  ahead : ∀ earlier round later, rounds = earlier ++ round :: later →
    round.relay.Awaits interval ((earlier ++ [round]).flatMap Round.asked) round.time round.ended

namespace Waiting

variable {interval now : Nat} {rounds : List Round} {tick? : Option Time}
variable {pending other : List Event} {relay : Relay} {round : Round} {context : Context}

theorem times_append {first : Nat} {done : List Event} {last : Event}
    (times : (done ++ [last]).map (·.time.ticks) =
      (List.range (done.length + 1)).map fun index => first + (index + 1) * interval) :
    (∀ event ∈ done, event.time.ticks ≤ first + done.length * interval) ∧
      last.time.ticks = first + (done.length + 1) * interval := by
  rw [List.range_succ, List.map_append, List.map_append] at times
  obtain ⟨front, back⟩ := List.append_inj' times rfl
  refine ⟨?_, List.head_eq_of_cons_eq back⟩
  intro event member
  have listed : event.time.ticks ∈ done.map (·.time.ticks) := List.mem_map_of_mem member
  rw [front] at listed
  obtain ⟨index, inside, same⟩ := List.mem_map.mp listed
  rw [← same]
  exact Nat.add_le_add_left (Nat.mul_le_mul_right _ (List.mem_range.mp inside)) _

theorem mono (waiting : Waiting interval rounds tick? now pending)
    (kept : ∀ event ∈ pending, event ∈ rounds.flatMap Round.asked → event ∈ other) :
    Waiting interval rounds tick? now other := by
  cases waiting with
  | idle none unset => exact .idle none unset
  | @armed first last done next begins latest asked times set since ahead clock inTime waits =>
      have own : next ∈ rounds.flatMap Round.asked := by simp [asked]
      exact .armed begins latest asked times set since ahead clock inTime (kept next waits own)

theorem advance {event : Event} (waiting : Waiting interval rounds tick? now (event :: other))
    (ordered : (event :: other).Pairwise Event.before) (notPast : now ≤ event.time.ticks) :
    Waiting interval rounds tick? event.time.ticks (event :: other) := by
  cases waiting with
  | idle none unset => exact .idle none unset
  | @armed first last done next begins latest asked times set since ahead clock inTime waits =>
      refine .armed begins latest asked times set since ahead (clock.trans notPast) ?_ waits
      rcases List.mem_cons.mp waits with rfl | behind
      · exact Nat.le_refl _
      · have order := List.rel_of_pairwise_cons ordered behind
        simp only [Event.before] at order
        omega

theorem after_round (waiting : Waiting interval rounds relay.nextTick round.time pending)
    (paced : 1 ≤ interval) (same : relay.interval = interval)
    (alive : ∀ event ∈ pending,
      event ∈ round.begun.agenda.pending ∨ event.time.ticks = round.time)
    (renews : relay.Renews round) :
    Waiting interval (rounds ++ [round]) round.relay.nextTick round.time
      round.ended.agenda.pending := by
  cases waiting with
  | idle none unset =>
      subst none
      rcases renews.asks with ⟨next, asked, _, due, set, waits⟩ | ⟨time, _, set, _⟩
      · refine @armed _ _ _ _ _ round round [] next rfl rfl ?_ ?_ set ?_ ?_ (Nat.le_refl _) ?_ waits
        · simp [asked]
        · simp [due, same]
        · simp
        · omega
        · omega
      · rw [unset] at set
        cases set
  | @armed first last done next begins latest asked times set since ahead clock inTime waits =>
      obtain ⟨_, due⟩ := times_append times
      have begins' : (rounds ++ [round]).head? = some first := by
        rw [List.head?_append, begins, Option.some_or]
      rcases renews.asks with
        ⟨again, more, lapsed, dueAgain, reset, held⟩ | ⟨time, none, still, early, kept⟩
      · have reached : round.time = next.time.ticks := Nat.le_antisymm inTime (lapsed _ set)
        have beat : (done.length + 1 + 1) * interval = (done.length + 1) * interval + interval :=
          Nat.succ_mul ..
        refine @armed _ _ _ _ _ first round (done ++ [next]) again begins' List.getLast?_concat
          ?_ ?_ reset ?_ ?_ (Nat.le_refl _) ?_ held
        · simp [asked, more]
        · rw [List.map_append, times, List.length_append, List.length_singleton,
            @List.range_succ (done.length + 1), List.map_append, List.map_singleton,
            List.map_singleton, dueAgain, reached, due, same, beat, Nat.add_assoc]
        · rw [List.length_append, List.length_singleton]
          omega
        · omega
        · omega
      · obtain rfl : time = next.time := Option.some.inj (still.symm.trans set)
        have held : next ∈ round.ended.agenda.pending := by
          rcases alive next waits with pending | now
          · exact renews.pending pending
          · omega
        refine .armed begins' List.getLast?_concat ?_ times kept ?_ early (Nat.le_refl _) inTime
          held
        · simp [asked, none]
        · exact since.trans clock

theorem awaits {last : Round}
    (waiting : Waiting interval rounds relay.nextTick now context.agenda.pending)
    (latest : rounds.getLast? = some last) :
    relay.Awaits interval (rounds.flatMap Round.asked) last.time context := by
  cases waiting with
  | idle none => simp [none] at latest
  | @armed first again done next _ latest' asked times set since ahead _ _ waits =>
      obtain rfl : again = last := Option.some.inj (latest'.symm.trans latest)
      obtain ⟨passed, due⟩ := times_append times
      rw [Nat.succ_mul] at due
      refine ⟨next, set, ahead, by omega, fun event => ?_⟩
      rw [asked, List.mem_append, List.mem_singleton]
      constructor
      · rintro ⟨_, old | same, future⟩
        · have := passed event old
          omega
        · exact same
      · rintro rfl
        exact ⟨waits, .inr rfl, ahead⟩

theorem times_eq {first last : Round} (waiting : Waiting interval rounds tick? now pending)
    (paced : 1 ≤ interval) (begins : rounds.head? = some first)
    (latest : rounds.getLast? = some last) :
    (rounds.flatMap Round.asked).map (·.time.ticks) =
      (List.range ((last.time - first.time) / interval + 1)).map fun index =>
        first.time + (index + 1) * interval := by
  cases waiting with
  | idle none => simp [none] at latest
  | @armed start again done next begins' latest' asked times _ since ahead _ _ _ =>
      obtain rfl : start = first := Option.some.inj (begins'.symm.trans begins)
      obtain rfl : again = last := Option.some.inj (latest'.symm.trans latest)
      obtain ⟨_, due⟩ := times_append times
      have count : (again.time - start.time) / interval = done.length := by
        rw [Nat.succ_mul] at due
        apply Nat.div_eq_of_lt_le
        · omega
        · rw [Nat.succ_mul]
          omega
      rw [count, asked, times]

end Waiting

theorem Regular.append {interval : Nat} {rounds : List Round} {round : Round}
    (regular : Regular interval rounds) (paced : 1 ≤ interval)
    (waiting : Waiting interval (rounds ++ [round]) round.relay.nextTick round.time
      round.ended.agenda.pending) : Regular interval (rounds ++ [round]) := by
  constructor
  · intro first last begins latest
    exact waiting.times_eq paced begins latest
  · intro earlier other later split
    rcases List.eq_nil_or_concat later with rfl | ⟨rest, last, rfl⟩
    · obtain ⟨rfl, same⟩ := List.append_inj' split rfl
      obtain rfl : round = other := List.head_eq_of_cons_eq same
      exact waiting.awaits List.getLast?_concat
    · rw [List.concat_eq_append, ← List.cons_append, ← List.append_assoc] at split
      exact regular.ahead _ _ _ (List.append_inj' split rfl).1

section Runs

variable {σ : Type} {react : Event → σ → Act σ} {look : σ → Option Relay} {id : DeviceId}
variable {initial simulation : Simulation} {state reached : σ} {interval : Nat}
variable {rounds more : List Round} {relay next : Relay} {before after : Context}
variable {spare : List Event}

structure Stands (id : DeviceId) (interval : Nat) (rounds : List Round) (spare : List Event)
    (relay : Relay) (context : Context) : Prop where
  own : relay.id = id
  paced : relay.interval = interval
  named : ∀ round ∈ rounds, round.relay.id = id
  waiting : Waiting interval rounds relay.nextTick context.now.ticks
    (spare ++ context.agenda.pending)

theorem Round.payload_of_mem_asked {round : Round} {event : Event} (asked : event ∈ round.asked) :
    event.payload = .device round.relay.id .manageResources :=
  Payload.isRound_iff.mp (List.mem_filter.mp asked).2

namespace Stands

theorem unmanaged (stands : Stands id interval rounds spare relay before)
    (unmanaged : Unmanaged before relay after next) :
    Stands id interval rounds spare next after := by
  obtain ⟨entered, advances⟩ := unmanaged.advances
  refine ⟨unmanaged.id.trans stands.own, unmanaged.interval.trans stands.paced, stands.named, ?_⟩
  rw [unmanaged.nextTick, advances.now]
  refine stands.waiting.mono fun event member _ => ?_
  rcases List.mem_append.mp member with held | pending
  · exact List.mem_append_left _ held
  · exact List.mem_append_right _ (advances.pending.symm.subset (List.mem_append_left _ pending))

theorem forget {event : Event} (stands : Stands id interval rounds [event] relay before)
    (other : event.payload ≠ .device id .manageResources) :
    Stands id interval rounds [] relay before := by
  refine ⟨stands.own, stands.paced, stands.named, stands.waiting.mono fun waiting member own => ?_⟩
  rcases List.mem_cons.mp member with rfl | pending
  · obtain ⟨round, held, asked⟩ := List.mem_flatMap.mp own
    refine absurd ?_ other
    rw [← stands.named round held]
    exact Round.payload_of_mem_asked asked
  · exact pending

theorem dispatch {after : Simulation} {next : σ} {event : Event} {begun reacted : Context}
    (stands : Stands id interval rounds [] relay simulation.context)
    (dispatches : simulation.Dispatches react reached event after next begun reacted) :
    Stands id interval rounds [event] relay begun := by
  have ordered := simulation.context.agenda.ordered
  have waiting := stands.waiting
  rw [List.nil_append, dispatches.pending] at waiting
  rw [dispatches.pending] at ordered
  refine ⟨stands.own, stands.paced, stands.named, ?_⟩
  rw [dispatches.begun_now]
  exact waiting.advance ordered dispatches.notPast

theorem round {event : Event} {round : Round}
    (stands : Stands id interval rounds [event] relay round.begun) (paced : 1 ≤ interval)
    (now : round.begun.now = event.time) (renews : relay.Renews round) :
    Stands id interval (rounds ++ [round]) [] round.relay round.ended := by
  have own := renews.id.trans stands.own
  refine ⟨own, renews.interval.trans stands.paced, ?_, ?_⟩
  · intro other member
    rcases List.mem_append.mp member with before | last
    · exact stands.named other before
    · rwa [List.mem_singleton.mp last]
  · rw [renews.now]
    refine stands.waiting.after_round paced stands.paced (fun waiting member => ?_) renews
    rcases List.mem_cons.mp member with rfl | pending
    · exact .inr (congrArg Time.ticks now.symm)
    · exact .inl pending

theorem attends {event : Event} {begun reacted : Context}
    (stands : Stands id interval rounds [event] relay begun) (paced : 1 ≤ interval)
    (now : begun.now = event.time) (regular : Regular interval rounds)
    (attends : Attends id begun relay event.payload more reacted next) :
    Regular interval (rounds ++ more) ∧
      (reacted.halted = false → Stands id interval (rounds ++ more) [] next reacted) := by
  cases attends with
  | other other unmanaged =>
      rw [List.append_nil]
      exact ⟨regular, fun _ => (stands.forget other).unmanaged unmanaged⟩
  | @round first managed _ early late _ asks earlier running manages later =>
      obtain ⟨_, advances⟩ := earlier.advances
      have renews := manage_renews running manages
      have held := (stands.unmanaged earlier).round paced (advances.now.trans now) renews
      refine ⟨regular.append paced ?_, fun _ => held.unmanaged later⟩
      have waiting := held.waiting
      rwa [renews.now] at waiting
  | ending halted =>
      rw [List.append_nil]
      exact ⟨regular, fun running => nomatch halted.symm.trans running⟩

end Stands

theorem Driven.regular (driven : Driven react look id initial state rounds simulation reached)
    (known : look state = some relay) (own : relay.id = id) (fresh : relay.nextTick = none)
    (paced : 1 ≤ relay.interval) :
    Regular relay.interval rounds ∧ (simulation.context.halted = false →
      ∃ current, look reached = some current ∧
        Stands id relay.interval rounds [] current simulation.context) := by
  induction driven with
  | start =>
      refine ⟨⟨by simp, by simp⟩, fun _ => ⟨relay, known, own, rfl, by simp, ?_⟩⟩
      exact .idle rfl fresh
  | @schedule rounds simulation after reached time payload event _ scheduled ih =>
      obtain ⟨regular, stands⟩ := ih
      refine ⟨regular, fun running => ?_⟩
      have asks : Expressible Notice.Any (Act.scheduleAt time payload) := .schedule time trivial
      obtain ⟨entered, advances⟩ := asks.advances (Simulation.perform_outcome scheduled).1
      have before : simulation.context.halted = false := by
        by_contra halted
        have still := (advances.halted (by simpa using halted)).1
        simp [running] at still
      obtain ⟨current, found, stands⟩ := stands before
      exact ⟨current, found, stands.unmanaged ⟨⟨entered, advances⟩, rfl, rfl, rfl⟩⟩
  | @step rounds more simulation after reached next event begun reacted relay' changed _ dispatches
      found kept attends ih =>
      obtain ⟨regular, stands⟩ := ih
      obtain ⟨current, again, stands⟩ := stands dispatches.running
      obtain rfl : relay' = current := Option.some.inj (found.symm.trans again)
      obtain ⟨regular, stands⟩ :=
        (stands.dispatch dispatches).attends paced dispatches.begun_now regular attends
      refine ⟨regular, fun running => ⟨changed, kept, ?_⟩⟩
      have settled := dispatches.after_context running
      rw [settled] at running ⊢
      exact stands running

/-- The handler sees to it that the relay holds a round whenever an event asks it to. -/
def Attentive (react : Event → σ → Act σ) (look : σ → Option Relay) (id : DeviceId) : Prop :=
  ∀ event state relay begun next reacted, look state = some relay → begun.halted = false →
    (react event state).Ends begun next reacted →
      ∃ rounds changed, look next = some changed ∧
        Attends id begun relay event.payload rounds reacted changed

theorem Attends.times {payload : Payload} {begun reacted : Context}
    (attends : Attends id begun relay payload more reacted next)
    (running : reacted.halted = false) :
    more.map Round.time = if payload.isRound id then [begun.now.ticks] else [] := by
  cases attends with
  | other other => rw [Payload.isRound_eq_false_iff.mpr other]; rfl
  | @round first managed _ early late _ asks earlier =>
      obtain ⟨_, advances⟩ := earlier.advances
      rw [Payload.isRound_iff.mpr asks, if_pos rfl, ← advances.now]
      rfl
  | ending halted => exact nomatch halted.symm.trans running

namespace Attentive

variable {after : Simulation} {changed : σ} {event : Event}

theorem step (attentive : Attentive react look id)
    (driven : Driven react look id initial state rounds simulation reached)
    (known : (look reached).isSome)
    (stepped : (simulation.step react reached).outcome = .ok (some event, after, changed)) :
    ∃ more, Driven react look id initial state (rounds ++ more) after changed ∧
      (look changed).isSome ∧ (after.isTerminated = false →
        more.map Round.time = if event.payload.isRound id then [event.time.ticks] else []) := by
  obtain ⟨begun, reacted, dispatches⟩ := Simulation.dispatches_of_step stepped
  obtain ⟨relay, found⟩ := Option.isSome_iff_exists.mp known
  obtain ⟨more, next, kept, attends⟩ :=
    attentive _ _ _ _ _ _ found dispatches.begun_running dispatches.reacts
  refine ⟨more, .step driven dispatches found kept attends, by simp [kept], fun going => ?_⟩
  have running : reacted.halted = false := dispatches.after_context going ▸ going
  rw [attends.times running, dispatches.begun_now]

theorem driven (attentive : Attentive react look id) (known : (look state).isSome)
    {commands : List Command}
    (performed : (Command.performFrom react commands initial state).outcome =
      .ok (simulation, reached)) :
    ∃ rounds, Driven react look id initial state rounds simulation reached := by
  refine (Command.performFrom_keeps (motive := fun simulation reached =>
    (∃ rounds, Driven react look id initial state rounds simulation reached) ∧
      (look reached).isSome) ?_ ?_ ⟨⟨[], .start⟩, known⟩ performed).1
  · rintro simulation reached time payload event after ⟨⟨rounds, driven⟩, found⟩ scheduled
    exact ⟨⟨rounds, driven.schedule scheduled⟩, found⟩
  · rintro simulation reached event after changed ⟨⟨rounds, driven⟩, found⟩ stepped
    obtain ⟨more, driven, kept, _⟩ := attentive.step driven found stepped
    exact ⟨⟨_, driven⟩, kept⟩

end Attentive
end Runs

/-- Whatever else makes a relay manage its resources, and whenever: it asks for a round at each of
the regular times after its first one, once for each, as far as the run goes. After every round
exactly one of its requests is ahead. -/
theorem rearms_regularly {σ : Type} {react : Event → σ → Act σ} {look : σ → Option Relay}
    {initial : Simulation} {state : σ} {relay : Relay} (known : look state = some relay)
    (attentive : Attentive react look relay.id) (fresh : relay.nextTick = none)
    (paced : 1 ≤ relay.interval) :
    (∀ commands simulation reached,
      (Command.performFrom react commands initial state).outcome = .ok (simulation, reached) →
        ∃ rounds, Driven react look relay.id initial state rounds simulation reached) ∧
    ∀ rounds simulation reached,
      Driven react look relay.id initial state rounds simulation reached →
      (∀ first last, rounds.head? = some first → rounds.getLast? = some last →
        (rounds.flatMap Round.asked).map (·.time.ticks) =
          (List.range ((last.time - first.time) / relay.interval + 1)).map fun index =>
            first.time + (index + 1) * relay.interval) ∧
      (∀ earlier round later, rounds = earlier ++ round :: later →
        round.relay.Awaits relay.interval ((earlier ++ [round]).flatMap Round.asked) round.time
          round.ended) ∧
      (simulation.isTerminated = false → ∀ last, rounds.getLast? = some last →
        ∃ current, look reached = some current ∧
          current.Awaits relay.interval (rounds.flatMap Round.asked) last.time
            simulation.context) := by
  refine ⟨fun commands simulation reached performed =>
    attentive.driven (by simp [known]) performed, fun rounds simulation reached driven => ?_⟩
  obtain ⟨regular, stands⟩ := driven.regular known rfl fresh paced
  refine ⟨regular.times, regular.ahead, fun running last latest => ?_⟩
  obtain ⟨current, found, stands⟩ := stands running
  exact ⟨current, found, stands.waiting.awaits latest⟩

end Relay

theorem Orchestrator.handle_attentive (id : DeviceId) :
    Relay.Attentive Orchestrator.handle (·.relay? id) id := by
  intro event orchestrator relay begun next reacted found running ended
  have advances := (orchestrator.handle_expressible event).advances ended
  have reaction := handle_reaction running ended
  obtain ⟨device, known, relays⟩ := Option.bind_eq_some_iff.mp found
  cases device with
  | recorder => cases relays
  | relay same =>
      obtain rfl := Option.some.inj relays
      by_cases asks : event.payload = .device id .manageResources
      · rw [asks] at reaction
        cases reaction with
        | unknownDevice unknown =>
            rw [known] at unknown
            cases unknown
        | device held reacts =>
            rw [known] at held
            obtain rfl := Option.some.inj held
            obtain ⟨managed, manages, rfl⟩ := Act.ends_map_iff.mp reacts
            refine ⟨_, managed, ?_,
              .round asks (.of_same begun _) running manages (.of_same reacted _)⟩
            simp [relay?, Device.relay?]
      · generalize event.payload = payload at asks reaction ⊢
        cases reaction with
        | @device there event target _ _ held reacts =>
            by_cases here : id = there
            · subst here
              rw [known] at held
              obtain rfl := Option.some.inj held
              have own := (Device.react_reaction running reacts).id_eq
              obtain ⟨changed, changes, rfl⟩ := Act.ends_map_iff.mp reacts
              have quiet : event ≠ .manageResources := fun manages => asks (by rw [manages])
              obtain ⟨interval, tick⟩ := Relay.react_nextTick quiet changes
              refine ⟨[], changed, ?_, .other asks ⟨advances, own, interval, tick⟩⟩
              simp [relay?, Device.relay?]
            · refine ⟨[], same, ?_, .other asks ⟨advances, rfl, rfl, rfl⟩⟩
              simp only [relay?, SortedMap.get?_insert_of_ne _ _ here]
              exact found
        | _ => exact ⟨[], same, found, .other asks ⟨advances, rfl, rfl, rfl⟩⟩

namespace Demo

def tend (event : Event) (relay : Relay) : Act Relay := do
  if 30 < (← Act.now).ticks then
    Act.terminate
    return relay
  else if event.payload.isRound ⟨0⟩ then relay.manage
  else return relay

theorem tend_attentive : Relay.Attentive tend some ⟨0⟩ := by
  intro event relay _ begun next reacted same running ended
  obtain rfl := Option.some.inj same
  simp only [tend, Act.ends_bind_iff, Act.ends_now_iff] at ended
  obtain ⟨_, _, ⟨rfl, rfl⟩, ended⟩ := ended
  split at ended
  · simp only [Act.ends_bind_iff, Act.ends_terminate_iff, Act.ends_pure_iff] at ended
    obtain ⟨_, _, rfl, rfl, rfl⟩ := ended
    exact ⟨[], _, rfl, .ending rfl⟩
  · split at ended
    next asks =>
      exact ⟨_, next, rfl, .round (Payload.isRound_iff.mp asks) (.of_same _ _) running ended
        (.of_same reacted _)⟩
    next other =>
      obtain ⟨rfl, rfl⟩ := Act.ends_pure_iff.mp ended
      refine ⟨[], next, rfl, .other ?_ (.of_same _ _)⟩
      exact fun asks => other (Payload.isRound_iff.mpr asks)

def pacer : Relay := Relay.named ⟨0⟩ "pacer"

def extras : List Command :=
  [.schedule ⟨10⟩ (.device ⟨0⟩ .manageResources), .schedule ⟨4⟩ (.device ⟨0⟩ .manageResources),
    .schedule ⟨14⟩ (.device ⟨0⟩ .manageResources), .step, .schedule ⟨5⟩ .controlTick, .step, .step,
    .step, .step]

def roundTimes? : List Command → Simulation → Relay → Option (List Nat × Simulation × Relay)
  | [], simulation, relay => some ([], simulation, relay)
  | .schedule time payload :: rest, simulation, relay =>
      match (simulation.schedule time payload).outcome with
      | .ok (_, after) => roundTimes? rest after relay
      | .error _ => none
  | .step :: rest, simulation, relay =>
      match (simulation.step tend relay).outcome with
      | .ok (some event, after, next) =>
          if after.isTerminated then none
          else
            (roundTimes? rest after next).map fun ran =>
              ((if event.payload.isRound ⟨0⟩ then [event.time.ticks] else []) ++ ran.1, ran.2)
      | _ => none
  | _ :: _, _, _ => none

theorem driven_of_roundTimes? {commands : List Command} {initial simulation final : Simulation}
    {state relay last : Relay} {rounds : List Relay.Round} {times : List Nat}
    (driven : Relay.Driven tend some ⟨0⟩ initial state rounds simulation relay)
    (ran : roundTimes? commands simulation relay = some (times, final, last)) :
    ∃ more, Relay.Driven tend some ⟨0⟩ initial state (rounds ++ more) final last ∧
      more.map Relay.Round.time = times := by
  induction commands generalizing simulation relay rounds times with
  | nil =>
      cases ran
      exact ⟨[], by rwa [List.append_nil], rfl⟩
  | cons command rest ih =>
      cases command with
      | schedule time payload =>
          simp only [roundTimes?] at ran
          split at ran
          next scheduled => exact ih (driven.schedule scheduled) ran
          next => cases ran
      | step =>
          simp only [roundTimes?] at ran
          split at ran
          next event after next stepped =>
            split at ran
            next => cases ran
            next going =>
              obtain ⟨⟨later, reached⟩, went, same⟩ := Option.map_eq_some_iff.mp ran
              cases same
              obtain ⟨now, driven, _, held⟩ := tend_attentive.step driven rfl stepped
              obtain ⟨more, driven, times⟩ := ih driven went
              refine ⟨now ++ more, by rwa [← List.append_assoc], ?_⟩
              rw [List.map_append, held (by simpa using going), times]
          next => cases ran
      | _ => cases ran

theorem extras_rounds : ∃ rounds simulation relay,
    Relay.Driven tend some ⟨0⟩ .initial pacer rounds simulation relay ∧
      simulation.isTerminated = false ∧ rounds.map Relay.Round.time = [4, 10, 14, 14] := by
  have turns : (roundTimes? extras .initial pacer).any (fun ran =>
      decide (ran.2.1.isTerminated = false ∧ ran.1 = [4, 10, 14, 14])) = true := by
    decide +kernel
  obtain ⟨⟨times, simulation, relay⟩, ran, checked⟩ := (Option.any_eq_true _ _).mp turns
  obtain ⟨going, rfl⟩ := of_decide_eq_true checked
  obtain ⟨rounds, driven, held⟩ := driven_of_roundTimes? .start ran
  exact ⟨rounds, simulation, relay, driven, going, held⟩

end Demo

theorem Relay.rearms_regularly_pacer : Demo.pacer.nextTick = none ∧ 1 ≤ Demo.pacer.interval ∧
    ∃ rounds simulation relay,
      Driven Demo.tend some ⟨0⟩ .initial Demo.pacer rounds simulation relay ∧
        rounds.map Round.time = [4, 10, 14, 14] ∧
        (rounds.flatMap Round.asked).map (·.time.ticks) = [14, 24] ∧
        relay.Awaits 10 (rounds.flatMap Round.asked) 14 simulation.context := by
  obtain ⟨rounds, simulation, relay, driven, going, times⟩ := Demo.extras_rounds
  have paced : 1 ≤ Demo.pacer.interval := by decide
  obtain ⟨asked, _, awaits⟩ :=
    (rearms_regularly rfl Demo.tend_attentive rfl paced).2 rounds simulation relay driven
  obtain ⟨first, begins, early⟩ : ∃ first, rounds.head? = some first ∧ first.time = 4 := by
    rw [← Option.map_eq_some_iff, ← List.head?_map, times]
    rfl
  obtain ⟨last, latest, late⟩ : ∃ last, rounds.getLast? = some last ∧ last.time = 14 := by
    rw [← Option.map_eq_some_iff, ← List.getLast?_map, times]
    rfl
  obtain ⟨_, same, ahead⟩ := awaits going last latest
  obtain rfl := Option.some.inj same
  refine ⟨rfl, paced, rounds, simulation, relay, driven, times, ?_, ?_⟩
  · rw [asked first last begins latest, early, late]
    decide
  · rwa [late] at ahead

end FogNetwork
