import FogNetwork.Proofs.Building
import FogNetwork.Proofs.Launches

/-! What the devices of a run are told, and when. The launch tells every device about the
application and each host about its modules, before any tuple reaches a device. -/

namespace FogNetwork

def Payload.isArrival : Payload → Bool
  | .device _ (.tupleArrival _) => true
  | _ => false

theorem Payload.isArrival_of_opens {payload : Payload} (opens : payload.opens = true) :
    payload.isArrival = false := by
  cases payload with
  | device _ event =>
      cases event with
      | tupleArrival => cases opens
      | _ => rfl
  | _ => rfl

theorem Context.Enters.pendingOf_eq {marks : Payload → Bool} {before after : Context}
    {event : Event} (enters : before.Enters event after) (other : marks event.payload = false) :
    after.pendingOf marks = before.pendingOf marks := by
  apply pendingOf_eq_of_perm
  have filtered := enters.pending.filter (marks ·.payload)
  rwa [List.filter_cons_of_neg (by simp [other])] at filtered

theorem Context.Asks.pendingOf_eq {kind : Context → Event → Prop} {marks : Payload → Bool}
    {before after : Context} (asks : before.Asks kind after)
    (apart : ∀ context event, kind context event → marks event.payload = false) :
    after.pendingOf marks = before.pendingOf marks := by
  induction asks with
  | refl => rfl
  | tail _ asked ih =>
      obtain ⟨event, enters, own⟩ := asked
      rw [enters.pendingOf_eq (apart _ event own), ih]

theorem Payload.CallsFor.isArrival_eq_false {held : Option Application} {payload : Payload}
    (calls : payload.CallsFor held) : payload.isArrival = false := by
  cases payload with
  | device _ event =>
      cases event with
      | tupleArrival => exact calls.elim
      | _ => rfl
  | _ => rfl

/-! As long as no sensor emits, no tuple is on its way. -/

/-- Whether a device has nothing to execute. What a recorder shows as its queue is never
executed. -/
def Device.Idle : Device → Prop
  | .relay device => device.north = []
  | .recorder _ => True

theorem Relay.manage_idle {relay next : Relay} {before after : Context} (idle : relay.north = [])
    (running : before.halted = false) (ended : relay.manage.Ends before next after) :
    next.north = [] ∧
      after.pendingOf Payload.isArrival = before.pendingOf Payload.isArrival := by
  simp only [manage, Act.ends_bind_iff, Act.ends_now_iff] at ended
  obtain ⟨armed, _, rearmed, _, between, ⟨rfl, rfl⟩, served⟩ := ended
  obtain ⟨_, north, _⟩ := Serving.begin running rearmed
  rw [idle] at north
  simp only [serve, north, round, List.foldlM_nil, Act.ends_pure_iff] at served
  obtain ⟨rfl, rfl⟩ := served
  refine ⟨rfl, ?_⟩
  rcases rearm_cases running rearmed with ⟨_, _, _, enters, _⟩ | ⟨_, _, _, _, rfl⟩
  · exact enters.pendingOf_eq rfl
  · rfl

theorem Device.react_idle {device next : Device} {event : DeviceEvent} {before after : Context}
    (idle : device.Idle) (quiet : ∀ tuple, event ≠ .tupleArrival tuple)
    (running : before.halted = false) (reacts : (device.react event).Ends before next after) :
    next.Idle ∧ after.pendingOf Payload.isArrival = before.pendingOf Payload.isArrival := by
  cases device with
  | recorder recorder =>
      obtain ⟨_, ended, rfl⟩ := Act.ends_map_iff.mp reacts
      simp only [Recorder.react, Act.ends_bind_iff, Act.ends_now_iff, Act.ends_pure_iff] at ended
      obtain ⟨_, _, ⟨_, rfl⟩, _, rfl⟩ := ended
      exact ⟨trivial, rfl⟩
  | relay relay =>
      obtain ⟨_, ended, rfl⟩ := Act.ends_map_iff.mp reacts
      cases event with
      | applicationActive | applicationReceived =>
          obtain ⟨rfl, rfl⟩ := Act.ends_pure_iff.mp ended
          exact ⟨idle, rfl⟩
      | launchModule =>
          simp only [Relay.react, Act.ends_bind_iff, Act.ends_note_iff, Act.ends_pure_iff] at ended
          obtain ⟨_, _, rfl, rfl, rfl⟩ := ended
          exact ⟨idle, rfl⟩
      | manageResources => exact Relay.manage_idle idle running ended
      | tupleArrival tuple => exact absurd rfl (quiet tuple)

theorem Reaction.idle {orchestrator next : Orchestrator} {begun reacted : Context}
    {payload : Payload} (reaction : Reaction orchestrator begun payload next reacted)
    (running : begun.halted = false) (idle : orchestrator.devices.All Device.Idle)
    (quiet : payload.isArrival = false) (silent : ∀ id, payload ≠ .transmit id) :
    next.devices.All Device.Idle ∧
      reacted.pendingOf Payload.isArrival = begun.pendingOf Payload.isArrival := by
  cases reaction with
  | launch asks | control asks =>
      exact ⟨idle, asks.pendingOf_eq fun _ _ calls => calls.calls.isArrival_eq_false⟩
  | finished | unknownDevice | silent | unknownActuator => exact ⟨idle, rfl⟩
  | stop halts =>
      rcases halts with rfl | rfl
      · exact ⟨idle, rfl⟩
      · exact ⟨idle, rfl⟩
  | @device id event _ _ _ known reacts =>
      have other : ∀ tuple, event ≠ .tupleArrival tuple := by
        rintro tuple rfl
        cases quiet
      obtain ⟨still, same⟩ := Device.react_idle (idle _ _ known) other running reacts
      exact ⟨idle.insert still, same⟩
  | sensor => exact absurd rfl (silent _)
  | actuator known reacts =>
      obtain ⟨_, rfl⟩ := Actuator.receive_ends reacts
      exact ⟨idle, rfl⟩

namespace Scenario

variable {started scenario : Scenario} {turns : List Turn}

structure Hushed (scenario : Scenario) : Prop where
  idle : scenario.orchestrator.devices.All Device.Idle
  still : scenario.simulation.context.pendingOf Payload.isArrival = []

theorem Reached.hushed (hushed : started.Hushed) (reached : started.Reached turns scenario)
    (silent : ∀ turn ∈ turns, ∀ id, turn.event.payload ≠ .transmit id) :
    (∀ turn ∈ turns, turn.event.payload.isArrival = false) ∧ scenario.Hushed := by
  refine reached.keeps (motive := fun turns scenario =>
    (∀ turn ∈ turns, ∀ id, turn.event.payload ≠ .transmit id) →
      (∀ turn ∈ turns, turn.event.payload.isArrival = false) ∧ scenario.Hushed)
    (fun _ => ⟨by simp, hushed⟩) ?_ silent
  intro turns before event after begun reacted earlier dispatches silent
  obtain ⟨earlier, hushed⟩ := earlier fun turn member => silent turn (by simp [member])
  have still := hushed.still
  have quiet : event.payload.isArrival = false := by
    by_contra arrives
    rw [pendingOf_of_mark dispatches (by simpa using arrives)] at still
    cases still
  rw [pendingOf_of_other dispatches quiet] at still
  obtain ⟨idle, same⟩ := dispatches.reaction.idle dispatches.begun_running hushed.idle quiet
    (silent ⟨event, before, after⟩ (by simp))
  refine ⟨?_, idle, ?_⟩
  · intro turn member
    rcases List.mem_append.mp member with old | new
    · exact earlier turn old
    · obtain rfl := List.mem_singleton.mp new
      exact quiet
  · rw [dispatches.context, Context.settled]
    split
    · rfl
    · exact same.trans still

end Scenario

/-! After the launch, tuples reach the devices no sooner than what the launch has to tell them. -/

def DeviceEvent.isNews : DeviceEvent → Bool
  | .manageResources => false
  | _ => true

def Payload.isNews : Payload → Bool
  | .device _ event => event.isNews
  | _ => false

theorem Payload.isNews_eq (payload : Payload) :
    payload.isNews = (payload.isBrief || payload.isArrival) := by
  cases payload with
  | device _ event => cases event <;> rfl
  | _ => rfl

namespace Scenario

variable {before after started scenario : Scenario} {turns : List Turn} {told : List Event}
variable {timer event : Event} {begun reacted : Context}

def news (turns : List Turn) : List Event := (turns.map (·.event)).filter (·.payload.isNews)

theorem news_append (early late : List Turn) : news (early ++ late) = news early ++ news late := by
  simp [news]

/-- A run in which the devices are told what is in `told`: as much as is still pending of it comes
before any tuple reaches a device. -/
structure Telling (timer : Event) (told : List Event) (turns : List Turn) (scenario : Scenario) :
    Prop where
  once : scenario.simulation.context.pendingOf Payload.isLaunch = []
  clock : ∀ brief ∈ told, brief.time.ticks ≤ scenario.simulation.context.now.ticks
  order : ∀ brief ∈ scenario.simulation.context.pendingOf Payload.isBrief,
    ∀ arrival ∈ scenario.simulation.context.pendingOf Payload.isArrival, brief.before arrival
  course : ∃ front arrivals, news turns = front ++ arrivals ∧
    front ++ scenario.simulation.context.pendingOf Payload.isBrief = told ∧
    (∀ brief ∈ front, brief.before timer) ∧
    (∀ arrival ∈ arrivals, arrival.payload.isArrival = true) ∧
    (arrivals = [] ∨ scenario.simulation.context.pendingOf Payload.isBrief = [])

theorem Telling.listed (telling : before.Telling timer told turns) {brief : Event}
    (pending : brief ∈ before.simulation.context.pendingOf Payload.isBrief) : brief ∈ told := by
  obtain ⟨front, _, _, split, _⟩ := telling.course
  rw [← split]
  exact List.mem_append_right front pending

theorem arrivals_behind
    (dispatches : before.simulation.Dispatches Orchestrator.handle before.orchestrator event
      after.simulation after.orchestrator begun reacted) {brief : Event}
    (waits : brief ∈ begun.agenda.pending)
    (early : brief.time.ticks ≤ before.simulation.context.now.ticks)
    (ahead : ∀ arrival ∈ before.simulation.context.pendingOf Payload.isArrival,
      brief.before arrival) :
    brief.time.ticks ≤ reacted.now.ticks ∧
      ∀ arrival ∈ reacted.pendingOf Payload.isArrival, brief.before arrival := by
  obtain ⟨entered, advances⟩ :=
    (before.orchestrator.handle_expressible event).advances dispatches.reacts
  have notPast := dispatches.notPast
  have now := dispatches.begun_now
  refine ⟨by rw [advances.now, now]; omega, ?_⟩
  intro arrival arrives
  obtain ⟨comes, marked⟩ := Context.mem_pendingOf.mp arrives
  rcases List.mem_append.mp (advances.pending.subset comes) with old | new
  · refine ahead arrival (Context.mem_pendingOf.mpr ⟨?_, marked⟩)
    rw [dispatches.pending]
    exact List.mem_cons_of_mem event old
  · have number : arrival.id.number ∈ entered.map (·.id.number) := List.mem_map_of_mem new
    rw [advances.numbered, List.mem_range'_1] at number
    have issued := begun.agenda.issued brief waits
    have late := advances.notPast arrival new
    rw [now] at late
    simp only [Event.before]
    omega

theorem Telling.order_turn (telling : before.Telling timer told turns)
    (dispatches : before.simulation.Dispatches Orchestrator.handle before.orchestrator event
      after.simulation after.orchestrator begun reacted)
    (same : reacted.pendingOf Payload.isBrief = begun.pendingOf Payload.isBrief) :
    ∀ brief ∈ reacted.pendingOf Payload.isBrief,
      ∀ arrival ∈ reacted.pendingOf Payload.isArrival, brief.before arrival := by
  intro brief briefs
  rw [same] at briefs
  obtain ⟨waits, marked⟩ := Context.mem_pendingOf.mp briefs
  have waiting : brief ∈ before.simulation.context.pendingOf Payload.isBrief := by
    rw [Context.mem_pendingOf, dispatches.pending]
    exact ⟨List.mem_cons_of_mem event waits, marked⟩
  exact (arrivals_behind dispatches waits (telling.clock brief (telling.listed waiting))
    (telling.order brief waiting)).2

theorem Telling.told_of_arrival (telling : before.Telling timer told turns)
    (dispatches : before.simulation.Dispatches Orchestrator.handle before.orchestrator event
      after.simulation after.orchestrator begun reacted)
    (arrives : event.payload.isArrival = true) : begun.pendingOf Payload.isBrief = [] := by
  rw [List.eq_nil_iff_forall_not_mem]
  intro brief waits
  obtain ⟨pending, marked⟩ := Context.mem_pendingOf.mp waits
  have first := dispatched_first dispatches pending
  refine Event.before_asymm first (telling.order brief ?_ event ?_)
  · rw [Context.mem_pendingOf, dispatches.pending]
    exact ⟨List.mem_cons_of_mem event pending, marked⟩
  · rw [pendingOf_of_mark dispatches arrives]
    exact List.mem_cons_self

theorem Telling.turn (telling : before.Telling timer told turns) (underway : before.Underway timer)
    (dispatches : before.simulation.Dispatches Orchestrator.handle before.orchestrator event
      after.simulation after.orchestrator begun reacted) (goesOn : event.payload ≠ .stop)
    (settled : after.simulation.context = reacted) :
    after.Telling timer told (turns ++ [⟨event, before, after⟩]) := by
  obtain ⟨quiet, once⟩ := never_turn (fun _ _ _ _ answers _ => answers.isLaunch_eq_false)
    telling.once dispatches
  have same : reacted.pendingOf Payload.isBrief = begun.pendingOf Payload.isBrief :=
    pendingOf_reacted dispatches goesOn fun _ _ answers => answers.isBrief_eq_false quiet
  have now := dispatches.after_now
  refine ⟨once, ?_, ?_, ?_⟩
  · intro brief member
    rw [now]
    exact Nat.le_trans (telling.clock brief member) dispatches.notPast
  · rw [settled]
    exact telling.order_turn dispatches same
  · rw [settled, same]
    obtain ⟨front, arrivals, visited, split, due, arrive, apart⟩ := telling.course
    rw [news_append, visited]
    cases brief : event.payload.isBrief with
    | true =>
        have one : news [⟨event, before, after⟩] = [event] := by
          simp [news, Payload.isNews_eq, brief]
        rw [pendingOf_of_mark dispatches brief] at split apart
        obtain rfl : arrivals = [] := by simpa using apart
        refine ⟨front ++ [event], [], by simp [one], by simpa using split, ?_, nofun, .inl rfl⟩
        intro other member
        rcases List.mem_append.mp member with old | new
        · exact due other old
        · obtain rfl := List.mem_singleton.mp new
          exact dispatched_first dispatches (underway.begins dispatches goesOn).pending
    | false =>
        rw [pendingOf_of_other dispatches brief] at split apart
        cases arrival : event.payload.isArrival with
        | true =>
            have one : news [⟨event, before, after⟩] = [event] := by
              simp [news, Payload.isNews_eq, arrival]
            have none := telling.told_of_arrival dispatches arrival
            refine ⟨front, arrivals ++ [event], by simp [one], split, due, ?_, .inr none⟩
            intro other member
            rcases List.mem_append.mp member with old | new
            · exact arrive other old
            · obtain rfl := List.mem_singleton.mp new
              exact arrival
        | false =>
            have other : news [⟨event, before, after⟩] = [] := by
              simp [news, Payload.isNews_eq, brief, arrival]
            exact ⟨front, arrivals, by simp [other], split, due, arrive, apart⟩

end Scenario

namespace Orchestrator

variable {orchestrator : Orchestrator} {held : Submission}

theorem launchRequests_isBrief : (orchestrator.launchRequests held).filter (·.2.isBrief) =
    (briefing held orchestrator.devices.keys).map (0, ·) := by
  have told : ((briefing held orchestrator.devices.keys).map ((0 : Nat), ·)).filter
      (fun request => request.2.isBrief) = (briefing held orchestrator.devices.keys).map (0, ·) := by
    rw [List.filter_eq_self]
    intro request member
    obtain ⟨payload, listed, rfl⟩ := List.mem_map.mp member
    exact briefing_isBrief payload listed
  have armed : ((orchestrator.feeders held).map fun sensor =>
      (sensor.interval, Payload.transmit sensor.id)).filter (fun request => request.2.isBrief) =
        [] := by
    rw [List.filter_eq_nil_iff]
    intro request member
    obtain ⟨sensor, _, rfl⟩ := List.mem_map.mp member
    exact Bool.false_ne_true
  rw [launchRequests, List.filter_append, told, armed, List.append_nil]

end Orchestrator

namespace Scenario.Launched

variable {orchestrator : Orchestrator} {held : Submission} {timer : Event} {time : Nat}
variable {late : List Turn} {launched ended : Scenario}

theorem told (course : Launched orchestrator held time timer late launched ended) :
    (launched.simulation.context.pendingOf Payload.isBrief).map
        (fun brief => (brief.time.ticks, brief.payload)) =
      (Orchestrator.briefing held orchestrator.devices.keys).map (time, ·) ∧
    ∀ brief ∈ launched.simulation.context.pendingOf Payload.isBrief,
      brief.time.ticks = time ∧ (brief.id.number < timer.id.number ↔ held.delay = 0) := by
  obtain ⟨fresh, pending, listed, rising, order⟩ :=
    course.pendingOf fun _ => Payload.opens_of_isBrief
  rw [Orchestrator.launchRequests_isBrief, List.map_map] at listed
  have due : ∀ brief ∈ fresh, brief.time.ticks = time := by
    intro brief member
    have shown : (brief.time.ticks, brief.payload) ∈ fresh.map fun brief =>
        (brief.time.ticks, brief.payload) := List.mem_map_of_mem member
    rw [listed] at shown
    obtain ⟨payload, _, same⟩ := List.mem_map.mp shown
    exact (Prod.mk.inj same).1.symm
  have ordered : fresh.Pairwise Event.before := by
    refine rising.imp_of_mem ?_
    intro early late first second less
    exact .inr ⟨(due early first).trans (due late second).symm, less⟩
  have same := Event.eq_of_perm (Context.pendingOf_ordered ..) ordered pending
  rw [same]
  exact ⟨listed, fun brief member => ⟨due brief member, order brief member⟩⟩

theorem telling (course : Launched orchestrator held time timer late launched ended)
    (hushed : launched.Hushed) :
    launched.Telling timer (launched.simulation.context.pendingOf Payload.isBrief) [] := by
  refine ⟨course.once, ?_, ?_, [], [], rfl, rfl, nofun, nofun, .inl rfl⟩
  · intro brief member
    rw [course.clock]
    exact (course.told.2 brief member).1.le
  · rw [hushed.still]
    exact fun _ _ _ => nofun

theorem news_of_over (course : Launched orchestrator held time timer late launched ended)
    (hushed : launched.Hushed) (isOver : ended.simulation.isTerminated = true) :
    ∃ arrivals, (∀ arrival ∈ arrivals, arrival.payload.isArrival = true) ∧
      (time < timer.time.ticks →
        news late = launched.simulation.context.pendingOf Payload.isBrief ++ arrivals) ∧
      (timer.time.ticks ≤ time → held.delay ≠ 0 → news late = arrivals) := by
  obtain ⟨earlier, before, begun, figures, rfl, reached, stops⟩ :=
    course.reached.stopped course.underway isOver
  obtain ⟨_, telling⟩ := reached.keeps_underway
    (motive := Telling timer (launched.simulation.context.pendingOf Payload.isBrief))
    course.underway (course.telling hushed)
    (fun _ _ _ _ _ _ underway telling dispatches goesOn settled =>
      telling.turn underway dispatches goesOn settled) stops.underway.running
  obtain ⟨front, arrivals, visited, split, due, arrive, _⟩ := telling.course
  have last : news [⟨timer, before, ended⟩] = [] := by
    simp [news, course.underway.armed.stops, Payload.isNews]
  rw [news_append, last, List.append_nil, visited]
  refine ⟨arrivals, arrive, ?_, ?_⟩
  · intro inside
    have none : before.simulation.context.pendingOf Payload.isBrief = [] := by
      rw [List.eq_nil_iff_forall_not_mem]
      intro brief waits
      have time := (course.told.2 brief (telling.listed waits)).1
      obtain ⟨pending, marked⟩ := Context.mem_pendingOf.mp waits
      have ordered := before.simulation.context.agenda.ordered
      rw [stops.pending] at pending ordered
      rcases List.mem_cons.mp pending with rfl | later
      · omega
      · have behind := (List.pairwise_cons.mp ordered).1 brief later
        simp only [Event.before] at behind
        omega
    rw [← split, none, List.append_nil]
  · intro beyond delayed
    have none : front = [] := by
      rw [List.eq_nil_iff_forall_not_mem]
      intro brief member
      have listed : brief ∈ launched.simulation.context.pendingOf Payload.isBrief := by
        rw [← split]
        exact List.mem_append_left _ member
      obtain ⟨time, order⟩ := course.told.2 brief listed
      have ahead := due brief member
      simp only [Event.before] at ahead
      omega
    rw [none, List.nil_append]

end Scenario.Launched
namespace Scenario

variable {orchestrator : Orchestrator} {held : Submission} {before : Context}
variable {started ended : Scenario} {turns : List Turn}

theorem Reached.silent {early : List Turn} {opened : Scenario} (hushed : started.Hushed)
    (reached : started.Reached early opened)
    (ahead : ∀ turn ∈ early, turn.event.payload.opens = true →
      turn.event.payload.isLaunch = true) : news early = [] ∧ opened.Hushed := by
  have silent : ∀ turn ∈ early, ∀ id, turn.event.payload ≠ .transmit id := by
    intro turn member id transmits
    have launch := ahead turn member
    rw [transmits] at launch
    cases launch rfl
  obtain ⟨still, hush⟩ := reached.hushed hushed silent
  refine ⟨?_, hush⟩
  rw [news, List.filter_eq_nil_iff]
  intro event member
  obtain ⟨turn, listed, rfl⟩ := List.mem_map.mp member
  have quiet : turn.event.payload.isBrief = false := by
    by_contra marked
    have brief : turn.event.payload.isBrief = true := by simpa using marked
    have launch := ahead turn listed (Payload.opens_of_isBrief brief)
    rw [Payload.isLaunch_of_isBrief brief] at launch
    cases launch
  simp [Payload.isNews_eq, quiet, still turn listed]

theorem hushed_of_start {launched ticked stopped : Context} {timer : Event}
    (idle : orchestrator.devices.All Device.Idle)
    (same : started.orchestrator = { orchestrator with startedAt := some before.now })
    (stages : orchestrator.Starts before launched ticked stopped started.simulation.context timer) :
    started.Hushed := by
  refine ⟨by rw [same]; exact idle, ?_⟩
  rw [stages.pendingOf_opened rfl rfl fun _ => rfl]
  exact stages.pendingOf_launched fun _ => Payload.isArrival_of_opens

/-- What the devices hear of in a run, besides their rounds: the briefing, if there is time for it,
and then tuples. -/
theorem news_of_over (active : orchestrator.active = some held)
    (idle : orchestrator.devices.All Device.Idle) (running : before.halted = false)
    (empty : before.agenda.pending = [])
    (begins : orchestrator.start.Ends before (.ok (), started.orchestrator)
      started.simulation.context)
    (reached : started.Reached turns ended) (isOver : ended.simulation.isTerminated = true) :
    ∃ arrivals, (∀ arrival ∈ arrivals, arrival.payload.isArrival = true) ∧
      (held.delay < orchestrator.config.runLength → ∃ told, news turns = told ++ arrivals ∧
        told.map (fun brief => (brief.time.ticks, brief.payload)) =
          (Orchestrator.briefing held orchestrator.devices.keys).map
            (before.now.ticks + held.delay, ·)) ∧
      (orchestrator.config.runLength ≤ held.delay → news turns = arrivals) := by
  obtain ⟨same, launched, ticked, stopped, timer, stages, underway⟩ :=
    stages_of_start running empty begins reached isOver
  have hushed := hushed_of_start idle same stages
  have finish := stages.due
  rcases launch_course active same stages underway reached isOver with
    ⟨beyond, closed⟩ | ⟨early, late, opened, rfl, ahead, leads, course⟩
  · obtain ⟨none, _⟩ := reached.silent hushed fun turn member opens => by
      rw [closed turn member] at opens
      cases opens
    refine ⟨[], nofun, fun inside => ?_, fun _ => none⟩
    omega
  · obtain ⟨none, hush⟩ := leads.silent hushed ahead
    obtain ⟨arrivals, arrive, inTime, tooLate⟩ := course.news_of_over hush isOver
    rw [news_append, none, List.nil_append]
    refine ⟨arrivals, arrive, ?_, ?_⟩
    · intro inside
      exact ⟨_, inTime (by omega), course.told.1⟩
    · intro beyond
      have positive := (Config.positive_of_validate stages.valid).2
      exact tooLate (by omega) (by omega)

end Scenario
end FogNetwork
