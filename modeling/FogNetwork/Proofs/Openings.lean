import FogNetwork.Proofs.Extension

/-! What the start of a run asks for and what a launch asks for, event by event and in order. -/

namespace FogNetwork

namespace Event

theorem before_asymm {left right : Event} (earlier : left.before right) : ¬right.before left := by
  simp only [before] at *
  omega

theorem eq_of_perm {left right : List Event} (leftOrdered : left.Pairwise before)
    (rightOrdered : right.Pairwise before) (same : left.Perm right) : left = right := by
  refine same.eq_of_pairwise ?_ leftOrdered rightOrdered
  intro first second _ _ earlier later
  exact absurd later (before_asymm earlier)

end Event

namespace Context

variable {before middle after : Context} {marks : Payload → Bool}

def pendingOf (marks : Payload → Bool) (context : Context) : List Event :=
  context.agenda.pending.filter (marks ·.payload)

theorem mem_pendingOf {event : Event} : event ∈ after.pendingOf marks ↔
    event ∈ after.agenda.pending ∧ marks event.payload = true :=
  List.mem_filter

theorem pendingOf_ordered (marks : Payload → Bool) (context : Context) :
    (context.pendingOf marks).Pairwise Event.before :=
  context.agenda.ordered.filter _

theorem pendingOf_eq_of_perm
    (same : (after.pendingOf marks).Perm (before.pendingOf marks)) :
    after.pendingOf marks = before.pendingOf marks :=
  Event.eq_of_perm (pendingOf_ordered marks after) (pendingOf_ordered marks before) same

theorem filter_pendingOf {wide : Payload → Bool}
    (narrower : ∀ payload, marks payload = true → wide payload = true) (context : Context) :
    (context.pendingOf wide).filter (marks ·.payload) = context.pendingOf marks := by
  rw [pendingOf, pendingOf, List.filter_filter]
  apply List.filter_congr
  intro event _
  cases marked : marks event.payload with
  | false => rfl
  | true => rw [narrower event.payload marked, Bool.and_true]

theorem Gains.pendingOf_eq {fits : Nat → Payload → Prop} (gains : before.Gains fits after)
    (apart : ∀ delay payload, fits delay payload → marks payload = false) :
    after.pendingOf marks = before.pendingOf marks := by
  obtain ⟨entered, pending, asked⟩ := gains.pending
  have none : entered.filter (marks ·.payload) = [] := by
    rw [List.filter_eq_nil_iff]
    intro event member
    obtain ⟨delay, own, _⟩ := asked event member
    simp [apart delay event.payload own]
  apply pendingOf_eq_of_perm
  have filtered := pending.filter (marks ·.payload)
  rwa [List.filter_append, none, List.append_nil] at filtered

/-- From one context to another by entering events one after another, each given by its delay and
its payload. -/
structure Requests (requests : List (Nat × Payload)) (before after : Context) : Prop where
  halted : after.halted = before.halted
  timings : after.timings = before.timings
  usage : after.usage = before.usage
  entered : ∃ entered, before.Advances after entered ∧
    entered.map (fun event => (event.time.ticks, event.payload)) =
      requests.map fun request => (before.now.ticks + request.1, request.2)

namespace Requests

variable {requests more : List (Nat × Payload)}

theorem nothing (context : Context) : context.Requests [] context :=
  ⟨rfl, rfl, rfl, [], .unchanged rfl rfl id, rfl⟩

theorem of_enters {event : Event} {delay : Nat} (running : before.halted = false)
    (enters : before.Enters event after) (due : event.time.ticks = before.now.ticks + delay) :
    before.Requests [(delay, event.payload)] after := by
  refine ⟨enters.halted, enters.timings, enters.usage, [event], enters.advances running, ?_⟩
  simp [due]

theorem trans (left : before.Requests requests middle) (right : middle.Requests more after) :
    before.Requests (requests ++ more) after := by
  obtain ⟨early, first, asked⟩ := left.entered
  obtain ⟨late, second, askedLater⟩ := right.entered
  refine ⟨right.halted.trans left.halted, right.timings.trans left.timings,
    right.usage.trans left.usage, early ++ late, first.trans second, ?_⟩
  rw [List.map_append, List.map_append, asked, askedLater, first.now]

theorem now (asked : before.Requests requests after) : after.now = before.now := by
  obtain ⟨_, advances, _⟩ := asked.entered
  exact advances.now

theorem nextId (asked : before.Requests requests after) :
    after.agenda.nextId = before.agenda.nextId + requests.length := by
  obtain ⟨entered, advances, same⟩ := asked.entered
  have length := congrArg List.length same
  rw [List.length_map, List.length_map] at length
  rw [advances.nextId, length]

theorem pendingOf (asked : before.Requests requests after) (marks : Payload → Bool) :
    ∃ fresh, (after.pendingOf marks).Perm (before.pendingOf marks ++ fresh) ∧
      fresh.map (fun event => (event.time.ticks, event.payload)) =
        (requests.filter (marks ·.2)).map (fun request =>
          (before.now.ticks + request.1, request.2)) ∧
      fresh.Pairwise (fun early late => early.id.number < late.id.number) ∧
      ∀ event ∈ fresh, before.agenda.nextId ≤ event.id.number ∧
        event.id.number < after.agenda.nextId := by
  obtain ⟨entered, advances, same⟩ := asked.entered
  refine ⟨entered.filter (marks ·.payload), ?_, ?_, ?_, ?_⟩
  · rw [Context.pendingOf, Context.pendingOf, ← List.filter_append]
    exact advances.pending.filter _
  · have filtered := congrArg (List.filter fun request => marks request.2) same
    rw [List.filter_map, List.filter_map] at filtered
    exact filtered
  · have rising : (entered.map (·.id.number)).Pairwise (· < ·) := by
      rw [advances.numbered]
      exact List.pairwise_lt_range'
    exact (List.pairwise_map.mp rising).filter _
  · intro event member
    have number : event.id.number ∈ entered.map (·.id.number) :=
      List.mem_map_of_mem (List.mem_filter.mp member).1
    rw [advances.numbered, List.mem_range'_1] at number
    rw [advances.nextId]
    exact number

theorem pendingOf_eq (asked : before.Requests requests after)
    (apart : requests.filter (marks ·.2) = []) :
    after.pendingOf marks = before.pendingOf marks := by
  obtain ⟨fresh, pending, same, _⟩ := asked.pendingOf marks
  rw [apart] at same
  obtain rfl := List.map_eq_nil_iff.mp same
  rw [List.append_nil] at pending
  exact pendingOf_eq_of_perm pending

theorem pendingOf_single (asked : before.Requests requests after)
    (none : before.pendingOf marks = []) {delay : Nat} {payload : Payload}
    (one : requests.filter (marks ·.2) = [(delay, payload)]) :
    ∃ next, after.pendingOf marks = [next] ∧ next.payload = payload ∧
      next.time.ticks = before.now.ticks + delay ∧ before.agenda.nextId ≤ next.id.number ∧
      next.id.number < after.agenda.nextId := by
  obtain ⟨fresh, pending, same, _, numbered⟩ := asked.pendingOf marks
  rw [one] at same
  obtain ⟨next, rest, rfl, first, last⟩ := List.map_eq_cons_iff.mp same
  obtain rfl := List.map_eq_nil_iff.mp last
  rw [none] at pending
  obtain ⟨time, own⟩ := Prod.mk.inj first
  exact ⟨next, List.perm_singleton.mp pending, own, time, numbered next (by simp)⟩

theorem gains (asked : before.Requests requests after) :
    before.Gains (fun delay payload => (delay, payload) ∈ requests) after := by
  obtain ⟨entered, advances, same⟩ := asked.entered
  refine ⟨advances.now, asked.halted, entered, advances.pending, ?_⟩
  intro event member
  have listed : (event.time.ticks, event.payload) ∈ requests.map fun request =>
      (before.now.ticks + request.1, request.2) := by
    rw [← same]
    exact List.mem_map_of_mem member
  obtain ⟨⟨delay, payload⟩, own, equal⟩ := List.mem_map.mp listed
  obtain ⟨time, rfl⟩ := Prod.mk.inj equal
  exact ⟨delay, own, time.symm⟩

end Requests
end Context

namespace Act

variable {before after : Context} {payload : Payload} {id : EventId}

theorem scheduleNow_requests (running : before.halted = false)
    (ended : (scheduleNow payload).Ends before id after) :
    before.Requests [(0, payload)] after :=
  .of_enters running (scheduleNow_enters running ended) rfl

theorem scheduleAfter_requests {delay : Nat} (running : before.halted = false)
    (ended : (scheduleAfter delay payload).Ends before id after) :
    before.Requests [(delay, payload)] after := by
  obtain ⟨time, reached, enters⟩ := scheduleAfter_enters running ended
  exact .of_enters running enters (Time.after?_eq_some_iff.mp reached).2

theorem forM_requests {ι : Type} {body : ι → Act PUnit} {asks : ι → List (Nat × Payload)}
    {items : List ι} {done : PUnit} (running : before.halted = false)
    (each : ∀ item before after done, before.halted = false →
      (body item).Ends before done after → before.Requests (asks item) after)
    (ended : (items.forM body).Ends before done after) :
    before.Requests (items.flatMap asks) after := by
  induction items generalizing before with
  | nil =>
      rw [List.forM_eq_forM, List.forM_nil, ends_pure_iff] at ended
      rw [ended.2]
      exact .nothing before
  | cons item rest ih =>
      rw [List.forM_eq_forM, List.forM_cons, ends_bind_iff] at ended
      obtain ⟨_, between, first, later⟩ := ended
      have own := each item before between _ running first
      rw [List.flatMap_cons]
      exact own.trans (ih (own.halted.trans running) later)

end Act

theorem Config.positive_of_validate {config : Config} (valid : config.validate = .ok ()) :
    0 < config.controlInterval ∧ 0 < config.runLength := by
  unfold validate at valid
  split at valid
  · cases valid
  · split at valid
    · cases valid
    · omega

/-! What a launch is made of. -/

def Payload.isBrief : Payload → Bool
  | .device _ (.applicationActive _) => true
  | .device _ (.applicationReceived _) => true
  | .device _ (.launchModule _) => true
  | _ => false

def Payload.opens : Payload → Bool
  | .launchApplication _ => true
  | .transmit _ => true
  | payload => payload.isBrief

theorem Payload.opens_of_isBrief {payload : Payload} (brief : payload.isBrief = true) :
    payload.opens = true := by
  cases payload with
  | device => exact brief
  | _ => cases brief

namespace Orchestrator

variable {orchestrator next : Orchestrator} {before after : Context} {held : Submission}

def assignment (application : Application) (device : DeviceId) (name : String) : List Payload :=
  match application.module? name with
  | none => []
  | some spec =>
      [.device device (.applicationReceived application), .device device (.launchModule spec)]

def briefing (held : Submission) (devices : List DeviceId) : List Payload :=
  devices.map (fun device => .device device (.applicationActive held.application)) ++
    held.placement.assignments.entries.flatMap fun entry =>
      entry.2.flatMap (assignment held.application entry.1)

def feeders (orchestrator : Orchestrator) (held : Submission) : List Sensor :=
  orchestrator.sensors.values.filter (·.application == held.application.id)

def launchRequests (orchestrator : Orchestrator) (held : Submission) : List (Nat × Payload) :=
  (briefing held orchestrator.devices.keys).map (0, ·) ++
    (orchestrator.feeders held).map fun sensor => (sensor.interval, .transmit sensor.id)

theorem briefing_isBrief {devices : List DeviceId} :
    ∀ payload ∈ briefing held devices, payload.isBrief = true := by
  intro payload member
  rcases List.mem_append.mp member with told | placed
  · obtain ⟨device, _, rfl⟩ := List.mem_map.mp told
    rfl
  · obtain ⟨entry, _, placed⟩ := List.mem_flatMap.mp placed
    obtain ⟨name, _, placed⟩ := List.mem_flatMap.mp placed
    unfold assignment at placed
    split at placed
    · cases placed
    · simp only [List.mem_cons, List.not_mem_nil, or_false] at placed
      rcases placed with rfl | rfl
      · rfl
      · rfl

theorem launchRequests_cases : ∀ request ∈ orchestrator.launchRequests held,
    request.2.isBrief = true ∨ ∃ sensor, request.2 = .transmit sensor := by
  intro request member
  rcases List.mem_append.mp member with told | armed
  · obtain ⟨payload, own, rfl⟩ := List.mem_map.mp told
    exact .inl (briefing_isBrief payload own)
  · obtain ⟨sensor, _, rfl⟩ := List.mem_map.mp armed
    exact .inr ⟨sensor.id, rfl⟩

theorem launchRequests_opens :
    ∀ request ∈ orchestrator.launchRequests held, request.2.opens = true := by
  intro request member
  rcases launchRequests_cases request member with brief | ⟨sensor, armed⟩
  · exact Payload.opens_of_isBrief brief
  · rw [armed]
    rfl

theorem launchModule_requests {application : Application} {device : DeviceId} {name : String}
    {done : Unit} (running : before.halted = false)
    (ended : (launchModule application device name).Ends before done after) :
    before.Requests ((assignment application device name).map (0, ·)) after := by
  unfold launchModule at ended
  split at ended
  next unknown =>
    obtain ⟨_, rfl⟩ := Act.ends_pure_iff.mp ended
    simpa only [assignment, unknown, List.map_nil] using Context.Requests.nothing after
  next spec known =>
    simp only [Act.ends_bind_iff, Act.ends_pure_iff] at ended
    obtain ⟨_, between, received, _, _, launched, _, rfl⟩ := ended
    have first := Act.scheduleNow_requests running received
    have second := Act.scheduleNow_requests (first.halted.trans running) launched
    simp only [assignment, known]
    exact first.trans second

theorem activate_requests {done : Unit} (active : orchestrator.active = some held)
    (running : before.halted = false) (ended : orchestrator.activate.Ends before done after) :
    before.Requests (orchestrator.launchRequests held) after := by
  simp only [activate, active, Act.ends_bind_iff, Act.ends_now_iff, Act.ends_note_iff] at ended
  obtain ⟨_, informed, told, _, launched, placed, _, armed, emitting, _, _, ⟨rfl, rfl⟩, rfl⟩ :=
    ended
  have first : before.Requests (orchestrator.devices.keys.flatMap fun device =>
      [(0, .device device (.applicationActive held.application))]) informed := by
    refine Act.forM_requests running ?_ told
    intro device between next done still ended
    simp only [Act.ends_bind_iff, Act.ends_pure_iff] at ended
    obtain ⟨_, _, asked, _, rfl⟩ := ended
    exact Act.scheduleNow_requests still asked
  have second : informed.Requests (held.placement.assignments.entries.flatMap fun entry =>
      entry.2.flatMap fun name => (assignment held.application entry.1 name).map (0, ·))
      launched := by
    refine Act.forM_requests (first.halted.trans running) ?_ placed
    intro entry between next done still ended
    refine Act.forM_requests still ?_ ended
    intro name between next done still ended
    exact launchModule_requests still ended
  have third : launched.Requests ((orchestrator.feeders held).flatMap fun sensor =>
      [(sensor.interval, .transmit sensor.id)]) after := by
    refine Act.forM_requests (second.halted.trans (first.halted.trans running)) ?_ emitting
    intro sensor between next done still ended
    simp only [Sensor.arm, Act.ends_bind_iff, Act.ends_pure_iff] at ended
    obtain ⟨_, _, asked, _, rfl⟩ := ended
    exact Act.scheduleAfter_requests still asked
  have whole := (first.trans second).trans third
  simpa only [launchRequests, briefing, List.map_append, List.map_map, List.map_flatMap,
    List.flatMap_singleton', ← List.map_eq_flatMap, Function.comp_def] using whole

def openingRequests (orchestrator : Orchestrator) : List (Nat × Payload) :=
  match orchestrator.active with
  | none => []
  | some held =>
      if held.delay = 0 then orchestrator.launchRequests held
      else [(held.delay, .launchApplication held.application.id)]

theorem openingRequests_opens :
    ∀ request ∈ orchestrator.openingRequests, request.2.opens = true := by
  unfold openingRequests
  split
  · simp
  · split
    · exact launchRequests_opens
    · simp [Payload.opens]

theorem openingRequests_apart {marks : Payload → Bool}
    (apart : ∀ payload, payload.opens = true → marks payload = false) :
    orchestrator.openingRequests.filter (marks ·.2) = [] := by
  rw [List.filter_eq_nil_iff]
  intro request member
  simp [apart request.2 (openingRequests_opens request member)]

theorem launch_requests {done : Unit} (running : before.halted = false)
    (ended : orchestrator.launch.Ends before done after) :
    before.Requests orchestrator.openingRequests after := by
  cases active : orchestrator.active with
  | none =>
      simp only [launch, active] at ended
      simp only [openingRequests, active]
      obtain rfl := Act.ends_note_iff.mp ended
      exact .nothing after
  | some held =>
      simp only [launch, active] at ended
      simp only [openingRequests, active]
      split at ended
      next atOnce =>
        rw [if_pos atOnce]
        exact activate_requests active running ended
      next delayed =>
        rw [if_neg delayed]
        simp only [Act.ends_bind_iff, Act.ends_pure_iff] at ended
        obtain ⟨_, _, asked, _, rfl⟩ := ended
        exact Act.scheduleAfter_requests running asked

theorem rouse_requests {done : Unit} (running : before.halted = false)
    (ended : orchestrator.rouse.Ends before done after) :
    before.Requests (orchestrator.devices.keys.map fun device =>
      (0, .device device .manageResources)) after := by
  have asked : before.Requests (orchestrator.devices.keys.flatMap fun device =>
      [(0, .device device .manageResources)]) after := by
    refine Act.forM_requests running ?_ ended
    intro device between next done still ended
    simp only [Act.manageLater, Act.ends_bind_iff, Act.ends_pure_iff] at ended
    obtain ⟨_, _, asked, _, rfl⟩ := ended
    exact Act.scheduleAfter_requests still asked
  rwa [← List.map_eq_flatMap] at asked

structure Starts (orchestrator : Orchestrator) (before launched ticked stopped after : Context)
    (timer : Event) : Prop where
  valid : orchestrator.config.validate = .ok ()
  running : before.halted = false
  empty : before.agenda.pending = []
  opening : before.Requests orchestrator.openingRequests launched
  ticking : launched.Requests [(orchestrator.config.controlInterval, .controlTick)] ticked
  stopping : ticked.Requests [(orchestrator.config.runLength, .stop)] stopped
  rousing : stopped.Requests (orchestrator.devices.keys.map fun device =>
    (0, .device device .manageResources)) after
  armed : after.Armed timer
  due : timer.time.ticks = before.now.ticks + orchestrator.config.runLength
  reached : timer.time.ticks ≤ largest
  behind : ticked.agenda.nextId ≤ timer.id.number
  ahead : timer.id.number < stopped.agenda.nextId

theorem Starts.pendingOf_launched {launched ticked stopped : Context} {timer : Event}
    (starts : orchestrator.Starts before launched ticked stopped after timer)
    {marks : Payload → Bool} (apart : ∀ payload, payload.opens = true → marks payload = false) :
    launched.pendingOf marks = [] := by
  rw [starts.opening.pendingOf_eq (openingRequests_apart apart), Context.pendingOf, starts.empty]
  rfl

theorem readyAt_valid {now : Time} (ready : orchestrator.readyAt now = .ok ()) :
    orchestrator.config.validate = .ok () := by
  cases started : orchestrator.isStarted with
  | true =>
      simp only [readyAt, started, ↓reduceIte] at ready
      cases ready
  | false =>
      cases valid : orchestrator.config.validate with
      | error rejection =>
          simp only [readyAt, started, valid, Bool.false_eq_true, ↓reduceIte] at ready
          cases ready
      | ok => rfl

theorem start_stages (running : before.halted = false) (empty : before.agenda.pending = [])
    (ended : orchestrator.start.Ends before (.ok (), next) after) :
    next = { orchestrator with startedAt := some before.now } ∧
      ∃ launched ticked stopped timer,
        orchestrator.Starts before launched ticked stopped after timer := by
  obtain ⟨same, ready, launched, _, ticked, _, stopped, launching, ticking, stopping, rousing⟩ :=
    start_course ended
  have opening := launch_requests running launching
  have still : launched.halted = false := opening.halted.trans running
  have ticks := Act.scheduleAfter_requests still ticking
  have stops := Act.scheduleAfter_requests (ticks.halted.trans still) stopping
  have rouses := rouse_requests (stops.halted.trans (ticks.halted.trans still)) rousing
  have apart : ∀ payload : Payload, payload.opens = true → payload.isStop = false := by
    intro payload opens
    cases payload with
    | stop => cases opens
    | _ => rfl
  have none : ticked.pendingOf Payload.isStop = [] := by
    rw [ticks.pendingOf_eq rfl, opening.pendingOf_eq (openingRequests_apart apart),
      Context.pendingOf, empty]
    rfl
  obtain ⟨timer, only, payload, due, behind, ahead⟩ := stops.pendingOf_single none rfl
  have last : after.pendingOf Payload.isStop = [timer] := by
    rw [rouses.pendingOf_eq ?_, only]
    rw [List.filter_eq_nil_iff]
    intro request member
    obtain ⟨device, _, rfl⟩ := List.mem_map.mp member
    exact Bool.false_ne_true
  have armed : after.Armed timer := by
    refine ⟨payload, ?_, ?_⟩
    · have member : timer ∈ after.pendingOf Payload.isStop := by simp [last]
      exact (Context.mem_pendingOf.mp member).1
    · intro event member stops
      have marked : event ∈ after.pendingOf Payload.isStop :=
        Context.mem_pendingOf.mpr ⟨member, Payload.isStop_iff.mpr stops⟩
      simpa [last] using marked
  have now : ticked.now = before.now := ticks.now.trans opening.now
  obtain ⟨time, reached, _⟩ := Act.scheduleAfter_enters (ticks.halted.trans still) stopping
  rw [now] at due reached
  have inRange := (Time.after?_eq_some_iff.mp reached).1
  exact ⟨same, launched, ticked, stopped, timer,
    { valid := readyAt_valid ready
      running := running
      empty := empty
      opening := opening
      ticking := ticks
      stopping := stops
      rousing := rouses
      armed := armed
      due := due
      reached := by omega
      behind := behind
      ahead := ahead }⟩

end Orchestrator

namespace Scenario

variable {orchestrator : Orchestrator} {started ended : Scenario} {turns : List Turn}

theorem stages_of_start {before : Context} (running : before.halted = false)
    (empty : before.agenda.pending = [])
    (begins : orchestrator.start.Ends before (.ok (), started.orchestrator)
      started.simulation.context)
    (reached : started.Reached turns ended) (isOver : ended.simulation.isTerminated = true) :
    started.orchestrator = { orchestrator with startedAt := some before.now } ∧
      ∃ launched ticked stopped timer,
        orchestrator.Starts before launched ticked stopped started.simulation.context timer ∧
          started.Underway timer := by
  obtain ⟨same, launched, ticked, stopped, timer, stages⟩ :=
    Orchestrator.start_stages running empty begins
  have still : started.simulation.context.halted = false := by
    rw [stages.rousing.halted, stages.stopping.halted, stages.ticking.halted,
      stages.opening.halted, running]
  exact ⟨same, launched, ticked, stopped, timer, stages, still, reached.unfinished still isOver,
    stages.armed⟩

theorem stages_of_over (starts : (ofOrchestrator orchestrator).start.outcome = .ok (.ok (), started))
    (reached : started.Reached turns ended) (isOver : ended.simulation.isTerminated = true) :
    started.orchestrator = { orchestrator with startedAt := some .zero } ∧
      ∃ launched ticked stopped timer,
        orchestrator.Starts .initial launched ticked stopped started.simulation.context timer ∧
          started.Underway timer :=
  stages_of_start rfl rfl (course_of_over starts reached isOver).1 reached isOver

theorem timer_due {launched ticked stopped : Context} {timer : Event} {context : Context}
    (stages : orchestrator.Starts .initial launched ticked stopped context timer) :
    timer.time.ticks = orchestrator.config.runLength := by
  rw [stages.due]
  exact Nat.zero_add _

end Scenario
end FogNetwork
