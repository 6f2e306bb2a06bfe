import FogNetwork.Proofs.Reception
import FogNetwork.Proofs.Routes

/-! Hosts are prepared: a relay runs the modules that are placed on it before any tuple reaches it.
Until the launch no tuple is under way. From then on, each relay runs its modules or is still to be
told of them, ahead of every tuple. -/

namespace FogNetwork

def Orchestrator.Hosts (orchestrator : Orchestrator) (id : DeviceId) (name : String) : Prop :=
  ∀ relay, orchestrator.relay? id = some relay → relay.hosts name = true

theorem Relay.hosts_insert (relay : Relay) (spec : ModuleSpec) (name : String) :
    hosts { relay with hosted := relay.hosted.insert spec.name spec } name =
      (spec.name == name || relay.hosts name) := by
  rw [hosts, hosts, SortedMap.contains, SortedMap.contains, SortedMap.get?_insert]
  by_cases own : name = spec.name
  · simp [own]
  · simp [own, Ne.symm own]

/-! Modules stay where they are hosted. -/

section Hosting

variable {orchestrator next : Orchestrator} {begun reacted : Context} {payload : Payload}
variable {id : DeviceId} {name : String}

theorem Device.Reaction.hosts {device : Device} {event : DeviceEvent} {changed : Relay}
    (reaction : Device.Reaction begun device event (.relay changed) reacted) (name : String) :
    ∃ relay, device = .relay relay ∧
      (relay.hosts name = true → changed.hosts name = true) ∧
      ∀ spec, event = .launchModule spec → changed.hosts spec.name = true := by
  cases reaction with
  | @active relay | @received relay => exact ⟨relay, rfl, fun hosted => hosted, nofun⟩
  | @launch relay spec =>
      refine ⟨relay, rfl, fun hosted => ?_, ?_⟩
      · rw [Relay.hosts_insert, hosted, Bool.or_true]
      · rintro _ ⟨⟩
        rw [Relay.hosts_insert, beq_self_eq_true, Bool.true_or]
  | @manage relay _ _ deeds | @arrival relay _ _ _ deeds =>
      have setup : changed.setup = relay.setup := deeds.keeps.2
      have same : changed.hosted = relay.hosted := congrArg (·.hosted) setup
      refine ⟨relay, rfl, fun hosted => ?_, nofun⟩
      rw [Relay.hosts, same]
      exact hosted

theorem Reaction.hosts (running : begun.halted = false)
    (reaction : Reaction orchestrator begun payload next reacted)
    (hosts : orchestrator.Hosts id name) : next.Hosts id name := by
  cases reaction with
  | @device other event target changed _ known reacts =>
      intro relay found
      rw [Orchestrator.relay?_eq_some_iff, SortedMap.get?_insert] at found
      split at found
      next own =>
        cases found
        obtain ⟨old, rfl, kept, _⟩ := (Device.react_reaction running reacts).hosts name
        exact kept (hosts old (Orchestrator.relay?_eq_some_iff.mpr (by rw [own, known])))
      next => exact hosts relay (Orchestrator.relay?_eq_some_iff.mpr found)
  | _ => exact hosts

theorem Reaction.hosts_launched (running : begun.halted = false) {spec : ModuleSpec}
    (reaction : Reaction orchestrator begun (.device id (.launchModule spec)) next reacted) :
    next.Hosts id spec.name := by
  cases reaction with
  | unknownDevice unknown =>
      intro relay found
      rw [Orchestrator.relay?_eq_some_iff, unknown] at found
      cases found
  | @device _ _ target changed _ known reacts =>
      intro relay found
      rw [Orchestrator.relay?_eq_some_iff, SortedMap.get?_insert_self] at found
      cases found
      obtain ⟨_, _, _, launched⟩ :=
        (Device.react_reaction running reacts).hosts spec.name
      exact launched spec rfl

end Hosting

/-! What is placed on a device is told to it in the launch. -/

def Submission.Supplied (held : Submission) : Prop :=
  ∀ id name, name ∈ held.placement.modulesOn id → held.application.hasModule name = true

theorem Blueprint.build_supplied {blueprint : Blueprint} {built : Scenario}
    (builds : blueprint.build.outcome = .ok (.ok built)) {held : Submission}
    (active : built.orchestrator.active = some held) : held.Supplied := by
  obtain ⟨registered, registers, rest⟩ := build_outcome builds
  obtain ⟨_, _, same⟩ := Orchestrator.register_value registers
  rcases rest with ⟨_, rfl⟩ | ⟨mapped, placement, wires, submitted, _, _, _, submits, rfl⟩
  · rw [Scenario.ofOrchestrator, same] at active
    cases active
  · obtain ⟨admitted, coverage, holds⟩ := Orchestrator.submit_value submits
    obtain ⟨_, frame⟩ := Orchestrator.applyWires_frame wires submitted
    rw [Scenario.ofOrchestrator, frame, holds] at active
    cases active
    intro id name placed
    rw [Application.hasModule, Orchestrator.subscribeActuators_module?, Option.isSome_map]
    exact Placement.hasModule_of_validate (Orchestrator.admits_eq_ok admitted).1 placed

def Event.Launches (id : DeviceId) (name : String) (event : Event) : Prop :=
  ∃ spec, event.payload = .device id (.launchModule spec) ∧ spec.name = name

theorem Orchestrator.mem_launchRequests {orchestrator : Orchestrator} {held : Submission}
    {id : DeviceId} {name : String} (supplied : held.Supplied)
    (placed : name ∈ held.placement.modulesOn id) :
    ∃ spec, (0, .device id (.launchModule spec)) ∈ orchestrator.launchRequests held ∧
      spec.name = name := by
  obtain ⟨spec, found⟩ := Option.isSome_iff_exists.mp (supplied id name placed)
  have own : spec.name = name := by simpa using List.find?_some found
  refine ⟨spec, List.mem_append_left _ (List.mem_map_of_mem ?_), own⟩
  refine List.mem_append_right _ ?_
  obtain ⟨names, assigned, listed⟩ := SortedMap.mem_getD_nil_iff.mp placed
  refine List.mem_flatMap.mpr ⟨(id, names), SortedMap.get?_eq_some_iff.mp assigned, ?_⟩
  exact List.mem_flatMap.mpr ⟨name, listed, by simp [assignment, found]⟩

namespace Context

variable {before after : Context} {requests : List (Nat × Payload)}

theorem Requests.exists_pending (asked : before.Requests requests after) {delay : Nat}
    {payload : Payload} (listed : (delay, payload) ∈ requests) :
    ∃ event ∈ after.agenda.pending,
      event.payload = payload ∧ event.time.ticks = before.now.ticks + delay := by
  obtain ⟨entered, advances, same⟩ := asked.entered
  have shown : (before.now.ticks + delay, payload) ∈ requests.map fun request =>
    (before.now.ticks + request.1, request.2) := List.mem_map_of_mem listed
  rw [← same] at shown
  obtain ⟨event, member, equal⟩ := List.mem_map.mp shown
  obtain ⟨time, own⟩ := Prod.mk.inj equal
  exact ⟨event, advances.pending.symm.subset (List.mem_append_right _ member), own, time⟩

theorem Requests.pending_subset (asked : before.Requests requests after) :
    before.agenda.pending ⊆ after.agenda.pending := by
  obtain ⟨entered, advances, _⟩ := asked.entered
  exact fun event member => advances.pending.symm.subset (List.mem_append_left _ member)

theorem pendingOf_settled {context : Context} {marks : Payload → Bool}
    (none : context.pendingOf marks = []) : context.settled.pendingOf marks = [] := by
  rw [settled]
  split
  · rfl
  · exact none

end Context

def Payload.isEmission : Payload → Bool
  | .transmit _ => true
  | _ => false

theorem Orchestrator.Answers.isEmission_eq_false {orchestrator : Orchestrator}
    {cause payload : Payload} {delay : Nat} (answers : orchestrator.Answers cause delay payload)
    (unlaunched : cause.isLaunch = false) (mute : cause.isEmission = false) :
    payload.isEmission = false := by
  cases answers with
  | tick | round => rfl
  | launch => cases unlaunched
  | emission => cases mute
  | tuple carries =>
      cases payload with
      | transmit => exact carries.2.elim
      | _ => rfl

/-- The hosts run their modules, or are still to be told of them before any tuple reaches a
device. -/
def Orchestrator.Prepared (orchestrator : Orchestrator) (context : Context) : Prop :=
  ∀ id name, name ∈ orchestrator.placement.modulesOn id →
    orchestrator.Hosts id name ∨
      ∃ brief ∈ context.agenda.pending, brief.Launches id name ∧
        brief.time.ticks ≤ context.now.ticks ∧
        ∀ arrival ∈ context.pendingOf Payload.isArrival, brief.before arrival

theorem Orchestrator.Prepared.of_requests {orchestrator : Orchestrator} {held : Submission}
    {before after : Context} (active : orchestrator.active = some held) (supplied : held.Supplied)
    (still : before.pendingOf Payload.isArrival = [])
    (asked : before.Requests (orchestrator.launchRequests held) after) :
    orchestrator.Prepared after := by
  intro id name placed
  rw [placement, active] at placed
  obtain ⟨spec, listed, own⟩ := mem_launchRequests supplied placed
  obtain ⟨brief, pending, payload, due⟩ := asked.exists_pending listed
  refine .inr ⟨brief, pending, ⟨spec, payload, own⟩, ?_, ?_⟩
  · rw [asked.now]
    exact due.le
  · rw [asked.pendingOf_eq, still]
    · exact List.forall_mem_nil _
    · rw [List.filter_eq_nil_iff]
      intro request member
      simp [Payload.isArrival_of_opens (launchRequests_opens request member)]

namespace Scenario

variable {before after started scenario : Scenario} {turns : List Turn} {event : Event}
variable {begun reacted : Context}

theorem prepared_turn
    (dispatches : before.simulation.Dispatches Orchestrator.handle before.orchestrator event
      after.simulation after.orchestrator begun reacted)
    (prepared : before.orchestrator.Prepared before.simulation.context) :
    after.orchestrator.Prepared reacted := by
  intro id name placed
  rw [Orchestrator.placement, dispatches.reaction.keeps.1] at placed
  rcases prepared id name placed with hosts | ⟨brief, pending, launches, early, ahead⟩
  · exact .inl (dispatches.reaction.hosts dispatches.begun_running hosts)
  · rw [dispatches.pending] at pending
    rcases List.mem_cons.mp pending with rfl | waits
    · obtain ⟨spec, payload, rfl⟩ := launches
      have reaction := dispatches.reaction
      rw [payload] at reaction
      exact .inl (reaction.hosts_launched dispatches.begun_running)
    · obtain ⟨_, advances⟩ :=
        (before.orchestrator.handle_expressible event).advances dispatches.reacts
      obtain ⟨due, behind⟩ := arrivals_behind dispatches waits early ahead
      exact .inr ⟨brief, advances.pending.symm.subset (List.mem_append_left _ waits), launches, due,
        behind⟩

/-! Until the launch nothing is emitted. -/

structure Dormant (scenario : Scenario) : Prop extends scenario.Hushed where
  silent : scenario.simulation.context.pendingOf Payload.isEmission = []

def Ready (scenario : Scenario) : Prop :=
  scenario.simulation.context.halted = true ∨ scenario.Dormant ∨
    scenario.orchestrator.Prepared scenario.simulation.context

theorem Dormant.turn (dormant : before.Dormant)
    (supplied : ∀ held, before.orchestrator.active = some held → held.Supplied)
    (dispatches : before.simulation.Dispatches Orchestrator.handle before.orchestrator event
      after.simulation after.orchestrator begun reacted) :
    after.Dormant ∨ after.orchestrator.Prepared reacted := by
  obtain ⟨⟨idle, still⟩, silent⟩ := dormant
  have quiet : event.payload.isArrival = false := by
    by_contra arrives
    rw [pendingOf_of_mark dispatches (by simpa using arrives)] at still
    cases still
  have mute : event.payload.isEmission = false := by
    by_contra emits
    rw [pendingOf_of_mark dispatches (by simpa using emits)] at silent
    cases silent
  rw [pendingOf_of_other dispatches quiet] at still
  rw [pendingOf_of_other dispatches mute] at silent
  obtain ⟨kept, same⟩ := dispatches.reaction.idle dispatches.begun_running idle quiet (by
    rintro id transmits
    rw [transmits] at mute
    cases mute)
  have settles (none : reacted.pendingOf Payload.isEmission = []) : after.Dormant := by
    refine ⟨⟨kept, ?_⟩, ?_⟩
    · rw [dispatches.context]
      exact Context.pendingOf_settled (same.trans still)
    · rw [dispatches.context]
      exact Context.pendingOf_settled none
  cases payload : event.payload with
  | launchApplication application =>
      obtain ⟨next, launched⟩ := Orchestrator.handle_of_launch payload dispatches.reacts
      rcases Orchestrator.launchDue_requests dispatches.begun_running launched with
        rfl | ⟨held, active, _, asked⟩
      · exact .inl (settles silent)
      · rw [next]
        exact .inr (.of_requests active (supplied held active) still asked)
  | stop =>
      rcases (Orchestrator.stop_ends (Orchestrator.handle_of_stop payload dispatches.reacts)).1 with
        rfl | rfl
      · exact .inl (settles silent)
      · exact .inl (settles silent)
  | _ =>
      refine .inl (settles ?_)
      rw [pendingOf_reacted dispatches (by simp [payload]) fun _ _ answers => ?_]
      · exact silent
      · exact answers.isEmission_eq_false (by simp [payload, Payload.isLaunch]) mute

theorem Ready.turn (ready : before.Ready)
    (supplied : ∀ held, before.orchestrator.active = some held → held.Supplied)
    (dispatches : before.simulation.Dispatches Orchestrator.handle before.orchestrator event
      after.simulation after.orchestrator begun reacted) : after.Ready := by
  have prepared (hosts : after.orchestrator.Prepared reacted) : after.Ready := by
    cases isOver : after.simulation.context.halted with
    | true => exact .inl isOver
    | false =>
        rw [Ready, dispatches.after_context isOver]
        exact .inr (.inr hosts)
  rcases ready with isOver | dormant | hosts
  · rw [dispatches.running] at isOver
    cases isOver
  · rcases dormant.turn supplied dispatches with still | hosts
    · exact .inr (.inl still)
    · exact prepared hosts
  · exact prepared (prepared_turn dispatches hosts)

theorem Ready.hosts_of_arrival (ready : before.Ready)
    (dispatches : before.simulation.Dispatches Orchestrator.handle before.orchestrator event
      after.simulation after.orchestrator begun reacted)
    (arrives : event.payload.isArrival = true) {id : DeviceId} {name : String}
    (placed : name ∈ before.orchestrator.placement.modulesOn id) :
    before.orchestrator.Hosts id name := by
  have comes : event ∈ before.simulation.context.pendingOf Payload.isArrival := by
    rw [pendingOf_of_mark dispatches arrives]
    exact List.mem_cons_self
  rcases ready with isOver | dormant | prepared
  · rw [dispatches.running] at isOver
    cases isOver
  · rw [dormant.still] at comes
    cases comes
  · rcases prepared id name placed with hosts | ⟨brief, pending, launches, _, ahead⟩
    · exact hosts
    · rw [dispatches.pending] at pending
      rcases List.mem_cons.mp pending with rfl | waits
      · exact absurd (ahead brief comes) (Event.not_before_self brief)
      · exact absurd (ahead event comes) (Event.before_asymm (dispatched_first dispatches waits))

theorem ready_of_start {orchestrator : Orchestrator}
    (idle : orchestrator.devices.All Device.Idle)
    (supplied : ∀ held, orchestrator.active = some held → held.Supplied)
    (begins : orchestrator.start.Ends .initial (.ok (), started.orchestrator)
      started.simulation.context) : started.Ready := by
  obtain ⟨same, launched, ticked, stopped, timer, stages⟩ :=
    Orchestrator.start_stages rfl rfl begins
  have hushed := hushed_of_start idle same stages
  have opening := stages.opening
  cases active : orchestrator.active with
  | none =>
      simp only [Orchestrator.openingRequests, active] at opening
      refine .inr (.inl ⟨hushed, ?_⟩)
      rw [stages.pendingOf_opened rfl rfl fun _ => rfl, opening.pendingOf_eq rfl]
      rfl
  | some held =>
      simp only [Orchestrator.openingRequests, active] at opening
      split at opening
      next atOnce =>
        have told : orchestrator.Prepared launched :=
          .of_requests active (supplied held active) rfl opening
        have now : started.simulation.context.now = launched.now :=
          stages.rousing.now.trans (stages.stopping.now.trans stages.ticking.now)
        refine .inr (.inr ?_)
        rw [same]
        intro id name placed
        refine (told id name placed).imp_right ?_
        rintro ⟨brief, pending, launches, early, _⟩
        refine ⟨brief, ?_, launches, by rwa [now], ?_⟩
        · exact stages.rousing.pending_subset
            (stages.stopping.pending_subset (stages.ticking.pending_subset pending))
        · rw [hushed.still]
          exact List.forall_mem_nil _
      next delayed =>
        refine .inr (.inl ⟨hushed, ?_⟩)
        rw [stages.pendingOf_opened rfl rfl fun _ => rfl, opening.pendingOf_eq rfl]
        rfl

theorem Reached.hosts_of_arrival (ready : started.Ready)
    (supplied : ∀ held, started.orchestrator.active = some held → held.Supplied)
    (reached : started.Reached turns scenario) {turn : Turn} (member : turn ∈ turns)
    (arrives : turn.event.payload.isArrival = true) {id : DeviceId} {name : String}
    (placed : name ∈ started.orchestrator.placement.modulesOn id) :
    turn.before.orchestrator.Hosts id name := by
  have prepared := reached.keeps (motive := fun turns scenario =>
    (scenario.Ready ∧ scenario.orchestrator.active = started.orchestrator.active) ∧
      ∀ turn ∈ turns, turn.event.payload.isArrival = true → ∀ id name,
        name ∈ started.orchestrator.placement.modulesOn id →
          turn.before.orchestrator.Hosts id name) ⟨⟨ready, rfl⟩, by simp⟩ ?_
  · exact prepared.2 turn member arrives id name placed
  · intro turns before event after begun reacted earlier dispatches
    obtain ⟨⟨ready, active⟩, hosts⟩ := earlier
    refine ⟨⟨ready.turn ?_ dispatches, dispatches.reaction.keeps.1.trans active⟩, ?_⟩
    · rw [active]
      exact supplied
    · intro turn member arrives id name placed
      rcases List.mem_append.mp member with old | new
      · exact hosts turn old arrives id name placed
      · obtain rfl := List.mem_singleton.mp new
        refine ready.hosts_of_arrival dispatches arrives ?_
        rwa [Orchestrator.placement, active]

end Scenario

structure Blueprint.Idle (blueprint : Blueprint) : Prop where
  devices : ∀ device ∈ blueprint.devices, device.Idle
  relays : ∀ relay ∈ blueprint.relays, relay.north = []

theorem Blueprint.Idle.of_build {blueprint : Blueprint} {built : Scenario}
    (idle : blueprint.Idle) (builds : blueprint.build.outcome = .ok (.ok built)) :
    built.orchestrator.devices.All Device.Idle := by
  obtain ⟨registered, wires, registers, devices, _⟩ := build_routed builds
  have plain : registered.devices.All Device.Idle := by
    refine registered_all idle.devices idle.relays ?_ registers
    rintro change (relay | recorder) own
    · exact own
    · trivial
  intro id device known
  rw [devices, Option.map_eq_some_iff] at known
  obtain ⟨before, found, rfl⟩ := known
  have own := plain id before found
  cases before with
  | relay relay =>
      change Device.Idle (.relay (relay.wired id wires))
      rw [Relay.wired_eq]
      exact own
  | recorder => trivial

/-- In a built network whose relays have nothing to execute yet, every relay runs the modules that
are placed on it before any tuple reaches a device. -/
theorem Blueprint.hosts_prepared {blueprint : Blueprint} {built started scenario : Scenario}
    {turns : List Turn} (builds : blueprint.build.outcome = .ok (.ok built))
    (idle : blueprint.Idle) (begun : built.Begun started turns scenario) {turn : Turn}
    (member : turn ∈ turns) (arrives : turn.event.payload.isArrival = true) {id : DeviceId}
    {name : String}
    (placed : name ∈ built.orchestrator.placement.modulesOn id) :
    turn.before.orchestrator.Hosts id name := by
  have supplied : ∀ held, built.orchestrator.active = some held → held.Supplied :=
    fun _ => build_supplied builds
  obtain ⟨fresh, unstarted⟩ := build_initial builds
  obtain ⟨reached, _, time, same⟩ := begun_cases builds begun
  have ready : started.Ready := by
    rcases begun with ⟨_, rfl, _⟩ | ⟨starts, _⟩
    · refine .inr (.inl ⟨⟨idle.of_build builds, ?_⟩, ?_⟩)
      · rw [fresh]
        rfl
      · rw [fresh]
        rfl
    · have waits : built.isStarted = false := by
        rw [Scenario.isStarted, Orchestrator.isStarted, unstarted]
        rfl
      obtain ⟨begins, _⟩ := Scenario.start_outcome waits starts
      rw [fresh] at begins
      exact Scenario.ready_of_start (idle.of_build builds) supplied begins
  refine reached.hosts_of_arrival ready ?_ member arrives ?_
  · rw [same]
    exact supplied
  · rw [same]
    exact placed

end FogNetwork
