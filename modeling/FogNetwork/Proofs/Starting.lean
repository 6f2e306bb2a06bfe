import FogNetwork.Proofs.Endings
import FogNetwork.Proofs.Openings

/-! How a start comes out. It is turned down with nothing changed, or everything that the run needs
is asked for, or it breaks off at an event for which there is no time or no identifier left. -/

namespace FogNetwork

theorem Agenda.enter?_eq_none_iff {agenda : Agenda} {time : Time} {payload : Payload} :
    agenda.enter? time payload = none ↔ largest ≤ agenda.nextId := by
  simp [enter?]

namespace Context

variable {before after : Context} {request : Nat × Payload} {requests more : List (Nat × Payload)}
variable {fault : Fault}

def request? (before : Context) (request : Nat × Payload) : Except Fault Context :=
  match before.now.after? request.1 with
  | none => .error .unreachableTime
  | some time =>
      match before.agenda.enter? time request.2 with
      | none => .error .overflow
      | some (_, agenda) => .ok { before with agenda := agenda }

def requestAll (before : Context) (requests : List (Nat × Payload)) : Except Fault Context :=
  requests.foldlM request? before

theorem requestAll_append (before : Context) (requests more : List (Nat × Payload)) :
    before.requestAll (requests ++ more) =
      (before.requestAll requests).bind fun between => between.requestAll more :=
  List.foldlM_append

theorem requestAll_cons (before : Context) (request : Nat × Payload)
    (more : List (Nat × Payload)) :
    before.requestAll (request :: more) =
      (before.request? request).bind fun between => between.requestAll more :=
  List.foldlM_cons

theorem requestAll_singleton (before : Context) (request : Nat × Payload) :
    before.requestAll [request] = before.request? request := by
  rw [requestAll_cons]
  cases before.request? request <;> rfl

theorem request?_cases (before : Context) (request : Nat × Payload) :
    (largest < before.now.ticks + request.1 ∧
      before.request? request = .error .unreachableTime) ∨
    (before.now.ticks + request.1 ≤ largest ∧ largest ≤ before.agenda.nextId ∧
      before.request? request = .error .overflow) ∨
    ∃ agenda, before.now.ticks + request.1 ≤ largest ∧ before.agenda.nextId < largest ∧
      agenda.nextId = before.agenda.nextId + 1 ∧
      before.request? request = .ok { before with agenda := agenda } := by
  cases reached : before.now.after? request.1 with
  | none =>
      have late : largest < before.now.ticks + request.1 := by
        simpa [Time.after?, sum?_eq_none_iff] using reached
      exact .inl ⟨late, by rw [request?, reached]⟩
  | some time =>
      have inTime := (Time.after?_eq_some_iff.mp reached).1
      cases entered : before.agenda.enter? time request.2 with
      | none =>
          refine .inr (.inl ⟨inTime, Agenda.enter?_eq_none_iff.mp entered, ?_⟩)
          simp only [request?, reached, entered]
      | some next =>
          obtain ⟨id, agenda⟩ := next
          have room : before.agenda.nextId < largest := by
            by_contra none
            rw [Agenda.enter?_eq_none_iff.mpr (Nat.le_of_not_lt none)] at entered
            cases entered
          refine .inr (.inr ⟨agenda, inTime, room, (Agenda.enter?_eq_some entered).2.1, ?_⟩)
          simp only [request?, reached, entered]

def Books (before after : Context) (delay : Nat) (payload : Payload) : Prop :=
  ∃ event ∈ after.agenda.pending, event.payload = payload ∧
    event.time.ticks = before.now.ticks + delay ∧ before.agenda.nextId ≤ event.id.number

theorem Requests.books (asked : before.Requests requests after) (listed : request ∈ requests) :
    before.Books after request.1 request.2 := by
  obtain ⟨entered, advances, same⟩ := asked.entered
  have shown : (before.now.ticks + request.1, request.2) ∈ requests.map fun request =>
    (before.now.ticks + request.1, request.2) := List.mem_map_of_mem listed
  rw [← same] at shown
  obtain ⟨event, member, equal⟩ := List.mem_map.mp shown
  obtain ⟨time, own⟩ := Prod.mk.inj equal
  have number : event.id.number ∈ entered.map (·.id.number) := List.mem_map_of_mem member
  rw [advances.numbered, List.mem_range'_1] at number
  exact ⟨event, advances.pending.symm.subset (List.mem_append_right _ member), own, time, number.1⟩

theorem requestAll_cases (before : Context) (requests : List (Nat × Payload)) :
    (∃ agenda, (∀ request ∈ requests, before.now.ticks + request.1 ≤ largest) ∧
      (requests = [] ∨ before.agenda.nextId + requests.length ≤ largest) ∧
      agenda.nextId = before.agenda.nextId + requests.length ∧
      before.requestAll requests = .ok { before with agenda := agenda }) ∨
    ((∃ request ∈ requests, largest < before.now.ticks + request.1) ∧
      before.requestAll requests = .error .unreachableTime) ∨
    (largest < before.agenda.nextId + requests.length ∧
      before.requestAll requests = .error .overflow) := by
  induction requests generalizing before with
  | nil => exact .inl ⟨before.agenda, by simp, .inl rfl, rfl, rfl⟩
  | cons request rest ih =>
      rw [requestAll_cons, List.length_cons]
      rcases before.request?_cases request with
        ⟨late, failed⟩ | ⟨_, full, failed⟩ | ⟨agenda, inTime, room, nextId, entered⟩
      · rw [failed]
        exact .inr (.inl ⟨⟨request, by simp, late⟩, rfl⟩)
      · rw [failed]
        exact .inr (.inr ⟨by omega, rfl⟩)
      · rw [entered]
        rcases ih { before with agenda := agenda } with
          ⟨last, inTimeToo, fits, lastId, enters⟩ | ⟨⟨other, member, late⟩, fails⟩ | ⟨full, fails⟩
        · refine .inl ⟨last, ?_, .inr ?_, by rw [lastId, nextId]; omega, enters⟩
          · simpa using ⟨inTime, fun delay payload => inTimeToo (delay, payload)⟩
          · rcases fits with rfl | fits
            · exact room
            · rw [nextId] at fits
              omega
        · exact .inr (.inl ⟨⟨other, by simp [member], late⟩, fails⟩)
        · rw [nextId] at full
          exact .inr (.inr ⟨by omega, fails⟩)

end Context

/-- At the time `now` and before the end of a run, the act asks for the events one after another. It
may report, and has no other effect. -/
def Act.Places {α : Type} (now : Time) (act : Act α) (requests : List (Nat × Payload)) : Prop :=
  ∀ before : Context, before.halted = false → before.now = now →
    (act.run before).outcome.map Prod.snd = before.requestAll requests

namespace Act.Places

variable {α β ι : Type} {now : Time} {act : Act α} {next : α → Act β} {payload : Payload}
variable {requests more : List (Nat × Payload)}

theorem result (value : α) : (pure value : Act α).Places now [] := fun _ _ _ => rfl

theorem note (notice : Notice) : (Act.note notice).Places now [] := fun _ _ _ => rfl

theorem look {goesOn : Time → Act β} (rest : (goesOn now).Places now requests) :
    (Act.now >>= goesOn).Places now requests := by
  rintro before running rfl
  exact rest before running rfl

theorem bind (first : act.Places now requests)
    (later : ∀ value, (next value).Places now more) :
    (act >>= next).Places now (requests ++ more) := by
  intro before running here
  have began := first before running here
  rw [StateT.run_bind, Run.outcome_bind, Context.requestAll_append, ← began]
  cases outcome : (act.run before).outcome with
  | error fault => rfl
  | ok reached =>
      obtain ⟨value, between⟩ := reached
      rw [outcome] at began
      have still : between.halted = false ∧ between.now = now := by
        rcases before.requestAll_cases requests with
          ⟨agenda, _, _, _, enters⟩ | ⟨_, fails⟩ | ⟨_, fails⟩
        · rw [enters] at began
          cases began
          exact ⟨running, here⟩
        · rw [fails] at began
          cases began
        · rw [fails] at began
          cases began
      exact later value between still.1 still.2

theorem fails {before : Context} {fault : Fault} (places : act.Places now requests)
    (running : before.halted = false) (here : before.now = now)
    (failing : before.requestAll requests = .error fault) :
    (act.run before).outcome = .error fault := by
  have outcome := places before running here
  rw [failing] at outcome
  cases ran : (act.run before).outcome with
  | error other =>
      rw [ran] at outcome
      cases outcome
      rfl
  | ok reached =>
      rw [ran] at outcome
      cases outcome

theorem scheduleAt_outcome {before : Context} {time : Time} {delay : Nat}
    (running : before.halted = false) (reached : before.now.after? delay = some time)
    (payload : Payload) :
    ((Act.scheduleAt time payload).run before).outcome.map Prod.snd =
      before.requestAll [(delay, payload)] := by
  have due := (Time.after?_eq_some_iff.mp reached).2
  rw [Context.requestAll_singleton, Context.request?, reached, Act.scheduleAt_outcome,
    if_neg (by omega), running]
  dsimp only
  cases before.agenda.enter? time payload with
  | none => rfl
  | some entered => rfl

theorem scheduleAfter (delay : Nat) (payload : Payload) :
    (Act.scheduleAfter delay payload).Places now [(delay, payload)] := by
  intro before running _
  show ((liftM (Run.orFault (before.now.after? delay) .unreachableTime) >>=
    fun time => Act.scheduleAt time payload : Act EventId).run before).outcome.map Prod.snd = _
  cases reached : before.now.after? delay with
  | none =>
      rw [Context.requestAll_singleton, Context.request?, reached]
      rfl
  | some time => exact scheduleAt_outcome running reached payload

theorem scheduleNow (inTime : now.ticks ≤ largest) (payload : Payload) :
    (Act.scheduleNow payload).Places now [(0, payload)] := by
  rintro before running rfl
  have reached : before.now.after? 0 = some before.now :=
    Time.after?_eq_some_iff.mpr ⟨inTime, rfl⟩
  exact scheduleAt_outcome running reached payload

theorem ignored (first : act.Places now requests) :
    (act >>= fun _ => pure ()).Places now requests := by
  have whole := first.bind fun _ => result ()
  rwa [List.append_nil] at whole

theorem forM {body : ι → Act PUnit} {asks : ι → List (Nat × Payload)} {items : List ι}
    (each : ∀ item, (body item).Places now (asks item)) :
    (items.forM body).Places now (items.flatMap asks) := by
  induction items with
  | nil => exact result _
  | cons item rest ih =>
      rw [List.forM_eq_forM, List.forM_cons, List.flatMap_cons]
      exact (each item).bind fun _ => ih

end Act.Places

namespace Orchestrator

variable {orchestrator next : Orchestrator} {held : Submission} {now : Time}

theorem launchModule_places (inTime : now.ticks ≤ largest) (application : Application)
    (device : DeviceId) (name : String) :
    (launchModule application device name).Places now
      ((assignment application device name).map (0, ·)) := by
  unfold launchModule assignment
  cases application.module? name with
  | none => exact .result ()
  | some spec =>
      exact (Act.Places.scheduleNow inTime _).bind fun _ =>
        (Act.Places.scheduleNow inTime _).ignored

theorem activate_places (inTime : now.ticks ≤ largest) (active : orchestrator.active = some held) :
    orchestrator.activate.Places now (orchestrator.launchRequests held) := by
  have told : (orchestrator.devices.keys.forM fun device => do
      let _ ← Act.scheduleNow (.device device (.applicationActive held.application))).Places now
        (orchestrator.devices.keys.flatMap fun device =>
          [(0, .device device (.applicationActive held.application))]) :=
    .forM fun device => (Act.Places.scheduleNow inTime _).ignored
  have placed : (held.placement.assignments.entries.forM fun entry =>
      entry.2.forM (launchModule held.application entry.1)).Places now
        (held.placement.assignments.entries.flatMap fun entry => entry.2.flatMap fun name =>
          (assignment held.application entry.1 name).map (0, ·)) :=
    .forM fun entry => .forM fun name => launchModule_places inTime held.application entry.1 name
  have armed : ((orchestrator.sensors.values.filter
      (·.application == held.application.id)).forM Sensor.arm).Places now
      ((orchestrator.feeders held).flatMap fun sensor =>
        [(sensor.interval, .transmit sensor.id)]) :=
    .forM fun sensor => (Act.Places.scheduleAfter sensor.interval _).ignored
  have noted : (Act.now >>= fun time =>
      Act.note (.applicationActivated held.application.id time)).Places now [] := .look (.note _)
  have whole := told.bind fun _ => placed.bind fun _ => armed.bind fun _ => noted
  simp only [activate, active]
  simpa only [launchRequests, briefing, List.map_append, List.map_map, List.map_flatMap,
    List.flatMap_singleton', ← List.map_eq_flatMap, Function.comp_def, List.append_nil,
    List.append_assoc] using whole

theorem launch_places (orchestrator : Orchestrator) (inTime : now.ticks ≤ largest) :
    orchestrator.launch.Places now orchestrator.openingRequests := by
  unfold launch openingRequests
  cases active : orchestrator.active with
  | none => exact .note _
  | some held =>
      dsimp only
      split
      · exact activate_places inTime active
      · exact (Act.Places.scheduleAfter held.delay _).ignored

theorem rouse_places (orchestrator : Orchestrator) :
    orchestrator.rouse.Places now (orchestrator.devices.keys.map fun device =>
      (0, .device device .manageResources)) := by
  rw [List.map_eq_flatMap]
  exact .forM fun device => (Act.Places.scheduleAfter 0 _).ignored

/-- What a start asks for: the launch or its opening, the first control tick, the stop, and the
first round of every device. -/
def startRequests (orchestrator : Orchestrator) : List (Nat × Payload) :=
  orchestrator.openingRequests ++ (orchestrator.config.controlInterval, .controlTick) ::
    (orchestrator.config.runLength, .stop) ::
      orchestrator.devices.keys.map fun device => (0, .device device .manageResources)

theorem start_places (inTime : now.ticks ≤ largest) (ready : orchestrator.readyAt now = .ok ()) :
    orchestrator.start.Places now orchestrator.startRequests := by
  refine .look ?_
  rw [ready]
  have noted : (Act.note (.simulationStarted now orchestrator.config.runLength) >>= fun _ =>
      pure (.ok (), { orchestrator with startedAt := some now }) :
      Act (Except Rejection Unit × Orchestrator)).Places now [] :=
    (Act.Places.note _).bind fun _ => .result _
  have whole := (orchestrator.launch_places inTime).bind fun _ =>
    (Act.Places.scheduleAfter orchestrator.config.controlInterval .controlTick).bind fun _ =>
      (Act.Places.scheduleAfter orchestrator.config.runLength .stop).bind fun _ =>
        orchestrator.rouse_places.bind fun _ => noted
  rw [List.append_nil] at whole
  exact whole

theorem start_of_refused {before : Context} {rejection : Rejection}
    (refused : orchestrator.readyAt before.now = .error rejection) :
    orchestrator.start.Ends before (.error rejection, orchestrator) before := by
  refine Act.ends_bind_iff.mpr ⟨_, _, Act.ends_now_iff.mpr ⟨rfl, rfl⟩, ?_⟩
  rw [refused]
  exact Act.ends_pure_iff.mpr ⟨rfl, rfl⟩

def delays (orchestrator : Orchestrator) : List Nat :=
  [(orchestrator.active.map (·.delay)).getD 0, orchestrator.config.controlInterval,
    orchestrator.config.runLength]

structure Ready (orchestrator : Orchestrator) (now : Time) : Prop where
  early : orchestrator.startedAt = none
  interval : 0 < orchestrator.config.controlInterval
  length : 0 < orchestrator.config.runLength
  inTime : ∀ delay ∈ orchestrator.delays, now.ticks + delay ≤ largest

/-- Why a start is turned down: for the first reason in this order. -/
inductive Unready (orchestrator : Orchestrator) (now : Time) : Rejection → Prop
  | twice (started : orchestrator.startedAt ≠ none) : Unready orchestrator now .startedTwice
  | interval (early : orchestrator.startedAt = none)
      (zero : orchestrator.config.controlInterval = 0) :
      Unready orchestrator now (.settingNotPositive .controlInterval)
  | length (early : orchestrator.startedAt = none)
      (positive : 0 < orchestrator.config.controlInterval)
      (zero : orchestrator.config.runLength = 0) :
      Unready orchestrator now (.settingNotPositive .runLength)
  | late {front back : List Nat} {delay : Nat} (early : orchestrator.startedAt = none)
      (positive : 0 < orchestrator.config.controlInterval)
      (positiveToo : 0 < orchestrator.config.runLength)
      (split : orchestrator.delays = front ++ delay :: back)
      (inTime : ∀ other ∈ front, now.ticks + other ≤ largest)
      (beyond : largest < now.ticks + delay) :
      Unready orchestrator now (.timeOverflow now delay)

end Orchestrator

theorem Config.validate_eq_ok {config : Config} (interval : 0 < config.controlInterval)
    (length : 0 < config.runLength) : config.validate = .ok () := by
  rw [validate, if_neg (by omega), if_neg (by omega)]

theorem Time.isNone_after? {now : Time} {delay : Nat} :
    (now.after? delay).isNone = true ↔ largest < now.ticks + delay := by
  simp [Time.after?, sum?_eq_none_iff]

namespace Orchestrator

variable {orchestrator next : Orchestrator} {held : Submission} {now : Time}

theorem readyAt_eq (early : orchestrator.startedAt = none)
    (interval : 0 < orchestrator.config.controlInterval)
    (length : 0 < orchestrator.config.runLength) :
    orchestrator.readyAt now = (unreachable? now orchestrator.delays).elim (.ok ())
      fun delay => .error (.timeOverflow now delay) := by
  have unstarted : orchestrator.isStarted = false := by rw [isStarted, early]; rfl
  have valid := Config.validate_eq_ok interval length
  simp only [readyAt, unstarted, valid, delays, Bool.false_eq_true, ↓reduceIte]
  cases unreachable? now _ with
  | none => rfl
  | some delay => rfl

theorem Ready.readyAt (ready : orchestrator.Ready now) : orchestrator.readyAt now = .ok () := by
  have reachable : unreachable? now orchestrator.delays = none := by
    rw [unreachable?, List.find?_eq_none]
    intro delay member late
    have inTime := ready.inTime delay member
    rw [Time.isNone_after?] at late
    omega
  rw [readyAt_eq ready.early ready.interval ready.length, reachable]
  rfl

theorem Unready.readyAt {rejection : Rejection} (unready : orchestrator.Unready now rejection) :
    orchestrator.readyAt now = .error rejection := by
  cases unready with
  | twice started =>
      have late : orchestrator.isStarted = true := Option.isSome_iff_ne_none.mpr started
      simp only [Orchestrator.readyAt, late, ↓reduceIte]
      rfl
  | interval early zero =>
      simp only [Orchestrator.readyAt, isStarted, early, Config.validate, zero]
      rfl
  | length early positive zero =>
      simp only [Orchestrator.readyAt, isStarted, early, Config.validate, zero,
        if_neg (Nat.ne_of_gt positive)]
      rfl
  | @late front back delay early positive positiveToo split inTime beyond =>
      have first : unreachable? now orchestrator.delays = some delay := by
        refine List.find?_eq_some_iff_append.mpr
          ⟨Time.isNone_after?.mpr beyond, front, back, split, ?_⟩
        intro other member
        have reachable := inTime other member
        rw [Bool.not_eq_true', ← Bool.not_eq_true, Time.isNone_after?]
        omega
      rw [readyAt_eq early positive positiveToo, first]
      rfl

theorem ready_or_unready (orchestrator : Orchestrator) (now : Time) :
    orchestrator.Ready now ∨ ∃ rejection, orchestrator.Unready now rejection := by
  by_cases early : orchestrator.startedAt = none
  · by_cases interval : orchestrator.config.controlInterval = 0
    · exact .inr ⟨_, .interval early interval⟩
    · have interval := Nat.pos_of_ne_zero interval
      by_cases length : orchestrator.config.runLength = 0
      · exact .inr ⟨_, .length early interval length⟩
      · have length := Nat.pos_of_ne_zero length
        cases first : unreachable? now orchestrator.delays with
        | none =>
            refine .inl ⟨early, interval, length, fun delay member => ?_⟩
            have reachable := List.find?_eq_none.mp first delay member
            rw [Time.isNone_after?] at reachable
            omega
        | some delay =>
            obtain ⟨beyond, front, back, split, reachable⟩ := List.find?_eq_some_iff_append.mp first
            refine .inr ⟨_, .late early interval length split ?_ (Time.isNone_after?.mp beyond)⟩
            intro other member
            have inTime := reachable other member
            rw [Bool.not_eq_true', ← Bool.not_eq_true, Time.isNone_after?] at inTime
            omega
  · exact .inr ⟨_, .twice early⟩

/-- A launch at once would arm a sensor for a time that there is not. -/
def Overreaches (orchestrator : Orchestrator) (now : Time) : Prop :=
  ∃ held sensor, orchestrator.active = some held ∧ held.delay = 0 ∧
    sensor ∈ orchestrator.feeders held ∧ largest < now.ticks + sensor.interval

theorem Ready.overreaches_iff (ready : orchestrator.Ready now) :
    (∃ request ∈ orchestrator.startRequests, largest < now.ticks + request.1) ↔
      orchestrator.Overreaches now := by
  have control := ready.inTime orchestrator.config.controlInterval (by simp [delays])
  have length := ready.inTime orchestrator.config.runLength (by simp [delays])
  constructor
  · rintro ⟨request, member, late⟩
    rcases List.mem_append.mp member with opening | rest
    · unfold openingRequests at opening
      cases active : orchestrator.active with
      | none =>
          rw [active] at opening
          cases opening
      | some held =>
          rw [active] at opening
          dsimp only at opening
          split at opening
          next atOnce =>
            rcases List.mem_append.mp opening with told | armed
            · obtain ⟨payload, _, rfl⟩ := List.mem_map.mp told
              omega
            · obtain ⟨sensor, feeds, rfl⟩ := List.mem_map.mp armed
              exact ⟨held, sensor, active, atOnce, feeds, late⟩
          next delayed =>
            rw [List.mem_singleton] at opening
            have launch := ready.inTime held.delay (by simp [delays, active])
            rw [opening] at late
            omega
    · simp only [List.mem_cons, List.mem_map] at rest
      rcases rest with rfl | rfl | ⟨device, _, rfl⟩
      · omega
      · omega
      · omega
  · rintro ⟨held, sensor, active, atOnce, feeds, late⟩
    refine ⟨(sensor.interval, .transmit sensor.id), List.mem_append_left _ ?_, late⟩
    unfold openingRequests
    rw [active]
    dsimp only
    rw [if_pos atOnce]
    exact List.mem_append_right _ (List.mem_map_of_mem feeds)

section Outcomes

variable {before after : Context}

theorem start_requests (running : before.halted = false)
    (ended : orchestrator.start.Ends before (.ok (), next) after) :
    next = { orchestrator with startedAt := some before.now } ∧
      before.Requests orchestrator.startRequests after := by
  obtain ⟨same, _, launched, _, ticked, _, stopped, launching, ticking, stopping, rousing⟩ :=
    start_course ended
  have opening := launch_requests running launching
  have still := opening.halted.trans running
  have ticks := Act.scheduleAfter_requests still ticking
  have stops := Act.scheduleAfter_requests (ticks.halted.trans still) stopping
  have rouses := rouse_requests (stops.halted.trans (ticks.halted.trans still)) rousing
  exact ⟨same, opening.trans (ticks.trans (stops.trans rouses))⟩

def Affords (orchestrator : Orchestrator) (agenda : Agenda) : Prop :=
  agenda.nextId + orchestrator.startRequests.length ≤ largest

theorem startRequests_ne_nil : orchestrator.startRequests ≠ [] := by
  simp [startRequests]

theorem Ready.start_outcome (ready : orchestrator.Ready before.now)
    (running : before.halted = false) :
    (¬orchestrator.Overreaches before.now ∧ orchestrator.Affords before.agenda ∧
      ∃ after, orchestrator.start.Ends before
        (.ok (), { orchestrator with startedAt := some before.now }) after ∧
          before.Requests orchestrator.startRequests after) ∨
    (orchestrator.Overreaches before.now ∧
      (orchestrator.start.run before).outcome = .error .unreachableTime) ∨
    (¬orchestrator.Affords before.agenda ∧
      (orchestrator.start.run before).outcome = .error .overflow) := by
  have inTime : before.now.ticks ≤ largest :=
    Nat.le_of_add_right_le (ready.inTime orchestrator.config.runLength (by simp [delays]))
  have places := start_places inTime ready.readyAt
  rcases before.requestAll_cases orchestrator.startRequests with
    ⟨agenda, reach, room, _, enters⟩ | ⟨late, fails⟩ | ⟨full, fails⟩
  · have placed := places before running rfl
    rw [enters] at placed
    cases ran : (orchestrator.start.run before).outcome with
    | error fault =>
        rw [ran] at placed
        cases placed
    | ok reached =>
        obtain ⟨⟨result, next⟩, after⟩ := reached
        obtain rfl := start_result ready.readyAt ran
        obtain ⟨rfl, asked⟩ := start_requests running ran
        refine .inl ⟨?_, room.resolve_left startRequests_ne_nil, after, ran, asked⟩
        rw [← ready.overreaches_iff]
        rintro ⟨request, member, late⟩
        exact absurd (reach request member) (Nat.not_le_of_lt late)
  · exact .inr (.inl ⟨ready.overreaches_iff.mp late, places.fails running rfl fails⟩)
  · exact .inr (.inr ⟨Nat.not_le_of_lt full, places.fails running rfl fails⟩)

theorem start_eq_error_iff {rejection : Rejection} (running : before.halted = false) :
    orchestrator.start.Ends before (.error rejection, next) after ↔
      orchestrator.Unready before.now rejection ∧ next = orchestrator ∧ after = before := by
  constructor
  · intro ended
    rcases ready_or_unready orchestrator before.now with ready | ⟨reason, unready⟩
    · cases start_result ready.readyAt ended
    · have same := Except.ok.inj (Eq.trans (Eq.symm (start_of_refused unready.readyAt)) ended)
      cases same
      exact ⟨unready, rfl, rfl⟩
  · rintro ⟨unready, rfl, rfl⟩
    exact start_of_refused unready.readyAt

theorem exists_start_iff (running : before.halted = false) :
    (∃ next after, orchestrator.start.Ends before (.ok (), next) after) ↔
      orchestrator.Ready before.now ∧ ¬orchestrator.Overreaches before.now ∧
        orchestrator.Affords before.agenda := by
  constructor
  · rintro ⟨next, after, ended⟩
    rcases ready_or_unready orchestrator before.now with ready | ⟨reason, unready⟩
    · rcases ready.start_outcome running with ⟨within, room, _⟩ | ⟨_, fails⟩ | ⟨_, fails⟩
      · exact ⟨ready, within, room⟩
      · cases Eq.trans (Eq.symm fails) ended
      · cases Eq.trans (Eq.symm fails) ended
    · cases Eq.trans (Eq.symm (start_of_refused unready.readyAt)) ended
  · rintro ⟨ready, within, room⟩
    rcases ready.start_outcome running with ⟨_, _, after, ended, _⟩ | ⟨beyond, _⟩ | ⟨full, _⟩
    · exact ⟨_, after, ended⟩
    · exact absurd beyond within
    · exact absurd room full

theorem start_fault_cases {fault : Fault} (running : before.halted = false)
    (failed : (orchestrator.start.run before).outcome = .error fault) :
    orchestrator.Ready before.now ∧
      (fault = .unreachableTime ∧ orchestrator.Overreaches before.now ∨
        fault = .overflow ∧ ¬orchestrator.Affords before.agenda) := by
  rcases ready_or_unready orchestrator before.now with ready | ⟨reason, unready⟩
  · refine ⟨ready, ?_⟩
    rcases ready.start_outcome running with
      ⟨_, _, after, ended, _⟩ | ⟨beyond, fails⟩ | ⟨full, fails⟩
    · cases Eq.trans (Eq.symm ended) failed
    · exact .inl ⟨Except.error.inj (failed.symm.trans fails), beyond⟩
    · exact .inr ⟨Except.error.inj (failed.symm.trans fails), full⟩
  · cases Eq.trans (Eq.symm (start_of_refused unready.readyAt)) failed

/-- A start is turned down, for the first reason there is, just if the orchestrator is not ready,
and then nothing has changed. Otherwise, unless a launch at once would arm a sensor beyond the last
time, or the identifiers run out, it succeeds, and the run has all it needs: among it the first
control tick, the stop and a first round of every device. -/
theorem start_all_or_nothing (orchestrator : Orchestrator) (before : Context)
    (running : before.halted = false) :
    (∀ rejection next after, orchestrator.start.Ends before (.error rejection, next) after ↔
      orchestrator.Unready before.now rejection ∧ next = orchestrator ∧ after = before) ∧
    ((∃ next after, orchestrator.start.Ends before (.ok (), next) after) ↔
      orchestrator.Ready before.now ∧ ¬orchestrator.Overreaches before.now ∧
        orchestrator.Affords before.agenda) ∧
    (∀ next after, orchestrator.start.Ends before (.ok (), next) after →
      next = { orchestrator with startedAt := some before.now } ∧
        before.Requests orchestrator.startRequests after ∧
        before.Books after orchestrator.config.controlInterval .controlTick ∧
        before.Books after orchestrator.config.runLength .stop ∧
        ∀ device ∈ orchestrator.devices.keys,
          before.Books after 0 (.device device .manageResources)) ∧
    ∀ fault, (orchestrator.start.run before).outcome = .error fault →
      orchestrator.Ready before.now ∧
        (fault = .unreachableTime ∧ orchestrator.Overreaches before.now ∨
          fault = .overflow ∧ ¬orchestrator.Affords before.agenda) := by
  refine ⟨fun rejection next after => start_eq_error_iff running, exists_start_iff running, ?_,
    fun fault failed => start_fault_cases running failed⟩
  intro next after ended
  obtain ⟨same, asked⟩ := start_requests running ended
  have behind {request : Nat × Payload} (listed : request ∈
      (orchestrator.config.controlInterval, Payload.controlTick) ::
        (orchestrator.config.runLength, .stop) ::
          orchestrator.devices.keys.map fun device => (0, .device device .manageResources)) :
      before.Books after request.1 request.2 :=
    asked.books (List.mem_append_right _ listed)
  refine ⟨same, asked, behind List.mem_cons_self,
    behind (List.mem_cons_of_mem _ List.mem_cons_self), fun device known => ?_⟩
  exact behind (List.mem_cons_of_mem _ (List.mem_cons_of_mem _ (List.mem_map_of_mem known)))

end Outcomes

end Orchestrator

namespace Demo

def flare (interval : Nat) : Orchestrator :=
  { beacon with
    sensors := SortedMap.empty.insert ⟨0⟩ ((Sensor.named ⟨0⟩ "tick" "TICK" "panel").every interval)
    active :=
      some ⟨panelApplication "LIGHT" "TURN", Placement.empty.assign ⟨0⟩ "control", 0⟩ }

def morning : Context := { Context.initial with now := ⟨10⟩ }

theorem flare_ready (interval : Nat) : (flare interval).Ready morning.now :=
  ⟨rfl, (by decide : 0 < 50), (by decide : 0 < 45),
    (by decide : ∀ delay ∈ [0, 50, 45], 10 + delay ≤ largest)⟩

/-- Everything that is looked at is in range, but the sensor is not. -/
theorem flare_breaks_off : morning.halted = false ∧
    (flare largest).readyAt morning.now = .ok () ∧
    ((flare largest).start.run morning).outcome = .error .unreachableTime :=
  ⟨rfl, rfl, rfl⟩

end Demo

theorem Orchestrator.start_all_or_nothing_flare : ∃ next after,
    (Demo.flare 20).start.Ends Demo.morning (.ok (), next) after ∧
      Demo.morning.Books after 50 .controlTick ∧ Demo.morning.Books after 45 .stop ∧
      Demo.morning.Books after 0 (.device ⟨0⟩ .manageResources) := by
  obtain ⟨_, starts, course, _⟩ := (Demo.flare 20).start_all_or_nothing Demo.morning rfl
  have within : ¬(Demo.flare 20).Overreaches Demo.morning.now := by
    rintro ⟨held, sensor, active, _, feeds, late⟩
    cases active
    obtain rfl := List.mem_singleton.mp feeds
    exact absurd late (by decide)
  obtain ⟨next, after, ended⟩ := starts.mpr
    ⟨Demo.flare_ready 20, within, (by decide : 0 + 7 ≤ largest)⟩
  obtain ⟨_, _, ticks, stops, rounds⟩ := course next after ended
  exact ⟨next, after, ended, ticks, stops, rounds ⟨0⟩ (by decide)⟩

end FogNetwork
