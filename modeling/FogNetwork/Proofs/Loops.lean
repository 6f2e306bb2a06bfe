import FogNetwork.Proofs.Briefings

/-! What an event does to one loop that begins at a sensor: either a tuple enters the loop, or
tuples that are under way in it come to its end. -/

namespace FogNetwork

structure Trip where
  root : Nat
  entered : Time
  left : Time

namespace Trip

def entry (trip : Trip) : Nat × Time := (trip.root, trip.entered)

def latency (trip : Trip) : Float := trip.entered.elapsed trip.left

def isPunctual (deadline : Option Float) (trip : Trip) : Bool := deadline.any (trip.latency ≤ ·)

end Trip

theorem Average.count_foldl_extend (trips : List Trip) (average? : Option Average) :
    (trips.foldl (fun average? trip => some (Average.extend average? trip.latency))
      average?).elim 0 (·.count) = average?.elim 0 (·.count) + trips.length := by
  induction trips generalizing average? with
  | nil => rfl
  | cons trip rest ih =>
      have first : (extend average? trip.latency).count = average?.elim 0 (·.count) + 1 := by
        cases average? with
        | none => rfl
        | some average => rfl
      rw [List.foldl_cons, ih, Option.elim_some, first, List.length_cons]
      omega

namespace LoopTiming

variable {now : Time} {deadline : Option Float} {first last : List Trip}
variable {before middle after : LoopTiming}

def samples (timing : LoopTiming) : Nat := timing.latency.elim 0 (·.count)

theorem samples_of_latency {timing : LoopTiming} {trips : List Trip}
    (latency : timing.latency = trips.foldl
      (fun average? trip => some (Average.extend average? trip.latency)) none) :
    timing.samples = trips.length := by
  rw [samples, latency, Average.count_foldl_extend, Option.elim_none, Nat.zero_add]

/-- From one timing of a loop to another by trips that end `now`, in this order. -/
structure Completes (now : Time) (deadline : Option Float) (trips : List Trip)
    (before after : LoopTiming) : Prop where
  members : before.members.entries.Perm (trips.map Trip.entry ++ after.members.entries)
  latency : after.latency = trips.foldl
    (fun average? trip => some (Average.extend average? trip.latency)) before.latency
  onTime : after.onTime = before.onTime + trips.countP (Trip.isPunctual deadline)
  left : ∀ trip ∈ trips, trip.left = now

theorem Completes.refl (timing : LoopTiming) : Completes now deadline [] timing timing :=
  ⟨.refl _, rfl, rfl, nofun⟩

theorem Completes.trans (early : Completes now deadline first before middle)
    (late : Completes now deadline last middle after) :
    Completes now deadline (first ++ last) before after := by
  constructor
  · rw [List.map_append, List.append_assoc]
    exact early.members.trans (late.members.append_left _)
  · rw [late.latency, early.latency, List.foldl_append]
  · rw [late.onTime, early.onTime, List.countP_append, Nat.add_assoc]
  · intro trip member
    rcases List.mem_append.mp member with old | new
    · exact early.left trip old
    · exact late.left trip new

theorem completes_of_record {root : Nat} {entered : Time}
    (known : before.members.get? root = some entered) :
    Completes now deadline [⟨root, entered, now⟩] before
      ({ before with members := before.members.erase root }.record (entered.elapsed now)
        deadline) := by
  constructor
  · obtain ⟨front, back, split, _, erased⟩ := SortedMap.entries_of_get?_eq_some known
    simp only [record, split, erased]
    exact List.perm_middle
  · rfl
  · rw [List.countP_singleton]
    by_cases punctual : Trip.isPunctual deadline ⟨root, entered, now⟩ = true
    · rw [if_pos punctual]
      exact if_pos punctual
    · rw [if_neg punctual]
      exact if_neg punctual
  · simp

def enter (tuple : Nat) (now : Time) (timing : LoopTiming) : LoopTiming :=
  if timing.members.contains tuple then timing
  else { timing with members := timing.members.insert tuple now }

theorem enter_of_fresh {tuple : Nat} (fresh : before.members.get? tuple = none) :
    before.enter tuple now = { before with members := before.members.insert tuple now } := by
  simp [enter, SortedMap.contains, fresh]

theorem enter_enter (tuple : Nat) (timing : LoopTiming) :
    (timing.enter tuple now).enter tuple now = timing.enter tuple now := by
  have known : (timing.enter tuple now).members.contains tuple = true := by
    unfold enter
    split
    next known => exact known
    · simp [SortedMap.contains]
  rw [enter, if_pos known]

end LoopTiming

namespace Timings

variable {path : LoopPath} {paths : List LoopPath} {now : Time} {before middle after : Timings}

def loopTiming (timings : Timings) (id : LoopId) : LoopTiming :=
  (timings.loopTiming? id).getD .initial

theorem loopTiming_changeLoop (timings : Timings) (id wanted : LoopId)
    (change : LoopTiming → LoopTiming) :
    (timings.changeLoop id change).loopTiming wanted =
      if wanted = id then change (timings.loopTiming id) else timings.loopTiming wanted :=
  SortedMap.getD_update ..

structure Completes (path : LoopPath) (now : Time) (before after : Timings) : Prop where
  issued : before.nextTuple ≤ after.nextTuple
  trips : ∃ trips, LoopTiming.Completes now path.deadline trips (before.loopTiming path.id)
    (after.loopTiming path.id)

theorem completes_of_same (issued : before.nextTuple ≤ after.nextTuple)
    (same : after.loopTiming path.id = before.loopTiming path.id) :
    before.Completes path now after := by
  refine ⟨issued, [], ?_⟩
  rw [same]
  exact .refl _

theorem Completes.refl (timings : Timings) : timings.Completes path now timings :=
  completes_of_same (Nat.le_refl _) rfl

theorem Completes.trans (early : before.Completes path now middle)
    (late : middle.Completes path now after) : before.Completes path now after := by
  obtain ⟨first, gone⟩ := early.trips
  obtain ⟨last, goneLater⟩ := late.trips
  exact ⟨early.issued.trans late.issued, first ++ last, gone.trans goneLater⟩

theorem foldl_completes {ι : Type} {step : Timings → ι → Timings} {items : List ι}
    (each : ∀ item ∈ items, ∀ timings, Completes path now timings (step timings item))
    (timings : Timings) : Completes path now timings (items.foldl step timings) := by
  refine List.foldlRecOn items step (motive := Completes path now timings) (.refl timings) ?_
  exact fun between earlier item member => earlier.trans (each item member between)

variable {other : LoopPath}

theorem completeLoop_completes (alone : other.id = path.id → other = path) (root : Nat)
    (timings : Timings) :
    timings.Completes path now (timings.completeLoop other.id root now other.deadline).2 := by
  unfold completeLoop
  split
  · exact .refl timings
  next entered known =>
    refine ⟨Nat.le_refl _, ?_⟩
    dsimp only
    rw [loopTiming_changeLoop]
    split
    next same =>
      obtain rfl := alone same.symm
      exact ⟨_, LoopTiming.completes_of_record known⟩
    · exact ⟨[], .refl _⟩

theorem loopTiming_enterLoop (timings : Timings) (id wanted : LoopId) (tuple : Nat) (now : Time) :
    (timings.enterLoop id tuple now).loopTiming wanted =
      if wanted = id then (timings.loopTiming id).enter tuple now
      else timings.loopTiming wanted :=
  loopTiming_changeLoop ..

theorem passModule_completes (alone : ∀ other ∈ paths, other.id = path.id → other = path)
    {name : String} (outside : path.startsWith name = false) (root : Nat) (timings : Timings) :
    timings.Completes path now (timings.passModule name root now paths) := by
  refine foldl_completes (fun other member timings => ?_) timings
  have completed : timings.Completes path now (if other.endsWith name then
      (timings.completeLoop other.id root now other.deadline).2 else timings) := by
    split
    · exact completeLoop_completes (alone other member) root timings
    · exact .refl timings
  refine completed.trans ?_
  generalize (if other.endsWith name then
    (timings.completeLoop other.id root now other.deadline).2 else timings) = between
  dsimp only
  split
  next starts =>
    refine completes_of_same (Nat.le_refl _) ?_
    rw [loopTiming_enterLoop, if_neg]
    intro same
    rw [alone other member same.symm, outside] at starts
    cases starts
  · exact .refl _

theorem nextTuple_enterLoops (tupleType : String) (tuple : Nat) (now : Time)
    (paths : List LoopPath) (timings : Timings) :
    (timings.enterLoops tupleType tuple now paths).nextTuple = timings.nextTuple := by
  obtain ⟨loops, changed⟩ := timings.enterLoops_changesLoops tupleType tuple now paths
  rw [changed]

theorem loopTiming_enterLoops_of_other {tupleType : String}
    (alone : ∀ other ∈ paths, other.id = path.id → other = path)
    (outside : path.startsWith tupleType = false) (tuple : Nat) (now : Time) (timings : Timings) :
    (timings.enterLoops tupleType tuple now paths).loopTiming path.id =
      timings.loopTiming path.id := by
  have apart : ∀ other ∈ paths.filter (·.startsWith tupleType), path.id ≠ other.id := by
    intro other member same
    obtain ⟨listed, starts⟩ := List.mem_filter.mp member
    rw [alone other listed same.symm, outside] at starts
    cases starts
  unfold enterLoops
  generalize paths.filter (·.startsWith tupleType) = chosen at apart ⊢
  induction chosen generalizing timings with
  | nil => rfl
  | cons first rest ih =>
      rw [List.foldl_cons, ih _ fun other member => apart other (by simp [member]),
        loopTiming_enterLoop, if_neg (apart first (by simp))]

theorem loopTiming_enterLoops_of_starts {tupleType : String} (listed : path ∈ paths)
    (starts : path.startsWith tupleType = true) (tuple : Nat) (now : Time) (timings : Timings) :
    (timings.enterLoops tupleType tuple now paths).loopTiming path.id =
      (timings.loopTiming path.id).enter tuple now := by
  have member : path ∈ paths.filter (·.startsWith tupleType) :=
    List.mem_filter.mpr ⟨listed, starts⟩
  unfold enterLoops
  generalize paths.filter (·.startsWith tupleType) = chosen at member ⊢
  have again (timings : Timings) {paths : List LoopPath}
      (inside : (timings.loopTiming path.id).enter tuple now = timings.loopTiming path.id) :
      (paths.foldl (fun timings path => timings.enterLoop path.id tuple now) timings).loopTiming
        path.id = timings.loopTiming path.id := by
    induction paths generalizing timings with
    | nil => rfl
    | cons first rest ih =>
        have kept : (timings.enterLoop first.id tuple now).loopTiming path.id =
            timings.loopTiming path.id := by
          rw [loopTiming_enterLoop]
          split
          next same => rw [← same, inside]
          · rfl
        rw [List.foldl_cons, ih _ (by rw [kept, inside]), kept]
  induction chosen generalizing timings with
  | nil => cases member
  | cons first rest ih =>
      have own := loopTiming_enterLoop timings first.id path.id tuple now
      rw [List.foldl_cons]
      by_cases same : path.id = first.id
      · rw [if_pos same, ← same] at own
        rw [again, ← same, own]
        rw [← same, own, LoopTiming.enter_enter]
      · rw [if_neg same] at own
        have later : path ∈ rest := by
          rcases List.mem_cons.mp member with rfl | later
          · exact absurd rfl same
          · exact later
        rw [ih _ later, own]

end Timings

/-- A loop of an application that begins at a sensor type, not at a module. No other loop goes by
its identifier, which declared applications see to (`Application.Declared.alone`). -/
structure LoopPath.Sensed (application : Application) (tupleType : String) (path : LoopPath) :
    Prop where
  listed : path ∈ application.loops
  alone : ∀ other ∈ application.loops, other.id = path.id → other = path
  begins : path.members.head? = some tupleType
  outside : application.hasModule tupleType = false

namespace Application

/-- An application that is put together piece by piece. -/
inductive Declared : Application → Prop
  | named (id : String) : Declared (named id)
  | module {application : Application} (declared : Declared application) (name : String)
      (capacity : Nat) : Declared (application.declareModule name capacity)
  | edge {application : Application} (declared : Declared application) (edge : Edge) :
      Declared (application.declareEdge edge)
  | loop {application next : Application} {members : List String} {id : LoopId}
      (declared : Declared application)
      (declares : application.declareLoop members = .ok (id, next)) : Declared next
  | deadline {application : Application} (declared : Declared application) (id : LoopId)
      (deadline : Float) : Declared (application.setDeadline id deadline)
  | coverage {application : Application} (declared : Declared application) (coverage : Coverage) :
      Declared (application.setCoverage coverage)
  | subscribe {application : Application} (declared : Declared application) (name : String)
      (actuator : ActuatorId) (tupleType : String) :
      Declared (application.subscribe name actuator tupleType)

theorem loopNumbers_setDeadline (application : Application) (id : LoopId) (deadline : Float) :
    (application.setDeadline id deadline).loops.map (·.id.number) =
      application.loops.map (·.id.number) :=
  map_changeFirst (fun _ => by rfl) application.loops

theorem Declared.numbered {application : Application} (declared : application.Declared) :
    application.loops.map (·.id.number) = List.range application.loops.length := by
  induction declared with
  | named => rfl
  | @module application _ name capacity ih =>
      unfold declareModule
      split
      · exact ih
      · exact ih
  | @loop application next members id _ declares ih =>
      unfold declareLoop at declares
      split at declares
      · cases declares
      · split at declares
        · cases declares
        · cases declares
          rw [List.map_append, ih, List.length_append, List.length_singleton, List.range_succ]
          rfl
  | @deadline application _ id deadline ih =>
      have same := loopNumbers_setDeadline application id deadline
      have length := congrArg List.length same
      rw [List.length_map, List.length_map] at length
      rw [same, length, ih]
  | edge _ _ ih | coverage _ _ ih | subscribe _ _ _ _ ih => exact ih

theorem Declared.alone {application : Application} (declared : application.Declared)
    {path other : LoopPath} (listed : path ∈ application.loops)
    (member : other ∈ application.loops) (same : other.id = path.id) : other = path := by
  have distinct : (application.loops.map (·.id.number)).Nodup := by
    rw [declared.numbered]
    exact List.nodup_range
  exact List.inj_on_of_nodup_map distinct member listed (congrArg Identifier.number same)

theorem Declared.subscribed {application : Application} (declared : application.Declared)
    (actuators : SortedMap ActuatorId Actuator) :
    (Orchestrator.subscribeActuators actuators application).value.Declared := by
  rw [Orchestrator.subscribeActuators, Logged.value_foldlM]
  induction application.edges.filter (·.kind == .actuator) generalizing application with
  | nil => exact declared
  | cons edge rest ih =>
      refine ih ?_
      dsimp only
      rw [Orchestrator.subscribeEdge_value]
      induction Orchestrator.matching actuators edge.destination generalizing application with
      | nil => exact declared
      | cons actuator others inner => exact inner (declared.subscribe _ _ _)

end Application

def Bench.Serves (bench : Bench) : Prop :=
  ∀ tuple ∈ bench.relay.north ++ bench.taken ++ bench.done,
    bench.relay.hosts tuple.destination = true

def Device.Serves : Device → Prop
  | .relay device => ∀ tuple ∈ device.north, device.hosts tuple.destination = true
  | .recorder _ => True

def Orchestrator.sentOf (application tupleType : String) (orchestrator : Orchestrator) : Nat :=
  orchestrator.sensors.total fun sensor =>
    if sensor.application = application ∧ sensor.tupleType = tupleType then sensor.sent else 0

structure LoopPath.Opens (application : Application) (tupleType : String) (path : LoopPath)
    (orchestrator : Orchestrator) (begun : Context) (next : Orchestrator) (reacted : Context) :
    Prop where
  counted : next.sentOf application.id tupleType = orchestrator.sentOf application.id tupleType + 1
  running : reacted.halted = false
  issued : begun.timings.nextTuple < reacted.timings.nextTuple
  enters : reacted.timings.loopTiming path.id =
    (begun.timings.loopTiming path.id).enter begun.timings.nextTuple begun.now
  sends : ∃ edge, edge.source = tupleType ∧
    Tuple.emitted begun.timings.nextTuple application.id edge ∈ reacted.carried

namespace LoopPath.Sensed

variable {application : Application} {tupleType : String} {path : LoopPath}

theorem starts (sensed : path.Sensed application tupleType) : path.startsWith tupleType = true := by
  simp [startsWith, sensed.begins]

theorem not_starts (sensed : path.Sensed application tupleType) {name : String}
    (other : name ≠ tupleType) : path.startsWith name = false := by
  simp [startsWith, sensed.begins, Ne.symm other]

theorem not_starts_of_hosts (sensed : path.Sensed application tupleType) {relay : Relay}
    (runs : relay.Runs (some application)) {name : String} (hosts : relay.hosts name = true) :
    path.startsWith name = false := by
  obtain ⟨spec, found⟩ := Option.isSome_iff_exists.mp hosts
  obtain ⟨_, _, ⟨⟩, known⟩ := runs.hosted name spec found
  apply sensed.not_starts
  rintro rfl
  have outside := sensed.outside
  rw [Application.hasModule, known] at outside
  cases outside

end LoopPath.Sensed

namespace Relay

variable {before after : Bench} {application : Application} {tupleType : String} {path : LoopPath}

theorem Deed.now_eq (deed : Deed before after) : after.context.now = before.context.now := by
  cases deed with
  | forward _ _ _ _ _ sent => exact sent.now
  | deliver _ _ _ _ _ _ _ _ sent => exact sent.now
  | rearm _ _ asked => exact asked.now
  | queue | park | derive | execute | pass | take | charge => rfl

theorem Deed.serves (deed : Deed before after) (serves : before.Serves) : after.Serves := by
  cases deed with
  | queue held hosted =>
      intro other member
      simp only [List.mem_append, List.mem_singleton] at member
      rcases member with ((queued | rfl) | taken) | done
      · exact serves other (by simp [queued])
      · exact hosted
      · exact serves other (by simp [taken])
      · exact serves other (by simp [done])
  | execute free next =>
      intro other member
      apply serves other
      rw [next]
      simp only [List.mem_append, List.mem_cons, List.not_mem_nil, or_false] at member ⊢
      tauto
  | take idle =>
      intro other member
      apply serves other
      rw [idle, List.append_nil, ← round_append before.relay.budget before.relay.north]
      simp only [List.mem_append] at member ⊢
      tauto
  | park | forward | derive | deliver | pass | rearm | charge => exact serves

theorem Deed.completes (sensed : path.Sensed application tupleType) (deed : Deed before after)
    (runs : before.relay.Runs (some application)) (serves : before.Serves) :
    before.context.timings.Completes path before.context.now after.context.timings := by
  cases deed with
  | forward _ _ _ _ _ sent =>
      rw [sent.timings]
      exact .refl _
  | deliver _ _ _ _ _ _ _ _ sent =>
      rw [sent.timings]
      exact .refl _
  | rearm _ _ asked =>
      rw [asked.timings]
      exact .refl _
  | derive => exact Timings.completes_of_same (Nat.le_succ _) rfl
  | @execute tuple =>
      dsimp only
      unfold Timings.endExecution
      split
      · exact .refl _
      · exact Timings.completes_of_same (Nat.le_refl _) rfl
  | @pass tuple other executed known =>
      obtain ⟨⟩ := runs.application other known
      have hosts := serves tuple (by simp [executed])
      exact Timings.passModule_completes sensed.alone (sensed.not_starts_of_hosts runs hosts) _ _
  | queue | park | take | charge => exact Timings.completes_of_same (Nat.le_refl _) rfl

theorem Deeds.now_eq (deeds : Deeds before after) : after.context.now = before.context.now := by
  induction deeds with
  | refl => rfl
  | tail _ deed ih => exact deed.now_eq.trans ih

theorem Deeds.serves (deeds : Deeds before after) (serves : before.Serves) : after.Serves := by
  induction deeds with
  | refl => exact serves
  | tail _ deed ih => exact deed.serves ih

theorem Deeds.completes (sensed : path.Sensed application tupleType) (deeds : Deeds before after)
    (runs : before.relay.Runs (some application)) (serves : before.Serves) :
    before.context.timings.Completes path before.context.now after.context.timings := by
  induction deeds with
  | refl => exact .refl _
  | tail earlier deed ih =>
      have kept : Deeds before _ := earlier
      have step := deed.completes sensed (runs.of_setup kept.keeps.2) (kept.serves serves)
      rw [kept.now_eq] at step
      exact ih.trans step

end Relay

theorem Device.Reaction.serves {begun reacted : Context} {device next : Device}
    {event : DeviceEvent} (reaction : Device.Reaction begun device event next reacted)
    (serves : device.Serves) : next.Serves := by
  cases reaction with
  | recorder => trivial
  | active | received => exact serves
  | @launch relay spec =>
      intro tuple queued
      rw [Relay.hosts, SortedMap.contains, SortedMap.get?_insert]
      split
      · rfl
      · exact serves tuple queued
  | manage deeds | arrival deeds =>
      intro tuple queued
      refine deeds.serves (fun tuple queued => serves tuple ?_) tuple ?_
      · simpa using queued
      · simp [queued]

theorem Device.Reaction.completes {application : Application} {tupleType : String}
    {path : LoopPath} {begun reacted : Context} {device next : Device} {event : DeviceEvent}
    (sensed : path.Sensed application tupleType)
    (reaction : Device.Reaction begun device event next reacted)
    (runs : ∀ relay, device = .relay relay → relay.Runs (some application))
    (serves : device.Serves) : begun.timings.Completes path begun.now reacted.timings := by
  cases reaction with
  | recorder | active | received | launch => exact .refl _
  | manage deeds | arrival deeds =>
      exact deeds.completes sensed (runs _ rfl) fun tuple queued =>
        serves tuple (by simpa using queued)

structure Reaction.Emits (application : Application) (orchestrator : Orchestrator)
    (begun : Context) (payload : Payload) (reacted : Context) (sensor : Sensor) (edge : Edge) :
    Prop where
  sender : ∃ id, payload = .transmit id ∧ orchestrator.sensors.get? id = some sensor
  feeds : application.sensorEdge? sensor.tupleType = some edge
  running : reacted.halted = false
  issued : begun.timings.nextTuple < reacted.timings.nextTuple
  sends : Tuple.emitted begun.timings.nextTuple application.id edge ∈ reacted.carried

theorem Sensor.Emits.timings {sensor : Sensor} {application : Application} {edge : Edge}
    {usage : Usage} {time later : Time} {begun sent reacted : Context}
    (emits : sensor.Emits application edge usage time later begun sent reacted) :
    reacted.timings = begun.timings.issue.2.enterLoops sensor.tupleType begun.timings.nextTuple
      begun.now application.loops :=
  emits.arms.timings.trans emits.sends.timings

theorem Sensor.Emits.shows {orchestrator : Orchestrator} {id : SensorId} {sensor : Sensor}
    {application : Application} {edge : Edge} {usage : Usage} {time later : Time}
    {begun sent reacted : Context} (running : begun.halted = false)
    (found : orchestrator.sensors.get? id = some sensor)
    (emits : sensor.Emits application edge usage time later begun sent reacted) :
    Reaction.Emits application orchestrator begun (.transmit id) reacted sensor edge := by
  refine ⟨⟨id, rfl, found⟩, emits.feeds, ?_, ?_, ?_⟩
  · exact (emits.arms.halted.trans emits.sends.halted).trans running
  · rw [emits.timings, Timings.nextTuple_enterLoops]
    exact Nat.lt_succ_self _
  · rw [emits.arms.carried, emits.sends.carried]
    simp [Payload.carried?]

namespace Reaction

variable {orchestrator next : Orchestrator} {begun reacted : Context} {payload : Payload}
variable {application : Application} {tupleType : String} {path : LoopPath}

theorem serves (running : begun.halted = false)
    (reaction : Reaction orchestrator begun payload next reacted)
    (serves : orchestrator.devices.All Device.Serves) : next.devices.All Device.Serves := by
  cases reaction with
  | @device id event target changed _ known reacts =>
      exact serves.insert ((Device.react_reaction running reacts).serves (serves id target known))
  | _ => exact serves

theorem loop_cases (running : begun.halted = false)
    (reaction : Reaction orchestrator begun payload next reacted)
    (held : orchestrator.application? = some application)
    (sensed : path.Sensed application tupleType)
    (runs : ∀ id relay, orchestrator.devices.get? id = some (.relay relay) →
      relay.Runs (some application))
    (serves : orchestrator.devices.All Device.Serves) :
    path.Opens application tupleType orchestrator begun next reacted ∨
      (next.sentOf application.id tupleType = orchestrator.sentOf application.id tupleType ∧
        begun.timings.Completes path begun.now reacted.timings) := by
  cases reaction with
  | launch asks | control asks =>
      refine .inr ⟨rfl, ?_⟩
      rw [Context.Asks.timings_eq asks]
      exact .refl _
  | finished | unknownDevice | silent | unknownActuator => exact .inr ⟨rfl, .refl _⟩
  | stop halts => rcases halts with rfl | rfl <;> exact .inr ⟨rfl, .refl _⟩
  | @device id event target changed _ known reacts =>
      refine .inr ⟨rfl, (Device.react_reaction running reacts).completes sensed ?_
        (serves id target known)⟩
      rintro relay rfl
      exact runs id relay known
  | actuator known reacts =>
      obtain ⟨rfl, rfl⟩ := Actuator.receive_ends reacts
      rw [held]
      refine .inr ⟨rfl, Timings.foldl_completes (fun other member timings => ?_) _⟩
      exact Timings.completeLoop_completes (sensed.alone other (List.mem_filter.mp member).1) _ _
  | @sensor id sensor changed other _ known holds own reacts =>
      obtain ⟨⟩ := held.symm.trans holds
      obtain ⟨others, before, after⟩ := SortedMap.total_of_get?_eq_some known fun sensor =>
        if sensor.application = application.id ∧ sensor.tupleType = tupleType then sensor.sent
        else 0
      rcases Sensor.transmit_ends running reacts with
        ⟨_, rfl, rfl⟩ | ⟨edge, usage, time, later, sent, emits, rfl⟩
      · exact .inr ⟨(after changed).trans before.symm, .refl _⟩
      have shows := emits.shows running known
      by_cases type : sensor.tupleType = tupleType
      · refine .inl ⟨?_, shows.running, shows.issued, ?_, ?_⟩
        · refine (after _).trans ?_
          rw [Orchestrator.sentOf, before, if_pos ⟨own, type⟩, if_pos ⟨own, type⟩]
          exact Nat.add_right_comm _ _ _
        · rw [emits.timings, type,
            Timings.loopTiming_enterLoops_of_starts sensed.listed sensed.starts]
          rfl
        · have passed := List.find?_some emits.feeds
          simp only [Bool.and_eq_true, beq_iff_eq] at passed
          exact ⟨edge, passed.2.trans type, shows.sends⟩
      · refine .inr ⟨?_, Timings.completes_of_same shows.issued.le ?_⟩
        · refine (after _).trans ?_
          rw [Orchestrator.sentOf, before, if_neg fun both => type both.2,
            if_neg fun both => type both.2]
        · rw [emits.timings,
            Timings.loopTiming_enterLoops_of_other sensed.alone (sensed.not_starts type)]
          rfl

end Reaction
end FogNetwork
