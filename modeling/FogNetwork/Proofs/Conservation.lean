import FogNetwork.Demo
import FogNetwork.Proofs.Accounts
import FogNetwork.Proofs.Building
import FogNetwork.Proofs.Histories

/-! No tuple is lost or duplicated, and the measurements agree with the queues: the accounts hold
in every state that a built scenario reaches. -/

namespace FogNetwork

namespace Device

/-- The tuples that wait for their execution. The queues of a recorder are only for show. -/
def waiting : Device → List Tuple
  | .relay device => device.north
  | .recorder _ => []

def parked : Device → List Tuple
  | .relay device => device.south
  | .recorder _ => []

def executed : Device → Nat
  | .relay device => device.executed
  | .recorder _ => 0

end Device

namespace Orchestrator

def executes (orchestrator : Orchestrator) : Payload → List Tuple
  | .device id .manageResources =>
      match orchestrator.relay? id with
      | some relay => (round relay.budget relay.north).1
      | none => []
  | _ => []

def records (orchestrator : Orchestrator) : Payload → List Tuple
  | .device id (.tupleArrival tuple) =>
      match orchestrator.devices.get? id with
      | some (.recorder _) => [tuple]
      | _ => []
  | _ => []

def receives (orchestrator : Orchestrator) : Payload → List Tuple
  | .delivery id tuple => if orchestrator.actuators.contains id then [tuple] else []
  | _ => []

/-- The tuples that are dropped because nobody is registered to receive them. -/
def drops (orchestrator : Orchestrator) : Payload → List Tuple
  | .device id (.tupleArrival tuple) => if orchestrator.devices.contains id then [] else [tuple]
  | .delivery id tuple => if orchestrator.actuators.contains id then [] else [tuple]
  | _ => []

def settles (orchestrator : Orchestrator) (payload : Payload) : List Tuple :=
  orchestrator.executes payload ++ orchestrator.records payload ++
    orchestrator.receives payload ++ orchestrator.drops payload

def Accounts (orchestrator : Orchestrator) (context : Context) (rest moved : Multiset Tuple) :
    Prop :=
  FogNetwork.Accounts context (orchestrator.devices.total (↑·.waiting))
    (orchestrator.devices.total (↑·.parked) + rest) moved
    (orchestrator.devices.total (·.executed))

end Orchestrator

theorem Orchestrator.relay?_eq_some_iff {orchestrator : Orchestrator} {id : DeviceId}
    {relay : Relay} : orchestrator.relay? id = some relay ↔
      orchestrator.devices.get? id = some (.relay relay) := by
  rw [relay?]
  rcases orchestrator.devices.get? id with _ | (_ | _) <;> simp [Device.relay?]

theorem Orchestrator.settles_of_relay {orchestrator : Orchestrator} {id : DeviceId} {relay : Relay}
    (known : orchestrator.devices.get? id = some (.relay relay)) (event : DeviceEvent) :
    orchestrator.settles (.device id event) = orchestrator.executes (.device id event) := by
  cases event <;> simp [settles, records, receives, drops, SortedMap.contains, known]

theorem Orchestrator.settles_of_relay?_eq_none {orchestrator : Orchestrator} {id : DeviceId}
    (absent : orchestrator.relay? id = none) (event : DeviceEvent) :
    orchestrator.settles (.device id event) = (Payload.device id event).carried?.toList := by
  cases known : orchestrator.devices.get? id with
  | none =>
      cases event <;>
        simp [settles, executes, records, receives, drops, Payload.carried?, SortedMap.contains,
          known, absent]
  | some device =>
      cases device with
      | recorder recorder =>
          cases event <;>
            simp [settles, executes, records, receives, drops, Payload.carried?,
              SortedMap.contains, known, absent]
      | relay relay => simp [relay?, known, Device.relay?] at absent

theorem Orchestrator.settles_delivery (orchestrator : Orchestrator) (id : ActuatorId)
    (tuple : Tuple) : orchestrator.settles (.delivery id tuple) = [tuple] := by
  simp only [settles, executes, records, receives, drops]
  split <;> rfl

theorem Payload.CallsFor.isCall {held : Option Application} {payload : Payload}
    (calls : payload.CallsFor held) : payload.IsCall := by
  unfold CallsFor at calls
  split at calls
  case h_5 | h_6 | h_7 => exact calls.elim
  all_goals exact ⟨rfl, nofun⟩

theorem Context.Asks.accounts {held : Option Application} {before after : Context}
    (asks : before.Asks (Context.CallsFor held) after) {waiting rest moved : Multiset Tuple}
    {executed : Nat} (accounts : Accounts before waiting rest moved executed) :
    Accounts after waiting rest moved executed := by
  induction asks with
  | refl => exact accounts
  | tail _ asked ih =>
      obtain ⟨event, enters, calls⟩ := asked
      exact ih.call enters calls.calls.isCall

theorem Accounts.dispatch {context begun : Context} {event : Event}
    {waiting rest moved : Multiset Tuple} {executed : Nat}
    (accounts : Accounts context waiting rest moved executed)
    (pending : context.agenda.pending = event :: begun.agenda.pending)
    (begins : begun = { context with agenda := begun.agenda, now := event.time }) :
    Accounts begun waiting (↑event.payload.carried?.toList + rest)
      (↑event.payload.carried?.toList + moved) executed := by
  have carried : context.carried = ↑event.payload.carried?.toList + begun.carried := by
    unfold Context.carried
    rw [pending, List.filterMap_cons, Multiset.coe_add]
    cases event.payload.carried? <;> rfl
  have timings : begun.timings = context.timings := by rw [begins]
  have usage : begun.usage = context.usage := by rw [begins]
  constructor
  · have custody := accounts.custody
    rw [timings]
    rwa [carried, show ↑event.payload.carried?.toList + begun.carried + waiting + rest =
      begun.carried + waiting + (↑event.payload.carried?.toList + rest) by abel] at custody
  · have traffic := accounts.traffic
    rw [usage]
    rwa [carried, show ↑event.payload.carried?.toList + begun.carried + moved =
      begun.carried + (↑event.payload.carried?.toList + moved) by abel] at traffic
  · intro other member
    exact accounts.unfinished other (by simp [pending, member])
  · rw [timings, usage]
    exact accounts.work

theorem Devices.totals_of_relay {devices : Devices} {id : DeviceId} {relay : Relay}
    (known : devices.get? id = some (.relay relay)) :
    ∃ (waiting parked : Multiset Tuple) (executed : Nat),
      devices.total (fun device => (device.waiting : Multiset Tuple)) = relay.north + waiting ∧
      devices.total (fun device => (device.parked : Multiset Tuple)) = relay.south + parked ∧
      devices.total (·.executed) = relay.executed + executed ∧
      ∀ next : Relay,
        (devices.insert id (.relay next)).total (fun device => (device.waiting : Multiset Tuple)) =
          next.north + waiting ∧
        (devices.insert id (.relay next)).total (fun device => (device.parked : Multiset Tuple)) =
          next.south + parked ∧
        (devices.insert id (.relay next)).total (·.executed) = next.executed + executed := by
  obtain ⟨waiting, waitingSplit, waitingNext⟩ := SortedMap.total_of_get?_eq_some known
    fun device => (device.waiting : Multiset Tuple)
  obtain ⟨parked, parkedSplit, parkedNext⟩ := SortedMap.total_of_get?_eq_some known
    fun device => (device.parked : Multiset Tuple)
  obtain ⟨executed, executedSplit, executedNext⟩ := SortedMap.total_of_get?_eq_some known
    Device.executed
  exact ⟨waiting, parked, executed, waitingSplit, parkedSplit, executedSplit, fun next =>
    ⟨waitingNext (.relay next), parkedNext (.relay next), executedNext (.relay next)⟩⟩

namespace Orchestrator

variable {orchestrator : Orchestrator} {begun reacted : Context} {rest moved : Multiset Tuple}

theorem Accounts.bench {id : DeviceId} {relay : Relay} {hand : List Tuple}
    (known : orchestrator.devices.get? id = some (.relay relay))
    (accounts : orchestrator.Accounts begun (hand + rest) moved) :
    ∃ waiting parked executed,
      Bench.Accounts ⟨begun, relay, [], hand, []⟩ waiting (parked + rest) moved executed ∧
      ∀ (reacted : Context) (next : Relay) (done : List Tuple),
        Bench.Accounts ⟨reacted, next, [], [], done⟩ waiting (parked + rest) moved executed →
        Accounts { orchestrator with devices := orchestrator.devices.insert id (.relay next) }
          reacted (done + rest) moved := by
  obtain ⟨waiting, parked, executed, waits, parks, executes, later⟩ := Devices.totals_of_relay known
  refine ⟨waiting, parked, executed, ?_, ?_⟩
  · unfold Accounts at accounts
    rw [waits, parks, executes] at accounts
    unfold Bench.Accounts
    convert accounts using 1
    · simp only [Multiset.coe_nil]
      abel
    · simp only [Multiset.coe_nil]
      abel
  · intro reacted next done ended
    obtain ⟨waitsNext, parksNext, executesNext⟩ := later next
    unfold Bench.Accounts at ended
    change FogNetwork.Accounts reacted
      ((orchestrator.devices.insert id (.relay next)).total _)
      ((orchestrator.devices.insert id (.relay next)).total _ + _) moved
      ((orchestrator.devices.insert id (.relay next)).total _)
    rw [waitsNext, parksNext, executesNext]
    convert ended using 1
    · simp only [Multiset.coe_nil]
      abel
    · simp only [Multiset.coe_nil]
      abel

theorem Accounts.relay {id : DeviceId} {relay next : Relay} {hand done : List Tuple}
    (known : orchestrator.devices.get? id = some (.relay relay))
    (deeds : Relay.Deeds ⟨begun, relay, [], hand, []⟩ ⟨reacted, next, [], [], done⟩)
    (accounts : orchestrator.Accounts begun (hand + rest) moved) :
    Accounts { orchestrator with devices := orchestrator.devices.insert id (.relay next) } reacted
      (done + rest) moved := by
  obtain ⟨waiting, parked, executed, bench, whole⟩ := accounts.bench known
  exact whole reacted next done (deeds.accounts bench)

theorem Accounts.settings {id : DeviceId} {relay next : Relay}
    (known : orchestrator.devices.get? id = some (.relay relay)) (north : next.north = relay.north)
    (south : next.south = relay.south) (executed : next.executed = relay.executed)
    (accounts : orchestrator.Accounts begun rest moved) :
    Accounts { orchestrator with devices := orchestrator.devices.insert id (.relay next) } begun
      rest moved := by
  obtain ⟨waiting, parked, others, waits, parks, executes, later⟩ := Devices.totals_of_relay known
  obtain ⟨waitsNext, parksNext, executesNext⟩ := later next
  unfold Accounts at accounts ⊢
  dsimp only
  rwa [waitsNext, parksNext, executesNext, north, south, executed, ← waits, ← parks, ← executes]

theorem Accounts.recorder {id : DeviceId} {recorder next : Recorder}
    (known : orchestrator.devices.get? id = some (.recorder recorder))
    (accounts : orchestrator.Accounts begun rest moved) :
    Accounts { orchestrator with devices := orchestrator.devices.insert id (.recorder next) } begun
      rest moved := by
  have same {M : Type} [AddCommMonoid M] (measure : Device → M)
      (blind : measure (.recorder next) = measure (.recorder recorder)) :
      (orchestrator.devices.insert id (.recorder next)).total measure =
        orchestrator.devices.total measure := by
    obtain ⟨others, before, after⟩ := SortedMap.total_of_get?_eq_some known measure
    rw [after, before, blind]
  unfold Accounts at accounts ⊢
  dsimp only
  rwa [same _ rfl, same _ rfl, same _ rfl]

end Orchestrator

theorem Device.Reaction.accounts {orchestrator : Orchestrator} {begun reacted : Context}
    {id : DeviceId} {event : DeviceEvent} {target next : Device} {rest moved : Multiset Tuple}
    (known : orchestrator.devices.get? id = some target)
    (reaction : Device.Reaction begun target event next reacted)
    (accounts : orchestrator.Accounts begun
      (↑(Payload.device id event).carried?.toList + rest) moved) :
    Orchestrator.Accounts { orchestrator with devices := orchestrator.devices.insert id next }
      reacted (↑(orchestrator.settles (.device id event)) + rest) moved := by
  cases reaction with
  | recorder =>
      have absent : orchestrator.relay? id = none := by
        simp [Orchestrator.relay?, known, Device.relay?]
      rw [Orchestrator.settles_of_relay?_eq_none absent]
      exact accounts.recorder known
  | active | received | launch => exact accounts.settings known rfl rfl rfl
  | @manage relay _ _ deeds =>
      have executes : orchestrator.executes (.device id .manageResources) =
          (round relay.budget relay.north).1 := by
        simp [Orchestrator.executes, Orchestrator.relay?, known, Device.relay?]
      rw [Orchestrator.settles_of_relay known, executes]
      exact accounts.relay known deeds
  | arrival deeds =>
      rw [Orchestrator.settles_of_relay known]
      exact accounts.relay known deeds

theorem Actuator.receive_changesLoops {actuator next : Actuator}
    {application : Option Application} {tuple : Tuple} {before after : Context}
    (ended : (actuator.receive application tuple).Ends before next after) :
    ∃ loops, after = { before with timings := { before.timings with loops := loops } } := by
  obtain ⟨_, rfl⟩ := receive_ends ended
  obtain ⟨loops, changed⟩ := Timings.foldl_changesLoops
    (fun timings path =>
      timings.completeLoop_changesLoops path.id tuple.root before.now path.deadline)
    ((application.elim [] (·.loops)).filter actuator.closes) before.timings
  exact ⟨loops, by rw [changed]⟩

theorem Reaction.accounts {orchestrator next : Orchestrator} {begun reacted : Context}
    {payload : Payload} {rest moved : Multiset Tuple} (running : begun.halted = false)
    (reaction : Reaction orchestrator begun payload next reacted)
    (accounts : orchestrator.Accounts begun (↑payload.carried?.toList + rest) moved) :
    next.Accounts reacted (↑(orchestrator.settles payload) + rest) moved := by
  cases reaction with
  | launch asks => exact asks.accounts accounts
  | control asks => exact asks.accounts accounts
  | finished => exact accounts
  | stop halts =>
      rcases halts with rfl | rfl
      · exact accounts
      · exact ⟨accounts.custody, accounts.traffic, accounts.unfinished, accounts.work⟩
  | unknownDevice unknown =>
      rw [Orchestrator.settles_of_relay?_eq_none (by simp [Orchestrator.relay?, unknown])]
      exact accounts
  | device known reacts => exact (Device.react_reaction running reacts).accounts known accounts
  | silent => exact accounts
  | @sensor id sensor next application reacted known held feeds reacts =>
      rcases Sensor.transmit_ends running reacts with
        ⟨_, rfl, rfl⟩ | ⟨edge, usage, time, later, sent, emits, rfl⟩
      · exact accounts
      · have sends := emits.sends
        have minted := accounts.emit application.id edge
        obtain ⟨loops, changed⟩ := begun.timings.issue.2.enterLoops_changesLoops
          sensor.tupleType begun.timings.nextTuple begun.now application.loops
        rw [changed] at sends
        exact ((minted.changeLoops loops).send emits.paid sends rfl).call emits.arms ⟨rfl, nofun⟩
  | @unknownActuator id tuple unknown =>
      rw [Orchestrator.settles_delivery]
      exact accounts
  | @actuator id tuple actuator next reacted known reacts =>
      obtain ⟨loops, rfl⟩ := Actuator.receive_changesLoops reacts
      rw [Orchestrator.settles_delivery]
      exact Accounts.changeLoops accounts loops

namespace Scenario

variable {started scenario : Scenario} {turns : List Turn}

def settled (turns : List Turn) : List Tuple :=
  turns.flatMap fun turn => turn.before.orchestrator.settles turn.event.payload

def moved (turns : List Turn) : List Tuple := turns.filterMap (·.event.payload.carried?)

/-- The accounts hold as long as the run goes on, and the workload agrees even afterwards. -/
structure Accounted (turns : List Turn) (scenario : Scenario) : Prop where
  accounts : scenario.simulation.isTerminated = false →
    scenario.orchestrator.Accounts scenario.simulation.context (settled turns) (moved turns)
  work : Workload scenario.simulation.context.timings scenario.simulation.context.usage
    (scenario.orchestrator.devices.total (↑·.waiting))
    (scenario.orchestrator.devices.total (·.executed))

theorem Accounted.turn {before after : Scenario} {event : Event} {begun reacted : Context}
    (accounted : Accounted turns before)
    (dispatches : before.simulation.Dispatches Orchestrator.handle before.orchestrator event
      after.simulation after.orchestrator begun reacted) :
    Accounted (turns ++ [⟨event, before, after⟩]) after := by
  have dispatched := (accounted.accounts dispatches.running).dispatch dispatches.pending
    dispatches.begins
  rw [add_left_comm] at dispatched
  have ended := dispatches.reaction.accounts dispatches.begun_running dispatched
  have rest : (settled (turns ++ [⟨event, before, after⟩]) : Multiset Tuple) =
      before.orchestrator.settles event.payload + settled turns := by
    rw [settled, List.flatMap_append, add_comm, Multiset.coe_add]
    simp [settled]
  have carried : (moved (turns ++ [⟨event, before, after⟩]) : Multiset Tuple) =
      event.payload.carried?.toList + moved turns := by
    rw [moved, List.filterMap_append, add_comm, Multiset.coe_add]
    cases carries : event.payload.carried? <;> simp [moved, carries]
  rw [← rest, ← carried] at ended
  constructor
  · intro running
    rw [dispatches.after_context running]
    exact ended
  -- What a stop discards is on the accounts of all tuples, but not on those of the work.
  · rw [dispatches.context]
    unfold Context.settled
    split
    · exact ended.work
    · exact ended.work

theorem Reached.accounted (reached : started.Reached turns scenario)
    (begun : Accounted [] started) : Accounted turns scenario :=
  reached.keeps begun fun _ _ _ _ _ _ accounted dispatches => accounted.turn dispatches

end Scenario

theorem Scenario.Begun.cases {orchestrator : Orchestrator} {started scenario : Scenario}
    {turns : List Turn} (begun : (ofOrchestrator orchestrator).Begun started turns scenario) :
    started.Reached turns scenario ∧
      Context.initial.Asks (Context.CallsFor orchestrator.application?)
        started.simulation.context ∧
      ∃ time, started.orchestrator = { orchestrator with startedAt := time } := by
  rcases begun with ⟨rfl, rfl, rfl⟩ | ⟨starts, reached⟩
  · exact ⟨.start, .refl, _, rfl⟩
  · cases isStarted : (ofOrchestrator orchestrator).isStarted with
    | true =>
        rw [start_of_isStarted isStarted] at starts
        cases starts
        exact ⟨reached, .refl, _, rfl⟩
    | false =>
        obtain ⟨begins, _⟩ := start_outcome isStarted starts
        obtain ⟨asks, orchestrator⟩ := Orchestrator.start_asks rfl begins
        exact ⟨reached, asks, _, orchestrator⟩

theorem Accounts.initial : Accounts .initial 0 0 0 0 := by
  constructor
  · exact ⟨rfl, nofun⟩
  · exact ⟨rfl, rfl⟩
  · exact nofun
  · exact ⟨fun _ => rfl, rfl, rfl, rfl⟩

theorem Devices.totals_of_unused {devices : Devices} (unused : devices.All Device.Unused) :
    devices.total (fun device => (device.waiting : Multiset Tuple)) = 0 ∧
      devices.total (fun device => (device.parked : Multiset Tuple)) = 0 ∧
      devices.total (·.executed) = 0 := by
  refine ⟨SortedMap.total_eq_zero ?_, SortedMap.total_eq_zero ?_, SortedMap.total_eq_zero ?_⟩
  · intro id device found
    have own := unused id device found
    cases device with
    | relay relay => exact congrArg Multiset.ofList own.north
    | recorder recorder => rfl
  · intro id device found
    have own := unused id device found
    cases device with
    | relay relay => exact congrArg Multiset.ofList own.south
    | recorder recorder => rfl
  · intro id device found
    have own := unused id device found
    cases device with
    | relay relay => exact own.executed
    | recorder recorder => rfl

namespace Blueprint

variable {blueprint : Blueprint} {built started scenario : Scenario} {turns : List Turn}

theorem begun_of_calls (builds : blueprint.build.outcome = .ok (.ok built))
    {calls : List Scenario.Call}
    (performed : (Scenario.Call.performAll calls built).outcome = .ok scenario) :
    ∃ started turns, built.Begun started turns scenario := by
  obtain ⟨fresh, unstarted⟩ := build_initial builds
  refine Scenario.Begun.performAll ?_ ?_ (.inl ⟨rfl, rfl, rfl⟩) performed
  · simp [Scenario.isStarted, Orchestrator.isStarted, unstarted]
  · rw [fresh]
    rfl

theorem begun_cases (builds : blueprint.build.outcome = .ok (.ok built))
    (begun : built.Begun started turns scenario) :
    started.Reached turns scenario ∧
      Context.initial.Asks (Context.CallsFor built.orchestrator.application?)
        started.simulation.context ∧
      ∃ time, started.orchestrator = { built.orchestrator with startedAt := time } := by
  rw [← build_eq builds] at begun
  exact begun.cases

theorem accounted_of_begun (unused : blueprint.Unused)
    (builds : blueprint.build.outcome = .ok (.ok built))
    (begun : built.Begun started turns scenario) : Scenario.Accounted turns scenario := by
  obtain ⟨reached, asks, time, orchestrator⟩ := begun_cases builds begun
  obtain ⟨waiting, parked, executed⟩ := Devices.totals_of_unused (unused.of_build builds)
  have accounts : started.orchestrator.Accounts started.simulation.context 0 0 := by
    unfold Orchestrator.Accounts
    rw [orchestrator]
    dsimp only
    rw [waiting, parked, executed]
    exact asks.accounts .initial
  exact reached.accounted ⟨fun _ => accounts, accounts.work⟩

def after? (blueprint : Blueprint) (calls : List Scenario.Call) : Option Scenario :=
  match blueprint.build.outcome with
  | .ok (.ok built) => (Scenario.Call.performAll calls built).outcome.toOption
  | _ => none

theorem after?_eq_some {calls : List Scenario.Call}
    (left : blueprint.after? calls = some scenario) :
    ∃ built, blueprint.build.outcome = .ok (.ok built) ∧
      (Scenario.Call.performAll calls built).outcome = .ok scenario := by
  unfold after? at left
  split at left
  next built builds =>
    refine ⟨built, builds, ?_⟩
    cases performed : (Scenario.Call.performAll calls built).outcome with
    | error fault =>
        rw [performed] at left
        cases left
    | ok reached =>
        rw [performed] at left
        cases left
        rfl
  · cases left

end Blueprint

namespace Demo

theorem blueprint_unused {config : Config} {exporter : Exporter} {network : Blueprint}
    (made : blueprint config exporter = .ok network) : network.Unused := by
  unfold blueprint at made
  cases declared : application with
  | error rejection =>
      rw [declared] at made
      cases made
  | ok application =>
      rw [declared] at made
      cases made
      constructor
      · exact nofun
      · intro relay member
        simp only [List.mem_cons, List.not_mem_nil, or_false] at member
        rcases member with rfl | rfl | rfl | rfl <;> exact ⟨rfl, rfl, rfl, rfl, rfl⟩

theorem blueprint_busy : ∃ network built scenario,
    blueprint ⟨50, 400⟩ .keeping = .ok network ∧
      network.build.outcome = .ok (.ok built) ∧
      (Scenario.Call.performAll [.step, .runSteps 60] built).outcome = .ok scenario ∧
      scenario.simulation.isTerminated = false ∧
      scenario.simulation.context.timings.nextTuple = 29 := by
  have busy : ((blueprint ⟨50, 400⟩ .keeping).toOption.bind
      (·.after? [.step, .runSteps 60])).any (fun scenario =>
        !scenario.simulation.isTerminated &&
          scenario.simulation.context.timings.nextTuple == 29) = true := by
    decide +kernel
  cases made : blueprint ⟨50, 400⟩ .keeping with
  | error rejection =>
      rw [made] at busy
      cases busy
  | ok network =>
      rw [made] at busy
      obtain ⟨scenario, left, busy⟩ := (Option.any_eq_true _ _).mp busy
      simp only [Bool.and_eq_true, Bool.not_eq_true', beq_iff_eq] at busy
      obtain ⟨built, builds, performed⟩ := Blueprint.after?_eq_some left
      exact ⟨network, built, scenario, rfl, builds, performed, busy⟩

end Demo
end FogNetwork
