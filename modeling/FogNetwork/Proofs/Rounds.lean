import FogNetwork.Proofs.Answers
import FogNetwork.Proofs.Building
import FogNetwork.Proofs.Endings
import FogNetwork.Proofs.Ticks

/-! The control ticks of a run and the management rounds of its relays: they come on schedule,
whatever else goes on. -/

namespace FogNetwork

/-! Before its first run an orchestrator is at rest. -/

def Device.Rested : Device → Prop
  | .relay device => device.nextTick = none
  | .recorder _ => True

/-- Every device is registered under its own identifier, no relay has asked for a round, and no
control tick has been counted. -/
structure Orchestrator.Rested (orchestrator : Orchestrator) : Prop where
  keyed : orchestrator.devices.Keyed Device.id
  rounds : orchestrator.devices.All Device.Rested
  ticks : orchestrator.controlTicks = 0

structure Blueprint.Rested (blueprint : Blueprint) : Prop where
  devices : ∀ device ∈ blueprint.devices, device.Rested
  relays : ∀ relay ∈ blueprint.relays, relay.nextTick = none

theorem Device.Rested.changeLinks {device : Device} (rested : device.Rested)
    (change : Links → Links) : (device.changeLinks change).Rested := by
  cases device with
  | relay => exact rested
  | recorder => trivial

theorem Blueprint.Rested.of_build {blueprint : Blueprint} {built : Scenario}
    (rested : blueprint.Rested) (builds : blueprint.build.outcome = .ok (.ok built)) :
    built.orchestrator.Rested := by
  obtain ⟨keyed, _, _⟩ := build_keyed builds
  obtain ⟨registered, registers, rest⟩ := build_outcome builds
  have devices : registered.devices.All Device.Rested :=
    registered_all rested.devices rested.relays (fun change _ own => own.changeLinks change)
      registers
  obtain ⟨_, _, same⟩ := Orchestrator.register_value registers
  have ticks : registered.controlTicks = 0 := by
    rw [same]
    rfl
  rcases rest with ⟨_, rfl⟩ | ⟨mapped, placement, wires, submitted, _, _, _, submits, rfl⟩
  · exact ⟨keyed, devices, ticks⟩
  · obtain ⟨_, coverage, held⟩ := Orchestrator.submit_value submits
    obtain ⟨_, frame⟩ := Orchestrator.applyWires_frame wires submitted
    refine ⟨keyed, ?_, ?_⟩
    · refine Orchestrator.applyWires_all (fun _ _ _ own => own) ?_
      rw [held]
      exact devices
    · rw [Scenario.ofOrchestrator, frame, held]
      exact ticks

/-! Whatever happens to a device, it stays the device that it is. -/

theorem Device.Reaction.id_eq {begun reacted : Context} {device next : Device} {event : DeviceEvent}
    (reaction : Device.Reaction begun device event next reacted) : next.id = device.id := by
  cases reaction with
  | manage deeds | arrival deeds =>
      have same := congrArg Relay.id deeds.keeps.2
      exact same
  | _ => rfl

theorem Device.Reaction.isRelay {begun reacted : Context} {device next : Device}
    {event : DeviceEvent} (reaction : Device.Reaction begun device event next reacted) :
    next.relay?.isSome = device.relay?.isSome := by
  cases reaction <;> rfl

namespace Reaction

variable {orchestrator next : Orchestrator} {begun reacted : Context} {payload : Payload}

theorem keyed (reaction : Reaction orchestrator begun payload next reacted)
    (running : begun.halted = false) (keyed : orchestrator.devices.Keyed Device.id) :
    next.devices.Keyed Device.id := by
  cases reaction with
  | device known reacts =>
      refine keyed.insert ?_
      exact (Device.react_reaction running reacts).id_eq.trans (keyed _ _ known)
  | _ => exact keyed

theorem controlTicks_eq (reaction : Reaction orchestrator begun payload next reacted)
    (other : payload ≠ .controlTick) : next.controlTicks = orchestrator.controlTicks := by
  cases reaction with
  | control => exact absurd rfl other
  | _ => rfl

theorem relay?_isSome (reaction : Reaction orchestrator begun payload next reacted)
    (running : begun.halted = false) (id : DeviceId) :
    (next.relay? id).isSome = (orchestrator.relay? id).isSome := by
  cases reaction with
  | @device other event target changed _ known reacts =>
      have same := (Device.react_reaction running reacts).isRelay
      simp only [Orchestrator.relay?, SortedMap.get?_insert]
      by_cases own : id = other
      · subst own
        simpa [known] using same
      · simp [own]
  | _ => rfl

end Reaction

namespace Scenario

variable {started before after scenario ended : Scenario} {turns : List Turn} {event : Event}
variable {begun reacted : Context} {timer : Event}

theorem Reached.relay?_isSome (reached : started.Reached turns scenario) {id : DeviceId}
    (known : (started.orchestrator.relay? id).isSome = true) :
    (∀ turn ∈ turns, (turn.before.orchestrator.relay? id).isSome = true) ∧
      (scenario.orchestrator.relay? id).isSome = true := by
  obtain ⟨before, last⟩ := reached.unchanged (fun orchestrator => (orchestrator.relay? id).isSome)
    fun running reaction => reaction.relay?_isSome running id
  exact ⟨fun turn member => (before turn member).trans known, last.trans known⟩

end Scenario

/-! The control ticks. -/

namespace Orchestrator

def tickRhythm (orchestrator : Orchestrator) : Rhythm where
  marks := Payload.isTick
  first := orchestrator.config.controlInterval
  step := orchestrator.config.controlInterval
  early := true

theorem Answers.isTick_eq_false {orchestrator : Orchestrator} {cause payload : Payload}
    {delay : Nat} (answers : orchestrator.Answers cause delay payload)
    (other : cause.isTick = false) : payload.isTick = false := by
  cases answers with
  | tick => cases other
  | launch active own listed =>
      have opens := launchRequests_opens _ listed
      cases payload with
      | controlTick => cases opens
      | _ => rfl
  | round | emission => rfl
  | tuple carries =>
      cases payload with
      | controlTick => exact carries.2.elim
      | _ => rfl

theorem ticks_kept (orchestrator : Orchestrator) (timer : Event) :
    orchestrator.tickRhythm.KeptBy timer fun beat scenario =>
      scenario.orchestrator.config = orchestrator.config ∧
        scenario.orchestrator.controlTicks = beat := by
  rintro beat before event after begun reacted - ⟨config, counted⟩ dispatches goesOn
  have still : after.orchestrator.config = orchestrator.config :=
    dispatches.reaction.config_eq.trans config
  by_cases ticks : event.payload = .controlTick
  · have marked : orchestrator.tickRhythm.marks event.payload = true := Payload.isTick_iff.mpr ticks
    obtain ⟨next, course⟩ := control_cases (handle_of_tick ticks dispatches.reacts)
    have now := dispatches.begun_now
    rw [config, now] at course
    refine ⟨.of_mark marked fun none => ?_, still, by rw [if_pos marked, next, counted]⟩
    rcases course with ⟨unreached, rfl⟩ | ⟨time, id, reached, scheduled⟩
    · exact .inr ⟨none, sum?_eq_none_iff.mp (Option.map_eq_none_iff.mp unreached)⟩
    · have due := (Time.after?_eq_some_iff.mp reached).2
      rw [← now] at due
      have asked : begun.Requests [(orchestrator.config.controlInterval, .controlTick)] reacted :=
        .of_enters dispatches.begun_running
          (Act.scheduleAt_enters dispatches.begun_running scheduled) due
      obtain ⟨next, only, _, later, fresh, _⟩ := asked.pendingOf_single none rfl
      rw [now] at later
      exact .inl ⟨next, only, later, fresh⟩
  · have other : orchestrator.tickRhythm.marks event.payload = false :=
      Payload.isTick_eq_false_iff.mpr ticks
    refine ⟨.of_other other ?_, still, ?_⟩
    · exact Scenario.pendingOf_reacted dispatches goesOn fun _ _ answers =>
        answers.isTick_eq_false other
    · rw [if_neg (by simp [other]), dispatches.reaction.controlTicks_eq ticks, counted]

end Orchestrator

/-! The management rounds of one relay. -/

def Payload.isRound (id : DeviceId) : Payload → Bool
  | .device other .manageResources => other == id
  | _ => false

theorem Payload.isRound_iff {id : DeviceId} {payload : Payload} :
    payload.isRound id = true ↔ payload = .device id .manageResources := by
  cases payload with
  | device other event => cases event <;> simp [isRound]
  | _ => simp [isRound]

theorem Payload.isRound_eq_false_iff {id : DeviceId} {payload : Payload} :
    payload.isRound id = false ↔ payload ≠ .device id .manageResources := by
  rw [← Bool.not_eq_true, isRound_iff]

theorem Payload.isRound_of_opens {id : DeviceId} {payload : Payload} (opens : payload.opens = true) :
    payload.isRound id = false := by
  rw [isRound_eq_false_iff]
  rintro rfl
  cases opens

def roundRhythm (id : DeviceId) (interval : Nat) : Rhythm where
  marks := Payload.isRound id
  first := 0
  step := interval
  early := false

theorem Relay.react_nextTick {relay next : Relay} {before after : Context} {event : DeviceEvent}
    (quiet : event ≠ .manageResources) (ended : (relay.react event).Ends before next after) :
    next.interval = relay.interval ∧ next.nextTick = relay.nextTick := by
  cases event with
  | applicationActive | applicationReceived =>
      obtain ⟨rfl, _⟩ := Act.ends_pure_iff.mp ended
      exact ⟨rfl, rfl⟩
  | launchModule =>
      simp only [react, Act.ends_bind_iff, Act.ends_note_iff, Act.ends_pure_iff] at ended
      obtain ⟨_, _, _, rfl, _⟩ := ended
      exact ⟨rfl, rfl⟩
  | manageResources => exact absurd rfl quiet
  | tupleArrival tuple =>
      have any : relay.Within fun _ => True := ⟨trivial, fun _ _ _ => trivial, fun _ => trivial⟩
      have same := ((accept_modest any tuple).ends rfl ended).2
      have interval := congrArg Relay.interval same
      have tick := congrArg Relay.nextTick same
      exact ⟨interval, tick⟩

theorem Orchestrator.Answers.isRound_eq_false {orchestrator : Orchestrator}
    {cause payload : Payload} {delay : Nat} {id : DeviceId}
    (answers : orchestrator.Answers cause delay payload)
    (keyed : orchestrator.devices.Keyed Device.id) (other : cause.isRound id = false) :
    payload.isRound id = false := by
  cases answers with
  | tick | emission => rfl
  | launch active own listed => exact Payload.isRound_of_opens (launchRequests_opens _ listed)
  | round known =>
      have own := keyed _ _ known
      simp only [Payload.isRound] at other ⊢
      rwa [show (_ : Relay).id = _ from own]
  | tuple carries =>
      rw [Payload.isRound_eq_false_iff]
      rintro rfl
      exact carries.2.elim

structure Orchestrator.Rounding (id : DeviceId) (interval beat : Nat) (orchestrator : Orchestrator) :
    Prop where
  keyed : orchestrator.devices.Keyed Device.id
  relay : ∃ relay, orchestrator.devices.get? id = some (.relay relay) ∧
    relay.interval = interval ∧
    ∀ tick, relay.nextTick = some tick → tick.ticks = (roundRhythm id interval).time beat

theorem Orchestrator.Rounding.of_other {id : DeviceId} {interval beat : Nat}
    {orchestrator next : Orchestrator} {begun reacted : Context} {payload : Payload}
    (rounding : orchestrator.Rounding id interval beat) (running : begun.halted = false)
    (other : payload ≠ .device id .manageResources)
    (reaction : Reaction orchestrator begun payload next reacted) :
    next.Rounding id interval beat := by
  refine ⟨reaction.keyed running rounding.keyed, ?_⟩
  obtain ⟨relay, known, paced, tick⟩ := rounding.relay
  cases reaction with
  | @device there event target changed _ found reacts =>
      by_cases here : id = there
      · subst here
        rw [known] at found
        obtain rfl := Option.some.inj found
        obtain ⟨result, ended, rfl⟩ := Act.ends_map_iff.mp reacts
        have quiet : event ≠ .manageResources := by
          rintro rfl
          exact other rfl
        obtain ⟨interval, next⟩ := Relay.react_nextTick quiet ended
        refine ⟨result, SortedMap.get?_insert_self .., interval.trans paced, ?_⟩
        rw [next]
        exact tick
      · refine ⟨relay, ?_, paced, tick⟩
        rw [SortedMap.get?_insert_of_ne _ _ here]
        exact known
  | _ => exact ⟨relay, known, paced, tick⟩

theorem Orchestrator.Rounding.of_round {id : DeviceId} {interval beat : Nat}
    {orchestrator next : Orchestrator} {begun reacted : Context}
    (rounding : orchestrator.Rounding id interval beat) (running : begun.halted = false)
    (now : begun.now.ticks = (roundRhythm id interval).time beat)
    (reaction : Reaction orchestrator begun (.device id .manageResources) next reacted) :
    next.Rounding id interval (beat + 1) ∧
      ∃ between, begun.Requests [(interval, .device id .manageResources)] between ∧
        reacted.pendingOf (Payload.isRound id) = between.pendingOf (Payload.isRound id) := by
  have keyed := reaction.keyed running rounding.keyed
  obtain ⟨relay, known, rfl, tick⟩ := rounding.relay
  have own : relay.id = id := rounding.keyed id _ known
  cases reaction with
  | unknownDevice unknown =>
      rw [known] at unknown
      cases unknown
  | device found reacts =>
      rw [known] at found
      obtain rfl := Option.some.inj found
      obtain ⟨result, ended, rfl⟩ := Act.ends_map_iff.mp reacts
      obtain ⟨armed, between, rearmed, gains, next, setup⟩ := Relay.manage_course ended
      rcases Relay.rearm_cases running rearmed with
        ⟨_, time, reached, enters, rfl⟩ | ⟨time, asked, ahead, _, _⟩
      · have due := (Time.after?_eq_some_iff.mp reached).2
        rw [own] at enters
        refine ⟨⟨keyed, result, SortedMap.get?_insert_self .., ?_, ?_⟩, between,
          .of_enters running enters due, gains.pendingOf_eq ?_⟩
        · have same := congrArg Relay.interval setup
          exact same
        · intro last found
          rw [next] at found
          obtain rfl := Option.some.inj found
          rw [due, now, Rhythm.time_succ]
          rfl
        · intro delay payload carries
          rw [Payload.isRound_eq_false_iff]
          rintro rfl
          exact carries.2.elim
      · have due := tick time asked
        omega

theorem rounds_kept (id : DeviceId) (interval : Nat) (timer : Event) :
    (roundRhythm id interval).KeptBy timer fun beat scenario =>
      scenario.orchestrator.Rounding id interval beat := by
  intro beat before event after begun reacted awaits rounding dispatches goesOn
  have reaction := dispatches.reaction
  by_cases round : event.payload = .device id .manageResources
  · have marked : (roundRhythm id interval).marks event.payload = true :=
      Payload.isRound_iff.mpr round
    obtain ⟨_, due, _⟩ := awaits.dispatched dispatches marked
    have now := dispatches.begun_now
    rw [round] at reaction
    obtain ⟨next, between, asked, same⟩ :=
      rounding.of_round dispatches.begun_running (by rw [now, due]) reaction
    refine ⟨.of_mark marked fun none => .inl ?_, by rwa [if_pos marked]⟩
    obtain ⟨next, only, _, later, fresh, _⟩ := asked.pendingOf_single none
      (List.filter_cons_of_pos (Payload.isRound_iff.mpr rfl))
    rw [now] at later
    exact ⟨next, same.trans only, later, fresh⟩
  · have other : (roundRhythm id interval).marks event.payload = false :=
      Payload.isRound_eq_false_iff.mpr round
    refine ⟨.of_other other ?_, ?_⟩
    · exact Scenario.pendingOf_reacted dispatches goesOn fun _ _ answers =>
        answers.isRound_eq_false rounding.keyed other
    · rw [if_neg (by simp [other])]
      exact rounding.of_other dispatches.begun_running round reaction

/-! Where both begin, and how often they come in a run that is over. -/

namespace Orchestrator.Starts

variable {orchestrator : Orchestrator} {before launched ticked stopped after : Context}
variable {timer : Event}

theorem awaits_tick (starts : orchestrator.Starts before launched ticked stopped after timer)
    (early : before.now = .zero) : orchestrator.tickRhythm.Awaits timer 0 after := by
  have none : launched.pendingOf Payload.isTick = [] := by
    refine starts.pendingOf_launched ?_
    intro payload opens
    cases payload with
    | controlTick => cases opens
    | _ => rfl
  obtain ⟨next, only, _, due, _, ahead⟩ := starts.ticking.pendingOf_single none rfl
  have last : after.pendingOf Payload.isTick = [next] := by
    rw [starts.rousing.pendingOf_eq ?_, starts.stopping.pendingOf_eq rfl, only]
    rw [List.filter_eq_nil_iff]
    intro request member
    obtain ⟨device, _, rfl⟩ := List.mem_map.mp member
    exact Bool.false_ne_true
  have older := starts.behind
  rw [starts.opening.now, early] at due
  refine .pending last ?_ ⟨fun _ => ⟨rfl, rfl⟩, fun _ => by omega⟩
  simpa [Rhythm.time, tickRhythm, Time.zero] using due

theorem awaits_round (starts : orchestrator.Starts before launched ticked stopped after timer)
    (early : before.now = .zero) {id : DeviceId} (known : id ∈ orchestrator.devices.keys)
    (interval : Nat) : (roundRhythm id interval).Awaits timer 0 after := by
  have none : stopped.pendingOf (Payload.isRound id) = [] := by
    rw [starts.stopping.pendingOf_eq rfl, starts.ticking.pendingOf_eq rfl]
    exact starts.pendingOf_launched fun _ => Payload.isRound_of_opens
  have one : (orchestrator.devices.keys.map fun device =>
      ((0 : Nat), Payload.device device .manageResources)).filter
        (fun request => Payload.isRound id request.2) = [(0, .device id .manageResources)] := by
    rw [List.filter_map]
    exact congrArg _ (SortedMap.filter_keys known)
  obtain ⟨next, only, _, due, behind, _⟩ := starts.rousing.pendingOf_single none one
  have older := starts.ahead
  rw [starts.stopping.now, starts.ticking.now, starts.opening.now, early] at due
  refine .pending only ?_ ⟨fun ahead => by omega, fun first => nomatch first.2⟩
  simpa [Rhythm.time, roundRhythm, Time.zero] using due

end Orchestrator.Starts

theorem rounds_before {beat interval length : Nat} (positive : 0 < length)
    (due : ∀ index, index < beat ↔ index * interval < length) :
    beat = (length - 1) / interval + 1 := by
  have paced : 0 < interval := by
    by_contra still
    obtain rfl : interval = 0 := by omega
    exact absurd ((due beat).mpr (by omega)) (Nat.lt_irrefl beat)
  apply eq_of_forall_lt_iff
  intro index
  rw [due index, Nat.lt_succ_iff, Nat.le_div_iff_mul_le paced]
  omega

/-- How many control ticks there are: the first one at the very end still counts, since it was
entered ahead of the timer. -/
theorem ticks_before {beat interval length : Nat} (paced : 0 < interval) (positive : 0 < length)
    (due : ∀ index, index < beat ↔ (index + 1) * interval < length ∨
      (index + 1) * interval = length ∧ index = 0) :
    beat = (length - 1) / interval + if interval = length then 1 else 0 := by
  by_cases atEnd : interval = length
  · subst atEnd
    rw [if_pos rfl, Nat.div_eq_of_lt (by omega), Nat.zero_add]
    apply eq_of_forall_lt_iff
    intro index
    rw [due index]
    cases index with
    | zero => simp
    | succ index =>
        rw [Nat.succ_mul, Nat.succ_mul]
        omega
  · rw [if_neg atEnd, Nat.add_zero]
    apply eq_of_forall_lt_iff
    intro index
    have fits : index + 1 ≤ (length - 1) / interval ↔ (index + 1) * interval ≤ length - 1 :=
      Nat.le_div_iff_mul_le paced
    rw [due index]
    constructor
    · rintro (inside | ⟨same, rfl⟩)
      · omega
      · omega
    · omega

namespace Scenario

variable {orchestrator : Orchestrator} {started ended : Scenario} {turns : List Turn}

theorem ticks_of_over (rested : orchestrator.Rested)
    (starts : (ofOrchestrator orchestrator).start.outcome = .ok (.ok (), started))
    (reached : started.Reached turns ended) (isOver : ended.simulation.isTerminated = true) :
    ended.orchestrator.controlTicks = (orchestrator.config.runLength - 1) /
        orchestrator.config.controlInterval +
          (if orchestrator.config.controlInterval = orchestrator.config.runLength then 1 else 0) ∧
      timesOf Payload.isTick turns = (List.range ended.orchestrator.controlTicks).map
        fun index => (index + 1) * orchestrator.config.controlInterval := by
  obtain ⟨same, launched, ticked, stopped, timer, stages, underway⟩ :=
    stages_of_over starts reached isOver
  obtain ⟨beat, before, begun, figures, stops, ⟨config, counted⟩, times, due⟩ :=
    Rhythm.course_of_over (orchestrator.ticks_kept timer) rfl underway stages.reached
      (stages.awaits_tick rfl) ⟨by rw [same], by rw [same]; exact rested.ticks⟩ reached isOver
  have last : ended.orchestrator.controlTicks = beat := by
    rw [stops.orchestrator]
    exact counted
  have scheduled (index : Nat) : orchestrator.tickRhythm.time index =
      (index + 1) * orchestrator.config.controlInterval := by
    rw [Nat.succ_mul, Nat.add_comm]
    rfl
  rw [last]
  constructor
  · obtain ⟨paced, positive⟩ := Config.positive_of_validate stages.valid
    refine ticks_before paced positive ?_
    intro index
    rw [due index, Rhythm.Due, scheduled, timer_due stages]
    simp [Orchestrator.tickRhythm]
  · exact times.trans (List.map_congr_left fun index _ => scheduled index)

theorem rounds_of_over (rested : orchestrator.Rested)
    (starts : (ofOrchestrator orchestrator).start.outcome = .ok (.ok (), started))
    (reached : started.Reached turns ended) (isOver : ended.simulation.isTerminated = true)
    {id : DeviceId} {relay : Relay}
    (known : orchestrator.devices.get? id = some (.relay relay)) :
    timesOf (Payload.isRound id) turns =
      (List.range ((orchestrator.config.runLength - 1) / relay.interval + 1)).map
        (· * relay.interval) := by
  obtain ⟨same, launched, ticked, stopped, timer, stages, underway⟩ :=
    stages_of_over starts reached isOver
  have listed : id ∈ orchestrator.devices.keys := SortedMap.mem_keys_iff.mpr ⟨_, known⟩
  have rounding : started.orchestrator.Rounding id relay.interval 0 := by
    rw [same]
    refine ⟨rested.keyed, relay, known, rfl, ?_⟩
    intro tick asked
    rw [show relay.nextTick = none from rested.rounds id _ known] at asked
    cases asked
  obtain ⟨beat, _, _, _, _, _, times, due⟩ :=
    Rhythm.course_of_over (rounds_kept id relay.interval timer) rfl underway stages.reached
      (stages.awaits_round rfl listed relay.interval) rounding reached isOver
  have scheduled (index : Nat) : (roundRhythm id relay.interval).time index =
      index * relay.interval := Nat.zero_add _
  have count : beat = (orchestrator.config.runLength - 1) / relay.interval + 1 := by
    refine rounds_before (Config.positive_of_validate stages.valid).2 ?_
    intro index
    rw [due index, Rhythm.Due, scheduled, timer_due stages]
    simp [roundRhythm]
  rw [← count]
  exact times.trans (List.map_congr_left fun index _ => scheduled index)

end Scenario

/-- Whatever else goes on in a run, the control ticks and the rounds of every relay come exactly on
schedule. -/
theorem Scenario.rounds_on_schedule {orchestrator : Orchestrator} {started ended : Scenario}
    {turns : List Turn} (rested : orchestrator.Rested)
    (starts : (ofOrchestrator orchestrator).start.outcome = .ok (.ok (), started))
    (reached : started.Reached turns ended) (isOver : ended.simulation.isTerminated = true) :
    ended.orchestrator.controlTicks = (orchestrator.config.runLength - 1) /
        orchestrator.config.controlInterval +
          (if orchestrator.config.controlInterval = orchestrator.config.runLength then 1 else 0) ∧
      timesOf Payload.isTick turns = (List.range ended.orchestrator.controlTicks).map
        (fun index => (index + 1) * orchestrator.config.controlInterval) ∧
      ∀ id relay, orchestrator.devices.get? id = some (.relay relay) →
        (∀ turn ∈ turns, (turn.before.orchestrator.relay? id).isSome = true) ∧
          timesOf (Payload.isRound id) turns =
            (List.range ((orchestrator.config.runLength - 1) / relay.interval + 1)).map
              (· * relay.interval) := by
  obtain ⟨counted, times⟩ := ticks_of_over rested starts reached isOver
  refine ⟨counted, times, ?_⟩
  intro id relay known
  obtain ⟨same, _⟩ := stages_of_over starts reached isOver
  have here : (started.orchestrator.relay? id).isSome = true := by
    rw [same]
    simp [Orchestrator.relay?, known, Device.relay?]
  exact ⟨(reached.relay?_isSome here).1, rounds_of_over rested starts reached isOver known⟩

namespace Demo

def drum : Blueprint :=
  { ring with
    config := ⟨45, 45⟩
    relays := [(Relay.named ⟨0⟩ "left").withInterval 15, (Relay.named ⟨1⟩ "right").withParent ⟨0⟩ 0] }

theorem drum_rested : drum.Rested := by
  refine ⟨nofun, ?_⟩
  intro relay member
  simp only [drum, List.mem_cons, List.not_mem_nil, or_false] at member
  rcases member with rfl | rfl
  · rfl
  · rfl

theorem drum_finishes : ∃ built figures ended relay, drum.build.outcome = .ok (.ok built) ∧
    built.run.outcome = .ok (.ok figures, ended) ∧ ended.simulation.isTerminated = true ∧
      built.orchestrator.devices.get? ⟨0⟩ = some (.relay relay) ∧ relay.interval = 15 := by
  have finishes : (drum.after? []).any (fun built =>
      (built.orchestrator.relay? ⟨0⟩).any (fun relay => relay.interval == 15) &&
        built.finish?.any fun finished => finished.2.simulation.isTerminated) = true := by
    decide +kernel
  obtain ⟨scenario, left, finishes⟩ := (Option.any_eq_true _ _).mp finishes
  obtain ⟨built, builds, same⟩ := Blueprint.after?_eq_some left
  cases same
  obtain ⟨paced, finishes⟩ := Bool.and_eq_true_iff.mp finishes
  obtain ⟨relay, known, paced⟩ := (Option.any_eq_true _ _).mp paced
  obtain ⟨figures, ended, ran, isOver⟩ := Scenario.finishes_of_any finishes
  obtain ⟨device, found, relays⟩ := Option.bind_eq_some_iff.mp known
  cases device with
  | recorder => cases relays
  | relay =>
      cases relays
      exact ⟨_, figures, ended, relay, builds, ran, isOver, found, eq_of_beq paced⟩

end Demo

theorem Scenario.rounds_on_schedule_drum : ∃ built started turns ended,
    Demo.drum.build.outcome = .ok (.ok built) ∧ built.start.outcome = .ok (.ok (), started) ∧
      started.Reached turns ended ∧ ended.simulation.isTerminated = true ∧
      ended.orchestrator.controlTicks = 1 ∧ timesOf Payload.isTick turns = [45] ∧
      timesOf (Payload.isRound ⟨0⟩) turns = [0, 15, 30] := by
  obtain ⟨built, figures, ended, relay, builds, ran, isOver, known, paced⟩ := Demo.drum_finishes
  obtain ⟨started, turns, starts, reached, _⟩ := run_course ran
  have config : built.orchestrator.config = ⟨45, 45⟩ := (Blueprint.build_settings builds).1
  have starting : (ofOrchestrator built.orchestrator).start.outcome = .ok (.ok (), started) := by
    rw [Blueprint.build_eq builds]
    exact starts
  obtain ⟨counted, ticks, rounds⟩ :=
    rounds_on_schedule (Demo.drum_rested.of_build builds) starting reached isOver
  obtain ⟨_, managed⟩ := rounds ⟨0⟩ relay known
  rw [config] at counted ticks managed
  have once : ended.orchestrator.controlTicks = 1 := counted
  rw [once] at ticks
  rw [paced] at managed
  exact ⟨built, started, turns, ended, builds, starts, reached, isOver, once, ticks, managed⟩

end FogNetwork
