import FogNetwork.Proofs.Building
import FogNetwork.Proofs.Endings
import FogNetwork.Proofs.Extension
import FogNetwork.Proofs.Launches
import Mathlib.Data.Set.Card
import Mathlib.Order.Interval.Finset.Nat

/-! When the sensors of a run emit, and how often. -/

namespace FogNetwork

def Sensor.Feeds (held : Submission) (sensor : Sensor) : Prop :=
  sensor.application = held.application.id ∧ ∃ edge ∈ held.application.edges,
    edge.kind = .sensor ∧ edge.source = sensor.tupleType

instance (held : Submission) (sensor : Sensor) : Decidable (sensor.Feeds held) :=
  inferInstanceAs (Decidable (_ ∧ _))

/-- Every sensor is registered under its own identifier and has sent nothing yet. -/
structure Orchestrator.Silent (orchestrator : Orchestrator) : Prop where
  keyed : orchestrator.sensors.Keyed Sensor.id
  unsent : orchestrator.sensors.All (·.sent = 0)

theorem Blueprint.silent_of_build {blueprint : Blueprint} {built : Scenario}
    (unsent : ∀ sensor ∈ blueprint.sensors, sensor.sent = 0)
    (builds : blueprint.build.outcome = .ok (.ok built)) : built.orchestrator.Silent := by
  refine ⟨(build_keyed builds).2.1, ?_⟩
  obtain ⟨registered, registers, rest⟩ := build_outcome builds
  obtain ⟨_, _, same⟩ := Orchestrator.register_value registers
  have entered : registered.sensors.All (·.sent = 0) := by
    rw [same]
    exact (SortedMap.all_empty _).enter unsent
  rcases rest with ⟨_, rfl⟩ | ⟨mapped, placement, wires, submitted, _, _, _, submits, rfl⟩
  · exact entered
  · obtain ⟨_, coverage, held⟩ := Orchestrator.submit_value submits
    obtain ⟨_, frame⟩ := Orchestrator.applyWires_frame wires submitted
    rw [Scenario.ofOrchestrator, frame, held]
    exact entered

namespace Sensor

variable {sensor : Sensor} {held : Submission}

theorem Feeds.edge (feeds : sensor.Feeds held) :
    held.application.sensorEdge? sensor.tupleType ≠ none := by
  obtain ⟨_, edge, listed, kind, source⟩ := feeds
  rw [Application.sensorEdge?, Ne, List.find?_eq_none]
  intro none
  exact none edge listed (by simp [kind, source])

theorem Feeds.of_edge {edge : Edge} (own : sensor.application = held.application.id)
    (found : held.application.sensorEdge? sensor.tupleType = some edge) : sensor.Feeds held := by
  have passed := List.find?_some found
  simp only [Bool.and_eq_true, beq_iff_eq] at passed
  exact ⟨own, edge, List.mem_of_find?_eq_some found, passed⟩

end Sensor

/-! One sensor in one turn. -/

def Payload.isTransmit (id : SensorId) : Payload → Bool
  | .transmit other => other == id
  | _ => false

theorem Payload.isTransmit_iff {id : SensorId} {payload : Payload} :
    payload.isTransmit id = true ↔ payload = .transmit id := by
  cases payload <;> simp [isTransmit]

theorem Payload.isTransmit_eq_false_iff {id : SensorId} {payload : Payload} :
    payload.isTransmit id = false ↔ payload ≠ .transmit id := by
  rw [← Bool.not_eq_true, isTransmit_iff]

theorem Payload.opens_of_isTransmit {id : SensorId} {payload : Payload}
    (transmits : payload.isTransmit id = true) : payload.opens = true := by
  rw [isTransmit_iff.mp transmits]
  rfl

theorem Payload.isTransmit_eq_false {id : SensorId} {payload : Payload}
    (quiet : payload.opens = true → payload.isLaunch = true) : payload.isTransmit id = false := by
  rw [isTransmit_eq_false_iff]
  rintro rfl
  cases quiet rfl

theorem Sensor.Emits.pendingOf {sensor : Sensor} {application : Application} {edge : Edge}
    {usage : Usage} {time later : Time} {before sent after : Context}
    (emits : sensor.Emits application edge usage time later before sent after)
    (running : before.halted = false)
    (none : before.pendingOf (Payload.isTransmit sensor.id) = []) :
    ∃ next, after.pendingOf (Payload.isTransmit sensor.id) = [next] ∧
      next.time.ticks = before.now.ticks + sensor.interval ∧
      before.agenda.nextId ≤ next.id.number := by
  have sends := Context.Requests.of_enters (by exact running) emits.sends
    (Time.after?_eq_some_iff.mp emits.reached).2
  have now : sent.now = before.now := sends.now
  have goesOn := emits.goesOn
  rw [← now] at goesOn
  have arms := Context.Requests.of_enters (sends.halted.trans running) emits.arms
    (Time.after?_eq_some_iff.mp goesOn).2
  obtain ⟨next, only, _, due, fresh, _⟩ := arms.pendingOf_single
    ((sends.pendingOf_eq rfl).trans none) (List.filter_cons_of_pos (Payload.isTransmit_iff.mpr rfl))
  have nextId := sends.nextId
  rw [now] at due
  exact ⟨next, only, due, by simp only [List.length_singleton] at nextId; omega⟩

theorem Reaction.sensor_cases {orchestrator next : Orchestrator} {begun reacted : Context}
    {payload : Payload} (reaction : Reaction orchestrator begun payload next reacted)
    (running : begun.halted = false) {id : SensorId} {sensor : Sensor}
    (known : orchestrator.sensors.get? id = some sensor) :
    (payload = .transmit id ∧ ∃ held edge usage time later sent,
        orchestrator.active = some held ∧ sensor.Feeds held ∧
        sensor.Emits held.application edge usage time later begun sent reacted ∧
        next.sensors.get? id = some { sensor with sent := sensor.sent + 1 }) ∨
      ((payload = .transmit id → ∀ held, orchestrator.active = some held → ¬sensor.Feeds held) ∧
        next.sensors.get? id = some sensor) := by
  cases reaction with
  | @sensor other found changed application _ knownToo held? own reacts =>
      obtain ⟨held, active, rfl⟩ := Option.map_eq_some_iff.mp held?
      by_cases here : id = other
      · subst here
        rw [known] at knownToo
        obtain rfl := Option.some.inj knownToo
        rcases Sensor.transmit_ends running reacts with
          ⟨useless, rfl, rfl⟩ | ⟨edge, usage, time, later, sent, emits, rfl⟩
        · refine .inr ⟨?_, SortedMap.get?_insert_self ..⟩
          intro _ other active' feeds
          rw [active] at active'
          obtain rfl := Option.some.inj active'
          exact feeds.edge useless
        · exact .inl ⟨rfl, held, edge, usage, time, later, sent, active, .of_edge own emits.feeds,
            emits, SortedMap.get?_insert_self ..⟩
      · refine .inr ⟨?_, ?_⟩
        · intro same
          cases same
          exact absurd rfl here
        · rw [SortedMap.get?_insert_of_ne _ _ here]
          exact known
  | @silent other mute =>
      refine .inr ⟨?_, known⟩
      rintro ⟨⟩ held active feeds
      exact mute sensor held.application known (by simp [Orchestrator.application?, active]) feeds.1
  | _ =>
      refine .inr ⟨?_, known⟩
      rintro ⟨⟩

theorem Reaction.sensors_keyed {orchestrator next : Orchestrator} {begun reacted : Context}
    {payload : Payload} (reaction : Reaction orchestrator begun payload next reacted)
    (running : begun.halted = false) (keyed : orchestrator.sensors.Keyed Sensor.id) :
    next.sensors.Keyed Sensor.id := by
  cases reaction with
  | sensor known _ _ reacts =>
      have own := keyed _ _ known
      refine keyed.insert ?_
      rcases Sensor.transmit_ends running reacts with ⟨_, rfl, _⟩ | ⟨_, _, _, _, _, _, rfl⟩
      · exact own
      · exact own
  | _ => exact keyed

theorem Orchestrator.Answers.isTransmit_eq_false {orchestrator : Orchestrator}
    {cause payload : Payload} {delay : Nat} {id : SensorId}
    (answers : orchestrator.Answers cause delay payload)
    (keyed : orchestrator.sensors.Keyed Sensor.id) (quiet : cause.isLaunch = false)
    (other : cause.isTransmit id = false) : payload.isTransmit id = false := by
  cases answers with
  | tick | round => rfl
  | launch => cases quiet
  | emission known =>
      rw [Payload.isTransmit, keyed _ _ known]
      exact other
  | tuple carries =>
      rw [Payload.isTransmit_eq_false_iff]
      rintro rfl
      exact carries.2.elim

/-! One sensor in a whole run. -/

namespace Scenario

variable {started scenario launched ended before after : Scenario} {turns late : List Turn}
variable {orchestrator : Orchestrator} {held : Submission} {sensor : Sensor} {id : SensorId}
variable {event timer : Event} {time : Nat}

def sentBy (id : SensorId) (scenario : Scenario) : Nat :=
  ((scenario.orchestrator.sensors.get? id).map (·.sent)).getD 0

def emissions (id : SensorId) (turns : List Turn) : List Nat :=
  (turns.filter fun turn => turn.before.sentBy id < turn.after.sentBy id).map
    (·.event.time.ticks)

theorem emissions_append (id : SensorId) (early late : List Turn) :
    emissions id (early ++ late) = emissions id early ++ emissions id late := by
  simp [emissions]

theorem sentBy_of_get? (known : scenario.orchestrator.sensors.get? id = some sensor) :
    scenario.sentBy id = sensor.sent := by
  simp [sentBy, known]

theorem Reached.feeds (active : started.orchestrator.active = some held)
    (known : started.orchestrator.sensors.get? id = some sensor) (feeds : sensor.Feeds held)
    (reached : started.Reached turns scenario) :
    emissions id turns = timesOf (Payload.isTransmit id) turns ∧
      scenario.orchestrator.sensors.get? id =
        some { sensor with sent := sensor.sent + (emissions id turns).length } := by
  refine (reached.keeps (motive := fun turns scenario =>
    scenario.orchestrator.active = some held ∧
      emissions id turns = timesOf (Payload.isTransmit id) turns ∧
      scenario.orchestrator.sensors.get? id =
        some { sensor with sent := sensor.sent + (emissions id turns).length })
    ⟨active, rfl, known⟩ ?_).2
  intro turns before event after begun reacted ⟨active, times, known⟩ dispatches
  have reaction := dispatches.reaction
  refine ⟨reaction.keeps.1.trans active, ?_⟩
  have count := sentBy_of_get? known
  rw [emissions_append, timesOf_append, times]
  rcases reaction.sensor_cases dispatches.begun_running known with
    ⟨transmits, _, _, _, _, _, _, _, _, _, next⟩ | ⟨quiet, next⟩
  · have more := sentBy_of_get? next
    have one : emissions id [⟨event, before, after⟩] = [event.time.ticks] := by
      simp [emissions, count, more]
    rw [one, timesOf_of_mark (Payload.isTransmit_iff.mpr transmits)]
    refine ⟨rfl, ?_⟩
    rw [next, ← times, List.length_append]
    rfl
  · have same := sentBy_of_get? next
    have none : emissions id [⟨event, before, after⟩] = [] := by
      simp [emissions, count, same]
    have other : event.payload ≠ .transmit id := fun transmits => quiet transmits held active feeds
    rw [none, timesOf_of_other (Payload.isTransmit_eq_false_iff.mpr other), List.append_nil]
    exact ⟨rfl, times ▸ next⟩

theorem Reached.mute (known : started.orchestrator.sensors.get? id = some sensor)
    (mute : ∀ held, started.orchestrator.active = some held → ¬sensor.Feeds held)
    (reached : started.Reached turns scenario) :
    emissions id turns = [] ∧ scenario.orchestrator.sensors.get? id = some sensor := by
  refine (reached.keeps (motive := fun turns scenario =>
    scenario.orchestrator.active = started.orchestrator.active ∧ emissions id turns = [] ∧
      scenario.orchestrator.sensors.get? id = some sensor) ⟨rfl, rfl, known⟩ ?_).2
  intro turns before event after begun reacted ⟨active, silent, known⟩ dispatches
  have reaction := dispatches.reaction
  refine ⟨reaction.keeps.1.trans active, ?_⟩
  rcases reaction.sensor_cases dispatches.begun_running known with
    ⟨_, held, _, _, _, _, _, here, feeds, _⟩ | ⟨_, next⟩
  · rw [active] at here
    exact absurd feeds (mute held here)
  · refine ⟨?_, next⟩
    rw [emissions_append, silent, emissions]
    simp [sentBy_of_get? known, sentBy_of_get? next]

end Scenario

def Sensor.rhythm (held : Submission) (sensor : Sensor) : Rhythm where
  marks := Payload.isTransmit sensor.id
  first := held.delay + sensor.interval
  step := sensor.interval
  early := held.delay = 0

structure Scenario.Feeding (held : Submission) (sensor : Sensor) (scenario : Scenario) : Prop where
  active : scenario.orchestrator.active = some held
  keyed : scenario.orchestrator.sensors.Keyed Sensor.id
  sensor : ∃ count, scenario.orchestrator.sensors.get? sensor.id =
    some { sensor with sent := count }
  once : scenario.simulation.context.pendingOf Payload.isLaunch = []

theorem Sensor.rhythm_kept {held : Submission} {sensor : Sensor} (feeds : sensor.Feeds held)
    (timer : Event) :
    (sensor.rhythm held).KeptBy timer fun _ scenario => scenario.Feeding held sensor := by
  intro beat before event after begun reacted _ feeding dispatches goesOn
  obtain ⟨quiet, once⟩ := Scenario.never_turn (fun _ _ _ _ answers _ => answers.isLaunch_eq_false)
    feeding.once dispatches
  have reaction := dispatches.reaction
  have active := reaction.keeps.1.trans feeding.active
  have keyed := reaction.sensors_keyed dispatches.begun_running feeding.keyed
  obtain ⟨count, known⟩ := feeding.sensor
  rcases reaction.sensor_cases dispatches.begun_running known with
    ⟨transmits, _, _, _, _, _, _, _, _, emits, next⟩ | ⟨silent, next⟩
  · refine ⟨.of_mark (Payload.isTransmit_iff.mpr transmits) fun none => .inl ?_, active, keyed,
      ⟨_, next⟩, once⟩
    obtain ⟨next, only, due, fresh⟩ := emits.pendingOf dispatches.begun_running none
    have now := dispatches.begun_now
    rw [now] at due
    exact ⟨next, only, due, fresh⟩
  · have other : event.payload.isTransmit sensor.id = false :=
      Payload.isTransmit_eq_false_iff.mpr fun transmits =>
        silent transmits held feeding.active feeds
    refine ⟨.of_other other ?_, active, keyed, ⟨_, next⟩, once⟩
    exact Scenario.pendingOf_reacted dispatches goesOn fun _ _ answers =>
      answers.isTransmit_eq_false feeding.keyed quiet other

theorem Orchestrator.launchRequests_transmit {orchestrator : Orchestrator} {held : Submission}
    {sensor : Sensor} (keyed : orchestrator.sensors.Keyed Sensor.id)
    (known : orchestrator.sensors.get? sensor.id = some sensor)
    (own : sensor.application = held.application.id) :
    (orchestrator.launchRequests held).filter (·.2.isTransmit sensor.id) =
      [(sensor.interval, .transmit sensor.id)] := by
  have told : ((briefing held orchestrator.devices.keys).map (0, ·)).filter
      (fun request : Nat × Payload => request.2.isTransmit sensor.id) = [] := by
    rw [List.filter_eq_nil_iff]
    intro request member
    obtain ⟨payload, listed, rfl⟩ := List.mem_map.mp member
    have brief := briefing_isBrief payload listed
    cases payload with
    | transmit => cases brief
    | _ => exact Bool.false_ne_true
  have armed : (orchestrator.feeders held).filter (·.id == sensor.id) = [sensor] := by
    rw [feeders, List.filter_filter]
    simp only [Bool.and_comm (_ == sensor.id)]
    rw [← List.filter_filter, keyed.filter_values known]
    exact List.filter_cons_of_pos (by simpa using own)
  rw [launchRequests, List.filter_append, told, List.nil_append, List.filter_map]
  exact congrArg _ armed

theorem Scenario.Launched.awaits {orchestrator : Orchestrator} {held : Submission} {timer : Event}
    {time : Nat} {late : List Turn} {launched ended : Scenario} {sensor : Sensor}
    (course : Launched orchestrator held time timer late launched ended)
    (early : time = held.delay) (keyed : orchestrator.sensors.Keyed Sensor.id)
    (known : orchestrator.sensors.get? sensor.id = some sensor)
    (own : sensor.application = held.application.id) :
    (sensor.rhythm held).Awaits timer 0 launched.simulation.context := by
  obtain ⟨next, only, due, order⟩ := course.pendingOf_single
    (fun _ => Payload.opens_of_isTransmit) (Orchestrator.launchRequests_transmit keyed known own)
  refine .pending only ?_ ?_
  · simp [Rhythm.time, Sensor.rhythm, due, early]
  · simp [Sensor.rhythm, order]

/-- How many emissions there are. The first one at the very end still counts if the run was launched
at once, since it was entered ahead of the timer then. -/
theorem emissions_before {beat delay interval length : Nat} (positive : 0 < length)
    (due : ∀ index, index < beat ↔ delay + (index + 1) * interval < length ∨
      delay + (index + 1) * interval = length ∧ index = 0 ∧ delay = 0) :
    beat = {k | 1 ≤ k ∧ delay + k * interval < length}.ncard +
      if delay = 0 ∧ interval = length then 1 else 0 := by
  by_cases atEnd : delay = 0 ∧ interval = length
  · obtain ⟨rfl, rfl⟩ := atEnd
    have none : {k | 1 ≤ k ∧ 0 + k * interval < interval} = (∅ : Set ℕ) := by
      ext k
      simp only [Set.mem_ofPred_eq, Set.mem_empty_iff_false, iff_false, not_and, Nat.zero_add]
      intro some inside
      exact absurd (Nat.le_mul_of_pos_left interval some) (by omega)
    rw [none, Set.ncard_empty, if_pos ⟨rfl, rfl⟩]
    apply eq_of_forall_lt_iff
    intro index
    rw [due index]
    cases index with
    | zero => simp
    | succ index =>
        rw [Nat.succ_mul, Nat.succ_mul]
        omega
  · have inside (index : Nat) : index < beat ↔ delay + (index + 1) * interval < length := by
      rw [due index, or_iff_left]
      rintro ⟨same, rfl, rfl⟩
      exact atEnd ⟨rfl, by omega⟩
    have counted : {k | 1 ≤ k ∧ delay + k * interval < length} = ↑(Finset.Icc 1 beat) := by
      ext k
      cases k with
      | zero => simp
      | succ k =>
          have due := inside k
          simp only [Set.mem_ofPred_eq, Finset.coe_Icc, Set.mem_Icc]
          omega
    rw [counted, Set.ncard_coe_finset, if_neg atEnd, Nat.card_Icc]
    rfl

namespace Scenario

variable {orchestrator : Orchestrator} {held : Submission} {started ended : Scenario}
variable {turns : List Turn} {id : SensorId} {sensor : Sensor}

theorem emissions_of_over (silent : orchestrator.Silent)
    (starts : (ofOrchestrator orchestrator).start.outcome = .ok (.ok (), started))
    (reached : started.Reached turns ended) (isOver : ended.simulation.isTerminated = true)
    (active : orchestrator.active = some held)
    (known : orchestrator.sensors.get? id = some sensor) (feeds : sensor.Feeds held) :
    (emissions id turns).length =
        {k | 1 ≤ k ∧ held.delay + k * sensor.interval < orchestrator.config.runLength}.ncard +
          (if held.delay = 0 ∧ sensor.interval = orchestrator.config.runLength then 1 else 0) ∧
      emissions id turns = (List.range (emissions id turns).length).map
        fun index => held.delay + (index + 1) * sensor.interval := by
  obtain rfl : sensor.id = id := silent.keyed id sensor known
  obtain ⟨same, launched, ticked, stopped, timer, stages, underway⟩ :=
    stages_of_over starts reached isOver
  have times := (reached.feeds (by rw [same]; exact active) (by rw [same]; exact known) feeds).1
  have positive := (Config.positive_of_validate stages.valid).2
  rcases launch_course active same stages underway reached isOver with
    ⟨beyond, none⟩ | ⟨early, late, opened, rfl, ahead, leads, course⟩
  · have never : emissions sensor.id turns = [] := by
      rw [times]
      refine timesOf_eq_nil fun turn member => Payload.isTransmit_eq_false fun opens => ?_
      rw [none turn member] at opens
      cases opens
    rw [never]
    refine ⟨emissions_before positive ?_, rfl⟩
    intro index
    simp only [List.length_nil, Nat.not_lt_zero, false_iff]
    omega
  · have feeding : opened.Feeding held sensor := by
      refine ⟨course.active, ?_, ⟨sensor.sent, ?_⟩, course.once⟩
      · rw [course.sensors]
        exact silent.keyed
      · rw [course.sensors]
        exact known
    obtain ⟨beat, _, _, _, _, _, scheduled, due⟩ :=
      Rhythm.course_of_over (Sensor.rhythm_kept feeds timer) rfl course.underway stages.reached
        (course.awaits (Nat.zero_add _) silent.keyed known feeds.1) feeding course.reached isOver
    have time (index : Nat) : (sensor.rhythm held).time index =
        held.delay + (index + 1) * sensor.interval := by
      rw [Nat.succ_mul, Nat.add_comm (index * _), ← Nat.add_assoc]
      rfl
    have all : emissions sensor.id (early ++ late) = (List.range beat).map fun index =>
        held.delay + (index + 1) * sensor.interval := by
      rw [times, timesOf_append, timesOf_eq_nil fun turn member =>
        Payload.isTransmit_eq_false (ahead turn member), List.nil_append]
      exact scheduled.trans (List.map_congr_left fun index _ => time index)
    rw [all, List.length_map, List.length_range]
    refine ⟨emissions_before positive ?_, rfl⟩
    intro index
    rw [due index, Rhythm.Due, time, timer_due stages]
    simp [Sensor.rhythm]

end Scenario

theorem Reaction.sensors_keys_eq {orchestrator next : Orchestrator} {begun reacted : Context}
    {payload : Payload} (reaction : Reaction orchestrator begun payload next reacted) :
    next.sensors.keys = orchestrator.sensors.keys := by
  cases reaction with
  | sensor known => exact SortedMap.keys_insert_of_some known _
  | _ => rfl

theorem Scenario.Reached.sensors_keys_eq {started scenario : Scenario} {turns : List Turn}
    (reached : started.Reached turns scenario) :
    scenario.orchestrator.sensors.keys = started.orchestrator.sensors.keys :=
  (reached.unchanged (·.sensors.keys) fun _ reaction => reaction.sensors_keys_eq).2

/-- A sensor of the application emits at regular times after the launch, as often as there is time
for it, and other sensors never do. The figures count what all of them have sent. -/
theorem Scenario.emissions_on_schedule {orchestrator : Orchestrator} {started ended : Scenario}
    {turns : List Turn} (silent : orchestrator.Silent)
    (starts : (ofOrchestrator orchestrator).start.outcome = .ok (.ok (), started))
    (reached : started.Reached turns ended) (isOver : ended.simulation.isTerminated = true) :
    (∀ id sensor, orchestrator.sensors.get? id = some sensor →
      ended.orchestrator.sensors.get? id = some { sensor with sent := ended.sentBy id } ∧
      (∀ held, orchestrator.active = some held → sensor.Feeds held →
        ended.sentBy id = {k | 1 ≤ k ∧
            held.delay + k * sensor.interval < orchestrator.config.runLength}.ncard +
          (if held.delay = 0 ∧ sensor.interval = orchestrator.config.runLength then 1 else 0) ∧
        emissions id turns = (List.range (ended.sentBy id)).map
          fun index => held.delay + (index + 1) * sensor.interval) ∧
      ((∀ held, orchestrator.active = some held → ¬sensor.Feeds held) →
        ended.sentBy id = 0 ∧ emissions id turns = [])) ∧
    ∃ figures, ended.orchestrator.snapshot = some figures ∧
      figures.tuplesSentBySensors = (orchestrator.sensors.keys.map (ended.sentBy ·)).sum := by
  obtain ⟨same, _, _, _, timer, _, underway⟩ := stages_of_over starts reached isOver
  have sensors : started.orchestrator.sensors = orchestrator.sensors := by rw [same]
  have active : started.orchestrator.active = orchestrator.active := by rw [same]
  refine ⟨?_, ?_⟩
  · intro id sensor known
    have unsent : sensor.sent = 0 := silent.unsent id sensor known
    have begun := known
    rw [← sensors] at begun
    by_cases fed : ∃ held, orchestrator.active = some held ∧ sensor.Feeds held
    · obtain ⟨held, own, feeds⟩ := fed
      obtain ⟨_, last⟩ := reached.feeds (active.trans own) begun feeds
      rw [unsent, Nat.zero_add] at last
      obtain ⟨count, times⟩ := emissions_of_over silent starts reached isOver own known feeds
      have sent : ended.sentBy id = (emissions id turns).length := sentBy_of_get? last
      rw [← sent] at count times last
      refine ⟨last, ?_, fun mute => absurd feeds (mute held own)⟩
      intro other own' _
      rw [own] at own'
      obtain rfl := Option.some.inj own'
      exact ⟨count, times⟩
    · have mute : ∀ held, orchestrator.active = some held → ¬sensor.Feeds held :=
        fun held own feeds => fed ⟨held, own, feeds⟩
      obtain ⟨none, last⟩ := reached.mute begun (by rw [active]; exact mute)
      have zero : ended.sentBy id = 0 := (sentBy_of_get? last).trans unsent
      refine ⟨?_, fun held own feeds => absurd feeds (mute held own), fun _ => ⟨zero, none⟩⟩
      rw [last, zero, ← unsent]
  · obtain ⟨_, before, begun, figures, _, leads, stops⟩ := reached.stopped underway isOver
    refine ⟨figures, congrArg Orchestrator.snapshot stops.orchestrator, ?_⟩
    have total : before.orchestrator.sent = ended.orchestrator.sent := by rw [stops.orchestrator]; rfl
    rw [Orchestrator.figures_sent stops.taken, total, Orchestrator.sent, SortedMap.total_eq_keys,
      reached.sensors_keys_eq, sensors]
    rfl

namespace Demo

def pulse : Blueprint :=
  { ring with sensors := [((Sensor.named ⟨0⟩ "player" "BALL" "ring").attachedTo ⟨0⟩ 0).every 45] }

theorem pulse_finishes : ∃ built figures ended held sensor,
    pulse.build.outcome = .ok (.ok built) ∧ built.run.outcome = .ok (.ok figures, ended) ∧
      ended.simulation.isTerminated = true ∧ built.orchestrator.active = some held ∧
      built.orchestrator.sensors.get? ⟨0⟩ = some sensor ∧ sensor.Feeds held ∧
      held.delay = 0 ∧ sensor.interval = 45 := by
  have finishes : (pulse.after? []).any (fun built =>
      built.orchestrator.active.any (fun held =>
        (built.orchestrator.sensors.get? ⟨0⟩).any fun sensor =>
          decide (sensor.Feeds held ∧ held.delay = 0 ∧ sensor.interval = 45)) &&
        built.finish?.any fun finished => finished.2.simulation.isTerminated) = true := by
    decide +kernel
  obtain ⟨scenario, left, finishes⟩ := (Option.any_eq_true _ _).mp finishes
  obtain ⟨built, builds, same⟩ := Blueprint.after?_eq_some left
  cases same
  obtain ⟨fed, finishes⟩ := Bool.and_eq_true_iff.mp finishes
  obtain ⟨held, active, fed⟩ := (Option.any_eq_true _ _).mp fed
  obtain ⟨sensor, known, fed⟩ := (Option.any_eq_true _ _).mp fed
  obtain ⟨figures, ended, ran, isOver⟩ := Scenario.finishes_of_any finishes
  exact ⟨_, figures, ended, held, sensor, builds, ran, isOver, active, known,
    of_decide_eq_true fed⟩

end Demo

theorem Scenario.emissions_on_schedule_pulse : ∃ (built started : Scenario) (turns : List Turn)
    (ended : Scenario) (figures : Snapshot),
    Demo.pulse.build.outcome = .ok (.ok built) ∧ built.start.outcome = .ok (.ok (), started) ∧
      started.Reached turns ended ∧ ended.simulation.isTerminated = true ∧
      ended.sentBy ⟨0⟩ = 1 ∧ emissions ⟨0⟩ turns = [45] ∧
      ended.orchestrator.snapshot = some figures := by
  obtain ⟨built, _, ended, held, sensor, builds, ran, isOver, active, known, feeds, delay,
    interval⟩ := Demo.pulse_finishes
  obtain ⟨started, turns, starts, reached, _⟩ := run_course ran
  have starting : (ofOrchestrator built.orchestrator).start.outcome = .ok (.ok (), started) := by
    rw [Blueprint.build_eq builds]
    exact starts
  have silent : built.orchestrator.Silent := by
    refine Blueprint.silent_of_build ?_ builds
    intro sensor member
    obtain rfl := List.mem_singleton.mp member
    rfl
  obtain ⟨each, figures, taken, _⟩ := emissions_on_schedule silent starting reached isOver
  obtain ⟨_, fed, _⟩ := each ⟨0⟩ sensor known
  obtain ⟨count, times⟩ := fed held active feeds
  have config : built.orchestrator.config = ⟨50, 45⟩ := (Blueprint.build_settings builds).1
  rw [config, delay, interval, if_pos ⟨rfl, rfl⟩] at count
  have never : {k | 1 ≤ k ∧ 0 + k * 45 < 45} = (∅ : Set ℕ) := by
    ext k
    simp only [Set.mem_ofPred_eq, Set.mem_empty_iff_false, iff_false]
    omega
  have once : ended.sentBy ⟨0⟩ = 1 := by
    rw [count, never, Set.ncard_empty]
  rw [once, delay, interval] at times
  exact ⟨built, started, turns, ended, figures, builds, starts, reached, isOver, once, times,
    taken⟩

end FogNetwork
