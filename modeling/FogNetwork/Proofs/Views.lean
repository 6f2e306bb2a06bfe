import FogNetwork.Proofs.Runs

/-! Two runs side by side. What the entities do depends on the agenda only through a view of it, so
two runs whose agendas look alike go on alike. -/

namespace FogNetwork

/-- A partial look at an agenda. How it looks when an event has been entered is told by how it
looked before. -/
structure Agenda.View (V : Type) where
  see : Agenda → V
  put : Time → Payload → V → V
  entered : ∀ {agenda next : Agenda} {time : Time} {payload : Payload} {id : EventId},
    agenda.enter? time payload = some (id, next) → see next = put time payload (see agenda)

/-- Two running contexts that are equal but for their clocks and for what the view leaves out. -/
structure Context.Level {V : Type} (view : Agenda.View V) (left right : Context) : Prop where
  running : left.halted = false ∧ right.halted = false
  timings : left.timings = right.timings
  usage : left.usage = right.usage
  agenda : view.see left.agenda = view.see right.agenda

structure Context.Alike {V : Type} (view : Agenda.View V) (left right : Context) : Prop
    extends Context.Level view left right where
  now : left.now = right.now

theorem Act.scheduleAfter_ends_iff {before after : Context} {delay : Nat} {payload : Payload}
    {id : EventId} :
    (scheduleAfter delay payload).Ends before id after ↔
      ∃ time, before.now.after? delay = some time ∧
        (scheduleAt time payload).Ends before id after := by
  simp only [scheduleAfter, ends_bind_iff, ends_now_iff, ends_lift_iff,
    Run.outcome_orFault_eq_ok_iff]
  constructor
  · rintro ⟨_, _, ⟨rfl, rfl⟩, time, _, ⟨reached, rfl⟩, ended⟩
    exact ⟨time, reached, ended⟩
  · rintro ⟨time, reached, ended⟩
    exact ⟨_, _, ⟨rfl, rfl⟩, time, _, ⟨reached, rfl⟩, ended⟩

theorem Act.Ends.unique {α : Type} {act : Act α} {before after other : Context} {value result : α}
    (ended : act.Ends before value after) (endedToo : act.Ends before result other) :
    value = result ∧ after = other := by
  rw [Act.Ends, ended] at endedToo
  cases endedToo
  exact ⟨rfl, rfl⟩

section Views

variable {α V : Type} {view : Agenda.View V} {left right leftAfter rightAfter : Context}

namespace Context.Level

theorem symm (level : left.Level view right) : right.Level view left :=
  ⟨level.running.symm, level.timings.symm, level.usage.symm, level.agenda.symm⟩

end Context.Level

namespace Context.Alike

theorem refl {context : Context} (running : context.halted = false) : context.Alike view context :=
  ⟨⟨⟨running, running⟩, rfl, rfl, rfl⟩, rfl⟩

theorem scheduleAt (alike : left.Alike view right) {time late : Time} {payload : Payload}
    {id other : EventId} (same : ∀ seen, view.put time payload seen = view.put late payload seen)
    (ended : (Act.scheduleAt time payload).Ends left id leftAfter)
    (endedToo : (Act.scheduleAt late payload).Ends right other rightAfter) :
    leftAfter.Alike view rightAfter := by
  obtain ⟨_, ⟨halted, _⟩ | ⟨_, agenda, entered, rfl⟩⟩ := Act.scheduleAt_cases ended
  · rw [alike.running.1] at halted
    cases halted
  obtain ⟨_, ⟨halted, _⟩ | ⟨_, agendaToo, enteredToo, rfl⟩⟩ := Act.scheduleAt_cases endedToo
  · rw [alike.running.2] at halted
    cases halted
  refine ⟨⟨alike.running, alike.timings, alike.usage, ?_⟩, alike.now⟩
  rw [view.entered entered, view.entered enteredToo, alike.agenda, same]

theorem scheduleAfter (alike : left.Alike view right) {delay late : Nat} {payload : Payload}
    {id other : EventId}
    (same : ∀ time other seen, left.now.after? delay = some time →
      left.now.after? late = some other → view.put time payload seen = view.put other payload seen)
    (ended : (Act.scheduleAfter delay payload).Ends left id leftAfter)
    (endedToo : (Act.scheduleAfter late payload).Ends right other rightAfter) :
    leftAfter.Alike view rightAfter := by
  obtain ⟨time, reached, ended⟩ := Act.scheduleAfter_ends_iff.mp ended
  obtain ⟨other, reachedToo, endedToo⟩ := Act.scheduleAfter_ends_iff.mp endedToo
  rw [← alike.now] at reachedToo
  exact alike.scheduleAt (fun seen => same time other seen reached reachedToo) ended endedToo

end Context.Alike

/-- What is done without a look at the whole context, or at event identifiers, is done alike where
the contexts are alike. -/
theorem Act.Modest.alike {now : Time} {fits : Nat → Payload → Prop} {act : Act α}
    {result : α → Prop} {value other : α} (modest : Modest now fits act result)
    (alike : left.Alike view right) (here : left.now = now)
    (ended : act.Ends left value leftAfter) (endedToo : act.Ends right other rightAfter) :
    leftAfter.Alike view rightAfter ∧ value = other := by
  induction modest generalizing left right leftAfter rightAfter with
  | pure =>
      obtain ⟨rfl, rfl⟩ := ends_pure_iff.mp ended
      obtain ⟨rfl, rfl⟩ := ends_pure_iff.mp endedToo
      exact ⟨alike, rfl⟩
  | bind first _ early late =>
      obtain ⟨_, _, began, ended⟩ := ends_bind_iff.mp ended
      obtain ⟨_, _, beganToo, endedToo⟩ := ends_bind_iff.mp endedToo
      obtain ⟨gains, own⟩ := first.ends here began
      obtain ⟨between, rfl⟩ := early alike here began beganToo
      exact late _ own between (gains.now.trans here) ended endedToo
  | mono _ _ _ ih => exact ih alike here ended endedToo
  | look =>
      obtain ⟨rfl, rfl⟩ := ends_now_iff.mp ended
      obtain ⟨rfl, rfl⟩ := ends_now_iff.mp endedToo
      exact ⟨alike, alike.now⟩
  | note =>
      obtain rfl := ends_note_iff.mp ended
      obtain rfl := ends_note_iff.mp endedToo
      exact ⟨alike, rfl⟩
  | withTimings work =>
      obtain ⟨rfl, rfl⟩ := ends_withTimings_iff.mp ended
      obtain ⟨rfl, rfl⟩ := ends_withTimings_iff.mp endedToo
      rw [alike.timings]
      exact ⟨⟨⟨alike.running, rfl, alike.usage, alike.agenda⟩, alike.now⟩, rfl⟩
  | changeTimings change =>
      obtain rfl := ends_changeTimings_iff.mp ended
      obtain rfl := ends_changeTimings_iff.mp endedToo
      rw [alike.timings]
      exact ⟨⟨⟨alike.running, rfl, alike.usage, alike.agenda⟩, alike.now⟩, rfl⟩
  | changeUsage change =>
      obtain rfl := ends_changeUsage_iff.mp ended
      obtain rfl := ends_changeUsage_iff.mp endedToo
      rw [alike.usage]
      exact ⟨⟨⟨alike.running, alike.timings, rfl, alike.agenda⟩, alike.now⟩, rfl⟩
  | transfer size =>
      obtain ⟨usage, paid, rfl⟩ := ends_transfer_iff.mp ended
      obtain ⟨usageToo, paidToo, rfl⟩ := ends_transfer_iff.mp endedToo
      rw [alike.usage, paidToo] at paid
      cases paid
      exact ⟨⟨⟨alike.running, alike.timings, rfl, alike.agenda⟩, alike.now⟩, rfl⟩
  | reach =>
      obtain ⟨found, rfl⟩ := ends_lift_iff.mp ended
      obtain ⟨foundToo, rfl⟩ := ends_lift_iff.mp endedToo
      rw [found] at foundToo
      cases foundToo
      exact ⟨alike, rfl⟩
  | scheduleAt _ _ _ ih =>
      obtain ⟨_, _, scheduled, ended⟩ := ends_bind_iff.mp ended
      obtain ⟨_, _, scheduledToo, endedToo⟩ := ends_bind_iff.mp endedToo
      have between := alike.scheduleAt (fun _ => rfl) scheduled scheduledToo
      refine ih between ?_ ended endedToo
      obtain ⟨_, ⟨_, rfl⟩ | ⟨_, _, _, rfl⟩⟩ := scheduleAt_cases scheduled
      · exact here
      · exact here

end Views

namespace Orchestrator

variable {α V : Type} {view : Agenda.View V} {left right leftAfter rightAfter : Context}
variable {orchestrator next other : Orchestrator} {before after : Context}

theorem handle_ends_congr {event twin : Event} (same : event.payload = twin.payload)
    (ended : (orchestrator.handle event).Ends before next after) :
    (orchestrator.handle twin).Ends before next after := by
  simp only [handle, Act.ends_bind_iff, Act.ends_now_iff, Act.ends_note_iff] at ended ⊢
  obtain ⟨_, _, ⟨rfl, rfl⟩, _, _, rfl, ended⟩ := ended
  rw [same] at ended
  exact ⟨_, _, ⟨rfl, rfl⟩, (), _, rfl, ended⟩

theorem handle_alike {event twin : Event} (same : event.payload = twin.payload)
    (running : event.payload ≠ .stop) (alike : left.Alike view right)
    (ended : (orchestrator.handle event).Ends left next leftAfter)
    (endedToo : (orchestrator.handle twin).Ends right other rightAfter) :
    leftAfter.Alike view rightAfter ∧ next = other := by
  have endedToo := handle_ends_congr same.symm endedToo
  by_cases ticks : event.payload = .controlTick
  · exact (orchestrator.handle_modest_of_tick ticks).alike alike rfl ended endedToo
  · exact (handle_modest orchestrator.within_any running ticks).alike alike rfl ended endedToo

/-- A change to an orchestrator that leaves alone what its reactions to most events are about: the
entities and the application. -/
structure Aside (change : Orchestrator → Orchestrator) : Prop where
  devices (orchestrator : Orchestrator) : (change orchestrator).devices = orchestrator.devices
  sensors (orchestrator : Orchestrator) : (change orchestrator).sensors = orchestrator.sensors
  actuators (orchestrator : Orchestrator) : (change orchestrator).actuators = orchestrator.actuators
  active (orchestrator : Orchestrator) : (change orchestrator).active = orchestrator.active
  withDevices (orchestrator : Orchestrator) (devices : Devices) :
    change { orchestrator with devices := devices } =
      { change orchestrator with devices := devices }
  withSensors (orchestrator : Orchestrator) (sensors : SortedMap SensorId Sensor) :
    change { orchestrator with sensors := sensors } =
      { change orchestrator with sensors := sensors }
  withActuators (orchestrator : Orchestrator) (actuators : SortedMap ActuatorId Actuator) :
    change { orchestrator with actuators := actuators } =
      { change orchestrator with actuators := actuators }

namespace Aside

variable {change : Orchestrator → Orchestrator}

theorem application? (aside : Aside change) (orchestrator : Orchestrator) :
    (change orchestrator).application? = orchestrator.application? := by
  rw [Orchestrator.application?, aside.active]
  rfl

theorem deliver (aside : Aside change) (device : DeviceId) (event : DeviceEvent)
    (orchestrator : Orchestrator) :
    (change orchestrator).deliver device event = change <$> orchestrator.deliver device event := by
  unfold Orchestrator.deliver
  rw [aside.devices]
  cases orchestrator.devices.get? device with
  | none => simp only [map_bind, map_pure]
  | some target =>
      simp only [map_bind, map_pure]
      congr 1
      funext target
      exact congrArg pure (aside.withDevices orchestrator _).symm

theorem transmit (aside : Aside change) (id : SensorId) (orchestrator : Orchestrator) :
    (change orchestrator).transmit id = change <$> orchestrator.transmit id := by
  unfold Orchestrator.transmit
  rw [aside.sensors, aside.application?]
  cases orchestrator.sensors.get? id with
  | none => simp only [map_bind, map_pure]
  | some sensor =>
      cases orchestrator.application? with
      | none => simp only [map_bind, map_pure]
      | some application =>
          dsimp only
          split
          · simp only [map_bind, map_pure]
            congr 1
            funext sensor
            exact congrArg pure (aside.withSensors orchestrator _).symm
          · simp only [map_bind, map_pure]

theorem actuate (aside : Aside change) (id : ActuatorId) (tuple : Tuple)
    (orchestrator : Orchestrator) :
    (change orchestrator).actuate id tuple = change <$> orchestrator.actuate id tuple := by
  unfold Orchestrator.actuate
  rw [aside.actuators, aside.application?]
  cases orchestrator.actuators.get? id with
  | none => simp only [map_bind, map_pure]
  | some actuator =>
      simp only [map_bind, map_pure]
      congr 1
      funext actuator
      exact congrArg pure (aside.withActuators orchestrator _).symm

theorem launchDue (aside : Aside change) (application : String) (orchestrator : Orchestrator) :
    (change orchestrator).launchDue application = orchestrator.launchDue application := by
  unfold Orchestrator.launchDue activate
  rw [aside.application?, aside.active, aside.devices, aside.sensors]

theorem handle (aside : Aside change) {event : Event} {orchestrator : Orchestrator}
    (running : event.payload ≠ .stop)
    (ticking : event.payload = .controlTick →
      (change orchestrator).control = change <$> orchestrator.control) :
    (change orchestrator).handle event = change <$> orchestrator.handle event := by
  obtain ⟨id, time, payload⟩ := event
  simp only [Orchestrator.handle, map_bind]
  congr 1
  funext now
  congr 1
  funext done
  cases payload with
  | launchApplication application => simp only [map_bind, map_pure, aside.launchDue]
  | controlTick => exact ticking rfl
  | tupleFinished tuple => simp only [map_bind, map_pure]
  | stop => exact absurd rfl running
  | device device event => exact aside.deliver device event orchestrator
  | transmit sensor => exact aside.transmit sensor orchestrator
  | delivery actuator tuple => exact aside.actuate actuator tuple orchestrator

end Aside

def remap (change : Config → Config) (count : Nat → Nat) (orchestrator : Orchestrator) :
    Orchestrator :=
  { orchestrator with
    config := change orchestrator.config
    controlTicks := count orchestrator.controlTicks }

variable {change : Config → Config} {count : Nat → Nat}

theorem remap_aside : Aside (remap change count) where
  devices _ := rfl
  sensors _ := rfl
  actuators _ := rfl
  active _ := rfl
  withDevices _ _ := rfl
  withSensors _ _ := rfl
  withActuators _ _ := rfl

theorem control_remap {orchestrator : Orchestrator}
    (interval : (change orchestrator.config).controlInterval =
      orchestrator.config.controlInterval) :
    (orchestrator.remap change id).control = remap change id <$> orchestrator.control := by
  unfold control
  rw [show (orchestrator.remap change id).config.controlInterval =
      orchestrator.config.controlInterval from interval,
    show (orchestrator.remap change id).controlTicks = orchestrator.controlTicks from rfl]
  simp only [map_bind]
  congr 1
  funext now
  congr 1
  funext done
  cases now.after? orchestrator.config.controlInterval with
  | none =>
      simp only [map_bind, map_pure]
      rfl
  | some time =>
      simp only [map_bind, map_pure]
      rfl

theorem handle_remap {event : Event} {orchestrator : Orchestrator}
    (running : event.payload ≠ .stop)
    (ticking : event.payload = .controlTick → count = id ∧
      (change orchestrator.config).controlInterval = orchestrator.config.controlInterval) :
    (orchestrator.remap change count).handle event =
      remap change count <$> orchestrator.handle event := by
  refine remap_aside.handle running fun ticks => ?_
  obtain ⟨rfl, interval⟩ := ticking ticks
  exact control_remap interval

theorem handle_alike_of_remap {first second firstNext secondNext : Orchestrator}
    {event twin : Event} (level : first.remap change count = second.remap change count)
    (same : event.payload = twin.payload) (running : event.payload ≠ .stop)
    (ticking : event.payload = .controlTick → count = id ∧
      ∀ config, (change config).controlInterval = config.controlInterval)
    (alike : left.Alike view right)
    (ended : (first.handle event).Ends left firstNext leftAfter)
    (endedToo : (second.handle twin).Ends right secondNext rightAfter) :
    leftAfter.Alike view rightAfter ∧
      firstNext.remap change count = secondNext.remap change count := by
  have mapped : ((first.remap change count).handle event).Ends left
      (firstNext.remap change count) leftAfter := by
    rw [handle_remap running fun ticks => ⟨(ticking ticks).1, (ticking ticks).2 _⟩]
    exact Act.ends_map_iff.mpr ⟨_, ended, rfl⟩
  have mappedToo : ((second.remap change count).handle twin).Ends right
      (secondNext.remap change count) rightAfter := by
    rw [handle_remap (same ▸ running) fun ticks =>
      ⟨(ticking (same.trans ticks)).1, (ticking (same.trans ticks)).2 _⟩]
    exact Act.ends_map_iff.mpr ⟨_, endedToo, rfl⟩
  rw [← level] at mappedToo
  exact handle_alike same running alike mapped mappedToo

theorem start_alike (running : before.halted = false)
    (ended : orchestrator.start.Ends before (.ok (), next) leftAfter)
    (endedToo : (orchestrator.remap change id).start.Ends before (.ok (), other) rightAfter)
    (ticks : ∀ time late seen, before.now.after? orchestrator.config.controlInterval = some time →
      before.now.after? (change orchestrator.config).controlInterval = some late →
      view.put time .controlTick seen = view.put late .controlTick seen)
    (stops : ∀ time late seen, before.now.after? orchestrator.config.runLength = some time →
      before.now.after? (change orchestrator.config).runLength = some late →
      view.put time .stop seen = view.put late .stop seen) :
    other = next.remap change id ∧ leftAfter.Alike view rightAfter := by
  obtain ⟨rfl, _, launched, _, ticked, _, _, launching, ticking, stopping, rousing⟩ :=
    start_course ended
  obtain ⟨rfl, _, _, _, _, _, _, launchingToo, tickingToo, stoppingToo, rousingToo⟩ :=
    start_course endedToo
  obtain ⟨_, rfl⟩ := launching.unique launchingToo
  refine ⟨rfl, ?_⟩
  have launches := (orchestrator.launch_modest.ends rfl launching).1
  have still : launched.halted = false := launches.halted.trans running
  obtain ⟨_, _, enters⟩ := Act.scheduleAfter_enters still ticking
  have alike : launched.Alike view launched := .refl still
  rw [← launches.now] at ticks stops
  have first := alike.scheduleAfter ticks ticking tickingToo
  rw [← enters.now] at stops
  have armed := first.scheduleAfter stops stopping stoppingToo
  exact (orchestrator.rouse_modest.alike armed rfl rousing rousingToo).1

end Orchestrator

theorem Scenario.Agrees.of_level {V : Type} {view : Agenda.View V} {left right : Scenario}
    {change : Config → Config} {count : Nat → Nat}
    (same : left.orchestrator.remap change count = right.orchestrator.remap change count)
    (level : left.simulation.context.Level view right.simulation.context) : left.Agrees right := by
  constructor
  · exact (congrArg Orchestrator.devices same :)
  · exact (congrArg Orchestrator.sensors same :)
  · exact (congrArg Orchestrator.actuators same :)
  · exact level.timings
  · exact level.usage

/-! How an insertion looks through a filter. -/

section Insertion

variable {event : Event} {earlier later pending : List Event} {shown : Event → Bool}

theorem insertInOrder_append (due : ∀ other ∈ earlier, other.time.ticks ≤ event.time.ticks)
    (ahead : ∀ other ∈ later, event.time.ticks < other.time.ticks) :
    insertInOrder event (earlier ++ later) = earlier ++ event :: later := by
  induction earlier with
  | nil =>
      cases later with
      | nil => rfl
      | cons first rest => simp [insertInOrder, ahead first (by simp)]
  | cons first rest ih =>
      have late : ¬event.time.ticks < first.time.ticks := Nat.not_lt.mpr (due first (by simp))
      rw [List.cons_append, insertInOrder, if_neg late, ih fun other member =>
        due other (by simp [member])]
      rfl

theorem exists_insertion (event : Event) (ordered : pending.Pairwise Event.before) :
    ∃ earlier later, pending = earlier ++ later ∧
      (∀ other ∈ earlier, other.time.ticks ≤ event.time.ticks) ∧
      ∀ other ∈ later, event.time.ticks < other.time.ticks := by
  induction ordered with
  | nil => exact ⟨[], [], rfl, by simp, by simp⟩
  | @cons first rest below _ ih =>
      by_cases ahead : event.time.ticks < first.time.ticks
      · refine ⟨[], first :: rest, rfl, by simp, ?_⟩
        intro other member
        rcases List.mem_cons.mp member with rfl | member
        · exact ahead
        · have behind := below other member
          simp only [Event.before] at behind
          omega
      · obtain ⟨earlier, later, rfl, due, ahead'⟩ := ih
        refine ⟨first :: earlier, later, rfl, ?_, ahead'⟩
        intro other member
        rcases List.mem_cons.mp member with rfl | member
        · exact Nat.le_of_not_lt ahead
        · exact due other member

theorem filter_insertInOrder (ordered : pending.Pairwise Event.before) :
    (insertInOrder event pending).filter shown =
      if shown event then insertInOrder event (pending.filter shown) else pending.filter shown := by
  obtain ⟨earlier, later, rfl, due, ahead⟩ := exists_insertion event ordered
  have dueToo : ∀ other ∈ earlier.filter shown, other.time.ticks ≤ event.time.ticks :=
    fun other member => due other (List.mem_filter.mp member).1
  have aheadToo : ∀ other ∈ later.filter shown, event.time.ticks < other.time.ticks :=
    fun other member => ahead other (List.mem_filter.mp member).1
  rw [insertInOrder_append due ahead, List.filter_append, List.filter_append, List.filter_cons]
  split
  · rw [insertInOrder_append dueToo aheadToo]
  · rfl

theorem map_insertInOrder {change : Event → Event}
    (timed : ∀ event, (change event).time = event.time) (event : Event) (pending : List Event) :
    (insertInOrder event pending).map change =
      insertInOrder (change event) (pending.map change) := by
  induction pending with
  | nil => rfl
  | cons first rest ih =>
      simp only [insertInOrder, List.map_cons, timed]
      split
      · rfl
      · rw [List.map_cons, ih]

end Insertion
end FogNetwork
