import FogNetwork.Proofs.Activation
import FogNetwork.Proofs.Endings

/-! What a single device receives of the activation, and in which order. -/

namespace FogNetwork

theorem mem_addName {name other : String} {names : List String} :
    other ∈ addName name names ↔ other = name ∨ other ∈ names := by
  unfold addName
  split
  next listed =>
    constructor
    · exact .inr
    · rintro (rfl | old)
      · simpa using listed
      · exact old
  · simp [or_comm]

theorem nodup_addName {name : String} {names : List String} (nodup : names.Nodup) :
    (addName name names).Nodup := by
  unfold addName
  split
  · exact nodup
  next absent =>
    rw [List.nodup_append]
    refine ⟨nodup, by simp, ?_⟩
    rintro other member _ same rfl
    obtain rfl := List.mem_singleton.mp same
    simp [member] at absent

namespace Placement

variable {placement : Placement} {device id : DeviceId} {name : String}

def ofPairs (pairs : List (DeviceId × String)) : Placement :=
  pairs.foldl (fun placement pair => placement.assign pair.1 pair.2) .empty

theorem modulesOn_assign : (placement.assign device name).modulesOn id =
    if id = device then addName name (placement.modulesOn device) else placement.modulesOn id :=
  SortedMap.getD_update ..

theorem modulesOn_ofPairs (pairs : List (DeviceId × String)) (id : DeviceId) :
    ((ofPairs pairs).modulesOn id).Nodup ∧
      ∀ name, name ∈ (ofPairs pairs).modulesOn id ↔ (id, name) ∈ pairs := by
  have assigned (placement : Placement) (nodup : (placement.modulesOn id).Nodup) :
      let reached := pairs.foldl (fun placement pair => placement.assign pair.1 pair.2) placement
      (reached.modulesOn id).Nodup ∧
        ∀ name, name ∈ reached.modulesOn id ↔ name ∈ placement.modulesOn id ∨ (id, name) ∈ pairs := by
    induction pairs generalizing placement with
    | nil => exact ⟨nodup, by simp⟩
    | cons pair rest ih =>
        have step : ((placement.assign pair.1 pair.2).modulesOn id).Nodup := by
          rw [modulesOn_assign]
          split
          next same => exact nodup_addName (same ▸ nodup)
          · exact nodup
        obtain ⟨still, members⟩ := ih (placement.assign pair.1 pair.2) step
        refine ⟨still, fun name => ?_⟩
        rw [List.foldl_cons, members name, modulesOn_assign]
        by_cases here : id = pair.1
        · subst here
          rw [if_pos rfl, mem_addName, List.mem_cons, Prod.ext_iff]
          simp only [true_and]
          exact (or_congr_left or_comm).trans or_assoc
        · simp [here, Prod.ext_iff]
  obtain ⟨nodup, members⟩ := assigned .empty List.nodup_nil
  refine ⟨nodup, fun name => (members name).trans ?_⟩
  simp [modulesOn, empty, SortedMap.getD]

theorem mem_keys_of_modulesOn (placed : name ∈ placement.modulesOn id) :
    id ∈ placement.assignments.keys := by
  obtain ⟨names, found, _⟩ := SortedMap.mem_getD_nil_iff.mp placed
  exact SortedMap.mem_keys_iff.mpr ⟨names, found⟩

theorem mem_placedNames_of_modulesOn (placed : name ∈ placement.modulesOn id) :
    name ∈ placement.placedNames := by
  obtain ⟨names, found, listed⟩ := SortedMap.mem_getD_nil_iff.mp placed
  exact List.mem_flatten.mpr ⟨names, SortedMap.mem_values_of_get? found, listed⟩

theorem hasModule_of_validate {application : Application}
    (valid : placement.validate application = .ok ()) (placed : name ∈ placement.modulesOn id) :
    application.hasModule name = true := by
  unfold validate at valid
  split at valid
  · cases valid
  · split at valid
    · cases valid
    next known =>
      simpa using List.find?_eq_none.mp known name (mem_placedNames_of_modulesOn placed)

end Placement

namespace Orchestrator

variable {orchestrator : Orchestrator} {application : Application} {placement : Placement}

theorem admits_eq_ok (admitted : orchestrator.admits application placement = .ok ()) :
    placement.validate application = .ok () ∧
      ∀ id ∈ placement.assignments.keys, orchestrator.devices.contains id = true := by
  cases valid : placement.validate application with
  | error rejection =>
      simp only [admits, valid, bind, Except.bind, throw, throwThe, MonadExceptOf.throw] at admitted
      grind
  | ok =>
      refine ⟨rfl, ?_⟩
      cases unknown : placement.assignments.keys.find? (!orchestrator.devices.contains ·) with
      | some device =>
          simp only [admits, valid, unknown, bind, Except.bind, throw, throwThe,
            MonadExceptOf.throw] at admitted
          grind
      | none => simpa using List.find?_eq_none.mp unknown

end Orchestrator
/-! What is sent to one device. -/

def Payload.toDevice? (id : DeviceId) : Payload → Option DeviceEvent
  | .device other event => if other = id then some event else none
  | _ => none

theorem Payload.eq_of_toDevice? {id : DeviceId} {payload : Payload} {event : DeviceEvent}
    (sent : payload.toDevice? id = some event) : payload = .device id event := by
  cases payload with
  | device other _ =>
      rw [toDevice?, Option.ite_none_right_eq_some] at sent
      obtain ⟨rfl, same⟩ := sent
      rw [Option.some.inj same]
  | _ => cases sent

theorem Payload.tuple_of_isArrival {id : DeviceId} {event : DeviceEvent}
    (arrives : (Payload.device id event).isArrival = true) : ∃ tuple, event = .tupleArrival tuple := by
  cases event with
  | tupleArrival tuple => exact ⟨tuple, rfl⟩
  | _ => cases arrives

def Application.orders (application : Application) (specs : List ModuleSpec) : List DeviceEvent :=
  specs.flatMap fun spec => [.applicationReceived application, .launchModule spec]

namespace Orchestrator

variable {application : Application} {id other : DeviceId} {held : Submission}

theorem assignment_toDevice? (name : String) :
    (assignment application other name).filterMap (Payload.toDevice? id) =
      if other = id then application.orders (application.module? name).toList else [] := by
  unfold assignment
  cases known : application.module? name with
  | none => simp [Application.orders]
  | some spec =>
      by_cases here : other = id
      · simp [Application.orders, Payload.toDevice?, here]
      · simp [Payload.toDevice?, here]

theorem orders_of_names (names : List String) :
    names.flatMap (fun name => application.orders (application.module? name).toList) =
      application.orders (names.filterMap application.module?) := by
  induction names with
  | nil => rfl
  | cons name rest ih =>
      rw [List.flatMap_cons, ih]
      cases known : application.module? name with
      | none => simp [Application.orders, known]
      | some spec => simp [Application.orders, known]

theorem names_of_modules {names : List String}
    (known : ∀ name ∈ names, application.hasModule name = true) :
    (names.filterMap application.module?).map (·.name) = names := by
  induction names with
  | nil => rfl
  | cons name rest ih =>
      obtain ⟨spec, found⟩ := Option.isSome_iff_exists.mp (known name (by simp))
      have own : spec.name = name := by simpa using List.find?_some found
      rw [List.filterMap_cons_some found, List.map_cons, own,
        ih fun other member => known other (by simp [member])]

theorem briefing_toDevice? {devices : Devices} (known : id ∈ devices.keys) :
    (briefing held devices.keys).filterMap (Payload.toDevice? id) =
      .applicationActive held.application :: held.application.orders
        ((held.placement.modulesOn id).filterMap held.application.module?) := by
  have all : (devices.keys.map fun device =>
      Payload.device device (.applicationActive held.application)).filterMap
        (Payload.toDevice? id) = [.applicationActive held.application] := by
    have one := List.filterMap_filter (p := (· == id))
      (f := fun _ => some (DeviceEvent.applicationActive held.application)) (l := devices.keys)
    rw [SortedMap.filter_keys known] at one
    rw [List.filterMap_map]
    refine Eq.trans ?_ one.symm
    congr 1
    funext device
    simp [Payload.toDevice?]
  have own : (held.placement.assignments.entries.flatMap fun entry =>
      entry.2.flatMap (assignment held.application entry.1)).filterMap (Payload.toDevice? id) =
        held.application.orders
          ((held.placement.modulesOn id).filterMap held.application.module?) := by
    have others : ∀ entry ∈ held.placement.assignments.entries, entry.1 ≠ id →
        (entry.2.flatMap (assignment held.application entry.1)).filterMap
          (Payload.toDevice? id) = [] := by
      intro entry _ differs
      simp [List.filterMap_flatMap, assignment_toDevice?, differs]
    rw [List.filterMap_flatMap, SortedMap.flatMap_entries others, Placement.modulesOn,
      SortedMap.getD]
    cases held.placement.assignments.get? id with
    | none => rfl
    | some names =>
        simp only [Option.elim_some, List.filterMap_flatMap, assignment_toDevice?, ↓reduceIte]
        exact orders_of_names names
  rw [briefing, List.filterMap_append, all, own]
  rfl

end Orchestrator
/-! What one device receives. -/

def Turn.heard? (id : DeviceId) (turn : Turn) : Option (Nat × DeviceEvent) :=
  if turn.before.orchestrator.devices.contains id then
    (turn.event.payload.toDevice? id).map (turn.event.time.ticks, ·)
  else none

namespace Scenario

variable {started scenario : Scenario} {turns : List Turn} {id : DeviceId}

def heard (id : DeviceId) (turns : List Turn) : List (Nat × DeviceEvent) :=
  turns.filterMap (·.heard? id)

theorem heard_isNews
    (known : ∀ turn ∈ turns, turn.before.orchestrator.devices.contains id = true) :
    (heard id turns).filter (·.2.isNews) = (news turns).filterMap fun event =>
      (event.payload.toDevice? id).map (event.time.ticks, ·) := by
  induction turns with
  | nil => rfl
  | cons turn rest ih =>
      have later := ih fun other member => known other (by simp [member])
      have one : ([turn].filterMap (·.heard? id)).filter (·.2.isNews) =
          (news [turn]).filterMap fun event =>
            (event.payload.toDevice? id).map (event.time.ticks, ·) := by
        have here := known turn (by simp)
        simp only [List.filterMap_cons, List.filterMap_nil, Turn.heard?, here, ↓reduceIte, news,
          List.map_cons, List.map_nil]
        cases payload : turn.event.payload with
        | device other event =>
            by_cases own : other = id
            · cases new : event.isNews with
              | false => simp [Payload.toDevice?, Payload.isNews, payload, own, new]
              | true => simp [Payload.toDevice?, Payload.isNews, payload, own, new]
            · cases new : event.isNews with
              | false => simp [Payload.toDevice?, Payload.isNews, payload, own, new]
              | true => simp [Payload.toDevice?, Payload.isNews, payload, own, new]
        | _ => simp [Payload.toDevice?, Payload.isNews, payload]
      rw [← List.singleton_append, heard, List.filterMap_append, List.filter_append, news_append,
        List.filterMap_append, one]
      exact congrArg _ later

theorem Reached.contains_device (reached : started.Reached turns scenario)
    (known : started.orchestrator.devices.contains id = true) :
    ∀ turn ∈ turns, turn.before.orchestrator.devices.contains id = true := by
  obtain ⟨same, _⟩ := reached.unchanged (·.devices.keys) fun _ reaction => reaction.keys_eq
  intro turn member
  rw [SortedMap.contains_iff_mem_keys, same turn member]
  exact SortedMap.contains_iff_mem_keys.mp known

theorem told_toDevice? {orchestrator : Orchestrator} {held : Submission} {told : List Event}
    {time : Nat} (known : id ∈ orchestrator.devices.keys)
    (briefing : told.map (fun brief => (brief.time.ticks, brief.payload)) =
      (Orchestrator.briefing held orchestrator.devices.keys).map (time, ·)) :
    told.filterMap (fun event => (event.payload.toDevice? id).map (event.time.ticks, ·)) =
      (.applicationActive held.application :: held.application.orders
        ((held.placement.modulesOn id).filterMap held.application.module?)).map (time, ·) := by
  have pairs : told.filterMap (fun event =>
      (event.payload.toDevice? id).map (event.time.ticks, ·)) =
        (told.map fun brief => (brief.time.ticks, brief.payload)).filterMap fun item =>
          (item.2.toDevice? id).map (item.1, ·) := by
    rw [List.filterMap_map]
    rfl
  rw [pairs, briefing, List.filterMap_map, ← Orchestrator.briefing_toDevice? known,
    List.map_filterMap]
  rfl

theorem arrives_of_heard {item : Nat × DeviceEvent} (member : item ∈ heard id turns)
    (isNews : item.2.isNews = true)
    (arrive : ∀ event ∈ news turns, event.payload.isArrival = true) :
    ∃ tuple, item.2 = .tupleArrival tuple := by
  obtain ⟨turn, listed, receives⟩ := List.mem_filterMap.mp member
  rw [Turn.heard?, Option.ite_none_right_eq_some] at receives
  obtain ⟨event, sent, rfl⟩ := Option.map_eq_some_iff.mp receives.2
  have payload := Payload.eq_of_toDevice? sent
  have arrives := arrive turn.event (List.mem_filter.mpr
    ⟨List.mem_map_of_mem listed, by rw [payload]; exact isNews⟩)
  rw [payload] at arrives
  exact Payload.tuple_of_isArrival arrives

end Scenario

/-- If there is time for it, the launch tells every registered device once that the application is
active and then each host once of each of its modules, all at one time and before any tuple reaches
the device. If there is no time for it, no device is told anything. -/
theorem Scenario.activation_fans_out {base submitted orchestrator : Orchestrator}
    {application : Application} {pairs : List (DeviceId × String)} {delay : Nat}
    {simulation : Simulation} {started ended : Scenario} {turns : List Turn}
    (submits : (base.submit application (.ofPairs pairs) delay).value = (.ok (), submitted))
    (active : orchestrator.active = submitted.active)
    (registered : ∀ id, submitted.devices.contains id = true →
      orchestrator.devices.contains id = true)
    (idle : orchestrator.devices.All Device.Idle) (running : simulation.isTerminated = false)
    (empty : simulation.context.agenda.pending = [])
    (starts : (simulation.perform orchestrator.start).outcome =
      .ok ((.ok (), started.orchestrator), started.simulation))
    (reached : started.Reached turns ended) (isOver : ended.simulation.isTerminated = true) :
    let held := (Orchestrator.subscribeActuators base.actuators application).value
    let time := simulation.currentTime.ticks + delay
    (∀ pair ∈ pairs, orchestrator.devices.contains pair.1 = true) ∧
    (delay < orchestrator.config.runLength → ∀ id, orchestrator.devices.contains id = true →
      ∃ specs arrivals, (specs.map (·.name)).Nodup ∧
        (∀ name, name ∈ specs.map (·.name) ↔ (id, name) ∈ pairs) ∧
        (∀ spec ∈ specs, held.module? spec.name = some spec) ∧
        (∀ arrival ∈ arrivals, ∃ tuple, arrival.2 = .tupleArrival tuple) ∧
        (heard id turns).filter (·.2.isNews) =
          (time, .applicationActive held) :: (held.orders specs).map (time, ·) ++ arrivals) ∧
    (orchestrator.config.runLength ≤ delay → ∀ id, ∀ item ∈ heard id turns,
      item.2.isNews = true → ∃ tuple, item.2 = .tupleArrival tuple) := by
  intro held time
  obtain ⟨admitted, coverage, same⟩ := Orchestrator.submit_value submits
  obtain ⟨valid, hosts⟩ := Orchestrator.admits_eq_ok admitted
  have holds : orchestrator.active = some ⟨held, .ofPairs pairs, delay⟩ := by rw [active, same]
  obtain ⟨begins, _⟩ := Simulation.perform_outcome starts
  obtain ⟨arrivals, arrive, inTime, tooLate⟩ :=
    news_of_over holds idle running empty begins reached isOver
  refine ⟨?_, ?_, ?_⟩
  · intro pair member
    refine registered pair.1 ?_
    have placed := ((Placement.modulesOn_ofPairs pairs pair.1).2 pair.2).mpr member
    rw [same]
    exact hosts pair.1 (Placement.mem_keys_of_modulesOn placed)
  · intro inside id known
    obtain ⟨told, split, briefing⟩ := inTime inside
    obtain ⟨nodup, members⟩ := Placement.modulesOn_ofPairs pairs id
    have modules : ∀ name ∈ (Placement.ofPairs pairs).modulesOn id,
        held.hasModule name = true := by
      intro name placed
      have own := Placement.hasModule_of_validate valid placed
      rw [Application.hasModule, Orchestrator.subscribeActuators_module?, Option.isSome_map]
      exact own
    have names := Orchestrator.names_of_modules modules
    have begun : started.orchestrator.devices.contains id = true := by
      rw [(Orchestrator.start_stages running empty begins).1]
      exact known
    refine ⟨((Placement.ofPairs pairs).modulesOn id).filterMap held.module?,
      arrivals.filterMap fun event => (event.payload.toDevice? id).map (event.time.ticks, ·),
      by rwa [names], fun name => by rw [names]; exact members name, ?_, ?_, ?_⟩
    · intro spec member
      obtain ⟨name, _, found⟩ := List.mem_filterMap.mp member
      have own : spec.name = name := by simpa using List.find?_some found
      rw [own]
      exact found
    · intro item member
      obtain ⟨arrival, listed, shown⟩ := List.mem_filterMap.mp member
      obtain ⟨event, sent, rfl⟩ := Option.map_eq_some_iff.mp shown
      have arrives := arrive arrival listed
      rw [Payload.eq_of_toDevice? sent] at arrives
      exact Payload.tuple_of_isArrival arrives
    · rw [heard_isNews (reached.contains_device begun), split, List.filterMap_append,
        told_toDevice? (SortedMap.contains_iff_mem_keys.mp known) briefing]
      rfl
  · intro beyond id item member isNews
    refine arrives_of_heard member isNews ?_
    rw [tooLate beyond]
    exact arrive

namespace Demo

def evening : Simulation :=
  { Simulation.initial with context := { Context.initial with now := ⟨7⟩ } }

def lodge : Orchestrator :=
  { beacon with
    devices := beacon.devices.insert ⟨1⟩ (.recorder (.named ⟨1⟩ "log"))
    active := none }

def lodgeSubmission : Except Rejection Unit × Orchestrator :=
  (lodge.submit (panelApplication "LIGHT" "TURN") (.ofPairs [(⟨0⟩, "control")]) 3).value

theorem lodge_ends : ∃ (started : Scenario) (turns : List Turn) (scenario : Scenario),
    (evening.perform lodgeSubmission.2.start).outcome =
        .ok ((.ok (), started.orchestrator), started.simulation) ∧
      started.Reached turns scenario ∧ scenario.simulation.isTerminated = true := by
  have terminates : (startedOn? evening lodgeSubmission.2).any (fun started =>
      (started.simulation.runFor Orchestrator.handle 40
        started.orchestrator).outcome.toOption.any (·.2.1.isTerminated)) = true := by
    decide +kernel
  exact ends_of_any terminates

theorem lodge_submits : lodgeSubmission = (.ok (), lodgeSubmission.2) := by
  have admitted : lodgeSubmission.1 = .ok () := by decide +kernel
  rw [← admitted]

end Demo

theorem Scenario.activation_fans_out_lodge : ∃ (started : Scenario) (turns : List Turn)
    (ended : Scenario) (spec : ModuleSpec) (arrivals overheard : List (Nat × DeviceEvent)),
    (Demo.evening.perform Demo.lodgeSubmission.2.start).outcome =
        .ok ((.ok (), started.orchestrator), started.simulation) ∧
      started.Reached turns ended ∧ ended.simulation.isTerminated = true ∧
      (heard ⟨0⟩ turns).filter (·.2.isNews) =
        [(10, .applicationActive (Demo.panelApplication "LIGHT" "TURN")),
          (10, .applicationReceived (Demo.panelApplication "LIGHT" "TURN")),
          (10, .launchModule spec)] ++ arrivals ∧
      (heard ⟨1⟩ turns).filter (·.2.isNews) =
        (10, .applicationActive (Demo.panelApplication "LIGHT" "TURN")) :: overheard := by
  obtain ⟨started, turns, ended, starts, reached, isOver⟩ := Demo.lodge_ends
  obtain ⟨_, coverage, same⟩ := Orchestrator.submit_value Demo.lodge_submits
  have idle : Demo.lodgeSubmission.2.devices.All Device.Idle := by
    rw [same]
    refine SortedMap.All.insert ((SortedMap.all_empty _).insert ?_) ?_
    · rfl
    · trivial
  have length : Demo.lodgeSubmission.2.config.runLength = 45 := by rw [same]; rfl
  have known (id : DeviceId) (listed : Demo.lodge.devices.contains id = true) :
      Demo.lodgeSubmission.2.devices.contains id = true := by
    rw [same]
    exact listed
  obtain ⟨_, inTime, _⟩ := activation_fans_out Demo.lodge_submits rfl (fun _ own => own) idle rfl
    rfl starts reached isOver
  rw [length] at inTime
  obtain ⟨specs, arrivals, nodup, names, _, _, host⟩ :=
    inTime (by decide) ⟨0⟩ (known ⟨0⟩ (by decide +kernel))
  obtain ⟨none, overheard, _, nameless, _, _, listener⟩ :=
    inTime (by decide) ⟨1⟩ (known ⟨1⟩ (by decide +kernel))
  have one : specs.map (·.name) = ["control"] := by
    refine List.perm_singleton.mp ((List.perm_ext_iff_of_nodup nodup (List.nodup_singleton _)).mpr ?_)
    intro name
    rw [names name]
    simp
  have zero : none = [] := by
    rw [← List.map_eq_nil_iff, List.eq_nil_iff_forall_not_mem]
    intro name
    rw [nameless name]
    simp
  obtain ⟨spec, rfl⟩ : ∃ spec, specs = [spec] := by
    obtain ⟨spec, rest, rfl, _, last⟩ := List.map_eq_cons_iff.mp one
    exact ⟨spec, by rw [List.map_eq_nil_iff.mp last]⟩
  rw [zero] at listener
  exact ⟨started, turns, ended, spec, arrivals, overheard, starts, reached, isOver, host, listener⟩

end FogNetwork
