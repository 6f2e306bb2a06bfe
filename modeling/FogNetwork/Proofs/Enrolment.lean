import FogNetwork.Proofs.Children
import FogNetwork.Proofs.Closing
import FogNetwork.Proofs.Reordering
import FogNetwork.Proofs.Routes

/-! What a registration leaves behind. It is done as a whole or, at the first identifier that is
taken, broken off with the devices before it entered and the child tables as they were. -/

namespace FogNetwork

structure Unclaimed (registered : Devices) (devices : List Device) : Prop where
  distinct : (devices.map Device.id).Nodup
  free : ∀ device ∈ devices, registered.contains device.id = false

structure Clashes (registered : Devices) (devices front : List Device) (device : Device) :
    Prop where
  split : ∃ back, devices = front ++ device :: back
  unclaimed : Unclaimed registered front
  taken : registered.contains device.id = true ∨ device.id ∈ front.map Device.id

def enterAll (devices : List Device) (registered : Devices) : Devices :=
  devices.foldl (fun map device => map.insert device.id device) registered

section Entering

variable {registered : Devices} {devices front others : List Device} {device other : Device}

theorem contains_enterAll {id : DeviceId} : (enterAll devices registered).contains id = true ↔
    registered.contains id = true ∨ id ∈ devices.map Device.id := by
  induction devices generalizing registered with
  | nil => simp [enterAll]
  | cons device rest ih =>
      have inserted : (registered.insert device.id device).contains id = true ↔
          id = device.id ∨ registered.contains id = true := by
        by_cases here : id = device.id
        · simp [SortedMap.contains, here]
        · simp [SortedMap.contains, here, SortedMap.get?_insert_of_ne]
      rw [enterAll, List.foldl_cons]
      refine ih.trans ?_
      rw [inserted, List.map_cons, List.mem_cons]
      tauto

theorem Unclaimed.enterDevices (unclaimed : Unclaimed registered devices) :
    enterDevices devices registered = (.ok (), enterAll devices registered) :=
  enterDevices_of_nodup unclaimed.distinct unclaimed.free

theorem Clashes.enterDevices (clashes : Clashes registered devices front device) :
    enterDevices devices registered =
      (.error (.deviceAlreadyRegistered device.id), enterAll front registered) := by
  obtain ⟨⟨back, rfl⟩, unclaimed, taken⟩ := clashes
  rw [enterDevices_append unclaimed.enterDevices, FogNetwork.enterDevices,
    if_pos (contains_enterAll.mpr taken)]

theorem Unclaimed.concat (unclaimed : Unclaimed registered front)
    (free : registered.contains device.id = false) (new : device.id ∉ front.map Device.id) :
    Unclaimed registered (front ++ [device]) := by
  refine ⟨?_, ?_⟩
  · rw [List.map_append, List.map_singleton, ← List.concat_eq_append]
    exact unclaimed.distinct.concat new
  · intro other member
    rcases List.mem_append.mp member with early | last
    · exact unclaimed.free other early
    · rw [List.mem_singleton.mp last]
      exact free

theorem unclaimed_or_clashes (registered : Devices) (devices : List Device) :
    Unclaimed registered devices ∨ ∃ front device, Clashes registered devices front device := by
  -- From the back: a clash in the front comes before whatever its last device does.
  induction devices using List.reverseRecOn with
  | nil => exact .inl ⟨List.nodup_nil, nofun⟩
  | append_singleton front device ih =>
      rcases ih with unclaimed | ⟨earlier, other, ⟨back, rfl⟩, unclaimed, taken⟩
      · by_cases taken : registered.contains device.id = true ∨ device.id ∈ front.map Device.id
        · exact .inr ⟨front, device, ⟨[], rfl⟩, unclaimed, taken⟩
        · rw [not_or, Bool.not_eq_true] at taken
          exact .inl (unclaimed.concat taken.1 taken.2)
      · exact .inr ⟨earlier, other, ⟨back ++ [device], by simp⟩, unclaimed, taken⟩

theorem get?_enterAll (unclaimed : Unclaimed registered devices) (member : device ∈ devices) :
    (enterAll devices registered).get? device.id = some device :=
  (get?_enterDevices unclaimed.enterDevices).1 device member

theorem enterAll_keeps (unclaimed : Unclaimed registered devices) {id : DeviceId}
    (found : registered.get? id = some device) :
    (enterAll devices registered).get? id = some device :=
  (get?_enterDevices unclaimed.enterDevices).2 id device found

theorem enterAll_eq_iff (unclaimed : Unclaimed registered devices) :
    enterAll devices registered = registered ↔ devices = [] := by
  constructor
  · intro same
    refine List.eq_nil_iff_forall_not_mem.mpr fun device member => ?_
    have free := unclaimed.free device member
    rw [← same, SortedMap.contains, get?_enterAll unclaimed member] at free
    cases free
  · rintro rfl
    rfl

end Entering

/-! The child tables, and which devices ought to be in them. -/

/-- The child table of every device has exactly the registered devices that declare a link to it,
with the latency of the last such link. -/
def Mutual (devices : Devices) : Prop :=
  ∀ parent registered child, devices.get? parent = some registered →
    registered.links.children.get? child =
      (devices.get? child).bind (·.links.lastTo? parent)

section Tables

variable {devices left right : Devices}

theorem Links.lastTo?_isSome {links : Links} {link : ParentLink} (declared : link ∈ links.parents) :
    (links.lastTo? link.parent).isSome = true := by
  rw [lastTo?, Option.isSome_map, List.getLast?_isSome]
  exact List.ne_nil_of_mem (List.mem_filter.mpr ⟨declared, beq_self_eq_true _⟩)

theorem Mutual.contains {child : DeviceId} {declaring registered : Device} {link : ParentLink}
    (inverse : Mutual devices) (found : devices.get? child = some declaring)
    (declared : link ∈ declaring.links.parents)
    (known : devices.get? link.parent = some registered) :
    registered.links.children.contains child = true := by
  rw [SortedMap.contains, inverse link.parent registered child known, found]
  exact Links.lastTo?_isSome declared

theorem mutual_empty : Mutual .empty := nofun

theorem mutual_connect (devices : Devices) : Mutual (connect devices).value := by
  intro parent registered child found
  rw [get?_connect, Option.map_eq_some_iff] at found
  obtain ⟨device, _, rfl⟩ := found
  have declared (device : Device) (children : SortedMap DeviceId Nat) :
      (device.withChildren children).links.lastTo? parent = device.links.lastTo? parent := by
    rw [← Device.lastTo?_childless, Device.childless_withChildren, Device.lastTo?_childless]
  rw [Device.children_withChildren, get?_childTable, get?_connect]
  cases devices.get? child with
  | none => rfl
  | some declaring => exact (declared declaring _).symm

theorem Mutual.congr (same : linksOf left = linksOf right) (inverse : Mutual left) :
    Mutual right := by
  have links (id : DeviceId) :
      (left.get? id).map Device.links = (right.get? id).map Device.links := by
    have found := congrArg (SortedMap.get? · id) same
    simpa [linksOf, SortedMap.get?_mapValues] using found
  intro parent registered child found
  have known := links parent
  rw [found] at known
  obtain ⟨other, own, same⟩ := Option.map_eq_some_iff.mp known
  have declared (devices : Devices) : (devices.get? child).bind (·.links.lastTo? parent) =
      ((devices.get? child).map Device.links).bind (·.lastTo? parent) := by
    rw [Option.bind_map]
    rfl
  rw [← same, inverse parent other child own, declared left, declared right, links child]

theorem linksOf_insert {id : DeviceId} {old new : Device} (known : devices.get? id = some old)
    (same : new.links = old.links) : linksOf (devices.insert id new) = linksOf devices := by
  ext1 other
  rw [linksOf, linksOf, SortedMap.get?_mapValues, SortedMap.get?_mapValues, SortedMap.get?_insert]
  by_cases here : other = id
  · simp [here, known, same]
  · simp [here]

end Tables

/-! No event changes the links of a device. -/

section Reacting

variable {before after : Context}

theorem Relay.react_links {relay next : Relay} {event : DeviceEvent}
    (ended : (relay.react event).Ends before next after) : next.links = relay.links := by
  have any : relay.Within fun _ => True := ⟨trivial, fun _ _ _ => trivial, fun _ => trivial⟩
  cases event with
  | applicationActive application | applicationReceived application =>
      obtain ⟨rfl, _⟩ := Act.ends_pure_iff.mp ended
      rfl
  | launchModule spec =>
      obtain ⟨_, _, _, ended⟩ := Act.ends_bind_iff.mp ended
      obtain ⟨rfl, _⟩ := Act.ends_pure_iff.mp ended
      rfl
  | manageResources =>
      obtain ⟨_, setup⟩ := (manage_modest any).ends rfl ended
      have links := congrArg Relay.links setup
      exact links
  | tupleArrival tuple =>
      obtain ⟨_, standing⟩ := (accept_modest any tuple).ends rfl ended
      have links := congrArg Relay.links standing
      exact links

theorem Device.react_links {device next : Device} {event : DeviceEvent}
    (ended : (device.react event).Ends before next after) : next.links = device.links := by
  cases device with
  | relay relay =>
      obtain ⟨_, reacted, rfl⟩ := Act.ends_map_iff.mp ended
      exact Relay.react_links reacted
  | recorder recorder =>
      obtain ⟨_, reacted, rfl⟩ := Act.ends_map_iff.mp ended
      obtain ⟨_, _, _, noted⟩ := Act.ends_bind_iff.mp reacted
      obtain ⟨rfl, _⟩ := Act.ends_pure_iff.mp noted
      rfl

end Reacting

namespace Orchestrator

variable {orchestrator next : Orchestrator} {before after : Context}

theorem deliver_links {device : DeviceId} {event : DeviceEvent}
    (ended : (orchestrator.deliver device event).Ends before next after) :
    linksOf next.devices = linksOf orchestrator.devices := by
  unfold deliver at ended
  split at ended
  · simp only [Act.ends_bind_iff, Act.ends_pure_iff] at ended
    obtain ⟨_, _, _, rfl, _⟩ := ended
    rfl
  next target known =>
    simp only [Act.ends_bind_iff, Act.ends_pure_iff] at ended
    obtain ⟨_, _, reacted, rfl, _⟩ := ended
    exact linksOf_insert known (Device.react_links reacted)

theorem actuate_keyed {id : ActuatorId} {tuple : Tuple}
    (keyed : orchestrator.actuators.Keyed Actuator.id)
    (ended : (orchestrator.actuate id tuple).Ends before next after) :
    next.actuators.Keyed Actuator.id := by
  unfold actuate at ended
  split at ended
  · simp only [Act.ends_bind_iff, Act.ends_pure_iff] at ended
    obtain ⟨_, _, _, rfl, _⟩ := ended
    exact keyed
  next actuator known =>
    simp only [Act.ends_bind_iff, Act.ends_pure_iff] at ended
    obtain ⟨_, _, receives, rfl, _⟩ := ended
    obtain ⟨rfl, _⟩ := Actuator.receive_ends receives
    exact keyed.insert (keyed id actuator known)

theorem handle_frame {event : Event} (ended : (orchestrator.handle event).Ends before next after) :
    next = { orchestrator with
      devices := next.devices
      sensors := next.sensors
      actuators := next.actuators
      exporter := next.exporter
      controlTicks := next.controlTicks
      snapshot := next.snapshot } ∧
    linksOf next.devices = linksOf orchestrator.devices ∧
    (orchestrator.actuators.Keyed Actuator.id → next.actuators.Keyed Actuator.id) := by
  have stopping (stops : event.payload = .stop) :
      next = { orchestrator with exporter := next.exporter, snapshot := next.snapshot } := by
    have stopped := handle_of_stop stops ended
    cases taken : orchestrator.snapshot with
    | none =>
        obtain ⟨_, _, _, rfl⟩ := stop_ends_of_fresh taken stopped
        rfl
    | some figures => rw [stop_ends_of_taken (by simp [taken]) stopped]
  simp only [handle, Act.ends_bind_iff, Act.ends_now_iff, Act.ends_note_iff] at ended
  obtain ⟨_, _, ⟨rfl, rfl⟩, _, _, rfl, ended⟩ := ended
  cases payload : event.payload with
  | launchApplication application =>
      simp only [payload, Act.ends_bind_iff, Act.ends_pure_iff] at ended
      obtain ⟨_, _, _, rfl, _⟩ := ended
      exact ⟨rfl, rfl, id⟩
  | controlTick =>
      rw [payload] at ended
      obtain ⟨rfl, _⟩ := control_cases ended
      exact ⟨rfl, rfl, id⟩
  | tupleFinished tuple =>
      simp only [payload, Act.ends_bind_iff, Act.ends_pure_iff] at ended
      obtain ⟨_, _, _, rfl, _⟩ := ended
      exact ⟨rfl, rfl, id⟩
  | stop =>
      rw [stopping payload]
      exact ⟨rfl, rfl, id⟩
  | device target deviceEvent =>
      rw [payload] at ended
      have links := deliver_links ended
      rw [deliver_frame ended]
      exact ⟨rfl, links, id⟩
  | transmit sensor =>
      rw [payload] at ended
      rw [transmit_frame ended]
      exact ⟨rfl, rfl, id⟩
  | delivery actuator tuple =>
      rw [payload] at ended
      have keyed (keyed : orchestrator.actuators.Keyed Actuator.id) := actuate_keyed keyed ended
      rw [actuate_frame ended]
      exact ⟨rfl, rfl, keyed⟩

theorem start_frame {result : Except Rejection Unit}
    (ended : orchestrator.start.Ends before (result, next) after) :
    next = { orchestrator with startedAt := next.startedAt } := by
  simp only [start, Act.ends_bind_iff, Act.ends_now_iff] at ended
  obtain ⟨_, _, ⟨rfl, rfl⟩, ended⟩ := ended
  split at ended
  · obtain ⟨same, _⟩ := Act.ends_pure_iff.mp ended
    cases same
    rfl
  · simp only [Act.ends_bind_iff, Act.ends_pure_iff] at ended
    obtain ⟨_, _, _, _, _, _, _, _, _, _, _, _, _, _, _, same, _⟩ := ended
    cases same
    rfl

theorem submit_devices (application : Application) (placement : Placement) (delay : Nat)
    (orchestrator : Orchestrator) :
    (orchestrator.submit application placement delay).value.2.devices = orchestrator.devices := by
  unfold submit
  split
  · rfl
  · rfl

/-! Registering. -/

section Enrolling

variable {topology : Topology} {front : List Device} {device : Device}

theorem enroll_of_unclaimed (unclaimed : Unclaimed orchestrator.devices topology.devices) :
    orchestrator.enroll topology = (.ok (), { orchestrator with
      devices := (connect (enterAll topology.devices orchestrator.devices)).value
      sensors := topology.sensors.foldl (fun map sensor => map.insert sensor.id sensor)
        orchestrator.sensors
      actuators := topology.actuators.foldl (fun map actuator => map.insert actuator.id actuator)
        orchestrator.actuators }) :=
  register_of_entered unclaimed.enterDevices _ _

theorem enroll_of_clashes (clashes : Clashes orchestrator.devices topology.devices front device) :
    orchestrator.enroll topology = (.error (.deviceAlreadyRegistered device.id),
      { orchestrator with devices := enterAll front orchestrator.devices }) := by
  unfold enroll register
  rw [clashes.enterDevices]
  rfl

theorem exists_enroll_iff : (∃ after, orchestrator.enroll topology = (.ok (), after)) ↔
    Unclaimed orchestrator.devices topology.devices := by
  constructor
  · rintro ⟨after, enrolled⟩
    rcases unclaimed_or_clashes orchestrator.devices topology.devices with
      unclaimed | ⟨front, device, clashes⟩
    · exact unclaimed
    · rw [enroll_of_clashes clashes] at enrolled
      cases enrolled
  · intro unclaimed
    exact ⟨_, enroll_of_unclaimed unclaimed⟩

theorem enroll_eq_error {rejection : Rejection}
    (rejected : orchestrator.enroll topology = (.error rejection, next)) :
    ∃ front device, Clashes orchestrator.devices topology.devices front device ∧
      rejection = .deviceAlreadyRegistered device.id ∧
      next = { orchestrator with devices := enterAll front orchestrator.devices } := by
  rcases unclaimed_or_clashes orchestrator.devices topology.devices with
    unclaimed | ⟨front, device, clashes⟩
  · rw [enroll_of_unclaimed unclaimed] at rejected
    cases rejected
  · rw [enroll_of_clashes clashes] at rejected
    cases rejected
    exact ⟨front, device, clashes, rfl, rfl⟩

theorem entered_eq_iff (unclaimed : Unclaimed orchestrator.devices front) :
    { orchestrator with devices := enterAll front orchestrator.devices } = orchestrator ↔
      front = [] := by
  rw [← enterAll_eq_iff unclaimed]
  constructor
  · exact congrArg Orchestrator.devices
  · intro same
    rw [same]

theorem mutual_of_enroll (enrolled : orchestrator.enroll topology = (.ok (), next)) :
    Mutual next.devices := by
  rw [enroll_of_unclaimed (exists_enroll_iff.mp ⟨next, enrolled⟩)] at enrolled
  cases enrolled
  exact mutual_connect _

end Enrolling

namespace Request

/-- A registration that is turned down and has still changed something. -/
def Tears (orchestrator : Orchestrator) (request : Request) : Prop :=
  ∃ (topology : Topology) (rejection : Rejection) (after : Orchestrator),
    request = .register topology.devices topology.sensors topology.actuators ∧
      orchestrator.enroll topology = (.error rejection, after) ∧ after ≠ orchestrator

variable {request : Request} {requests : List Request} {final : Orchestrator}

theorem mutual_perform (whole : ¬Tears orchestrator request) (inverse : Mutual orchestrator.devices)
    (performed : (request.perform orchestrator).outcome = .ok next) : Mutual next.devices := by
  cases request with
  | register devices sensors actuators =>
      obtain ⟨⟨result, reached⟩, registered, same⟩ := Run.outcome_bind_eq_ok_iff.mp performed
      have enrolled : orchestrator.enroll ⟨devices, sensors, actuators⟩ = (result, reached) :=
        Except.ok.inj registered
      cases same
      cases result with
      | ok => exact mutual_of_enroll enrolled
      | error rejection =>
          have unchanged : reached = orchestrator := by
            by_contra changed
            exact whole ⟨⟨devices, sensors, actuators⟩, rejection, reached, rfl, enrolled, changed⟩
          rwa [unchanged]
  | submit application placement delay =>
      obtain ⟨_, submitted, same⟩ := Run.outcome_bind_eq_ok_iff.mp performed
      cases submitted
      cases same
      rw [← submit_devices application placement delay] at inverse
      exact inverse
  | start context =>
      obtain ⟨⟨⟨_, _⟩, _⟩, ended, same⟩ := Run.outcome_bind_eq_ok_iff.mp performed
      cases same
      rwa [start_frame ended]
  | handle context event =>
      obtain ⟨_, ended⟩ := perform_handle performed
      exact inverse.congr (handle_frame ended).2.1.symm

theorem performAll_keeps {motive : Orchestrator → Prop}
    (step : ∀ earlier request later, requests = earlier ++ request :: later → ∀ between next,
      (performAll earlier orchestrator).outcome = .ok between → motive between →
        (request.perform between).outcome = .ok next → motive next)
    (begin : motive orchestrator)
    (performed : (performAll requests orchestrator).outcome = .ok final) : motive final := by
  induction requests generalizing orchestrator with
  | nil =>
      cases performed
      exact begin
  | cons request rest ih =>
      obtain ⟨next, first, later⟩ := Run.outcome_bind_eq_ok_iff.mp
        (show (request.perform orchestrator >>= performAll rest).outcome = _ from performed)
      refine ih ?_ (step [] request rest rfl orchestrator next rfl begin first) later
      rintro earlier other others rfl between reached before
      refine step (request :: earlier) other others rfl between reached ?_
      exact Run.outcome_bind_eq_ok_iff.mpr ⟨next, first, before⟩

theorem mutual_performAll
    (whole : ∀ earlier request later, requests = earlier ++ request :: later →
      ∀ between, (performAll earlier orchestrator).outcome = .ok between → ¬Tears between request)
    (inverse : Mutual orchestrator.devices)
    (performed : (performAll requests orchestrator).outcome = .ok final) :
    Mutual final.devices := by
  refine performAll_keeps (motive := fun reached => Mutual reached.devices) ?_ inverse performed
  intro earlier request later split between next reached inverse performed
  exact mutual_perform (whole earlier request later split between reached) inverse performed

end Request

/-- Devices are registered just if their identifiers are unclaimed, and then every child table lists
those that declare its device. Otherwise the first device whose identifier is taken is named. The
devices before it stay, those that were there are as they were, and so is everything else: only if
there are none before it, nothing has changed. As long as no registration is broken off later than
that, the child tables stay complete, whatever else is asked of the orchestrator. -/
theorem enrolls_whole_or_front (orchestrator : Orchestrator) :
    (∀ topology : Topology,
      ((∃ after, orchestrator.enroll topology = (.ok (), after)) ↔
        Unclaimed orchestrator.devices topology.devices) ∧
      (∀ after, orchestrator.enroll topology = (.ok (), after) → Mutual after.devices) ∧
      ∀ rejection after, orchestrator.enroll topology = (.error rejection, after) →
        ∃ front device, Clashes orchestrator.devices topology.devices front device ∧
          rejection = .deviceAlreadyRegistered device.id ∧
          after = { orchestrator with devices := enterAll front orchestrator.devices } ∧
          (∀ id old, orchestrator.devices.get? id = some old →
            after.devices.get? id = some old) ∧
          (after = orchestrator ↔ front = [])) ∧
    (Mutual orchestrator.devices → ∀ child declaring link registered,
      orchestrator.devices.get? child = some declaring → link ∈ declaring.links.parents →
        orchestrator.devices.get? link.parent = some registered →
          registered.links.children.contains child = true) ∧
    ∀ requests final, orchestrator.devices = .empty ∨ Mutual orchestrator.devices →
      (∀ earlier request later, requests = earlier ++ request :: later →
        ∀ between, (Request.performAll earlier orchestrator).outcome = .ok between →
          ¬Request.Tears between request) →
      (Request.performAll requests orchestrator).outcome = .ok final → Mutual final.devices := by
  refine ⟨fun topology => ⟨exists_enroll_iff, ?_, ?_⟩, ?_, ?_⟩
  · intro after enrolled
    exact mutual_of_enroll enrolled
  · intro rejection after rejected
    obtain ⟨front, device, clashes, named, rfl⟩ := enroll_eq_error rejected
    refine ⟨front, device, clashes, named, rfl, ?_, entered_eq_iff clashes.unclaimed⟩
    intro id old found
    exact enterAll_keeps clashes.unclaimed found
  · intro inverse child declaring link registered found declared known
    exact inverse.contains found declared known
  · intro requests final begun whole performed
    have inverse : Mutual orchestrator.devices := by
      rcases begun with fresh | inverse
      · rw [fresh]
        exact mutual_empty
      · exact inverse
    exact Request.mutual_performAll whole inverse performed

end Orchestrator

namespace Demo

def lot : Topology := ⟨[shed 2 [] []], [], []⟩

def overlap : Topology := ⟨[shed 1 [⟨⟨2⟩, 5⟩] [], shed 2 [] []], [], []⟩

def onLot : Orchestrator := ((Orchestrator.initial .standard .keeping).enroll lot).2

theorem lot_enrolls : (Orchestrator.initial .standard .keeping).enroll lot = (.ok (), onLot) := rfl

theorem lot_repeated : onLot.enroll lot = (.error (.deviceAlreadyRegistered ⟨2⟩), onLot) := rfl

/-- A shed whose registration is turned down with that of its parent is there all the same, and
missing from the table of its parent. -/
theorem lot_torn : ∃ rejection after declaring registered,
    onLot.enroll overlap = (.error rejection, after) ∧
      onLot.devices.get? ⟨1⟩ = none ∧ after.devices.get? ⟨1⟩ = some declaring ∧
      after.devices.get? ⟨2⟩ = some registered ∧ ⟨⟨2⟩, 5⟩ ∈ declaring.links.parents ∧
      registered.links.children.get? ⟨1⟩ = none :=
  ⟨_, _, _, _, rfl, rfl, rfl, rfl, by decide, rfl⟩

end Demo

theorem Orchestrator.enrolls_whole_or_front_lot :
    (∃ rejection after front device, Demo.onLot.enroll Demo.overlap = (.error rejection, after) ∧
      Clashes Demo.onLot.devices Demo.overlap.devices front device ∧ after ≠ Demo.onLot ∧
      front ≠ []) ∧
    ∃ final, (Request.performAll [.register Demo.lot.devices [] []] Demo.onLot).outcome =
        .ok final ∧ Mutual final.devices := by
  obtain ⟨calls, _, kept⟩ := Demo.onLot.enrolls_whole_or_front
  constructor
  · obtain ⟨front, device, clashes, _, same, _, unchanged⟩ :=
      (calls Demo.overlap).2.2 _ _ rfl
    have changed : front ≠ [] := by
      rintro rfl
      have found := congrArg (fun reached => reached.devices.contains ⟨1⟩) same
      cases found
    exact ⟨_, _, front, device, rfl, clashes, fun same => changed (unchanged.mp same), changed⟩
  · have again : (Request.performAll [.register Demo.lot.devices [] []] Demo.onLot).outcome =
        .ok Demo.onLot := by
      show Except.ok (Demo.onLot.enroll Demo.lot).2 = _
      rw [Demo.lot_repeated]
    refine ⟨Demo.onLot, again, kept _ _ (.inr (mutual_of_enroll Demo.lot_enrolls)) ?_ again⟩
    rintro earlier request later parts between reached
      ⟨⟨_, _, _⟩, _, after, same, enrolled, changed⟩
    cases earlier with
    | nil =>
        cases parts
        cases same
        cases reached
        have level := Demo.lot_repeated.symm.trans enrolled
        exact changed (congrArg Prod.snd level).symm
    | cons first rest => simp at parts

end FogNetwork
