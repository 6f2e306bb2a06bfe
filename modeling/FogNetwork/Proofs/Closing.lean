import FogNetwork.Orchestrator.Registration
import FogNetwork.Orchestrator.Submission
import FogNetwork.Proofs.Extension

/-! Whatever is asked of an orchestrator, in whatever order and context: the figures are taken at
the first stop, handed over once, and kept from then on. -/

namespace FogNetwork
namespace Orchestrator

section Frames

variable {orchestrator next : Orchestrator} {before after : Context}

theorem deliver_frame {device : DeviceId} {event : DeviceEvent}
    (ended : (orchestrator.deliver device event).Ends before next after) :
    next = { orchestrator with devices := next.devices } := by
  unfold deliver at ended
  split at ended
  · simp only [Act.ends_bind_iff, Act.ends_pure_iff] at ended
    obtain ⟨_, _, _, rfl, _⟩ := ended
    rfl
  · simp only [Act.ends_bind_iff, Act.ends_pure_iff] at ended
    obtain ⟨_, _, _, rfl, _⟩ := ended
    rfl

theorem transmit_frame {id : SensorId} (ended : (orchestrator.transmit id).Ends before next after) :
    next = { orchestrator with sensors := next.sensors } := by
  unfold transmit at ended
  split at ended
  · simp only [Act.ends_bind_iff, Act.ends_pure_iff] at ended
    obtain ⟨_, _, _, rfl, _⟩ := ended
    rfl
  · split at ended
    · split at ended
      · simp only [Act.ends_bind_iff, Act.ends_pure_iff] at ended
        obtain ⟨_, _, _, rfl, _⟩ := ended
        rfl
      · simp only [Act.ends_bind_iff, Act.ends_pure_iff] at ended
        obtain ⟨_, _, _, rfl, _⟩ := ended
        rfl
    · simp only [Act.ends_bind_iff, Act.ends_pure_iff] at ended
      obtain ⟨_, _, _, rfl, _⟩ := ended
      rfl

theorem actuate_frame {id : ActuatorId} {tuple : Tuple}
    (ended : (orchestrator.actuate id tuple).Ends before next after) :
    next = { orchestrator with actuators := next.actuators } := by
  unfold actuate at ended
  split at ended
  · simp only [Act.ends_bind_iff, Act.ends_pure_iff] at ended
    obtain ⟨_, _, _, rfl, _⟩ := ended
    rfl
  · simp only [Act.ends_bind_iff, Act.ends_pure_iff] at ended
    obtain ⟨_, _, _, rfl, _⟩ := ended
    rfl

theorem handle_figures {event : Event} (other : event.payload ≠ .stop)
    (ended : (orchestrator.handle event).Ends before next after) :
    next.snapshot = orchestrator.snapshot ∧ next.exporter = orchestrator.exporter := by
  simp only [handle, Act.ends_bind_iff, Act.ends_now_iff, Act.ends_note_iff] at ended
  obtain ⟨_, _, ⟨rfl, rfl⟩, _, _, rfl, ended⟩ := ended
  cases payload : event.payload with
  | launchApplication application =>
      simp only [payload, Act.ends_bind_iff, Act.ends_pure_iff] at ended
      obtain ⟨_, _, _, rfl, _⟩ := ended
      exact ⟨rfl, rfl⟩
  | controlTick =>
      rw [payload] at ended
      obtain ⟨rfl, _⟩ := control_cases ended
      exact ⟨rfl, rfl⟩
  | tupleFinished tuple =>
      simp only [payload, Act.ends_bind_iff, Act.ends_pure_iff] at ended
      obtain ⟨_, _, _, rfl, _⟩ := ended
      exact ⟨rfl, rfl⟩
  | stop => exact absurd payload other
  | device id deviceEvent =>
      rw [payload] at ended
      rw [deliver_frame ended]
      exact ⟨rfl, rfl⟩
  | transmit id =>
      rw [payload] at ended
      rw [transmit_frame ended]
      exact ⟨rfl, rfl⟩
  | delivery id tuple =>
      rw [payload] at ended
      rw [actuate_frame ended]
      exact ⟨rfl, rfl⟩

theorem start_figures {result : Except Rejection Unit}
    (ended : orchestrator.start.Ends before (result, next) after) :
    next.snapshot = orchestrator.snapshot ∧ next.exporter = orchestrator.exporter := by
  cases result with
  | ok =>
      obtain ⟨rfl, _⟩ := start_course ended
      exact ⟨rfl, rfl⟩
  | error rejection =>
      simp only [start, Act.ends_bind_iff, Act.ends_now_iff] at ended
      obtain ⟨_, _, ⟨rfl, rfl⟩, ended⟩ := ended
      split at ended
      · obtain ⟨same, _⟩ := Act.ends_pure_iff.mp ended
        cases same
        exact ⟨rfl, rfl⟩
      · simp only [Act.ends_bind_iff, Act.ends_pure_iff] at ended
        obtain ⟨_, _, _, _, _, _, _, _, _, _, _, _, _, _, _, same, _⟩ := ended
        cases same

theorem register_figures (devices : List Device) (sensors : List Sensor)
    (actuators : List Actuator) (orchestrator : Orchestrator) :
    (orchestrator.register devices sensors actuators).value.2.snapshot = orchestrator.snapshot ∧
      (orchestrator.register devices sensors actuators).value.2.exporter =
        orchestrator.exporter := by
  unfold register
  split
  · exact ⟨rfl, rfl⟩
  · exact ⟨rfl, rfl⟩

theorem submit_figures (application : Application) (placement : Placement) (delay : Nat)
    (orchestrator : Orchestrator) :
    (orchestrator.submit application placement delay).value.2.snapshot = orchestrator.snapshot ∧
      (orchestrator.submit application placement delay).value.2.exporter =
        orchestrator.exporter := by
  unfold submit
  split
  · exact ⟨rfl, rfl⟩
  · exact ⟨rfl, rfl⟩

theorem stop_ends_of_taken (taken : orchestrator.snapshot.isSome = true)
    (ended : orchestrator.stop.Ends before next after) : next = orchestrator := by
  simp only [stop, taken, ↓reduceIte, Act.ends_bind_iff, Act.ends_pure_iff] at ended
  obtain ⟨_, _, _, same, _⟩ := ended
  exact same

end Frames

/-- What can be asked of an orchestrator, at any time. The start and the events come with a context
of their own. -/
inductive Request where
  | register (devices : List Device) (sensors : List Sensor) (actuators : List Actuator)
  | submit (application : Application) (placement : Placement) (delay : Nat)
  | start (context : Context)
  | handle (context : Context) (event : Event)

namespace Request

def perform (request : Request) (orchestrator : Orchestrator) : Run Orchestrator :=
  match request with
  | .register devices sensors actuators => do
      return (← orchestrator.register devices sensors actuators).2
  | .submit application placement delay => do
      return (← orchestrator.submit application placement delay).2
  | .start context => do
      return (← orchestrator.start.run context).1.2
  | .handle context event => do
      return (← (orchestrator.handle event).run context).1

def performAll (requests : List Request) (orchestrator : Orchestrator) : Run Orchestrator :=
  requests.foldlM (fun orchestrator request => request.perform orchestrator) orchestrator

def isStop : Request → Bool
  | .handle _ event => event.payload.isStop
  | _ => false

variable {request : Request} {requests : List Request} {orchestrator next final : Orchestrator}

theorem perform_handle {context : Context} {event : Event}
    (performed : ((Request.handle context event).perform orchestrator).outcome = .ok next) :
    ∃ after, (orchestrator.handle event).Ends context next after := by
  obtain ⟨⟨_, after⟩, ended, same⟩ := Run.outcome_bind_eq_ok_iff.mp performed
  cases same
  exact ⟨after, ended⟩

theorem perform_figures (other : request.isStop = false)
    (performed : (request.perform orchestrator).outcome = .ok next) :
    next.snapshot = orchestrator.snapshot ∧ next.exporter = orchestrator.exporter := by
  cases request with
  | register devices sensors actuators =>
      obtain ⟨_, registered, same⟩ := Run.outcome_bind_eq_ok_iff.mp performed
      cases registered
      cases same
      exact register_figures ..
  | submit application placement delay =>
      obtain ⟨_, submitted, same⟩ := Run.outcome_bind_eq_ok_iff.mp performed
      cases submitted
      cases same
      exact submit_figures ..
  | start context =>
      obtain ⟨⟨⟨_, _⟩, _⟩, ended, same⟩ := Run.outcome_bind_eq_ok_iff.mp performed
      cases same
      exact start_figures ended
  | handle context event =>
      obtain ⟨_, ended⟩ := perform_handle performed
      refine handle_figures (fun stops => ?_) ended
      rw [isStop, Payload.isStop_iff.mpr stops] at other
      cases other

theorem perform_stop {context : Context} {event : Event} (stops : event.payload = .stop)
    (performed : ((Request.handle context event).perform orchestrator).outcome = .ok next) :
    (orchestrator.snapshot = none ∧
      ∃ figures, (orchestrator.figures { context with halted := true }).outcome = .ok figures ∧
        next.snapshot = some figures ∧
        next.exporter = (orchestrator.exporter.handOver figures).2) ∨
    (orchestrator.snapshot.isSome = true ∧ next = orchestrator) := by
  obtain ⟨after, ended⟩ := perform_handle performed
  have stopped := handle_of_stop stops ended
  cases taken : orchestrator.snapshot with
  | none =>
      obtain ⟨_, figures, made, rfl⟩ := stop_ends_of_fresh taken stopped
      exact .inl ⟨rfl, figures, made, rfl, rfl⟩
  | some snapshot => exact .inr ⟨rfl, stop_ends_of_taken (by simp [taken]) stopped⟩

theorem isStop_iff : request.isStop = true ↔
    ∃ context event, request = .handle context event ∧ event.payload = .stop := by
  cases request with
  | handle context event => simp [isStop, Payload.isStop_iff]
  | _ => simp [isStop]

/-- Where the figures are once it is known whether there was a stop: nowhere before, and afterwards
kept and handed over once, behind what had been handed over until then. -/
structure Closed (exporter : Exporter) (stopped : Bool) (orchestrator : Orchestrator) : Prop where
  taken : orchestrator.snapshot.isSome = stopped
  received : orchestrator.exporter.received = exporter.received ++ orchestrator.snapshot.toList

variable {exporter : Exporter} {stopped : Bool}

theorem Closed.perform (closed : Closed exporter stopped orchestrator)
    (performed : (request.perform orchestrator).outcome = .ok next) :
    Closed exporter (stopped || request.isStop) next ∧
      ∀ figures, orchestrator.snapshot = some figures → next.snapshot = some figures := by
  cases stops : request.isStop with
  | false =>
      obtain ⟨snapshot, means⟩ := perform_figures stops performed
      rw [Bool.or_false, snapshot]
      refine ⟨⟨?_, ?_⟩, fun _ own => own⟩
      · rw [snapshot, closed.taken]
      · rw [means, snapshot, closed.received]
  | true =>
      rw [Bool.or_true]
      obtain ⟨context, event, rfl, stop⟩ := isStop_iff.mp stops
      rcases perform_stop stop performed with ⟨fresh, figures, _, kept, handed⟩ | ⟨taken, rfl⟩
      · refine ⟨⟨by simp [kept], ?_⟩, by simp [fresh]⟩
        have received := closed.received
        rw [fresh, Option.toList_none, List.append_nil] at received
        rw [handed, kept, Exporter.handOver, received]
        rfl
      · exact ⟨⟨taken, closed.received⟩, fun _ own => own⟩

theorem performAll_append (earlier later : List Request) (orchestrator : Orchestrator) :
    performAll (earlier ++ later) orchestrator =
      performAll earlier orchestrator >>= performAll later :=
  List.foldlM_append

theorem Closed.performAll (closed : Closed exporter stopped orchestrator)
    (performed : (performAll requests orchestrator).outcome = .ok final) :
    Closed exporter (stopped || requests.any isStop) final ∧
      ∀ figures, orchestrator.snapshot = some figures → final.snapshot = some figures := by
  induction requests generalizing orchestrator stopped with
  | nil =>
      cases performed
      exact ⟨by simpa using closed, fun _ own => own⟩
  | cons request rest ih =>
      obtain ⟨next, first, later⟩ := Run.outcome_bind_eq_ok_iff.mp
        (show (request.perform orchestrator >>= Request.performAll rest).outcome = _ from performed)
      obtain ⟨closes, kept⟩ := closed.perform first
      obtain ⟨closed, keeps⟩ := ih closes later
      refine ⟨by rwa [List.any_cons, ← Bool.or_assoc], fun figures own => ?_⟩
      exact keeps figures (kept figures own)

theorem snapshot?_eq_ok_iff {figures : Snapshot} :
    orchestrator.snapshot? = .ok figures ↔ orchestrator.snapshot = some figures := by
  unfold snapshot?
  cases orchestrator.snapshot with
  | none => simp
  | some snapshot => simp

/-- After any of the requests that are made of a new orchestrator there are figures just if a stop
was among them. They have then been handed over once, and are still the same at the end. They are
those of the first stop. -/
theorem figures_taken_once {config : Config} {requests : List Request} {final : Orchestrator}
    (performed : (performAll requests (.initial config exporter)).outcome = .ok final) :
    (∀ earlier later, requests = earlier ++ later →
      ∃ between, (performAll earlier (.initial config exporter)).outcome = .ok between ∧
        ((∃ figures, between.snapshot? = .ok figures) ↔ ∃ request ∈ earlier, request.isStop) ∧
        between.exporter.received = exporter.received ++ between.snapshot.toList ∧
        ∀ figures, between.snapshot? = .ok figures → final.snapshot? = .ok figures) ∧
      ∀ earlier context event later, requests = earlier ++ .handle context event :: later →
        event.payload = .stop → (∀ request ∈ earlier, request.isStop = false) →
        ∃ between figures,
          (performAll earlier (.initial config exporter)).outcome = .ok between ∧
          (between.figures { context with halted := true }).outcome = .ok figures ∧
          final.snapshot? = .ok figures := by
  have fresh : Closed exporter false (.initial config exporter) :=
    ⟨rfl, (List.append_nil _).symm⟩
  have halfway : ∀ earlier later, requests = earlier ++ later → ∃ between,
      (performAll earlier (.initial config exporter)).outcome = .ok between ∧
        Closed exporter (earlier.any isStop) between ∧
        (performAll later between).outcome = .ok final := by
    rintro earlier later rfl
    rw [performAll_append] at performed
    obtain ⟨between, first, second⟩ := Run.outcome_bind_eq_ok_iff.mp performed
    exact ⟨between, first, (fresh.performAll first).1, second⟩
  simp only [snapshot?_eq_ok_iff]
  constructor
  · intro earlier later parts
    obtain ⟨between, first, closed, second⟩ := halfway earlier later parts
    refine ⟨between, first, ?_, closed.received, (closed.performAll second).2⟩
    rw [← Option.isSome_iff_exists, closed.taken, List.any_eq_true]
  · intro earlier context event later parts stops running
    obtain ⟨between, first, closed, second⟩ := halfway earlier _ parts
    have untaken := closed.taken
    rw [List.any_eq_false.mpr fun request member => by simp [running request member]] at untaken
    obtain ⟨stopped, stopping, rest⟩ := Run.outcome_bind_eq_ok_iff.mp
      (show ((Request.handle context event).perform between >>= performAll later).outcome = _ from
        second)
    rcases perform_stop stops stopping with ⟨_, figures, taken, kept, _⟩ | ⟨taken, _⟩
    · exact ⟨between, figures, first, taken, ((closed.perform stopping).1.performAll rest).2 _ kept⟩
    · rw [untaken] at taken
      cases taken

def hasty : List Request :=
  [.handle { Context.initial with now := ⟨7⟩ } ⟨⟨0⟩, ⟨7⟩, .stop⟩, .register [] [] [],
    .start .initial, .handle { Context.initial with now := ⟨9⟩ } ⟨⟨0⟩, ⟨7⟩, .stop⟩]

theorem figures_taken_once_early :
    ∃ requests final, (performAll requests (.initial .standard (.filing false))).outcome = .ok final ∧
      requests.countP isStop = 2 ∧
      ∃ figures, final.snapshot? = .ok figures ∧ figures.simulationTime = 7 ∧
        final.exporter.received = [figures] ∧ final.isStarted = true := by
  obtain ⟨closes, first⟩ := figures_taken_once
    (show (performAll hasty (.initial .standard (.filing false))).outcome = .ok _ from rfl)
  obtain ⟨_, figures, begun, taken, kept⟩ := first [] _ _ _ rfl rfl nofun
  obtain ⟨_, performed, _, received, _⟩ := closes hasty [] (List.append_nil _).symm
  cases performed
  cases begun
  cases taken
  exact ⟨hasty, _, rfl, rfl, _, kept, rfl, received, rfl⟩

end Request
end Orchestrator
end FogNetwork
