import FogNetwork.Proofs.Admission
import FogNetwork.Proofs.Enrolment

/-! Submitting again and again. The last submission that is accepted takes the place of those before
it, but for the area it serves: if it declares none, the area declared last stays entered. -/

namespace FogNetwork
namespace Orchestrator

def offer (orchestrator : Orchestrator) (submission : Submission) :
    Except Rejection Unit × Orchestrator :=
  (orchestrator.submit submission.application submission.placement submission.delay).value

def offerAll (orchestrator : Orchestrator) (submissions : List Submission) : Orchestrator :=
  submissions.foldl (fun orchestrator submission => (orchestrator.offer submission).2) orchestrator

def accepted (orchestrator : Orchestrator) : List Submission → List Submission
  | [] => []
  | submission :: rest =>
      match orchestrator.offer submission with
      | (.ok (), next) => submission :: next.accepted rest
      | (.error _, next) => next.accepted rest

def subscribed (orchestrator : Orchestrator) (submission : Submission) : Submission :=
  { submission with
    application := (subscribeActuators orchestrator.actuators submission.application).value }

def enterArea (coverage : SortedMap String Coverage) (submission : Submission) :
    SortedMap String Coverage :=
  submission.application.coverage.elim coverage (coverage.insert submission.application.id)

def lastArea? (submissions : List Submission) : Option Coverage :=
  (submissions.filterMap (·.application.coverage)).getLast?

variable {base orchestrator : Orchestrator} {submission last : Submission}
variable {taken submissions front : List Submission}

theorem subscribed_id : (orchestrator.subscribed submission).application.id =
    submission.application.id := by
  rw [subscribed, (subscribeActuators_extends orchestrator.actuators submission.application).rest]

theorem subscribed_coverage : (orchestrator.subscribed submission).application.coverage =
    submission.application.coverage := by
  rw [subscribed, (subscribeActuators_extends orchestrator.actuators submission.application).rest]

theorem lastArea?_append_singleton : lastArea? (front ++ [last]) =
    last.application.coverage.or (lastArea? front) := by
  cases own : last.application.coverage with
  | none => simp [lastArea?, own]
  | some area => simp [lastArea?, own]

theorem lastArea?_eq_none_iff : lastArea? submissions = none ↔
    ∀ submission ∈ submissions, submission.application.coverage = none := by
  rw [lastArea?, List.getLast?_eq_none_iff, List.filterMap_eq_nil_iff]

theorem lastArea?_eq_iff (latest : submissions.getLast? = some last) :
    lastArea? submissions = last.application.coverage ↔
      last.application.coverage ≠ none ∨
        ∀ submission ∈ submissions, submission.application.coverage = none := by
  obtain ⟨front, rfl⟩ := List.getLast?_eq_some_iff.mp latest
  rw [← lastArea?_eq_none_iff, lastArea?_append_singleton]
  cases last.application.coverage with
  | none => simp
  | some area => simp

theorem get?_enterAreas {id : String} (own : ∀ submission ∈ taken, submission.application.id = id)
    (coverage : SortedMap String Coverage) (other : String) :
    (taken.foldl enterArea coverage).get? other =
      if other = id then (lastArea? taken).or (coverage.get? id) else coverage.get? other := by
  induction taken using List.reverseRecOn with
  | nil => by_cases here : other = id <;> simp [lastArea?, here]
  | append_singleton front last ih =>
      have before := ih fun submission member => own submission (by simp [member])
      have named := own last (by simp)
      rw [List.foldl_append, List.foldl_cons, List.foldl_nil, lastArea?_append_singleton, enterArea,
        named]
      cases last.application.coverage with
      | none => simpa using before
      | some area =>
          rw [Option.elim_some, SortedMap.get?_insert]
          by_cases here : other = id
          · simp [here]
          · simpa [here] using before

theorem enterAreas_eq_iff
    (named : ∀ submission ∈ taken, submission.application.id = last.application.id) :
    taken.foldl enterArea .empty = enterArea .empty last ↔
      lastArea? taken = last.application.coverage := by
  have areas := get?_enterAreas named .empty
  have self : ∀ submission ∈ [last], submission.application.id = last.application.id := by simp
  have own := get?_enterAreas self .empty
  have single : lastArea? [last] = last.application.coverage := by
    rw [← List.nil_append [last], lastArea?_append_singleton]
    exact Option.or_none
  simp only [single, List.foldl_cons, List.foldl_nil, SortedMap.get?_empty, Option.or_none]
    at areas own
  constructor
  · intro same
    have found := areas last.application.id
    rw [same, own, if_pos rfl, if_pos rfl] at found
    exact found.symm
  · intro level
    ext1 other
    rw [areas, own, level]

/-- How an orchestrator stands that held nothing at first and has since accepted the submissions
`taken`. -/
structure Since (base : Orchestrator) (taken : List Submission) (orchestrator : Orchestrator) :
    Prop where
  state : orchestrator = { base with
    coverage := taken.foldl enterArea base.coverage
    active := taken.getLast?.map base.subscribed }
  alone : ∀ submission ∈ taken, base.Admissible submission.application submission.placement
  named : ∀ submission ∈ taken, ∀ other ∈ taken, submission.application.id = other.application.id

namespace Since

theorem begin (idle : base.active = none) : base.Since [] base := by
  refine ⟨?_, by simp, by simp⟩
  rw [List.foldl_nil, List.getLast?_nil, Option.map_none, ← idle]

theorem admissible (since : base.Since taken orchestrator) (idle : base.active = none)
    (admissible : orchestrator.Admissible submission.application submission.placement) :
    base.Admissible submission.application submission.placement where
  early := by simpa only [since.state] using admissible.early
  same := by simp [idle]
  covers := admissible.covers
  hosts := by simpa only [since.state] using admissible.hosts

theorem same_id (since : base.Since taken orchestrator)
    (admissible : orchestrator.Admissible submission.application submission.placement) :
    ∀ other ∈ taken, other.application.id = submission.application.id := by
  intro other member
  obtain ⟨last, latest⟩ := Option.isSome_iff_exists.mp
    (List.getLast?_isSome.mpr (List.ne_nil_of_mem member))
  have held : orchestrator.active = some (base.subscribed last) := by
    rw [since.state, latest, Option.map_some]
  rw [since.named other member last (List.mem_of_getLast? latest), ← admissible.same _ held,
    subscribed_id]

theorem hold (since : base.Since taken orchestrator) (idle : base.active = none)
    (admissible : orchestrator.Admissible submission.application submission.placement) :
    base.Since (taken ++ [submission])
      (orchestrator.holding submission.application submission.placement submission.delay) := by
  have same := since.same_id admissible
  refine ⟨?_, ?_, ?_⟩
  · rw [holding, since.state, List.foldl_append, List.getLast?_concat]
    rfl
  · intro other member
    rcases List.mem_append.mp member with early | last
    · exact since.alone other early
    · rw [List.mem_singleton.mp last]
      exact since.admissible idle admissible
  · have all : ∀ other ∈ taken ++ [submission],
        other.application.id = submission.application.id := by
      intro other member
      rcases List.mem_append.mp member with early | last
      · exact same other early
      · rw [List.mem_singleton.mp last]
    intro first member second other
    rw [all first member, all second other]

theorem offerAll (since : base.Since taken orchestrator) (idle : base.active = none) :
    base.Since (taken ++ orchestrator.accepted submissions)
      (orchestrator.offerAll submissions) := by
  induction submissions generalizing taken orchestrator with
  | nil => rwa [accepted, List.append_nil]
  | cons submission rest ih =>
      rcases admissible_or_refuses orchestrator submission.application submission.placement with
        admissible | ⟨rejection, refuses⟩
      · have offered : orchestrator.offer submission = (.ok (), orchestrator.holding
            submission.application submission.placement submission.delay) :=
          submit_of_admits admissible.admits
        have later := ih (since.hold idle admissible)
        rw [accepted, Orchestrator.offerAll, List.foldl_cons, offered]
        rwa [List.append_assoc] at later
      · have offered : orchestrator.offer submission = (.error rejection, orchestrator) :=
          submit_of_refused refuses.admits
        rw [accepted, Orchestrator.offerAll, List.foldl_cons, offered]
        exact ih since

end Since

theorem register_frame (devices : List Device) (sensors : List Sensor) (actuators : List Actuator)
    (orchestrator : Orchestrator) :
    (orchestrator.register devices sensors actuators).value.2.active = orchestrator.active ∧
      (orchestrator.register devices sensors actuators).value.2.coverage =
        orchestrator.coverage := by
  unfold register
  split
  · exact ⟨rfl, rfl⟩
  · exact ⟨rfl, rfl⟩

/-- No area is entered but for an application that is held. -/
def Bare (orchestrator : Orchestrator) : Prop :=
  orchestrator.active = none → orchestrator.coverage = .empty

namespace Request

variable {request : Request} {requests : List Request} {next final : Orchestrator}

theorem bare_perform (bare : orchestrator.Bare)
    (performed : (request.perform orchestrator).outcome = .ok next) : next.Bare := by
  cases request with
  | register devices sensors actuators =>
      obtain ⟨_, registered, same⟩ := Run.outcome_bind_eq_ok_iff.mp performed
      cases registered
      cases same
      obtain ⟨active, coverage⟩ := register_frame devices sensors actuators orchestrator
      intro idle
      exact coverage.trans (bare (active.symm.trans idle))
  | submit application placement delay =>
      obtain ⟨⟨result, reached⟩, submitted, same⟩ := Run.outcome_bind_eq_ok_iff.mp performed
      have offered : (orchestrator.submit application placement delay).value = (result, reached) :=
        Except.ok.inj submitted
      cases same
      cases result with
      | ok =>
          obtain ⟨_, rfl⟩ := submit_eq_ok_iff.mp offered
          exact nofun
      | error rejection =>
          obtain ⟨_, rfl⟩ := submit_eq_error_iff.mp offered
          exact bare
  | start context =>
      obtain ⟨⟨⟨_, _⟩, _⟩, ended, same⟩ := Run.outcome_bind_eq_ok_iff.mp performed
      cases same
      rw [start_frame ended]
      exact bare
  | handle context event =>
      obtain ⟨_, ended⟩ := perform_handle performed
      rw [(handle_frame ended).1]
      exact bare

theorem bare_performAll (bare : orchestrator.Bare)
    (performed : (performAll requests orchestrator).outcome = .ok final) : final.Bare := by
  refine performAll_keeps ?_ bare performed
  intro _ request _ _ between next _ bare performed
  exact bare_perform bare performed

end Request

/-- Of several submissions the last that is accepted is held, as if the others had never been made.
The area that is entered for it is the one declared last: where the last submission declares none
and an earlier one did, the area of the earlier one stays, and in no other case is there a
difference. -/
theorem resubmission_replaces (base : Orchestrator) (idle : base.active = none) :
    (∀ submissions last, (base.accepted submissions).getLast? = some last →
      ∃ alone held, base.offer last = (.ok (), alone) ∧ alone.active = some held ∧
        held = ⟨(subscribeActuators base.actuators last.application).value, last.placement,
          last.delay⟩ ∧
        base.offerAll submissions =
          { alone with coverage := (base.offerAll submissions).coverage } ∧
        (∀ other, other ≠ held.application.id →
          (base.offerAll submissions).coverage.get? other = base.coverage.get? other) ∧
        (base.offerAll submissions).coverage.get? held.application.id =
          (lastArea? (base.accepted submissions)).or
            (base.coverage.get? held.application.id) ∧
        (base.coverage = .empty →
          (base.offerAll submissions = alone ↔ held.application.coverage ≠ none ∨
            ∀ submission ∈ base.accepted submissions, submission.application.coverage = none) ∧
          ((base.offerAll submissions).coverage.get? held.application.id =
              held.application.coverage ↔
            held.application.coverage ≠ none ∨
              ∀ submission ∈ base.accepted submissions,
                submission.application.coverage = none))) ∧
    ∀ config exporter requests,
      (Request.performAll requests (.initial config exporter)).outcome = .ok base →
        base.coverage = .empty := by
  constructor
  · intro submissions last latest
    have since : base.Since ([] ++ base.accepted submissions) (base.offerAll submissions) :=
      (Since.begin idle).offerAll idle
    rw [List.nil_append] at since
    have member := List.mem_of_getLast? latest
    have named : ∀ other ∈ base.accepted submissions,
        other.application.id = last.application.id :=
      fun other listed => since.named other listed last member
    have areas := get?_enterAreas named base.coverage
    have entered : (base.offerAll submissions).coverage =
        (base.accepted submissions).foldl enterArea base.coverage :=
      congrArg Orchestrator.coverage since.state
    have state : base.offerAll submissions = { base with
        coverage := (base.accepted submissions).foldl enterArea base.coverage
        active := some (base.subscribed last) } := by
      rw [since.state, latest, Option.map_some]
    refine ⟨_, base.subscribed last, submit_of_admits (since.alone last member).admits, rfl, rfl,
      ?_, ?_, ?_, ?_⟩
    · rw [state]
      rfl
    · intro other differs
      rw [subscribed_id] at differs
      rw [entered, areas, if_neg differs]
    · rw [subscribed_id, entered, areas, if_pos rfl]
    · intro blank
      rw [subscribed_id, subscribed_coverage, ← lastArea?_eq_iff latest, entered, areas, if_pos rfl,
        blank, SortedMap.get?_empty, Option.or_none]
      refine ⟨?_, Iff.rfl⟩
      rw [← enterAreas_eq_iff named, state, ← blank]
      constructor
      · exact congrArg Orchestrator.coverage
      · intro same
        rw [same]
        rfl
  · intro config exporter requests performed
    exact Request.bare_performAll (fun _ => rfl) performed idle

end Orchestrator

namespace Demo

def meadow : Topology := ⟨[.recorder (.named ⟨0⟩ "kiosk")], [], []⟩

def field : Orchestrator := ((Orchestrator.initial .standard .keeping).enroll meadow).2

def park (area : Option Coverage) (delay : Nat) : Submission :=
  ⟨{ Application.named "park" with modules := [⟨"gate", 10, []⟩], coverage := area },
    .ofPairs [(⟨0⟩, "gate")], delay⟩

def unplaced : Submission := { park none 7 with placement := .empty }

def lawn : Coverage := ⟨1, 2, 3, 4⟩

def pond : Coverage := ⟨5, 6, 7, 8⟩

/-- The area of an earlier submission is still entered for an application that declares none. -/
theorem park_lingers : ∃ alone, field.active = none ∧
    field.accepted [park (some lawn) 0, park none 0] = [park (some lawn) 0, park none 0] ∧
    field.offer (park none 0) = (.ok (), alone) ∧
    alone.coverage.get? "park" = none ∧
    (field.offerAll [park (some lawn) 0, park none 0]).application?.map (·.coverage) = some none ∧
    (field.offerAll [park (some lawn) 0, park none 0]).coverage.get? "park" = some lawn :=
  ⟨_, rfl, rfl, rfl, rfl, rfl, rfl⟩

end Demo

theorem Orchestrator.resubmission_replaces_park : ∃ alone,
    Demo.field.offer (Demo.park (some Demo.pond) 5) = (.ok (), alone) ∧
      Demo.field.offerAll [Demo.park (some Demo.lawn) 0, Demo.park (some Demo.pond) 5,
        Demo.unplaced] = alone ∧
      Demo.field.coverage = .empty := by
  obtain ⟨offers, fresh⟩ := Demo.field.resubmission_replaces rfl
  have blank : Demo.field.coverage = .empty := fresh .standard .keeping
    [.register Demo.meadow.devices [] []] rfl
  obtain ⟨alone, held, offered, _, holds, _, _, _, same⟩ := offers
    [Demo.park (some Demo.lawn) 0, Demo.park (some Demo.pond) 5, Demo.unplaced]
    (Demo.park (some Demo.pond) 5) rfl
  subst holds
  exact ⟨alone, offered, (same blank).1.mpr (.inl nofun), blank⟩

end FogNetwork
