import FogNetwork.Proofs.Engine
import Mathlib.Data.List.Nodup

/-! What is answered when one request is made after another, and what an agenda answers: pending
is what was entered and has not been taken since, and it is taken in dispatch order. -/

namespace FogNetwork

structure Exchange (ρ β : Type) where
  request : ρ
  reply : β

section

variable {ρ β σ : Type}

/-- Makes one request after another, as long as each of them is answered. -/
def converse? (answer? : ρ → σ → Option (β × σ)) :
    List ρ → σ → Option (List (Exchange ρ β) × σ)
  | [], state => some ([], state)
  | request :: rest, state => do
      let (reply, state) ← answer? request state
      let (history, state) ← converse? answer? rest state
      return (⟨request, reply⟩ :: history, state)

theorem converse?_cons {answer? : ρ → σ → Option (β × σ)} {request : ρ} {reply : β}
    {requests : List ρ} {history : List (Exchange ρ β)} {state next after : σ}
    (answered : answer? request state = some (reply, next))
    (goes_on : converse? answer? requests next = some (history, after)) :
    converse? answer? (request :: requests) state = some (⟨request, reply⟩ :: history, after) := by
  simp [converse?, answered, goes_on]

theorem converse?_keeps (answer? : ρ → σ → Option (β × σ))
    {motive : List ρ → List (Exchange ρ β) → σ → Prop}
    (step : ∀ request rest history state, motive (request :: rest) history state →
      ∃ reply next, answer? request state = some (reply, next) ∧
        motive rest (history ++ [⟨request, reply⟩]) next)
    {requests : List ρ} {state : σ} (begun : motive requests [] state) :
    ∃ history after, converse? answer? requests state = some (history, after) ∧
      history.map (·.request) = requests ∧ motive [] history after := by
  suffices general : ∀ earlier, motive requests earlier state →
      ∃ history after, converse? answer? requests state = some (history, after) ∧
        history.map (·.request) = requests ∧ motive [] (earlier ++ history) after from
    general [] begun
  clear begun
  induction requests generalizing state with
  | nil => exact fun earlier begun => ⟨[], state, rfl, rfl, by simpa using begun⟩
  | cons request rest ih =>
      intro earlier begun
      obtain ⟨reply, next, answered, first⟩ := step _ _ _ _ begun
      obtain ⟨history, after, goes_on, asked, last⟩ := ih _ first
      refine ⟨⟨request, reply⟩ :: history, after, converse?_cons answered goes_on, ?_, ?_⟩
      · rw [List.map_cons, asked]
      · simpa using last

end

theorem Event.urgency_eq_gt_iff {left right : Event} :
    left.urgency right = .gt ↔ left.before right := by
  simp only [urgency, before, Ordering.then_eq_gt, Nat.compare_eq_gt, Nat.compare_eq_eq]
  constructor
  · rintro (earlier | ⟨same, first⟩)
    · exact .inl earlier
    · exact .inr ⟨same.symm, first⟩
  · rintro (earlier | ⟨same, first⟩)
    · exact .inl earlier
    · exact .inr ⟨same.symm, first⟩

namespace Agenda

inductive Request where
  | enter (time : Time) (payload : Payload)
  | next
  | clear
  | drain

inductive Reply where
  | entered (id : EventId)
  | next (event? : Option Event)
  | cleared
  | drained (events : List Event)

def Request.isEntry : Request → Bool
  | .enter .. => true
  | _ => false

def answer? (request : Request) (agenda : Agenda) : Option (Reply × Agenda) :=
  match request with
  | .enter time payload =>
      (agenda.enter? time payload).map fun (id, after) => (.entered id, after)
  | .next =>
      match agenda.next? with
      | none => some (.next none, agenda)
      | some (event, rest) => some (.next (some event), rest)
  | .clear => some (.cleared, agenda.clear)
  | .drain => some (.drained agenda.drain.1, agenda.drain.2)

def entered? : Exchange Request Reply → Option Event
  | ⟨.enter time payload, .entered id⟩ => some ⟨id, time, payload⟩
  | _ => none

def removes (exchange : Exchange Request Reply) (event : Event) : Bool :=
  match exchange.reply with
  | .entered _ => false
  | .next taken? => taken?.any (·.id = event.id)
  | .cleared => true
  | .drained events => events.any (·.id = event.id)

/-- The events that were entered and that no later exchange has taken off. -/
def waiting : List (Exchange Request Reply) → List Event
  | [] => []
  | exchange :: later =>
      (entered? exchange).toList.filter (fun event => !later.any (removes · event)) ++
        waiting later

theorem waiting_concat (history : List (Exchange Request Reply))
    (exchange : Exchange Request Reply) :
    waiting (history ++ [exchange]) =
      (waiting history).filter (fun event => !removes exchange event) ++
        (entered? exchange).toList := by
  induction history with
  | nil => simp [waiting]
  | cons first rest ih =>
      simp only [List.cons_append, waiting, ih, List.filter_append, List.filter_filter,
        List.append_assoc, List.any_append, List.any_cons, List.any_nil, Bool.or_false,
        Bool.not_or]
      congr 2
      funext event
      exact Bool.and_comm ..

theorem waiting_sublist (history : List (Exchange Request Reply)) :
    (waiting history).Sublist (history.filterMap entered?) := by
  induction history with
  | nil => exact .slnil
  | cons first rest ih =>
      have kept := (List.filter_sublist (p := fun event => !rest.any (removes · event))
        (l := (entered? first).toList)).append ih
      cases entering : entered? first with
      | none => simpa [waiting, entering] using kept
      | some event => simpa [waiting, entering] using kept

structure Follows (history : List (Exchange Request Reply)) (agenda : Agenda) : Prop where
  pending : agenda.pending.Perm (waiting history)
  numbered : (history.filterMap entered?).map (·.id.number) = List.range agenda.nextId

variable {history : List (Exchange Request Reply)} {agenda : Agenda}

theorem Follows.distinct (follows : Follows history agenda) :
    (agenda.pending.map (·.id.number)).Nodup := by
  have issued : ((history.filterMap entered?).map (·.id.number)).Nodup := by
    rw [follows.numbered]
    exact List.nodup_range
  exact (follows.pending.map _).nodup_iff.mpr (((waiting_sublist history).map _).nodup issued)

theorem Follows.takes (follows : Follows history agenda) {exchange : Exchange Request Reply}
    {after : Agenda} (entersNone : entered? exchange = none)
    (left : after.pending.Perm ((waiting history).filter fun event => !removes exchange event))
    (sameId : after.nextId = agenda.nextId) : Follows (history ++ [exchange]) after := by
  constructor
  · simpa [waiting_concat, entersNone] using left
  · rw [List.filterMap_append, List.filterMap_cons_none entersNone, List.filterMap_nil,
      List.append_nil, follows.numbered, sameId]

theorem Follows.enter (follows : Follows history agenda) (time : Time) (payload : Payload)
    (room : agenda.nextId < largest) :
    ∃ reply next, agenda.answer? (.enter time payload) = some (reply, next) ∧
      next.nextId = agenda.nextId + 1 ∧
      Follows (history ++ [⟨.enter time payload, reply⟩]) next := by
  obtain ⟨⟨id, next⟩, entered⟩ : ∃ result, agenda.enter? time payload = some result := by
    rw [enter?, if_pos room]
    exact ⟨_, rfl⟩
  obtain ⟨rfl, nextId, pending⟩ := enter?_eq_some entered
  refine ⟨.entered agenda.nextEventId, next, by simp [answer?, entered], nextId, ?_, ?_⟩
  · have kept : (waiting history).filter (fun _ => !false) = waiting history := by simp
    rw [pending, waiting_concat]
    refine (insertInOrder_perm _ _).trans ((follows.pending.cons _).trans ?_)
    exact kept.symm ▸ (List.perm_append_singleton _ _).symm
  · rw [List.filterMap_append, List.map_append, follows.numbered, nextId, List.range_succ]
    rfl

theorem Follows.next (follows : Follows history agenda) :
    ∃ reply after, agenda.answer? .next = some (reply, after) ∧
      after.nextId = agenda.nextId ∧ Follows (history ++ [⟨.next, reply⟩]) after := by
  cases taken : agenda.next? with
  | none =>
      refine ⟨.next none, agenda, by simp [answer?, taken], rfl, follows.takes rfl ?_ rfl⟩
      have kept : (waiting history).filter (fun _ => !false) = waiting history := by simp
      exact kept.symm ▸ follows.pending
  | some pair =>
      obtain ⟨event, rest⟩ := pair
      obtain ⟨pending, nextId⟩ := next?_eq_some taken
      refine ⟨.next (some event), rest, by simp [answer?, taken], nextId,
        follows.takes rfl ?_ nextId⟩
      have distinct := follows.distinct
      rw [pending, List.map_cons, List.nodup_cons] at distinct
      have others : rest.pending.filter (fun other => !decide (event.id = other.id)) =
          rest.pending := by
        refine List.filter_eq_self.mpr fun other member => ?_
        have apart : event.id ≠ other.id := fun same =>
          distinct.1 (same ▸ List.mem_map_of_mem member)
        simpa using apart
      have left := follows.pending.filter fun other => !decide (event.id = other.id)
      rw [pending, List.filter_cons_of_neg (by simp), others] at left
      exact left

theorem Follows.clear (follows : Follows history agenda) :
    Follows (history ++ [⟨.clear, .cleared⟩]) agenda.clear :=
  follows.takes rfl (by simp [removes, Agenda.clear]) rfl

theorem Follows.drain (follows : Follows history agenda) :
    Follows (history ++ [⟨.drain, .drained agenda.pending⟩]) agenda.clear := by
  refine follows.takes rfl (.of_eq (List.filter_eq_nil_iff.mpr fun event member => ?_).symm) rfl
  have pending := follows.pending.mem_iff.mpr member
  simpa [removes] using ⟨event, pending, rfl⟩

theorem Follows.answer (follows : Follows history agenda) (request : Request)
    (room : request.isEntry = true → agenda.nextId < largest) :
    ∃ reply next, agenda.answer? request = some (reply, next) ∧
      next.nextId = agenda.nextId + (if request.isEntry then 1 else 0) ∧
      Follows (history ++ [⟨request, reply⟩]) next := by
  cases request with
  | enter time payload => exact follows.enter time payload (room rfl)
  | next => exact follows.next
  | clear => exact ⟨_, _, rfl, rfl, follows.clear⟩
  | drain => exact ⟨_, _, rfl, rfl, follows.drain⟩

theorem converse?_follows (requests : List Request)
    (enough : requests.countP Request.isEntry ≤ largest) :
    ∃ history agenda, converse? answer? requests .empty = some (history, agenda) ∧
      history.map (·.request) = requests ∧ Follows history agenda ∧
      agenda.nextId = requests.countP Request.isEntry := by
  have begun : Follows [] .empty ∧
      empty.nextId + requests.countP Request.isEntry = requests.countP Request.isEntry :=
    ⟨⟨.refl _, rfl⟩, Nat.zero_add _⟩
  refine converse?_keeps answer? (motive := fun rest history agenda => Follows history agenda ∧
    agenda.nextId + rest.countP Request.isEntry = requests.countP Request.isEntry) ?_ begun
  rintro request rest history agenda ⟨follows, numbers⟩
  rw [List.countP_cons] at numbers
  obtain ⟨reply, next, answered, nextId, later⟩ := follows.answer request fun entry => by
    rw [if_pos entry] at numbers
    omega
  exact ⟨reply, next, answered, later, by omega⟩

theorem converse?_replicate_next (agenda : Agenda) :
    converse? answer? (List.replicate agenda.size .next) agenda =
      some (agenda.drain.1.map fun event => ⟨.next, .next (some event)⟩, agenda.drain.2) := by
  obtain ⟨pending, nextId, ordered, issued⟩ := agenda
  induction pending with
  | nil => rfl
  | cons event rest ih =>
      have taken : answer? .next ⟨event :: rest, nextId, ordered, issued⟩ = some (.next (some event),
          ⟨rest, nextId, ordered.of_cons, fun other member =>
            issued other (List.mem_cons_of_mem _ member)⟩) := rfl
      exact converse?_cons taken (ih _ _)

/-- Identifiers are handed out in order, whatever happens in between. Pending are the events that
were entered and not yet taken, each once; the most urgent of them is taken first, and draining
gives them all in dispatch order, as taking them one by one does. -/
theorem answers_from_waiting (requests : List Request)
    (enough : requests.countP Request.isEntry ≤ largest) :
    ∃ history agenda, converse? answer? requests .empty = some (history, agenda) ∧
      history.map (·.request) = requests ∧
      (history.filterMap entered?).map (·.id.number) =
        List.range (requests.countP Request.isEntry) ∧
      (agenda.pending.Perm (waiting history) ∧ agenda.pending.Nodup ∧
        agenda.size = (waiting history).length ∧ agenda.isEmpty = (waiting history).isEmpty) ∧
      (agenda.next? = none ↔ waiting history = []) ∧
      (∀ event rest, agenda.next? = some (event, rest) →
        (event :: rest.pending).Perm (waiting history) ∧
        ∀ other ∈ rest.pending, event.before other ∧ event.urgency other = .gt) ∧
      (agenda.drain.1.Perm (waiting history) ∧ agenda.drain.1.Pairwise Event.before ∧
        agenda.drain.2.isEmpty = true ∧
        converse? answer? (List.replicate agenda.size .next) agenda =
          some (agenda.drain.1.map fun event => ⟨.next, .next (some event)⟩,
            agenda.drain.2)) := by
  obtain ⟨history, agenda, answered, asked, follows, numbers⟩ := converse?_follows requests enough
  refine ⟨history, agenda, answered, asked, numbers ▸ follows.numbered,
    ⟨follows.pending, follows.distinct.of_map _, follows.pending.length_eq, ?_⟩, ?_, ?_,
    follows.pending, agenda.ordered, rfl, converse?_replicate_next agenda⟩
  · exact follows.pending.isEmpty_eq
  · constructor
    · intro idle
      have empty := isEmpty_of_next?_eq_none idle
      rw [isEmpty, List.isEmpty_iff] at empty
      exact (empty ▸ follows.pending).nil_eq.symm
    · intro nothing
      have empty : agenda.pending = [] := (nothing ▸ follows.pending).eq_nil
      cases taken : agenda.next? with
      | none => rfl
      | some pair =>
          rw [(next?_eq_some taken).1] at empty
          cases empty
  · intro event rest taken
    have pending := (next?_eq_some taken).1
    refine ⟨pending ▸ follows.pending, fun other member => ?_⟩
    have ordered := agenda.ordered
    rw [pending, List.pairwise_cons] at ordered
    exact ⟨ordered.1 other member, Event.urgency_eq_gt_iff.mpr (ordered.1 other member)⟩

theorem answers_from_waiting_mixed :
    ∃ requests history agenda, requests.countP Request.isEntry = 7 ∧ 7 ≤ largest ∧
      converse? answer? requests .empty = some (history, agenda) ∧
      (history.filterMap entered?).map (·.id.number) = [0, 1, 2, 3, 4, 5, 6] ∧
      agenda.pending.Perm (waiting history) ∧
      (waiting history).map (·.id.number) = [5, 6] ∧
      agenda.drain.1.map (·.id.number) = [6, 5] ∧
      converse? answer? [.next, .next] agenda =
        some (agenda.drain.1.map fun event => ⟨.next, .next (some event)⟩, agenda.drain.2) := by
  let requests : List Request :=
    [.enter ⟨7⟩ .controlTick, .enter ⟨3⟩ .stop, .next, .clear, .enter ⟨9⟩ .controlTick,
      .enter ⟨4⟩ .controlTick, .drain, .enter ⟨5⟩ .stop, .next, .enter ⟨8⟩ .controlTick,
      .enter ⟨6⟩ .stop]
  have enough : requests.countP Request.isEntry ≤ largest := by decide
  obtain ⟨history, agenda, answered, _, numbered, ⟨pending, _, _, _⟩, _, _, _, _, _, taken⟩ :=
    answers_from_waiting requests enough
  have computed : (converse? answer? requests .empty).map (fun reached =>
      ((waiting reached.1).map (·.id.number), reached.2.drain.1.map (·.id.number))) =
      some ([5, 6], [6, 5]) := by decide
  rw [answered] at computed
  simp only [Option.map_some, Option.some.injEq, Prod.mk.injEq] at computed
  have two : agenda.drain.1.length = 2 := by
    simpa using congrArg List.length computed.2
  rw [show agenda.size = 2 from two] at taken
  exact ⟨requests, history, agenda, rfl, by decide, answered, numbered, pending, computed.1,
    computed.2, taken⟩

end Agenda
end FogNetwork
