import FogNetwork.Event

/-! The agenda of a simulation: its pending events in dispatch order, and the supply of event
identifiers, which never goes back. -/

namespace FogNetwork

/-- Puts an event behind all pending ones that are not later. -/
def insertInOrder (event : Event) : List Event → List Event
  | [] => [event]
  | first :: rest =>
      if event.time.ticks < first.time.ticks then event :: first :: rest
      else first :: insertInOrder event rest

theorem mem_insertInOrder {event other : Event} {pending : List Event} :
    other ∈ insertInOrder event pending ↔ other = event ∨ other ∈ pending := by
  induction pending with
  | nil => simp [insertInOrder]
  | cons first rest ih =>
      simp only [insertInOrder]
      split
      · simp
      · simp only [List.mem_cons, ih]
        exact or_left_comm

theorem insertInOrder_ordered {event : Event} {pending : List Event}
    (ordered : pending.Pairwise Event.before)
    (older : ∀ other ∈ pending, other.id.number < event.id.number) :
    (insertInOrder event pending).Pairwise Event.before := by
  induction ordered with
  | nil => simp [insertInOrder]
  | @cons first rest below tail ih =>
      simp only [insertInOrder]
      split
      next earlier =>
        refine .cons ?_ (.cons below tail)
        intro other member
        rcases List.mem_cons.mp member with same | later
        · exact same ▸ .inl earlier
        · exact Event.before_trans (.inl earlier) (below other later)
      next notEarlier =>
        refine .cons ?_ (ih fun other member => older other (List.mem_cons_of_mem _ member))
        intro other member
        rcases mem_insertInOrder.mp member with same | later
        · subst same
          have previous := older first (by simp)
          simp only [Event.before]
          omega
        · exact below other later

@[ext] structure Agenda where
  pending : List Event
  nextId : Nat
  ordered : pending.Pairwise Event.before
  issued : ∀ event ∈ pending, event.id.number < nextId

namespace Agenda

def empty : Agenda := ⟨[], 0, .nil, by simp⟩

instance : Inhabited Agenda := ⟨empty⟩

def size (agenda : Agenda) : Nat := agenda.pending.length

def isEmpty (agenda : Agenda) : Bool := agenda.pending.isEmpty

def nextEventId (agenda : Agenda) : EventId := ⟨agenda.nextId⟩

def enter? (agenda : Agenda) (time : Time) (payload : Payload) : Option (EventId × Agenda) :=
  if agenda.nextId < largest then
    let event : Event := ⟨agenda.nextEventId, time, payload⟩
    some (event.id,
      { pending := insertInOrder event agenda.pending
        nextId := agenda.nextId + 1
        ordered := insertInOrder_ordered agenda.ordered agenda.issued
        issued := by
          intro other member
          rcases mem_insertInOrder.mp member with same | pending
          · exact same ▸ Nat.lt_succ_self agenda.nextId
          · exact Nat.lt_succ_of_lt (agenda.issued other pending) })
  else none

def next? (agenda : Agenda) : Option (Event × Agenda) :=
  match agenda with
  | ⟨[], _, _, _⟩ => none
  | ⟨event :: rest, nextId, ordered, issued⟩ =>
      some (event,
        ⟨rest, nextId, ordered.of_cons, fun other member =>
          issued other (List.mem_cons_of_mem _ member)⟩)

/-- Drops every pending event. Identifiers keep growing afterwards. -/
def clear (agenda : Agenda) : Agenda := ⟨[], agenda.nextId, .nil, by simp⟩

def drain (agenda : Agenda) : List Event × Agenda := (agenda.pending, agenda.clear)

end Agenda
end FogNetwork
