import FogNetwork.Proofs.Handlers
import Mathlib.Tactic.Choose

/-! A reaction told as a script: which calls it makes on its context, one after another, and what it
goes on with after each answer. Every reaction within the means of a handler is the play of such a
script. -/

namespace FogNetwork

inductive Ask where
  | look
  | schedule (time : Time) (payload : Payload)
  | measure (timings : Timings) (usage : Usage)
  | terminate

namespace Ask

def Answer : Ask → Type
  | .look => Context
  | .schedule .. => EventId
  | .measure .. | .terminate => PUnit

def act : (ask : Ask) → Act ask.Answer
  | .look => get
  | .schedule time payload => Act.scheduleAt time payload
  | .measure timings usage =>
      modify fun context => { context with timings := timings, usage := usage }
  | .terminate => Act.terminate

end Ask

inductive Script (α : Type) where
  | done (value : α)
  | fail (fault : Fault)
  | note (notice : Notice) (next : Script α)
  | call (ask : Ask) (next : ask.Answer → Script α)

structure Moment where
  ask : Ask
  before : Context
  after : Context

namespace Script

variable {α β : Type}

def play : Script α → Act α
  | .done value => pure value
  | .fail fault => liftM (throw fault : Run α)
  | .note notice next => do
      Act.note notice
      next.play
  | .call ask next => do
      let answer ← ask.act
      (next answer).play

/-- The calls of a script that is played in a context, up to its end or a fault. -/
def course : Script α → Context → List Moment
  | .done _, _ => []
  | .fail _, _ => []
  | .note _ next, context => next.course context
  | .call ask next, context =>
      match (ask.act.run context).outcome with
      | .ok (answer, after) => ⟨ask, context, after⟩ :: (next answer).course after
      | .error _ => []

def bind : Script α → (α → Script β) → Script β
  | .done value, next => next value
  | .fail fault, _ => .fail fault
  | .note notice rest, next => .note notice (rest.bind next)
  | .call ask rest, next => .call ask fun answer => (rest answer).bind next

def ofOutcome : Except Fault α → Script α
  | .ok value => .done value
  | .error fault => .fail fault

def ofRun (run : Run α) : Script α := run.notices.foldr .note (ofOutcome run.outcome)

theorem play_bind (script : Script α) (next : α → Script β) :
    (script.bind next).play = script.play >>= fun value => (next value).play := by
  induction script with
  | done value => rw [bind, play, pure_bind]
  | fail fault => rfl
  | note notice rest ih =>
      rw [bind, play, play, ih, bind_assoc]
  | call ask rest ih =>
      rw [bind, play, play, bind_assoc]
      exact bind_congr ih

theorem play_ofRun (run : Run α) : (ofRun run).play = liftM run := by
  obtain ⟨notices, outcome⟩ := run
  change (notices.foldr note (ofOutcome outcome)).play = _
  induction notices with
  | nil => cases outcome <;> rfl
  | cons notice rest ih =>
      rw [List.foldr_cons, play, ih]
      cases outcome <;> rfl

end Script

/-- Whatever a handler can do is to play a script. -/
theorem Expressible.exists_script {α : Type} {allowed : Notice → Prop} {act : Act α}
    (expressible : Expressible allowed act) : ∃ script : Script α, script.play = act := by
  induction expressible with
  | result value => exact ⟨.done value, rfl⟩
  | sequence _ _ first next =>
      obtain ⟨first, rfl⟩ := first
      choose next plays using next
      refine ⟨first.bind next, ?_⟩
      rw [Script.play_bind]
      exact bind_congr plays
  | look => exact ⟨.call .look .done, bind_pure _⟩
  | compute => exact ⟨.ofRun _, Script.play_ofRun _⟩
  | schedule time => exact ⟨.call (.schedule time _) .done, bind_pure _⟩
  | measure timings usage => exact ⟨.call (.measure timings usage) .done, bind_pure _⟩
  | terminate => exact ⟨.call .terminate .done, bind_pure _⟩

end FogNetwork
