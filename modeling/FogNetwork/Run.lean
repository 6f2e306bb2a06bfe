import FogNetwork.Notice

/-! Computations that report notices and may fail for good. The notices never reach the values
they are reported beside, and those reported before a fault are kept. -/

namespace FogNetwork

/-- Why a run cannot go on. Nothing is left of the state it was in. -/
inductive Fault where
  | overflow
  | unreachableTime
  | pastTime (now requested : Time)
  | backwardTime (now event : Time)
  deriving DecidableEq

def Fault.message : Fault → String
  | .overflow => "attempt to add with overflow"
  | .unreachableTime => "VirtualTime overflow when scheduling"
  | .pastTime now requested =>
      "Cannot schedule event in the past: now=" ++ now.text ++ ", at=" ++ requested.text
  | .backwardTime now event =>
      "Time went backward! current=" ++ now.text ++ ", event=" ++ event.text

@[ext] structure Logged (α : Type) where
  notices : List Notice
  value : α

namespace Logged

variable {α β : Type}

instance : Monad Logged where
  pure value := ⟨[], value⟩
  bind first next :=
    let second := next first.value
    ⟨first.notices ++ second.notices, second.value⟩

@[simp] theorem value_pure (value : α) : (pure value : Logged α).value = value := rfl

@[simp] theorem notices_pure (value : α) : (pure value : Logged α).notices = [] := rfl

@[simp] theorem value_bind (first : Logged α) (next : α → Logged β) :
    (first >>= next).value = (next first.value).value := rfl

@[simp] theorem notices_bind (first : Logged α) (next : α → Logged β) :
    (first >>= next).notices = first.notices ++ (next first.value).notices := rfl

instance : LawfulMonad Logged :=
  LawfulMonad.mk' Logged
    (fun _ => Logged.ext (List.append_nil _) rfl)
    (fun _ _ => rfl)
    (fun _ _ _ => Logged.ext (List.append_assoc ..) rfl)

def note (notice : Notice) : Logged Unit := ⟨[notice], ()⟩

@[simp] theorem value_note (notice : Notice) : (note notice).value = () := rfl

end Logged

abbrev Run := ExceptT Fault Logged

namespace Run

variable {α β : Type}

def outcome (run : Run α) : Except Fault α := run.run.value

def notices (run : Run α) : List Notice := run.run.notices

def note (notice : Notice) : Run Unit := ExceptT.lift (Logged.note notice)

def orFault (value? : Option α) (fault : Fault) : Run α :=
  match value? with
  | some value => pure value
  | none => throw fault

theorem outcome_bind_eq_ok_iff {first : Run α} {next : α → Run β} {value : β} :
    (first >>= next).outcome = .ok value ↔
      ∃ middle, first.outcome = .ok middle ∧ (next middle).outcome = .ok value := by
  obtain ⟨notices, reached⟩ := first
  cases reached with
  | error fault => simp [outcome, bind, ExceptT.bind, ExceptT.mk, ExceptT.bindCont, ExceptT.run]
  | ok middle => simp [outcome, bind, ExceptT.bind, ExceptT.mk, ExceptT.bindCont, ExceptT.run]

@[simp] theorem outcome_pure (value : α) : (pure value : Run α).outcome = .ok value := rfl

@[simp] theorem outcome_throw (fault : Fault) : (throw fault : Run α).outcome = .error fault := rfl

@[simp] theorem outcome_note (notice : Notice) : (note notice).outcome = .ok () := rfl

end Run
end FogNetwork
