/-! Numbered names of the things in a network. The kind of thing is part of the type, so a sensor
never stands where a device is meant. -/

namespace FogNetwork

inductive EntityKind where
  | device
  | sensor
  | actuator
  | event
  | loop
  deriving DecidableEq

def EntityKind.mark : EntityKind → String
  | .device => "D"
  | .sensor => "S"
  | .actuator => "A"
  | .event => "E#"
  | .loop => "L"

@[ext] structure Identifier (kind : EntityKind) where
  number : Nat
  deriving DecidableEq

abbrev DeviceId := Identifier .device
abbrev SensorId := Identifier .sensor
abbrev ActuatorId := Identifier .actuator
abbrev EventId := Identifier .event
abbrev LoopId := Identifier .loop

namespace Identifier

variable {kind : EntityKind}

def text (id : Identifier kind) : String := kind.mark ++ toString id.number

instance : Inhabited (Identifier kind) := ⟨⟨0⟩⟩

instance : Ord (Identifier kind) := ⟨compareOn number⟩

instance : Std.TransOrd (Identifier kind) :=
  inferInstanceAs (Std.TransCmp (compareOn (@number kind)))

instance : Std.LawfulEqOrd (Identifier kind) where
  compare_self := Std.ReflOrd.compare_self (α := Nat)
  eq_of_compare same := Identifier.ext (Std.LawfulEqOrd.eq_of_compare (α := Nat) same)

end Identifier
end FogNetwork
