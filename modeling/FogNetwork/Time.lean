import FogNetwork.Quantity

/-! Virtual time, counted in ticks from the start of a simulation. -/

namespace FogNetwork

@[ext] structure Time where
  ticks : Nat
  deriving DecidableEq

namespace Time

def zero : Time := ⟨0⟩

instance : Inhabited Time := ⟨zero⟩

def after? (time : Time) (delay : Nat) : Option Time := (sum? time.ticks delay).map Time.mk

def since? (time earlier : Time) : Option Nat :=
  if earlier.ticks ≤ time.ticks then some (time.ticks - earlier.ticks) else none

def toFloat (time : Time) : Float := Float.ofNat time.ticks

def elapsed (earlier later : Time) : Float := later.toFloat - earlier.toFloat

def text (time : Time) : String := "T=" ++ toString time.ticks

theorem after?_eq_some_iff {time later : Time} {delay : Nat} :
    time.after? delay = some later ↔
      time.ticks + delay ≤ largest ∧ later.ticks = time.ticks + delay := by
  simp only [after?, Option.map_eq_some_iff, sum?_eq_some_iff]
  constructor
  · rintro ⟨total, ⟨fits, rfl⟩, rfl⟩
    exact ⟨fits, rfl⟩
  · rintro ⟨fits, equal⟩
    exact ⟨_, ⟨fits, rfl⟩, Time.ext equal.symm⟩

end Time
end FogNetwork
