import FogNetwork.Decimal.Binary

/-! The float nearest to a decimal number. Of two floats equally near, the one with the even
significand is taken. -/

namespace FogNetwork

/-- The quotient rounded to the nearest whole number, a half to the even one. -/
def roundQuotient (numerator denominator : Nat) : Nat :=
  let quotient := numerator / denominator
  let twice := 2 * (numerator % denominator)
  if twice < denominator then quotient
  else if denominator < twice then quotient + 1
  else if quotient % 2 = 0 then quotient
  else quotient + 1

def inUnits (numerator denominator : Nat) (exponent : Int) : Nat × Nat :=
  let unit := Binary.power 2 exponent
  (numerator * unit.2, denominator * unit.1)

/-- The exponent at which a positive fraction has a significand of 53 bits, or the least one. -/
def unitExponent (numerator denominator : Nat) : Int :=
  let guess := (numerator.log2 : Int) - (denominator.log2 : Int) - 52
  let scaled := inUnits numerator denominator guess
  let exact := if scaled.1 / scaled.2 < Binary.leastNormal then guess - 1 else guess
  max exact Binary.leastExponent

def nearestFraction (negative : Bool) (numerator denominator : Nat) : Float :=
  let exponent := unitExponent numerator denominator
  let scaled := inUnits numerator denominator exponent
  let significand := roundQuotient scaled.1 scaled.2
  if significand = 2 * Binary.leastNormal then
    Binary.toFloat ⟨negative, Binary.leastNormal, exponent + 1⟩
  else Binary.toFloat ⟨negative, significand, exponent⟩

/-- The float nearest to `digits * 10 ^ exponent`, or to its negative. Numbers beyond every float
and numbers next to zero are told by the number of their digits. -/
def nearestFloat (negative : Bool) (digits : Nat) (exponent : Int) : Float :=
  let width : Int := (Nat.toDigits 10 digits).length + exponent
  if digits = 0 ∨ width < -400 then Binary.toFloat ⟨negative, 0, 0⟩
  else if 400 < width then Binary.toFloat ⟨negative, Binary.leastNormal, 1000⟩
  else
    let scale := Binary.power 10 exponent
    nearestFraction negative (digits * scale.1) scale.2

end FogNetwork
