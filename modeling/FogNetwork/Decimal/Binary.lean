/-! Finite floats as whole numbers times powers of two. -/

namespace FogNetwork

structure Binary where
  negative : Bool
  significand : Nat
  exponent : Int
  deriving DecidableEq

namespace Binary

/-- The least exponent; numbers with smaller significands share it. -/
def leastExponent : Int := -1074

def leastNormal : Nat := 4503599627370496

def signBit : Nat := 9223372036854775808

def ofFloat? (value : Float) : Option Binary :=
  let bits : Nat := value.toBits.toNat
  let negative := bits / signBit % 2 == 1
  let biased : Nat := bits / leastNormal % 2048
  let fraction : Nat := bits % leastNormal
  if biased = 2047 then none
  else if biased = 0 then some ⟨negative, fraction, leastExponent⟩
  else some ⟨negative, leastNormal + fraction, (biased : Int) - 1075⟩

/-- The float with this value, if its significand has at most 53 bits. What is too great is
infinite. -/
def toFloat (binary : Binary) : Float :=
  let magnitude :=
    if binary.significand < leastNormal then binary.significand
    else
      let biased := (binary.exponent + 1075).toNat
      if 2047 ≤ biased then 2047 * leastNormal
      else biased * leastNormal + (binary.significand - leastNormal)
  Float.ofBits (UInt64.ofNat ((if binary.negative then signBit else 0) + magnitude))

def power (base : Nat) (exponent : Int) : Nat × Nat :=
  (base.pow exponent.toNat, base.pow (-exponent).toNat)

end Binary
end FogNetwork
