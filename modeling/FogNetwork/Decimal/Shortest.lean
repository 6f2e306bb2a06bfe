import FogNetwork.Decimal.Binary

/-! The shortest decimal text of a float: the fewest digits that read back as the same float, and
of those the ones nearest to it. -/

namespace FogNetwork

structure Decimal where
  digits : Nat
  exponent : Int
  deriving DecidableEq

/-- The numbers that read back as one float: all between `low` and `high`, which are fractions
over `denominator`, and the two ends if `closed`. -/
structure ReadingRange where
  low : Nat
  value : Nat
  high : Nat
  denominator : Nat
  closed : Bool

namespace ReadingRange

/-- Half of the way to the neighbours on both sides. The lower neighbour of a power of two is
nearer than the upper one. -/
def ofBinary (binary : Binary) : ReadingRange :=
  let unit := Binary.power 2 (binary.exponent - 2)
  let power := binary.significand = Binary.leastNormal ∧ binary.exponent ≠ Binary.leastExponent
  let below := if power then 1 else 2
  { low := (4 * binary.significand - below) * unit.1
    value := 4 * binary.significand * unit.1
    high := (4 * binary.significand + 2) * unit.1
    denominator := unit.2
    closed := binary.significand % 2 == 0 }

def contains (range : ReadingRange) (numerator denominator : Nat) : Bool :=
  let low := range.low * denominator
  let high := range.high * denominator
  let scaled := numerator * range.denominator
  if range.closed then low ≤ scaled && scaled ≤ high else low < scaled && scaled < high

def magnitude (range : ReadingRange) : Int :=
  (Nat.toDigits 10 (range.value * Nat.pow 10 400 / range.denominator)).length - 400

/-- The neighbour of the value on the grid of multiples of `10 ^ exponent` that reads back and is
nearest to it, an even multiple in case of a tie. -/
def onGrid? (range : ReadingRange) (exponent : Int) : Option Decimal :=
  let (up, down) := Binary.power 10 exponent
  let numerator := range.value * down
  let denominator := range.denominator * up
  let below := numerator / denominator
  let lower := range.contains (below * up) down
  let upper := range.contains ((below + 1) * up) down
  let twice := 2 * (numerator % denominator)
  let nearerBelow := twice < denominator || (twice == denominator && below % 2 == 0)
  if lower && (nearerBelow || !upper) then some ⟨below, exponent⟩
  else if upper then some ⟨below + 1, exponent⟩
  else none

def shortestFrom (range : ReadingRange) (magnitude : Int) : Nat → Nat → Decimal
  | 0, count => ⟨range.value / range.denominator, (magnitude - count)⟩
  | tries + 1, count =>
      match range.onGrid? (magnitude - count) with
      | some decimal => decimal
      | none => shortestFrom range magnitude tries (count + 1)

/-- Seventeen digits are enough for every float. -/
def shortest (range : ReadingRange) : Decimal := shortestFrom range range.magnitude 17 1

end ReadingRange

def Decimal.trim : Nat → Decimal → Decimal
  | 0, decimal => decimal
  | limit + 1, decimal =>
      if decimal.digits ≠ 0 ∧ decimal.digits % 10 = 0 then
        trim limit ⟨decimal.digits / 10, decimal.exponent + 1⟩
      else decimal

structure PointRange where
  least : Int
  bound : Int

def Decimal.positional (decimal : Decimal) : String :=
  let digits := toString decimal.digits
  if 0 ≤ decimal.exponent then
    digits ++ String.ofList (List.replicate decimal.exponent.toNat '0') ++ ".0"
  else
    let places := (-decimal.exponent).toNat
    let padded := List.replicate (places + 1 - digits.length) '0' ++ digits.toList
    let whole := padded.length - places
    String.ofList (padded.take whole) ++ "." ++ String.ofList (padded.drop whole)

def Decimal.scientific (decimal : Decimal) : String :=
  let digits := (toString decimal.digits).toList
  let power := decimal.exponent + digits.length - 1
  let point := if digits.length = 1 then [] else ['.']
  let sign := if power < 0 then "e-" else "e+"
  String.ofList (digits.take 1 ++ point ++ digits.drop 1) ++ sign ++ toString power.natAbs

def Decimal.text (range : PointRange) (decimal : Decimal) : String :=
  let power := decimal.exponent + (toString decimal.digits).length - 1
  if range.least ≤ power ∧ power < range.bound then decimal.positional else decimal.scientific

def shortestText? (range : PointRange) (value : Float) : Option String :=
  match Binary.ofFloat? value with
  | none => none
  | some binary =>
      let sign := if binary.negative then "-" else ""
      if binary.significand = 0 then some (sign ++ "0.0")
      else some (sign ++ ((ReadingRange.ofBinary binary).shortest.trim 20).text range)

end FogNetwork
