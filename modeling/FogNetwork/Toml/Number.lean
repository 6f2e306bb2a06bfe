import FogNetwork.Decimal.Nearest
import FogNetwork.Toml.Scan

/-! Whole numbers, floats, dates and times. Of these only whole numbers keep their value; the others
are checked for their form. -/

namespace FogNetwork
namespace Toml

/-- A simple value. Only whole numbers are told apart from the rest. -/
inductive Value where
  | integer (value : Int)
  | other
  deriving DecidableEq

/-- More digits of a number. An underscore stands between two digits only. -/
def moreDigits (base : Nat) : Reader (List Char)
  | '_' :: digit :: rest => do
      if isDigit base digit then
        let (digits, rest) ← moreDigits base rest
        return (digit :: digits, rest)
      else none
  | ['_'] => none
  | char :: rest => do
      if isDigit base char then
        let (digits, rest) ← moreDigits base rest
        return (char :: digits, rest)
      else return ([], char :: rest)
  | [] => some ([], [])

def readDigits (base : Nat) : Reader (List Char)
  | char :: rest => do
      if isDigit base char then
        let (digits, rest) ← moreDigits base rest
        return (char :: digits, rest)
      else none
  | [] => none

/-- The digits of a decimal number, which begin with a zero only if it is all of them. -/
def readWhole : Reader (List Char)
  | '0' :: rest => some (['0'], rest)
  | input => readDigits 10 input

def takeSign : List Char → Bool × List Char
  | '-' :: rest => (true, rest)
  | '+' :: rest => (false, rest)
  | input => (false, input)

def greatestInteger : Nat := 9223372036854775807

def bounded? (negative : Bool) (magnitude : Nat) : Option Value :=
  if negative then
    if magnitude ≤ greatestInteger + 1 then some (.integer (-(magnitude : Int))) else none
  else if magnitude ≤ greatestInteger then some (.integer magnitude)
  else none

def readExponent : Reader Int
  | 'e' :: rest | 'E' :: rest => do
      let (negative, rest) := takeSign rest
      let (digits, rest) ← readDigits 10 rest
      let power : Int := valueOf 10 digits
      return (if negative then -power else power, rest)
  | input => some (0, input)

def float? (negative : Bool) (digits : List Char) (exponent : Int) : Option Value :=
  let nearest := nearestFloat false (valueOf 10 digits) exponent
  if !negative && (Binary.ofFloat? nearest).isNone then none else some .other

def readDecimal (negative : Bool) : Reader Value := fun input => do
  let (whole, rest) ← readWhole input
  match rest with
  | '.' :: rest =>
      let (fraction, rest) ← readDigits 10 rest
      let (exponent, rest) ← readExponent rest
      return (← float? negative (whole ++ fraction) (exponent - fraction.length), rest)
  | 'e' :: _ | 'E' :: _ =>
      let (exponent, rest) ← readExponent rest
      return (← float? negative whole exponent, rest)
  | _ => return (← bounded? negative (valueOf 10 whole), rest)

def readInBase (base : Nat) : Reader Value := fun input => do
  let (digits, rest) ← readDigits base input
  return (← bounded? false (valueOf base digits), rest)

def readField (count least greatest : Nat) : Reader Nat := fun input =>
  let digits := input.take count
  let value := valueOf 10 digits
  if digits.length = count ∧ digits.all (isDigit 10) ∧ least ≤ value ∧ value ≤ greatest then
    some (value, input.drop count)
  else none

def daysIn (year month : Nat) : Nat :=
  if month = 2 then
    if year % 4 = 0 ∧ (year % 100 ≠ 0 ∨ year % 400 = 0) then 29 else 28
  else if month = 4 ∨ month = 6 ∨ month = 9 ∨ month = 11 then 30
  else 31

def readDate : Reader Unit := fun input => do
  let (year, rest) ← readField 4 0 9999 input
  let (month, rest) ← readField 2 1 12 (← after? '-' rest)
  let (_, rest) ← readField 2 1 (daysIn year month) (← after? '-' rest)
  return ((), rest)

def readFraction : Reader Unit
  | '.' :: rest =>
      if (rest.takeWhile (isDigit 10)).isEmpty then none
      else some ((), rest.dropWhile (isDigit 10))
  | input => some ((), input)

def readTime : Reader Unit := fun input => do
  let (_, rest) ← readField 2 0 23 input
  let (_, rest) ← readField 2 0 59 (← after? ':' rest)
  let (_, rest) ← readField 2 0 60 (← after? ':' rest)
  readFraction rest

def readOffset : Reader Unit
  | 'Z' :: rest | 'z' :: rest => some ((), rest)
  | '+' :: rest | '-' :: rest => do
      let (_, rest) ← readField 2 0 23 rest
      let (_, rest) ← readField 2 0 59 (← after? ':' rest)
      return ((), rest)
  | input => some ((), input)

def readTimeOfDay : Reader Unit
  | 'T' :: rest | 't' :: rest => do
      let (_, rest) ← readTime rest
      readOffset rest
  | ' ' :: first :: rest => do
      if isDigit 10 first then
        let (_, rest) ← readTime (first :: rest)
        readOffset rest
      else return ((), ' ' :: first :: rest)
  | input => some ((), input)

def looksLike (count : Nat) (mark : Char) (input : List Char) : Bool :=
  (input.takeWhile (isDigit 10)).length == count && (input.drop count).head? == some mark

def readSpecial : Reader Value := fun input =>
  ((afterWord? "inf" input).or (afterWord? "nan" input)).map (.other, ·)

def readNumber : Reader Value := fun input => do
  if looksLike 4 '-' input then
    let (_, rest) ← readDate input
    let (_, rest) ← readTimeOfDay rest
    return (.other, rest)
  else if looksLike 2 ':' input then
    let (_, rest) ← readTime input
    return (.other, rest)
  else
    match input with
    | '0' :: 'x' :: rest => readInBase 16 rest
    | '0' :: 'o' :: rest => readInBase 8 rest
    | '0' :: 'b' :: rest => readInBase 2 rest
    | _ =>
        let (negative, rest) := takeSign input
        (readSpecial rest).or (readDecimal negative rest)

end Toml
end FogNetwork
