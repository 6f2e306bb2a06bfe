import FogNetwork.Decimal.Nearest
import FogNetwork.Json.Basic
import FogNetwork.Quantity
import FogNetwork.Text.Reader

/-! Reading documents. Numbers are whole if they are written so and fit 64 bits; all others are
floats, and so is the negative zero. -/

namespace FogNetwork
namespace Json

def skipSpace (input : List Char) : List Char :=
  input.dropWhile fun char => char == ' ' || char == '\t' || char == '\n' || char == '\r'

def unescape? : Char → Option Char
  | '"' => some '"'
  | '\\' => some '\\'
  | '/' => some '/'
  | 'b' => some '\x08'
  | 'f' => some '\x0c'
  | 'n' => some '\n'
  | 'r' => some '\r'
  | 't' => some '\t'
  | _ => none

def unit? (digits : List Char) : Option Nat :=
  if digits.all (isDigit 16) then some (valueOf 16 digits) else none

def paired? (high low : Nat) : Option Char :=
  if 0xd800 ≤ high ∧ high < 0xdc00 ∧ 0xdc00 ≤ low ∧ low < 0xe000 then
    scalar? (0x10000 + (high - 0xd800) * 0x400 + (low - 0xdc00))
  else none

/-- The text up to the closing quotation mark, behind what was read before, last first. -/
def readText (read : List Char) : Reader String
  | '"' :: rest => some (String.ofList read.reverse, rest)
  | '\\' :: 'u' :: a :: b :: c :: d :: rest =>
      match unit? [a, b, c, d] with
      | none => none
      | some code =>
          match scalar? code with
          | some char => readText (char :: read) rest
          | none =>
              match rest with
              | '\\' :: 'u' :: e :: f :: g :: h :: rest =>
                  match (unit? [e, f, g, h]).bind (paired? code) with
                  | some char => readText (char :: read) rest
                  | none => none
              | _ => none
  | '\\' :: letter :: rest =>
      match unescape? letter with
      | some char => readText (char :: read) rest
      | none => none
  | char :: rest => if char.toNat < 0x20 then none else readText (char :: read) rest
  | [] => none

def readDigits (input : List Char) : Option (List Char × List Char) :=
  let digits := input.takeWhile (isDigit 10)
  if digits.isEmpty then none else some (digits, input.dropWhile (isDigit 10))

def readFraction : Reader (List Char)
  | '.' :: rest => readDigits rest
  | input => some ([], input)

def readExponent : Reader (Option Int)
  | 'e' :: rest | 'E' :: rest => do
      let (negative, rest) := match rest with
        | '-' :: rest => (true, rest)
        | '+' :: rest => (false, rest)
        | rest => (false, rest)
      let (digits, rest) ← readDigits rest
      let power : Int := valueOf 10 digits
      return (some (if negative then -power else power), rest)
  | input => some (none, input)

/-- A whole number, if it is one of 64 bits with or without a sign. -/
def whole? (negative : Bool) (magnitude : Nat) : Option Json :=
  if negative then
    if 0 < magnitude ∧ magnitude ≤ 9223372036854775808 then
      some (.integer (-(magnitude : Int)))
    else none
  else if magnitude ≤ largest then some (.integer magnitude)
  else none

def readNumber (input : List Char) : Option (Json × List Char) := do
  let (negative, rest) := match input with
    | '-' :: rest => (true, rest)
    | rest => (false, rest)
  let (digits, rest) ← readDigits rest
  let (fraction, rest) ← readFraction rest
  let (exponent?, rest) ← readExponent rest
  let float : Json :=
    .float (nearestFloat negative (valueOf 10 (digits ++ fraction))
      (exponent?.getD 0 - fraction.length))
  if fraction.isEmpty && exponent?.isNone then
    return ((whole? negative (valueOf 10 digits)).getD float, rest)
  else
    return (float, rest)

mutual

def readValue : Nat → Reader Json
  | 0, _ => none
  | fuel + 1, input =>
      match skipSpace input with
      | '"' :: rest => (readText [] rest).map fun read => (.string read.1, read.2)
      | '[' :: rest =>
          match skipSpace rest with
          | ']' :: rest => some (.list [], rest)
          | rest => do
              let (items, rest) ← readItems fuel rest
              return (.list items, rest)
      | '\x7b' :: rest =>
          match skipSpace rest with
          | '\x7d' :: rest => some (.record [], rest)
          | rest => do
              let (fields, rest) ← readFields fuel rest
              return (.record fields, rest)
      | 'n' :: rest => (afterWord? "ull" rest).map (.null, ·)
      | 't' :: rest => (afterWord? "rue" rest).map (.bool true, ·)
      | 'f' :: rest => (afterWord? "alse" rest).map (.bool false, ·)
      | rest => readNumber rest

def readItems : Nat → Reader (List Json)
  | 0, _ => none
  | fuel + 1, input => do
      let (item, rest) ← readValue fuel input
      match skipSpace rest with
      | ',' :: rest =>
          let (items, rest) ← readItems fuel rest
          return (item :: items, rest)
      | ']' :: rest => return ([item], rest)
      | _ => none

def readFields : Nat → Reader (List (String × Json))
  | 0, _ => none
  | fuel + 1, input => do
      let '"' :: rest := skipSpace input | none
      let (name, rest) ← readText [] rest
      let ':' :: rest := skipSpace rest | none
      let (value, rest) ← readValue fuel rest
      match skipSpace rest with
      | ',' :: rest =>
          let (fields, rest) ← readFields fuel rest
          return ((name, value) :: fields, rest)
      | '\x7d' :: rest => return ([(name, value)], rest)
      | _ => none

end

def parse? (text : String) : Option Json := do
  let input := text.toList
  let (json, rest) ← readValue (input.length + 1) input
  if (skipSpace rest).isEmpty then return json else none

end Json
end FogNetwork
