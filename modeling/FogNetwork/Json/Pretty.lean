import FogNetwork.Decimal.Shortest
import FogNetwork.Json.Basic

/-! Documents as indented text: every element on a line of its own, two spaces for each level. -/

namespace FogNetwork
namespace Json

def pointRange : PointRange := ⟨-5, 16⟩

def controlEscape (code : Nat) : String :=
  let digits := Nat.toDigits 16 code
  "\\u" ++ String.ofList (List.replicate (4 - digits.length) '0' ++ digits)

def escape (char : Char) : String :=
  if char = '"' then "\\\""
  else if char = '\\' then "\\\\"
  else if char = '\n' then "\\n"
  else if char = '\r' then "\\r"
  else if char = '\t' then "\\t"
  else if char.toNat = 0x08 then "\\b"
  else if char.toNat = 0x0c then "\\f"
  else if char.toNat < 0x20 then controlEscape char.toNat
  else char.toString

def stringText (text : String) : String :=
  "\"" ++ String.join (text.toList.map escape) ++ "\""

def newline (depth : Nat) : String := "\n" ++ String.ofList (List.replicate (2 * depth) ' ')

mutual

def write (depth : Nat) : Json → String
  | .null => "null"
  | .bool value => if value then "true" else "false"
  | .integer value => toString value
  | .float value => (shortestText? pointRange value).getD "null"
  | .string value => stringText value
  | .list [] => "[]"
  | .list (item :: rest) =>
      "[" ++ newline (depth + 1) ++ write (depth + 1) item ++ writeItems (depth + 1) rest
        ++ newline depth ++ "]"
  | .record [] => "\x7b\x7d"
  | .record (field :: rest) =>
      "\x7b" ++ newline (depth + 1) ++ stringText field.1 ++ ": " ++ write (depth + 1) field.2
        ++ writeFields (depth + 1) rest ++ newline depth ++ "\x7d"

def writeItems (depth : Nat) : List Json → String
  | [] => ""
  | item :: rest => "," ++ newline depth ++ write depth item ++ writeItems depth rest

def writeFields (depth : Nat) : List (String × Json) → String
  | [] => ""
  | field :: rest =>
      "," ++ newline depth ++ stringText field.1 ++ ": " ++ write depth field.2
        ++ writeFields depth rest

end

def pretty (json : Json) : String := write 0 json

end Json
end FogNetwork
