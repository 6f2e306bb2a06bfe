import FogNetwork.Text.Category

/-! Text between quotation marks. Marks, backslashes and characters that would not show are written
as escapes. -/

namespace FogNetwork
namespace Text

def hexDigits (number : Nat) : String := String.ofList (Nat.toDigits 16 number)

def escape (char : Char) : String :=
  if char = '"' then "\\\""
  else if char = '\\' then "\\\\"
  else if char = '\n' then "\\n"
  else if char = '\r' then "\\r"
  else if char = '\t' then "\\t"
  else if char.toNat = 0 then "\\0"
  else if 0x20 ≤ char.toNat && char.toNat < 0x7f then char.toString
  else if isPrinting char && !attaches char then char.toString
  else "\\u\x7b" ++ hexDigits char.toNat ++ "\x7d"

def quoted (text : String) : String :=
  "\"" ++ String.join (text.toList.map escape) ++ "\""

def quotedList (texts : List String) : String :=
  "[" ++ String.intercalate ", " (texts.map quoted) ++ "]"

end Text
end FogNetwork
