import FogNetwork.Json.Pretty

/-! Documents on a single line, without any space. -/

namespace FogNetwork
namespace Json

mutual

def compact : Json → String
  | .null => "null"
  | .bool value => if value then "true" else "false"
  | .integer value => toString value
  | .float value => (shortestText? pointRange value).getD "null"
  | .string value => stringText value
  | .list [] => "[]"
  | .list (item :: rest) => "[" ++ compact item ++ compactItems rest ++ "]"
  | .record [] => "\x7b\x7d"
  | .record (field :: rest) =>
      "\x7b" ++ stringText field.1 ++ ":" ++ compact field.2 ++ compactFields rest ++ "\x7d"

def compactItems : List Json → String
  | [] => ""
  | item :: rest => "," ++ compact item ++ compactItems rest

def compactFields : List (String × Json) → String
  | [] => ""
  | field :: rest => "," ++ stringText field.1 ++ ":" ++ compact field.2 ++ compactFields rest

end

end Json
end FogNetwork
