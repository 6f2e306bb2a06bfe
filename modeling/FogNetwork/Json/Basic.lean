/-! Documents of nested lists and records. Whole numbers and floats are told apart. -/

namespace FogNetwork

inductive Json where
  | null
  | bool (value : Bool)
  | integer (value : Int)
  | float (value : Float)
  | string (value : String)
  | list (items : List Json)
  | record (fields : List (String × Json))

namespace Json

instance : Inhabited Json := ⟨null⟩

def natural (value : Nat) : Json := .integer value

def field? (name : String) : List (String × Json) → Option Json
  | [] => none
  | field :: rest => if field.1 = name then some field.2 else field? name rest

end Json
end FogNetwork
