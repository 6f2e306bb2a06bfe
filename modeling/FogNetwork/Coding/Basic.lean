import FogNetwork.Json.Basic
import FogNetwork.Quantity
import FogNetwork.SortedMap.Basic

/-! Values as documents. A record may also be written as the list of its fields in their order, and
fields that a record does not have are passed over. -/

namespace FogNetwork

class Coded (α : Type) where
  encode : α → Json
  decode? : Json → Option α

namespace Coded

/-- The values of named fields, `none` where one is absent. In a list they stand in order, and up
to `spare` of them may be left out at its end. -/
def fields? (names : List String) (spare : Nat) : Json → Option (List (Option Json))
  | .record fields => some (names.map (Json.field? · fields))
  | .list items =>
      let absent := names.length - items.length
      if items.length ≤ names.length ∧ absent ≤ spare then
        some (items.map some ++ List.replicate absent none)
      else none
  | _ => none

variable {α : Type} [Coded α]

def required? (field : Option Json) : Option α := field.bind decode?

def optional? : Option Json → Option (Option α)
  | none | some .null => some none
  | some json => (decode? json).map some

def defaulting? (standard : α) : Option Json → Option α
  | none => some standard
  | some json => decode? json

def choice? : Json → Option String
  | .string name => some name
  | .record [(name, .null)] => some name
  | _ => none

/-- A quantity is a whole number; a float is none, even without a fraction. -/
instance : Coded Nat where
  encode := .natural
  decode?
    | .integer (.ofNat value) => if value ≤ largest then some value else none
    | _ => none

instance : Coded String where
  encode := .string
  decode?
    | .string text => some text
    | _ => none

def number? : Json → Option Float
  | .float value => some value
  | .integer value => some (Float.ofInt value)
  | _ => none

/-- Infinities and non-numbers have no document. -/
instance : Coded Float where
  encode value := if value.isFinite then .float value else .null
  decode? json := (number? json).filter Float.isFinite

instance : Coded (List α) where
  encode values := .list (values.map encode)
  decode?
    | .list items => items.mapM decode?
    | _ => none

instance : Coded (Option α) where
  encode value? := value?.elim .null encode
  decode? json := optional? (some json)

/-- A quantity as the name of a field: its digits, and no other way of writing it. -/
def quantityOfName? (name : String) : Option Nat :=
  match name.toNat? with
  | some value => if toString value = name ∧ value ≤ largest then some value else none
  | none => none

def encodeTable {κ : Type} [Ord κ] (name : κ → String) (map : SortedMap κ α) : Json :=
  .record (map.entries.map fun entry => (name entry.1, encode entry.2))

def decodeTable? {κ : Type} [Ord κ] [Std.TransOrd κ] [Std.LawfulEqOrd κ]
    (key? : String → Option κ) : Json → Option (SortedMap κ α)
  | .record fields => do
      let entries ← fields.mapM fun field => do
        return (← key? field.1, ← decode? field.2)
      return .ofList entries
  | _ => none

end Coded
end FogNetwork
