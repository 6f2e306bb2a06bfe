import FogNetwork.Toml.Number

/-! Tables, and the rules for defining them: no key twice, no table twice, and no dotted key into
a table that was defined in another way. -/

namespace FogNetwork
namespace Toml

inductive Opening where
  | explicit
  | implied
  | dotted
  deriving DecidableEq

inductive Item where
  | value (value : Value)
  | table (opening : Opening) (entries : List (String × Item))
  | tables (elements : List (List (String × Item)))

abbrev Entries := List (String × Item)

def find? (key : String) : Entries → Option Item
  | [] => none
  | entry :: rest => if entry.1 = key then some entry.2 else find? key rest

def replace (key : String) (item : Item) : Entries → Entries
  | [] => [(key, item)]
  | entry :: rest =>
      if entry.1 = key then (key, item) :: rest else entry :: replace key item rest

def changeLast? (change : Entries → Option Entries) :
    List Entries → Option (List Entries)
  | [] => none
  | [last] => do return [← change last]
  | first :: rest => do return first :: (← changeLast? change rest)

/-- Changes the table at the end of a path of headers. Tables that are missing on the way are
implied, and of several tables under one key the last is meant. -/
def changeUnder? (change : Entries → Option Entries) :
    List String → Entries → Option Entries
  | [], entries => change entries
  | key :: path, entries =>
      match find? key entries with
      | none => do return replace key (.table .implied (← changeUnder? change path [])) entries
      | some (.value _) => none
      | some (.table opening inner) => do
          return replace key (.table opening (← changeUnder? change path inner)) entries
      | some (.tables elements) => do
          return replace key (.tables (← changeLast? (changeUnder? change path) elements)) entries

/-- Puts a value under a dotted key. The tables on the way are opened by it, or were opened by
dotted keys before. -/
def define? (value : Value) : List String → Entries → Option Entries
  | [], _ => none
  | [key], entries =>
      if (find? key entries).isSome then none else some (entries ++ [(key, .value value)])
  | key :: next :: path, entries =>
      match find? key entries with
      | none => do return replace key (.table .dotted (← define? value (next :: path) [])) entries
      | some (.table .dotted inner) => do
          return replace key (.table .dotted (← define? value (next :: path) inner)) entries
      | some (.table .implied inner) =>
          if path.isEmpty then none
          else do
            return replace key (.table .implied (← define? value (next :: path) inner)) entries
      | some (.tables elements) =>
          if path.isEmpty then none
          else do
            return replace key
              (.tables (← changeLast? (define? value (next :: path)) elements)) entries
      | some _ => none

/-- Opens a table by its header. A table that is only implied may still be opened. -/
def openTable? (path : List String) (key : String) : Entries → Option Entries :=
  changeUnder? (fun entries =>
    match find? key entries with
    | none => some (replace key (.table .explicit []) entries)
    | some (.table .implied inner) => some (replace key (.table .explicit inner) entries)
    | some _ => none) path

def openElement? (path : List String) (key : String) : Entries → Option Entries :=
  changeUnder? (fun entries =>
    match find? key entries with
    | none => some (replace key (.tables [[]]) entries)
    | some (.tables elements) => some (replace key (.tables (elements ++ [[]])) entries)
    | some _ => none) path

end Toml
end FogNetwork
