import FogNetwork.Toml.Table
import FogNetwork.Toml.Text

/-! Whole documents: lines with a key and a value, under the headers of tables. -/

namespace FogNetwork
namespace Toml

def isBare (char : Char) : Bool :=
  ('a' ≤ char && char ≤ 'z') || ('A' ≤ char && char ≤ 'Z') || ('0' ≤ char && char ≤ '9')
    || char == '_' || char == '-'

def readPart (input : List Char) : Option (String × List Char) :=
  match readLine input with
  | some (text, rest) => some (String.ofList text, rest)
  | none =>
      let bare := input.takeWhile isBare
      if bare.isEmpty then none else some (String.ofList bare, input.dropWhile isBare)

def nestingLimit : Nat := 80

def readKeyParts : Nat → Reader (List String)
  | 0, _ => none
  | parts + 1, input => do
      let (part, rest) ← readPart (skipBlanks input)
      match skipBlanks rest with
      | '.' :: rest =>
          let (path, rest) ← readKeyParts parts rest
          return (part :: path, rest)
      | rest => return ([part], rest)

def readKey : Reader (List String) := readKeyParts (nestingLimit - 1)

def inlineTable? (pairs : List (List String × Value)) : Option Value := do
  let _ ← pairs.foldlM (fun entries pair => define? pair.2 pair.1 entries) ([] : Entries)
  return .other

mutual

/-- A value that may hold others, up to `depth` levels of them. -/
def readValue : Nat → Nat → Reader Value
  | 0, _, _ => none
  | fuel + 1, depth, input =>
      match input with
      | '"' :: _ | '\'' :: _ => (readText input).map fun read => (.other, read.2)
      | '[' :: rest =>
          if depth = 0 then none else readItems fuel (depth - 1) (skipSpace rest)
      | '\x7b' :: rest =>
          if depth = 0 then none
          else
            match skipBlanks rest with
            | '\x7d' :: rest => some (.other, rest)
            | rest => do
                let (pairs, rest) ← readPairs fuel (depth - 1) rest
                return (← inlineTable? pairs, rest)
      | 't' :: _ => (afterWord? "true" input).map (.other, ·)
      | 'f' :: _ => (afterWord? "false" input).map (.other, ·)
      | 'i' :: _ | 'n' :: _ => readSpecial input
      | _ => readNumber input

def readItems : Nat → Nat → Reader Value
  | 0, _, _ => none
  | fuel + 1, depth, input =>
      match input with
      | ']' :: rest => some (.other, rest)
      | _ => do
          let (_, rest) ← readValue fuel depth input
          match skipSpace rest with
          | ',' :: rest => readItems fuel depth (skipSpace rest)
          | ']' :: rest => return (.other, rest)
          | _ => none

def readPairs : Nat → Nat → Reader (List (List String × Value))
  | 0, _, _ => none
  | fuel + 1, depth, input => do
      let (path, rest) ← readKey input
      let (value, rest) ← readValue fuel depth (skipBlanks (← after? '=' rest))
      match skipBlanks rest with
      | ',' :: rest =>
          let (pairs, rest) ← readPairs fuel depth rest
          return ((path, value) :: pairs, rest)
      | '\x7d' :: rest => return ([(path, value)], rest)
      | _ => none

end

/-- What has been read of a document: its tables, and the path of the header that is in force. -/
structure Progress where
  root : Entries
  path : List String

def splitLast? (path : List String) : Option (List String × String) :=
  path.getLast?.map (path.dropLast, ·)

def readPair (progress : Progress) (input : List Char) : Option (Progress × List Char) := do
  let (path, rest) ← readKey input
  let (value, rest) ←
    readValue (input.length + 1) (nestingLimit - 1) (skipBlanks (← after? '=' rest))
  let root ← changeUnder? (define? value path) progress.path progress.root
  return (⟨root, progress.path⟩, ← afterLine? rest)

def readElementHeader (progress : Progress) (input : List Char) :
    Option (Progress × List Char) := do
  let (path, rest) ← readKey input
  let rest ← afterLine? (← after? ']' (← after? ']' rest))
  let (parent, key) ← splitLast? path
  return (⟨← openElement? parent key progress.root, path⟩, rest)

def readTableHeader (progress : Progress) (input : List Char) :
    Option (Progress × List Char) := do
  let (path, rest) ← readKey input
  let rest ← afterLine? (← after? ']' rest)
  let (parent, key) ← splitLast? path
  return (⟨← openTable? parent key progress.root, path⟩, rest)

def readDocumentLine (progress : Progress) (input : List Char) :
    Option (Progress × List Char) :=
  match skipBlanks input with
  | '[' :: '[' :: rest => readElementHeader progress rest
  | '[' :: rest => readTableHeader progress rest
  | rest =>
      match afterLine? rest with
      | some rest => some (progress, rest)
      | none => readPair progress rest

def readLines : Nat → Progress → List Char → Option Entries
  | _, progress, [] => some progress.root
  | 0, _, _ => none
  | fuel + 1, progress, input => do
      let (progress, rest) ← readDocumentLine progress input
      readLines fuel progress rest

/-- The entries of a document. A byte order mark in front of it is passed over. -/
def parse? (text : String) : Option Entries :=
  let input := match text.toList with
    | '\ufeff' :: rest => rest
    | input => input
  readLines (input.length + 1) ⟨[], []⟩ input

end Toml
end FogNetwork
