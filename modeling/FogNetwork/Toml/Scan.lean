import FogNetwork.Text.Reader

/-! The characters and lines of configuration text. -/

namespace FogNetwork
namespace Toml

def isBlank (char : Char) : Bool := char == ' ' || char == '\t'

def skipBlanks (input : List Char) : List Char := input.dropWhile isBlank

def isPlain (char : Char) : Bool :=
  char == '\t' || (0x20 ≤ char.toNat && char.toNat != 0x7f)

def afterNewline? : List Char → Option (List Char)
  | '\n' :: rest => some rest
  | '\r' :: '\n' :: rest => some rest
  | _ => none

def skipComment : List Char → List Char
  | '#' :: rest => rest.dropWhile isPlain
  | input => input

def afterLine? (input : List Char) : Option (List Char) :=
  match skipComment (skipBlanks input) with
  | [] => some []
  | rest => afterNewline? rest

/-- Skips blanks, line breaks and comments, up to the first malformed line. -/
def skipLines : Nat → List Char → List Char
  | 0, input => input
  | fuel + 1, input =>
      let input := skipComment (skipBlanks input)
      match afterNewline? input with
      | some rest => skipLines fuel rest
      | none => input

def skipSpace (input : List Char) : List Char := skipLines (input.length + 1) input

end Toml
end FogNetwork
