import FogNetwork.Toml.Scan

/-! Quoted text, on one line or on several, with escapes or without. -/

namespace FogNetwork
namespace Toml

def coded? (digits : List Char) : Option Char :=
  if digits.all (isDigit 16) then scalar? (valueOf 16 digits) else none

def shortEscape? : Char → Option Char
  | 'b' => some '\x08'
  | 't' => some '\t'
  | 'n' => some '\n'
  | 'f' => some '\x0c'
  | 'r' => some '\r'
  | '"' => some '"'
  | '\\' => some '\\'
  | _ => none

def prepend (char? : Option Char) (next : Option (List Char × List Char)) :
    Option (List Char × List Char) := do
  let char ← char?
  let (text, rest) ← next
  return (char :: text, rest)

def readBasic : Reader (List Char)
  | '"' :: rest => some ([], rest)
  | '\\' :: 'u' :: a :: b :: c :: d :: rest => prepend (coded? [a, b, c, d]) (readBasic rest)
  | '\\' :: 'U' :: a :: b :: c :: d :: e :: f :: g :: h :: rest =>
      prepend (coded? [a, b, c, d, e, f, g, h]) (readBasic rest)
  | '\\' :: letter :: rest => prepend (shortEscape? letter) (readBasic rest)
  | char :: rest =>
      if isPlain char && char != '\\' then prepend (some char) (readBasic rest) else none
  | [] => none

def readLiteral : Reader (List Char)
  | '\'' :: rest => some ([], rest)
  | char :: rest => if isPlain char then prepend (some char) (readLiteral rest) else none
  | [] => none

/-- Where text on several lines stands: amid text, after a backslash whose line must end, or in
the blanks and line breaks that such a backslash swallows. -/
inductive Folding where
  | text
  | lineEnd
  | swallowing

/-- The text up to three closing quotation marks. Two more before them are text. -/
def readBasicLines : Folding → Reader (List Char)
  | .lineEnd, char :: rest =>
      if isBlank char then readBasicLines .lineEnd rest
      else if char = '\n' then readBasicLines .swallowing rest
      else if char = '\r' ∧ rest.head? = some '\n' then readBasicLines .lineEnd rest
      else none
  | .lineEnd, [] => none
  | _, '"' :: '"' :: '"' :: '"' :: '"' :: rest => some (['"', '"'], rest)
  | _, '"' :: '"' :: '"' :: '"' :: rest => some (['"'], rest)
  | _, '"' :: '"' :: '"' :: rest => some ([], rest)
  | _, '\\' :: 'u' :: a :: b :: c :: d :: rest =>
      prepend (coded? [a, b, c, d]) (readBasicLines .text rest)
  | _, '\\' :: 'U' :: a :: b :: c :: d :: e :: f :: g :: h :: rest =>
      prepend (coded? [a, b, c, d, e, f, g, h]) (readBasicLines .text rest)
  | _, '\\' :: letter :: rest =>
      if isBlank letter then readBasicLines .lineEnd rest
      else if letter = '\n' then readBasicLines .swallowing rest
      else if letter = '\r' ∧ rest.head? = some '\n' then readBasicLines .lineEnd rest
      else prepend (shortEscape? letter) (readBasicLines .text rest)
  | folding, char :: rest =>
      let swallowed := match folding with
        | .swallowing => isBlank char || char = '\n' || (char = '\r' && rest.head? == some '\n')
        | _ => false
      if swallowed then readBasicLines .swallowing rest
      else if isPlain char && char != '\\' then prepend (some char) (readBasicLines .text rest)
      else if char = '\n' then prepend (some char) (readBasicLines .text rest)
      else if char = '\r' ∧ rest.head? = some '\n' then readBasicLines .text rest
      else none
  | _, [] => none

def readLiteralLines : Reader (List Char)
  | '\'' :: '\'' :: '\'' :: '\'' :: '\'' :: rest => some (['\'', '\''], rest)
  | '\'' :: '\'' :: '\'' :: '\'' :: rest => some (['\''], rest)
  | '\'' :: '\'' :: '\'' :: rest => some ([], rest)
  | char :: rest =>
      if isPlain char || char = '\n' then prepend (some char) (readLiteralLines rest)
      else if char = '\r' ∧ rest.head? = some '\n' then readLiteralLines rest
      else none
  | [] => none

def openLines (input : List Char) : List Char := (afterNewline? input).getD input

def readLine : Reader (List Char)
  | '"' :: rest => readBasic rest
  | '\'' :: rest => readLiteral rest
  | _ => none

def readText : Reader (List Char)
  | '"' :: '"' :: '"' :: rest => readBasicLines .text (openLines rest)
  | '\'' :: '\'' :: '\'' :: rest => readLiteralLines (openLines rest)
  | input => readLine input

end Toml
end FogNetwork
