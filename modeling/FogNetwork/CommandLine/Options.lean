import FogNetwork.Quantity
import FogNetwork.Text.Reader

/-! The options of the command line. Each may be given once, in its long or its short form, with
its value attached or as the next argument. -/

namespace FogNetwork
namespace CommandLine

inductive Flag where
  | config
  | maxTime
  | output
  deriving DecidableEq

structure Options where
  config : Option String
  maxTime : Option Nat
  output : Option String
  deriving DecidableEq

def Options.initial : Options := ⟨none, none, none⟩

def longFlag? (name : List Char) : Option Flag :=
  if name = "config".toList then some .config
  else if name = "max-time".toList then some .maxTime
  else if name = "output".toList then some .output
  else none

def shortFlag? : Char → Option Flag
  | 'c' => some .config
  | 't' => some .maxTime
  | 'o' => some .output
  | _ => none

/-- A quantity in decimal digits, which a plus may precede. -/
def quantity? (text : String) : Option Nat :=
  let digits := match text.toList with
    | '+' :: digits => digits
    | digits => digits
  if digits.isEmpty || !digits.all (isDigit 10) then none
  else
    let value := valueOf 10 digits
    if value ≤ largest then some value else none

def path? (text : String) : Option String := if text.isEmpty then none else some text

def Options.set? (options : Options) (flag : Flag) (value : String) : Option Options :=
  match flag with
  | .config =>
      if options.config.isSome then none
      else (path? value).map fun path => { options with config := some path }
  | .maxTime =>
      if options.maxTime.isSome then none
      else (quantity? value).map fun ticks => { options with maxTime := some ticks }
  | .output =>
      if options.output.isSome then none
      else (path? value).map fun path => { options with output := some path }

inductive Argument where
  | attached (flag : Flag) (value : String)
  | awaiting (flag : Flag)
  | endOfFlags
  | plain (text : String)
  | unknown
  deriving DecidableEq

def attachedValue (value : List Char) : String :=
  match value with
  | '=' :: rest => String.ofList rest
  | value => String.ofList value

def classifyLong (text : List Char) : Argument :=
  match longFlag? (text.takeWhile (· != '=')) with
  | none => .unknown
  | some flag =>
      match text.dropWhile (· != '=') with
      | _ :: value => .attached flag (String.ofList value)
      | [] => .awaiting flag

def classify (text : String) : Argument :=
  match text.toList with
  | ['-', '-'] => .endOfFlags
  | '-' :: '-' :: long => classifyLong long
  | ['-'] => .plain text
  | '-' :: letter :: value =>
      match shortFlag? letter, value with
      | none, _ => .unknown
      | some flag, [] => .awaiting flag
      | some flag, value => .attached flag (attachedValue value)
  | _ => .plain text

/-- The options that some arguments set. An argument that is no flag is accepted only as the value
of the flag before it. -/
def parseOnto? (options : Options) : List String → Option Options
  | [] => some options
  | [last] =>
      match classify last with
      | .attached flag value => options.set? flag value
      | .endOfFlags => some options
      | _ => none
  | first :: second :: rest =>
      match classify first with
      | .attached flag value => do parseOnto? (← options.set? flag value) (second :: rest)
      | .awaiting flag =>
          match classify second with
          | .plain value => do parseOnto? (← options.set? flag value) rest
          | _ => none
      | _ => none

def parse? (arguments : List String) : Option Options := parseOnto? .initial arguments

end CommandLine
end FogNetwork
