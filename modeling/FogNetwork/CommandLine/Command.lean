import FogNetwork.CommandLine.Options
import FogNetwork.Config.Reader
import FogNetwork.Demo

/-! The command: it runs the demo scenario as the options ask, and writes the figures to the
standard output or to a file. -/

namespace FogNetwork
namespace CommandLine

structure Outcome where
  exitCode : Nat
  printed : String
  file : Option (String × String)
  notices : List Notice

def succeeded : Nat := 0

def failed : Nat := 1

def misused : Nat := 2

def faulted : Nat := 101

def configuration (options : Options) (contents? : Option ByteArray) : Except Rejection Config := do
  let config ← if options.config.isSome then Config.ofFile contents? else pure Config.standard
  match options.maxTime with
  | none => return config
  | some ticks => return { config with runLength := ticks }

def runDemo (config : Config) (exporter : Exporter) : Run (Except Rejection Orchestrator) := do
  match Demo.blueprint config exporter with
  | .error rejection => return .error rejection
  | .ok blueprint =>
      match ← blueprint.build with
      | .error rejection => return .error rejection
      | .ok scenario =>
          let (result, scenario) ← scenario.run
          return result.map fun _ => scenario.orchestrator

def perform (options : Options) (contents? : Option ByteArray) : Outcome :=
  match configuration options contents? with
  | .error _ => ⟨failed, "", none, []⟩
  | .ok config =>
      let exporter := if options.output.isSome then Exporter.filing true else .printing none
      let run := runDemo config exporter
      match run.outcome with
      | .error _ => ⟨faulted, "", none, run.notices⟩
      | .ok (.error _) => ⟨failed, "", none, run.notices⟩
      | .ok (.ok orchestrator) =>
          match options.output with
          | none => ⟨succeeded, orchestrator.exporter.printed, none, run.notices⟩
          | some path =>
              let file := orchestrator.exporter.lastPage?.map fun page => (path, page)
              ⟨succeeded, "", file, run.notices⟩

def execute (arguments : List String) (contents? : String → Option ByteArray) : Outcome :=
  match parse? arguments with
  | none => ⟨misused, "", none, []⟩
  | some options => perform options (options.config.bind contents?)

end CommandLine
end FogNetwork
