import FogNetwork.CommandLine.Command

/-! The program: it reads the configuration file, carries out the command, and writes what the
command leaves behind. -/

open FogNetwork CommandLine

def contentsOf (path? : Option String) : IO (Option ByteArray) := do
  match path? with
  | none => return none
  | some path =>
      try
        return some (← IO.FS.readBinFile path)
      catch _ => return none

/-- Writes the file of an outcome. A file that cannot be written is reported and left out. -/
def writeFile (file : String × String) : IO Unit := do
  try
    IO.FS.writeFile file.1 file.2
  catch _ => IO.eprintln (Notice.exportFailed).line

def main (arguments : List String) : IO UInt32 := do
  match CommandLine.parse? arguments with
  | none =>
      IO.eprintln "usage: [--config FILE] [--max-time TICKS] [--output FILE]"
      return misused.toUInt32
  | some options =>
      let outcome := perform options (← contentsOf options.config)
      for notice in outcome.notices do
        if notice.level.rank ≤ Level.info.rank then
          IO.eprintln notice.line
      IO.print outcome.printed
      outcome.file.forM writeFile
      return outcome.exitCode.toUInt32
