import MissionScript.Console.Tool

/-!
# Command line

The outer layer of the tools: it reads the files that the command line names and, for a stepwise
run, the input, and then prints what the tool reports.
-/

namespace MissionScript.Main

/-- The bytes of a file, or the reason why they cannot be read. -/
def readFile (name : String) : IO (Except String (Array UInt8)) := do
  try
    let bytes ← IO.FS.readBinFile name
    pure (.ok bytes.data)
  catch
    | .noFileOrDirectory .. => pure (.error Files.missing)
    | error => pure (.error (toString error))

/-- Everything that is left of a stream. -/
partial def readRest (stream : IO.FS.Stream) (read : Array UInt8) : IO (Array UInt8) := do
  let chunk ← stream.read 65536
  if chunk.isEmpty then pure read else readRest stream (read ++ chunk.data)

/-- Runs a tool on the files and the input of the process. -/
def runTool (tool : Tool) (program : String) (args : List String) : IO UInt32 := do
  let needs := Console.needs tool args
  let contents ← needs.files.mapM fun name => do pure (name, ← readFile name)
  let input ← if needs.input then readRest (← IO.getStdin) #[] else pure #[]
  let files : Files := fun name => (contents.lookup name).getD (.error Files.missing)
  let report := Console.runTool tool program args files input.toList
  IO.print report.output
  IO.eprint report.logText
  pure report.exit

end MissionScript.Main

/-- The first argument chooses the tool. -/
def main (args : List String) : IO UInt32 :=
  match args with
  | "disassemble" :: rest =>
    MissionScript.Main.runTool .disassembler "missionscript disassemble" rest
  | "run" :: rest => MissionScript.Main.runTool .runner "missionscript run" rest
  | _ => MissionScript.Main.runTool .runner "missionscript run" []
