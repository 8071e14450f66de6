import SessionKeeper.Cli.Run
import SessionKeeper.Library.LogFilter
import SessionKeeper.Library.Reader

/-!
# The command line program

The program carries out its arguments on a host that has the configuration file and reaches no
server, prints what the run leaves behind, and exits with its code.
-/

namespace SessionKeeper.Cli

/-- The variable of the environment that holds the log filter. -/
def filterVariable : String := "RUST_LOG"

/-- The files with the one at a path, if it can be read. -/
def addFile (files : Files) (path : String) : IO Files := do
  try
    let bytes ← IO.FS.readBinFile path
    return files.add path (.regular bytes.toList)
  catch _ => return files

/-- The configuration file that the arguments name. -/
def namedFiles (args : List String) : IO Files :=
  match Invocation.parse args with
  | .ok { given := { config := some path, .. }, .. } => addFile .empty path
  | _ => return .empty

/-- Write bytes on a stream. -/
def emit (stream : IO.FS.Stream) (bytes : Bytes) : IO Unit := do
  stream.write ⟨bytes.toArray⟩
  stream.flush

end SessionKeeper.Cli

open SessionKeeper in
/-- Carry out the command line. -/
def main (args : List String) : IO UInt32 := do
  let files ← Cli.namedFiles args
  let filter ← IO.getEnv Cli.filterVariable
  let outcome := Cli.run LogFilter.reads args filter (Host.new files .armored)
  Cli.emit (← IO.getStdout) outcome.out
  Cli.emit (← IO.getStderr) outcome.err
  return outcome.exitCode
