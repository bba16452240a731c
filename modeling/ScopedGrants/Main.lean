import ScopedGrants.CommandLine.Run
import Std.Time.DateTime.Timestamp

/-!
The program on a real system.
-/

namespace ScopedGrants

open CommandLine

def readEnvironment : IO Environment := do
  let found ← variableNames.mapM fun name =>
    return (← IO.getEnv name).map fun value => (name, value.toUTF8)
  return found.filterMap id

/-- What a path leads to. Whatever is there but cannot be read counts as a folder. -/
def readFile (path : String) : IO (Option File) :=
  try
    return some (.bytes (← IO.FS.readBinFile path))
  catch error =>
    match error with
    | .noFileOrDirectory .. => return none
    | _ => return some .folder

/-- Runs the program on the files that its arguments name. No cluster is at hand. -/
def runProgram (arguments : List String) : IO UInt32 := do
  let environment ← readEnvironment
  let paths := match Invocation.ofArguments environment arguments with
    | .ok invocation => invocation.paths
    | .error _ => []
  let files ← paths.mapM fun path => return (path, ← readFile path)
  let clock := Int64.ofInt (← Std.Time.Timestamp.now).toSecondsSinceUnixEpoch.val
  let world : World := { files := fun path => (files.lookup path).join, environment, clock,
                         libraries := .lenient }
  let (result, log) := Id.run (run world (pure none) arguments)
  IO.print result.output
  if let some line := log then IO.eprintln line
  return result.code.toUInt32

end ScopedGrants

def main (arguments : List String) : IO UInt32 := ScopedGrants.runProgram arguments
