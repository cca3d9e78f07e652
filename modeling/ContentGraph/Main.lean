import ContentGraph.CommandLine
import ContentGraph.Download

/-!
# The program

The command line over the files, the variables and the streams of the machine it runs on.  No
network is built in: images that are to be downloaded are reported as degraded.
-/

namespace ContentGraph.Program

/-- Whether an action succeeds. -/
def succeeds (action : IO Unit) : IO Bool := do
  try
    action
    pure true
  catch _ => pure false

/-- Whether something at a path can be opened.  A step into a directory can be opened, a step into a
file cannot. -/
def opens (path : String) : IO Bool := succeeds do discard (IO.FS.Handle.mk path .read)

instance : FileAccess IO where
  readText path := do
    try
      pure (some (← IO.FS.readFile path))
    catch _ => pure none
  writeText path content := succeeds (IO.FS.writeFile path content)
  isFile path := do pure ((← opens path) && !(← opens (path ++ "/.")))
  isDirectory path := opens (path ++ "/.")

/-- The variables of a block of texts, each a name, a sign of equality and a value, with a zero
after each. -/
def variablesOfBlock (block : String) : List (String × String) :=
  (Text.splitAt (Char.ofNat 0) block).filterMap fun entry =>
    let name := entry.toList.takeWhile (· ≠ '=')
    match entry.toList.drop name.length with
    | [] => none
    | _ :: value => some (String.ofList name, String.ofList value)

/-- The variables of the environment. -/
def readVariables : IO (List (String × String)) := do
  try
    let block ← IO.FS.readBinFile "/proc/self/environ"
    pure (variablesOfBlock ((String.fromUTF8? block).getD ""))
  catch _ => pure []

/-- The surroundings of this run. -/
def readHost : IO CommandLine.Host := do
  let workingDirectory := (← IO.currentDir).toString
  let home ← IO.getEnv "HOME"
  let vars ← readVariables
  pure
    { places := { workingDirectory, home }
      vars
      fetch := fun request =>
        ((Download.get? Download.offline "" request).map Prod.fst).mapError DownloadError.message }

end ContentGraph.Program

open ContentGraph in
/-- Runs the arguments and ends with their exit code. -/
def main (arguments : List String) : IO UInt32 := do
  let host ← Program.readHost
  let outcome ← CommandLine.run host arguments
  IO.print outcome.output
  IO.eprint outcome.errors
  pure (UInt32.ofNat outcome.exit)
