import ContentGraph.CommandLine.Compile
import ContentGraph.CommandLine.Materialize
import ContentGraph.Settings.Layers

/-!
# The command line

A run parses its arguments, loads the settings and carries out one command.  Results go to the
output, notes and errors to the error stream; a run that fails ends with `1`, one whose arguments
cannot be understood with `2`.

* `Host` — what a run takes from its surroundings besides files;
* `Outcome` — what a run leaves;
* `run` — the run of arguments.
-/

namespace ContentGraph.CommandLine

/-- What a run takes from its surroundings besides files. -/
structure Host where
  places : Settings.ConfigPlaces
  /-- The variables of the environment. -/
  vars : List (String × String)
  /-- The file store for images. -/
  fetch : FetchRequest → Except String FileNode

/-- What a run leaves: its exit code and its two streams. -/
structure Outcome where
  exit : Nat := 0
  output : String := ""
  errors : String := ""
  deriving DecidableEq, Repr

namespace Outcome

/-- A run that prints a text. -/
def success (output : String) (notes : String := "") : Outcome :=
  { output := output ++ "\n", errors := notes }

/-- A run that fails. -/
def failure (message : String) : Outcome := { exit := 1, errors := "Error: " ++ message ++ "\n" }

end Outcome

/-- How the program names itself and its version. -/
def versionText : String := "slicegraph 0.3.0"

/-- How the program is used. -/
def usageText : String :=
  "Usage: slicegraph [--debug] compile <SCHEMA> --id <ID> [--format sdl|json] [--out-paths <FILE>]"
    ++ " [--type-prefix <PREFIX>]\n"
    ++ "       slicegraph [--debug] materialize <DOCUMENT> --paths <FILE> [--normalize-images]"

/-- What a run leaves that does not get as far as a command. -/
def Refusal.outcome : Refusal → Outcome
  | .version => .success versionText
  | .help => .success usageText
  | .usage => { exit := 2, errors := usageText ++ "\n" }

variable {m : Type → Type} [Monad m] [FileAccess m]

/-- What a command leaves under settings. -/
def runCommand (host : Host) (settings : Settings) : Command → m Outcome
  | .compile command => do
    let typePrefix := command.typePrefix.getD settings.typePrefix
    pure (match ← compileFile typePrefix command with
      | .ok output => .success output
      | .error e => .failure e.message)
  | .materialize command => do
    let env := environment host.fetch settings command.normalizeImages
    pure (match ← materializeFile env command with
      | .ok materialized =>
        let notes := match degradedNotice? materialized with
          | none => ""
          | some notice => notice ++ "\n"
        .success (renderMaterialized materialized) notes
      | .error e => .failure e.message)

/-- What a run leaves.  Settings are loaded before any command is carried out. -/
def run (host : Host) (arguments : List String) : m Outcome := do
  match parseArguments arguments with
  | .error refusal => pure refusal.outcome
  | .ok command =>
    match ← Settings.load host.places host.vars with
    | .error e => pure (.failure e.message)
    | .ok settings => runCommand host settings command

end ContentGraph.CommandLine
