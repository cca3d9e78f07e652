import ContentGraph.FileTree
import ContentGraph.Text.Case

/-!
# Configuration files

Settings are looked for in files of fixed names, in a global directory and in one of the project.
The global files come first, and in each directory the files have a fixed order, so that later files
may be laid over earlier ones.

* `ConfigFormat.ofExtension?` — the format that an extension stands for;
* `configFilesIn` — the configuration files of one directory;
* `discover` — all of them.
-/

namespace ContentGraph.Settings

/-- The format of a configuration file. -/
inductive ConfigFormat
  | toml | yaml | json
  deriving DecidableEq, Repr

/-- The name of a format. -/
def ConfigFormat.name : ConfigFormat → String
  | .toml => "toml"
  | .yaml => "yaml"
  | .json => "json"

/-- The format that the extension of a file stands for, in either case. -/
def ConfigFormat.ofExtension? (extension : String) : Option ConfigFormat :=
  let lower := String.ofList (Text.lower extension.toList)
  if lower = "toml" then some .toml
  else if lower = "yaml" || lower = "yml" then some .yaml
  else if lower = "json" then some .json
  else none

/-- Whose settings a file holds. -/
inductive ConfigScope
  | global | project
  deriving DecidableEq, Repr

/-- The name of a scope. -/
def ConfigScope.name : ConfigScope → String
  | .global => "global"
  | .project => "project"

/-- A configuration file that was found. -/
structure ConfigFile where
  path : String
  format : ConfigFormat
  scope : ConfigScope
  deriving DecidableEq, Repr

/-- The name of the directory with configuration files, of a user and of a project. -/
def configDirectory : String := ".slicegraph"

/-- The names of configuration files, the one that others are laid over first. -/
def configFileNames : List (String × ConfigFormat) :=
  [("slicegraph.toml", .toml), ("slicegraph.yaml", .yaml), ("slicegraph.yml", .yaml),
    ("slicegraph.json", .json)]

/-- Where configuration files are looked for. -/
structure ConfigPlaces where
  /-- The directory of the project's files, when it is not the usual one. -/
  projectDir : Option String := none
  /-- The directory of the user's files, when it is not the usual one. -/
  globalDir : Option String := none
  /-- The current directory. -/
  workingDirectory : String
  /-- The user's home directory, if there is one. -/
  home : Option String

variable {m : Type → Type} [Monad m] [FileAccess m]

/-- The elements that pass a test, in order. -/
def filterInOrder {α : Type} (test : α → m Bool) : List α → m (List α)
  | [] => pure []
  | a :: rest => do
    let passes ← test a
    let others ← filterInOrder test rest
    pure (if passes then a :: others else others)

/-- The configuration files of a directory; none when it is no directory. -/
def configFilesIn (directory : String) (scope : ConfigScope) : m (List ConfigFile) := do
  if ← FileAccess.isDirectory directory then
    let candidates :=
      configFileNames.map fun (name, format) => ⟨joinPath directory name, format, scope⟩
    filterInOrder (fun file : ConfigFile => FileAccess.isFile file.path) candidates
  else pure []

/-- The configuration files of a chosen directory, or of the usual one below `base`. -/
def configFilesOf (chosen base : Option String) (scope : ConfigScope) : m (List ConfigFile) :=
  match chosen, base with
  | some directory, _ => configFilesIn directory scope
  | none, some base => configFilesIn (joinPath base configDirectory) scope
  | none, none => pure []

/-- All configuration files, the one that others are laid over first. -/
def discover (places : ConfigPlaces) : m (List ConfigFile) := do
  let global ← configFilesOf places.globalDir places.home .global
  let project ← configFilesOf places.projectDir (some places.workingDirectory) .project
  pure (global ++ project)

end ContentGraph.Settings
