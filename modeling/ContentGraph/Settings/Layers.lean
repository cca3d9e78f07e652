import ContentGraph.Json.Reader
import ContentGraph.Settings.Discovery
import ContentGraph.Settings.Stored
import ContentGraph.Settings.Toml
import ContentGraph.Settings.Variable
import ContentGraph.Settings.Yaml

/-!
# Layers of settings

Settings come from several sources, each laid over the ones before it: the defaults, the
configuration files in the order of their discovery, and the variables of the environment.  What
results has to be readable and usable; what is covered by a later source is not looked at.

* `ConfigFormat.read?` — the table that a file's text holds;
* `ofLayers` — the settings of tables laid over the defaults;
* `load` — the settings of a place.
-/

namespace ContentGraph.Settings

/-- Why settings cannot be loaded. -/
inductive LoadError
  /-- A source is no table, or a setting is not of its kind. -/
  | unreadable
  /-- A setting cannot be used. -/
  | unusable (fault : SettingFault)
  deriving DecidableEq, Repr

/-- What an error reports. -/
def LoadError.message : LoadError → String
  | .unreadable => "Failed to parse configuration"
  | .unusable fault => fault.message

/-- The table that a file's text holds. -/
def ConfigFormat.read? (format : ConfigFormat) (text : String) : Option Table :=
  match format with
  | .toml => Toml.parse text
  | .yaml => Yaml.parse text
  | .json =>
    match Json.parseValue text with
    | some (.object members) => some (tableOfJson members)
    | _ => none

/-- The lowest layer. -/
def defaultTable : Table :=
  match Value.ofJson (toJson {}) with
  | .table entries => entries
  | _ => []

/-- The settings when they can be used. -/
def usable (settings : Settings) : Except LoadError Settings :=
  match settings.fault? with
  | none => .ok settings
  | some fault => .error (.unusable fault)

/-- The settings of tables laid over the defaults, one after the other. -/
def ofLayers (layers : List Table) : Except LoadError Settings :=
  match ofTable? (layers.foldl overlayTable defaultTable) with
  | none => .error .unreadable
  | some settings => usable settings

variable {m : Type → Type} [Monad m] [FileAccess m]

/-- The tables of configuration files, or nothing when one of them cannot be read. -/
def readLayers? : List ConfigFile → m (Option (List Table))
  | [] => pure (some [])
  | file :: rest => do
    let text ← FileAccess.readText file.path
    let others ← readLayers? rest
    pure (match text.bind file.format.read?, others with
      | some table, some tables => some (table :: tables)
      | _, _ => none)

/-- The settings of a place with its files and the variables of the environment. -/
def load (places : ConfigPlaces) (vars : List (String × String)) :
    m (Except LoadError Settings) := do
  let files ← discover places
  let layers ← readLayers? files
  pure (match layers with
    | none => .error .unreadable
    | some layers => ofLayers (layers ++ [tableOfVariables vars]))

end ContentGraph.Settings
