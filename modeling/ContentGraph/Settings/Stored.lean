import ContentGraph.Settings
import ContentGraph.Settings.Value
import ContentGraph.Json.Record

/-!
# Reading settings

Settings are read from a table, or from a list that holds them in stored order.  A setting that is
left out has its default; one that is written has to be of its kind; other keys are ignored.

* `Settings.ofTable?` — settings from a table;
* `Settings.ofJson?` — settings from their stored form, whose lists have no surplus elements.
-/

namespace ContentGraph

namespace Settings

/-! ### Single settings -/

/-- The text of a value that is a text. -/
def Value.text? : Value → Option String
  | .text value => some value
  | _ => none

/-- The flag of a value that is a flag. -/
def Value.flag? : Value → Option Bool
  | .flag value => some value
  | _ => none

/-- The count of a value that is one: a whole number below `2 ^ 64` that is not negative. -/
def Value.count? : Value → Option Nat
  | .whole value => if 0 ≤ value && value < Int.pow 2 64 then some value.toNat else none
  | _ => none

/-- The entry of a table whose key is the least. -/
def leastEntry? : Table → Option (String × Value)
  | [] => none
  | entry :: rest =>
    match leastEntry? rest with
    | none => some entry
    | some least => if least.1 < entry.1 then some least else some entry

/-- The style that a value names, as a text or as a table whose least key has no value. -/
def Value.style? : Value → Option FieldNameStyle
  | .text name => FieldNameStyle.ofName? name
  | .table entries =>
    match leastEntry? entries with
    | some (name, .empty) => FieldNameStyle.ofName? name
    | _ => none
  | _ => none

/-- The settings of a record under their names: those of a table, or the elements of a list in
stored order. -/
def Value.record? (names : List String) : Value → Option Table
  | .table entries => some entries
  | .list elements => some (names.zip elements)
  | _ => none

/-- The setting under `key`, its default when it is left out. -/
def setting? {α : Type} (read? : Value → Option α) (default : α) (key : String) (entries : Table) :
    Option α :=
  match Keyed.get? key entries with
  | none => some default
  | some value => read? value

/-- A setting that is written is read. -/
theorem setting?_of_some {α : Type} {read? : Value → Option α} {default : α} {key : String}
    {entries : Table} {value : Value} (h : Keyed.get? key entries = some value) :
    setting? read? default key entries = read? value := by
  simp [setting?, h]

end Settings

open Settings

/-! ### Records -/

/-- The settings of images that a table holds. -/
def ImageSettings.ofTable? (entries : Table) : Option ImageSettings := do
  let defaults : ImageSettings := {}
  let normalize ← setting? Value.flag? defaults.normalize "normalize" entries
  let cacheDir ← setting? Value.text? defaults.cacheDir "cache_dir" entries
  let maxConcurrentDownloads ←
    setting? Value.count? defaults.maxConcurrentDownloads "max_concurrent_downloads" entries
  some { normalize, cacheDir, maxConcurrentDownloads }

/-- The settings of images that a value holds. -/
def ImageSettings.ofValue? (value : Value) : Option ImageSettings :=
  (value.record? imageKeys).bind ofTable?

/-- The settings that a table holds. -/
def Settings.ofTable? (entries : Table) : Option Settings := do
  let defaults : Settings := {}
  let typePrefix ← setting? Value.text? defaults.typePrefix "type_prefix" entries
  let fieldNames ← setting? Value.style? defaults.fieldNames "field_names" entries
  let images ← setting? ImageSettings.ofValue? defaults.images "images" entries
  some { typePrefix, fieldNames, images }

/-- The settings that a stored form holds.  A style in a table is alone there. -/
def Settings.ofJson? (value : Json) : Option Settings := do
  let members ← value.record? keys
  match Keyed.get? "images" members with
  | some images => let _ ← images.record? imageKeys
  | none => pure ()
  match Keyed.get? "field_names" members with
  | some (.object (_ :: _ :: _)) => none
  | _ => pure ()
  ofTable? (tableOfJson members)

end ContentGraph
