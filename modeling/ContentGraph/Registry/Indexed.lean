import ContentGraph.Compilation
import ContentGraph.Registry.Stored
import Mathlib.Data.List.Nodup

/-!
# Indexed registries

A registry is asked for a path far more often than it grows, so it is kept twice: as the list of its
entries, and as an index that holds the place of each path's entry in that list.  Whatever adds an
entry changes both.

* `IndexedRegistry.push` — one more entry in the list and in the index;
* `IndexedRegistry.register`, `IndexedRegistry.load` — steps that may fail, and leave a registry in
  either case;
* `IndexedRegistry.ofEntries` — the index of a stored list is built anew;
* `IndexedRegistry.get?` — a look-up through the index;
* `RegistryOperation` with `perform` and `after` — what is done to a registry, one operation after
  the other, beside `onList?` and `Registry.after`, which do the same to a list with distinct paths.
-/

namespace ContentGraph

/-- Entries in order, and the place of the entry of each path. -/
structure IndexedRegistry where
  entries : List PathEntry
  index : Std.HashMap Path Nat

namespace IndexedRegistry

/-- The registry without entries. -/
def empty : IndexedRegistry := ⟨[], ∅⟩

/-- Whether the index holds a path. -/
def contains (registry : IndexedRegistry) (path : Path) : Bool := registry.index.contains path

/-- The registry with one more entry, in the list and in the index. -/
def push (registry : IndexedRegistry) (entry : PathEntry) : IndexedRegistry where
  entries := registry.entries ++ [entry]
  index := registry.index.insert entry.path registry.entries.length

/-- The registry of a stored list: an entry whose path is in the index already is passed over. -/
def ofEntries (entries : List PathEntry) : IndexedRegistry :=
  entries.foldl (fun registry entry => if registry.contains entry.path then registry
    else registry.push entry) empty

/-- A registry as stored: its entries only. -/
def toJson (registry : IndexedRegistry) : Json := .array (registry.entries.map PathEntry.toJson)

/-- The registry that a value stores. -/
def ofJson? (value : Json) : Option IndexedRegistry := (PathEntry.listOfJson? value).map ofEntries

/-! ### Steps -/

/-- A step on a registry, which may fail. -/
abbrev Step := ExceptT SchemaError (StateM IndexedRegistry) Unit

/-- An entry is registered unless its path is taken. -/
def register (entry : PathEntry) : Step := do
  let registry ← get
  if registry.contains entry.path then
    throw (.duplicatePath entry.path)
  set (registry.push entry)

/-- The registry that a value stores takes the place of the present one. -/
def load (value : Json) : Step :=
  match ofJson? value with
  | none => throw .malformed
  | some registry => set registry

/-- The registry is stored and loaded again. -/
def reload : Step := do
  let registry ← get
  load registry.toJson

/-! ### Look-ups -/

/-- The entry at a path: the one at the place that the index holds. -/
def get? (registry : IndexedRegistry) (path : Path) : Option PathEntry :=
  registry.index[path]?.bind fun place => registry.entries[place]?

/-- The thumbnails registered for the image at a path, in order. -/
def thumbnailNames (registry : IndexedRegistry) (image : Path) : List String :=
  registry.entries.filterMap (Registry.thumbnailName? image)

end IndexedRegistry

/-! ### Operations -/

/-- What is done to a registry. -/
inductive RegistryOperation
  | register (entry : PathEntry)
  | load (value : Json)
  | reload
  deriving DecidableEq, Repr

namespace RegistryOperation

/-- The step that an operation takes. -/
def step : RegistryOperation → IndexedRegistry.Step
  | .register entry => IndexedRegistry.register entry
  | .load value => IndexedRegistry.load value
  | .reload => IndexedRegistry.reload

/-- Whether an operation succeeds, and the registry that it leaves. -/
def perform (operation : RegistryOperation) (registry : IndexedRegistry) :
    Except SchemaError Unit × IndexedRegistry :=
  operation.step.run.run registry

/-- What an operation makes of a list with distinct paths; nothing when it fails. -/
def onList? : RegistryOperation → Registry → Option Registry
  | .register entry, registry => registry.register? entry
  | .load value, _ => Registry.ofJson? value
  | .reload, registry => Registry.ofJson? registry.toJson

end RegistryOperation

/-- The list with distinct paths after operations on the empty list; those that fail leave it as it
is. -/
def Registry.after (operations : List RegistryOperation) : Registry :=
  operations.foldl (fun registry operation => (operation.onList? registry).getD registry) empty

/-- The registry after operations on the registry without entries; those that fail leave what they
leave. -/
def IndexedRegistry.after (operations : List RegistryOperation) : IndexedRegistry :=
  operations.foldl (fun registry operation => (operation.perform registry).2) empty

end ContentGraph
