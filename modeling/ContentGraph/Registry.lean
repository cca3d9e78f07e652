/-!
# The path registry

A registry says what stands at each structural path of a custom type's documents: the type generated
there and how the value at that path is shaped.  Entries keep the order in which they were
registered and no path is registered twice.

* `Registry.register` — one more entry, refused when its path is taken;
* `Registry.ofEntries` — the registry of a stored list, the first entry of each path;
* `Registry.get?`, `Registry.kindAt?`, `Registry.thumbnailNames` — what is known of a path.
-/

namespace ContentGraph

/-- A structural path: the custom type's id, then keys and structural segments. -/
abbrev Path := List String

/-- The path with dots between its segments. -/
def Path.dotted (path : Path) : String := String.intercalate "." path

/-- How the value at a path is shaped. -/
inductive PathKind
  | string | uid | boolean | float | date | geoPoint | embed | structuredText | image
  | imageThumbnail | link | group | slices | slice | slicePrimary | sliceItems | data | document
  deriving DecidableEq, Repr

/-- Whether values of the kind are copied as they are. -/
def PathKind.isPassthrough : PathKind → Bool
  | .string | .uid | .boolean | .float | .date | .geoPoint | .embed => true
  | _ => false

/-- One registered path. -/
structure PathEntry where
  path : Path
  typeName : String
  kind : PathKind
  deriving DecidableEq, Repr

/-- Entries in order of registration, each path once. -/
structure Registry where
  entries : List PathEntry
  distinct : (entries.map PathEntry.path).Nodup

namespace Registry

/-- The segment under which thumbnails are registered. -/
def thumbnailsSegment : String := "thumbnails"

@[ext] theorem ext {a b : Registry} (h : a.entries = b.entries) : a = b := by
  cases a; cases b; simp_all

instance : DecidableEq Registry := fun a b =>
  if h : a.entries = b.entries then isTrue (ext h) else isFalse fun e => h (congrArg entries e)

/-- The registry without entries. -/
def empty : Registry := ⟨[], List.nodup_nil⟩

/-- The registered paths in order. -/
def paths (registry : Registry) : List Path := registry.entries.map PathEntry.path

/-- Whether a path is registered. -/
def contains (registry : Registry) (path : Path) : Bool :=
  registry.entries.any fun entry => entry.path = path

theorem contains_iff (registry : Registry) (path : Path) :
    registry.contains path = true ↔ path ∈ registry.paths := by
  simp [contains, paths]

/-- The registry with one more entry, whose path is not taken. -/
def push (registry : Registry) (entry : PathEntry) (fresh : registry.contains entry.path = false) :
    Registry where
  entries := registry.entries ++ [entry]
  distinct := by
    have absent : entry.path ∉ registry.paths := by
      rw [← contains_iff, fresh]
      simp
    rw [List.map_append, List.nodup_append]
    refine ⟨registry.distinct, by simp, ?_⟩
    intro a ha b hb
    simp only [List.map_cons, List.map_nil, List.mem_singleton] at hb
    subst hb
    exact fun e => absent (e ▸ ha)

/-- The registry with one more entry, or nothing when the path is taken. -/
def register? (registry : Registry) (entry : PathEntry) : Option Registry :=
  match fresh : registry.contains entry.path with
  | true => none
  | false => some (registry.push entry fresh)

/-- The registry with an entry unless its path is taken. -/
def add (registry : Registry) (entry : PathEntry) : Registry :=
  (registry.register? entry).getD registry

/-- The registry of a list of entries; of several with one path the first is kept. -/
def ofEntries (entries : List PathEntry) : Registry := entries.foldl add empty

/-! ### Look-ups -/

/-- The entry at a path. -/
def get? (registry : Registry) (path : Path) : Option PathEntry :=
  registry.entries.find? fun entry => entry.path = path

/-- The kind registered at a path. -/
def kindAt? (registry : Registry) (path : Path) : Option PathKind :=
  (registry.get? path).map PathEntry.kind

/-- The thumbnail name that an entry registers for the image at a path. -/
def thumbnailName? (image : Path) (entry : PathEntry) : Option String :=
  if entry.kind = .imageThumbnail then
    match image.isPrefixOf? entry.path with
    | some [segment, name] => if segment = thumbnailsSegment then some name else none
    | _ => none
  else none

/-- The thumbnails registered for the image at a path, in order. -/
def thumbnailNames (registry : Registry) (image : Path) : List String :=
  registry.entries.filterMap (thumbnailName? image)

/-- The number of entries. -/
def size (registry : Registry) : Nat := registry.entries.length

end Registry

end ContentGraph
