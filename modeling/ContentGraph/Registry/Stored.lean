import ContentGraph.Json.Record
import ContentGraph.Registry

/-!
# Stored registries

A registry is stored as the JSON array of its entries, each with its path, type and kind.  Reading
it back refuses what is no entry and keeps the first entry of each path.
-/

namespace ContentGraph

/-- The stored name of a kind. -/
def PathKind.name : PathKind → String
  | .string => "string"
  | .uid => "uid"
  | .boolean => "boolean"
  | .float => "float"
  | .date => "date"
  | .geoPoint => "geo_point"
  | .embed => "embed"
  | .structuredText => "structured_text"
  | .image => "image"
  | .imageThumbnail => "image_thumbnail"
  | .link => "link"
  | .group => "group"
  | .slices => "slices"
  | .slice => "slice"
  | .slicePrimary => "slice_primary"
  | .sliceItems => "slice_items"
  | .data => "data"
  | .document => "document"

/-- Every kind. -/
def PathKind.all : List PathKind :=
  [.string, .uid, .boolean, .float, .date, .geoPoint, .embed, .structuredText, .image,
    .imageThumbnail, .link, .group, .slices, .slice, .slicePrimary, .sliceItems, .data, .document]

/-- The kind with a stored name. -/
def PathKind.ofName? (name : String) : Option PathKind := all.find? fun kind => kind.name = name

namespace PathEntry

/-- An entry as stored. -/
def toJson (entry : PathEntry) : Json :=
  .object [("path", Json.ofStrings entry.path), ("type", .string entry.typeName),
    ("kind", .string entry.kind.name)]

/-- The entry that a value stores. -/
def ofJson? (value : Json) : Option PathEntry := do
  let record ← value.record? ["path", "type", "kind"]
  let path ← (← Keyed.get? "path" record).strings?
  let typeName ← (← Keyed.get? "type" record).asString?
  let kind ← (← Keyed.get? "kind" record).unitName?.bind PathKind.ofName?
  some { path, typeName, kind }

/-- The entries that an array stores, in order and with repetitions. -/
def listOfJson? (value : Json) : Option (List PathEntry) :=
  value.asArray?.bind fun elements => elements.mapM ofJson?

end PathEntry

namespace Registry

/-- A registry as stored. -/
def toJson (registry : Registry) : Json := .array (registry.entries.map PathEntry.toJson)

/-- The registry that a value stores. -/
def ofJson? (value : Json) : Option Registry := (PathEntry.listOfJson? value).map ofEntries

end Registry

end ContentGraph
