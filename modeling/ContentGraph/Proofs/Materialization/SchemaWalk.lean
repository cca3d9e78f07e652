import ContentGraph.Materialization
import ContentGraph.Proofs.Schema.Parts

/-!
# Materialization directed by a schema

A document can be materialized without a registry: schema and document are descended together, and
the field that a key names in the schema decides what becomes of its value.  This walk is the
meaning that the walk along a registry is to have.

* `SchemaWalk.value`, `SchemaWalk.record`, `SchemaWalk.slice` — the descent, one field map at a
  time;
* `SchemaWalk.document` — a document's members: its data is descended, all else is copied;
* `materializeBySchema` — the node id and the document.
-/

namespace ContentGraph

/-- What is fixed while one document is walked along its schema. -/
structure SchemaWalk where
  env : Environment
  raw : Json
  nodeId : String

namespace SchemaWalk

/-! ### Single fields -/

/-- The id of the stored file of an image, `null` when it is not to be stored or cannot be. -/
def storedFile (s : SchemaWalk) (field : FieldContext) : Json :=
  match s.env.fetchFile, field.value.getString? "url" with
  | some fetch, some url =>
    if s.env.normalizesImage field then
      match fetch ⟨Text.percentDecode url, s.nodeId⟩ with
      | .ok file => .string file.id
      | .error _ => .null
    else .null
  | _, _ => .null

/-- The members of an image with its stored file. -/
def withFile (s : SchemaWalk) (key : String) (members : List (String × Json)) :
    List (String × Json) :=
  Keyed.set "localFile" (s.storedFile ⟨key, .object members, s.raw⟩) members

/-- The thumbnail of an image that a specification names, with its stored file. -/
def thumbnail? (s : SchemaWalk) (key : String) (members : List (String × Json))
    (spec : ThumbnailSpec) :
    Option (String × Json) :=
  match Keyed.get? spec.name members with
  | some (.object inner) => some (spec.name, .object (s.withFile key inner))
  | _ => none

/-- An image with its stored file and those of the thumbnails that its field lists. -/
def image (s : SchemaWalk) (key : String) (thumbnails : List ThumbnailSpec)
    (members : List (String × Json)) : Json :=
  .object ((thumbnails.filterMap (s.thumbnail? key members)).foldl
    (fun image thumbnail => Keyed.set thumbnail.1 thumbnail.2 image) (s.withFile key members))

/-- A field's value, `null` when it fails. -/
def orNull : Except FieldError Json → Json
  | .ok value => value
  | .error _ => .null

/-- A value that holds no further fields. -/
def leaf (s : SchemaWalk) (field : Option Field) (key : String) (value : Json) : Json :=
  match field with
  | some (.leaf .structuredText _) => orNull (RichText.materialize s.env ⟨key, value, s.raw⟩)
  | some (.leaf .link _) => orNull (Link.materialize s.env ⟨key, value, s.raw⟩)
  | some (.image thumbnails _) =>
    match value with
    | .object members => s.image key thumbnails members
    | other => other
  | _ => value

/-! ### Records, groups and slices -/

/-- Members under their exposed names. -/
def renamed (s : SchemaWalk) (members : List (String × Json)) : List (String × Json) :=
  Keyed.merge (members.map fun member => (s.env.renameField member.1, member.2))

/-- The choice of a name; one without fields where the zone has no such choice. -/
def choiceOf (choices : List (String × Choice Field)) (name : String) : Choice Field :=
  (Keyed.get? name choices).getD { primary := [], items := [], extra := [] }

mutual
/-- The value of a field, or of no field. -/
def value (s : SchemaWalk) (field : Option Field) (key : String) : Json → Json
  | .null => .null
  | .array elements =>
    match field with
    | some (.group fields _) => .array (fieldRecords s fields elements)
    | some (.slices choices _) => .array (slices s choices elements)
    | other => s.leaf other key (.array elements)
  | .object members => s.leaf field key (.object members)
  | .bool b => s.leaf field key (.bool b)
  | .number n => s.leaf field key (.number n)
  | .string text => s.leaf field key (.string text)
/-- The members of a record over a field map, under their raw keys. -/
def record (s : SchemaWalk) (fields : FieldMap) : List (String × Json) → List (String × Json)
  | [] => []
  | (key, member) :: rest =>
    (key, value s (Keyed.get? key fields) key member) :: record s fields rest
/-- A field record over a field map; what is no object is copied. -/
def fieldRecord (s : SchemaWalk) (fields : FieldMap) : Json → Json
  | .object members => .object (s.renamed (record s fields members))
  | .null => .null
  | .bool b => .bool b
  | .number n => .number n
  | .string text => .string text
  | .array elements => .array elements
/-- Field records over a field map. -/
def fieldRecords (s : SchemaWalk) (fields : FieldMap) : List Json → List Json
  | [] => []
  | element :: rest => fieldRecord s fields element :: fieldRecords s fields rest
/-- A slice, read as the choice that its `slice_type` names. -/
def slice (s : SchemaWalk) (choices : List (String × Choice Field)) : Json → Json
  | .object members =>
    match (Keyed.get? "slice_type" members).bind Json.asString? with
    | some name => .object (halves s (choiceOf choices name) members)
    | none => .object members
  | .null => .null
  | .bool b => .bool b
  | .number n => .number n
  | .string text => .string text
  | .array elements => .array elements
/-- Slices of a zone. -/
def slices (s : SchemaWalk) (choices : List (String × Choice Field)) : List Json → List Json
  | [] => []
  | element :: rest => slice s choices element :: slices s choices rest
/-- The members of a slice: its two halves hold field records over the choice's field maps, all else
is copied. -/
def halves (s : SchemaWalk) (choice : Choice Field) : List (String × Json) → List (String × Json)
  | [] => []
  | (key, half) :: rest =>
    let walked : Json :=
      match half with
      | .object members =>
        if key = "primary" then .object (s.renamed (record s choice.primary members))
        else .object members
      | .array elements =>
        if key = "items" then .array (fieldRecords s choice.items elements) else .array elements
      | other => other
    (key, walked) :: halves s choice rest
end

/-- The members of a document: its data is a field record over the fields inside the data, all else
is copied. -/
def document (s : SchemaWalk) (type : CustomType) (members : List (String × Json)) :
    List (String × Json) :=
  members.map fun member =>
    (member.1, if member.1 = "data" then s.fieldRecord type.dataFields member.2 else member.2)

end SchemaWalk

/-- A raw document materialized along the schema of the custom type `id`: the node id and the
document.  Documents of other types are copied. -/
def materializeBySchema (env : Environment) (id : String) (type : CustomType) (raw : Json) :
    Except DocumentError (String × Json) :=
  match raw with
  | .object members =>
    match (Keyed.get? "type" members).bind Json.asString? with
    | none => .error .missingType
    | some found =>
      let nodeId := env.nodeId found (((Keyed.get? "id" members).bind Json.asString?).getD "")
      .ok (nodeId,
        .object (if found = id then SchemaWalk.document ⟨env, raw, nodeId⟩ type members
          else members))
  | other => .error (.notAnObject other.kindName)

end ContentGraph
