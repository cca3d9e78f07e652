import ContentGraph.RichText
import ContentGraph.Text.Escape

/-!
# Materializing documents

A raw document is walked key by key.  The kind that the registry gives to a key's path decides what
becomes of the value: rich text is rendered, links are resolved, images are stored, records have
their keys renamed, everything else is copied.  A field that fails becomes `null` in its own place;
only a document without a type fails as a whole.

* `Traced` — a value together with what happened on the way to it, in order;
* `Walk.value` — one value at its path;
* `materialize` — the node id and the document, the diagnostics and the requests for files.
-/

namespace ContentGraph

/-! ### Traces -/

/-- Something that happens during a walk. -/
inductive Event
  /-- A field became `null`. -/
  | degraded (diagnostic : Diagnostic)
  /-- A file was asked for. -/
  | requested (request : FetchRequest)
  deriving DecidableEq, Repr

/-- A value and the events that led to it. -/
structure Traced (α : Type) where
  value : α
  events : List Event := []
  deriving DecidableEq

namespace Traced

/-- The value under a function, the events unchanged. -/
def map {α β : Type} (f : α → β) (a : Traced α) : Traced β :=
  { value := f a.value, events := a.events }

/-- Two values side by side, the events of the first before those of the second. -/
def both {α β γ : Type} (f : α → β → γ) (a : Traced α) (b : Traced β) : Traced γ :=
  { value := f a.value b.value, events := a.events ++ b.events }

/-- The reports among the events. -/
def diagnostics {α : Type} (a : Traced α) : List Diagnostic :=
  a.events.filterMap fun
    | .degraded diagnostic => some diagnostic
    | .requested _ => none

/-- The requests among the events. -/
def requests {α : Type} (a : Traced α) : List FetchRequest :=
  a.events.filterMap fun
    | .degraded _ => none
    | .requested request => some request

end Traced

/-! ### Single fields -/

/-- What is fixed while one document is walked. -/
structure Walk where
  env : Environment
  paths : Registry
  document : Json
  nodeId : String

namespace Walk

/-- The `null` that takes the place of a failed field, reported if reports are wanted. -/
def degrade (w : Walk) (path : Path) (kind : PathKind) (error : FieldError) : Traced Json :=
  { value := .null
    events := if w.env.reports then [.degraded ⟨path, kind, error.message⟩] else [] }

/-- A field's value, or `null` when it fails. -/
def orDegrade (w : Walk) (path : Path) (kind : PathKind) : Except FieldError Json → Traced Json
  | .ok value => { value }
  | .error e => w.degrade path kind e

/-- The id of the stored file of an image, `null` when it is not to be stored or cannot be. -/
def localFile (w : Walk) (path : Path) (field : FieldContext) : Traced Json :=
  match w.env.fetchFile, field.value.getString? "url" with
  | some fetch, some url =>
    if w.env.normalizesImage field then
      let request : FetchRequest := ⟨Text.percentDecode url, w.nodeId⟩
      let answer : Traced Json := match fetch request with
        | .ok file => { value := .string file.id }
        | .error cause => w.degrade path .image (.fetch cause)
      { answer with events := .requested request :: answer.events }
    else { value := .null }
  | _, _ => { value := .null }

/-- The thumbnails of an image that are registered and present: their names and values. -/
def thumbnails (w : Walk) (path : Path) (members : List (String × Json)) :
    List (String × List (String × Json)) :=
  (w.paths.thumbnailNames path).filterMap fun name =>
    match Keyed.get? name members with
    | some (.object inner) => some (name, inner)
    | _ => none

/-- The stored files of thumbnails, in order. -/
def thumbnailFiles (w : Walk) (path : Path) (key : String) :
    List (String × List (String × Json)) → Traced (List (String × Json))
  | [] => { value := [] }
  | (name, inner) :: rest =>
    let file :=
      w.localFile (path ++ [Registry.thumbnailsSegment, name]) ⟨key, .object inner, w.document⟩
    Traced.both (fun file others => (name, .object (Keyed.set "localFile" file inner)) ::
      others) file
      (thumbnailFiles w path key rest)

/-- An image with its stored file, and each thumbnail with its own. -/
def image (w : Walk) (path : Path) (key : String) (members : List (String × Json)) : Traced Json :=
  let file := w.localFile path ⟨key, .object members, w.document⟩
  let files := w.thumbnailFiles path key (w.thumbnails path members)
  Traced.both (fun file thumbnails =>
    .object (thumbnails.foldl (fun image thumbnail => Keyed.set thumbnail.1 thumbnail.2 image)
      (Keyed.set "localFile" file members))) file files

/-- A value that holds no further fields. -/
def leaf (w : Walk) (path : Path) (key : String) (value : Json) : Traced Json :=
  match w.paths.kindAt? path with
  | some .structuredText =>
    w.orDegrade path .structuredText (RichText.materialize w.env ⟨key, value, w.document⟩)
  | some .link => w.orDegrade path .link (Link.materialize w.env ⟨key, value, w.document⟩)
  | some .image =>
    match value with
    | .object members => w.image path key members
    | other => { value := other }
  | _ => { value }

/-! ### Records, groups and slices -/

/-- The members of a field record under their exposed names.  Of members with one name the last
value stands at the first position. -/
def renamed (w : Walk) (members : List (String × Json)) : List (String × Json) :=
  Keyed.merge (members.map fun member => (w.env.renameField member.1, member.2))

mutual
/-- The value under `key` at `path`. -/
def value (w : Walk) (path : Path) (key : String) : Json → Traced Json
  | .null => { value := .null }
  | .array elements =>
    match w.paths.kindAt? path with
    | some .group => (fieldRecords w path elements).map .array
    | some .slices => (slices w path elements).map .array
    | _ => w.leaf path key (.array elements)
  | .object members =>
    match w.paths.kindAt? path with
    | some .data => (record w path members).map fun members => .object (w.renamed members)
    | _ => w.leaf path key (.object members)
  | .bool b => w.leaf path key (.bool b)
  | .number n => w.leaf path key (.number n)
  | .string s => w.leaf path key (.string s)
/-- The members of a record, each at its own path below `parent`, under their raw keys. -/
def record (w : Walk) (parent : Path) : List (String × Json) → Traced (List (String × Json))
  | [] => { value := [] }
  | (key, member) :: rest =>
    Traced.both (fun member rest => (key, member) :: rest) (value w (parent ++ [key]) key member)
      (record w parent rest)
/-- An element of a group or of a slice's items: a field record when it is an object. -/
def fieldRecord (w : Walk) (path : Path) : Json → Traced Json
  | .object members => (record w path members).map fun members => .object (w.renamed members)
  | .null => { value := .null }
  | .bool b => { value := .bool b }
  | .number n => { value := .number n }
  | .string s => { value := .string s }
  | .array elements => { value := .array elements }
/-- Elements of a group or of a slice's items. -/
def fieldRecords (w : Walk) (path : Path) : List Json → Traced (List Json)
  | [] => { value := [] }
  | element :: rest =>
    Traced.both (fun element rest => element :: rest) (fieldRecord w path element)
      (fieldRecords w path rest)
/-- A slice of the zone at `zone`, read as the choice that its `slice_type` names. -/
def slice (w : Walk) (zone : Path) : Json → Traced Json
  | .object members =>
    match (Keyed.get? "slice_type" members).bind Json.asString? with
    | some choice => (halves w (zone ++ [choice]) members).map .object
    | none => { value := .object members }
  | .null => { value := .null }
  | .bool b => { value := .bool b }
  | .number n => { value := .number n }
  | .string s => { value := .string s }
  | .array elements => { value := .array elements }
/-- Slices of the zone at `zone`. -/
def slices (w : Walk) (zone : Path) : List Json → Traced (List Json)
  | [] => { value := [] }
  | element :: rest =>
    Traced.both (fun element rest => element :: rest) (slice w zone element) (slices w zone rest)
/-- The members of a slice: its two halves hold field records, its other members are copied. -/
def halves (w : Walk) (choice : Path) : List (String × Json) → Traced (List (String × Json))
  | [] => { value := [] }
  | (key, half) :: rest =>
    let walked : Traced Json :=
      match half with
      | .object members =>
        if key = "primary" then
          (record w (choice ++ [key]) members).map fun members => .object (w.renamed members)
        else { value := .object members }
      | .array elements =>
        if key = "items" then (fieldRecords w (choice ++ [key]) elements).map .array
        else { value := .array elements }
      | other => { value := other }
    Traced.both (fun half rest => (key, half) :: rest) walked (halves w choice rest)
end

end Walk

/-! ### Documents -/

/-- Why a document cannot be materialized. -/
inductive DocumentError
  | notAnObject (found : String)
  | missingType
  deriving DecidableEq, Repr

/-- What an error reports. -/
def DocumentError.message : DocumentError → String
  | .notAnObject found => "raw document must be a JSON object, got " ++ found
  | .missingType => "raw document has no string \x60type\x60 field"

/-- A materialized document, what was reported and which files were asked for. -/
structure Materialized where
  nodeId : String
  document : Json
  diagnostics : List Diagnostic
  requests : List FetchRequest
  deriving DecidableEq

/-- A raw document materialized along a registry. -/
def materialize (env : Environment) (paths : Registry) (raw : Json) :
    Except DocumentError Materialized :=
  match raw with
  | .object members =>
    match (Keyed.get? "type" members).bind Json.asString? with
    | none => .error .missingType
    | some type =>
      let id := ((Keyed.get? "id" members).bind Json.asString?).getD ""
      let nodeId := env.nodeId type id
      let walked := Walk.record ⟨env, paths, raw, nodeId⟩ [type] members
      .ok { nodeId
            document := .object walked.value
            diagnostics := walked.diagnostics
            requests := walked.requests }
  | other => .error (.notAnObject other.kindName)

end ContentGraph
