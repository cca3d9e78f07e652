import ContentGraph.CommandLine.Arguments
import ContentGraph.CommandLine.Error
import ContentGraph.FileTree
import ContentGraph.Json.Reader
import ContentGraph.Json.Writer
import ContentGraph.Registry.Stored

/-!
# Materializing a file

The materialization of a document's file along the registry in another one.  Document links lead to
`/<type>/<uid>`, or to `/<type>/<id>` when the linked document has no identifier of its own; node
ids join type and id by a hyphen.

* `pathLinks`, `nodeId` — addresses and node ids;
* `environment` — the collaborators of the command line;
* `materializeFile` — the whole command;
* `renderMaterialized`, `degradedNotice?` — what is printed and what is noted.
-/

namespace ContentGraph.CommandLine

/-- The address of a document link. -/
def pathLinks : LinkResolver := fun _ link =>
  match link.getString? "type" with
  | none => .ok none
  | some type =>
    let key := match link.getString? "uid" with
      | some uid => some uid
      | none => link.getString? "id"
    .ok (key.map fun key => "/" ++ type ++ "/" ++ key)

/-- The node id of a document. -/
def nodeId (type id : String) : String := type ++ "-" ++ id

/-- The collaborators of the command line, with a file store. -/
def environment (fetch : FetchRequest → Except String FileNode) (settings : Settings)
    (normalizeImages : Bool) : Environment where
  nodeId := nodeId
  renameField := settings.fieldNames.apply
  resolveLink := pathLinks
  normalizesImage _ := settings.images.normalize || normalizeImages
  fetchFile := some fetch
  reports := true

/-- The document that a text is, materialized along the registry that another one is. -/
def materializeSources (env : Environment) (command : MaterializeCommand) (document : Json)
    (paths : String) :
    Except CommandError Materialized :=
  match (Json.parse paths).bind Registry.ofJson? with
  | none => .error (.malformedFile command.paths)
  | some registry => (materialize env registry document).mapError .notMaterialized

variable {m : Type → Type} [Monad m] [FileAccess m]

/-- The materialization of a file: the document is read before the registry. -/
def materializeFile (env : Environment) (command : MaterializeCommand) :
    m (Except CommandError Materialized) := do
  match ← FileAccess.readText command.document with
  | none => pure (.error (.missingFile command.document))
  | some source =>
    match Json.parseValue source with
    | none => pure (.error (.malformedFile command.document))
    | some document =>
      match ← FileAccess.readText command.paths with
      | none => pure (.error (.missingFile command.paths))
      | some paths => pure (materializeSources env command document paths)

/-- What is printed of a materialized document. -/
def renderMaterialized (materialized : Materialized) : String :=
  Json.pretty (.object [("node_id", .string materialized.nodeId),
    ("document", materialized.document)])

/-- The note on fields that became `null`, if there are any. -/
def degradedNotice? (materialized : Materialized) : Option String :=
  match materialized.diagnostics with
  | [] => none
  | diagnostics =>
    some ("Degraded fields: " ++ String.intercalate ", " (diagnostics.map fun d => d.path.dotted))

end ContentGraph.CommandLine
