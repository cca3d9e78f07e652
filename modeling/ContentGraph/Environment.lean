import ContentGraph.Json
import ContentGraph.Registry

/-!
# Collaborators of materialization

Link rules, markup, the policy on images, the file store and the scheme of node ids belong to the
host.  They are functions, gathered in an `Environment` that is only read while documents are
materialized.

* `FieldContext` — the field that a collaborator is asked about;
* `FieldError` — why one field could not be materialized, with its `message`;
* `TextElement` — the part of a rich text that a serializer may write its own way;
* `FetchRequest`, `FileNode` — the question to and the answer of a file store;
* `Diagnostic` — the report of a field that became `null`.
-/

namespace ContentGraph

/-- The field that a collaborator is asked about: its key, its value and the whole raw document. -/
structure FieldContext where
  key : String
  value : Json
  node : Json
  deriving DecidableEq

/-- Why a field could not be materialized. -/
inductive FieldError
  | invalidValue (expected found : String)
  | linkResolver (cause : String)
  | htmlSerializer (cause : String)
  | fetch (cause : String)
  deriving DecidableEq, Repr

/-- What an error reports. -/
def FieldError.message : FieldError → String
  | .invalidValue expected found => "expected " ++ expected ++ ", got " ++ found
  | .linkResolver cause => "link resolver failed: " ++ cause
  | .htmlSerializer cause => "HTML serializer failed: " ++ cause
  | .fetch cause => "remote file fetch failed: " ++ cause

/-- A block, a span or a group of list items: its type, the raw block or span (`null` for a group),
and the text that it covers. -/
structure TextElement where
  type : String
  node : Json
  text : String
  deriving DecidableEq

/-- The address of a document link, if it has one. -/
abbrev LinkResolver := FieldContext → Json → Except String (Option String)

/-- The markup of an element around its rendered children, if it is not to be the default. -/
abbrev HtmlSerializer := FieldContext → TextElement → String → Except String (Option String)

/-- A file to be stored, for the node that owns it. -/
structure FetchRequest where
  url : String
  parentNodeId : String
  deriving DecidableEq, Repr

/-- A stored file. -/
structure FileNode where
  id : String
  parentNodeId : String
  url : String
  path : String
  size : Nat
  deriving DecidableEq, Repr

/-- The report of a field that became `null`. -/
structure Diagnostic where
  path : Path
  kind : PathKind
  message : String
  deriving DecidableEq, Repr

/-- No document link has an address. -/
def noLinks : LinkResolver := fun _ _ => .ok none

/-- Every element has the default markup. -/
def defaultMarkup : HtmlSerializer := fun _ _ _ => .ok none

/-- Everything that materialization needs besides the document and the registry. -/
structure Environment where
  /-- The node id of a typed record, from its type and its id. -/
  nodeId : String → String → String
  /-- The name under which a raw field is exposed. -/
  renameField : String → String := id
  /-- The address of document links. -/
  resolveLink : LinkResolver := noLinks
  /-- Markup other than the default. -/
  serializeHtml : HtmlSerializer := defaultMarkup
  /-- Whether an image is to be stored. -/
  normalizesImage : FieldContext → Bool := fun _ => false
  /-- The file store, if there is one. -/
  fetchFile : Option (FetchRequest → Except String FileNode) := none
  /-- Whether fields that become `null` are reported. -/
  reports : Bool := false

end ContentGraph
