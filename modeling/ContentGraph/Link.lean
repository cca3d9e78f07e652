import ContentGraph.Environment

/-!
# Links

A link refers to another document or carries an address of its own.

* `Link.url` — the address: of a document link as the resolver says, of any other its `url`;
* `Link.materialize` — the link with its address, the node id of the linked document and its raw
  form.
-/

namespace ContentGraph.Link

/-- Whether a link refers to a document. -/
def isDocumentLink (link : Json) : Bool := link.getString? "link_type" = some "Document"

/-- The address of a link. -/
def url (resolve : LinkResolver) (field : FieldContext) (link : Json) :
    Except FieldError (Option String) :=
  if isDocumentLink link then (resolve field link).mapError .linkResolver
  else .ok (link.getString? "url")

/-- The type and the id of the linked document. -/
def target? (link : Json) : Option (String × String) :=
  match link.getString? "type", link.getString? "id" with
  | some type, some id => if isDocumentLink link then some (type, id) else none
  | _, _ => none

/-- A text or `null`. -/
def textOrNull : Option String → Json
  | none => .null
  | some text => .string text

/-- The materialized link. -/
def materialize (env : Environment) (field : FieldContext) : Except FieldError Json :=
  match field.value with
  | .object members =>
    match url env.resolveLink field field.value with
    | .error e => .error e
    | .ok address =>
      let document := (target? field.value).map fun target => env.nodeId target.1 target.2
      .ok (.object (Keyed.set "raw" field.value
        (Keyed.set "document" (textOrNull document) (Keyed.set "url"
          (textOrNull address) members))))
  | other => .error (.invalidValue "link object" other.kindName)

end ContentGraph.Link
