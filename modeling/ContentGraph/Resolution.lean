import ContentGraph.Declaration
import ContentGraph.Json
import ContentGraph.Naming

/-!
# Resolving fields

Declarations are plain data; what a resolver does is computed here against a store of nodes.  Every
resolution answers with the value and the look-ups it made, in order.

* `resolveLinkedDocument` — a document link with its linked node;
* `resolveSliceNodes` — slices with the node ids among them replaced by their nodes;
* `resolveProperty` — the plain member of the parent.
-/

namespace ContentGraph

/-- A store of nodes: one node by id and expected type, and a batch of nodes for a list of ids. -/
structure NodeStore where
  node? : String → Option String → Option Json
  nodes : List String → List (Option Json)

/-- A question put to a node store. -/
inductive Lookup
  | node (id : String) (typeName : Option String)
  | nodes (ids : List String)
  deriving DecidableEq, Repr

/-- What a resolver needs at query time. -/
structure ResolveContext where
  store : NodeStore
  nodeId : String → String → String
  naming : TypeNaming

/-- A resolved value and the look-ups that led to it. -/
structure Resolved where
  value : Json
  lookups : List Lookup := []
  deriving DecidableEq

/-- The member `field` of the parent, `null` when there is none. -/
def resolveProperty (parent : Json) (field : String) : Json := (parent.get? field).getD .null

/-! ### Linked documents -/

/-- The type and the id of the document that a link refers to.  A link whose `link_type` is missing
or no string counts as a document link. -/
def linkTarget? (members : List (String × Json)) : Option (String × String) :=
  let isDocument := match (Keyed.get? "link_type" members).bind Json.asString? with
    | none => true
    | some kind => kind = "Document"
  match (Keyed.get? "type" members).bind Json.asString?,
    (Keyed.get? "id" members).bind Json.asString? with
  | some type, some id => if isDocument then some (type, id) else none
  | _, _ => none

/-- A link with its `document` set to the linked node; anything else as it is. -/
def resolveLinkedDocument (context : ResolveContext) : Option Json → Resolved
  | none => { value := .null }
  | some (.object members) =>
    match linkTarget? members with
    | none => { value := .object members }
    | some (type, id) =>
      let nodeId := context.nodeId type id
      let typeName := context.naming.documentType type
      let document := (context.store.node? nodeId (some typeName)).getD .null
      { value := .object (Keyed.set "document" document members)
        lookups := [.node nodeId (some typeName)] }
  | some other => { value := other }

/-! ### Slices -/

/-- The elements with each string replaced by the next answer of the store, `null` when it is
missing. -/
def fillNodes : List Json → List (Option Json) → List Json
  | [], _ => []
  | .string _ :: rest, answers => (answers.head?.join.getD .null) :: fillNodes rest answers.tail
  | element :: rest, answers => element :: fillNodes rest answers

/-- The elements of a slice zone with node ids replaced by their nodes, `null` when there is no
list. -/
def resolveSliceNodes (context : ResolveContext) : Option Json → Resolved
  | some (.array elements) =>
    let ids := elements.filterMap Json.asString?
    if ids.isEmpty then { value := .array (fillNodes elements []) }
    else
      { value := .array (fillNodes elements (context.store.nodes ids)), lookups := [.nodes ids] }
  | _ => { value := .null }

/-- The value of `field` on a parent. -/
def FieldResolver.resolve (resolver : FieldResolver) (context : ResolveContext) (parent : Json)
    (field : String) : Resolved :=
  match resolver with
  | .linkedDocument => resolveLinkedDocument context (parent.get? field)
  | .sliceNodes => resolveSliceNodes context (parent.get? field)
  | .imageThumbnails => { value := parent }

end ContentGraph
