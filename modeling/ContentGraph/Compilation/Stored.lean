import ContentGraph.Compilation
import ContentGraph.Registry.Stored

/-!
# Stored compilations

Compiled custom types are kept between runs as JSON: the id, the declarations and the registry.  In
a declaration a type reference is its written form; a field's extensions and an object's interfaces
are left out when there are none, a resolver when there is none.

* `toJson` functions write each part;
* `ofJson?` functions read it back, refusing what does not fit.
-/

namespace ContentGraph

/-! ### Constants -/

/-- The stored name of an extension. -/
def FieldExtension.name : FieldExtension → String
  | .dateFormat => "date_format"

/-- The extension with a stored name. -/
def FieldExtension.ofName? (name : String) : Option FieldExtension :=
  if name = "date_format" then some .dateFormat else none

/-- The stored name of a resolver. -/
def FieldResolver.name : FieldResolver → String
  | .linkedDocument => "linked_document"
  | .sliceNodes => "slice_nodes"
  | .imageThumbnails => "image_thumbnails"

/-- The resolver with a stored name. -/
def FieldResolver.ofName? (name : String) : Option FieldResolver :=
  if name = "linked_document" then some .linkedDocument
  else if name = "slice_nodes" then some .sliceNodes
  else if name = "image_thumbnails" then some .imageThumbnails
  else none

/-- The behaviour with a stored name. -/
def ScalarBehavior.ofName? (name : String) : Option ScalarBehavior :=
  if name = "always_null" then some .alwaysNull else none

namespace ScalarType

/-- The scalar's form of a value. -/
def serialize (type : ScalarType) (_value : Json) : Json :=
  match type.behavior with
  | .alwaysNull => .null

end ScalarType

/-! ### Type references -/

namespace TypeRef

/-- The written form. -/
def toJson (ref : TypeRef) : Json := .string ref.render

/-- The reference that a string writes. -/
def ofJson? (value : Json) : Option TypeRef :=
  value.asString?.bind fun text => (parse text).toOption

end TypeRef

/-! ### Fields -/

namespace FieldDecl

/-- A field as stored. -/
def toJson (field : FieldDecl) : Json :=
  .object (("type", field.typeRef.toJson)
    :: ((if field.extensions.isEmpty then []
        else [("extensions", Json.array (field.extensions.map fun e => .string e.name))])
    ++ match field.resolver with
      | none => []
      | some resolver => [("resolver", .string resolver.name)]))

/-- The extensions of a stored field; none when the member is missing. -/
def extensions? : Option Json → Option (List FieldExtension)
  | none => some []
  | some value =>
    value.asArray?.bind fun elements =>
      elements.mapM fun element => element.innerUnitName?.bind FieldExtension.ofName?

/-- The resolver of a stored field; none when the member is missing or `null`. -/
def resolver? : Option Json → Option (Option FieldResolver)
  | none => some none
  | some .null => some none
  | some value => (value.innerUnitName?.bind FieldResolver.ofName?).map some

/-- The field that a value stores. -/
def ofJson? (value : Json) : Option FieldDecl := do
  let record ← value.record? ["type", "extensions", "resolver"]
  let typeRef ← TypeRef.ofJson? (← Keyed.get? "type" record)
  let extensions ← extensions? (Keyed.get? "extensions" record)
  let resolver ← resolver? (Keyed.get? "resolver" record)
  some { typeRef, extensions, resolver }

/-- A field map as stored. -/
def mapToJson (fields : List (String × FieldDecl)) : Json :=
  .object (fields.map fun field => (field.1, field.2.toJson))

/-- The field map that an object stores. -/
def mapOfJson? : Json → Option (List (String × FieldDecl))
  | .object members =>
    (members.mapM fun member => (ofJson? member.2).map fun field =>
      (member.1, field)).map Keyed.merge
  | _ => none

end FieldDecl

/-! ### Declarations -/

namespace ObjectType

/-- The members of a stored object type. -/
def toMembers (type : ObjectType) : List (String × Json) :=
  ("name", .string type.name) :: ("fields", FieldDecl.mapToJson type.fields)
    :: (if type.interfaces.isEmpty then [] else [("interfaces", Json.ofStrings type.interfaces)])

/-- The object type that a value stores. -/
def ofJson? (value : Json) : Option ObjectType := do
  let record ← value.record? ["name", "fields", "interfaces"]
  let name ← (← Keyed.get? "name" record).asString?
  let fields ← FieldDecl.mapOfJson? (← Keyed.get? "fields" record)
  let interfaces ← match Keyed.get? "interfaces" record with
    | none => some []
    | some value => value.strings?
  some { name, fields, interfaces }

end ObjectType

namespace InterfaceType

/-- The members of a stored interface. -/
def toMembers (type : InterfaceType) : List (String × Json) :=
  [("name", .string type.name), ("fields", FieldDecl.mapToJson type.fields)]

/-- The interface that a value stores. -/
def ofJson? (value : Json) : Option InterfaceType := do
  let record ← value.record? ["name", "fields"]
  let name ← (← Keyed.get? "name" record).asString?
  let fields ← FieldDecl.mapOfJson? (← Keyed.get? "fields" record)
  some { name, fields }

end InterfaceType

namespace UnionType

/-- The members of a stored union. -/
def toMembers (type : UnionType) : List (String × Json) :=
  [("name", .string type.name), ("types", Json.ofStrings type.members)]

/-- The union that a value stores. -/
def ofJson? (value : Json) : Option UnionType := do
  let record ← value.record? ["name", "types"]
  let name ← (← Keyed.get? "name" record).asString?
  let members ← (← Keyed.get? "types" record).strings?
  some { name, members }

end UnionType

namespace ScalarType

/-- The members of a stored scalar. -/
def toMembers (type : ScalarType) : List (String × Json) :=
  [("name", .string type.name), ("behavior", .string type.behavior.name)]

/-- The scalar that a value stores. -/
def ofJson? (value : Json) : Option ScalarType := do
  let record ← value.record? ["name", "behavior"]
  let name ← (← Keyed.get? "name" record).asString?
  let behavior ← (← Keyed.get? "behavior" record).innerUnitName?.bind ScalarBehavior.ofName?
  some { name, behavior }

end ScalarType

namespace TypeDeclaration

/-- A declaration as stored, its kind first. -/
def toJson : TypeDeclaration → Json
  | .object type => .object (("kind", .string "object") :: type.toMembers)
  | .interface type => .object (("kind", .string "interface") :: type.toMembers)
  | .union type => .object (("kind", .string "union") :: type.toMembers)
  | .scalar type => .object (("kind", .string "scalar") :: type.toMembers)

/-- The declaration that a value stores. -/
def ofJson? (value : Json) : Option TypeDeclaration := do
  let (kind, rest) ← value.tagged? "kind" []
  if kind = "object" then (ObjectType.ofJson? rest).map .object
  else if kind = "interface" then (InterfaceType.ofJson? rest).map .interface
  else if kind = "union" then (UnionType.ofJson? rest).map .union
  else if kind = "scalar" then (ScalarType.ofJson? rest).map .scalar
  else none

/-- Declarations as stored. -/
def listToJson (declarations : List TypeDeclaration) : Json := .array (declarations.map toJson)

/-- The declarations that an array stores. -/
def listOfJson? (value : Json) : Option (List TypeDeclaration) :=
  value.asArray?.bind fun elements => elements.mapM ofJson?

end TypeDeclaration

/-! ### Compiled custom types -/

namespace CompiledType

/-- A compiled custom type as stored. -/
def toJson (compiled : CompiledType) : Json :=
  .object [("custom_type_id", .string compiled.customTypeId),
    ("type_declarations", TypeDeclaration.listToJson compiled.declarations),
    ("type_paths", compiled.paths.toJson)]

/-- The compiled custom type that a value stores. -/
def ofJson? (value : Json) : Option CompiledType := do
  let record ← value.record? ["custom_type_id", "type_declarations", "type_paths"]
  let customTypeId ← (← Keyed.get? "custom_type_id" record).asString?
  let declarations ← TypeDeclaration.listOfJson? (← Keyed.get? "type_declarations" record)
  let paths ← Registry.ofJson? (← Keyed.get? "type_paths" record)
  some { customTypeId, declarations, paths }

end CompiledType

end ContentGraph
