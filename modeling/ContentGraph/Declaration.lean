import ContentGraph.Keyed
import ContentGraph.TypeRef

/-!
# Type declarations

What a compilation produces: object types, interfaces, unions and scalars, each with a name.  Fields
carry a type reference, extensions that the query engine understands, and possibly a resolver.

* `TypeDeclaration` and its parts;
* `TypeDeclaration.render` — one declaration in the schema definition language;
* `renderAll` — several, separated by empty lines.
-/

namespace ContentGraph

/-- An extension of a field. -/
inductive FieldExtension
  /-- A date that accepts formatting arguments. -/
  | dateFormat
  deriving DecidableEq, Repr

/-- How a field's value is computed from its parent when it is asked for. -/
inductive FieldResolver
  /-- The `document` of a document link becomes the linked node. -/
  | linkedDocument
  /-- The node ids of a slice zone become their nodes. -/
  | sliceNodes
  /-- The image itself, whose keys the thumbnail fields read. -/
  | imageThumbnails
  deriving DecidableEq, Repr

/-- A field of an object type or an interface. -/
structure FieldDecl where
  typeRef : TypeRef
  extensions : List FieldExtension := []
  resolver : Option FieldResolver := none
  deriving DecidableEq, Repr, Inhabited

/-- An object type. -/
structure ObjectType where
  name : String
  fields : List (String × FieldDecl) := []
  interfaces : List String := []
  deriving DecidableEq, Repr, Inhabited

/-- An interface. -/
structure InterfaceType where
  name : String
  fields : List (String × FieldDecl)
  deriving DecidableEq, Repr, Inhabited

/-- A union of object types. -/
structure UnionType where
  name : String
  members : List String
  deriving DecidableEq, Repr, Inhabited

/-- How a scalar writes its values. -/
inductive ScalarBehavior
  /-- Every value is written as `null`. -/
  | alwaysNull
  deriving DecidableEq, Repr

/-- A scalar type. -/
structure ScalarType where
  name : String
  behavior : ScalarBehavior
  deriving DecidableEq, Repr

/-- A named type. -/
inductive TypeDeclaration
  | object (type : ObjectType)
  | interface (type : InterfaceType)
  | union (type : UnionType)
  | scalar (type : ScalarType)
  deriving DecidableEq, Repr

/-! ### Building fields and objects -/

namespace FieldDecl

/-- A field of a plainly named type. -/
def named (name : String) : FieldDecl := { typeRef := .named name }

/-- A field of a type reference. -/
def ofRef (ref : TypeRef) : FieldDecl := { typeRef := ref }

/-- The field with one more extension. -/
def withExtension (field : FieldDecl) (extension : FieldExtension) : FieldDecl :=
  { field with extensions := field.extensions ++ [extension] }

/-- The field with a resolver. -/
def withResolver (field : FieldDecl) (resolver : FieldResolver) : FieldDecl :=
  { field with resolver := some resolver }

end FieldDecl

namespace ObjectType

/-- The object with a field, in place of a field of the same name. -/
def withField (object : ObjectType) (name : String) (field : FieldDecl) : ObjectType :=
  { object with fields := Keyed.set name field object.fields }

/-- The object implementing one more interface. -/
def implementing (object : ObjectType) (name : String) : ObjectType :=
  if object.interfaces.contains name then object
  else { object with interfaces := object.interfaces ++ [name] }

/-- Whether the object implements an interface. -/
def hasInterface (object : ObjectType) (name : String) : Bool := object.interfaces.contains name

end ObjectType

namespace TypeDeclaration

/-- The declared name. -/
def name : TypeDeclaration → String
  | .object type => type.name
  | .interface type => type.name
  | .union type => type.name
  | .scalar type => type.name

/-- The object type that is declared, if it is one. -/
def asObject? : TypeDeclaration → Option ObjectType
  | .object type => some type
  | _ => none

/-- The union that is declared, if it is one. -/
def asUnion? : TypeDeclaration → Option UnionType
  | .union type => some type
  | _ => none

end TypeDeclaration

/-! ### The schema definition language -/

/-- The directive that an extension is written as. -/
def FieldExtension.directive : FieldExtension → String
  | .dateFormat => "@dateformat"

/-- The line of a field. -/
def renderField (field : String × FieldDecl) : String :=
  "  " ++ field.1 ++ ": " ++ field.2.typeRef.render
    ++ String.join (field.2.extensions.map fun extension => " " ++ extension.directive) ++ "\n"

/-- The body of an object type or an interface. -/
def renderFields (fields : List (String × FieldDecl)) : String :=
  " \x7b\n" ++ String.join (fields.map renderField) ++ "\x7d"

/-- A declaration in the schema definition language. -/
def TypeDeclaration.render : TypeDeclaration → String
  | .object type =>
    let implemented :=
      if type.interfaces.isEmpty then ""
      else " implements " ++ String.intercalate " & " type.interfaces
    "type " ++ type.name ++ implemented ++ renderFields type.fields
  | .interface type => "interface " ++ type.name ++ renderFields type.fields
  | .union type => "union " ++ type.name ++ " = " ++ String.intercalate " | " type.members
  | .scalar type => "scalar " ++ type.name

/-- Declarations as one document. -/
def renderAll (declarations : List TypeDeclaration) : String :=
  String.intercalate "\n\n" (declarations.map TypeDeclaration.render)

/-! ### Scalars -/

/-- The name under which a behaviour is stored. -/
def ScalarBehavior.name : ScalarBehavior → String
  | .alwaysNull => "always_null"

end ContentGraph
