import ContentGraph.Declaration
import ContentGraph.Naming
import ContentGraph.Registry
import ContentGraph.Schema

/-!
# Compiling custom types

A custom type is compiled by walking its fields.  The walk is a function to a list of *emissions*:
types to declare and paths to register, descendants before the containers that hold them.  Only then
is the list run, and the first emission that repeats a type name or a path stops it.

* `emitField` — the emissions of one field;
* `emissions` — those of a whole custom type;
* `run` — declarations and registry, or the first clash;
* `compile` — both together.

Two addresses are carried down: the structural path, which has segments such as `data` and
`primary`, and the named segments, of which type names are made.
-/

namespace ContentGraph

/-! ### Segments and errors -/

/-- The segment that holds every field but the identifier. -/
def dataSegment : String := "data"

/-- The segment of the half of a slice that stands once. -/
def primarySegment : String := "primary"

/-- The segment of the half of a slice that repeats. -/
def itemsSegment : String := "items"

/-- Why a custom type cannot be compiled. -/
inductive SchemaError
  /-- The description does not fit the model of a custom type. -/
  | malformed
  /-- Two values stand at one path. -/
  | duplicatePath (path : Path)
  /-- Two paths generate one type name. -/
  | duplicateTypeName (name : String) (path : Path)
  /-- Two fields are identifiers. -/
  | multipleUids (first second : String)
  deriving DecidableEq, Repr

/-- What an error reports. -/
def SchemaError.message : SchemaError → String
  | .malformed => "invalid custom type schema"
  | .duplicatePath path => "type path registered twice: " ++ path.dotted
  | .duplicateTypeName name path =>
    "type name '" ++ name ++ "' generated twice (second time at " ++ path.dotted ++ ")"
  | .multipleUids first second =>
    "custom type declares UID field '" ++ second ++ "' after '" ++ first ++ "'"

/-! ### The type of a field -/

namespace LeafKind

/-- The type of a leaf. -/
def typeRef (naming : TypeNaming) : LeafKind → TypeRef
  | .color | .select | .text => .named "String"
  | .uid => .nonNull (.named "String")
  | .boolean => .named "Boolean"
  | .number => .named "Float"
  | .date | .timestamp => .named "Date"
  | .geoPoint => .named (naming.shared .geoPoint)
  | .embed => .named (naming.shared .embed)
  | .structuredText => .named (naming.shared .structuredText)
  | .link => .named (naming.shared .link)

/-- How the values of a leaf are shaped. -/
def pathKind : LeafKind → PathKind
  | .color | .select | .text => .string
  | .uid => .uid
  | .boolean => .boolean
  | .number => .float
  | .date | .timestamp => .date
  | .geoPoint => .geoPoint
  | .embed => .embed
  | .structuredText => .structuredText
  | .link => .link

end LeafKind

namespace Field

/-- The type of a field with the named segments `names`. -/
def typeRef (naming : TypeNaming) (names : List String) : Field → TypeRef
  | .leaf kind _ => kind.typeRef naming
  | .image _ _ => .named (naming.shared .image)
  | .group _ _ => .list (.named (naming.namespaced names .group))
  | .slices _ _ => .list (.named (naming.namespaced names .slices))

/-- How the values of a field are shaped. -/
def pathKind : Field → PathKind
  | .leaf kind _ => kind.pathKind
  | .image _ _ => .image
  | .group _ _ => .group
  | .slices _ _ => .slices

/-- The declaration of a field: dates can be formatted, links and slice zones are resolved. -/
def declare (naming : TypeNaming) (names : List String) (field : Field) : FieldDecl :=
  let plain := FieldDecl.ofRef (field.typeRef naming names)
  match field.pathKind with
  | .date => plain.withExtension .dateFormat
  | .link => plain.withResolver .linkedDocument
  | .slices => plain.withResolver .sliceNodes
  | _ => plain

end Field

/-- The declarations of the fields below the named segments `names`. -/
def declareFields (naming : TypeNaming) (names : List String) (fields : FieldMap) :
    List (String × FieldDecl) :=
  fields.map fun field => (field.1, field.2.declare naming (names ++ [field.1]))

/-- The object type of a choice, over the types of its halves. -/
def sliceType (name primary item : String) : ObjectType :=
  { name
    fields :=
      [("slice_type", .ofRef (.nonNull (.named "String"))), ("slice_label", .named "String"),
        (primarySegment, .named primary), (itemsSegment, .ofRef (.list (.named item)))]
    interfaces := [nodeInterface] }

/-! ### Emissions -/

/-- One step of a compilation. -/
inductive Emission
  /-- A type is declared on account of the value at a path. -/
  | declare (path : Path) (declaration : TypeDeclaration)
  /-- A path is registered. -/
  | register (entry : PathEntry)
  /-- A second identifier was found. -/
  | secondUid (first second : String)
  deriving DecidableEq, Repr

/-- The registration of a field at its path. -/
def registerField (naming : TypeNaming) (path : Path) (names : List String)
    (field : Field) : Emission :=
  .register ⟨path, (field.typeRef naming names).render, field.pathKind⟩

/-- The registrations of an image's thumbnails. -/
def registerThumbnails (naming : TypeNaming) (path : Path) (thumbnails : List ThumbnailSpec) :
    List Emission :=
  thumbnails.map fun spec =>
    .register ⟨path ++ [Registry.thumbnailsSegment, spec.name], naming.shared .imageThumbnail,
      .imageThumbnail⟩

/-- The declaration of an object type over a field map. -/
def declareObject (naming : TypeNaming) (path : Path) (names : List String) (role : TypeRole)
    (fields : FieldMap) : Emission :=
  .declare path (.object
    { name := naming.namespaced names role, fields := declareFields naming names fields })

mutual
/-- The emissions of the field at `path` with the named segments `names`. -/
def emitField (naming : TypeNaming) (path : Path) (names : List String) : Field → List Emission
  | .leaf kind extra => [registerField naming path names (.leaf kind extra)]
  | .image thumbnails extra =>
    registerField naming path names (.image thumbnails extra)
      :: registerThumbnails naming path thumbnails
  | .group fields extra =>
    emitFields naming path names fields
      ++ [declareObject naming path names .group fields,
        registerField naming path names (.group fields extra)]
  | .slices choices extra =>
    emitChoices naming path names choices
      ++ [Emission.declare path (.union
          { name := naming.namespaced names .slices
            members := choices.map fun choice => naming.namespaced (names ++ [choice.1]) .slice }),
        registerField naming path names (.slices choices extra)]
/-- The emissions of the fields under `path`. -/
def emitFields (naming : TypeNaming) (path : Path) (names : List String) :
    List (String × Field) → List Emission
  | [] => []
  | (name, field) :: rest =>
    emitField naming (path ++ [name]) (names ++ [name]) field ++ emitFields naming path names rest
/-- The emissions of the choices of the slice zone at `path`. -/
def emitChoices (naming : TypeNaming) (path : Path) (names : List String) :
    List (String × Choice Field) → List Emission
  | [] => []
  | (name, choice) :: rest =>
    emitChoice naming (path ++ [name]) (names ++ [name]) choice ++
      emitChoices naming path names rest
/-- The emissions of the choice at `path`: its halves, then the choice itself. -/
def emitChoice (naming : TypeNaming) (path : Path) (names : List String) :
    Choice Field → List Emission
  | ⟨primary, items, _⟩ =>
    let primaryPath := path ++ [primarySegment]
    let itemsPath := path ++ [itemsSegment]
    let primaryName := naming.namespaced names .slicePrimary
    let itemName := naming.namespaced names .sliceItem
    let sliceName := naming.namespaced names .slice
    emitFields naming primaryPath names primary
      ++ [declareObject naming primaryPath names .slicePrimary primary,
        .register ⟨primaryPath, primaryName, .slicePrimary⟩]
      ++ emitFields naming itemsPath names items
      ++ [declareObject naming itemsPath names .sliceItem items,
        .register ⟨itemsPath, (TypeRef.list (.named itemName)).render, .sliceItems⟩,
        .declare path (.object (sliceType sliceName primaryName itemName)),
        .register ⟨path, sliceName, .slice⟩]
end

/-- The emissions of the fields of all tabs, when `uid` is the identifier found before them. -/
def emitTopLevel (naming : TypeNaming) (id : String) : Option String → FieldMap → List Emission
  | _, [] => []
  | uid, (name, field) :: rest =>
    if field.isUid then
      match uid with
      | some first => .secondUid first name :: emitTopLevel naming id uid rest
      | none => emitField naming [id, name] [id] field ++ emitTopLevel naming id (some name) rest
    else
      emitField naming [id, dataSegment, name] [id, name] field ++ emitTopLevel naming id uid rest

/-- The data type of a custom type: every field but the identifier. -/
def dataType (naming : TypeNaming) (id : String) (fields : FieldMap) : ObjectType :=
  { name := naming.namespaced [id] .data
    fields := declareFields naming [id] (fields.filter fun field => !field.2.isUid) }

/-- The root type of a custom type: its identifier, if it has one, and its data. -/
def rootType (naming : TypeNaming) (id : String) (fields : FieldMap) : ObjectType :=
  let uid := fields.find? fun field => field.2.isUid
  { name := naming.documentType id
    fields := (uid.map fun field => (field.1, field.2.declare naming [id])).toList
      ++ [(dataSegment, .named (naming.namespaced [id] .data))]
    interfaces := [nodeInterface, naming.documentInterface] }

/-- The emissions of a custom type: its fields, its data, its root. -/
def emissions (naming : TypeNaming) (id : String) (type : CustomType) : List Emission :=
  let dataPath := [id, dataSegment]
  let data := dataType naming id type.fields
  let root := rootType naming id type.fields
  emitTopLevel naming id none type.fields
    ++ [Emission.declare dataPath (.object data), .register ⟨dataPath, data.name, .data⟩,
      .declare [id] (.object root), .register ⟨[id], root.name, .document⟩]

/-! ### Running emissions -/

/-- What has been declared and registered so far. -/
structure Output where
  declarations : List TypeDeclaration
  paths : Registry
  deriving DecidableEq

namespace Output

/-- Nothing declared, nothing registered. -/
def empty : Output := ⟨[], .empty⟩

/-- The output after one more emission, or the clash it causes. -/
def step (output : Output) : Emission → Except SchemaError Output
  | .declare path declaration =>
    if output.declarations.any fun earlier => earlier.name = declaration.name then
      .error (.duplicateTypeName declaration.name path)
    else .ok { output with declarations := output.declarations ++ [declaration] }
  | .register entry =>
    match output.paths.register? entry with
    | none => .error (.duplicatePath entry.path)
    | some paths => .ok { output with paths }
  | .secondUid first second => .error (.multipleUids first second)

/-- The output after a list of emissions, or the first clash. -/
def run (output : Output) : List Emission → Except SchemaError Output
  | [] => .ok output
  | emission :: rest =>
    match output.step emission with
    | .error e => .error e
    | .ok next => next.run rest

end Output

/-- A compiled custom type. -/
structure CompiledType where
  customTypeId : String
  declarations : List TypeDeclaration
  paths : Registry
  deriving DecidableEq

namespace CompiledType

/-- The first declaration of a name. -/
def declaration? (compiled : CompiledType) (name : String) : Option TypeDeclaration :=
  compiled.declarations.find? fun declaration => declaration.name = name

/-- The object type that the first declaration of a name declares. -/
def object? (compiled : CompiledType) (name : String) : Option ObjectType :=
  (compiled.declaration? name).bind TypeDeclaration.asObject?

end CompiledType

/-- The declarations and the registry of a custom type. -/
def compile (naming : TypeNaming) (id : String) (type : CustomType) :
    Except SchemaError CompiledType :=
  match Output.empty.run (emissions naming id type) with
  | .error e => .error e
  | .ok output => .ok ⟨id, output.declarations, output.paths⟩

end ContentGraph
