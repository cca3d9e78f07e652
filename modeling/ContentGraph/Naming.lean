import ContentGraph.Text.Words

/-!
# Names of generated types

A generated name is a function of the type prefix, the named segments of a path and the role of the
type at that path. Stored data refers to these names, so the rules are fixed:

* `TypeRole.suffix` — the ending each role adds;
* `TypeNaming.namespaced` — prefix, capitalized segments, ending;
* `TypeNaming.shared` — the types that every custom type refers to.
-/

namespace ContentGraph

/-- The structural role of a generated type. -/
inductive TypeRole
  | document | data | group | slice | slicePrimary | sliceItem | slices
  deriving DecidableEq, Repr

/-- The ending of a generated name. -/
def TypeRole.suffix : TypeRole → String
  | .document => ""
  | .data => "DataType"
  | .group => "GroupType"
  | .slice => "Slice"
  | .slicePrimary => "PrimaryType"
  | .sliceItem => "ItemType"
  | .slices => "SlicesType"

/-- The types that every custom type shares. -/
inductive SharedType
  | document | allDocumentTypes | structuredText | geoPoint | embed | link | image
  | imageDimensions | imageThumbnail | imageThumbnails
  deriving DecidableEq, Repr

namespace SharedType

/-- A shared type's name without the prefix. -/
def baseName : SharedType → String
  | .document => "Document"
  | .allDocumentTypes => "AllDocumentTypes"
  | .structuredText => "StructuredTextType"
  | .geoPoint => "GeoPointType"
  | .embed => "EmbedType"
  | .link => "LinkType"
  | .image => "ImageType"
  | .imageDimensions => "ImageDimensionsType"
  | .imageThumbnail => "ImageThumbnailType"
  | .imageThumbnails => "ImageThumbnailsType"

/-- Every shared type. -/
def all : List SharedType :=
  [.document, .allDocumentTypes, .structuredText, .geoPoint, .embed, .link, .image,
    .imageDimensions, .imageThumbnail, .imageThumbnails]

end SharedType

/-- The interface that document roots and slices implement. -/
def nodeInterface : String := "Node"

/-- The prefix used when none is configured. -/
def defaultTypePrefix : String := "Prismic"

/-- The naming policy of one compilation. -/
structure TypeNaming where
  typePrefix : String := defaultTypePrefix
  deriving DecidableEq, Repr, Inhabited

namespace TypeNaming

/-- The name of the type at a path, from the path's named segments (the custom type's id first). -/
def namespaced (naming : TypeNaming) (segments : List String) (role : TypeRole) : String :=
  naming.typePrefix ++ (String.join (segments.map Text.pascalCase) ++ role.suffix)

/-- The name of a shared type. -/
def shared (naming : TypeNaming) (type : SharedType) : String := naming.typePrefix ++ type.baseName

/-- The root type of a custom type. -/
def documentType (naming : TypeNaming) (customTypeId : String) : String :=
  naming.namespaced [customTypeId] .document

/-- The interface that every document root implements. -/
def documentInterface (naming : TypeNaming) : String := naming.shared .document

/-- Under every prefix the interface of documents is another one than that of nodes: its name is
longer. -/
theorem documentInterface_ne_node (naming : TypeNaming) :
    naming.documentInterface ≠ nodeInterface := by
  intro heq
  have hlength := congrArg String.length heq
  rw [documentInterface, shared, String.length_append] at hlength
  have hdocument : SharedType.document.baseName.length = 8 := by decide
  have hnode : nodeInterface.length = 4 := by decide
  omega

end TypeNaming

end ContentGraph
