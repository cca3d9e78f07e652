import ContentGraph.Declaration
import ContentGraph.Naming
import ContentGraph.Registry

/-!
# Types across custom types

Some declarations depend on every compiled custom type, or on none:

* `documentUnion` — the union of all document roots;
* `thumbnailsType` — an object with a field for every thumbnail name, or a scalar when there is
  none;
* `sharedDeclarations` — the types that every custom type refers to.
-/

namespace ContentGraph

/-- The union of the objects that implement both the node and the document interface, in order. -/
def documentUnion (naming : TypeNaming) (declarations : List TypeDeclaration) : UnionType :=
  let documents := (declarations.filterMap TypeDeclaration.asObject?).filter fun object =>
    object.hasInterface nodeInterface && object.hasInterface naming.documentInterface
  { name := naming.shared .allDocumentTypes, members := documents.map ObjectType.name }

/-! ### Thumbnails -/

/-- The thumbnail names among entries, in order and with repetitions. -/
def registeredThumbnails (entries : List PathEntry) : List String :=
  entries.filterMap fun entry => if entry.kind = .imageThumbnail then entry.path.getLast? else none

/-- The first occurrence of every text. -/
def firstOccurrences (texts : List String) : List String :=
  texts.foldl (fun found text => if found.contains text then found else found ++ [text]) []

/-- The type of the `thumbnails` of images. -/
def thumbnailsType (naming : TypeNaming) (entries : List PathEntry) : TypeDeclaration :=
  let name := naming.shared .imageThumbnails
  match firstOccurrences (registeredThumbnails entries) with
  | [] => .scalar { name, behavior := .alwaysNull }
  | names =>
    .object
      { name
        fields := names.map fun thumbnail => (thumbnail, .named (naming.shared .imageThumbnail)) }

/-! ### Shared types -/

/-- Fields of one type each. -/
def fieldsOfType (type : String) (names : List String) : List (String × FieldDecl) :=
  names.map fun name => (name, .named type)

/-- A date that can be formatted. -/
def dateField : FieldDecl := (FieldDecl.named "Date").withExtension .dateFormat

/-- The interface of document roots. -/
def documentInterfaceType (naming : TypeNaming) : InterfaceType :=
  { name := naming.documentInterface
    fields :=
      [("id", .ofRef (.nonNull (.named "ID"))), ("prismicId", .ofRef (.nonNull (.named "ID"))),
        ("type", .ofRef (.nonNull (.named "String"))), ("href", .named "String"),
        ("lang", .named "String"),
        ("tags", .ofRef (.list (.nonNull (.named "String")))),
        ("first_publication_date", dateField),
        ("last_publication_date", dateField)] }

/-- The type of rich texts. -/
def structuredTextType (naming : TypeNaming) : ObjectType :=
  { name := naming.shared .structuredText
    fields := fieldsOfType "String" ["html", "text"] ++ fieldsOfType "JSON" ["raw"] }

/-- The type of places. -/
def geoPointType (naming : TypeNaming) : ObjectType :=
  { name := naming.shared .geoPoint, fields := fieldsOfType "Float" ["latitude", "longitude"] }

/-- The type of embedded media. -/
def embedType (naming : TypeNaming) : ObjectType :=
  { name := naming.shared .embed
    fields :=
      fieldsOfType "String"
        ["author_name", "author_url", "cache_age", "embed_url", "html", "name", "provider_name",
          "provider_url", "thumbnail_url", "title", "type", "version"]
      ++ fieldsOfType "Int" ["height", "width", "thumbnail_height", "thumbnail_width"] }

/-- The type of an image's size. -/
def imageDimensionsType (naming : TypeNaming) : ObjectType :=
  { name := naming.shared .imageDimensions, fields := fieldsOfType "Int" ["width", "height"] }

/-- The fields that images and their thumbnails have in common. -/
def renditionFields (naming : TypeNaming) : List (String × FieldDecl) :=
  fieldsOfType "String" ["alt", "copyright"]
    ++ fieldsOfType (naming.shared .imageDimensions) ["dimensions"]
    ++ fieldsOfType "String" ["url"] ++ fieldsOfType "File" ["localFile"]

/-- The type of thumbnails. -/
def imageThumbnailType (naming : TypeNaming) : ObjectType :=
  { name := naming.shared .imageThumbnail, fields := renditionFields naming }

/-- The type of images. -/
def imageType (naming : TypeNaming) : ObjectType :=
  { name := naming.shared .image
    fields := renditionFields naming
      ++ [("thumbnails", (FieldDecl.named (naming.shared .imageThumbnails)).withResolver
        .imageThumbnails)] }

/-- The type of links. -/
def linkType (naming : TypeNaming) : ObjectType :=
  { name := naming.shared .link
    fields :=
      fieldsOfType "String" ["link_type"] ++ fieldsOfType "Boolean" ["isBroken"]
        ++ fieldsOfType "String" ["url", "target"] ++ fieldsOfType "Int" ["size"]
        ++ fieldsOfType "ID" ["id"] ++ fieldsOfType "String" ["type"]
        ++ [("tags", .ofRef (.list (.named "String")))]
        ++ fieldsOfType "String" ["lang", "slug", "uid"]
        ++ fieldsOfType (naming.shared .allDocumentTypes) ["document"] ++
          fieldsOfType "JSON" ["raw"] }

/-- The types that every custom type refers to by name. -/
def sharedDeclarations (naming : TypeNaming) : List TypeDeclaration :=
  .interface (documentInterfaceType naming)
    :: [structuredTextType naming, geoPointType naming, embedType naming,
      imageDimensionsType naming, imageThumbnailType naming, imageType naming,
      linkType naming].map .object

end ContentGraph
