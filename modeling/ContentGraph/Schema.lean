import ContentGraph.Json

/-!
# Custom types

A custom type is published as tabs of fields.  Tabs, fields, choices and thumbnails keep their
written order, which is the order of every traversal.

* `LeafKind` — fields that are compiled and materialized alone;
* `Field` — a leaf, an image with thumbnails, a group of fields, or a slice zone of choices;
* `Choice` — one choice of a slice zone: a half that stands once and a half that repeats;
* `CustomType` — the tabs.

Extra members are the members of a field's configuration that nothing here interprets; they are kept
as they are.
-/

namespace ContentGraph

/-- Kinds of fields without parts of their own. -/
inductive LeafKind
  | color | select | text | uid | number | date | timestamp | boolean | geoPoint | embed
  | structuredText | link
  deriving DecidableEq, Repr

/-- A named rendition of an image. -/
structure ThumbnailSpec where
  name : String
  width : Option Nat := none
  height : Option Nat := none
  deriving DecidableEq, Repr, Inhabited

/-- Members of a configuration that are kept as they are. -/
abbrev ExtraMembers := List (String × Json)

/-- One choice of a slice zone over a type of fields. -/
structure Choice (Field : Type) where
  primary : List (String × Field)
  items : List (String × Field)
  extra : ExtraMembers

/-- A field of a custom type. -/
inductive Field
  | leaf (kind : LeafKind) (extra : ExtraMembers)
  | image (thumbnails : List ThumbnailSpec) (extra : ExtraMembers)
  | group (fields : List (String × Field)) (extra : ExtraMembers)
  | slices (choices : List (String × Choice Field)) (extra : ExtraMembers)

/-- The fields of a tab, a group or a half of a choice. -/
abbrev FieldMap := List (String × Field)

/-- A custom type: its tabs in order. -/
structure CustomType where
  tabs : List (String × FieldMap)

namespace Field

/-- Whether the field is the identifier that documents are addressed by. -/
def isUid : Field → Bool
  | .leaf .uid _ => true
  | _ => false

/-- A field without extra members. -/
def plain (kind : LeafKind) : Field := .leaf kind []

end Field

namespace CustomType

/-- The custom type without tabs. -/
def empty : CustomType := ⟨[]⟩

/-- The custom type with a tab, in place of a tab of the same name. -/
def withTab (type : CustomType) (name : String) (fields : FieldMap) : CustomType :=
  ⟨Keyed.set name fields type.tabs⟩

/-- Every field of every tab, in order. -/
def fields (type : CustomType) : FieldMap := type.tabs.flatMap Prod.snd

/-- Whether no tab has a field. -/
def isEmpty (type : CustomType) : Bool := type.tabs.all fun tab => tab.2.isEmpty

end CustomType

end ContentGraph
