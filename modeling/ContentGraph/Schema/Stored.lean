import ContentGraph.Json.Record
import ContentGraph.Schema

/-!
# Custom types as published

The JSON model of a custom type: an object of tabs, each an object of fields, each tagged by `type`
with its configuration under `config`.  `Field.toJson` writes `type` and `config`, always both;
`Field.ofJson?` reads a field back and refuses what does not fit the model.
-/

namespace ContentGraph

/-! ### Kinds -/

/-- The published name of a kind. -/
def LeafKind.name : LeafKind → String
  | .color => "Color"
  | .select => "Select"
  | .text => "Text"
  | .uid => "UID"
  | .number => "Number"
  | .date => "Date"
  | .timestamp => "Timestamp"
  | .boolean => "Boolean"
  | .geoPoint => "GeoPoint"
  | .embed => "Embed"
  | .structuredText => "StructuredText"
  | .link => "Link"

/-- Every kind of leaf. -/
def LeafKind.all : List LeafKind :=
  [.color, .select, .text, .uid, .number, .date, .timestamp, .boolean, .geoPoint, .embed,
    .structuredText, .link]

/-- The kind with a published name. -/
def LeafKind.ofName? (name : String) : Option LeafKind := all.find? fun kind => kind.name = name

/-- The names of all kinds of fields, in the order by which they are numbered. -/
def Field.kindNames : List String :=
  ["Color", "Select", "Text", "UID", "Number", "Date", "Timestamp", "Boolean", "GeoPoint", "Embed",
    "StructuredText", "Image", "Link", "Group", "Slices"]

/-- The published name of a field's kind. -/
def Field.kindName : Field → String
  | .leaf kind _ => kind.name
  | .image _ _ => "Image"
  | .group _ _ => "Group"
  | .slices _ _ => "Slices"

/-! ### Thumbnails -/

namespace ThumbnailSpec

/-- A size in pixels that is present. -/
def sizeMember (name : String) : Option Nat → List (String × Json)
  | none => []
  | some size => [(name, Json.ofNat size)]

/-- A thumbnail as published. -/
def toJson (spec : ThumbnailSpec) : Json :=
  .object (("name", .string spec.name) :: (sizeMember "width" spec.width ++
    sizeMember "height" spec.height))

/-- The greatest size. -/
def maxSize : Nat := Nat.pow 2 32 - 1

/-- A size that may be missing or `null`. -/
def size? : Option Json → Option (Option Nat)
  | none => some none
  | some .null => some none
  | some value => value.asNat?.bind fun size => if size ≤ maxSize then some (some size) else none

/-- The thumbnail that a value publishes. -/
def ofJson? (value : Json) : Option ThumbnailSpec := do
  let record ← value.record? ["name", "width", "height"]
  let name ← (← Keyed.get? "name" record).asString?
  let width ← size? (Keyed.get? "width" record)
  let height ← size? (Keyed.get? "height" record)
  some { name, width, height }

/-- The thumbnails that an array publishes; none when it is missing. -/
def listOfJson? : Option Json → Option (List ThumbnailSpec)
  | none => some []
  | some value => value.asArray?.bind fun elements => elements.mapM ofJson?

end ThumbnailSpec

/-! ### Fields -/

namespace Field

mutual
/-- A field as published. -/
def toJson : Field → Json
  | .leaf kind extra => .object [("type", .string kind.name), ("config", .object extra)]
  | .image thumbnails extra =>
    let listed :=
      if thumbnails.isEmpty then []
        else [("thumbnails", Json.array (thumbnails.map ThumbnailSpec.toJson))]
    .object [("type", .string "Image"), ("config", .object (listed ++ extra))]
  | .group fields extra =>
    .object [("type", .string "Group"),
      ("config", .object (("fields", .object (mapToMembers fields)) :: extra))]
  | .slices choices extra =>
    .object [("type", .string "Slices"),
      ("config", .object (("choices", .object (choicesToMembers choices)) :: extra))]
/-- The members of a field map. -/
def mapToMembers : List (String × Field) → List (String × Json)
  | [] => []
  | (name, field) :: rest => (name, toJson field) :: mapToMembers rest
/-- The members of a map of choices. -/
def choicesToMembers : List (String × Choice Field) → List (String × Json)
  | [] => []
  | (name, ⟨primary, items, extra⟩) :: rest =>
    (name, .object (("non-repeat", .object (mapToMembers primary))
      :: ("repeat", .object (mapToMembers items)) :: extra)) :: choicesToMembers rest
end

/-! ### Reading fields

Reading follows the value downwards: what is read next is always a smaller part of it.  The kinds of
fields within other fields may be given by number; `numbered` lists the kinds that may be at the
present depth. -/

/-- The fixed members in the configuration of a kind. -/
def partNames (kind : String) : List String :=
  if kind = "Image" then ["thumbnails"]
  else if kind = "Group" then ["fields"]
  else if kind = "Slices" then ["choices"]
  else []

/-- The configuration of a tagged field, the fixed members apart; nothing is configured when it is
missing. -/
def config? (names : List String) (rest : Json) : Option (List (String × Json) × ExtraMembers) :=
  match rest.record? ["config"] with
  | none => none
  | some record =>
    match Keyed.get? "config" record with
    | none => some ([], [])
    | some config => config.openRecord? names

/-- A fixed member of a configuration is smaller than the field. -/
theorem sizeOf_config?_lt {names : List String} {rest : Json}
    {record : List (String × Json) × ExtraMembers} {key : String} {part : Json}
    (h : config? names rest = some record) (hk : Keyed.get? key record.1 = some part) :
    sizeOf part < sizeOf rest := by
  unfold config? at h
  split at h
  · simp at h
  · rename_i outer ho
    split at h
    · cases h
      simp at hk
    · rename_i config hc
      exact Nat.lt_trans (Json.sizeOf_openRecord?_lt h hk) (Json.sizeOf_record?_lt ho hc)

mutual
/-- The field that a value publishes. -/
def ofJson? (numbered : List String) (value : Json) : Option Field :=
  match _tagged : value.tagged? "type" numbered with
  | none => none
  | some (kind, rest) =>
    match _config : config? (partNames kind) rest with
    | none => none
    | some (known, extra) =>
      if kind = "Image" then
        (ThumbnailSpec.listOfJson? (Keyed.get? "thumbnails" known)).map fun thumbnails =>
          .image thumbnails extra
      else if kind = "Group" then
        match _part : Keyed.get? "fields" known with
        | none => some (.group [] extra)
        | some fields => (mapOfJson? kindNames fields).map fun fields => .group fields extra
      else if kind = "Slices" then
        match _part : Keyed.get? "choices" known with
        | none => some (.slices [] extra)
        | some choices =>
          (choicesOfJson? kindNames choices).map fun choices => .slices choices extra
      else (LeafKind.ofName? kind).map fun kind => .leaf kind extra
termination_by sizeOf value
decreasing_by
  all_goals
    have hle := Json.sizeOf_tagged?_le _tagged
    have hlt := sizeOf_config?_lt _config _part
    omega
/-- The field map that an object publishes. -/
def mapOfJson? (numbered : List String) (value : Json) : Option FieldMap :=
  match value with
  | .object members => (membersOfJson? numbered members).map Keyed.merge
  | _ => none
termination_by sizeOf value
/-- The fields that the members of a map publish. -/
def membersOfJson? (numbered : List String) (members : List (String × Json)) : Option FieldMap :=
  match members with
  | [] => some []
  | (name, value) :: rest =>
    match ofJson? numbered value, membersOfJson? numbered rest with
    | some field, some fields => some ((name, field) :: fields)
    | _, _ => none
termination_by sizeOf members
/-- The map of choices that an object publishes. -/
def choicesOfJson? (numbered : List String) (value : Json) :
    Option (List (String × Choice Field)) :=
  match value with
  | .object members => (choiceMembersOfJson? numbered members).map Keyed.merge
  | _ => none
termination_by sizeOf value
/-- The choices that the members of a map publish. -/
def choiceMembersOfJson? (numbered : List String) (members : List (String × Json)) :
    Option (List (String × Choice Field)) :=
  match members with
  | [] => some []
  | (name, value) :: rest =>
    match choiceOfJson? numbered value, choiceMembersOfJson? numbered rest with
    | some choice, some choices => some ((name, choice) :: choices)
    | _, _ => none
termination_by sizeOf members
/-- The choice that an object publishes; a half that is missing is empty. -/
def choiceOfJson? (numbered : List String) (value : Json) : Option (Choice Field) :=
  match _record : value.openRecord? ["non-repeat", "repeat"] with
  | none => none
  | some (known, extra) =>
    let primary := match _primary : Keyed.get? "non-repeat" known with
      | none => some []
      | some fields => mapOfJson? numbered fields
    let items := match _items : Keyed.get? "repeat" known with
      | none => some []
      | some fields => mapOfJson? numbered fields
    match primary, items with
    | some primary, some items => some ⟨primary, items, extra⟩
    | _, _ => none
termination_by sizeOf value
decreasing_by
  · exact Json.sizeOf_openRecord?_lt _record _primary
  · exact Json.sizeOf_openRecord?_lt _record _items
end

end Field

/-! ### Custom types -/

namespace CustomType

/-- A custom type as published. -/
def toJson (type : CustomType) : Json :=
  .object (type.tabs.map fun tab => (tab.1, .object (Field.mapToMembers tab.2)))

/-- The custom type that a value publishes. -/
def ofJson? : Json → Option CustomType
  | .object members =>
    (members.mapM fun member => (Field.mapOfJson? [] member.2).map fun fields =>
      (member.1, fields)).map
      fun tabs => ⟨Keyed.merge tabs⟩
  | _ => none

end CustomType

end ContentGraph
