import ContentGraph.Registry
import ContentGraph.Schema
import ContentGraph.Text.Words
import Mathlib.Data.List.Basic

/-!
# The parts of a custom type

A custom type is a tree of fields.  Everything in it that has a type of its own stands at an
*address*: segments that the schema names, and segments such as `data` that the structure of
documents adds.  Listing the parts with their addresses, descendants before the containers that hold
them, fixes what a compilation may produce.

* `Address` — with its `path` (every segment) and its `names` (the named ones, of which type names
  are made);
* `Part` — an address and the shape of what stands there; `Part.entry` is its registration;
* `Field.parts`, `CustomType.parts` — the parts in order, by recursion on the schema;
* `Field.induction` — the induction that follows groups and slice zones;
* `isInner_of_mem_parts`, `prefix_of_mem_parts`, `rooted_parts` — what the parts of a field are, and
  where they stand;
* `CustomType.mem_parts_cases` — what the parts of a custom type are.
-/

namespace ContentGraph

/-! ### Addresses -/

/-- A segment of an address. -/
inductive Segment
  /-- A name from the schema: the custom type's id, a field, a choice, a thumbnail. -/
  | named (name : String)
  /-- A segment that every document has. -/
  | structural (text : String)
  deriving DecidableEq, Repr

/-- The segment as it stands in a path. -/
def Segment.text : Segment → String
  | .named name => name
  | .structural text => text

/-- The name that the segment carries into type names. -/
def Segment.name? : Segment → Option String
  | .named name => some name
  | .structural _ => none

/-- The place of a part in a custom type. -/
abbrev Address := List Segment

namespace Address

/-- The structural path. -/
def path (address : Address) : Path := address.map Segment.text

/-- The named segments. -/
def names (address : Address) : List String := address.filterMap Segment.name?

/-- The name of the type generated at the address: prefix, capitalized names, ending of the role. -/
def typeName (typePrefix : String) (address : Address) (ending : String) : String :=
  typePrefix ++ String.join (address.names.map Text.pascalCase) ++ ending

@[simp] theorem path_append (a b : Address) : path (a ++ b) = path a ++ path b := by simp [path]

@[simp] theorem path_named (name : String) (rest : Address) :
    path (.named name :: rest) = name :: path rest := rfl

@[simp] theorem path_structural (text : String) (rest : Address) :
    path (.structural text :: rest) = text :: path rest := rfl

@[simp] theorem path_nil : path [] = [] := rfl

/-- One segment further down, when segments are made from their texts. -/
theorem path_branch {segment : String → Segment} (htext : ∀ name, (segment name).text = name)
    (address : Address) (name : String) :
    path (address ++ [segment name]) = address.path ++ [name] := by
  rw [path_append, path, path, List.map_singleton, htext]

@[simp] theorem names_append (a b : Address) : names (a ++ b) = names a ++ names b := by
  simp [names]

@[simp] theorem names_named (name : String) (rest : Address) :
    names (.named name :: rest) = name :: names rest := rfl

@[simp] theorem names_structural (text : String) (rest : Address) :
    names (.structural text :: rest) = names rest := rfl

@[simp] theorem names_nil : names [] = [] := rfl

end Address

/-! ### Parts -/

/-- What stands at an address. -/
inductive Shape
  | leaf (kind : LeafKind)
  | image (thumbnails : List ThumbnailSpec)
  | thumbnail
  | group (fields : FieldMap)
  | slices (choices : List (String × Choice Field))
  | primary (fields : FieldMap)
  | items (fields : FieldMap)
  | choice (choice : Choice Field)
  | data (fields : FieldMap)
  | document (uid : Option (String × Field))

/-- The shape of a field. -/
def Field.shape : Field → Shape
  | .leaf kind _ => .leaf kind
  | .image thumbnails _ => .image thumbnails
  | .group fields _ => .group fields
  | .slices choices _ => .slices choices

/-- A part of a custom type: its address and its shape. -/
structure Part where
  address : Address
  shape : Shape

/-- The type and the kind of a leaf. -/
def LeafKind.registered (typePrefix : String) : LeafKind → String × PathKind
  | .color | .select | .text => ("String", .string)
  | .uid => ("String!", .uid)
  | .boolean => ("Boolean", .boolean)
  | .number => ("Float", .float)
  | .date | .timestamp => ("Date", .date)
  | .geoPoint => (typePrefix ++ "GeoPointType", .geoPoint)
  | .embed => (typePrefix ++ "EmbedType", .embed)
  | .structuredText => (typePrefix ++ "StructuredTextType", .structuredText)
  | .link => (typePrefix ++ "LinkType", .link)

/-- The ending of the type generated for a shape, if one is. -/
def Shape.ending? : Shape → Option String
  | .group _ => some "GroupType"
  | .slices _ => some "SlicesType"
  | .primary _ => some "PrimaryType"
  | .items _ => some "ItemType"
  | .choice _ => some "Slice"
  | .data _ => some "DataType"
  | .document _ => some ""
  | .leaf _ | .image _ | .thumbnail => none

namespace Part

/-- The path of a part. -/
def path (part : Part) : Path := part.address.path

/-- The name of the type generated for a part, if one is. -/
def generated? (typePrefix : String) (part : Part) : Option String :=
  part.shape.ending?.map (part.address.typeName typePrefix)

/-- The type and the kind of a part.  Groups, slice zones and items hold lists of their types. -/
def registered (typePrefix : String) (part : Part) : String × PathKind :=
  let name := part.address.typeName typePrefix
  match part.shape with
  | .leaf kind => kind.registered typePrefix
  | .image _ => (typePrefix ++ "ImageType", .image)
  | .thumbnail => (typePrefix ++ "ImageThumbnailType", .imageThumbnail)
  | .group _ => ("[" ++ name "GroupType" ++ "]", .group)
  | .slices _ => ("[" ++ name "SlicesType" ++ "]", .slices)
  | .primary _ => (name "PrimaryType", .slicePrimary)
  | .items _ => ("[" ++ name "ItemType" ++ "]", .sliceItems)
  | .choice _ => (name "Slice", .slice)
  | .data _ => (name "DataType", .data)
  | .document _ => (name "", .document)

/-- The registration of a part. -/
def entry (typePrefix : String) (part : Part) : PathEntry :=
  ⟨part.path, (part.registered typePrefix).1, (part.registered typePrefix).2⟩

@[simp] theorem path_mk (address : Address) (shape : Shape) :
    path ⟨address, shape⟩ = address.path := rfl

/-- A part below an address has a path below its path. -/
theorem isPrefix_path {address : Address} {part : Part} (h : address <+: part.address) :
    address.path <+: part.path := h.map _

@[simp] theorem entry_path (typePrefix : String) (part : Part) :
    (part.entry typePrefix).path = part.path := rfl

end Part

/-! ### Listing the parts -/

mutual
/-- The parts of the field at an address. -/
def Field.parts (address : Address) : Field → List Part
  | .leaf kind _ => [⟨address, .leaf kind⟩]
  | .image thumbnails _ =>
    ⟨address, .image thumbnails⟩ :: thumbnails.map fun spec =>
      ⟨address ++ [Segment.structural "thumbnails", .named spec.name], .thumbnail⟩
  | .group fields _ => partsOfFields address fields ++ [⟨address, .group fields⟩]
  | .slices choices _ => partsOfChoices address choices ++ [⟨address, .slices choices⟩]
/-- The parts of fields under an address, field by field. -/
def partsOfFields (address : Address) : List (String × Field) → List Part
  | [] => []
  | (name, field) :: rest =>
    field.parts (address ++ [Segment.named name]) ++ partsOfFields address rest
/-- The parts of choices under an address, choice by choice. -/
def partsOfChoices (address : Address) : List (String × Choice Field) → List Part
  | [] => []
  | (name, choice) :: rest =>
    partsOfChoice (address ++ [Segment.named name]) choice ++ partsOfChoices address rest
/-- The parts of the choice at an address: the half that stands once, the half that repeats, the
choice. -/
def partsOfChoice (address : Address) : Choice Field → List Part
  | ⟨primary, items, extra⟩ =>
    partsOfFields (address ++ [Segment.structural "primary"]) primary
      ++ [⟨address ++ [Segment.structural "primary"], .primary primary⟩]
      ++ partsOfFields (address ++ [Segment.structural "items"]) items
      ++ [⟨address ++ [Segment.structural "items"], .items items⟩,
        ⟨address, .choice ⟨primary, items, extra⟩⟩]
end

/-- An identifier is a leaf. -/
theorem Field.exists_of_isUid {field : Field} (h : field.isUid = true) :
    ∃ extra, field = .leaf .uid extra := by
  unfold isUid at h
  split at h
  · exact ⟨_, rfl⟩
  · cases h

/-- The address of a top-level field: the identifier stands beside the data, all others inside. -/
def topAddress (id : String) (field : String × Field) : Address :=
  if field.2.isUid then [.named id, .named field.1]
  else [.named id, .structural "data", .named field.1]

/-- The fields that stand inside the data: all but the identifier, of every tab. -/
def CustomType.dataFields (type : CustomType) : FieldMap :=
  type.fields.filter fun field => !field.2.isUid

/-- The identifier, if there is one. -/
def CustomType.uid? (type : CustomType) : Option (String × Field) :=
  type.fields.find? fun field => field.2.isUid

/-- The names of the identifiers, in tab order. -/
def CustomType.uidNames (type : CustomType) : List String :=
  (type.fields.filter fun field => field.2.isUid).map Prod.fst

/-- The parts of a custom type: those of its fields in tab order, then its data and its root. -/
def CustomType.parts (id : String) (type : CustomType) : List Part :=
  type.fields.flatMap (fun field => field.2.parts (topAddress id field))
    ++ [⟨[.named id, .structural "data"], .data type.dataFields⟩,
      ⟨[.named id], .document type.uid?⟩]

/-- At most one top-level field is an identifier. -/
def CustomType.OneUid (type : CustomType) : Prop :=
  type.fields.countP (fun field => field.2.isUid) ≤ 1

instance (type : CustomType) : Decidable type.OneUid :=
  inferInstanceAs (Decidable (_ ≤ _))

/-- A custom type with more identifiers is one in which two of them come first. -/
theorem CustomType.not_oneUid_iff {type : CustomType} :
    ¬type.OneUid ↔ ∃ first second others, type.uidNames = first :: second :: others := by
  have hlength : ¬type.OneUid ↔ 1 < type.uidNames.length := by
    rw [uidNames, List.length_map, ← List.countP_eq_length_filter, OneUid, Nat.not_le]
  rw [hlength]
  match type.uidNames with
  | first :: second :: others => simp
  | [first] => simp
  | [] => simp

/-- The parts of a field that may be missing. -/
def partsOfField? (address : Address) (field : Option Field) : List Part :=
  (field.map fun field => field.parts address).getD []

/-- The parts of a choice that may be missing. -/
def partsOfChoice? (address : Address) (choice : Option (Choice Field)) : List Part :=
  (choice.map fun choice => partsOfChoice address choice).getD []

theorem partsOfFields_eq (address : Address) (fields : FieldMap) :
    partsOfFields address fields =
      fields.flatMap fun field => field.2.parts (address ++ [Segment.named field.1]) := by
  induction fields with
  | nil => rfl
  | cons field rest ih => rw [partsOfFields, ih, List.flatMap_cons]

theorem partsOfChoices_eq (address : Address) (choices : List (String × Choice Field)) :
    partsOfChoices address choices =
      choices.flatMap fun choice =>
        partsOfChoice (address ++ [Segment.named choice.1]) choice.2 := by
  induction choices with
  | nil => rfl
  | cons choice rest ih => rw [partsOfChoices, ih, List.flatMap_cons]

/-- A custom type with a group and an image inside the halves of a choice, and names that repeat
segments. -/
def CustomType.sample : CustomType :=
  ⟨[("Main",
      [("uid", .plain .uid),
        ("body", .slices
          [("quote",
            { primary := [("primary", .group [("data", .plain .link)] [])]
              items := [("photo", .image [{ name := "small" }, { name := "items" }] [])]
              extra := [] })] [])]),
    ("More", [("text", .plain .structuredText)])]⟩

example : (CustomType.sample.parts "page").map Part.path =
    [["page", "uid"],
      ["page", "data", "body", "quote", "primary", "primary", "data"],
      ["page", "data", "body", "quote", "primary", "primary"],
      ["page", "data", "body", "quote", "primary"],
      ["page", "data", "body", "quote", "items", "photo"],
      ["page", "data", "body", "quote", "items", "photo", "thumbnails", "small"],
      ["page", "data", "body", "quote", "items", "photo", "thumbnails", "items"],
      ["page", "data", "body", "quote", "items"],
      ["page", "data", "body", "quote"],
      ["page", "data", "body"],
      ["page", "data", "text"],
      ["page", "data"],
      ["page"]] := by decide

/-- The two halves of a choice, each under its segment: the parts of its fields, then the half
itself. -/
def halves (address : Address) (choice : Choice Field) : List (String × List Part) :=
  [("primary", partsOfFields (address ++ [Segment.structural "primary"]) choice.primary
      ++ [⟨address ++ [Segment.structural "primary"], .primary choice.primary⟩]),
    ("items", partsOfFields (address ++ [Segment.structural "items"]) choice.items
      ++ [⟨address ++ [Segment.structural "items"], .items choice.items⟩])]

theorem partsOfChoice_eq (address : Address) (choice : Choice Field) :
    partsOfChoice address choice =
      (halves address choice).flatMap Prod.snd ++ [⟨address, .choice choice⟩] := by
  obtain ⟨primary, items, extra⟩ := choice
  simp [partsOfChoice, halves]

/-! ### Induction over fields -/

/-- A property of all fields: of leaves and images, of a group whose fields have it, of a slice zone
whose choices' fields have it. -/
@[elab_as_elim]
theorem Field.induction {motive : Field → Prop}
    (leaf : ∀ kind extra, motive (.leaf kind extra))
    (image : ∀ thumbnails extra, motive (.image thumbnails extra))
    (group : ∀ fields extra, (∀ field ∈ fields, motive field.2) → motive (.group fields extra))
    (slices : ∀ choices extra,
      (∀ choice ∈ choices, (∀ field ∈ choice.2.primary, motive field.2) ∧
        ∀ field ∈ choice.2.items, motive field.2) → motive (.slices choices extra))
    (field : Field) : motive field := by
  refine Field.rec (motive_1 := motive)
    (motive_2 := fun fields => ∀ field ∈ fields, motive field.2)
    (motive_3 := fun choices => ∀ choice ∈ choices,
      (∀ field ∈ choice.2.primary, motive field.2) ∧ ∀ field ∈ choice.2.items, motive field.2)
    (motive_4 := fun field => motive field.2)
    (motive_5 := fun choice =>
      (∀ field ∈ choice.2.primary, motive field.2) ∧ ∀ field ∈ choice.2.items, motive field.2)
    (motive_6 := fun choice =>
      (∀ field ∈ choice.primary, motive field.2) ∧ ∀ field ∈ choice.items, motive field.2)
    leaf image group slices ?_ ?_ ?_ ?_ ?_ ?_ ?_ field
  · exact fun _ h => absurd h List.not_mem_nil
  · exact fun _ _ hhead htail => List.forall_mem_cons.mpr ⟨hhead, htail⟩
  · exact fun _ h => absurd h List.not_mem_nil
  · exact fun _ _ hhead htail => List.forall_mem_cons.mpr ⟨hhead, htail⟩
  · exact fun _ _ h => h
  · exact fun _ _ h => h
  · exact fun _ _ _ hprimary hitems => ⟨hprimary, hitems⟩

/-! ### Where parts stand -/

theorem mem_partsOfFields {address : Address} {fields : FieldMap} {part : Part} :
    part ∈ partsOfFields address fields ↔
      ∃ field ∈ fields, part ∈ field.2.parts (address ++ [Segment.named field.1]) := by
  rw [partsOfFields_eq, List.mem_flatMap]

theorem mem_partsOfChoices {address : Address} {choices : List (String × Choice Field)}
    {part : Part} :
    part ∈ partsOfChoices address choices ↔
      ∃ choice ∈ choices, part ∈ partsOfChoice (address ++ [Segment.named choice.1]) choice.2 := by
  rw [partsOfChoices_eq, List.mem_flatMap]

/-- A part of a choice belongs to one of its halves, or is the choice itself. -/
theorem mem_partsOfChoice {address : Address} {choice : Choice Field} {part : Part} :
    part ∈ partsOfChoice address choice ↔
      (part ∈ partsOfFields (address ++ [Segment.structural "primary"]) choice.primary ∨
        part = ⟨address ++ [Segment.structural "primary"], .primary choice.primary⟩) ∨
      (part ∈ partsOfFields (address ++ [Segment.structural "items"]) choice.items ∨
        part = ⟨address ++ [Segment.structural "items"], .items choice.items⟩) ∨
      part = ⟨address, .choice choice⟩ := by
  obtain ⟨primary, items, extra⟩ := choice
  simp [partsOfChoice, or_assoc]

/-- Whether a shape stands inside a field: only the data and the root of a document do not. -/
def Shape.isInner : Shape → Bool
  | .data _ | .document _ => false
  | _ => true

/-- **The parts of a field** are neither the data nor the root of a document. -/
theorem isInner_of_mem_parts {field : Field} :
    ∀ {address : Address} {part : Part}, part ∈ field.parts address →
      part.shape.isInner = true := by
  -- the same for the fields of a record, given each
  have lift : ∀ {address : Address} {fields : FieldMap} {part : Part},
      (∀ field ∈ fields, ∀ {address : Address} {part : Part},
        part ∈ field.2.parts address → part.shape.isInner = true) →
      part ∈ partsOfFields address fields → part.shape.isInner = true := by
    intro address fields part ih h
    obtain ⟨field, hfield, hpart⟩ := mem_partsOfFields.mp h
    exact ih field hfield hpart
  induction field using Field.induction with
  | leaf kind extra =>
    intro address part h
    rw [Field.parts, List.mem_singleton] at h
    rw [h]
    rfl
  | image thumbnails extra =>
    intro address part h
    rw [Field.parts, List.mem_cons, List.mem_map] at h
    rcases h with rfl | ⟨spec, _, rfl⟩ <;> rfl
  | group fields extra ih =>
    intro address part h
    rw [Field.parts, List.mem_append, List.mem_singleton] at h
    rcases h with h | rfl
    · exact lift ih h
    · rfl
  | slices choices extra ih =>
    intro address part h
    rw [Field.parts, List.mem_append, List.mem_singleton] at h
    rcases h with h | rfl
    · obtain ⟨choice, hchoice, hpart⟩ := mem_partsOfChoices.mp h
      rcases mem_partsOfChoice.mp hpart with (h | rfl) | (h | rfl) | rfl
      · exact lift (ih choice hchoice).1 h
      · rfl
      · exact lift (ih choice hchoice).2 h
      · rfl
      · rfl
    · rfl

/-- **Parts stand below their field.** -/
theorem prefix_of_mem_parts {field : Field} :
    ∀ {address : Address} {part : Part}, part ∈ field.parts address → address <+: part.address := by
  -- fields whose own parts stand below them stand below the address that holds them
  have lift : ∀ {address : Address} {fields : FieldMap} {part : Part},
      (∀ field ∈ fields, ∀ {address : Address} {part : Part},
        part ∈ field.2.parts address → address <+: part.address) →
      part ∈ partsOfFields address fields → address <+: part.address := by
    intro address fields part ih h
    obtain ⟨field, hfield, hpart⟩ := mem_partsOfFields.mp h
    exact (List.prefix_append _ _).trans (ih field hfield hpart)
  induction field using Field.induction with
  | leaf kind extra =>
    intro address part h
    rw [Field.parts, List.mem_singleton] at h
    subst h
    exact List.prefix_rfl
  | image thumbnails extra =>
    intro address part h
    rw [Field.parts, List.mem_cons, List.mem_map] at h
    rcases h with rfl | ⟨spec, _, rfl⟩
    · exact List.prefix_rfl
    · exact List.prefix_append _ _
  | group fields extra ih =>
    intro address part h
    rw [Field.parts, List.mem_append, List.mem_singleton] at h
    rcases h with h | rfl
    · exact lift ih h
    · exact List.prefix_rfl
  | slices choices extra ih =>
    intro address part h
    rw [Field.parts, List.mem_append, List.mem_singleton] at h
    rcases h with h | rfl
    · obtain ⟨choice, hchoice, hpart⟩ := mem_partsOfChoices.mp h
      refine (List.prefix_append address [.named choice.1]).trans ?_
      rcases mem_partsOfChoice.mp hpart with (h | rfl) | (h | rfl) | rfl
      · exact (List.prefix_append _ _).trans (lift (ih choice hchoice).1 h)
      · exact List.prefix_append _ _
      · exact (List.prefix_append _ _).trans (lift (ih choice hchoice).2 h)
      · exact List.prefix_append _ _
      · exact List.prefix_rfl
    · exact List.prefix_rfl

/-- One part stands at the address, all others strictly below it. -/
def Rooted (address : Address) (shape : Shape) (parts : List Part) : Prop :=
  ∃ before after, parts = before ++ ⟨address, shape⟩ :: after ∧
    ∀ part ∈ before ++ after, ∃ segment, address ++ [segment] <+: part.address

theorem Rooted.own_mem {address : Address} {shape : Shape} {parts : List Part}
    (h : Rooted address shape parts) : ⟨address, shape⟩ ∈ parts := by
  obtain ⟨before, after, rfl, _⟩ := h
  exact List.mem_append_right _ List.mem_cons_self

theorem Rooted.isPrefix {address : Address} {shape : Shape} {parts : List Part}
    (h : Rooted address shape parts) {part : Part} (hpart : part ∈ parts) :
    address <+: part.address := by
  obtain ⟨before, after, rfl, hbelow⟩ := h
  rcases List.mem_append.mp hpart with hbefore | hafter
  · obtain ⟨segment, hunder⟩ := hbelow part (List.mem_append_left _ hbefore)
    exact (List.prefix_append _ _).trans hunder
  · rcases List.mem_cons.mp hafter with rfl | hafter
    · exact List.prefix_rfl
    · obtain ⟨segment, hunder⟩ := hbelow part (List.mem_append_right _ hafter)
      exact (List.prefix_append _ _).trans hunder

/-- What stands last, after parts strictly below, is the root. -/
theorem rooted_append {address : Address} {parts : List Part} (shape : Shape)
    (h : ∀ part ∈ parts, ∃ segment, address ++ [segment] <+: part.address) :
    Rooted address shape (parts ++ [⟨address, shape⟩]) :=
  ⟨parts, [], rfl, by rwa [List.append_nil]⟩

theorem rooted_container (address : Address) (shape : Shape) (fields : FieldMap) :
    Rooted address shape (partsOfFields address fields ++ [⟨address, shape⟩]) := by
  refine rooted_append shape fun part hpart => ?_
  obtain ⟨field, _, hmem⟩ := mem_partsOfFields.mp hpart
  exact ⟨.named field.1, prefix_of_mem_parts hmem⟩

theorem rooted_halves {address : Address} {choice : Choice Field} {half : String × List Part}
    (h : half ∈ halves address choice) :
    ∃ shape, Rooted (address ++ [Segment.structural half.1]) shape half.2 := by
  rw [halves, List.mem_cons, List.mem_singleton] at h
  rcases h with rfl | rfl
  · exact ⟨_, rooted_container _ (.primary choice.primary) choice.primary⟩
  · exact ⟨_, rooted_container _ (.items choice.items) choice.items⟩

theorem rooted_partsOfChoice (address : Address) (choice : Choice Field) :
    Rooted address (.choice choice) (partsOfChoice address choice) := by
  rw [partsOfChoice_eq]
  refine rooted_append (.choice choice) fun part hpart => ?_
  obtain ⟨half, hhalf, hmem⟩ := List.mem_flatMap.mp hpart
  obtain ⟨shape, hrooted⟩ := rooted_halves hhalf
  exact ⟨.structural half.1, hrooted.isPrefix hmem⟩

theorem rooted_zone (address : Address) (shape : Shape) (choices : List (String × Choice Field)) :
    Rooted address shape (partsOfChoices address choices ++ [⟨address, shape⟩]) := by
  refine rooted_append shape fun part hpart => ?_
  obtain ⟨choice, _, hmem⟩ := mem_partsOfChoices.mp hpart
  exact ⟨.named choice.1, (rooted_partsOfChoice _ choice.2).isPrefix hmem⟩

/-- **One part at the address of a field.** -/
theorem rooted_parts (address : Address) (field : Field) :
    Rooted address field.shape (field.parts address) := by
  cases field with
  | leaf kind extra =>
    rw [Field.parts]
    exact ⟨[], [], rfl, by simp⟩
  | image thumbnails extra =>
    rw [Field.parts]
    refine ⟨[], _, rfl, ?_⟩
    intro part h
    obtain ⟨spec, _, rfl⟩ := List.mem_map.mp h
    exact ⟨.structural "thumbnails", [.named spec.name], by simp⟩
  | group fields extra =>
    rw [Field.parts]
    exact rooted_container address (.group fields) fields
  | slices choices extra =>
    rw [Field.parts]
    exact rooted_zone address (.slices choices) choices

theorem own_mem_parts (address : Address) (field : Field) :
    ⟨address, field.shape⟩ ∈ field.parts address := (rooted_parts address field).own_mem

/-! ### The parts of a custom type -/

/-- All fields but the identifier stand inside the data. -/
theorem topAddress_of_not_uid (id : String) {field : String × Field} (h : field.2.isUid = false) :
    topAddress id field = [.named id, .structural "data"] ++ [.named field.1] := by
  rw [topAddress, h, if_neg Bool.false_ne_true]
  rfl

/-- **A part of a custom type** is the identifier, a part of a field inside the data, the data or
the root. -/
theorem CustomType.mem_parts_cases {id : String} {type : CustomType} {part : Part}
    (h : part ∈ type.parts id) :
    (∃ name, part = ⟨[.named id, .named name], .leaf .uid⟩) ∨
      (∃ field ∈ type.dataFields,
        part ∈ field.2.parts ([.named id, .structural "data"] ++ [.named field.1])) ∨
      part = ⟨[.named id, .structural "data"], .data type.dataFields⟩ ∨
      part = ⟨[.named id], .document type.uid?⟩ := by
  rw [parts, List.mem_append, List.mem_flatMap, List.mem_cons, List.mem_singleton] at h
  rcases h with ⟨field, hfield, hmem⟩ | hmem
  · cases huid : field.2.isUid with
    | true =>
      obtain ⟨extra, hleaf⟩ := Field.exists_of_isUid huid
      rw [topAddress, if_pos huid, hleaf, Field.parts, List.mem_singleton] at hmem
      exact Or.inl ⟨field.1, hmem⟩
    | false =>
      rw [topAddress_of_not_uid id huid] at hmem
      refine Or.inr (Or.inl ⟨field, ?_, hmem⟩)
      rw [dataFields, List.mem_filter, huid]
      exact ⟨hfield, rfl⟩
  · exact Or.inr (Or.inr hmem)

/-- No part of a field is a root. -/
theorem shape_ne_document {field : Field} {address : Address} {part : Part}
    (h : part ∈ field.parts address) (uid : Option (String × Field)) :
    part.shape ≠ .document uid := by
  intro hroot
  have hinner := isInner_of_mem_parts h
  rw [hroot] at hinner
  cases hinner

/-- A part of a custom type is its root, or no root. -/
theorem eq_root_or_shape_ne {id : String} {type : CustomType} {part : Part}
    (h : part ∈ type.parts id) :
    part = ⟨[.named id], .document type.uid?⟩ ∨ ∀ uid, part.shape ≠ .document uid := by
  rcases CustomType.mem_parts_cases h with ⟨name, rfl⟩ | ⟨field, -, hmem⟩ | rfl | rfl
  · exact Or.inr fun _ => Shape.noConfusion
  · exact Or.inr (shape_ne_document hmem)
  · exact Or.inr fun _ => Shape.noConfusion
  · exact Or.inl rfl

end ContentGraph
