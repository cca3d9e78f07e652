import ContentGraph.Materialization
import ContentGraph.Proofs.Json.Location

/-!
# What a walk comes to

The kinds of a registry decide which parts of a raw document are field records, and so which of its
values are walked as fields, each under its own path.  This module says which these are without
running the walk, and where their materialized values stand in the materialized document.

* `Registry.RecordIn` — the field records directly inside of a value: its data, the elements of a
  group, the halves of slices;
* `Registry.Walked` — the values that the walk of a document comes to, at every depth;
* `Registry.FieldRecord`, `Registry.KeepsApart` — the field records of a document, and that none of
  them has two fields which are exposed under one name;
* `Walk.differ_of_walked` — **the step and the run**: two documents that differ in one walked value
  become documents that differ in that value's place only;
* `Walk.at?_of_walked`, `Walk.at?_of_fieldRecord` — what stands in the place of a walked value and
  of a field record;
* `materialize_eq` — a document with a type is materialized by walking its members.
-/

namespace ContentGraph

variable {registry : Registry} {rename : String → String} {raw : Json}

/-! ### Walked values -/

/-- The half of a slice stands under its name. -/
theorem Json.at?_half {elements : List Json} {index : Nat} {slice : List (String × Json)}
    {half : Json} {name : String} (element : elements[index]? = some (.object slice))
    (hhalf : Keyed.get? name slice = some half) :
    (Json.array elements).at? [.element index, .member name] = some half := by
  simp [Json.at?, Step.part?, Json.asArray?, Json.get?, element, hhalf]

namespace Registry

/-- The value at a path holds, at an inner location, the field record with the given members; their
paths start with `below`. -/
inductive RecordIn (registry : Registry) (path : Path) :
    Json → Location → Path → List (String × Json) → Prop
  /-- A data record is the value itself. -/
  | data {members : List (String × Json)} (kind : registry.kindAt? path = some .data) :
      RecordIn registry path (.object members) [] path members
  /-- The elements of a group that are objects. -/
  | element {elements : List Json} {index : Nat} {members : List (String × Json)}
      (kind : registry.kindAt? path = some .group)
      (element : elements[index]? = some (.object members)) :
      RecordIn registry path (.array elements) [.element index] path members
  /-- The half of a slice that does not repeat. -/
  | primary {elements : List Json} {index : Nat} {slice members : List (String × Json)}
      {choice : String}
      (kind : registry.kindAt? path = some .slices)
      (element : elements[index]? = some (.object slice))
      (type : (Keyed.get? "slice_type" slice).bind Json.asString? = some choice)
      (half : Keyed.get? "primary" slice = some (.object members)) :
      RecordIn registry path (.array elements) [.element index, .member "primary"]
        (path ++ [choice] ++ ["primary"]) members
  /-- The items of a slice that are objects. -/
  | item {elements items : List Json} {index place : Nat} {slice members : List (String × Json)}
      {choice : String} (kind : registry.kindAt? path = some .slices)
      (element : elements[index]? = some (.object slice))
      (type : (Keyed.get? "slice_type" slice).bind Json.asString? = some choice)
      (half : Keyed.get? "items" slice = some (.array items))
      (item : items[place]? = some (.object members)) :
      RecordIn registry path (.array elements) [.element index, .member "items", .element place]
        (path ++ [choice] ++ ["items"]) members

/-- The walk of a raw document comes to a value: at a location of the document, with a path, under a
key. -/
inductive Walked (registry : Registry) (raw : Json) : Location → Path → String → Json → Prop
  /-- The members of the document. -/
  | root {type key : String} {value : Json} (type_eq : raw.getString? "type" = some type)
      (member : raw.get? key = some value) : Walked registry raw [.member key] [type, key] key value
  /-- The fields of a record inside of a walked value. -/
  | field {location inner : Location} {path below : Path} {key name : String} {value field : Json}
      {members : List (String × Json)} (outer : Walked registry raw location path key value)
      (record : registry.RecordIn path value inner below members)
      (member : Keyed.get? name members = some field) :
      Walked registry raw (location ++ inner ++ [Step.field name]) (below ++ [name]) name field

/-- A raw document has a field record with the given members at a location; their paths start with
`below`. -/
def FieldRecord (registry : Registry) (raw : Json) (location : Location) (below : Path)
    (members : List (String × Json)) : Prop :=
  ∃ outer inner path key value, registry.Walked raw outer path key value ∧
    registry.RecordIn path value inner below members ∧ location = outer ++ inner

/-- In no field record of a raw document are two fields exposed under one name. -/
def KeepsApart (registry : Registry) (rename : String → String) (raw : Json) : Prop :=
  ∀ location below members, registry.FieldRecord raw location below members →
    (exposedNames rename members).Nodup

/-- In no field record on the way to a location are two fields exposed under one name. -/
def KeepsApartTo (registry : Registry) (rename : String → String) (raw : Json)
    (location : Location) :
    Prop :=
  ∀ outer below members name, registry.FieldRecord raw outer below members →
    outer ++ [Step.field name] <+: location → (exposedNames rename members).Nodup

theorem KeepsApart.to (h : registry.KeepsApart rename raw) (location : Location) :
    registry.KeepsApartTo rename raw location :=
  fun outer below members _ record _ => h outer below members record

theorem KeepsApartTo.of_prefix {outer location : Location}
    (h : registry.KeepsApartTo rename raw location) (hle : outer <+: location) :
    registry.KeepsApartTo rename raw outer :=
  fun inner below members name record hname => h inner below members name record (hname.trans hle)

variable {path below : Path} {key : String} {value : Json} {location inner : Location}
  {members : List (String × Json)}

/-- The record stands where it is said to stand. -/
theorem RecordIn.at?_eq (h : registry.RecordIn path value inner below members) :
    value.at? inner = some (.object members) := by
  cases h with
  | data kind => rfl
  | element kind element => simp [Json.at?, Step.part?, Json.asArray?, element]
  | primary kind element type half => exact Json.at?_half element half
  | item kind element type half item =>
    simp [Json.at?, Step.part?, Json.asArray?, Json.get?, element, half, item]

/-- Between a value and its records no name changes. -/
theorem RecordIn.exposed_eq (h : registry.RecordIn path value inner below members)
    (rename : String → String) : inner.exposed rename = inner := by
  cases h <;> rfl

/-- A walked value stands where it is said to stand. -/
theorem Walked.at?_eq (h : registry.Walked raw location path key value) :
    raw.at? location = some value := by
  induction h with
  | root type_eq member =>
    rw [Json.at?, Step.part?, member]
    rfl
  | field outer record member ih =>
    rw [Location.at?_append, Location.at?_append, ih, Option.bind_some, record.at?_eq,
      Option.bind_some, Json.at?, Step.part?, Json.get?, member]
    rfl

/-- Names that are never merged are kept apart in every well-formed document. -/
theorem keepsApart_of_injective (registry : Registry) (wf : raw.WellFormed)
    (injective : Function.Injective rename) :
    registry.KeepsApart rename raw := by
  rintro location below members ⟨outer, inner, path, key, value, walked, record, rfl⟩
  have hrecord : (Json.object members).WellFormed := (wf.at? walked.at?_eq).at? record.at?_eq
  have hdistinct : (members.map Prod.fst).Nodup := hrecord.distinct
  have hnames := hdistinct.map injective
  rwa [List.map_map] at hnames

end Registry

/-! ### The walk member by member -/

namespace Walk

variable {w : Walk}

theorem record_value (parent : Path) (members : List (String × Json)) :
    (w.record parent members).value =
      members.map fun member =>
        (member.1, (w.value (parent ++ [member.1]) member.1 member.2).value) := by
  induction members with
  | nil => rfl
  | cons member rest ih =>
    obtain ⟨key, member⟩ := member
    rw [record, Traced.both, ih, List.map_cons]

theorem fieldRecords_value (path : Path) (elements : List Json) :
    (w.fieldRecords path elements).value = elements.map fun element =>
      (w.fieldRecord path element).value := by
  induction elements with
  | nil => rfl
  | cons element rest ih => rw [fieldRecords, Traced.both, ih, List.map_cons]

theorem slices_value (zone : Path) (elements : List Json) :
    (w.slices zone elements).value = elements.map fun element => (w.slice zone element).value := by
  induction elements with
  | nil => rfl
  | cons element rest ih => rw [slices, Traced.both, ih, List.map_cons]

/-- A member of a slice: the two halves hold field records, other members are copied. -/
def half (w : Walk) (choice : Path) (key : String) : Json → Traced Json
  | .object members =>
    if key = "primary" then w.fieldRecord (choice ++ [key]) (.object members)
    else { value := .object members }
  | .array elements =>
    if key = "items" then (w.fieldRecords (choice ++ [key]) elements).map .array
    else { value := .array elements }
  | other => { value := other }

theorem halves_cons (choice : Path) (key : String) (half : Json) (rest : List (String × Json)) :
    w.halves choice ((key, half) :: rest) =
      Traced.both (fun half rest => (key, half) :: rest) (w.half choice key half)
        (w.halves choice rest) := by
  cases half with
  | object members => rw [halves, Walk.half, fieldRecord]
  | _ => rfl

theorem halves_value (choice : Path) (members : List (String × Json)) :
    (w.halves choice members).value =
      members.map fun member => (member.1, (w.half choice member.1 member.2).value) := by
  induction members with
  | nil => rfl
  | cons member rest ih =>
    obtain ⟨key, half⟩ := member
    rw [halves_cons, Traced.both, ih, List.map_cons]

/-- The members of a record under their exposed names, one by one. -/
theorem renamed_record_eq (w : Walk) (below : Path) (members : List (String × Json)) :
    w.renamed (w.record below members).value =
      Keyed.merge (members.map fun member =>
        (w.env.renameField member.1, (w.value (below ++ [member.1]) member.1 member.2).value)) := by
  rw [renamed, record_value, List.map_map]
  rfl

/-- The exposed members of a record whose names are kept apart: each in its place. -/
theorem renamed_record {members : List (String × Json)}
    (apart : (exposedNames w.env.renameField members).Nodup) (below : Path) :
    w.renamed (w.record below members).value =
      members.map fun member =>
        (w.env.renameField member.1, (w.value (below ++ [member.1]) member.1 member.2).value) := by
  have hdistinct : Keyed.Distinct (members.map fun member =>
      (w.env.renameField member.1, (w.value (below ++ [member.1]) member.1 member.2).value)) := by
    rw [Keyed.Distinct, keys_exposed w.env.renameField fun name field =>
      (w.value (below ++ [name]) name field).value]
    exact apart
  rw [renamed_record_eq]
  exact Keyed.merge_of_distinct hdistinct

/-- A document whose members are materialized under the path of its type. -/
def root (w : Walk) (type : String) : Json → Json
  | .object members => .object (w.record [type] members).value
  | other => other

/-! ### One step: from a value to its records -/

/-- A slice that is read as a choice: its members one by one. -/
theorem slice_value {zone : Path} {slice : List (String × Json)} {choice : String}
    (type : (Keyed.get? "slice_type" slice).bind Json.asString? = some choice) :
    (w.slice zone (.object slice)).value =
      .object (slice.map fun member =>
        (member.1, (w.half (zone ++ [choice]) member.1 member.2).value)) := by
  simp only [Walk.slice, type, Traced.map, halves_value]

/-- Slices of one choice that differ in a half become slices that differ in that half. -/
theorem differ_slice (zone : Path) {slice : List (String × Json)} {other half half' : Json}
    {choice key : String} (type : (Keyed.get? "slice_type" slice).bind Json.asString? = some choice)
    (hkey : key ≠ "slice_type") (h : (Step.member key).Differ (.object slice) other half half') :
    (Step.member key).Differ (w.slice zone (.object slice)).value (w.slice zone other).value
      (w.half (zone ++ [choice]) key half).value (w.half (zone ++ [choice]) key half').value := by
  obtain ⟨others, rfl, hothers, hdiffer⟩ :=
    Step.differ_members (fun key half => (w.half (zone ++ [choice]) key half).value) h
  have htype : (Keyed.get? "slice_type" others).bind Json.asString? = some choice := by
    rw [hothers "slice_type" (Ne.symm hkey), type]
  rw [slice_value type, slice_value htype]
  exact hdiffer

/-- Slice zones that differ in a half of one slice become zones that differ in that half. -/
theorem differ_zone (zone : Path) {elements : List Json} {index : Nat}
    {slice : List (String × Json)} {other half half' : Json} {choice key : String}
    (element : elements[index]? = some (.object slice))
    (type : (Keyed.get? "slice_type" slice).bind Json.asString? = some choice)
    (hkey : key ≠ "slice_type") (h : Location.Differ [.element index,
      .member key] (.array elements) other half half') :
    ∃ others, other = .array others ∧
      Location.Differ [.element index, .member key] (.array (w.slices zone elements).value)
        (.array (w.slices zone others).value) (w.half (zone ++ [choice]) key half).value
        (w.half (zone ++ [choice]) key half').value := by
  obtain ⟨found, found', helement, hhalf⟩ := h
  have hfound := Step.part?_of_differ helement
  obtain ⟨others, rfl, hdiffer⟩ :=
    Step.differ_elements (fun slice => (w.slice zone slice).value) helement
  -- the slice that the location leads to is the one that is read as the choice
  cases element.symm.trans hfound
  have hslice := differ_slice (w := w) zone type hkey (Location.differ_singleton.mp hhalf)
  refine ⟨others, rfl, ?_⟩
  rw [slices_value, slices_value]
  exact ⟨_, _, hdiffer, Location.differ_singleton.mpr hslice⟩

/-- **One step.**  Two values that differ in a record become values that differ in that record's
place. -/
theorem differ_of_recordIn {path below : Path} (key : String) {value other : Json}
    {inner : Location} {members members' : List (String × Json)}
    (record : w.paths.RecordIn path value inner below members)
    (h : inner.Differ value other (.object members) (.object members')) :
    inner.Differ (w.value path key value).value (w.value path key other).value
      (.object (w.renamed (w.record below members).value))
      (.object (w.renamed (w.record below members').value)) := by
  cases record with
  | data kind =>
    obtain ⟨-, rfl⟩ := h
    simp only [Walk.value, kind, Traced.map]
    exact ⟨rfl, rfl⟩
  | element kind element =>
    obtain ⟨others, rfl, hdiffer⟩ :=
      Step.differ_elements (fun element => (w.fieldRecord path element).value)
      (Location.differ_singleton.mp h)
    simp only [Walk.value, kind, Traced.map, fieldRecords_value]
    exact Location.differ_singleton.mpr hdiffer
  | primary kind element type half =>
    obtain ⟨others, rfl, hdiffer⟩ := differ_zone (w := w) path element type (by decide) h
    simp only [Walk.value, kind, Traced.map]
    exact hdiffer
  | @item elements _ index place _ _ _ kind element type half item =>
    have hsplit :
        Location.Differ ([Step.element index, .member "items"] ++ [Step.element place])
          (.array elements) other
        (.object members) (.object members') := h
    obtain ⟨items, items', hhalf, hitem⟩ := Location.differ_append.mp hsplit
    cases (Json.at?_half element half).symm.trans (Location.at?_of_differ hhalf)
    obtain ⟨others, rfl, hdiffer⟩ := differ_zone (w := w) path element type (by decide) hhalf
    obtain ⟨elements', rfl, hitem⟩ := Step.differ_elements
      (fun element => (w.fieldRecord _ element).value) (Location.differ_singleton.mp hitem)
    simp only [Walk.value, kind, Traced.map]
    refine Location.differ_append.mpr ⟨_, _, hdiffer, Location.differ_singleton.mpr ?_⟩
    simp only [Walk.half, ↓reduceIte, Traced.map, fieldRecords_value]
    exact hitem

/-! ### The run: from the document to every walked value -/

variable {location : Location} {type : String}

/-- Two documents that differ in one member become documents that differ in that member. -/
theorem differ_root {key : String} {value value' other : Json}
    (h : (Step.member key).Differ raw other value value') :
    (Step.member key).Differ (w.root type raw) (w.root type other)
      (w.value [type, key] key value).value (w.value [type, key] key value').value := by
  have hobject : ∃ members, raw = .object members := by
    obtain ⟨before, after, -, rfl, -⟩ := h
    exact ⟨_, rfl⟩
  obtain ⟨members, rfl⟩ := hobject
  obtain ⟨others, rfl, -, hdiffer⟩ :=
    Step.differ_members (fun key value => (w.value [type, key] key value).value) h
  simp only [root, record_value]
  exact hdiffer

/-- **The run.**  Two documents that differ in one walked value become documents that differ in the
place of that value, where each has what its own value becomes. -/
theorem differ_of_walked {path : Path} {key : String} {value value' other : Json}
    (walked : w.paths.Walked raw location path key value)
    (type_eq : raw.getString? "type" = some type)
    (apart : w.paths.KeepsApartTo w.env.renameField raw location)
    (h : location.Differ raw other value value') :
    (location.exposed w.env.renameField).Differ (w.root type raw) (w.root type other)
      (w.value path key value).value (w.value path key value').value := by
  induction walked generalizing other value' with
  | root found member =>
    cases found.symm.trans type_eq
    exact Location.differ_singleton.mpr (differ_root (Location.differ_singleton.mp h))
  | @field location inner path below key name value field members outer record member ih =>
    obtain ⟨r, r', hrecord, hfield⟩ := Location.differ_append.mp h
    obtain ⟨u, u', hvalue, hinner⟩ := Location.differ_append.mp hrecord
    -- the outer value and its record are those that the walk has come to
    cases outer.at?_eq.symm.trans (Location.at?_of_differ hvalue)
    cases record.at?_eq.symm.trans (Location.at?_of_differ hinner)
    have hnames : (exposedNames w.env.renameField members).Nodup :=
      apart _ below members name ⟨location, inner, path, key, value, outer, record,
        rfl⟩ (List.prefix_refl _)
    have houter :=
      ih (apart.of_prefix (List.prefix_append_of_prefix (List.prefix_append _ _))) hvalue
    obtain ⟨members', rfl, hnames', hdiffer⟩ := Step.differ_fields hnames
      (fun name field => (w.value (below ++ [name]) name field).value)
        (Location.differ_singleton.mp hfield)
    have hstep := differ_of_recordIn key record hinner
    rw [renamed_record hnames, renamed_record (hnames'.symm ▸ hnames)] at hstep
    rw [Location.exposed_append, Location.exposed_append, record.exposed_eq]
    refine Location.differ_append.mpr ⟨_, _, Location.differ_append.mpr ⟨_, _, houter, hstep⟩, ?_⟩
    exact Location.differ_singleton.mpr hdiffer

/-- What a walked value becomes stands in its place. -/
theorem at?_of_walked {path : Path} {key : String} {value : Json}
    (walked : w.paths.Walked raw location path key value)
    (type_eq : raw.getString? "type" = some type)
    (apart : w.paths.KeepsApartTo w.env.renameField raw location) :
    (w.root type raw).at? (location.exposed w.env.renameField) =
      some (w.value path key value).value :=
  Location.at?_of_differ
    (differ_of_walked walked type_eq apart (Location.differ_refl walked.at?_eq))

/-- What a field record becomes stands in its place. -/
theorem at?_of_fieldRecord {below : Path} {members : List (String × Json)}
    (record : w.paths.FieldRecord raw location below members)
    (type_eq : raw.getString? "type" = some type)
    (apart : w.paths.KeepsApartTo w.env.renameField raw location) :
    (w.root type raw).at? (location.exposed w.env.renameField) =
      some (.object (w.renamed (w.record below members).value)) := by
  obtain ⟨outer, inner, path, key, value, walked, hrecord, rfl⟩ := record
  have hvalue := at?_of_walked walked type_eq (apart.of_prefix (List.prefix_append _ _))
  have hinner := differ_of_recordIn key hrecord (Location.differ_refl hrecord.at?_eq)
  rw [Location.exposed_append, Location.at?_append, hvalue, hrecord.exposed_eq]
  exact Location.at?_of_differ hinner

end Walk

/-- A document with a type is materialized: its members are walked under the path of its type. -/
theorem materialize_eq (env : Environment) (registry : Registry) {raw : Json} {type : String}
    (type_eq : raw.getString? "type" = some type) :
    let nodeId := env.nodeId type (raw.getText "id")
    ∃ result, materialize env registry raw = .ok result ∧ result.nodeId = nodeId ∧
      result.document = Walk.root ⟨env, registry, raw, nodeId⟩ type raw := by
  cases raw with
  | object members =>
    have htype : (Keyed.get? "type" members).bind Json.asString? = some type := type_eq
    simp only [materialize, htype]
    exact ⟨_, rfl, rfl, rfl⟩
  | _ => cases type_eq

/-! ### A page -/

/-- Pages have an image with two thumbnails, and slices of quotes whose items name an author. -/
def pageRegistry : Registry where
  entries :=
    [⟨["page", "data", "hero"], "ImageType", .image⟩,
      ⟨["page", "data", "hero", "thumbnails", "small"], "ImageThumbnailType", .imageThumbnail⟩,
      ⟨["page", "data", "hero", "thumbnails", "wide"], "ImageThumbnailType", .imageThumbnail⟩,
      ⟨["page", "data", "body", "quote", "items", "author"], "LinkType", .link⟩,
      ⟨["page", "data", "body"], "[PageBodySlicesType]", .slices⟩,
      ⟨["page", "data"], "PageDataType", .data⟩]
  distinct := by decide

/-- A page with an author of its quote. -/
def pageWithAuthor (author : Json) : Json :=
  .object
    [("id", .string "x1"), ("type", .string "page"),
      ("data", .object
        [("hero", .object
          [("url", .string "/hero.png"), ("wide", .object [("url", .string "/wide.png")]),
            ("small", .object [("url", .string "/small.png")])]),
          ("body", .array
            [.object
              [("slice_type", .string "quote"), ("items", .array
                [.object [("author", author)]])]])])]

theorem wellFormed_pageWithAuthor {author : Json} (h : author.WellFormed) :
    (pageWithAuthor author).WellFormed := by
  simp [pageWithAuthor, Json.WellFormed, Json.WellFormedMembers, Json.WellFormedElements,
    Keyed.Distinct, Keyed.keys, h]

/-- The item of the quote is a field record. -/
theorem fieldRecord_item (author : Json) :
    pageRegistry.FieldRecord (pageWithAuthor author)
      [.member "data", .field "body", .element 0, .member "items", .element 0]
      ["page", "data", "body", "quote", "items"] [("author", author)] := by
  have hdata : pageRegistry.kindAt? ["page", "data"] = some .data := by decide
  have hbody : pageRegistry.kindAt? ["page", "data", "body"] = some .slices := by decide
  exact ⟨[.member "data", .field "body"], [.element 0, .member "items", .element 0], _, _, _,
    .field (.root rfl rfl) (.data hdata) rfl, .item hbody rfl rfl rfl rfl, rfl⟩

end ContentGraph
