import ContentGraph.Collection
import ContentGraph.Materialization
import ContentGraph.Proofs.Compilation.Lookup

/-!
# Where thumbnails are found

Thumbnails are registered as flat paths, and their names are read off these again: off all of them
for the type of thumbnails, off those below one path for a single image.  Both readings give what
the schema lists.

* `firstOccurrences_eq_eraseDups` — names in order of discovery;
* `Field.at?`, `CustomType.at?` — the field at a path, by descent in the schema;
* `Registry.Holds.exists_at`, `Registry.Holds.image_at_of_thumbnail` — images at paths and
  thumbnails in a registry;
* `thumbnailNames_compile` — the thumbnails found at a path are those of the image there;
* `registeredThumbnails_compile` — all registered names, in the order of the schema;
* `thumbnails_found_exactly` — both for several custom types.
-/

namespace ContentGraph

/-! ### Names in order of discovery -/

/-- Occurrences after some that were found: of the texts not found yet, the first of each. -/
theorem foldl_firstOccurrences (texts found : List String) :
    texts.foldl (fun found text => if found.contains text then found else found ++ [text]) found =
      found ++ (texts.filter fun text => !found.contains text).eraseDups := by
  induction texts generalizing found with
  | nil => simp
  | cons text rest ih =>
    rw [List.foldl_cons, ih]
    by_cases hfound : found.contains text = true
    · rw [if_pos hfound, List.filter_cons_of_neg (by simpa using hfound)]
    · rw [if_neg hfound, List.filter_cons_of_pos (by simpa using hfound), List.eraseDups_cons,
        List.filter_filter, List.append_assoc, List.singleton_append]
      refine congrArg _ (congrArg _ (congrArg _ (List.filter_congr fun later _ => ?_)))
      by_cases hsame : later = text <;> simp [hsame]

/-- Each text stands where it occurs first. -/
theorem firstOccurrences_eq_eraseDups (texts : List String) :
    firstOccurrences texts = texts.eraseDups := by
  rw [firstOccurrences, foldl_firstOccurrences, List.nil_append, List.filter_eq_self.mpr]
  intro text _
  rfl

/-! ### Fields at paths -/

/-- The fields of the half of a choice that a segment names. -/
def Choice.half? (segment : String) (choice : Choice Field) : Option FieldMap :=
  if segment = primarySegment then some choice.primary
  else if segment = itemsSegment then some choice.items
  else none

/-- The field at a path inside a field: a group leads on to its fields, a slice zone to the fields
of the halves of its choices. -/
def Field.at? : Path → Field → Option Field
  | [], field => some field
  | name :: rest, .group fields _ => (Keyed.get? name fields).bind fun field => Field.at? rest field
  | choice :: half :: name :: rest, .slices choices _ =>
    (((Keyed.get? choice choices).bind (Choice.half? half)).bind (Keyed.get? name)).bind
      fun field =>
      Field.at? rest field
  | _, _ => none

/-- The field at a path of a custom type: the identifier stands beside the data, all others
inside. -/
def CustomType.at? (id : String) (type : CustomType) : Path → Option Field
  | [root, key] =>
    if root = id then (type.uid?.filter fun field => field.1 = key).map Prod.snd else none
  | root :: data :: name :: rest =>
    if root = id ∧ data = dataSegment then (Keyed.get? name type.dataFields).bind (Field.at? rest)
      else none
  | _ => none

variable {registry : Registry} {typePrefix : String} {address : Address}

namespace Registry.Holds

/-- One of the fields of a record. -/
theorem field_of_get? {fields : FieldMap} {shape : Shape} {name : String} {field : Field}
    (h : registry.Holds typePrefix address (partsOfFields address fields ++ [⟨address, shape⟩]))
    (hget : Keyed.get? name fields = some field) :
    registry.Holds typePrefix (address ++ [Segment.named name])
      (field.parts (address ++ [Segment.named name])) := by
  have hfield := h.field name
  rwa [hget] at hfield

/-- The half of a choice that a segment names. -/
theorem half_of_half? {choice : Choice Field} {segment : String} {fields : FieldMap}
    (h : registry.Holds typePrefix address (partsOfChoice address choice))
    (hhalf : choice.half? segment = some fields) :
    ∃ shape, registry.Holds typePrefix (address ++ [Segment.structural segment])
      (partsOfFields (address ++ [Segment.structural segment]) fields ++
        [⟨address ++ [Segment.structural segment], shape⟩]) := by
  rw [Choice.half?] at hhalf
  split at hhalf
  · next hsegment =>
    cases hhalf
    rw [hsegment]
    exact ⟨_, h.primary⟩
  · split at hhalf
    · next hsegment =>
      cases hhalf
      rw [hsegment]
      exact ⟨_, h.items⟩
    · cases hhalf

/-- **A field that is held is held at every path inside.** -/
theorem exists_at {field found : Field} {path : Path}
    (h : registry.Holds typePrefix address (field.parts address))
    (hat : field.at? path = some found) :
    ∃ deeper : Address, deeper.path = address.path ++ path ∧
      registry.Holds typePrefix deeper (found.parts deeper) := by
  fun_induction Field.at? path field generalizing address with
  | case1 field =>
    cases hat
    exact ⟨address, (List.append_nil _).symm, h⟩
  | case2 name rest fields extra ih =>
    obtain ⟨field, hget, hrest⟩ := Option.bind_eq_some_iff.mp hat
    rw [Field.parts] at h
    obtain ⟨deeper, hpath, hheld⟩ := ih field (h.field_of_get? hget) hrest
    refine ⟨deeper, ?_, hheld⟩
    rw [hpath, Address.path_append, List.append_assoc]
    rfl
  | case3 name half key rest choices extra ih =>
    obtain ⟨field, hzone, hrest⟩ := Option.bind_eq_some_iff.mp hat
    obtain ⟨fields, hfields, hget⟩ := Option.bind_eq_some_iff.mp hzone
    obtain ⟨choice, hchoice, hhalf⟩ := Option.bind_eq_some_iff.mp hfields
    rw [Field.parts] at h
    have hheld := h.choice name
    rw [hchoice] at hheld
    obtain ⟨shape, hinside⟩ := half_of_half? hheld hhalf
    obtain ⟨deeper, hpath, hheld⟩ := ih field (hinside.field_of_get? hget) hrest
    refine ⟨deeper, ?_, hheld⟩
    rw [hpath, Address.path_append, Address.path_append, Address.path_append, List.append_assoc,
      List.append_assoc, List.append_assoc]
    rfl
  | case4 => cases hat

/-- **A thumbnail inside a field belongs to an image there.** -/
theorem image_at_of_thumbnail {field : Field} :
    ∀ {address : Address}, registry.Holds typePrefix address (field.parts address) →
      ∀ part ∈ field.parts address, part.shape = .thumbnail →
        ∃ path name thumbnails extra,
          part.path = address.path ++ path ++ [Registry.thumbnailsSegment, name] ∧
          field.at? path = some (.image thumbnails extra) := by
  -- the same for a record, given its fields
  have lift : ∀ {address : Address} {fields : FieldMap} {shape : Shape},
      (∀ field ∈ fields, ∀ {address : Address}, registry.Holds typePrefix address
        (field.2.parts address) →
        ∀ part ∈ field.2.parts address, part.shape = .thumbnail →
          ∃ path name thumbnails extra,
            part.path = address.path ++ path ++ [Registry.thumbnailsSegment, name] ∧
            field.2.at? path = some (.image thumbnails extra)) →
      registry.Holds typePrefix address (partsOfFields address fields ++ [⟨address, shape⟩]) →
        ∀ part ∈ partsOfFields address fields, part.shape = .thumbnail →
          ∃ key path name thumbnails extra,
            part.path = address.path ++ key :: path ++ [Registry.thumbnailsSegment, name] ∧
              (Keyed.get? key fields).bind (Field.at? path) = some (.image thumbnails extra) := by
    intro address fields shape ih h part hpart hthumbnail
    obtain ⟨field, hfield, hmem⟩ := mem_partsOfFields.mp hpart
    obtain ⟨path, name, thumbnails, extra, hpath, hat⟩ :=
      ih field hfield (h.field_of_mem hfield) part hmem hthumbnail
    have distinct : Keyed.Distinct fields := ((nodup_container_iff shape).mp h.nodup).1
    refine ⟨field.1, path, name, thumbnails, extra, ?_, ?_⟩
    · rw [hpath, Address.path_append, List.append_assoc _ _ path]
      rfl
    · rw [Keyed.get?_of_mem distinct hfield]
      exact hat
  induction field using Field.induction with
  | leaf kind extra =>
    intro address _ part hpart hthumbnail
    rw [Field.parts, List.mem_singleton] at hpart
    subst hpart
    cases hthumbnail
  | image thumbnails extra =>
    intro address _ part hpart hthumbnail
    rw [Field.parts, List.mem_cons, List.mem_map] at hpart
    rcases hpart with rfl | ⟨spec, hspec, rfl⟩
    · cases hthumbnail
    · refine ⟨[], spec.name, thumbnails, extra, ?_, rfl⟩
      rw [List.append_nil]
      exact Address.path_append _ _
  | group fields extra ih =>
    intro address h part hpart hthumbnail
    rw [Field.parts] at h hpart
    rcases List.mem_append.mp hpart with hpart | hpart
    · obtain ⟨key, path, name, thumbnails, extra, hpath, hat⟩ := lift ih h part hpart hthumbnail
      exact ⟨key :: path, name, thumbnails, extra, hpath, hat⟩
    · rw [List.mem_singleton] at hpart
      subst hpart
      cases hthumbnail
  | slices choices extra ih =>
    intro address h part hpart hthumbnail
    rw [Field.parts] at h hpart
    rcases List.mem_append.mp hpart with hpart | hpart
    · obtain ⟨choice, hchoice, hmem⟩ := mem_partsOfChoices.mp hpart
      have hheld := h.choice_of_mem hchoice
      have distinct : Keyed.Distinct choices := ((nodup_zone_iff _).mp h.nodup).1
      have hget := Keyed.get?_of_mem distinct hchoice
      -- a thumbnail of a half stands below the name of the choice and the segment of the half
      have inside : ∀ {segment : String} {fields : FieldMap}, choice.2.half? segment = some fields →
          (∃ key path name thumbnails extra, part.path =
              Address.path (address ++ [Segment.named choice.1] ++ [Segment.structural segment]) ++
                key :: path ++ [Registry.thumbnailsSegment, name] ∧
            (Keyed.get? key fields).bind (Field.at? path) = some (.image thumbnails extra)) →
          ∃ path name thumbnails extra',
            part.path = address.path ++ path ++ [Registry.thumbnailsSegment, name] ∧
            (Field.slices choices extra).at? path = some (.image thumbnails extra') := by
        rintro segment fields hhalf ⟨key, path, name, thumbnails, extra', hpath, hat⟩
        refine ⟨choice.1 :: segment :: key :: path, name, thumbnails, extra', ?_, ?_⟩
        · rw [hpath, Address.path_append, Address.path_append]
          simp
        · rw [Field.at?, hget, Option.bind_some, hhalf, Option.bind_some]
          exact hat
      rcases mem_partsOfChoice.mp hmem with (hmem | rfl) | (hmem | rfl) | rfl
      · exact inside rfl (lift (ih choice hchoice).1 hheld.primary part hmem hthumbnail)
      · cases hthumbnail
      · exact inside rfl (lift (ih choice hchoice).2 hheld.items part hmem hthumbnail)
      · cases hthumbnail
      · cases hthumbnail
    · rw [List.mem_singleton] at hpart
      subst hpart
      cases hthumbnail

end Registry.Holds

/-! ### Thumbnails of one image -/

variable {naming : TypeNaming} {id : String} {type : CustomType} {compiled : CompiledType}

/-- Thumbnails alone are registered as thumbnails. -/
theorem kind_entry_eq_imageThumbnail_iff {part : Part} :
    (part.entry typePrefix).kind = .imageThumbnail ↔ part.shape = .thumbnail := by
  obtain ⟨address, shape⟩ := part
  cases shape with
  | leaf kind => cases kind <;> simp [Part.entry, Part.registered, LeafKind.registered]
  | thumbnail => simp [Part.entry, Part.registered]
  | _ => simp [Part.entry, Part.registered]

theorem CustomType.at?_data (id : String) (type : CustomType) (name : String) (rest : Path) :
    type.at? id (id :: dataSegment :: name :: rest) =
      (Keyed.get? name type.dataFields).bind fun field => field.at? rest := by
  rw [CustomType.at?, if_pos ⟨rfl, rfl⟩]

/-- An image stands inside the data. -/
theorem CustomType.exists_of_at?_image {path : Path} {thumbnails : List ThumbnailSpec}
    {extra : ExtraMembers} (h : type.at? id path = some (.image thumbnails extra)) :
    ∃ name rest field, path = id :: dataSegment :: name :: rest ∧
      Keyed.get? name type.dataFields = some field ∧
      field.at? rest = some (.image thumbnails extra) := by
  unfold CustomType.at? at h
  split at h
  · next root key =>
    split at h
    · -- what stands beside the data is the identifier
      obtain ⟨field, hfilter, himage⟩ := Option.map_eq_some_iff.mp h
      have huid := List.find?_some (Option.filter_eq_some_iff.mp hfilter).1
      rw [himage] at huid
      cases huid
    · cases h
  · next root data name rest =>
    split at h
    · next hdata =>
      obtain ⟨field, hget, hat⟩ := Option.bind_eq_some_iff.mp h
      exact ⟨name, rest, field, by rw [hdata.1, hdata.2], hget, hat⟩
    · cases h
  · cases h

/-- A registered thumbnail stands below an image of the schema. -/
theorem image_at_of_mem_thumbnailNames (h : compile naming id type = .ok compiled) {path : Path}
    {name : String} (hname : name ∈ compiled.paths.thumbnailNames path) :
    ∃ thumbnails extra, type.at? id path = some (.image thumbnails extra) := by
  have hdata := holds_data h
  obtain ⟨part, hpart, hpath, hkind⟩ :=
    exists_part_of_kindAt? h (Registry.mem_thumbnailNames.mp hname)
  have hthumbnail := kind_entry_eq_imageThumbnail_iff.mp hkind
  rcases CustomType.mem_parts_cases hpart with ⟨name, rfl⟩ | ⟨field, hfield, hmem⟩ | rfl | rfl
  · cases hthumbnail
  · obtain ⟨more, spec, thumbnails, extra, hmore, hat⟩ :=
      Registry.Holds.image_at_of_thumbnail (hdata.field_of_mem hfield) part hmem hthumbnail
    have distinct : Keyed.Distinct type.dataFields := ((nodup_container_iff _).mp hdata.nodup).1
    have hsame : path = id :: dataSegment :: field.1 :: more := by
      rw [hpath] at hmore
      exact List.append_inj_left' hmore rfl
    refine ⟨thumbnails, extra, ?_⟩
    rw [hsame, CustomType.at?_data, Keyed.get?_of_mem distinct hfield]
    exact hat
  · cases hthumbnail
  · cases hthumbnail

/-- **The thumbnails found at a path** are those of the image there, in order, and none where there
is no image. -/
theorem thumbnailNames_compile (h : compile naming id type = .ok compiled) (path : Path) :
    (∀ thumbnails extra, type.at? id path = some (.image thumbnails extra) →
      compiled.paths.thumbnailNames path = thumbnails.map ThumbnailSpec.name) ∧
    ((∀ thumbnails extra, type.at? id path ≠ some (.image thumbnails extra)) →
      compiled.paths.thumbnailNames path = []) := by
  constructor
  · intro thumbnails extra hat
    obtain ⟨name, rest, field, rfl, hget, hrest⟩ := CustomType.exists_of_at?_image hat
    obtain ⟨deeper, hpath, hheld⟩ := ((holds_data h).field_of_get? hget).exists_at hrest
    have hnames := hheld.thumbnailNames_eq
    rwa [hpath] at hnames
  · intro hnone
    rw [List.eq_nil_iff_forall_not_mem]
    intro name hname
    obtain ⟨thumbnails, extra, hat⟩ := image_at_of_mem_thumbnailNames h hname
    exact hnone thumbnails extra hat

/-! ### All thumbnails -/

/-- The names of the thumbnails of an image; other fields have none. -/
def Field.thumbnailNames (field : Field) : List String := field.thumbnails.map ThumbnailSpec.name

/-- The thumbnail names of the images at any depth, in order and with repetitions. -/
def CustomType.thumbnailNames (type : CustomType) : List String :=
  type.nested.flatMap Field.thumbnailNames

/-- Registrations are read one after the other. -/
theorem registeredThumbnails_append (entries more : List PathEntry) :
    registeredThumbnails (entries ++ more) = registeredThumbnails entries ++
      registeredThumbnails more :=
  List.filterMap_append

/-- Parts that are no thumbnails name none. -/
theorem registeredThumbnails_of_forall {parts : List Part}
    (h : ∀ part ∈ parts, part.shape ≠ .thumbnail) :
    registeredThumbnails (parts.map (Part.entry typePrefix)) = [] := by
  rw [registeredThumbnails, List.filterMap_eq_nil_iff]
  intro entry hentry
  obtain ⟨part, hpart, rfl⟩ := List.mem_map.mp hentry
  rw [if_neg fun hkind => h part hpart (kind_entry_eq_imageThumbnail_iff.mp hkind)]

/-- Fields name the thumbnails that each of them names, wherever they stand. -/
theorem registeredThumbnails_fields {fields : FieldMap} (place : String × Field → Address)
    (h : ∀ field ∈ fields, ∀ address, registeredThumbnails
      ((field.2.parts address).map (Part.entry typePrefix)) =
      field.2.nested.flatMap Field.thumbnailNames) :
    registeredThumbnails ((fields.flatMap fun field => field.2.parts (place field)).map
      (Part.entry typePrefix)) =
      (nestedFields fields).flatMap Field.thumbnailNames := by
  induction fields with
  | nil => rfl
  | cons field rest ih =>
    rw [List.flatMap_cons, List.map_append, registeredThumbnails_append, h field List.mem_cons_self,
      ih fun other hother => h other (List.mem_cons_of_mem _ hother), nestedFields,
        List.flatMap_append]

/-- **The thumbnails registered for a field** are those of the images at any depth in it. -/
theorem registeredThumbnails_parts (field : Field) :
    ∀ address, registeredThumbnails ((field.parts address).map (Part.entry typePrefix)) =
      field.nested.flatMap Field.thumbnailNames := by
  -- a container names what stands before it
  have container : ∀ {parts : List Part} (address : Address) (shape : Shape), shape ≠ .thumbnail →
      registeredThumbnails ((parts ++ [(⟨address, shape⟩ : Part)]).map (Part.entry typePrefix)) =
        registeredThumbnails (parts.map (Part.entry typePrefix)) := by
    intro parts address shape hshape
    have hown :
        registeredThumbnails ([(⟨address, shape⟩ : Part)].map (Part.entry typePrefix)) = [] :=
      registeredThumbnails_of_forall (List.forall_mem_singleton.mpr hshape)
    rw [List.map_append, registeredThumbnails_append, hown, List.append_nil]
  induction field using Field.induction with
  | leaf kind extra =>
    intro address
    rw [Field.parts, registeredThumbnails_of_forall (List.forall_mem_singleton.mpr (by simp))]
    rfl
  | image thumbnails extra =>
    intro address
    rw [Field.parts, List.map_cons, registeredThumbnails, List.filterMap_cons_none rfl,
      List.map_map, List.filterMap_map, Field.nested, List.flatMap_singleton, Field.thumbnailNames,
      ← List.filterMap_eq_map]
    refine List.filterMap_congr fun spec _ => ?_
    show (Address.path (address ++ [Segment.structural "thumbnails", .named spec.name])).getLast? =
      some spec.name
    rw [Address.path_append, List.getLast?_append]
    rfl
  | group fields extra ih =>
    intro address
    rw [Field.parts, container address _ (by simp), partsOfFields_eq,
      registeredThumbnails_fields _ ih, Field.nested, List.flatMap_cons]
    rfl
  | slices choices extra ih =>
    intro address
    rw [Field.parts, container address _ (by simp), Field.nested, List.flatMap_cons]
    show _ = [] ++ _
    rw [List.nil_append]
    induction choices with
    | nil => rfl
    | cons choice rest ihRest =>
      obtain ⟨name, primary, items, more⟩ := choice
      have halves := ih _ List.mem_cons_self
      have hrest := ihRest fun other hother => ih other (List.mem_cons_of_mem _ hother)
      have hends : ∀ base, registeredThumbnails
          ([⟨base ++ [Segment.structural "items"], .items items⟩,
            (⟨base, .choice ⟨primary, items, more⟩⟩ : Part)].map
            (Part.entry typePrefix)) = [] := fun _ => registeredThumbnails_of_forall (by simp)
      have hchoice : ∀ base, registeredThumbnails ((partsOfChoice base ⟨primary, items, more⟩).map
          (Part.entry typePrefix)) = (nestedChoice ⟨primary, items, more⟩).flatMap
            Field.thumbnailNames := by
        intro base
        rw [partsOfChoice, List.map_append, registeredThumbnails_append, List.map_append,
          registeredThumbnails_append, container _ _ (by simp), hends base, List.append_nil,
          partsOfFields_eq, partsOfFields_eq, registeredThumbnails_fields _ halves.1,
          registeredThumbnails_fields _ halves.2, nestedChoice, List.flatMap_append]
      rw [partsOfChoices, List.map_append, registeredThumbnails_append, hchoice, hrest,
        nestedChoices, List.flatMap_append]

/-- **The registered thumbnails of a compiled type** are those of its images, in the order of the
schema. -/
theorem registeredThumbnails_compile (h : compile naming id type = .ok compiled) :
    registeredThumbnails compiled.paths.entries = type.thumbnailNames := by
  have hends : registeredThumbnails
      ([⟨[.named id, .structural "data"], .data type.dataFields⟩,
        (⟨[.named id], .document type.uid?⟩ : Part)].map
        (Part.entry naming.typePrefix)) = [] := registeredThumbnails_of_forall (by simp)
  rw [(compile_ok h).2, CustomType.parts, List.map_append, registeredThumbnails_append,
    registeredThumbnails_fields _ fun field _ => registeredThumbnails_parts field.2, hends,
    List.append_nil]
  rfl

/-- What is found for one image is registered. -/
theorem mem_registeredThumbnails {path : Path} {name : String}
    (h : name ∈ registry.thumbnailNames path) :
    name ∈ registeredThumbnails registry.entries := by
  obtain ⟨entry, hentry, hname⟩ := List.mem_filterMap.mp h
  obtain ⟨hkind, hpath⟩ := Registry.thumbnailName?_eq_some_iff.mp hname
  refine List.mem_filterMap.mpr ⟨entry, hentry, ?_⟩
  rw [if_pos hkind, hpath, List.getLast?_append]
  rfl

/-- A thumbnail that can be materialized is one of those found for its image. -/
theorem mem_thumbnailNames_of_mem_thumbnails {w : Walk} {path : Path}
    {members : List (String × Json)} {thumbnail : String × List (String × Json)}
    (h : thumbnail ∈ w.thumbnails path members) :
    thumbnail.1 ∈ w.paths.thumbnailNames path := by
  obtain ⟨name, hname, hfound⟩ := List.mem_filterMap.mp h
  split at hfound
  · cases hfound
    exact hname
  · cases hfound

/-- The type of thumbnails is an object of their distinct names, if there are any. -/
theorem thumbnailsType_eq (naming : TypeNaming) (entries : List PathEntry) :
    thumbnailsType naming entries =
      if registeredThumbnails entries = [] then
        .scalar { name := naming.shared .imageThumbnails, behavior := .alwaysNull }
      else
        .object
          { name := naming.shared .imageThumbnails
            fields := (registeredThumbnails entries).eraseDups.map fun name =>
              (name, .named (naming.shared .imageThumbnail)) } := by
  rw [thumbnailsType, firstOccurrences_eq_eraseDups]
  cases registeredThumbnails entries with
  | nil => rfl
  | cons name rest =>
    rw [List.eraseDups_cons]
    rfl

/-! ### Several custom types -/

/-- The registered thumbnails of several compiled types are those of their schemas, one after the
other. -/
theorem registeredThumbnails_flatMap {types : List (String × CustomType)}
    {compiled : List CompiledType}
    (h : List.Forall₂ (fun type result => ∃ policy, compile policy type.1 type.2 = .ok result)
      types compiled) :
    registeredThumbnails (compiled.flatMap fun result => result.paths.entries) =
      types.flatMap fun type => type.2.thumbnailNames := by
  induction h with
  | nil => rfl
  | cons hcompile _ ih =>
    obtain ⟨policy, hcompile⟩ := hcompile
    rw [List.flatMap_cons, registeredThumbnails_append, registeredThumbnails_compile hcompile, ih,
      List.flatMap_cons]

/-- **Thumbnails are found exactly.**  Of custom types that all compile, the type of thumbnails has
the distinct thumbnail names of all images of all schemas as its fields, in the order in which they
are discovered, and is a scalar exactly when no image has a thumbnail.  For each registry and every
path, the thumbnails found are those of the image at that path, and none where there is no image,
whatever fields, groups and choices are named.  So every thumbnail that can be materialized has its
field. -/
theorem thumbnails_found_exactly {types : List (String × CustomType)} {compiled : List CompiledType}
    (h : List.Forall₂ (fun type result => ∃ policy, compile policy type.1 type.2 = .ok result)
      types compiled) :
    let names := types.flatMap fun type => type.2.thumbnailNames
    let collected := thumbnailsType naming (compiled.flatMap fun result => result.paths.entries)
    (names ≠ [] → collected = .object
      { name := naming.shared .imageThumbnails
        fields := names.eraseDups.map fun name => (name,
          .named (naming.shared .imageThumbnail)) }) ∧
    (collected = .scalar { name := naming.shared .imageThumbnails, behavior := .alwaysNull } ↔
      ∀ type ∈ types, ∀ field ∈ type.2.nested, field.thumbnails = []) ∧
    List.Forall₂ (fun type result => ∀ path,
      (∀ thumbnails extra, type.2.at? type.1 path = some (.image thumbnails extra) →
        result.paths.thumbnailNames path = thumbnails.map ThumbnailSpec.name) ∧
      ((∀ thumbnails extra, type.2.at? type.1 path ≠ some (.image thumbnails extra)) →
        result.paths.thumbnailNames path = [])) types compiled ∧
    ∀ result ∈ compiled, ∀ w : Walk, w.paths = result.paths → ∀ path members,
      ∀ thumbnail ∈ w.thumbnails path members,
        ∃ object, collected = .object object ∧ thumbnail.1 ∈ Keyed.keys object.fields := by
  intro names collected
  have hcollected := thumbnailsType_eq naming (compiled.flatMap fun result => result.paths.entries)
  rw [registeredThumbnails_flatMap h] at hcollected
  have hobject : names ≠ [] → collected = .object
      { name := naming.shared .imageThumbnails
        fields := names.eraseDups.map fun name => (name,
          .named (naming.shared .imageThumbnail)) } :=
    fun hsome => hcollected.trans (if_neg hsome)
  refine ⟨hobject, ?_, h.imp fun _ _ ⟨_, hcompile⟩ => thumbnailNames_compile hcompile, ?_⟩
  · have hnone : names = [] ↔ ∀ type ∈ types, ∀ field ∈ type.2.nested, field.thumbnails = [] := by
      show (types.flatMap fun type => type.2.nested.flatMap Field.thumbnailNames) = [] ↔ _
      simp only [List.flatMap_eq_nil_iff, Field.thumbnailNames, List.map_eq_nil_iff]
    rw [← hnone]
    constructor
    · intro hscalar
      by_contra hsome
      rw [hobject hsome] at hscalar
      cases hscalar
    · exact fun hempty => hcollected.trans (if_pos hempty)
  · intro result hresult w hpaths path members thumbnail hthumbnail
    have hname : thumbnail.1 ∈ names := by
      have hfound := mem_thumbnailNames_of_mem_thumbnails hthumbnail
      rw [hpaths] at hfound
      show thumbnail.1 ∈ types.flatMap fun type => type.2.thumbnailNames
      rw [← registeredThumbnails_flatMap h]
      -- the entries of each compiled type are among those that are read
      obtain ⟨entry, hentry, hread⟩ := List.mem_filterMap.mp (mem_registeredThumbnails hfound)
      exact List.mem_filterMap.mpr ⟨entry, List.mem_flatMap.mpr ⟨result, hresult, hentry⟩, hread⟩
    refine ⟨_, hobject (List.ne_nil_of_mem hname), ?_⟩
    show thumbnail.1 ∈ (names.eraseDups.map fun name => (name, _)).map Prod.fst
    rw [List.map_map]
    exact List.mem_map.mpr ⟨thumbnail.1, List.mem_eraseDups.mpr hname, rfl⟩

/-- A custom type whose group, choice, image and thumbnail are named as the segment of
thumbnails. -/
def CustomType.namesakes : CustomType :=
  ⟨[("Main",
      [("thumbnails",
        .group [("thumbnails", .image [{ name := "thumbnails" }, { name := "small" }] [])] []),
        ("zone", .slices
          [("thumbnails",
            { primary := [("thumbnails", .image [{ name := "small" }, { name := "large" }] [])]
              items := []
              extra := [] })] [])])]⟩

/-- Two types with thumbnails in groups and in both halves of choices: each name has one field, and
below the group that is named as the segment of thumbnails none is found. -/
theorem thumbnails_found_exactly_gallery :
    ∃ page gallery, List.Forall₂ (fun type result => ∃ policy,
      compile policy type.1 type.2 = .ok result)
        [("page", CustomType.sample), ("gallery", CustomType.namesakes)] [page, gallery] ∧
      thumbnailsType {} (page.paths.entries ++ gallery.paths.entries) = .object
        { name := "PrismicImageThumbnailsType"
          fields := ["small", "items", "thumbnails", "large"].map fun name =>
            (name, .named "PrismicImageThumbnailType") } ∧
      gallery.paths.thumbnailNames ["gallery", "data", "thumbnails", "thumbnails"] =
        ["thumbnails", "small"] ∧
      gallery.paths.thumbnailNames ["gallery", "data", "thumbnails"] = [] ∧
      gallery.paths.thumbnailNames ["gallery", "data"] = [] := by
  obtain ⟨page, hpage⟩ := exists_compile_sample
  obtain ⟨gallery, hgallery⟩ : ∃ gallery, compile {} "gallery" .namesakes = .ok gallery :=
    exists_compile_iff.mpr (by decide)
  have h : List.Forall₂ (fun type result => ∃ policy, compile policy type.1 type.2 = .ok result)
      [("page", CustomType.sample), ("gallery", CustomType.namesakes)] [page, gallery] :=
    .cons ⟨_, hpage⟩ (.cons ⟨_, hgallery⟩ .nil)
  obtain ⟨hobject, -, hfound, -⟩ := @thumbnails_found_exactly {} _ _ h
  obtain ⟨-, hfound⟩ := List.forall₂_cons.mp hfound
  obtain ⟨hfound, -⟩ := List.forall₂_cons.mp hfound
  refine ⟨page, gallery, h, ?_, ?_, ?_, ?_⟩
  · have hentries : [page, gallery].flatMap (fun result => result.paths.entries) =
        page.paths.entries ++ gallery.paths.entries := by simp
    rw [← hentries, hobject (by decide)]
    rfl
  · exact (hfound ["gallery", "data", "thumbnails", "thumbnails"]).1 _ [] rfl
  · exact (hfound ["gallery", "data", "thumbnails"]).2 nofun
  · exact (hfound ["gallery", "data"]).2 nofun

end ContentGraph
