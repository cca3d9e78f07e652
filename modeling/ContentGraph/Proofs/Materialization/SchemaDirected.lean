import ContentGraph.Proofs.Compilation.Lookup
import ContentGraph.Proofs.Materialization.SchemaWalk

/-!
# The walk along a compiled registry

The registry of a compiled custom type replaces the schema: walking a document along it gives the
values that walking it along the schema gives.  Both walks descend the same document, and what keeps
them together is that the registry holds, below the path that the one has reached, the parts of the
field that the other has reached.

* `SchemaWalk.along` — the walk along a registry that goes with a walk along a schema;
* `HoldsFields` — what a registry holds below a record;
* `value_along`, `record_along`, `slice_along`, … — the two walks agree at every depth;
* `materialize_compile` — materialization along a compiled registry is materialization along the
  schema.
-/

namespace ContentGraph

variable {registry : Registry} {typePrefix : String} {address : Address}

/-- Below the address the registry holds the fields of a record, each under its name, and nothing
under other names. -/
def Registry.HoldsFields (registry : Registry) (typePrefix : String) (address : Address)
    (fields : FieldMap) : Prop :=
  ∀ name, registry.Holds typePrefix (address ++ [Segment.named name])
    (partsOfField? (address ++ [Segment.named name]) (Keyed.get? name fields))

/-- Below the address the registry holds the two halves of a choice. -/
structure Registry.HoldsHalves (registry : Registry) (typePrefix : String) (address : Address)
    (choice : Choice Field) : Prop where
  primary : registry.HoldsFields typePrefix (address ++ [Segment.structural "primary"])
    choice.primary
  items : registry.HoldsFields typePrefix (address ++ [Segment.structural "items"]) choice.items

/-- A choice of a zone is held, and so is the empty choice that takes the place of an unknown
one. -/
theorem holdsHalves_choiceOf {choices : List (String × Choice Field)} {shape : Shape}
    (h : registry.Holds typePrefix address (partsOfChoices address choices ++ [⟨address, shape⟩]))
    (name : String) :
    registry.HoldsHalves typePrefix (address ++ [Segment.named name])
      (SchemaWalk.choiceOf choices name) := by
  have hchoice := h.choice name
  rw [SchemaWalk.choiceOf]
  cases hget : Keyed.get? name choices with
  | none =>
    rw [hget] at hchoice
    exact ⟨fun key => (hchoice.nil _).nil _, fun key => (hchoice.nil _).nil _⟩
  | some choice =>
    rw [hget] at hchoice
    exact ⟨Registry.Holds.field (Registry.Holds.primary hchoice),
      Registry.Holds.field (Registry.Holds.items hchoice)⟩

namespace SchemaWalk

/-- The walk along a registry with the same environment and document. -/
def along (s : SchemaWalk) (registry : Registry) : Walk := ⟨s.env, registry, s.raw, s.nodeId⟩

variable {s : SchemaWalk}

@[simp] theorem along_paths : (s.along registry).paths = registry := rfl

/-! ### Single fields -/

/-- A failure is `null` in both walks. -/
theorem orDegrade_along (path : Path) (kind : PathKind) (result : Except FieldError Json) :
    ((s.along registry).orDegrade path kind result).value = orNull result := by
  cases result <;> rfl

theorem localFile_along (path : Path) (field : FieldContext) :
    ((s.along registry).localFile path field).value = s.storedFile field := by
  obtain ⟨env, raw, nodeId⟩ := s
  rw [along, Walk.localFile, storedFile]
  cases env.fetchFile with
  | none => rfl
  | some fetch =>
    cases field.value.getString? "url" with
    | none => rfl
    | some url =>
      cases env.normalizesImage field with
      | false => simp
      | true =>
        simp only [↓reduceIte]
        cases fetch ⟨Text.percentDecode url, nodeId⟩ <;> rfl

/-- Every thumbnail gets its own stored file. -/
theorem thumbnailFiles_along (path : Path) (key : String)
    (thumbnails : List (String × List (String × Json))) :
    ((s.along registry).thumbnailFiles path key thumbnails).value =
      thumbnails.map fun thumbnail => (thumbnail.1, .object (s.withFile key thumbnail.2)) := by
  induction thumbnails with
  | nil => rfl
  | cons thumbnail rest ih =>
    obtain ⟨name, inner⟩ := thumbnail
    rw [Walk.thumbnailFiles, Traced.both, ih, localFile_along]
    rfl

/-- The thumbnails that are found and present are those that are listed and present. -/
theorem thumbnails_along {thumbnails : List ThumbnailSpec} {extra : ExtraMembers}
    (h : registry.Holds typePrefix address ((Field.image thumbnails extra).parts address))
    (key : String) (members : List (String × Json)) :
    ((s.along registry).thumbnails address.path members).map
        (fun thumbnail => (thumbnail.1, Json.object (s.withFile key thumbnail.2))) =
      thumbnails.filterMap (s.thumbnail? key members) := by
  rw [Walk.thumbnails, along_paths, h.thumbnailNames_eq, List.filterMap_map, List.map_filterMap]
  refine List.filterMap_congr fun spec _ => ?_
  rw [Function.comp_apply, thumbnail?]
  cases Keyed.get? spec.name members with
  | none => rfl
  | some inner => cases inner <;> rfl

/-- **An image** has the same files along the registry. -/
theorem image_along {thumbnails : List ThumbnailSpec} {extra : ExtraMembers}
    (h : registry.Holds typePrefix address ((Field.image thumbnails extra).parts address))
    (key : String) (members : List (String × Json)) :
    ((s.along registry).image address.path key members).value = s.image key thumbnails members := by
  rw [Walk.image, Traced.both, thumbnailFiles_along, thumbnails_along h, localFile_along]
  rfl

/-- **A leaf** is materialized as its field says. -/
theorem leaf_along {field : Option Field}
    (h : registry.Holds typePrefix address (partsOfField? address field)) (key : String)
    (value : Json) :
    ((s.along registry).leaf address.path key value).value = s.leaf field key value := by
  unfold Walk.leaf
  rw [along_paths, h.kindAt?_eq]
  cases field with
  | none => rfl
  | some field =>
    cases field with
    | leaf kind extra =>
      cases kind with
      | structuredText => exact orDegrade_along _ _ _
      | link => exact orDegrade_along _ _ _
      | _ => rfl
    | image thumbnails extra =>
      cases value with
      | object members =>
        have himage :
            registry.Holds typePrefix address ((Field.image thumbnails extra).parts address) := h
        exact image_along himage key members
      | _ => rfl
    | group fields extra => rfl
    | slices choices extra => rfl

/-- A value is copied where nothing is registered or what is registered is passed through. -/
theorem value_passthrough {w : Walk} {path : Path}
    (h : ∀ kind, w.paths.kindAt? path = some kind → kind.isPassthrough = true) (key : String)
    (value : Json) : (w.value path key value).value = value := by
  have hleaf : (w.leaf path key value).value = value := by
    unfold Walk.leaf
    cases hkind : w.paths.kindAt? path with
    | none => rfl
    | some kind =>
      have hpass := h kind hkind
      cases kind <;> first | rfl | cases hpass
  cases value with
  | null => rfl
  | array elements =>
    rw [Walk.value]
    split
    · next hkind => cases h _ hkind
    · next hkind => cases h _ hkind
    · exact hleaf
  | object members =>
    rw [Walk.value]
    split
    · next hkind => cases h _ hkind
    · exact hleaf
  | _ => exact hleaf

/-! ### Records, groups and slices -/

/-- From a record to the value under a key: the two paths are one. -/
theorem path_key (address : Address) (key : String) :
    address.path ++ [key] = Address.path (address ++ [Segment.named key]) :=
  (Address.path_branch (fun _ => rfl) address key).symm

/-- From a choice to one of its halves likewise. -/
theorem path_half (address : Address) (half : String) :
    address.path ++ [half] = Address.path (address ++ [Segment.structural half]) :=
  (Address.path_branch (fun _ => rfl) address half).symm

/-- Data is not a field. -/
theorem pathKind_ne_data (field : Field) : field.pathKind ≠ .data := by
  cases field with
  | leaf kind extra => cases kind <;> exact PathKind.noConfusion
  | image thumbnails extra => exact PathKind.noConfusion
  | group fields extra => exact PathKind.noConfusion
  | slices choices extra => exact PathKind.noConfusion

mutual
/-- **A value** is the same along the registry, given the field that both walks have reached. -/
theorem value_along {address : Address} {field : Option Field}
    (h : registry.Holds typePrefix address (partsOfField? address field)) (key : String) :
    (value : Json) →
      ((s.along registry).value address.path key value).value = s.value field key value
  | .null => rfl
  | .bool b => leaf_along h key (.bool b)
  | .number n => leaf_along h key (.number n)
  | .string text => leaf_along h key (.string text)
  | .object members => by
    have hleaf := leaf_along (s := s) h key (.object members)
    rw [Walk.value, SchemaWalk.value, along_paths, h.kindAt?_eq]
    split
    · next hkind =>
      obtain ⟨field, rfl, hdata⟩ := Option.map_eq_some_iff.mp hkind
      exact absurd hdata (pathKind_ne_data field)
    · exact hleaf
  | .array elements => by
    have hleaf := leaf_along (s := s) h key (.array elements)
    rw [Walk.value, along_paths, h.kindAt?_eq]
    cases field with
    | none => exact hleaf
    | some field =>
      cases field with
      | leaf kind extra => cases kind <;> exact hleaf
      | image thumbnails extra => exact hleaf
      | group fields extra =>
        have hgroup :
            registry.Holds typePrefix address ((Field.group fields extra).parts address) := h
        rw [Field.parts] at hgroup
        exact congrArg Json.array (fieldRecords_along hgroup.field elements)
      | slices choices extra =>
        have hzone :
            registry.Holds typePrefix address ((Field.slices choices extra).parts address) := h
        rw [Field.parts] at hzone
        exact congrArg Json.array (slices_along hzone elements)
/-- **A record** is the same along the registry. -/
theorem record_along {address : Address} {fields : FieldMap}
    (h : registry.HoldsFields typePrefix address fields) :
    (members : List (String × Json)) →
      ((s.along registry).record address.path members).value = s.record fields members
  | [] => rfl
  | (key, member) :: rest => by
    have hmember := value_along (h key) key member
    have hrest := record_along h rest
    rw [Walk.record, SchemaWalk.record, Traced.both, hrest, path_key, hmember]
/-- **A field record** is the same along the registry. -/
theorem fieldRecord_along {address : Address} {fields : FieldMap}
    (h : registry.HoldsFields typePrefix address fields) :
    (element : Json) →
      ((s.along registry).fieldRecord address.path element).value = s.fieldRecord fields element
  | .object members => by
    rw [Walk.fieldRecord, SchemaWalk.fieldRecord, Traced.map, record_along h members]
    rfl
  | .null => rfl
  | .bool _ => rfl
  | .number _ => rfl
  | .string _ => rfl
  | .array _ => rfl
theorem fieldRecords_along {address : Address} {fields : FieldMap}
    (h : registry.HoldsFields typePrefix address fields) :
    (elements : List Json) →
      ((s.along registry).fieldRecords address.path elements).value = s.fieldRecords fields elements
  | [] => rfl
  | element :: rest => by
    rw [Walk.fieldRecords, SchemaWalk.fieldRecords, Traced.both, fieldRecord_along h element,
      fieldRecords_along h rest]
/-- **A slice** is the same along the registry, whether its choice is known or not. -/
theorem slice_along {address : Address} {choices : List (String × Choice Field)} {shape : Shape}
    (h : registry.Holds typePrefix address (partsOfChoices address choices ++ [⟨address, shape⟩])) :
    (element : Json) →
      ((s.along registry).slice address.path element).value = s.slice choices element
  | .object members => by
    rw [Walk.slice, SchemaWalk.slice]
    cases (Keyed.get? "slice_type" members).bind Json.asString? with
    | none => rfl
    | some name =>
      have hhalves := halves_along (holdsHalves_choiceOf h name) members
      exact congrArg Json.object (path_key address name ▸ hhalves)
  | .null => rfl
  | .bool _ => rfl
  | .number _ => rfl
  | .string _ => rfl
  | .array _ => rfl
theorem slices_along {address : Address} {choices : List (String × Choice Field)} {shape : Shape}
    (h : registry.Holds typePrefix address (partsOfChoices address choices ++ [⟨address, shape⟩])) :
    (elements : List Json) →
      ((s.along registry).slices address.path elements).value = s.slices choices elements
  | [] => rfl
  | element :: rest => by
    rw [Walk.slices, SchemaWalk.slices, Traced.both, slice_along h element, slices_along h rest]
/-- **The members of a slice** are the same along the registry. -/
theorem halves_along {address : Address} {choice : Choice Field}
    (h : registry.HoldsHalves typePrefix address choice) :
    (members : List (String × Json)) →
      ((s.along registry).halves address.path members).value = s.halves choice members
  | [] => rfl
  | (key, .object members) :: rest => by
    have hrest := halves_along h rest
    rw [Walk.halves, SchemaWalk.halves, Traced.both, hrest]
    by_cases hkey : key = "primary"
    · subst hkey
      have hrecord := record_along h.primary members
      rw [← path_half] at hrecord
      simp only [↓reduceIte, Traced.map, hrecord]
      rfl
    · simp only [if_neg hkey]
  | (key, .array elements) :: rest => by
    have hrest := halves_along h rest
    rw [Walk.halves, SchemaWalk.halves, Traced.both, hrest]
    by_cases hkey : key = "items"
    · subst hkey
      have hrecords := fieldRecords_along h.items elements
      rw [← path_half] at hrecords
      simp only [↓reduceIte, Traced.map, hrecords]
    · simp only [if_neg hkey]
  | (key, .null) :: rest => congrArg (List.cons (key, Json.null)) (halves_along h rest)
  | (key, .bool b) :: rest => congrArg (List.cons (key, Json.bool b)) (halves_along h rest)
  | (key, .number n) :: rest => congrArg (List.cons (key, Json.number n)) (halves_along h rest)
  | (key, .string text) :: rest =>
    congrArg (List.cons (key, Json.string text)) (halves_along h rest)
end

/-! ### Documents -/

variable {naming : TypeNaming} {id : String} {type : CustomType} {compiled : CompiledType}

/-- **The data of a document** is a field record over the fields inside the data. -/
theorem data_along (h : compile naming id type = .ok compiled) (data : Json) :
    ((s.along compiled.paths).value [id, "data"] "data" data).value =
      s.fieldRecord type.dataFields data := by
  have hholds := holds_data h
  have hkind : (s.along compiled.paths).paths.kindAt? [id, "data"] = some .data := by
    rw [along_paths, Registry.kindAt?]
    exact congrArg (Option.map PathEntry.kind) (hholds.get?_eq (rooted_container _ _ _))
  have hleaf (value : Json) :
      ((s.along compiled.paths).leaf [id, "data"] "data" value).value = value := by
    unfold Walk.leaf
    rw [hkind]
  cases data with
  | null => rfl
  | bool b => exact hleaf (.bool b)
  | number n => exact hleaf (.number n)
  | string text => exact hleaf (.string text)
  | array elements =>
    rw [Walk.value, hkind]
    exact hleaf (.array elements)
  | object members =>
    rw [Walk.value, hkind]
    have hfields : compiled.paths.HoldsFields naming.typePrefix [.named id, .structural "data"]
        type.dataFields := hholds.field
    exact fieldRecord_along hfields (.object members)

/-- A member of a document: its data is descended, all else is copied. -/
theorem member_along (h : compile naming id type = .ok compiled) (key : String) (member : Json) :
    ((s.along compiled.paths).value [id, key] key member).value =
      if key = "data" then s.fieldRecord type.dataFields member else member := by
  by_cases hkey : key = "data"
  · subst hkey
    rw [if_pos rfl]
    exact data_along h member
  · rw [if_neg hkey]
    refine value_passthrough (fun kind hkind => ?_) key member
    rcases (kindAt?_top h hkind).2 with hdata | rfl
    · exact absurd hdata hkey
    · rfl

/-- **A document** of the compiled type has the members that its schema says. -/
theorem document_along (h : compile naming id type = .ok compiled)
    (members : List (String × Json)) :
    ((s.along compiled.paths).record [id] members).value = s.document type members := by
  induction members with
  | nil => rfl
  | cons member rest ih =>
    obtain ⟨key, member⟩ := member
    rw [Walk.record, Traced.both, ih, List.singleton_append, member_along h]
    rfl

/-- **A document of another type** is copied. -/
theorem document_other (h : compile naming id type = .ok compiled) {found : String}
    (hfound : found ≠ id) (members : List (String × Json)) :
    ((s.along compiled.paths).record [found] members).value = members := by
  induction members with
  | nil => rfl
  | cons member rest ih =>
    obtain ⟨key, member⟩ := member
    have hmember : ((s.along compiled.paths).value [found, key] key member).value = member :=
      value_passthrough (fun kind hkind => absurd (kindAt?_top h hkind).1 hfound) key member
    rw [Walk.record, Traced.both, ih, List.singleton_append, hmember]

end SchemaWalk

/-! ### Materialization -/

variable {naming : TypeNaming} {id : String} {type : CustomType} {compiled : CompiledType}

/-- **The registry replaces the schema.**  Along the registry of a compiled custom type every
document has the node id and becomes the document that the walk along the schema gives; what is no
document fails alike. -/
theorem materialize_compile (h : compile naming id type = .ok compiled) (env : Environment)
    (raw : Json) :
    (materialize env compiled.paths raw).map (fun result => (result.nodeId, result.document)) =
      materializeBySchema env id type raw := by
  cases raw with
  | object members =>
    rw [materialize, materializeBySchema]
    cases (Keyed.get? "type" members).bind Json.asString? with
    | none => rfl
    | some found =>
      dsimp only
      generalize env.nodeId found (((Keyed.get? "id" members).bind Json.asString?).getD "") = nodeId
      have hmembers :
          (Walk.record ⟨env, compiled.paths, .object members, nodeId⟩ [found] members).value =
          if found = id then SchemaWalk.document ⟨env, .object members, nodeId⟩ type members
          else members := by
        by_cases hfound : found = id
        · subst hfound
          rw [if_pos rfl]
          exact SchemaWalk.document_along (s := ⟨env, .object members, nodeId⟩) h members
        · rw [if_neg hfound]
          exact SchemaWalk.document_other (s := ⟨env, .object members, nodeId⟩) h hfound members
      exact congrArg (fun members => Except.ok (nodeId, Json.object members)) hmembers
  | _ => rfl

/-- A page of the sample with a known and an unknown choice, and a member that no field names. -/
theorem materialize_compile_sample :
    ∃ compiled, compile {} "page" .sample = .ok compiled ∧
      (materialize
          { nodeId := fun type id => type ++ " " ++ id,
            renameField := fun name => "my_" ++ name }
          compiled.paths
          (.object
            [("id", .string "x1"), ("type", .string "page"), ("uid", .string "about"),
              ("data", .object
                [("body", .array
                  [.object
                    [("slice_type", .string "quote"),
                      ("primary", .object
                        [("primary",
                          .array [.object [("data", .object [("url", .string "/a")])]])]),
                      ("items", .array [.object [("photo", .object [("small", .object [])])]])],
                    .object [("slice_type", .string "other"),
                      ("primary", .object [("data", .null)])]]),
                  ("note", .bool true)])])).map
          (fun result => (result.nodeId, result.document)) =
        .ok ("page x1", .object
          [("id", .string "x1"), ("type", .string "page"), ("uid", .string "about"),
            ("data", .object
              [("my_body", .array
                [.object
                  [("slice_type", .string "quote"),
                    ("primary", .object
                      [("my_primary", .array [.object [("my_data", .object
                        [("url", .string "/a"), ("document", .null),
                          ("raw", .object [("url", .string "/a")])])]])]),
                    ("items", .array [.object [("my_photo", .object
                      [("small", .object [("localFile", .null)]), ("localFile", .null)])]])],
                  .object [("slice_type", .string "other"),
                    ("primary", .object [("my_data", .null)])]]),
                ("my_note", .bool true)])]) := by
  obtain ⟨compiled, h⟩ := exists_compile_sample
  exact ⟨compiled, h, (materialize_compile h _ _).trans (by decide)⟩

end ContentGraph
