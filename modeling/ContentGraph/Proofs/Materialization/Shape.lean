import ContentGraph.Proofs.Materialization.Images
import ContentGraph.Proofs.Materialization.Walked

/-!
# Materialization keeps shapes

Whatever a registry says, a materialized document has the shape of the raw one: records have the
exposed names of their fields in the same order, lists have their length, and a value that is not
what its kind asks for is copied.

* `Kept` — what a walked value and the value in its place have to do with each other;
* `Walk.kept_value` — the value that the walk makes is such a one;
* `materialize_keeps_shape` — so it is at every location of every document.
-/

namespace ContentGraph

/-! ### What is kept -/

/-- A record has the exposed names of its fields, in the same order. -/
def RecordKept (rename : String → String) (members : List (String × Json)) (out : Json) : Prop :=
  ∃ outs, out = .object outs ∧ Keyed.keys outs = exposedNames rename members

/-- An element of a group or of a slice's items: a record, or copied when it is no object. -/
def ElementKept (rename : String → String) : Json → Json → Prop
  | .object members, out => RecordKept rename members out
  | element, out => out = element

/-- A member of a slice: its name stays, its halves hold records, and what is neither is copied. -/
def HalfKept (rename : String → String) (half out : String × Json) : Prop :=
  out.1 = half.1 ∧
    match half.2 with
    | .object members =>
      if half.1 = "primary" then RecordKept rename members out.2 else out.2 = half.2
    | .array items =>
      if half.1 = "items" then
        ∃ outs, out.2 = .array outs ∧ List.Forall₂ (ElementKept rename) items outs
      else out.2 = half.2
    | _ => out.2 = half.2

/-- A slice: an object with a choice keeps its members in order, anything else is copied. -/
def SliceKept (rename : String → String) : Json → Json → Prop
  | .object slice, out =>
    match (Keyed.get? "slice_type" slice).bind Json.asString? with
    | some _ => ∃ outs, out = .object outs ∧ List.Forall₂ (HalfKept rename) slice outs
    | none => out = .object slice
  | element, out => out = element

/-- The place of a stored file holds its id or nothing. -/
def IsFile (file : Json) : Prop := file = .null ∨ ∃ id, file = .string id

/-- An image has its members in order and a stored file, put in place or at the end; its thumbnails
have stored files of their own, and all other members are copied. -/
def ImageKept (registry : Registry) (path : Path) (members : List (String × Json))
    (out : Json) : Prop :=
  ∃ file outs, IsFile file ∧ out = .object outs ∧
    Keyed.keys outs = Keyed.keys (Keyed.set "localFile" file members) ∧
    ∀ name, match registry.thumbnail? path members name with
      | some inner => ∃ file, IsFile file ∧
          Keyed.get? name outs = some (.object (Keyed.set "localFile" file inner))
      | none => Keyed.get? name outs = Keyed.get? name (Keyed.set "localFile" file members)

/-- What a walked value and the value in its place have to do with each other.  The fields of the
records inside are walked values themselves. -/
def Kept (registry : Registry) (rename : String → String) (path : Path) (value out : Json) : Prop :=
  match registry.kindAt? path, value with
  | _, .null => out = .null
  | some .structuredText, .array blocks =>
    out = .null ∨
      ∃ html text, out = .object [("html", .string html), ("text", .string text),
        ("raw", .array blocks)]
  | some .structuredText, _ => out = .null
  | some .link, .object members =>
    out = .null ∨
      ∃ url document, out = .object (Keyed.set "raw" (.object members)
        (Keyed.set "document" (Link.textOrNull document)
          (Keyed.set "url" (Link.textOrNull url) members)))
  | some .link, _ => out = .null
  | some .image, .object members => ImageKept registry path members out
  | some .data, .object members => RecordKept rename members out
  | some .group, .array elements =>
    ∃ outs, out = .array outs ∧ List.Forall₂ (ElementKept rename) elements outs
  | some .slices, .array elements =>
    ∃ outs, out = .array outs ∧ List.Forall₂ (SliceKept rename) elements outs
  | _, value => out = value

/-! ### Single fields -/

namespace Walk

variable {w : Walk} {path : Path} {key : String}

theorem isFile_localFile (w : Walk) (path : Path) (field : FieldContext) :
    IsFile (w.localFile path field).value := by
  rw [localFile]
  split
  · split
    · dsimp only
      split
      · exact .inr ⟨_, rfl⟩
      · exact .inl rfl
    · exact .inl rfl
  · exact .inl rfl

/-- A materialized rich text that is there has its raw form in it. -/
theorem kept_text (w : Walk) (path : Path) (key : String) (blocks : List Json) :
    let out :=
  (w.orDegrade path .structuredText (RichText.materialize w.env ⟨key, .array blocks,
    w.document⟩)).value
    out = .null ∨
      ∃ html text, out = .object [("html", .string html), ("text", .string text),
        ("raw", .array blocks)] := by
  simp only [RichText.materialize]
  split
  · exact .inl rfl
  · exact .inr ⟨_, _, rfl⟩

/-- A materialized link that is there has its members, its address, its document and its raw
form. -/
theorem kept_link (w : Walk) (path : Path) (key : String) (members : List (String × Json)) :
    let out :=
  (w.orDegrade path .link (Link.materialize w.env ⟨key, .object members, w.document⟩)).value
    out = .null ∨
      ∃ url document, out = .object (Keyed.set "raw" (.object members)
        (Keyed.set "document" (Link.textOrNull document)
          (Keyed.set "url" (Link.textOrNull url) members))) := by
  simp only [Link.materialize]
  split
  · exact .inl rfl
  · exact .inr ⟨_, _, rfl⟩

/-- **An image** keeps its members. -/
theorem kept_image (w : Walk) (path : Path) (key : String) (members : List (String × Json)) :
    ImageKept w.paths path members (w.image path key members).value := by
  have hfile := isFile_localFile w path ⟨key, .object members, w.document⟩
  rw [image_value]
  generalize (w.localFile path ⟨key, .object members, w.document⟩).value = file at hfile
  refine ⟨file, _, hfile, rfl, Keyed.keys_setAll fun name hname =>
    mem_keys_of_storedThumbnails hname file, ?_⟩
  intro name
  rw [Keyed.get?_setAll (distinct_storedThumbnails w path key members), get?_storedThumbnails]
  cases w.paths.thumbnail? path members name with
  | some inner => exact ⟨_, isFile_localFile w _ _, rfl⟩
  | none => rfl

/-! ### Records, groups and slices -/

/-- An object that is walked as a record keeps its names. -/
theorem kept_record {below : Path} {members : List (String × Json)}
    (apart : (exposedNames w.env.renameField members).Nodup) :
    RecordKept w.env.renameField members (.object (w.renamed (w.record below members).value)) := by
  refine ⟨_, rfl, ?_⟩
  rw [renamed_record apart, Keyed.keys, List.map_map]
  rfl

theorem kept_element {below : Path} {element : Json}
    (apart : ∀ members, element = .object members →
      (exposedNames w.env.renameField members).Nodup) :
    ElementKept w.env.renameField element (w.fieldRecord below element).value := by
  cases element with
  | object members => exact kept_record (apart members rfl)
  | _ => rfl

theorem kept_elements {below : Path} {elements : List Json}
    (apart : ∀ element ∈ elements, ∀ members, element = .object members →
      (exposedNames w.env.renameField members).Nodup) :
    List.Forall₂ (ElementKept w.env.renameField) elements
      (w.fieldRecords below elements).value := by
  rw [fieldRecords_value, List.forall₂_map_right_iff, List.forall₂_same]
  intro element helement
  exact kept_element (apart element helement)

theorem kept_half {choice : Path} {key : String} {half : Json}
    (primary : key = "primary" → ∀ members, half = .object members →
      (exposedNames w.env.renameField members).Nodup)
    (items : key = "items" → ∀ elements, half = .array elements → ∀ element ∈ elements,
      ∀ members, element = .object members →
        (exposedNames w.env.renameField members).Nodup) :
    HalfKept w.env.renameField (key, half) (key, (w.half choice key half).value) := by
  refine ⟨rfl, ?_⟩
  cases half with
  | object members =>
    by_cases hkey : key = "primary"
    · simp only [Walk.half, if_pos hkey]
      exact kept_record (primary hkey members rfl)
    · simp only [Walk.half, if_neg hkey]
  | array elements =>
    by_cases hkey : key = "items"
    · simp only [Walk.half, if_pos hkey]
      exact ⟨_, rfl, kept_elements (items hkey elements rfl)⟩
    · simp only [Walk.half, if_neg hkey]
  | _ => rfl

theorem kept_slice {elements : List Json} {element : Json}
    (kind : w.paths.kindAt? path = some .slices) (helement : element ∈ elements)
    (wf : element.WellFormed) (apart : ∀ inner below members,
      w.paths.RecordIn path (.array elements) inner below members →
      (exposedNames w.env.renameField members).Nodup) :
    SliceKept w.env.renameField element (w.slice path element).value := by
  obtain ⟨index, hindex⟩ := List.mem_iff_getElem?.mp helement
  cases element with
  | object slice =>
    cases htype : (Keyed.get? "slice_type" slice).bind Json.asString? with
    | none => simp only [SliceKept, Walk.slice, htype]
    | some choice =>
      have hhalves : List.Forall₂ (HalfKept w.env.renameField) slice
          (slice.map fun member => (member.1,
            (w.half (path ++ [choice]) member.1 member.2).value)) := by
        rw [List.forall₂_map_right_iff, List.forall₂_same]
        rintro ⟨key, half⟩ hmember
        have hget : Keyed.get? key slice = some half := Keyed.get?_of_mem wf.distinct hmember
        refine kept_half ?_ ?_
        · rintro rfl members rfl
          exact apart _ _ _ (.primary kind hindex htype hget)
        · rintro rfl items rfl item hitem members rfl
          obtain ⟨place, hplace⟩ := List.mem_iff_getElem?.mp hitem
          exact apart _ _ _ (.item kind hindex htype hget hplace)
      rw [slice_value htype]
      simp only [SliceKept, htype]
      exact ⟨_, rfl, hhalves⟩
  | _ => rfl

/-! ### Values that their kinds do not ask for -/

theorem value_of_no_text {value : Json} (kind : w.paths.kindAt? path = some .structuredText)
    (hnull : value ≠ .null) (harray : ∀ blocks, value ≠ .array blocks) :
    (w.value path key value).value = .null := by
  cases value with
  | null => exact absurd rfl hnull
  | array blocks => exact absurd rfl (harray blocks)
  | _ => simp only [Walk.value, kind, leaf, RichText.materialize, orDegrade, degrade]

theorem value_of_no_link {value : Json} (kind : w.paths.kindAt? path = some .link)
    (hnull : value ≠ .null) (hobject : ∀ members, value ≠ .object members) :
    (w.value path key value).value = .null := by
  cases value with
  | null => exact absurd rfl hnull
  | object members => exact absurd rfl (hobject members)
  | _ => simp only [Walk.value, kind, leaf, Link.materialize, orDegrade, degrade]

theorem leaf_copied {value : Json} (text : w.paths.kindAt? path ≠ some .structuredText)
    (link : w.paths.kindAt? path ≠ some .link)
    (image : ∀ members, w.paths.kindAt? path = some .image → value ≠ .object members) :
    (w.leaf path key value).value = value := by
  unfold leaf
  split
  · next kind => exact absurd kind text
  · next kind => exact absurd kind link
  · next kind =>
    split
    · next members => exact absurd rfl (image members kind)
    · rfl
  · rfl

theorem value_copied {value : Json} (h : (w.leaf path key value).value = value)
    (data : ∀ members, w.paths.kindAt? path = some .data → value ≠ .object members)
    (group : ∀ elements, w.paths.kindAt? path = some .group → value ≠ .array elements)
    (slices : ∀ elements, w.paths.kindAt? path = some .slices → value ≠ .array elements) :
    (w.value path key value).value = value := by
  cases value with
  | null => rfl
  | object members =>
    rw [Walk.value]
    split
    · next kind => exact absurd rfl (data members kind)
    · exact h
  | array elements =>
    rw [Walk.value]
    split
    · next kind => exact absurd rfl (group elements kind)
    · next kind => exact absurd rfl (slices elements kind)
    · exact h
  | _ => exact h

/-- **A walked value is kept** as its kind asks for. -/
theorem kept_value {value : Json} (wf : value.WellFormed)
    (apart : ∀ inner below members, w.paths.RecordIn path value inner below members →
      (exposedNames w.env.renameField members).Nodup) :
    Kept w.paths w.env.renameField path value (w.value path key value).value := by
  unfold Kept
  split
  · rfl
  · next blocks kind =>
    simp only [Walk.value, kind, leaf]
    exact kept_text w path key blocks
  · next kind hnull harray => exact value_of_no_text kind hnull harray
  · next members kind =>
    simp only [Walk.value, kind, leaf]
    exact kept_link w path key members
  · next kind hnull hobject => exact value_of_no_link kind hnull hobject
  · next members kind =>
    simp only [Walk.value, kind, leaf]
    exact kept_image w path key members
  · next members kind =>
    simp only [Walk.value, kind, Traced.map]
    exact kept_record (apart _ _ _ (.data kind))
  · next elements kind =>
    simp only [Walk.value, kind, Traced.map]
    refine ⟨_, rfl, kept_elements ?_⟩
    rintro element helement members rfl
    obtain ⟨index, hindex⟩ := List.mem_iff_getElem?.mp helement
    exact apart _ _ _ (.element kind hindex)
  · next elements kind =>
    simp only [Walk.value, kind, Traced.map]
    refine ⟨_, rfl, ?_⟩
    rw [slices_value, List.forall₂_map_right_iff, List.forall₂_same]
    exact fun element helement => kept_slice kind helement (wf.element helement) apart
  · next htext hlink _ _ himage hdata hgroup hslices =>
    exact value_copied (leaf_copied htext hlink himage) hdata hgroup hslices

end Walk

/-! ### Documents -/

/-- **Shapes are kept.**  Along any registry, a well-formed document with a type is materialized, if
the names of no field record are merged.  Its members keep their names and their order, and in the
place of every walked value stands one that keeps its shape. -/
theorem materialize_keeps_shape {env : Environment} {registry : Registry} {raw : Json}
    {members : List (String × Json)} {type : String} (wf : raw.WellFormed)
    (object : raw = .object members) (type_eq : raw.getString? "type" = some type)
    (apart : registry.KeepsApart env.renameField raw) :
    ∃ result outs, materialize env registry raw = .ok result ∧ result.document = .object outs ∧
      Keyed.keys outs = Keyed.keys members ∧
      ∀ location path key value, registry.Walked raw location path key value →
        ∃ out, result.document.at? (location.exposed env.renameField) = some out ∧
          Kept registry env.renameField path value out := by
  obtain ⟨result, hresult, -, hdocument⟩ := materialize_eq env registry type_eq
  subst object
  let w : Walk :=
    ⟨env, registry, .object members, env.nodeId type ((Json.object members).getText "id")⟩
  refine ⟨result, (w.record [type] members).value, hresult, hdocument, ?_, ?_⟩
  · rw [Walk.record_value, Keyed.keys, List.map_map]
    rfl
  · intro location path key value walked
    have hplace : result.document.at? (location.exposed env.renameField) =
        some (w.value path key value).value := by
      rw [hdocument]
      exact Walk.at?_of_walked walked type_eq (apart.to location)
    refine ⟨_, hplace, Walk.kept_value (w := w) (wf.at? walked.at?_eq) ?_⟩
    intro inner below members record
    exact apart _ below members ⟨_, _, _, _, _, walked, record, rfl⟩

/-- A page whose fields are exposed under longer names, down to the link in an item of a slice. -/
theorem materialize_keeps_shape_page :
    let rename := fun name => "my_" ++ name
    let author := Json.object [("url", .string "/a")]
    let env : Environment := { nodeId := fun type id => type ++ id, renameField := rename }
    (pageWithAuthor author).WellFormed ∧ (pageWithAuthor author).getString? "type" = some "page" ∧
      pageRegistry.KeepsApart rename (pageWithAuthor author) ∧
      ∃ result outs, materialize env pageRegistry (pageWithAuthor author) = .ok result ∧
        result.document = .object outs ∧ Keyed.keys outs = ["id", "type", "data"] ∧
        ∃ out, result.document.at? [.member "data", .field "my_body", .element 0, .member "items",
            .element 0, .field "my_author"] = some out ∧
          Kept pageRegistry rename ["page", "data", "body", "quote", "items",
            "author"] author out := by
  intro rename author env
  have wf : (pageWithAuthor author).WellFormed :=
    wellFormed_pageWithAuthor (by simp [author, Json.WellFormed, Json.WellFormedMembers,
      Keyed.Distinct])
  have apart : pageRegistry.KeepsApart rename (pageWithAuthor author) :=
    pageRegistry.keepsApart_of_injective wf fun a b h => (String.append_right_inj "my_").mp h
  obtain ⟨_, _, _, _, _, walked, record, hlocation⟩ := fieldRecord_item author
  have hauthor :=
    walked.field record (show Keyed.get? "author" [("author", author)] = some author from rfl)
  rw [← hlocation] at hauthor
  obtain ⟨result, outs, hresult, hdocument, hkeys, hkept⟩ :=
    @materialize_keeps_shape env _ _ _ _ wf rfl rfl apart
  exact ⟨wf, rfl, apart, result, outs, hresult, hdocument, hkeys, hkept _ _ _ _ hauthor⟩

end ContentGraph
