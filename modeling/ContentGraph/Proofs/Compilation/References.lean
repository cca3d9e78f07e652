import ContentGraph.Proofs.Compilation.Lookup
import ContentGraph.Proofs.Declaration.Stored
import ContentGraph.Proofs.Collection.Resolution

/-!
# What compiled declarations refer to

A compiled declaration has fields with distinct names, and each field refers to a built-in scalar,
to a shared type or to the type generated for another part.  Generated names, in turn, are made of
the id and of the names of groups, slice zones and choices; the names of all other fields leave no
trace in them.

* `mem_subtree_and_subset`, `subtree_subset` — what stands below a part belongs to the custom type;
* `CustomType.containerNames` — the names of groups, slice zones and choices at any depth;
* `forall_names_of_mem_parts` — the named segments of a part that a type is generated for;
* `Refers` with `refers_compile` — what the fields of compiled declarations refer to;
* `distinct_compile` — the fields of compiled declarations have distinct names.
-/

namespace ContentGraph

variable {naming : TypeNaming} {id : String} {type : CustomType} {compiled : CompiledType}

/-! ### What stands below a part -/

/-- A part of a field stands in what stands below it, and all of that belongs to the field. -/
theorem mem_subtree_and_subset {field : Field} :
    ∀ {address : Address}, ∀ part ∈ field.parts address, part ∈ part.subtree ∧
      part.subtree ⊆ field.parts address := by
  -- the same for the fields of a record, given each
  have lift : ∀ {address : Address} {fields : FieldMap},
      (∀ field ∈ fields, ∀ {address : Address}, ∀ part ∈ field.2.parts address,
        part ∈ part.subtree ∧ part.subtree ⊆ field.2.parts address) →
      ∀ part ∈ partsOfFields address fields, part ∈ part.subtree ∧
      part.subtree ⊆ partsOfFields address fields := by
    intro address fields ih part hpart
    obtain ⟨field, hfield, hmem⟩ := mem_partsOfFields.mp hpart
    obtain ⟨hown, hsubset⟩ := ih field hfield part hmem
    exact ⟨hown, fun inner hinner => mem_partsOfFields.mpr ⟨field, hfield, hsubset hinner⟩⟩
  have own : ∀ {part : Part} {parts : List Part}, part ∈ parts ++ [part] := by simp
  induction field using Field.induction with
  | leaf kind extra =>
    intro address part hpart
    rw [Field.parts, List.mem_singleton] at hpart
    subst hpart
    exact ⟨List.mem_cons_self, List.Subset.refl _⟩
  | image thumbnails extra =>
    intro address part hpart
    rw [Field.parts] at hpart ⊢
    rcases List.mem_cons.mp hpart with rfl | hmem
    · have hsame : Part.subtree ⟨address, .image thumbnails⟩ =
          (Field.image thumbnails []).parts address := rfl
      rw [hsame, Field.parts]
      exact ⟨List.mem_cons_self, List.Subset.refl _⟩
    · obtain ⟨spec, -, rfl⟩ := List.mem_map.mp hmem
      refine ⟨List.mem_cons_self, fun inner hinner => ?_⟩
      rw [Part.subtree, List.mem_singleton] at hinner
      exact hinner ▸ hpart
  | group fields extra ih =>
    intro address part hpart
    rw [Field.parts] at hpart ⊢
    rcases List.mem_append.mp hpart with hmem | hmem
    · obtain ⟨hown, hsubset⟩ := lift ih part hmem
      exact ⟨hown, fun inner hinner => List.mem_append_left _ (hsubset hinner)⟩
    · rw [List.mem_singleton] at hmem
      subst hmem
      exact ⟨own, List.Subset.refl _⟩
  | slices choices extra ih =>
    intro address part hpart
    rw [Field.parts] at hpart ⊢
    rcases List.mem_append.mp hpart with hmem | hmem
    · obtain ⟨choice, hchoice, hmem⟩ := mem_partsOfChoices.mp hmem
      have hzone :
          ∀ {inner : Part}, inner ∈ partsOfChoice (address ++ [Segment.named choice.1]) choice.2 →
          inner ∈ partsOfChoices address choices ++ [⟨address, .slices choices⟩] :=
        fun hinner => List.mem_append_left _ (mem_partsOfChoices.mpr ⟨choice, hchoice, hinner⟩)
      have hwhole := hmem
      rcases mem_partsOfChoice.mp hmem with (hmem | rfl) | (hmem | rfl) | rfl
      · obtain ⟨hown, hsubset⟩ := lift (ih choice hchoice).1 part hmem
        exact ⟨hown, fun inner hinner =>
          hzone (mem_partsOfChoice.mpr (Or.inl (Or.inl (hsubset hinner))))⟩
      · refine ⟨own, fun inner hinner => hzone (mem_partsOfChoice.mpr (Or.inl ?_))⟩
        rwa [Part.subtree, List.mem_append, List.mem_singleton] at hinner
      · obtain ⟨hown, hsubset⟩ := lift (ih choice hchoice).2 part hmem
        exact ⟨hown, fun inner hinner =>
          hzone (mem_partsOfChoice.mpr (Or.inr (Or.inl (Or.inl (hsubset hinner)))))⟩
      · refine ⟨own, fun inner hinner => hzone (mem_partsOfChoice.mpr (Or.inr (Or.inl ?_)))⟩
        rwa [Part.subtree, List.mem_append, List.mem_singleton] at hinner
      · exact ⟨hwhole, fun inner hinner => hzone hinner⟩
    · rw [List.mem_singleton] at hmem
      subst hmem
      exact ⟨own, List.Subset.refl _⟩

theorem data_mem_parts (id : String) (type : CustomType) :
    (⟨[.named id, .structural "data"], .data type.dataFields⟩ : Part) ∈ type.parts id := by
  rw [CustomType.parts]
  simp

/-- A custom type has one root. -/
theorem document_of_mem_parts {address : Address} {uid : Option (String × Field)}
    (h : (⟨address, .document uid⟩ : Part) ∈ type.parts id) :
    address = [.named id] ∧ uid = type.uid? := by
  rcases eq_root_or_shape_ne h with heq | hne
  · cases heq
    exact ⟨rfl, rfl⟩
  · exact absurd rfl (hne uid)

theorem isUid_of_uid? {field : String × Field} (h : type.uid? = some field) :
    field.2.isUid = true := by
  rw [CustomType.uid?] at h
  simpa using List.find?_some h

/-- **What stands below a part** belongs to the custom type. -/
theorem subtree_subset {part : Part} (h : part ∈ type.parts id) : part.subtree ⊆ type.parts id := by
  have hmem := h
  rw [CustomType.parts, List.mem_append, List.mem_flatMap] at hmem
  rcases hmem with ⟨field, hfield, hmem⟩ | hmem
  · intro inner hinner
    rw [CustomType.parts]
    exact List.mem_append_left _ (List.mem_flatMap.mpr ⟨field, hfield,
      (mem_subtree_and_subset part hmem).2 hinner⟩)
  · rw [List.mem_cons, List.mem_singleton] at hmem
    rcases hmem with rfl | rfl
    · intro inner hinner
      rw [Part.subtree, List.mem_append, List.mem_singleton] at hinner
      rcases hinner with hinner | rfl
      · exact partsOfFields_dataFields_subset id type hinner
      · exact h
    · exact fun inner hinner => absurd hinner List.not_mem_nil

/-- The fields of a record have their parts among those of the custom type. -/
theorem partsOfFields_subset_of_mem {address : Address} {shape : Shape} {fields : FieldMap}
    (h : (⟨address, shape⟩ : Part) ∈ type.parts id)
    (hrecord : Part.subtree ⟨address, shape⟩ =
      partsOfFields address fields ++ [⟨address, shape⟩]) :
    partsOfFields address fields ⊆ type.parts id := by
  intro inner hinner
  exact subtree_subset h (hrecord ▸ List.mem_append_left _ hinner)

/-- **Every part is held** by the compiled registry with what stands below it, the identifier and
the root apart. -/
theorem holds_of_mem (h : compile naming id type = .ok compiled) {part : Part}
    (hpart : part ∈ type.parts id) (hending : part.shape.ending? ≠ none)
    (hroot : part.shape.ending? ≠ some "") :
    compiled.paths.Holds naming.typePrefix part.address part.subtree := by
  have hdata := holds_data h
  rcases CustomType.mem_parts_cases hpart with ⟨name, rfl⟩ | ⟨field, hfield, hmem⟩ | rfl | rfl
  · exact absurd rfl hending
  · exact holds_subtree (hdata.field_of_mem hfield) part hmem
  · exact hdata
  · exact absurd rfl hroot

/-! ### Names in generated names -/

/-- Whether a type is generated for the field. -/
def Field.isContainer : Field → Bool
  | .group _ _ | .slices _ _ => true
  | .leaf _ _ | .image _ _ => false

/-- The names of the groups and slice zones among fields. -/
def containerNames (fields : FieldMap) : List String :=
  (fields.filter fun field => field.2.isContainer).map Prod.fst

/-- The names of the groups, slice zones and choices one level inside a field. -/
def Field.innerNames : Field → List String
  | .leaf _ _ | .image _ _ => []
  | .group fields _ => containerNames fields
  | .slices choices _ => choices.flatMap fun choice =>
    choice.1 :: (containerNames choice.2.primary ++ containerNames choice.2.items)

/-- The names of the groups, slice zones and choices at any depth. -/
def CustomType.containerNames (type : CustomType) : List String :=
  ContentGraph.containerNames type.fields ++ type.nested.flatMap Field.innerNames

theorem mem_containerNames {fields : FieldMap} {field : String × Field} (hfield : field ∈ fields)
    (hcontainer : field.2.isContainer = true) : field.1 ∈ containerNames fields :=
  List.mem_map_of_mem (List.mem_filter.mpr ⟨hfield, hcontainer⟩)

/-- **The named segments of a part that a type is generated for** are those above its field, and
names of containers inside. -/
theorem forall_names_of_mem_field {P : String → Prop} {field : Field} :
    ∀ {address : Address}, (field.isContainer = true → ∀ name ∈ address.names, P name) →
      (∀ inner ∈ field.nested, ∀ name ∈ inner.innerNames, P name) →
        ∀ part ∈ field.parts address, part.shape.ending? ≠ none →
        ∀ name ∈ part.address.names, P name := by
  -- the same for the fields of a record, given each
  have lift : ∀ {address : Address} {fields : FieldMap},
      (∀ field ∈ fields, ∀ {address : Address}, (field.2.isContainer = true →
        ∀ name ∈ address.names, P name) →
        (∀ inner ∈ field.2.nested, ∀ name ∈ inner.innerNames, P name) →
          ∀ part ∈ field.2.parts address, part.shape.ending? ≠ none →
            ∀ name ∈ part.address.names, P name) →
      (∀ name ∈ address.names, P name) → (∀ name ∈ containerNames fields, P name) →
      (∀ inner ∈ nestedFields fields, ∀ name ∈ inner.innerNames, P name) →
        ∀ part ∈ partsOfFields address fields, part.shape.ending? ≠ none →
        ∀ name ∈ part.address.names, P name := by
    intro address fields ih habove hnames hinner part hpart
    obtain ⟨field, hfield, hmem⟩ := mem_partsOfFields.mp hpart
    refine ih field hfield (fun hcontainer => ?_)
      (forall_mem_nestedFields.mp hinner field hfield) part hmem
    rw [Address.names_append, Address.names_named, Address.names_nil, List.forall_mem_append,
      List.forall_mem_singleton]
    exact ⟨habove, hnames _ (mem_containerNames hfield hcontainer)⟩
  induction field using Field.induction with
  | leaf kind extra =>
    intro address _ _ part hpart hending
    rw [Field.parts, List.mem_singleton] at hpart
    subst hpart
    exact absurd rfl hending
  | image thumbnails extra =>
    intro address _ _ part hpart hending
    rw [Field.parts, List.mem_cons, List.mem_map] at hpart
    rcases hpart with rfl | ⟨spec, -, rfl⟩ <;> exact absurd rfl hending
  | group fields extra ih =>
    intro address habove hinner part hpart hending
    rw [Field.nested, List.forall_mem_cons] at hinner
    rw [Field.parts] at hpart
    rcases List.mem_append.mp hpart with hmem | hmem
    · exact lift ih (habove rfl) hinner.1 hinner.2 part hmem hending
    · rw [List.mem_singleton] at hmem
      subst hmem
      exact habove rfl
  | slices choices extra ih =>
    intro address habove hinner part hpart hending
    rw [Field.nested, List.forall_mem_cons, forall_mem_nestedChoices] at hinner
    rw [Field.parts] at hpart
    rcases List.mem_append.mp hpart with hmem | hmem
    · obtain ⟨choice, hchoice, hmem⟩ := mem_partsOfChoices.mp hmem
      have hown := List.forall_mem_flatMap.mp hinner.1 choice hchoice
      rw [List.forall_mem_cons, List.forall_mem_append] at hown
      have hchoiceNames : ∀ name ∈ Address.names (address ++ [Segment.named choice.1]), P name := by
        rw [Address.names_append, Address.names_named, Address.names_nil, List.forall_mem_append,
          List.forall_mem_singleton]
        exact ⟨habove rfl, hown.1⟩
      have hhalf :
          ∀ text, ∀ name ∈ Address.names (address ++ [Segment.named choice.1] ++
            [Segment.structural text]), P name := by
        intro text
        rw [Address.names_append, Address.names_structural, Address.names_nil, List.append_nil]
        exact hchoiceNames
      rcases mem_partsOfChoice.mp hmem with (hmem | rfl) | (hmem | rfl) | rfl
      · exact lift (ih choice hchoice).1 (hhalf _) hown.2.1
          (hinner.2 choice hchoice).1 part hmem hending
      · exact hhalf _
      · exact lift (ih choice hchoice).2 (hhalf _) hown.2.2
          (hinner.2 choice hchoice).2 part hmem hending
      · exact hhalf _
      · exact hchoiceNames
    · rw [List.mem_singleton] at hmem
      subst hmem
      exact habove rfl

/-- **Generated names are made of the id and of names of groups, slice zones and choices.** -/
theorem forall_names_of_mem_parts {P : String → Prop} (hid : P id)
    (hnames : ∀ name ∈ type.containerNames, P name) :
    ∀ part ∈ type.parts id, part.shape.ending? ≠ none → ∀ name ∈ part.address.names, P name := by
  intro part hpart hending
  rw [CustomType.containerNames, List.forall_mem_append, List.forall_mem_flatMap, CustomType.nested,
    forall_mem_nestedFields] at hnames
  rw [CustomType.parts, List.mem_append, List.mem_flatMap] at hpart
  rcases hpart with ⟨field, hfield, hmem⟩ | hmem
  · refine forall_names_of_mem_field (fun hcontainer => ?_)
      (hnames.2 field hfield) part hmem hending
    have hown : P field.1 := hnames.1 _ (mem_containerNames hfield hcontainer)
    have haddress : Address.names (topAddress id field) = [id, field.1] := by
      rw [topAddress]
      split <;> rfl
    rw [haddress, List.forall_mem_cons, List.forall_mem_singleton]
    exact ⟨hid, hown⟩
  · rw [List.mem_cons, List.mem_singleton] at hmem
    rcases hmem with rfl | rfl
    · exact List.forall_mem_singleton.mpr hid
    · exact List.forall_mem_singleton.mpr hid

/-! ### What fields refer to -/

/-- A name that the fields of compiled declarations may refer to: a built-in scalar, a shared type,
or the type generated for one of the parts, roots apart. -/
def Refers (naming : TypeNaming) (parts : List Part) (name : String) : Prop :=
  name ∈ ["String", "Boolean", "Float", "Date"] ∨ (∃ shared, name = naming.shared shared) ∨
    ∃ part ∈ parts, part.shape.ending? ≠ some "" ∧ part.generated? naming.typePrefix = some name

/-- The type generated for a part that is no root. -/
theorem refers_generated (naming : TypeNaming) (role : TypeRole) {parts : List Part} {part : Part}
    (hpart : part ∈ parts) (hending : part.shape.ending? = some role.suffix)
    (hne : role.suffix ≠ "") :
    Refers naming parts (naming.namespaced part.address.names role) := by
  refine Or.inr (Or.inr ⟨part, hpart, by simpa [hending] using hne, ?_⟩)
  rw [Part.generated?, hending, Option.map_some, ← typeName_eq]

/-- The type of a field, when the field is among the parts. -/
theorem refers_typeRef {parts : List Part} {address : Address} {field : Field}
    (hown : ⟨address, field.shape⟩ ∈ parts) :
    Refers naming parts (field.typeRef naming address.names).baseName := by
  cases field with
  | leaf kind extra =>
    cases kind with
    | geoPoint => exact Or.inr (Or.inl ⟨.geoPoint, rfl⟩)
    | embed => exact Or.inr (Or.inl ⟨.embed, rfl⟩)
    | structuredText => exact Or.inr (Or.inl ⟨.structuredText, rfl⟩)
    | link => exact Or.inr (Or.inl ⟨.link, rfl⟩)
    | _ => exact Or.inl (by simp [Field.typeRef, LeafKind.typeRef, TypeRef.baseName])
  | image thumbnails extra => exact Or.inr (Or.inl ⟨.image, rfl⟩)
  | group fields extra =>
    have hname := refers_generated naming .group hown rfl (by decide)
    exact hname
  | slices choices extra =>
    have hname := refers_generated naming .slices hown rfl (by decide)
    exact hname

/-- The fields of a record, when their parts are among the parts. -/
theorem refers_declareFields {parts : List Part} {address : Address} {fields : FieldMap}
    (subset : partsOfFields address fields ⊆ parts) :
    ∀ field ∈ declareFields naming address.names fields,
      Refers naming parts field.2.typeRef.baseName := by
  intro found hfound
  obtain ⟨field, hfield, rfl⟩ := List.mem_map.mp hfound
  have hnames : Address.names (address ++ [Segment.named field.1]) = address.names ++ [field.1] :=
    Address.names_append _ _
  have hown : ⟨address ++ [Segment.named field.1], field.2.shape⟩ ∈ parts :=
    subset (mem_partsOfFields.mpr ⟨field, hfield, own_mem_parts _ field.2⟩)
  have hrefers :
      Refers naming parts (field.2.typeRef naming (Address.names
        (address ++ [Segment.named field.1]))).baseName :=
    refers_typeRef hown
  rw [hnames] at hrefers
  rwa [baseName_declare]

theorem refers_objectType {parts : List Part} {address : Address} {fields : FieldMap}
    (role : TypeRole) (subset : partsOfFields address fields ⊆ parts) :
    ∀ ref ∈ (Part.objectType naming address.names role fields).typeRefs,
      Refers naming parts ref.baseName :=
  TypeDeclaration.forall_mem_typeRefs.mpr (refers_declareFields subset)

/-- A choice refers to its halves. -/
theorem refers_sliceType {parts : List Part} {address : Address} {choice : Choice Field}
    (name : String) (subset : partsOfChoice address choice ⊆ parts) :
    ∀ ref ∈ (TypeDeclaration.object (sliceType name (naming.namespaced address.names .slicePrimary)
      (naming.namespaced address.names .sliceItem))).typeRefs,
      Refers naming parts ref.baseName := by
  have hprimary : ⟨address ++ [Segment.structural "primary"], .primary choice.primary⟩ ∈ parts :=
    subset (mem_partsOfChoice.mpr (Or.inl (Or.inr rfl)))
  have hitems : ⟨address ++ [Segment.structural "items"], .items choice.items⟩ ∈ parts :=
    subset (mem_partsOfChoice.mpr (Or.inr (Or.inl (Or.inr rfl))))
  have hp := refers_generated naming .slicePrimary hprimary rfl (by decide)
  have hi := refers_generated naming .sliceItem hitems rfl (by decide)
  simp only [Address.names_append, Address.names_structural, Address.names_nil,
    List.append_nil] at hp hi
  have hstring : Refers naming parts "String" := Or.inl (by decide)
  intro ref href
  simp only [TypeDeclaration.typeRefs, TypeDeclaration.fields, sliceType, List.map_cons,
    List.map_nil, List.mem_cons, List.not_mem_nil, or_false] at href
  rcases href with rfl | rfl | rfl | rfl
  · exact hstring
  · exact hstring
  · exact hp
  · exact hi

/-- **What compiled declarations refer to**: built-in scalars, shared types, and types generated for
parts of the same custom type. -/
theorem refers_compile (h : compile naming id type = .ok compiled) :
    ∀ declaration ∈ compiled.declarations, ∀ ref ∈ declaration.typeRefs,
      Refers naming (type.parts id) ref.baseName := by
  intro declaration hmem
  rw [(compile_ok h).1, List.mem_filterMap] at hmem
  obtain ⟨part, hpart, hdeclaration⟩ := hmem
  obtain ⟨address, shape⟩ := part
  cases shape with
  | leaf kind => cases hdeclaration
  | image thumbnails => cases hdeclaration
  | thumbnail => cases hdeclaration
  | group fields =>
    cases hdeclaration
    exact refers_objectType .group (partsOfFields_subset_of_mem hpart rfl)
  | primary fields =>
    cases hdeclaration
    exact refers_objectType .slicePrimary (partsOfFields_subset_of_mem hpart rfl)
  | items fields =>
    cases hdeclaration
    exact refers_objectType .sliceItem (partsOfFields_subset_of_mem hpart rfl)
  | data fields =>
    cases hdeclaration
    exact refers_objectType .data (partsOfFields_subset_of_mem hpart rfl)
  | choice choice =>
    cases hdeclaration
    exact refers_sliceType _ (subtree_subset hpart)
  | slices choices =>
    cases hdeclaration
    exact fun _ href => absurd href List.not_mem_nil
  | document uid =>
    obtain ⟨rfl, rfl⟩ : address = [.named id] ∧ uid = type.uid? := document_of_mem_parts hpart
    cases hdeclaration
    have hdata := refers_generated naming .data (data_mem_parts id type) rfl (by decide)
    rw [TypeDeclaration.forall_mem_typeRefs, TypeDeclaration.fields, List.forall_mem_append,
      List.forall_mem_singleton]
    refine ⟨fun field hfield => ?_, hdata⟩
    rw [Option.mem_toList, Option.map_eq_some_iff] at hfield
    obtain ⟨found, huid, rfl⟩ := hfield
    obtain ⟨extra, hleaf⟩ := Field.exists_of_isUid (isUid_of_uid? huid)
    rw [baseName_declare, hleaf]
    exact Or.inl (by simp [Field.typeRef, LeafKind.typeRef, TypeRef.baseName])

/-! ### Names of fields -/

/-- **The fields of compiled declarations have distinct names.** -/
theorem distinct_compile (h : compile naming id type = .ok compiled) :
    ∀ declaration ∈ compiled.declarations, Keyed.Distinct declaration.fields := by
  intro declaration hmem
  rw [(compile_ok h).1, List.mem_filterMap] at hmem
  obtain ⟨part, hpart, hdeclaration⟩ := hmem
  obtain ⟨address, shape⟩ := part
  have hrecord : ∀ {fields : FieldMap} (role : TypeRole),
      Part.subtree ⟨address, shape⟩ = partsOfFields address fields ++ [⟨address, shape⟩] →
      shape.ending? ≠ none → shape.ending? ≠ some "" →
        Keyed.Distinct (Part.objectType naming address.names role fields).fields := by
    intro fields role heq hending hroot
    have hheld := holds_of_mem h hpart hending hroot
    rw [heq] at hheld
    have hdistinct : Keyed.Distinct fields := ((nodup_container_iff shape).mp hheld.nodup).1
    rwa [Keyed.Distinct, Keyed.keys, Part.objectType, TypeDeclaration.fields, declareFields,
      List.map_map]
  cases shape with
  | leaf kind => cases hdeclaration
  | image thumbnails => cases hdeclaration
  | thumbnail => cases hdeclaration
  | group fields =>
    cases hdeclaration
    exact hrecord .group rfl (by simp [Shape.ending?]) (by simp [Shape.ending?])
  | primary fields =>
    cases hdeclaration
    exact hrecord .slicePrimary rfl (by simp [Shape.ending?]) (by simp [Shape.ending?])
  | items fields =>
    cases hdeclaration
    exact hrecord .sliceItem rfl (by simp [Shape.ending?]) (by simp [Shape.ending?])
  | data fields =>
    cases hdeclaration
    exact hrecord .data rfl (by simp [Shape.ending?]) (by simp [Shape.ending?])
  | choice choice =>
    cases hdeclaration
    simp [TypeDeclaration.fields, sliceType, Keyed.Distinct, Keyed.keys, primarySegment,
      itemsSegment]
  | slices choices =>
    cases hdeclaration
    exact List.nodup_nil
  | document uid =>
    obtain ⟨rfl, rfl⟩ : address = [.named id] ∧ uid = type.uid? := document_of_mem_parts hpart
    cases hdeclaration
    cases huid : type.uid? with
    | none => simp [TypeDeclaration.fields, Keyed.Distinct, Keyed.keys]
    | some field =>
      have hmem : field ∈ type.fields := List.mem_of_find?_eq_some huid
      have hne : field.1 ≠ "data" := uidApart_of_compile h field hmem (isUid_of_uid? huid)
      simpa [TypeDeclaration.fields, Keyed.Distinct, Keyed.keys, dataSegment] using hne

end ContentGraph
