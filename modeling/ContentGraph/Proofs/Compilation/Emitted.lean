import ContentGraph.Proofs.Compilation.Run
import ContentGraph.Proofs.Schema.Parts

/-!
# What the walk emits

The walk over a custom type carries two address lists and emits declarations between registrations.
Both lists come from one address, and the emissions are those of the parts in order: each part
registers its entry, right after the type that is generated for it has been declared.

* `Part.declaration?`, `Part.emissions` — what one part declares and registers;
* `emitField_eq` — the emissions of a field are those of its parts;
* `emissions_eq` — those of a custom type with one identifier at most are those of its parts;
* `emissions_cut` — those of any other report the second one after parts of the type;
* `compile_ok`, `exists_compile_iff` — what a compilation produces, and when it completes.
-/

namespace ContentGraph

/-! ### Parts as emissions -/

theorem typeName_eq (naming : TypeNaming) (address : Address) (role : TypeRole) :
    address.typeName naming.typePrefix role.suffix = naming.namespaced address.names role := by
  rw [Address.typeName, TypeNaming.namespaced, String.append_assoc]

namespace Part

/-- The object type over a field map, under the name of its role. -/
def objectType (naming : TypeNaming) (names : List String) (role : TypeRole) (fields : FieldMap) :
    TypeDeclaration :=
  .object { name := naming.namespaced names role, fields := declareFields naming names fields }

/-- The declaration of a part, if a type is generated for it. -/
def declaration? (naming : TypeNaming) (part : Part) : Option TypeDeclaration :=
  let names := part.address.names
  match part.shape with
  | .group fields => some (objectType naming names .group fields)
  | .slices choices =>
    some (.union
      { name := naming.namespaced names .slices
        members := choices.map fun choice => naming.namespaced (names ++ [choice.1]) .slice })
  | .primary fields => some (objectType naming names .slicePrimary fields)
  | .items fields => some (objectType naming names .sliceItem fields)
  | .choice _ =>
    some (.object (sliceType (naming.namespaced names .slice)
      (naming.namespaced names .slicePrimary) (naming.namespaced names .sliceItem)))
  | .data fields => some (objectType naming names .data fields)
  | .document uid =>
    some (.object
      { name := naming.namespaced names .document
        fields := (uid.map fun field => (field.1, field.2.declare naming names)).toList
          ++ [(dataSegment, .named (naming.namespaced names .data))]
        interfaces := [nodeInterface, naming.documentInterface] })
  | .leaf _ | .image _ | .thumbnail => none

/-- The emissions of a part: its declaration, if it has one, then its registration. -/
def emissions (naming : TypeNaming) (part : Part) : List Emission :=
  (part.declaration? naming).toList.map (.declare part.path)
    ++ [Emission.register (part.entry naming.typePrefix)]

/-- The name that a part declares is the name generated for it. -/
theorem name_declaration? (naming : TypeNaming) (part : Part) :
    (part.declaration? naming).map TypeDeclaration.name = part.generated? naming.typePrefix := by
  obtain ⟨address, shape⟩ := part
  cases shape <;> simp [declaration?, generated?, Shape.ending?, objectType, sliceType,
    TypeDeclaration.name, ← typeName_eq, TypeRole.suffix]

theorem isSecondUid_of_mem_emissions {naming : TypeNaming} {part : Part} {emission : Emission}
    (h : emission ∈ part.emissions naming) : emission.isSecondUid = false := by
  rw [emissions, List.mem_append, List.mem_map, List.mem_singleton] at h
  rcases h with ⟨declaration, _, rfl⟩ | rfl <;> rfl

theorem declarationsOf_emissions (naming : TypeNaming) (part : Part) :
    declarationsOf (part.emissions naming) = (part.declaration? naming).toList := by
  rw [emissions]
  cases part.declaration? naming <;> rfl

theorem entriesOf_emissions (naming : TypeNaming) (part : Part) :
    entriesOf (part.emissions naming) = [part.entry naming.typePrefix] := by
  rw [emissions]
  cases part.declaration? naming <;> rfl

end Part

/-! ### Fields -/

/-- A field registers the entry of its part. -/
theorem registerField_eq (naming : TypeNaming) (address : Address) (field : Field) :
    registerField naming address.path address.names field =
      .register (Part.entry naming.typePrefix ⟨address, field.shape⟩) := by
  have hgroup := typeName_eq naming address .group
  have hslices := typeName_eq naming address .slices
  simp only [TypeRole.suffix] at hgroup hslices
  cases field with
  | leaf kind extra =>
    cases kind <;> simp [registerField, Field.typeRef, Field.pathKind, LeafKind.typeRef,
      LeafKind.pathKind, Field.shape, Part.entry, Part.registered, LeafKind.registered,
      TypeNaming.shared, SharedType.baseName]
  | image thumbnails extra =>
    simp [registerField, Field.typeRef, Field.pathKind, Field.shape, Part.entry, Part.registered,
      TypeNaming.shared, SharedType.baseName]
  | group fields extra =>
    simp [registerField, Field.typeRef, Field.pathKind, Field.shape, Part.entry,
      Part.registered, hgroup]
  | slices choices extra =>
    simp [registerField, Field.typeRef, Field.pathKind, Field.shape, Part.entry,
      Part.registered, hslices]

/-- The type of a field renders to the type of its part. -/
theorem render_typeRef (naming : TypeNaming) (address : Address) (field : Field) :
    (field.typeRef naming address.names).render =
      ((⟨address, field.shape⟩ : Part).registered naming.typePrefix).1 := by
  have h := registerField_eq naming address field
  rw [registerField, Emission.register.injEq] at h
  exact congrArg PathEntry.typeName h

/-- A declared field has the type of the field. -/
theorem typeRef_declare (naming : TypeNaming) (names : List String) (field : Field) :
    (field.declare naming names).typeRef = field.typeRef naming names := by
  rw [Field.declare]
  cases field.pathKind <;> rfl

theorem emitFields_eq_flatMap (naming : TypeNaming) (path : Path) (names : List String)
    (fields : FieldMap) :
    emitFields naming path names fields =
      fields.flatMap fun field => emitField naming (path ++ [field.1])
        (names ++ [field.1]) field.2 := by
  induction fields with
  | nil => rw [emitFields, List.flatMap_nil]
  | cons field rest ih => rw [emitFields, ih, List.flatMap_cons]

theorem emitChoices_eq_flatMap (naming : TypeNaming) (path : Path) (names : List String)
    (choices : List (String × Choice Field)) :
    emitChoices naming path names choices =
      choices.flatMap fun choice =>
        emitChoice naming (path ++ [choice.1]) (names ++ [choice.1]) choice.2 := by
  induction choices with
  | nil => rw [emitChoices, List.flatMap_nil]
  | cons choice rest ih => rw [emitChoices, ih, List.flatMap_cons]

/-! ### Each container in turn -/

theorem emissions_group (naming : TypeNaming) (address : Address) (fields : FieldMap)
    (extra : ExtraMembers) :
    Part.emissions naming ⟨address, .group fields⟩ =
      [declareObject naming address.path address.names .group fields,
        registerField naming address.path address.names (.group fields extra)] := by
  rw [registerField_eq]
  rfl

theorem emissions_slices (naming : TypeNaming) (address : Address)
    (choices : List (String × Choice Field)) (extra : ExtraMembers) :
    Part.emissions naming ⟨address, .slices choices⟩ =
      [.declare address.path (.union
          { name := naming.namespaced address.names .slices
            members := choices.map fun choice =>
              naming.namespaced (address.names ++ [choice.1]) .slice }),
        registerField naming address.path address.names (.slices choices extra)] := by
  rw [registerField_eq]
  rfl

theorem emissions_primary (naming : TypeNaming) (address : Address) (fields : FieldMap) :
    Part.emissions naming ⟨address, .primary fields⟩ =
      [declareObject naming address.path address.names .slicePrimary fields,
        .register ⟨address.path, naming.namespaced address.names .slicePrimary,
          .slicePrimary⟩] := by
  rw [← typeName_eq]
  rfl

theorem emissions_items (naming : TypeNaming) (address : Address) (fields : FieldMap) :
    Part.emissions naming ⟨address, .items fields⟩ =
      [declareObject naming address.path address.names .sliceItem fields,
        .register ⟨address.path,
          (TypeRef.list (.named (naming.namespaced address.names .sliceItem))).render,
          .sliceItems⟩] := by
  rw [TypeRef.render_list, TypeRef.render_named, ← typeName_eq]
  rfl

theorem emissions_choice (naming : TypeNaming) (address : Address) (choice : Choice Field) :
    Part.emissions naming ⟨address, .choice choice⟩ =
      [.declare address.path (.object (sliceType (naming.namespaced address.names .slice)
          (naming.namespaced address.names .slicePrimary)
          (naming.namespaced address.names .sliceItem))),
        .register ⟨address.path, naming.namespaced address.names .slice, .slice⟩] := by
  have hentry : Part.entry naming.typePrefix ⟨address, .choice choice⟩ =
      ⟨address.path, naming.namespaced address.names .slice, .slice⟩ := by
    rw [← typeName_eq]
    rfl
  rw [Part.emissions, hentry]
  rfl

/-! ### Fields -/

/-- The emissions of fields, given those of each. -/
theorem emitFields_eq_of (naming : TypeNaming) (address : Address) {fields : FieldMap}
    (h : ∀ field ∈ fields, ∀ address : Address,
      emitField naming address.path address.names field.2 =
        (field.2.parts address).flatMap (Part.emissions naming)) :
    emitFields naming address.path address.names fields =
      (partsOfFields address fields).flatMap (Part.emissions naming) := by
  rw [emitFields_eq_flatMap, partsOfFields_eq, List.flatMap_assoc]
  refine List.flatMap_congr fun field hfield => ?_
  have := h field hfield (address ++ [Segment.named field.1])
  simpa using this

/-- The emissions of a choice, given those of the fields of its halves. -/
theorem emitChoice_eq_of (naming : TypeNaming) (address : Address) {choice : Choice Field}
    (hprimary : ∀ field ∈ choice.primary, ∀ address : Address,
      emitField naming address.path address.names field.2 =
        (field.2.parts address).flatMap (Part.emissions naming))
    (hitems : ∀ field ∈ choice.items, ∀ address : Address,
      emitField naming address.path address.names field.2 =
        (field.2.parts address).flatMap (Part.emissions naming)) :
    emitChoice naming address.path address.names choice =
      (partsOfChoice address choice).flatMap (Part.emissions naming) := by
  obtain ⟨primary, items, extra⟩ := choice
  have hp := emitFields_eq_of naming (address ++ [Segment.structural "primary"]) hprimary
  have hi := emitFields_eq_of naming (address ++ [Segment.structural "items"]) hitems
  have hpp := emissions_primary naming (address ++ [Segment.structural "primary"]) primary
  have hii := emissions_items naming (address ++ [Segment.structural "items"]) items
  simp only [Address.path_append, Address.path_structural, Address.path_nil, Address.names_append,
    Address.names_structural, Address.names_nil, List.append_nil] at hp hi hpp hii
  rw [emitChoice, partsOfChoice]
  simp only [primarySegment, itemsSegment, List.flatMap_append, List.flatMap_cons, List.flatMap_nil,
    List.append_nil, hp, hi, hpp, hii, emissions_choice]
  simp only [List.append_assoc, List.cons_append, List.nil_append]

/-- **The emissions of a field are those of its parts**, whatever its address. -/
theorem emitField_eq (naming : TypeNaming) (field : Field) :
    ∀ address : Address, emitField naming address.path address.names field =
      (field.parts address).flatMap (Part.emissions naming) := by
  induction field using Field.induction with
  | leaf kind extra =>
    intro address
    rw [emitField, registerField_eq, Field.parts]
    rfl
  | image thumbnails extra =>
    intro address
    rw [emitField, Field.parts, List.flatMap_cons, List.flatMap_map, registerThumbnails,
      List.map_eq_flatMap]
    have hspecs : ∀ spec : ThumbnailSpec,
        Part.emissions naming
            ⟨address ++ [Segment.structural "thumbnails", .named spec.name], .thumbnail⟩ =
          [.register ⟨address.path ++ [Registry.thumbnailsSegment, spec.name],
            naming.shared .imageThumbnail, .imageThumbnail⟩] := by
      intro spec
      rw [Part.emissions, Part.entry, Part.path_mk, Address.path_append]
      rfl
    simp only [hspecs, registerField_eq]
    rfl
  | group fields extra ih =>
    intro address
    rw [emitField, Field.parts, emitFields_eq_of naming address ih, List.flatMap_append,
      List.flatMap_singleton, emissions_group]
  | slices choices extra ih =>
    intro address
    have hchoices : emitChoices naming address.path address.names choices =
        (partsOfChoices address choices).flatMap (Part.emissions naming) := by
      rw [emitChoices_eq_flatMap, partsOfChoices_eq, List.flatMap_assoc]
      refine List.flatMap_congr fun choice hchoice => ?_
      have := emitChoice_eq_of naming (address ++ [Segment.named choice.1])
        (ih choice hchoice).1 (ih choice hchoice).2
      simpa using this
    rw [emitField, Field.parts, hchoices, List.flatMap_append, List.flatMap_singleton,
      emissions_slices]

/-! ### Custom types -/

/-- Only the identifier is a field whose emissions do not depend on its names. -/
theorem emitField_of_isUid (naming : TypeNaming) {field : Field} (h : field.isUid = true)
    (address : Address) (names : List String) :
    emitField naming address.path names field =
      (field.parts address).flatMap (Part.emissions naming) := by
  obtain ⟨extra, rfl⟩ := Field.exists_of_isUid h
  rw [← emitField_eq, emitField, emitField]
  rfl

/-- The first identifier stands beside the data. -/
theorem emitTopLevel_first (naming : TypeNaming) (id name : String) {field : Field}
    (rest : FieldMap) (h : field.isUid = true) :
    emitTopLevel naming id none ((name, field) :: rest) =
      emitField naming [id, name] [id] field ++ emitTopLevel naming id (some name) rest := by
  rw [emitTopLevel, if_pos h]

/-- A second one is reported. -/
theorem emitTopLevel_second (naming : TypeNaming) (id first name : String) {field : Field}
    (rest : FieldMap) (h : field.isUid = true) :
    emitTopLevel naming id (some first) ((name, field) :: rest) =
      .secondUid first name :: emitTopLevel naming id (some first) rest := by
  rw [emitTopLevel, if_pos h]

/-- All other fields stand inside the data. -/
theorem emitTopLevel_inner (naming : TypeNaming) (id name : String) {field : Field}
    (rest : FieldMap) (uid : Option String) (h : ¬field.isUid = true) :
    emitTopLevel naming id uid ((name, field) :: rest) =
      emitField naming [id, dataSegment, name] [id, name] field
        ++ emitTopLevel naming id uid rest := by
  cases uid <;> rw [emitTopLevel, if_neg h]

/-- With one identifier at most, top-level fields emit what their parts do. -/
theorem emitTopLevel_eq (naming : TypeNaming) (id : String) (fields : FieldMap)
    (uid : Option String) (h : uid.toList.length + fields.countP (fun field => field.2.isUid) ≤ 1) :
    emitTopLevel naming id uid fields =
      (fields.flatMap fun field => field.2.parts (topAddress id field)).flatMap
        (Part.emissions naming) := by
  induction fields generalizing uid with
  | nil => rfl
  | cons field rest ih =>
    obtain ⟨name, field⟩ := field
    rw [List.flatMap_cons, List.flatMap_append]
    by_cases huid : field.isUid = true
    · rw [List.countP_cons, if_pos huid] at h
      cases uid with
      | some first =>
        rw [Option.toList_some, List.length_singleton] at h
        omega
      | none =>
        have hfield := emitField_of_isUid naming huid [.named id, .named name] [id]
        have hrest := ih (some name) (by
          rw [Option.toList_none, List.length_nil] at h
          rw [Option.toList_some, List.length_singleton]
          omega)
        rw [emitTopLevel_first naming id name rest huid, hrest]
        simpa [topAddress, huid] using hfield
    · rw [List.countP_cons, if_neg huid, Nat.add_zero] at h
      have hfield := emitField_eq naming field [.named id, .structural "data", .named name]
      rw [emitTopLevel_inner naming id name rest uid huid, ih uid h]
      simpa [topAddress, huid, dataSegment] using hfield

/-- A second identifier cuts the walk off: what is emitted before it are parts, in order. -/
theorem emitTopLevel_cut (naming : TypeNaming) (id : String) (fields : FieldMap)
    (uid : Option String) {first second : String} {others : List String}
    (h : uid.toList ++ (fields.filter fun field => field.2.isUid).map Prod.fst =
      first :: second :: others) :
    ∃ front more, (front <+: fields.flatMap fun field => field.2.parts (topAddress id field)) ∧
      emitTopLevel naming id uid fields =
        front.flatMap (Part.emissions naming) ++ Emission.secondUid first second :: more := by
  induction fields generalizing uid with
  | nil => cases uid <;> simp at h
  | cons field rest ih =>
    obtain ⟨name, field⟩ := field
    rw [List.flatMap_cons]
    by_cases huid : field.isUid = true
    · rw [List.filter_cons_of_pos (by exact huid), List.map_cons] at h
      cases uid with
      | some found =>
        simp only [Option.toList_some, List.singleton_append, List.cons.injEq] at h
        obtain ⟨rfl, rfl, _⟩ := h
        exact ⟨[], _, List.nil_prefix, emitTopLevel_second naming id found name rest huid⟩
      | none =>
        obtain ⟨front, more, hfront, hmore⟩ := ih (some name) h
        have hfield := emitField_of_isUid naming huid [.named id, .named name] [id]
        have haddress : topAddress id (name, field) = [.named id, .named name] := if_pos huid
        refine ⟨field.parts (topAddress id (name, field)) ++ front, more, ?_, ?_⟩
        · exact (List.prefix_append_right_inj _).mpr hfront
        · rw [emitTopLevel_first naming id name rest huid, hmore, List.flatMap_append, haddress,
            List.append_assoc, ← hfield]
          rfl
    · rw [List.filter_cons_of_neg (by exact huid)] at h
      obtain ⟨front, more, hfront, hmore⟩ := ih uid h
      have hfield := emitField_eq naming field [.named id, .structural "data", .named name]
      have haddress : topAddress id (name, field) = [.named id, .structural "data", .named name] :=
        if_neg huid
      refine ⟨field.parts (topAddress id (name, field)) ++ front, more, ?_, ?_⟩
      · exact (List.prefix_append_right_inj _).mpr hfront
      · rw [emitTopLevel_inner naming id name rest uid huid, hmore, List.flatMap_append, haddress,
          List.append_assoc, ← hfield]
        rfl

/-- **The emissions of a custom type** with one identifier at most are those of its parts. -/
theorem emissions_eq (naming : TypeNaming) (id : String) {type : CustomType} (h : type.OneUid) :
    emissions naming id type = (type.parts id).flatMap (Part.emissions naming) := by
  have htop := emitTopLevel_eq naming id type.fields none (by simpa [CustomType.OneUid] using h)
  have hdata := typeName_eq naming [.named id, .structural "data"] .data
  have hroot := typeName_eq naming [.named id] .document
  simp only [TypeRole.suffix] at hdata hroot
  rw [emissions, htop, CustomType.parts, List.flatMap_append]
  simp [Part.emissions, Part.declaration?, Part.objectType, Part.entry, Part.registered, hdata,
    hroot, dataType, rootType, CustomType.dataFields, CustomType.uid?, dataSegment,
    TypeNaming.documentType]

theorem isSecondUid_of_mem_emissions (naming : TypeNaming) (id : String) {type : CustomType}
    (h : type.OneUid) {emission : Emission} (hmem : emission ∈ emissions naming id type) :
    emission.isSecondUid = false := by
  rw [emissions_eq naming id h, List.mem_flatMap] at hmem
  obtain ⟨part, _, hpart⟩ := hmem
  exact Part.isSecondUid_of_mem_emissions hpart

/-- The same for a custom type with more identifiers: the second one is reported after parts of the
type. -/
theorem emissions_cut (naming : TypeNaming) (id : String) {type : CustomType}
    {first second : String} {others : List String} (h : type.uidNames = first :: second :: others) :
    ∃ front more, front <+: type.parts id ∧
      emissions naming id type =
        front.flatMap (Part.emissions naming) ++ Emission.secondUid first second :: more := by
  obtain ⟨front, more, hfront, hmore⟩ := emitTopLevel_cut naming id type.fields none h
  simp only [emissions, hmore, List.append_assoc, List.cons_append]
  exact ⟨front, _, hfront.trans (List.prefix_append _ _), rfl⟩

theorem oneUid_of_emissions (naming : TypeNaming) (id : String) {type : CustomType}
    (h : ∀ emission ∈ emissions naming id type, emission.isSecondUid = false) : type.OneUid := by
  by_contra hmany
  obtain ⟨first, second, others, hnames⟩ := CustomType.not_oneUid_iff.mp hmany
  obtain ⟨front, more, _, hemissions⟩ := emissions_cut naming id hnames
  have hsecond := h (.secondUid first second) (by simp [hemissions])
  cases hsecond

theorem declarationsOf_flatMap (naming : TypeNaming) (parts : List Part) :
    declarationsOf (parts.flatMap (Part.emissions naming)) =
      parts.filterMap (Part.declaration? naming) := by
  rw [declarationsOf, List.filterMap_flatMap, List.filterMap_eq_flatMap_toList]
  exact List.flatMap_congr fun part _ => Part.declarationsOf_emissions naming part

theorem entriesOf_flatMap (naming : TypeNaming) (parts : List Part) :
    entriesOf (parts.flatMap (Part.emissions naming)) =
      parts.map (Part.entry naming.typePrefix) := by
  rw [entriesOf, List.filterMap_flatMap, List.map_eq_flatMap]
  exact List.flatMap_congr fun part _ => Part.entriesOf_emissions naming part

/-- The names that parts declare are the names generated for them. -/
theorem map_name_filterMap (naming : TypeNaming) (parts : List Part) :
    (parts.filterMap (Part.declaration? naming)).map TypeDeclaration.name =
      parts.filterMap (Part.generated? naming.typePrefix) := by
  rw [List.map_filterMap]
  exact List.filterMap_congr fun part _ => Part.name_declaration? naming part

/-! ### Compilations -/

theorem exists_compile_iff_run {naming : TypeNaming} {id : String} {type : CustomType} :
    (∃ compiled, compile naming id type = .ok compiled) ↔
      ∃ output, Output.empty.run (emissions naming id type) = .ok output := by
  rw [compile]
  cases Output.empty.run (emissions naming id type) <;> simp

/-- When a compilation completes: one identifier at most, names and paths distinct. -/
theorem exists_compile_iff {naming : TypeNaming} {id : String} {type : CustomType} :
    (∃ compiled, compile naming id type = .ok compiled) ↔
      type.OneUid ∧
      ((type.parts id).filterMap (Part.generated? naming.typePrefix)).Nodup ∧
      ((type.parts id).map Part.path).Nodup := by
  rw [exists_compile_iff_run, Output.exists_run_iff Output.empty _ List.nodup_nil]
  have hone : (∀ emission ∈ emissions naming id type, emission.isSecondUid = false) ↔ type.OneUid :=
    ⟨oneUid_of_emissions naming id, fun h _ => isSecondUid_of_mem_emissions naming id h⟩
  rw [hone]
  refine and_congr_right fun h => ?_
  rw [emissions_eq naming id h, declarationsOf_flatMap, entriesOf_flatMap]
  simp only [Output.empty, Registry.empty, List.nil_append, map_name_filterMap, List.map_map]
  rfl

/-- The sample compiles. -/
theorem exists_compile_sample : ∃ compiled, compile {} "page" .sample = .ok compiled :=
  exists_compile_iff.mpr (by decide)

/-- **What a compilation produces:** the declarations and the entries of the parts, in order. -/
theorem compile_ok {naming : TypeNaming} {id : String} {type : CustomType} {compiled : CompiledType}
    (h : compile naming id type = .ok compiled) :
    compiled.declarations = (type.parts id).filterMap (Part.declaration? naming) ∧
      compiled.paths.entries = (type.parts id).map (Part.entry naming.typePrefix) := by
  have hone : type.OneUid := (exists_compile_iff.mp ⟨compiled, h⟩).1
  rw [compile] at h
  split at h
  · cases h
  · next output hrun =>
    cases h
    have hout := Output.run_ok hrun
    rw [emissions_eq naming id hone, declarationsOf_flatMap, entriesOf_flatMap] at hout
    exact hout

end ContentGraph
