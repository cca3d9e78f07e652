import ContentGraph.CommandLine.Compile
import ContentGraph.Proofs.Compilation.Emitted

/-!
# Every name is declared

Type names are put together in four places: where fields are compiled, in the shared types, in the
union of documents and in the type of thumbnails.  Each name that one of them refers to is declared
by one of them.

* `TypeDeclaration.Resolves` — every name that a declaration refers to is there;
* `CommandLine.servedTogether` — the declarations that serving several compiled types needs;
* `resolves_parts` — what is declared for the parts of a field refers to those parts and to shared
  types;
* `served_declarations_resolve` — no name is left open, however many types are served.
-/

namespace ContentGraph

/-! ### Resolved names -/

/-- The scalars that are there without a declaration. -/
def builtinScalars : List String :=
  ["String", "Boolean", "Int", "Float", "ID", "Date", "JSON", "File"]

/-- A name that fields may refer to: a built-in scalar or a declared type. -/
def NameResolves (declarations : List TypeDeclaration) (name : String) : Prop :=
  name ∈ builtinScalars ∨ ∃ declaration ∈ declarations, declaration.name = name

/-- The types of all fields, apart from their wrappers, are there. -/
def FieldsResolve (declarations : List TypeDeclaration)
    (fields : List (String × FieldDecl)) : Prop :=
  ∀ field ∈ fields, NameResolves declarations field.2.typeRef.baseName

/-- Every name that a declaration refers to is there: types of fields, interfaces that are declared
as such (the node interface apart), and union members that are objects. -/
def TypeDeclaration.Resolves (declarations : List TypeDeclaration) : TypeDeclaration → Prop
  | .object type =>
    FieldsResolve declarations type.fields ∧
      ∀ name ∈ type.interfaces, name = nodeInterface ∨
        ∃ interface, .interface interface ∈ declarations ∧ interface.name = name
  | .interface type => FieldsResolve declarations type.fields
  | .union type =>
    ∀ name ∈ type.members, ∃ object, .object object ∈ declarations ∧ object.name = name
  | .scalar _ => True

/-- The declarations that serving compiled types needs: the shared ones, those of each type, the
union of documents and the type of thumbnails. -/
def CommandLine.servedTogether (naming : TypeNaming) (types : List CompiledType) :
    List TypeDeclaration :=
  let declarations := sharedDeclarations naming ++ types.flatMap CompiledType.declarations
  declarations ++
    [TypeDeclaration.union (documentUnion naming declarations),
      thumbnailsType naming (types.flatMap fun compiled => compiled.paths.entries)]

/-- One type alone is served with the declarations that are printed for it. -/
theorem CommandLine.servedTogether_singleton (naming : TypeNaming) (compiled : CompiledType) :
    servedTogether naming [compiled] = servedDeclarations naming compiled := by
  rw [servedTogether, servedDeclarations, List.flatMap_singleton, List.flatMap_singleton]

variable {naming : TypeNaming} {declarations : List TypeDeclaration}

theorem nameResolves_of_builtin {name : String} (h : name ∈ builtinScalars) :
    NameResolves declarations name := Or.inl h

theorem fieldsResolve_append_iff {fields more : List (String × FieldDecl)} :
    FieldsResolve declarations (fields ++ more) ↔
      FieldsResolve declarations fields ∧ FieldsResolve declarations more := List.forall_mem_append

theorem fieldsResolve_ofType {type : String} (h : NameResolves declarations type)
    (names : List String) :
    FieldsResolve declarations (fieldsOfType type names) := by
  intro field hfield
  obtain ⟨name, _, rfl⟩ := List.mem_map.mp hfield
  exact h

theorem fieldsResolve_singleton {name : String} {field : FieldDecl}
    (h : NameResolves declarations field.typeRef.baseName) :
    FieldsResolve declarations [(name, field)] := by
  intro found hfound
  rw [List.mem_singleton] at hfound
  subst hfound
  exact h

/-! ### What is declared for parts -/

/-- All shared types are declared, the interface of documents as an interface. -/
structure ProvidesShared (naming : TypeNaming) (declarations : List TypeDeclaration) : Prop where
  named : ∀ shared, ∃ declaration ∈ declarations, declaration.name = naming.shared shared
  interface : .interface (documentInterfaceType naming) ∈ declarations

/-- What is declared for each of the parts is there. -/
def DeclaresParts (naming : TypeNaming) (declarations : List TypeDeclaration)
    (parts : List Part) : Prop :=
  ∀ part ∈ parts, ∀ declaration, part.declaration? naming = some declaration →
    declaration ∈ declarations

theorem DeclaresParts.mono {parts others : List Part} (h : DeclaresParts naming declarations parts)
    (hle : others ⊆ parts) : DeclaresParts naming declarations others :=
  fun part hpart => h part (hle hpart)

theorem ProvidesShared.nameResolves (provides : ProvidesShared naming declarations)
    (shared : SharedType) :
    NameResolves declarations (naming.shared shared) := Or.inr (provides.named shared)

/-- **The type of a field** is built in, shared, or declared for the field's own part. -/
theorem nameResolves_typeRef (provides : ProvidesShared naming declarations) (address : Address)
    {field : Field} (declared : DeclaresParts naming declarations (field.parts address)) :
    NameResolves declarations (field.typeRef naming address.names).baseName := by
  have hown : ∀ declaration, Part.declaration? naming ⟨address, field.shape⟩ = some declaration →
      declaration ∈ declarations := declared _ (own_mem_parts address field)
  cases field with
  | leaf kind extra =>
    cases kind with
    | geoPoint => exact provides.nameResolves .geoPoint
    | embed => exact provides.nameResolves .embed
    | structuredText => exact provides.nameResolves .structuredText
    | link => exact provides.nameResolves .link
    | _ =>
      exact nameResolves_of_builtin (by simp [builtinScalars, Field.typeRef, LeafKind.typeRef,
        TypeRef.baseName])
  | image thumbnails extra => exact provides.nameResolves .image
  | group fields extra => exact Or.inr ⟨_, hown _ rfl, rfl⟩
  | slices choices extra => exact Or.inr ⟨_, hown _ rfl, rfl⟩

theorem baseName_declare (naming : TypeNaming) (names : List String) (field : Field) :
    (field.declare naming names).typeRef.baseName = (field.typeRef naming names).baseName := by
  rw [Field.declare]
  cases field.pathKind <;> rfl

/-- **The fields of a record** refer to what is there, when their parts are declared. -/
theorem fieldsResolve_declareFields (provides : ProvidesShared naming declarations)
    {address : Address} {fields : FieldMap}
    (declared : DeclaresParts naming declarations (partsOfFields address fields)) :
    FieldsResolve declarations (declareFields naming address.names fields) := by
  intro found hfound
  obtain ⟨field, hfield, rfl⟩ := List.mem_map.mp hfound
  have hparts : field.2.parts (address ++ [Segment.named field.1]) ⊆ partsOfFields address fields :=
    fun part hpart => mem_partsOfFields.mpr ⟨field, hfield, hpart⟩
  have hnames : Address.names (address ++ [Segment.named field.1]) = address.names ++ [field.1] :=
    Address.names_append _ _
  have hresolves :=
    nameResolves_typeRef provides (address ++ [Segment.named field.1]) (declared.mono hparts)
  rw [hnames] at hresolves
  rwa [baseName_declare]

theorem resolves_objectType (provides : ProvidesShared naming declarations) {address : Address}
    (role : TypeRole) {fields : FieldMap}
    (declared : DeclaresParts naming declarations (partsOfFields address fields)) :
    (Part.objectType naming address.names role fields).Resolves declarations :=
  ⟨fieldsResolve_declareFields provides declared, fun _ h => absurd h List.not_mem_nil⟩

/-- **A choice** refers to its two halves. -/
theorem resolves_choice {address : Address} {choice : Choice Field}
    (declared : DeclaresParts naming declarations (partsOfChoice address choice)) :
    (TypeDeclaration.object (sliceType (naming.namespaced address.names .slice)
      (naming.namespaced address.names .slicePrimary)
      (naming.namespaced address.names .sliceItem))).Resolves declarations := by
  have hprimary := declared ⟨address ++ [Segment.structural "primary"], .primary choice.primary⟩
    (mem_partsOfChoice.mpr (.inl (.inr rfl))) _ rfl
  have hitems := declared ⟨address ++ [Segment.structural "items"], .items choice.items⟩
    (mem_partsOfChoice.mpr (.inr (.inl (.inr rfl)))) _ rfl
  simp only [Address.names_append, Address.names_structural, Address.names_nil, List.append_nil]
    at hprimary hitems
  constructor
  · have hslice : FieldsResolve declarations
        [("slice_type", .ofRef (.nonNull (.named "String"))),
          ("slice_label", .named "String")] := by
      intro field hfield
      rw [List.mem_cons, List.mem_singleton] at hfield
      rcases hfield with rfl | rfl <;> exact nameResolves_of_builtin (by decide)
    have hhalves : FieldsResolve declarations
        [("primary", .named (naming.namespaced address.names .slicePrimary)),
          ("items", .ofRef (.list (.named (naming.namespaced address.names .sliceItem))))] := by
      intro field hfield
      rw [List.mem_cons, List.mem_singleton] at hfield
      rcases hfield with rfl | rfl
      · exact Or.inr ⟨_, hprimary, rfl⟩
      · exact Or.inr ⟨_, hitems, rfl⟩
    exact fieldsResolve_append_iff.mpr ⟨hslice, hhalves⟩
  · intro name hname
    exact Or.inl (List.mem_singleton.mp hname)

/-- The union of a slice zone names the objects that are declared for its choices. -/
theorem resolves_zone {address : Address} {choices : List (String × Choice Field)} (name : String)
    (declared : DeclaresParts naming declarations (partsOfChoices address choices)) :
    (TypeDeclaration.union
      { name
        members := choices.map fun choice =>
          naming.namespaced (address.names ++ [choice.1]) .slice }).Resolves declarations := by
  intro member hmember
  obtain ⟨choice, hchoice, rfl⟩ := List.mem_map.mp hmember
  have hpart :
      ⟨address ++ [Segment.named choice.1], .choice choice.2⟩ ∈ partsOfChoices address choices :=
    mem_partsOfChoices.mpr ⟨choice, hchoice, mem_partsOfChoice.mpr (.inr (.inr rfl))⟩
  have hobject := declared _ hpart _ rfl
  simp only [Address.names_append, Address.names_named, Address.names_nil] at hobject
  exact ⟨_, hobject, rfl⟩

/-- **What is declared inside a field** refers to what is there, when all its parts are declared. -/
theorem resolves_parts (provides : ProvidesShared naming declarations) {field : Field} :
    ∀ {address : Address}, DeclaresParts naming declarations (field.parts address) →
      ∀ part ∈ field.parts address, ∀ declaration, part.declaration? naming = some declaration →
        declaration.Resolves declarations := by
  -- the same for the fields of a record, given each
  have lift : ∀ {address : Address} {fields : FieldMap},
      (∀ field ∈ fields, ∀ {address : Address}, DeclaresParts naming declarations
        (field.2.parts address) →
        ∀ part ∈ field.2.parts address, ∀ declaration, part.declaration? naming = some declaration →
          declaration.Resolves declarations) →
      DeclaresParts naming declarations (partsOfFields address fields) →
      ∀ part ∈ partsOfFields address fields, ∀ declaration,
        part.declaration? naming = some declaration →
        declaration.Resolves declarations := by
    intro address fields ih declared part hpart
    obtain ⟨field, hfield, hmem⟩ := mem_partsOfFields.mp hpart
    refine ih field hfield (declared.mono fun inner hinner => ?_) part hmem
    exact mem_partsOfFields.mpr ⟨field, hfield, hinner⟩
  induction field using Field.induction with
  | leaf kind extra =>
    intro address declared part hpart declaration hdeclaration
    rw [Field.parts, List.mem_singleton] at hpart
    subst hpart
    cases hdeclaration
  | image thumbnails extra =>
    intro address declared part hpart declaration hdeclaration
    rw [Field.parts, List.mem_cons, List.mem_map] at hpart
    rcases hpart with rfl | ⟨spec, _, rfl⟩ <;> cases hdeclaration
  | group fields extra ih =>
    intro address declared part hpart declaration hdeclaration
    rw [Field.parts] at declared hpart
    have hfields := declared.mono (List.subset_append_left _ _)
    rcases List.mem_append.mp hpart with hpart | hpart
    · exact lift ih hfields part hpart declaration hdeclaration
    · rw [List.mem_singleton] at hpart
      subst hpart
      cases hdeclaration
      exact resolves_objectType provides .group hfields
  | slices choices extra ih =>
    intro address declared part hpart declaration hdeclaration
    rw [Field.parts] at declared hpart
    have hchoices := declared.mono (List.subset_append_left _ _)
    rcases List.mem_append.mp hpart with hpart | hpart
    · obtain ⟨choice, hchoice, hmem⟩ := mem_partsOfChoices.mp hpart
      have hzone : DeclaresParts naming declarations
          (partsOfChoice (address ++ [Segment.named choice.1]) choice.2) :=
        hchoices.mono fun inner hinner => mem_partsOfChoices.mpr ⟨choice, hchoice, hinner⟩
      have hprimary := hzone.mono fun inner hinner => mem_partsOfChoice.mpr (.inl (.inl hinner))
      have hitems :=
        hzone.mono fun inner hinner => mem_partsOfChoice.mpr (.inr (.inl (.inl hinner)))
      rcases mem_partsOfChoice.mp hmem with (hmem | rfl) | (hmem | rfl) | rfl
      · exact lift (ih choice hchoice).1 hprimary part hmem declaration hdeclaration
      · cases hdeclaration
        exact resolves_objectType provides .slicePrimary hprimary
      · exact lift (ih choice hchoice).2 hitems part hmem declaration hdeclaration
      · cases hdeclaration
        exact resolves_objectType provides .sliceItem hitems
      · cases hdeclaration
        exact resolves_choice hzone
    · rw [List.mem_singleton] at hpart
      subst hpart
      cases hdeclaration
      exact resolves_zone _ hchoices

/-! ### Compiled types -/

/-- The fields inside the data of a custom type have their parts among its parts. -/
theorem partsOfFields_dataFields_subset (id : String) (type : CustomType) :
    partsOfFields [.named id, .structural "data"] type.dataFields ⊆ type.parts id := by
  intro part hpart
  obtain ⟨field, hfield, hmem⟩ := mem_partsOfFields.mp hpart
  rw [CustomType.dataFields, List.mem_filter, Bool.not_eq_true'] at hfield
  rw [← topAddress_of_not_uid id hfield.2] at hmem
  rw [CustomType.parts]
  exact List.mem_append_left _ (List.mem_flatMap.mpr ⟨field, hfield.1, hmem⟩)

/-- **What a compilation declares** refers to its own declarations and to shared types. -/
theorem resolves_compile (provides : ProvidesShared naming declarations) {id : String}
    {type : CustomType} {compiled : CompiledType} (h : compile naming id type = .ok compiled)
    (subset : compiled.declarations ⊆ declarations) :
    ∀ declaration ∈ compiled.declarations, declaration.Resolves declarations := by
  have declared : DeclaresParts naming declarations (type.parts id) := by
    intro part hpart declaration hdeclaration
    refine subset ?_
    rw [(compile_ok h).1]
    exact List.mem_filterMap.mpr ⟨part, hpart, hdeclaration⟩
  have hdata :
      (⟨[.named id, .structural "data"], .data type.dataFields⟩ : Part) ∈ type.parts id := by
    rw [CustomType.parts]
    simp
  intro declaration hmem
  rw [(compile_ok h).1, List.mem_filterMap] at hmem
  obtain ⟨part, hpart, hdeclaration⟩ := hmem
  have hparts := hpart
  rw [CustomType.parts, List.mem_append, List.mem_flatMap, List.mem_cons,
    List.mem_singleton] at hpart
  rcases hpart with ⟨field, hfield, hinner⟩ | rfl | rfl
  · refine resolves_parts provides (declared.mono fun other hother =>
      ?_) part hinner declaration hdeclaration
    rw [CustomType.parts]
    exact List.mem_append_left _ (List.mem_flatMap.mpr ⟨field, hfield, hother⟩)
  · cases hdeclaration
    exact resolves_objectType provides .data (declared.mono
      (partsOfFields_dataFields_subset id type))
  · cases hdeclaration
    refine ⟨fieldsResolve_append_iff.mpr
      ⟨?_, fieldsResolve_singleton (Or.inr ⟨_, declared _ hdata _ rfl, rfl⟩)⟩, ?_⟩
    · intro found hfound
      rw [Option.mem_toList, Option.map_eq_some_iff] at hfound
      obtain ⟨field, huid, rfl⟩ := hfound
      have hisUid : field.2.isUid = true := by
        rw [CustomType.uid?] at huid
        simpa using List.find?_some huid
      obtain ⟨extra, hleaf⟩ := Field.exists_of_isUid hisUid
      rw [baseName_declare, hleaf]
      exact nameResolves_of_builtin (by simp [builtinScalars, Field.typeRef, LeafKind.typeRef,
        TypeRef.baseName])
    · intro name hname
      rw [List.mem_cons, List.mem_singleton] at hname
      rcases hname with rfl | rfl
      · exact Or.inl rfl
      · exact Or.inr ⟨_, provides.interface, rfl⟩

/-! ### Shared types -/

theorem resolves_documentInterface (naming : TypeNaming) :
    (TypeDeclaration.interface (documentInterfaceType naming)).Resolves declarations := by
  intro field hfield
  refine nameResolves_of_builtin ?_
  revert field
  exact (by decide : ∀ field ∈ (documentInterfaceType {}).fields,
    field.2.typeRef.baseName ∈ builtinScalars)

/-- **The shared types** refer to built-in scalars and to each other. -/
theorem resolves_shared (provides : ProvidesShared naming declarations) :
    ∀ declaration ∈ sharedDeclarations naming, declaration.Resolves declarations := by
  have builtin {type : String} (h : type ∈ builtinScalars) (names : List String) :
      FieldsResolve declarations (fieldsOfType type names) :=
    fieldsResolve_ofType (nameResolves_of_builtin h) names
  have shared (type : SharedType) (names : List String) :
      FieldsResolve declarations (fieldsOfType (naming.shared type) names) :=
    fieldsResolve_ofType (provides.nameResolves type) names
  have string : ∀ names, FieldsResolve declarations (fieldsOfType "String" names) :=
    builtin (by decide)
  have int : ∀ names, FieldsResolve declarations (fieldsOfType "Int" names) := builtin (by decide)
  have json : ∀ names, FieldsResolve declarations (fieldsOfType "JSON" names) := builtin (by decide)
  have rendition : FieldsResolve declarations (renditionFields naming) := by
    simp only [renditionFields, fieldsResolve_append_iff, string, shared, true_and]
    exact builtin (by decide) _
  have alone {object : ObjectType} (h : FieldsResolve declarations object.fields)
      (hinterfaces : object.interfaces = []) :
        (TypeDeclaration.object object).Resolves declarations :=
    ⟨h, fun name hname => absurd (hinterfaces ▸ hname) List.not_mem_nil⟩
  intro declaration hmem
  simp only [sharedDeclarations, List.map_cons, List.map_nil, List.mem_cons, List.not_mem_nil,
    or_false] at hmem
  rcases hmem with rfl | rfl | rfl | rfl | rfl | rfl | rfl | rfl
  · exact resolves_documentInterface naming
  · exact alone (fieldsResolve_append_iff.mpr ⟨string _, json _⟩) rfl
  · exact alone (builtin (by decide) _) rfl
  · exact alone (fieldsResolve_append_iff.mpr ⟨string _, int _⟩) rfl
  · exact alone (int _) rfl
  · exact alone rendition rfl
  · have thumbnails : FieldsResolve declarations
        [("thumbnails", (FieldDecl.named (naming.shared .imageThumbnails)).withResolver
          .imageThumbnails)] :=
      fieldsResolve_singleton (provides.nameResolves .imageThumbnails)
    exact alone (fieldsResolve_append_iff.mpr ⟨rendition, thumbnails⟩) rfl
  · have boolean : ∀ names, FieldsResolve declarations (fieldsOfType "Boolean" names) :=
      builtin (by decide)
    have id : ∀ names, FieldsResolve declarations (fieldsOfType "ID" names) := builtin (by decide)
    have tags : FieldsResolve declarations [("tags", .ofRef (.list (.named "String")))] :=
      fieldsResolve_singleton (nameResolves_of_builtin (by decide))
    refine alone ?_ rfl
    simp only [linkType, fieldsResolve_append_iff, string, boolean, int, id, json, tags,
      shared, and_self]

/-! ### Collected types -/

/-- The union of documents names objects that are there. -/
theorem resolves_documentUnion {own : List TypeDeclaration} (subset : own ⊆ declarations) :
    (TypeDeclaration.union (documentUnion naming own)).Resolves declarations := by
  intro name hname
  obtain ⟨object, hobject, rfl⟩ := List.mem_map.mp hname
  obtain ⟨declaration, hdeclaration, hasObject⟩ :=
    List.mem_filterMap.mp (List.mem_of_mem_filter hobject)
  cases declaration with
  | object type =>
    cases hasObject
    exact ⟨_, subset hdeclaration, rfl⟩
  | _ => cases hasObject

/-- The type of thumbnails has fields of one shared type, if it has fields. -/
theorem resolves_thumbnailsType (provides : ProvidesShared naming declarations)
    (entries : List PathEntry) :
    (thumbnailsType naming entries).Resolves declarations := by
  rw [thumbnailsType]
  split
  · exact trivial
  · refine ⟨?_, fun _ h => absurd h List.not_mem_nil⟩
    intro field hfield
    obtain ⟨name, _, rfl⟩ := List.mem_map.mp hfield
    exact provides.nameResolves .imageThumbnail

theorem name_thumbnailsType (naming : TypeNaming) (entries : List PathEntry) :
    (thumbnailsType naming entries).name = naming.shared .imageThumbnails := by
  rw [thumbnailsType]
  split <;> rfl

namespace CommandLine

theorem providesShared_servedTogether (naming : TypeNaming) (types : List CompiledType) :
    ProvidesShared naming (servedTogether naming types) := by
  have hshared : sharedDeclarations naming ⊆ servedTogether naming types :=
    fun _ h => List.mem_append_left _ (List.mem_append_left _ h)
  refine ⟨?_, hshared List.mem_cons_self⟩
  intro shared
  cases shared with
  | allDocumentTypes => exact ⟨_, List.mem_append_right _ List.mem_cons_self, rfl⟩
  | imageThumbnails =>
    exact ⟨_, List.mem_append_right _ (List.mem_cons_of_mem _ List.mem_cons_self),
      name_thumbnailsType _ _⟩
  | document => exact ⟨_, hshared List.mem_cons_self, rfl⟩
  | structuredText =>
    exact ⟨.object (structuredTextType naming), hshared (by simp [sharedDeclarations]), rfl⟩
  | geoPoint => exact ⟨.object (geoPointType naming), hshared (by simp [sharedDeclarations]), rfl⟩
  | embed => exact ⟨.object (embedType naming), hshared (by simp [sharedDeclarations]), rfl⟩
  | link => exact ⟨.object (linkType naming), hshared (by simp [sharedDeclarations]), rfl⟩
  | image => exact ⟨.object (imageType naming), hshared (by simp [sharedDeclarations]), rfl⟩
  | imageDimensions =>
    exact ⟨.object (imageDimensionsType naming), hshared (by simp [sharedDeclarations]), rfl⟩
  | imageThumbnail =>
    exact ⟨.object (imageThumbnailType naming), hshared (by simp [sharedDeclarations]), rfl⟩

/-- **What is served together** refers to nothing else. -/
theorem resolves_servedTogether {types : List CompiledType}
    (h : ∀ compiled ∈ types, ∃ id type, compile naming id type = .ok compiled) :
    ∀ declaration ∈ servedTogether naming types,
      declaration.Resolves (servedTogether naming types) := by
  have provides := providesShared_servedTogether naming types
  have hown : sharedDeclarations naming ++ types.flatMap CompiledType.declarations ⊆
      servedTogether naming types := fun _ h => List.mem_append_left _ h
  intro declaration hmem
  rcases List.mem_append.mp hmem with hmem | hmem
  · rcases List.mem_append.mp hmem with hmem | hmem
    · exact resolves_shared provides declaration hmem
    · obtain ⟨compiled, hcompiled, hdeclaration⟩ := List.mem_flatMap.mp hmem
      obtain ⟨id, type, hcompile⟩ := h compiled hcompiled
      refine resolves_compile provides hcompile (fun other hother => ?_) declaration hdeclaration
      exact hown (List.mem_append_right _ (List.mem_flatMap.mpr ⟨compiled, hcompiled, hother⟩))
  · rw [List.mem_cons, List.mem_singleton] at hmem
    rcases hmem with rfl | rfl
    · exact resolves_documentUnion hown
    · exact resolves_thumbnailsType provides _

/-- **No name is left open.**  Of custom types that all compile, the declarations served for them
together, and those served for each alone, refer to built-in scalars and to each other only. -/
theorem served_declarations_resolve {types : List (String × CustomType)}
    {compiled : List CompiledType}
    (h : List.Forall₂ (fun type result => compile naming type.1 type.2 = .ok result)
      types compiled) :
    (∀ declaration ∈ servedTogether naming compiled,
        declaration.Resolves (servedTogether naming compiled)) ∧
      ∀ result ∈ compiled, ∀ declaration ∈ servedDeclarations naming result,
        declaration.Resolves (servedDeclarations naming result) := by
  have hcompile : ∀ result ∈ compiled, ∃ id type, compile naming id type = .ok result := by
    intro result hresult
    obtain ⟨index, hindex, rfl⟩ := List.mem_iff_getElem.mp hresult
    have hlength := h.length_eq
    exact ⟨_, _, h.get (hlength ▸ hindex) hindex⟩
  refine ⟨resolves_servedTogether hcompile, ?_⟩
  intro result hresult
  rw [← servedTogether_singleton]
  refine resolves_servedTogether fun other hother => ?_
  rw [List.mem_singleton] at hother
  exact hother ▸ hcompile result hresult

/-- The sample, with its slices and thumbnails, served beside a custom type without fields. -/
theorem served_declarations_resolve_sample :
    ∃ compiled, List.Forall₂ (fun type result => compile {} type.1 type.2 = .ok result)
        [("page", CustomType.sample), ("note", CustomType.empty)] compiled ∧
      ∀ declaration ∈ servedTogether {} compiled,
      declaration.Resolves (servedTogether {} compiled) := by
  obtain ⟨page, hpage⟩ := exists_compile_sample
  obtain ⟨note, hnote⟩ : ∃ note, compile {} "note" .empty = .ok note :=
    exists_compile_iff.mpr (by decide)
  have h : List.Forall₂ (fun type result => compile {} type.1 type.2 = .ok result)
      [("page", CustomType.sample), ("note", CustomType.empty)] [page, note] :=
    .cons hpage (.cons hnote .nil)
  exact ⟨_, h, (served_declarations_resolve h).1⟩

end CommandLine

end ContentGraph
