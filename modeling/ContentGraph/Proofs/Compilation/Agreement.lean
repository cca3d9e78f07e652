import ContentGraph.Proofs.Compilation.Children

/-!
# The two outputs of a compilation agree

A compilation declares types and registers paths, at different points of its walk.  The two lists
tell the same story: the types declared are those of the containers registered, in the same order,
and a declared type lists what is registered one segment below its container.

* `PathEntry.baseName` — the name of the registered type, without the brackets of a list;
* `Agrees` — what a container's declaration says, against what is registered below the container;
* `declarations_agree` — every compilation's declarations agree with its registry.
-/

namespace ContentGraph

/-! ### Containers and their names -/

/-- Whether a type is generated for the values of a kind. -/
def PathKind.isContainer : PathKind → Bool
  | .group | .slices | .slice | .slicePrimary | .sliceItems | .data | .document => true
  | _ => false

/-- Whether values of a kind are lists of the type generated for them. -/
def PathKind.isListed : PathKind → Bool
  | .group | .slices | .sliceItems => true
  | _ => false

/-- The name of the registered type, without the brackets of a list. -/
def PathEntry.baseName (entry : PathEntry) : String :=
  if entry.kind.isListed then String.ofList entry.typeName.toList.tail.dropLast else entry.typeName

/-- The fields of an object type with their types as written. -/
def ObjectType.rendered (object : ObjectType) : List (String × String) :=
  object.fields.map fun field => (field.1, field.2.typeRef.render)

theorem baseName_listed (path : Path) (name : String) {kind : PathKind} (h : kind.isListed = true) :
    PathEntry.baseName ⟨path, "[" ++ name ++ "]", kind⟩ = name := by
  have hchars : ("[" ++ name ++ "]").toList = '[' :: (name.toList ++ [']']) := by
    rw [String.toList_append, String.toList_append]
    rfl
  rw [PathEntry.baseName, if_pos h, hchars, List.tail_cons, List.dropLast_concat,
    String.ofList_toList]

/-- **A type is generated for containers**, under the base name of their entries. -/
theorem generated?_eq (typePrefix : String) (part : Part) :
    part.generated? typePrefix =
      if (part.entry typePrefix).kind.isContainer then some (part.entry typePrefix).baseName
      else none := by
  obtain ⟨address, shape⟩ := part
  cases shape with
  | leaf kind => cases kind <;> rfl
  | image thumbnails => rfl
  | thumbnail => rfl
  | group fields => exact congrArg some (baseName_listed _ _ rfl).symm
  | slices choices => exact congrArg some (baseName_listed _ _ rfl).symm
  | primary fields => rfl
  | items fields => exact congrArg some (baseName_listed _ _ rfl).symm
  | choice choice => rfl
  | data fields => rfl
  | document uid => rfl

theorem filterMap_generated? (typePrefix : String) (parts : List Part) :
    parts.filterMap (Part.generated? typePrefix) =
      ((parts.map (Part.entry typePrefix)).filter fun entry => entry.kind.isContainer).map
        PathEntry.baseName := by
  induction parts with
  | nil => rfl
  | cons part rest ih =>
    have hpart := generated?_eq typePrefix part
    rw [List.map_cons]
    by_cases h : (part.entry typePrefix).kind.isContainer = true
    · rw [if_pos h] at hpart
      rw [List.filterMap_cons_some hpart, List.filter_cons, if_pos h, List.map_cons, ih]
    · rw [if_neg h] at hpart
      rw [List.filterMap_cons_none hpart, List.filter_cons, if_neg h, ih]

/-! ### Declared fields against registered children -/

/-- **The fields declared for a record** are its children. -/
theorem rendered_objectType (naming : TypeNaming) (address : Address) (name : String)
    (fields : FieldMap) :
    ObjectType.rendered { name, fields := declareFields naming address.names fields } =
      fields.map fun field =>
        Part.child naming.typePrefix address (.named field.1) field.2.shape := by
  rw [ObjectType.rendered, declareFields, List.map_map]
  refine List.map_congr_left fun field _ => ?_
  have hnames : Address.names (address ++ [Segment.named field.1]) = address.names ++ [field.1] :=
    Address.names_append _ _
  rw [Function.comp_apply, typeRef_declare, ← hnames, render_typeRef]
  rfl

/-- The types of the halves of a choice are the last fields declared for it. -/
theorem rendered_sliceType (naming : TypeNaming) (address : Address) (choice : Choice Field)
    (name : String) :
    (sliceType name (naming.namespaced address.names .slicePrimary)
        (naming.namespaced address.names .sliceItem)).rendered.drop 2 =
      [Part.child naming.typePrefix address (.structural "primary") (.primary choice.primary),
        Part.child naming.typePrefix address (.structural "items") (.items choice.items)] := by
  have hprimary := typeName_eq naming (address ++ [Segment.structural "primary"]) .slicePrimary
  have hitems := typeName_eq naming (address ++ [Segment.structural "items"]) .sliceItem
  rw [Address.names_append, Address.names_structural, Address.names_nil, List.append_nil]
    at hprimary hitems
  rw [← hprimary, ← hitems]
  simp [ObjectType.rendered, sliceType, FieldDecl.named, FieldDecl.ofRef, Part.child,
    Part.registered, Segment.text, TypeRole.suffix, primarySegment, itemsSegment]

/-- The identifier is declared with the type it is registered with. -/
theorem render_declare_uid (naming : TypeNaming) (names : List String) (address : Address)
    {field : Field} (h : field.isUid = true) :
    (field.declare naming names).typeRef.render =
      (Part.registered naming.typePrefix ⟨address, field.shape⟩).1 := by
  obtain ⟨extra, rfl⟩ := Field.exists_of_isUid h
  rw [typeRef_declare, ← render_typeRef]
  rfl

/-- **The fields declared for the root** are the identifier and the data. -/
theorem rendered_root (naming : TypeNaming) (id : String) (type : CustomType)
    (interfaces : List String) (name : String) :
    ObjectType.rendered
        { name
          fields := (type.uid?.map fun field => (field.1, field.2.declare naming [id])).toList
            ++ [(dataSegment, .named (naming.namespaced [id] .data))]
          interfaces } =
      type.uid?.toList.map (fun field =>
        Part.child naming.typePrefix [.named id] (.named field.1) field.2.shape)
      ++ [Part.child naming.typePrefix [.named id] (.structural "data")
        (.data type.dataFields)] := by
  have hdata := typeName_eq naming [.named id, .structural "data"] .data
  have hlast : ObjectType.rendered
      { name, fields := [(dataSegment, .named (naming.namespaced [id] .data))] } =
        [Part.child naming.typePrefix [.named id] (.structural "data")
          (.data type.dataFields)] := by
    rw [ObjectType.rendered, List.map_singleton, FieldDecl.named, TypeRef.render_named]
    exact congrArg (fun name => [("data", name)]) hdata.symm
  rw [ObjectType.rendered, List.map_append]
  refine congrArg₂ (· ++ ·) ?_ hlast
  cases huid : type.uid? with
  | none => rfl
  | some field =>
    have hisUid : field.2.isUid = true := by
      rw [CustomType.uid?] at huid
      simpa using List.find?_some huid
    rw [Option.map_some, Option.toList_some, Option.toList_some, List.map_singleton,
      List.map_singleton, render_declare_uid naming [id]
        ([Segment.named id] ++ [Segment.named field.1]) hisUid]
    rfl

/-! ### Agreement -/

/-- The union that the first declaration of a name declares. -/
def CompiledType.union? (compiled : CompiledType) (name : String) : Option UnionType :=
  (compiled.declaration? name).bind TypeDeclaration.asUnion?

/-- What the declaration of a container's type says, against what is registered below the
container. -/
def Agrees (naming : TypeNaming) (id : String) (type : CustomType) (compiled : CompiledType)
    (entry : PathEntry) : Prop :=
  let children := compiled.paths.children entry.path
  match entry.kind with
  | .data | .group | .slicePrimary | .sliceItems =>
    ∃ object, compiled.object? entry.baseName = some object ∧ object.rendered = children
  | .document =>
    ∃ object, compiled.object? entry.baseName = some object ∧
      object.interfaces = [nodeInterface, naming.documentInterface] ∧
      Keyed.keys object.fields = (type.uid?.map Prod.fst).toList ++ ["data"] ∧
      object.rendered = children
  | .slice =>
    ∃ object, compiled.object? entry.baseName = some object ∧
      object.interfaces = [nodeInterface] ∧
      Keyed.keys object.fields = ["slice_type", "slice_label", "primary", "items"] ∧
      object.rendered.drop 2 = children
  | .slices =>
    ∃ address choices, ⟨address, .slices choices⟩ ∈ type.parts id ∧ address.path = entry.path ∧
      ∃ union, compiled.union? entry.baseName = some union ∧
        union.members = children.map Prod.snd ∧ children.map Prod.fst = Keyed.keys choices
  | _ => True

variable {naming : TypeNaming} {id : String} {type : CustomType} {compiled : CompiledType}

/-- The names declared are those generated for the parts. -/
theorem names_compile (h : compile naming id type = .ok compiled) :
    compiled.declarations.map TypeDeclaration.name =
      (type.parts id).filterMap (Part.generated? naming.typePrefix) := by
  rw [(compile_ok h).1, map_name_filterMap]

/-- **A part's declaration is found** under the base name of its entry. -/
theorem declaration?_of_mem (h : compile naming id type = .ok compiled) {part : Part}
    (hpart : part ∈ type.parts id) {declaration : TypeDeclaration}
    (hdeclaration : part.declaration? naming = some declaration) :
    compiled.declaration? (part.entry naming.typePrefix).baseName = some declaration := by
  have hnodup : (compiled.declarations.map TypeDeclaration.name).Nodup := by
    rw [names_compile h]
    exact (exists_compile_iff.mp ⟨compiled, h⟩).2.1
  have hmem : declaration ∈ compiled.declarations := by
    rw [(compile_ok h).1]
    exact List.mem_filterMap.mpr ⟨part, hpart, hdeclaration⟩
  have hname : (part.entry naming.typePrefix).baseName = declaration.name := by
    have hgenerated := Part.name_declaration? naming part
    rw [hdeclaration, generated?_eq] at hgenerated
    split at hgenerated
    · exact (Option.some.inj hgenerated).symm
    · cases hgenerated
  rw [hname]
  exact find?_of_mem hnodup hmem

theorem object?_of_mem (h : compile naming id type = .ok compiled) {part : Part}
    (hpart : part ∈ type.parts id) {object : ObjectType}
    (hdeclaration : part.declaration? naming = some (.object object)) :
    compiled.object? (part.entry naming.typePrefix).baseName = some object := by
  rw [CompiledType.object?, declaration?_of_mem h hpart hdeclaration]
  rfl

theorem union?_of_mem (h : compile naming id type = .ok compiled) {part : Part}
    (hpart : part ∈ type.parts id) {union : UnionType}
    (hdeclaration : part.declaration? naming = some (.union union)) :
    compiled.union? (part.entry naming.typePrefix).baseName = some union := by
  rw [CompiledType.union?, declaration?_of_mem h hpart hdeclaration]
  rfl

/-- A record's declaration lists the children of the record. -/
theorem agrees_record (h : compile naming id type = .ok compiled) {address : Address}
    {shape : Shape} {fields : FieldMap} (role : TypeRole) (hpart : ⟨address, shape⟩ ∈ type.parts id)
    (hdeclaration : Part.declaration? naming ⟨address, shape⟩ =
      some (Part.objectType naming address.names role fields))
    (hholds : compiled.paths.Holds naming.typePrefix address
      (partsOfFields address fields ++ [⟨address, shape⟩])) :
    ∃ object, compiled.object? (Part.entry naming.typePrefix ⟨address, shape⟩).baseName =
      some object ∧
      object.rendered = compiled.paths.children address.path := by
  refine ⟨_, object?_of_mem h hpart hdeclaration, ?_⟩
  rw [rendered_objectType, children_record hholds]

/-- **A held part agrees** with its declaration. -/
theorem agrees_of_holds (h : compile naming id type = .ok compiled) {part : Part}
    (hpart : part ∈ type.parts id)
    (hholds : compiled.paths.Holds naming.typePrefix part.address part.subtree) :
    Agrees naming id type compiled (part.entry naming.typePrefix) := by
  obtain ⟨address, shape⟩ := part
  cases shape with
  | leaf kind => cases kind <;> exact trivial
  | image thumbnails => exact trivial
  | thumbnail => exact trivial
  | group fields => exact agrees_record h .group hpart rfl hholds
  | primary fields => exact agrees_record h .slicePrimary hpart rfl hholds
  | items fields => exact agrees_record h .sliceItem hpart rfl hholds
  | data fields => exact agrees_record h .data hpart rfl hholds
  | choice choice =>
    refine ⟨_, object?_of_mem h hpart rfl, rfl, rfl, ?_⟩
    rw [rendered_sliceType naming address choice]
    exact (children_choice hholds).symm
  | slices choices =>
    have hchildren : compiled.paths.children address.path = _ := children_zone hholds
    refine ⟨address, choices, hpart, rfl, _, union?_of_mem h hpart rfl, ?_, ?_⟩
    · rw [Part.entry_path, Part.path_mk, hchildren, List.map_map]
      refine List.map_congr_left fun choice _ => ?_
      have hname := typeName_eq naming (address ++ [Segment.named choice.1]) .slice
      rw [Address.names_append, Address.names_named, Address.names_nil] at hname
      exact hname.symm
    · rw [Part.entry_path, Part.path_mk, hchildren, List.map_map]
      rfl
  | document uid =>
    -- below a root there is at least the root
    have hentry : Part.entry naming.typePrefix ⟨address, .document uid⟩ ∈
        compiled.paths.below address.path := by
      rw [Registry.mem_below, (compile_ok h).2]
      exact ⟨List.mem_map_of_mem hpart, List.prefix_rfl⟩
    rw [hholds] at hentry
    exact absurd hentry List.not_mem_nil

/-- **The root agrees** with its declaration. -/
theorem agrees_document (h : compile naming id type = .ok compiled) :
    Agrees naming id type compiled
      (Part.entry naming.typePrefix ⟨[.named id], .document type.uid?⟩) := by
  have hpart : ⟨[.named id], .document type.uid?⟩ ∈ type.parts id := by
    rw [CustomType.parts]
    simp
  refine ⟨_, object?_of_mem h hpart rfl, rfl, ?_, ?_⟩
  · cases type.uid? <;> rfl
  · exact (rendered_root naming id type _ _).trans (children_document h).symm

/-- **Every part agrees** with its declaration. -/
theorem agrees_of_mem (h : compile naming id type = .ok compiled) {part : Part}
    (hpart : part ∈ type.parts id) :
    Agrees naming id type compiled (part.entry naming.typePrefix) := by
  have hdata := holds_data h
  rcases CustomType.mem_parts_cases hpart with ⟨name, rfl⟩ | ⟨field, hfield, hmem⟩ | rfl | rfl
  · -- the identifier is a leaf, about which nothing is said
    exact trivial
  · exact agrees_of_holds h hpart (holds_subtree (hdata.field_of_mem hfield) part hmem)
  · exact agrees_of_holds h hpart hdata
  · exact agrees_document h

/-- **The two outputs agree.**  The names declared are the base names of the containers registered,
in order and without repetition, and every container's declaration agrees with what is registered
below it. -/
theorem declarations_agree (h : compile naming id type = .ok compiled) :
    compiled.declarations.map TypeDeclaration.name =
        (compiled.paths.entries.filter fun entry => entry.kind.isContainer).map PathEntry.baseName ∧
      (compiled.declarations.map TypeDeclaration.name).Nodup ∧
      ∀ entry ∈ compiled.paths.entries, Agrees naming id type compiled entry := by
  refine ⟨?_, ?_, ?_⟩
  · rw [names_compile h, (compile_ok h).2, filterMap_generated?]
  · rw [names_compile h]
    exact (exists_compile_iff.mp ⟨compiled, h⟩).2.1
  · intro entry hentry
    rw [(compile_ok h).2] at hentry
    obtain ⟨part, hpart, rfl⟩ := List.mem_map.mp hentry
    exact agrees_of_mem h hpart

/-- The declarations and the registry of the sample: its seven types, and what is declared for the
root, for the data and for a slice. -/
theorem declarations_agree_sample :
    ∃ compiled, compile {} "page" .sample = .ok compiled ∧
      compiled.declarations.map TypeDeclaration.name =
        (compiled.paths.entries.filter fun entry => entry.kind.isContainer).map PathEntry.baseName ∧
      (compiled.declarations.map TypeDeclaration.name).Nodup ∧
      compiled.declarations.map TypeDeclaration.name =
        ["PrismicPageBodyQuotePrimaryGroupType", "PrismicPageBodyQuotePrimaryType",
          "PrismicPageBodyQuoteItemType", "PrismicPageBodyQuoteSlice", "PrismicPageBodySlicesType",
          "PrismicPageDataType", "PrismicPage"] ∧
      (⟨["page"], "PrismicPage", .document⟩ ∈ compiled.paths.entries ∧
        ∃ root, compiled.object? "PrismicPage" = some root ∧
          root.interfaces = ["Node", "PrismicDocument"] ∧
          root.rendered = [("uid", "String!"), ("data", "PrismicPageDataType")]) ∧
      (⟨["page", "data"], "PrismicPageDataType", .data⟩ ∈ compiled.paths.entries ∧
        ∃ data, compiled.object? "PrismicPageDataType" = some data ∧
          data.rendered =
            [("body", "[PrismicPageBodySlicesType]"), ("text", "PrismicStructuredTextType")]) ∧
      ⟨["page", "data", "body", "quote"], "PrismicPageBodyQuoteSlice", .slice⟩ ∈
          compiled.paths.entries ∧
        ∃ slice, compiled.object? "PrismicPageBodyQuoteSlice" = some slice ∧
          slice.interfaces = ["Node"] ∧
          slice.rendered.drop 2 =
            [("primary", "PrismicPageBodyQuotePrimaryType"),
              ("items", "[PrismicPageBodyQuoteItemType]")] := by
  obtain ⟨compiled, h⟩ := exists_compile_sample
  obtain ⟨hnames, hnodup, hagrees⟩ := declarations_agree h
  obtain ⟨-, hentries⟩ := compile_ok h
  have hdeclared := hnames
  rw [hentries] at hdeclared
  have hchildren : ∀ path, compiled.paths.children path =
      ((CustomType.sample.parts "page").map (Part.entry "Prismic")).filterMap
        (Registry.childOf? path) := by
    intro path
    rw [Registry.children, hentries]
    rfl
  -- the three containers are registered, and so their declarations agree
  have hroot : ⟨["page"], "PrismicPage", .document⟩ ∈ compiled.paths.entries := by
    rw [hentries]
    decide
  have hdata : ⟨["page", "data"], "PrismicPageDataType", .data⟩ ∈ compiled.paths.entries := by
    rw [hentries]
    decide
  have hslice : ⟨["page", "data", "body", "quote"], "PrismicPageBodyQuoteSlice", .slice⟩ ∈
      compiled.paths.entries := by
    rw [hentries]
    decide
  obtain ⟨root, hrootType, hrootInterfaces, -, hrootFields⟩ := hagrees _ hroot
  obtain ⟨data, hdataType, hdataFields⟩ := hagrees _ hdata
  obtain ⟨slice, hsliceType, hsliceInterfaces, -, hsliceFields⟩ := hagrees _ hslice
  refine ⟨compiled, h, hnames, hnodup, ?_,
    ⟨hroot, root, hrootType, hrootInterfaces.trans (by decide), ?_⟩,
    ⟨hdata, data, hdataType, ?_⟩,
    hslice, slice, hsliceType, hsliceInterfaces.trans (by decide), ?_⟩
  · rw [hdeclared]
    decide
  · rw [hrootFields, hchildren]
    decide
  · rw [hdataFields, hchildren]
    decide
  · rw [hsliceFields, hchildren]
    decide

end ContentGraph
