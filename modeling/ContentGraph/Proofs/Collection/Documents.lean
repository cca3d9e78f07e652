import ContentGraph.Proofs.Collection.Names

/-!
# The union of documents

The union is collected from all declarations together, by the names of the interfaces that they
implement.  Slices implement the node interface and no other, and everything else below a root
implements none, so what is collected are the roots and nothing but the roots.

* `TypeDeclaration.isDocument` — the declarations that the union takes up;
* `isDocument_declaration?_iff` — of the parts of a custom type, these are the roots;
* `filter_isDocument_compile` — a compiled type has exactly one;
* `documentUnion_lists_roots` — the union of several types lists their roots in order.
-/

namespace ContentGraph

/-- Whether a declaration is an object type that implements both the node interface and that of
documents. -/
def TypeDeclaration.isDocument (naming : TypeNaming) : TypeDeclaration → Bool
  | .object type => type.hasInterface nodeInterface && type.hasInterface naming.documentInterface
  | _ => false

variable {naming : TypeNaming}

/-- The members of the union are the names of the documents among the declarations, in order. -/
theorem members_documentUnion (declarations : List TypeDeclaration) :
    (documentUnion naming declarations).members =
      (declarations.filter (TypeDeclaration.isDocument naming)).map TypeDeclaration.name := by
  show ((declarations.filterMap TypeDeclaration.asObject?).filter _).map ObjectType.name = _
  induction declarations with
  | nil => rfl
  | cons declaration rest ih =>
    cases declaration with
    | object type =>
      show ((type :: rest.filterMap TypeDeclaration.asObject?).filter _).map _ = _
      rw [List.filter_cons, List.filter_cons]
      show (if (TypeDeclaration.object type).isDocument naming = true then _
        else _ : List ObjectType).map _ = _
      by_cases h : (TypeDeclaration.object type).isDocument naming = true
      · rw [if_pos h, if_pos h, List.map_cons, List.map_cons, ih]
        rfl
      · rw [if_neg h, if_neg h, ih]
    | interface type => exact ih
    | union type => exact ih
    | scalar type => exact ih

/-! ### Parts -/

/-- An object type without interfaces is no document. -/
theorem isDocument_of_interfaces_nil {type : ObjectType} (h : type.interfaces = []) :
    (TypeDeclaration.object type).isDocument naming = false := by
  rw [TypeDeclaration.isDocument, ObjectType.hasInterface, h]
  rfl

/-- Slices are nodes and no documents. -/
theorem isDocument_sliceType (name primary item : String) :
    (TypeDeclaration.object (sliceType name primary item)).isDocument naming = false := by
  have hdocument : (sliceType name primary item).hasInterface naming.documentInterface = false := by
    simpa [ObjectType.hasInterface, sliceType] using naming.documentInterface_ne_node
  rw [TypeDeclaration.isDocument, hdocument, Bool.and_false]

theorem isDocument_rootType (naming : TypeNaming) (id : String) (fields : FieldMap) :
    (TypeDeclaration.object (rootType naming id fields)).isDocument naming = true := by
  simp [TypeDeclaration.isDocument, ObjectType.hasInterface, rootType]

/-- **Only roots are documents**: of what is declared for the parts of a custom type, neither the
data type, nor a group, nor a slice, nor a half of one. -/
theorem isDocument_declaration?_iff {part : Part} {declaration : TypeDeclaration}
    (h : part.declaration? naming = some declaration) :
    declaration.isDocument naming = true ↔ ∃ uid, part.shape = .document uid := by
  obtain ⟨address, shape⟩ := part
  have inner (hdocument : declaration.isDocument naming = false) (hshape : ∀ uid,
    shape ≠ .document uid) :
      declaration.isDocument naming = true ↔ ∃ uid, shape = .document uid := by
    rw [hdocument]
    exact iff_of_false Bool.false_ne_true fun ⟨uid, heq⟩ => hshape uid heq
  cases shape with
  | leaf kind => cases h
  | image thumbnails => cases h
  | thumbnail => cases h
  | group fields =>
    cases h; exact inner (isDocument_of_interfaces_nil rfl) fun _ => Shape.noConfusion
  | primary fields =>
    cases h; exact inner (isDocument_of_interfaces_nil rfl) fun _ => Shape.noConfusion
  | items fields =>
    cases h; exact inner (isDocument_of_interfaces_nil rfl) fun _ => Shape.noConfusion
  | data fields =>
    cases h; exact inner (isDocument_of_interfaces_nil rfl) fun _ => Shape.noConfusion
  | slices choices => cases h; exact inner rfl fun _ => Shape.noConfusion
  | choice choice => cases h; exact inner (isDocument_sliceType _ _ _) fun _ => Shape.noConfusion
  | document uid =>
    cases h
    refine iff_of_true ?_ ⟨uid, rfl⟩
    simp [TypeDeclaration.isDocument, ObjectType.hasInterface]

/-! ### Compiled types -/

variable {id : String} {type : CustomType} {compiled : CompiledType}

/-- No shared type is a document. -/
theorem isDocument_shared :
    ∀ declaration ∈ sharedDeclarations naming, declaration.isDocument naming = false := by
  intro declaration hmem
  rw [sharedDeclarations, List.mem_cons, List.mem_map] at hmem
  rcases hmem with rfl | ⟨type, htype, rfl⟩
  · rfl
  · apply isDocument_of_interfaces_nil
    revert type
    simp only [List.forall_mem_cons]
    exact ⟨rfl, rfl, rfl, rfl, rfl, rfl, rfl, fun _ h => absurd h List.not_mem_nil⟩

/-- **A compiled type has one document**, its root. -/
theorem filter_isDocument_compile (h : compile naming id type = .ok compiled) :
    compiled.declarations.filter (TypeDeclaration.isDocument naming) =
      [.object (rootType naming id type.fields)] := by
  have hinner : ((type.fields.flatMap fun field => field.2.parts (topAddress id field)).filterMap
      (Part.declaration? naming)).filter (TypeDeclaration.isDocument naming) = [] := by
    rw [List.filter_eq_nil_iff]
    intro declaration hdeclaration hdocument
    obtain ⟨part, hpart, hdeclared⟩ := List.mem_filterMap.mp hdeclaration
    obtain ⟨field, _, hfield⟩ := List.mem_flatMap.mp hpart
    obtain ⟨uid, hshape⟩ := (isDocument_declaration?_iff hdeclared).mp hdocument
    exact shape_ne_document hfield uid hshape
  rw [(compile_ok h).1, CustomType.parts, List.filterMap_append, List.filter_append, hinner,
    List.nil_append]
  show [TypeDeclaration.object _, .object (rootType naming id type.fields)].filter _ = _
  rw [List.filter_cons_of_neg, List.filter_cons_of_pos, List.filter_nil]
  · exact isDocument_rootType naming id type.fields
  · rw [isDocument_of_interfaces_nil rfl]
    exact Bool.false_ne_true

/-- The documents of several compiled types are their roots, one for each type, in order. -/
theorem filter_isDocument_flatMap {types : List (String × CustomType)}
    {compiled : List CompiledType}
    (h : List.Forall₂ (fun type result => compile naming type.1 type.2 = .ok result)
      types compiled) :
    (compiled.flatMap CompiledType.declarations).filter (TypeDeclaration.isDocument naming) =
      types.map fun type => .object (rootType naming type.1 type.2.fields) := by
  induction h with
  | nil => rfl
  | cons hcompile _ ih =>
    rw [List.flatMap_cons, List.filter_append, filter_isDocument_compile hcompile, ih,
      List.map_cons, List.singleton_append]

/-- **The union of documents lists exactly the roots.**  Collected over the shared types and the
declarations of custom types that all compile, it has the root name of each custom type once for
each, in order; and it takes them from the root declarations alone, from no shared type and from no
part below a root, whatever their names are. -/
theorem documentUnion_lists_roots {types : List (String × CustomType)}
    {compiled : List CompiledType}
    (h : List.Forall₂ (fun type result => compile naming type.1 type.2 = .ok result)
      types compiled) :
    let declarations := sharedDeclarations naming ++ compiled.flatMap CompiledType.declarations
    let documents := declarations.filter (TypeDeclaration.isDocument naming)
    (documentUnion naming declarations).members =
      types.map (fun type => naming.documentType type.1) ∧
      (documentUnion naming declarations).members = documents.map TypeDeclaration.name ∧
      documents = types.map (fun type => .object (rootType naming type.1 type.2.fields)) ∧
      (∀ declaration ∈ sharedDeclarations naming, declaration.isDocument naming = false) ∧
      ∀ type ∈ types, ∀ part ∈ type.2.parts type.1, ∀ declaration,
        part.declaration? naming = some declaration →
        (declaration.isDocument naming = true ↔
          part = ⟨[.named type.1], .document type.2.uid?⟩) := by
  intro declarations documents
  have hdocuments : documents = types.map fun type =>
      .object (rootType naming type.1 type.2.fields) := by
    have hshared : (sharedDeclarations naming).filter (TypeDeclaration.isDocument naming) = [] := by
      rw [List.filter_eq_nil_iff]
      intro declaration hmem hdocument
      rw [isDocument_shared declaration hmem] at hdocument
      cases hdocument
    show (sharedDeclarations naming ++ _).filter _ = _
    rw [List.filter_append, hshared, List.nil_append, filter_isDocument_flatMap h]
  have hmembers := @members_documentUnion naming declarations
  refine ⟨?_, hmembers, hdocuments, isDocument_shared, ?_⟩
  · rw [hmembers]
    show documents.map _ = _
    rw [hdocuments, List.map_map]
    rfl
  · intro type _ part hpart declaration hdeclaration
    rw [isDocument_declaration?_iff hdeclaration]
    constructor
    · rintro ⟨uid, hshape⟩
      rcases eq_root_or_shape_ne hpart with hroot | hbelow
      · exact hroot
      · exact absurd hshape (hbelow uid)
    · rintro rfl
      exact ⟨_, rfl⟩

/-- Two types, the root of the second named as the data type of the first: the union has both
roots. -/
theorem documentUnion_lists_roots_sample :
    ∃ compiled, List.Forall₂ (fun type result => compile {} type.1 type.2 = .ok result)
        [("page", CustomType.sample), ("page_data_type", CustomType.empty)] compiled ∧
      (documentUnion {} (sharedDeclarations
        {} ++ compiled.flatMap CompiledType.declarations)).members =
        ["PrismicPage", "PrismicPageDataType"] := by
  obtain ⟨page, hpage⟩ := exists_compile_sample
  obtain ⟨other, hother⟩ : ∃ other, compile {} "page_data_type" .empty = .ok other :=
    exists_compile_iff.mpr (by decide)
  have h : List.Forall₂ (fun type result => compile {} type.1 type.2 = .ok result)
      [("page", CustomType.sample), ("page_data_type", CustomType.empty)] [page, other] :=
    .cons hpage (.cons hother .nil)
  refine ⟨_, h, (documentUnion_lists_roots h).1.trans ?_⟩
  decide

end ContentGraph
