import ContentGraph.Proofs.Compilation.Emitted
import Mathlib.Data.List.Forall2

/-!
# Compiling under another prefix

Every generated name starts with the type prefix, and a compilation compares names with names and
paths with paths. Two runs over one custom type under two prefixes therefore stay side by side,
emission by emission: they complete together or stop at the same clash, and what they produce
differs in the prefix alone.

* `SwapsPrefix` — one name with its prefix replaced is the other;
* `TypeDeclaration.Reprefixed`, `PathEntry.Reprefixed`, `SchemaError.Reprefixed` — the same under
  another prefix;
* `reprefixed_emissions` — the walk emits the same under both prefixes;
* `Output.Reprefixed.step`, `Output.Reprefixed.run` — so one step, and a whole run, do the same;
* `compile_reprefixed` — the prefix only renames.
-/

namespace ContentGraph

/-! ### Names under two prefixes -/

/-- The second name is the first with its leading `p` replaced by `q`. -/
def SwapsPrefix (p q name other : String) : Prop := ∃ rest, name = p ++ rest ∧ other = q ++ rest

variable {p q : String}

theorem swapsPrefix_namespaced (p q : String) (names : List String) (role : TypeRole) :
    SwapsPrefix p q ((⟨p⟩ : TypeNaming).namespaced names role)
      ((⟨q⟩ : TypeNaming).namespaced names role) :=
  ⟨_, rfl, rfl⟩

theorem swapsPrefix_shared (p q : String) (type : SharedType) :
    SwapsPrefix p q ((⟨p⟩ : TypeNaming).shared type) ((⟨q⟩ : TypeNaming).shared type) :=
  ⟨_, rfl, rfl⟩

/-- **No coincidence depends on the prefix**: two names are equal exactly when the names they become
are. -/
theorem SwapsPrefix.eq_iff {name other found counterpart : String} (h : SwapsPrefix p q name other)
    (hfound : SwapsPrefix p q found counterpart) : name = found ↔ other = counterpart := by
  obtain ⟨rest, rfl, rfl⟩ := h
  obtain ⟨more, rfl, rfl⟩ := hfound
  rw [String.append_right_inj, String.append_right_inj]

/-! ### What is produced under two prefixes -/

/-- The scalars that fields refer to by names without a prefix. -/
def plainScalars : List String := ["String", "Boolean", "Float", "Date"]

/-- Whether values of the kind have a scalar type without a prefix. -/
def PathKind.isPlainScalar : PathKind → Bool
  | .string | .uid | .boolean | .float | .date => true
  | _ => false

/-- The same reference with the prefix of its innermost name replaced. -/
inductive TypeRef.Reprefixed (p q : String) : TypeRef → TypeRef → Prop
  | named {name other : String} (swaps : SwapsPrefix p q name other) :
      Reprefixed p q (.named name) (.named other)
  | nonNull {inner other : TypeRef} (h : Reprefixed p q inner other) :
      Reprefixed p q (.nonNull inner) (.nonNull other)
  | list {inner other : TypeRef} (h : Reprefixed p q inner other) :
      Reprefixed p q (.list inner) (.list other)

/-- The same type of a field: a scalar without a prefix is kept, every other type has its prefix
replaced. -/
def TypeRef.KeptOrReprefixed (p q : String) (ref other : TypeRef) : Prop :=
  if ref.baseName ∈ plainScalars then other = ref else ref.Reprefixed p q other

/-- The same declared field under another prefix. -/
structure FieldDecl.Reprefixed (p q : String) (field other : FieldDecl) : Prop where
  typeRef : field.typeRef.KeptOrReprefixed p q other.typeRef
  extensions : other.extensions = field.extensions
  resolver : other.resolver = field.resolver

/-- Declared fields of the same names in the same order, each the same under the other prefix. -/
def FieldsReprefixed (p q : String) :
    List (String × FieldDecl) → List (String × FieldDecl) → Prop :=
  List.Forall₂ fun field other => other.1 = field.1 ∧ field.2.Reprefixed p q other.2

/-- The same interface: the node interface is kept, every other has its prefix replaced. -/
def InterfaceReprefixed (p q : String) (name other : String) : Prop :=
  if name = nodeInterface then other = nodeInterface else SwapsPrefix p q name other

/-- The same object type or union under another prefix. -/
inductive TypeDeclaration.Reprefixed (p q : String) : TypeDeclaration → TypeDeclaration → Prop
  | object {type other : ObjectType} (name : SwapsPrefix p q type.name other.name)
      (fields : FieldsReprefixed p q type.fields other.fields)
      (interfaces : List.Forall₂ (InterfaceReprefixed p q) type.interfaces other.interfaces) :
      Reprefixed p q (.object type) (.object other)
  | union {type other : UnionType} (name : SwapsPrefix p q type.name other.name)
      (members : List.Forall₂ (SwapsPrefix p q) type.members other.members) :
      Reprefixed p q (.union type) (.union other)

/-- The reference from values of a kind to the type of a name: groups, slice zones and items hold
lists. -/
def PathKind.refTo (kind : PathKind) (name : String) : TypeRef :=
  match kind with
  | .group | .slices | .sliceItems => .list (.named name)
  | _ => .named name

/-- The same path and kind; the type is kept where it is a scalar without a prefix, and has the
prefix of its name replaced everywhere else. -/
structure PathEntry.Reprefixed (p q : String) (entry other : PathEntry) : Prop where
  path : other.path = entry.path
  kind : other.kind = entry.kind
  typeName :
    if entry.kind.isPlainScalar then other.typeName = entry.typeName
    else ∃ name counterpart, SwapsPrefix p q name counterpart ∧
      entry.typeName = (entry.kind.refTo name).render ∧
      other.typeName = (entry.kind.refTo counterpart).render

/-- The same error; a type name that it reports has its prefix replaced. -/
inductive SchemaError.Reprefixed (p q : String) : SchemaError → SchemaError → Prop
  | duplicatePath (path : Path) : Reprefixed p q (.duplicatePath path) (.duplicatePath path)
  | duplicateTypeName {name other : String} (path : Path) (swaps : SwapsPrefix p q name other) :
      Reprefixed p q (.duplicateTypeName name path) (.duplicateTypeName other path)
  | multipleUids (first second : String) :
      Reprefixed p q (.multipleUids first second) (.multipleUids first second)

/-- The same compiled type under another prefix, position by position. -/
structure CompiledType.Reprefixed (p q : String) (compiled other : CompiledType) : Prop where
  customTypeId : other.customTypeId = compiled.customTypeId
  declarations : List.Forall₂ (TypeDeclaration.Reprefixed p q) compiled.declarations
    other.declarations
  entries : List.Forall₂ (PathEntry.Reprefixed p q) compiled.paths.entries other.paths.entries

/-- Two results that are both values or both errors, related accordingly. -/
inductive BothOrNeither {ε α : Type} (errors : ε → ε → Prop) (values : α → α → Prop) :
    Except ε α → Except ε α → Prop
  | ok {value other : α} (h : values value other) :
      BothOrNeither errors values (.ok value) (.ok other)
  | error {error other : ε} (h : errors error other) :
      BothOrNeither errors values (.error error) (.error other)

/-- The same emission under another prefix. -/
inductive Emission.Reprefixed (p q : String) : Emission → Emission → Prop
  | declare (path : Path) {declaration other : TypeDeclaration}
      (h : declaration.Reprefixed p q other) :
      Reprefixed p q (.declare path declaration) (.declare path other)
  | register {entry other : PathEntry} (h : entry.Reprefixed p q other) :
      Reprefixed p q (.register entry) (.register other)
  | secondUid (first second : String) :
      Reprefixed p q (.secondUid first second) (.secondUid first second)

/-- The same emissions in the same order. -/
abbrev EmissionsReprefixed (p q : String) : List Emission → List Emission → Prop :=
  List.Forall₂ (Emission.Reprefixed p q)

theorem TypeDeclaration.Reprefixed.name {declaration other : TypeDeclaration}
    (h : declaration.Reprefixed p q other) :
    SwapsPrefix p q declaration.name other.name := by
  cases h with
  | object name fields interfaces => exact name
  | union name members => exact name

/-! ### The types of fields -/

theorem TypeRef.keptOrReprefixed_scalar {ref : TypeRef} (h : ref.baseName ∈ plainScalars) :
    ref.KeptOrReprefixed p q ref := by
  rw [KeptOrReprefixed, if_pos h]

/-- A name that ends in `Type` is no scalar, whatever stands in front. -/
theorem append_not_mem_plainScalars {front rest : String} (h : "Type".toList <:+ rest.toList) :
    front ++ rest ∉ plainScalars := by
  have hscalars : ∀ scalar ∈ plainScalars, ¬"Type".toList <:+ scalar.toList := by decide
  intro hmem
  apply hscalars _ hmem
  rw [String.toList_append]
  exact h.trans (List.suffix_append _ _)

/-- A type that is no scalar has its prefix replaced. -/
theorem TypeRef.Reprefixed.keptOrReprefixed {ref other : TypeRef} (h : ref.Reprefixed p q other)
    (hbase : ref.baseName ∉ plainScalars) : ref.KeptOrReprefixed p q other := by
  rw [KeptOrReprefixed, if_neg hbase]
  exact h

/-- A name that ends in `Type` has its prefix replaced, alone or as the elements of a list. -/
theorem keptOrReprefixed_refTo (kind : PathKind) {rest : String}
    (h : "Type".toList <:+ rest.toList) :
    (kind.refTo (p ++ rest)).KeptOrReprefixed p q (kind.refTo (q ++ rest)) := by
  have hbase : (kind.refTo (p ++ rest)).baseName ∉ plainScalars := by
    have hname := @append_not_mem_plainScalars p rest h
    cases kind <;> exact hname
  have hname : (TypeRef.named (p ++ rest)).Reprefixed p q (.named (q ++ rest)) :=
    .named ⟨rest, rfl, rfl⟩
  refine TypeRef.Reprefixed.keptOrReprefixed ?_ hbase
  cases kind with
  | group => exact .list hname
  | slices => exact .list hname
  | sliceItems => exact .list hname
  | _ => exact hname

/-- The ending of a role ends the name. -/
theorem isSuffix_join (names : List String) (role : TypeRole)
    (h : "Type".toList <:+ role.suffix.toList) :
    "Type".toList <:+ (String.join (names.map Text.pascalCase) ++ role.suffix).toList := by
  rw [String.toList_append]
  exact h.trans (List.suffix_append _ _)

/-- **What the type of a field can be**: a scalar without a prefix where the values are of such a
kind, and otherwise a reference to a name that starts with the prefix and ends in `Type`. -/
theorem typeRef_cases (names : List String) (field : Field) :
    (field.pathKind.isPlainScalar = true ∧
        ∃ ref : TypeRef, ref.baseName ∈ plainScalars ∧ ∀ naming, field.typeRef naming names = ref) ∨
      (field.pathKind.isPlainScalar = false ∧
        ∃ rest : String, "Type".toList <:+ rest.toList ∧
          ∀ naming, field.typeRef naming names = field.pathKind.refTo
            (naming.typePrefix ++ rest)) := by
  have scalar (ref : TypeRef) (h : ref.baseName ∈ plainScalars) :
      ∃ found : TypeRef, found.baseName ∈ plainScalars ∧ ∀ _ : TypeNaming, ref = found :=
        ⟨ref, h, fun _ => rfl⟩
  cases field with
  | leaf kind extra =>
    cases kind with
    | geoPoint => exact Or.inr ⟨rfl, SharedType.geoPoint.baseName, by decide, fun _ => rfl⟩
    | embed => exact Or.inr ⟨rfl, SharedType.embed.baseName, by decide, fun _ => rfl⟩
    | structuredText =>
      exact Or.inr ⟨rfl, SharedType.structuredText.baseName, by decide, fun _ => rfl⟩
    | link => exact Or.inr ⟨rfl, SharedType.link.baseName, by decide, fun _ => rfl⟩
    | uid => exact Or.inl ⟨rfl, scalar (.nonNull (.named "String")) (by decide)⟩
    | boolean => exact Or.inl ⟨rfl, scalar (.named "Boolean") (by decide)⟩
    | number => exact Or.inl ⟨rfl, scalar (.named "Float") (by decide)⟩
    | date => exact Or.inl ⟨rfl, scalar (.named "Date") (by decide)⟩
    | timestamp => exact Or.inl ⟨rfl, scalar (.named "Date") (by decide)⟩
    | _ => exact Or.inl ⟨rfl, scalar (.named "String") (by decide)⟩
  | image thumbnails extra => exact Or.inr ⟨rfl, SharedType.image.baseName, by decide, fun _ => rfl⟩
  | group fields extra =>
    exact Or.inr ⟨rfl, _, isSuffix_join names .group (by decide), fun _ => rfl⟩
  | slices choices extra =>
    exact Or.inr ⟨rfl, _, isSuffix_join names .slices (by decide), fun _ => rfl⟩

/-- The type of a field is kept when it is a scalar, and has its prefix replaced otherwise. -/
theorem keptOrReprefixed_typeRef (p q : String) (names : List String) (field : Field) :
    (field.typeRef ⟨p⟩ names).KeptOrReprefixed p q (field.typeRef ⟨q⟩ names) := by
  rcases typeRef_cases names field with ⟨-, ref, hscalar, hall⟩ | ⟨-, rest, hrest, hall⟩
  · rw [hall, hall]
    exact TypeRef.keptOrReprefixed_scalar hscalar
  · rw [hall, hall]
    exact keptOrReprefixed_refTo field.pathKind hrest

/-- A declared field is the same under both prefixes. -/
theorem reprefixed_declare (p q : String) (names : List String) (field : Field) :
    (field.declare ⟨p⟩ names).Reprefixed p q (field.declare ⟨q⟩ names) where
  typeRef := by
    rw [typeRef_declare, typeRef_declare]
    exact keptOrReprefixed_typeRef p q names field
  extensions := by
    rw [Field.declare, Field.declare]
    cases field.pathKind <;> rfl
  resolver := by
    rw [Field.declare, Field.declare]
    cases field.pathKind <;> rfl

theorem reprefixed_declareFields (p q : String) (names : List String) (fields : FieldMap) :
    FieldsReprefixed p q (declareFields ⟨p⟩ names fields) (declareFields ⟨q⟩ names fields) := by
  rw [FieldsReprefixed, declareFields, declareFields, List.forall₂_map_left_iff,
    List.forall₂_map_right_iff, List.forall₂_same]
  intro field _
  exact ⟨rfl, reprefixed_declare p q _ field.2⟩

/-! ### Emissions under two prefixes -/

/-- A path registers the same when the name of its type has its prefix replaced. -/
theorem reprefixed_register (path : Path) (kind : PathKind) {name other : String}
    (swaps : SwapsPrefix p q name other) (h : kind.isPlainScalar = false) :
    Emission.Reprefixed p q (.register ⟨path, (kind.refTo name).render, kind⟩)
      (.register ⟨path, (kind.refTo other).render, kind⟩) := by
  refine .register ⟨rfl, rfl, ?_⟩
  show if kind.isPlainScalar = true then _ else _
  rw [if_neg (Bool.eq_false_iff.mp h)]
  exact ⟨name, other, swaps, rfl, rfl⟩

/-- The same for a path whose values are of the type itself. -/
theorem reprefixed_register_name (path : Path) (kind : PathKind) {name other : String}
    (swaps : SwapsPrefix p q name other) (h : kind.isPlainScalar = false)
    (href : kind.refTo = TypeRef.named) :
    Emission.Reprefixed p q (.register ⟨path, name, kind⟩) (.register ⟨path, other, kind⟩) := by
  have hregister := reprefixed_register path kind swaps h
  rwa [href, TypeRef.render_named, TypeRef.render_named] at hregister

/-- A field registers the same. -/
theorem reprefixed_registerField (p q : String) (path : Path) (names : List String)
    (field : Field) :
    Emission.Reprefixed p q (registerField ⟨p⟩ path names field)
      (registerField ⟨q⟩ path names field) := by
  rw [registerField, registerField]
  rcases typeRef_cases names field with ⟨hkind, ref, -, hall⟩ | ⟨hkind, rest, -, hall⟩
  · rw [hall, hall]
    refine .register ⟨rfl, rfl, ?_⟩
    show if field.pathKind.isPlainScalar = true then _ else _
    rw [if_pos hkind]
  · rw [hall, hall]
    exact reprefixed_register path field.pathKind ⟨rest, rfl, rfl⟩ hkind

theorem reprefixed_declareObject (p q : String) (path : Path) (names : List String)
    (role : TypeRole) (fields : FieldMap) :
    Emission.Reprefixed p q (declareObject ⟨p⟩ path names role fields)
      (declareObject ⟨q⟩ path names role fields) :=
  .declare path (.object (swapsPrefix_namespaced p q names role)
    (reprefixed_declareFields p q names fields) .nil)

theorem interfaceReprefixed_node (p q : String) :
    InterfaceReprefixed p q nodeInterface nodeInterface := by
  rw [InterfaceReprefixed, if_pos rfl]

theorem interfaceReprefixed_document (p q : String) :
    InterfaceReprefixed p q (⟨p⟩ : TypeNaming).documentInterface
      (⟨q⟩ : TypeNaming).documentInterface := by
  rw [InterfaceReprefixed, if_neg (TypeNaming.documentInterface_ne_node _)]
  exact swapsPrefix_shared p q .document

/-- The object type of a choice is the same. -/
theorem reprefixed_sliceType (p q : String) (names : List String) :
    (TypeDeclaration.object (sliceType ((⟨p⟩ : TypeNaming).namespaced names .slice)
        ((⟨p⟩ : TypeNaming).namespaced names .slicePrimary)
          ((⟨p⟩ : TypeNaming).namespaced names .sliceItem))).Reprefixed
      p q
      (.object (sliceType ((⟨q⟩ : TypeNaming).namespaced names .slice)
        ((⟨q⟩ : TypeNaming).namespaced names .slicePrimary)
          ((⟨q⟩ : TypeNaming).namespaced names .sliceItem))) := by
  have field {name : String} {ref other : TypeRef} (h : ref.KeptOrReprefixed p q other) :
      (name, FieldDecl.ofRef other).1 = (name, FieldDecl.ofRef ref).1 ∧
        (FieldDecl.ofRef ref).Reprefixed p q (FieldDecl.ofRef other) := ⟨rfl, h, rfl, rfl⟩
  refine .object (swapsPrefix_namespaced p q names .slice) ?_
    (.cons (interfaceReprefixed_node p q) .nil)
  refine .cons (field (TypeRef.keptOrReprefixed_scalar (by decide))) ?_
  refine .cons (field (TypeRef.keptOrReprefixed_scalar (by decide))) ?_
  refine .cons (field (keptOrReprefixed_refTo .slicePrimary
    (isSuffix_join names .slicePrimary (by decide)))) ?_
  exact .cons (field (keptOrReprefixed_refTo .sliceItems
    (isSuffix_join names .sliceItem (by decide)))) .nil

/-- Lists made item by item are related when what is made of each item is. -/
theorem forall₂_flatMap_same {α β γ : Type} {R : β → γ → Prop} {items : List α} {f : α → List β}
    {g : α → List γ} (h : ∀ item ∈ items, List.Forall₂ R (f item) (g item)) :
    List.Forall₂ R (items.flatMap f) (items.flatMap g) := by
  induction items with
  | nil => exact .nil
  | cons item rest ih =>
    rw [List.forall_mem_cons] at h
    rw [List.flatMap_cons, List.flatMap_cons]
    exact List.rel_append h.1 (ih h.2)

/-- The fields of a record emit the same, given each of them does. -/
theorem reprefixed_emitFields_of {fields : FieldMap} (path : Path) (names : List String)
    (h : ∀ field ∈ fields, ∀ path names,
      EmissionsReprefixed p q (emitField ⟨p⟩ path names field.2)
        (emitField ⟨q⟩ path names field.2)) :
    EmissionsReprefixed p q (emitFields ⟨p⟩ path names fields)
      (emitFields ⟨q⟩ path names fields) := by
  rw [emitFields_eq_flatMap, emitFields_eq_flatMap]
  apply forall₂_flatMap_same
  intro field hfield
  exact h field hfield _ _

/-- A choice emits the same, given the fields of its halves do. -/
theorem reprefixed_emitChoice_of {choice : Choice Field} (path : Path) (names : List String)
    (hprimary : ∀ field ∈ choice.primary, ∀ path names,
      EmissionsReprefixed p q (emitField ⟨p⟩ path names field.2) (emitField ⟨q⟩ path names field.2))
    (hitems : ∀ field ∈ choice.items, ∀ path names,
      EmissionsReprefixed p q (emitField ⟨p⟩ path names field.2)
        (emitField ⟨q⟩ path names field.2)) :
    EmissionsReprefixed p q (emitChoice ⟨p⟩ path names choice)
      (emitChoice ⟨q⟩ path names choice) := by
  obtain ⟨primary, items, extra⟩ := choice
  have hitems' := reprefixed_register (path ++ [itemsSegment]) .sliceItems
    (swapsPrefix_namespaced p q names .sliceItem) rfl
  rw [emitChoice, emitChoice]
  refine List.rel_append (List.rel_append (List.rel_append ?_ ?_) ?_) ?_
  · exact reprefixed_emitFields_of _ names hprimary
  · refine .cons (reprefixed_declareObject p q _ names .slicePrimary primary) (.cons ?_ .nil)
    exact reprefixed_register_name _ .slicePrimary
      (swapsPrefix_namespaced p q names .slicePrimary) rfl rfl
  · exact reprefixed_emitFields_of _ names hitems
  · refine .cons (reprefixed_declareObject p q _ names .sliceItem items) (.cons hitems' ?_)
    refine .cons (.declare path (reprefixed_sliceType p q names)) (.cons ?_ .nil)
    exact reprefixed_register_name path .slice (swapsPrefix_namespaced p q names .slice) rfl rfl

/-- **A field emits the same** under both prefixes, wherever it stands. -/
theorem reprefixed_emitField (p q : String) (field : Field) :
    ∀ path names, EmissionsReprefixed p q (emitField ⟨p⟩ path names field)
      (emitField ⟨q⟩ path names field) := by
  induction field using Field.induction with
  | leaf kind extra =>
    intro path names
    rw [emitField, emitField]
    exact .cons (reprefixed_registerField p q path names _) .nil
  | image thumbnails extra =>
    intro path names
    rw [emitField, emitField]
    refine .cons (reprefixed_registerField p q path names _) ?_
    rw [registerThumbnails, registerThumbnails, List.forall₂_map_left_iff,
      List.forall₂_map_right_iff, List.forall₂_same]
    intro spec _
    exact reprefixed_register_name _ .imageThumbnail
      (swapsPrefix_shared p q .imageThumbnail) rfl rfl
  | group fields extra ih =>
    intro path names
    rw [emitField, emitField]
    refine List.rel_append (reprefixed_emitFields_of path names ih) ?_
    refine .cons (reprefixed_declareObject p q path names .group fields) (.cons ?_ .nil)
    exact reprefixed_registerField p q path names (.group fields extra)
  | slices choices extra ih =>
    intro path names
    rw [emitField, emitField]
    refine List.rel_append ?_ (.cons (.declare path
      (.union (swapsPrefix_namespaced p q names .slices) ?_))
      (.cons (reprefixed_registerField p q path names (.slices choices extra)) .nil))
    · rw [emitChoices_eq_flatMap, emitChoices_eq_flatMap]
      apply forall₂_flatMap_same
      intro choice hchoice
      exact reprefixed_emitChoice_of _ _ (ih choice hchoice).1 (ih choice hchoice).2
    · rw [List.forall₂_map_left_iff, List.forall₂_map_right_iff, List.forall₂_same]
      intro choice _
      exact swapsPrefix_namespaced p q (names ++ [choice.1]) .slice

/-- The fields of all tabs emit the same, a second identifier included. -/
theorem reprefixed_emitTopLevel (p q id : String) (fields : FieldMap) :
    ∀ uid, EmissionsReprefixed p q (emitTopLevel ⟨p⟩ id uid fields)
      (emitTopLevel ⟨q⟩ id uid fields) := by
  induction fields with
  | nil =>
    intro uid
    cases uid <;> exact .nil
  | cons field rest ih =>
    intro uid
    obtain ⟨name, field⟩ := field
    by_cases hfield : field.isUid = true
    · cases uid with
      | none =>
        rw [emitTopLevel_first _ _ _ _ hfield, emitTopLevel_first _ _ _ _ hfield]
        exact List.rel_append (reprefixed_emitField p q field _ _) (ih _)
      | some first =>
        rw [emitTopLevel_second _ _ _ _ _ hfield, emitTopLevel_second _ _ _ _ _ hfield]
        exact .cons (.secondUid first name) (ih _)
    · rw [emitTopLevel_inner _ _ _ _ _ hfield, emitTopLevel_inner _ _ _ _ _ hfield]
      exact List.rel_append (reprefixed_emitField p q field _ _) (ih _)

/-- The root type is the same. -/
theorem reprefixed_rootType (p q id : String) (fields : FieldMap) :
    (TypeDeclaration.object (rootType ⟨p⟩ id fields)).Reprefixed p q
      (.object (rootType ⟨q⟩ id fields)) := by
  have hdata : (FieldDecl.named ((⟨p⟩ : TypeNaming).namespaced [id] .data)).Reprefixed p q
      (.named ((⟨q⟩ : TypeNaming).namespaced [id] .data)) :=
    ⟨keptOrReprefixed_refTo .data (isSuffix_join [id] .data (by decide)), rfl, rfl⟩
  refine .object (swapsPrefix_namespaced p q [id] .document)
    (List.rel_append ?_ (.cons ⟨rfl, hdata⟩ .nil)) ?_
  · cases fields.find? fun field => field.2.isUid with
    | none => exact .nil
    | some field => exact .cons ⟨rfl, reprefixed_declare p q [id] field.2⟩ .nil
  · exact .cons (interfaceReprefixed_node p q) (.cons (interfaceReprefixed_document p q) .nil)

/-- **A custom type emits the same** under both prefixes. -/
theorem reprefixed_emissions (p q id : String) (type : CustomType) :
    EmissionsReprefixed p q (emissions ⟨p⟩ id type) (emissions ⟨q⟩ id type) := by
  rw [emissions, emissions]
  refine List.rel_append (reprefixed_emitTopLevel p q id type.fields none) ?_
  refine .cons (reprefixed_declareObject p q [id, dataSegment] [id] .data _) ?_
  refine .cons (reprefixed_register_name _ .data (swapsPrefix_namespaced p q [id] .data) rfl rfl) ?_
  refine .cons (.declare [id] (reprefixed_rootType p q id type.fields)) ?_
  exact .cons (reprefixed_register_name [id] .document
    (swapsPrefix_namespaced p q [id] .document) rfl rfl) .nil

/-! ### Running under two prefixes -/

/-- A name is among declared names exactly when its counterpart is among their counterparts. -/
theorem mem_names_iff_of_reprefixed {declarations others : List TypeDeclaration}
    {name other : String} (h : List.Forall₂ (TypeDeclaration.Reprefixed p q) declarations others)
    (swaps : SwapsPrefix p q name other) :
    name ∈ declarations.map TypeDeclaration.name ↔ other ∈ others.map TypeDeclaration.name := by
  induction h with
  | nil => exact iff_of_false List.not_mem_nil List.not_mem_nil
  | cons head _ ih =>
    rw [List.map_cons, List.map_cons, List.mem_cons, List.mem_cons, ih, swaps.eq_iff head.name]

theorem map_path_of_reprefixed {entries others : List PathEntry}
    (h : List.Forall₂ (PathEntry.Reprefixed p q) entries others) :
    others.map PathEntry.path = entries.map PathEntry.path := by
  induction h with
  | nil => rfl
  | cons head _ ih => rw [List.map_cons, List.map_cons, ih, head.path]

namespace Emission.Reprefixed

variable {emission other : Emission}

theorem clash (h : emission.Reprefixed p q other) : emission.clash.Reprefixed p q other.clash := by
  cases h with
  | declare path h => exact .duplicateTypeName path h.name
  | @register entry other h =>
    rw [Emission.clash, Emission.clash, h.path]
    exact .duplicatePath entry.path
  | secondUid first second => exact .multipleUids first second

theorem declaration? (h : emission.Reprefixed p q other) :
    List.Forall₂ (TypeDeclaration.Reprefixed p q) emission.declaration?.toList
      other.declaration?.toList := by
  cases h with
  | declare path h => exact .cons h .nil
  | register h => exact .nil
  | secondUid first second => exact .nil

theorem entry? (h : emission.Reprefixed p q other) :
    List.Forall₂ (PathEntry.Reprefixed p q) emission.entry?.toList other.entry?.toList := by
  cases h with
  | declare path h => exact .nil
  | register h => exact .cons h .nil
  | secondUid first second => exact .nil

end Emission.Reprefixed

/-- What has been declared and registered so far is the same. -/
structure Output.Reprefixed (p q : String) (output other : Output) : Prop where
  declarations : List.Forall₂ (TypeDeclaration.Reprefixed p q) output.declarations
    other.declarations
  entries : List.Forall₂ (PathEntry.Reprefixed p q) output.paths.entries other.paths.entries

namespace Output.Reprefixed

variable {output counterpart : Output}

/-- Both outputs admit an emission, or neither does. -/
theorem admits_iff (h : output.Reprefixed p q counterpart) {emission other : Emission}
    (hemission : emission.Reprefixed p q other) :
    output.Admits emission ↔ counterpart.Admits other := by
  cases hemission with
  | declare path hdeclaration =>
    exact not_congr (mem_names_iff_of_reprefixed h.declarations hdeclaration.name)
  | register hentry =>
    show ¬_ ∈ output.paths.paths ↔ ¬_ ∈ counterpart.paths.paths
    rw [Registry.paths, Registry.paths, map_path_of_reprefixed h.entries, hentry.path]
  | secondUid first second => exact Iff.rfl

/-- **One step** does the same under both prefixes. -/
theorem step (h : output.Reprefixed p q counterpart) {emission other : Emission}
    (hemission : emission.Reprefixed p q other) :
    BothOrNeither (SchemaError.Reprefixed p q) (Output.Reprefixed p q)
      (output.step emission) (counterpart.step other) := by
  by_cases hadmits : output.Admits emission
  · obtain ⟨next, hnext, hdeclarations, hentries⟩ := exists_step hadmits
    obtain ⟨found, hfound, hfoundDeclarations, hfoundEntries⟩ :=
      exists_step ((h.admits_iff hemission).mp hadmits)
    rw [hnext, hfound]
    refine .ok ⟨?_, ?_⟩
    · rw [hdeclarations, hfoundDeclarations]
      exact List.rel_append h.declarations hemission.declaration?
    · rw [hentries, hfoundEntries]
      exact List.rel_append h.entries hemission.entry?
  · rw [step_of_not_admits hadmits, step_of_not_admits (mt (h.admits_iff hemission).mpr hadmits)]
    exact .error hemission.clash

/-- **A whole run** does the same under both prefixes. -/
theorem run {emissions others : List Emission}
    (hemissions : EmissionsReprefixed p q emissions others) :
    ∀ {output counterpart : Output}, output.Reprefixed p q counterpart →
      BothOrNeither (SchemaError.Reprefixed p q) (Output.Reprefixed p q)
        (output.run emissions) (counterpart.run others) := by
  induction hemissions with
  | nil =>
    intro output counterpart h
    exact .ok h
  | @cons emission other rest more head _ ih =>
    intro output counterpart h
    have hstep := h.step head
    rw [Output.run, Output.run]
    generalize output.step emission = taken at hstep ⊢
    generalize counterpart.step other = found at hstep ⊢
    cases hstep with
    | ok hnext => exact ih hnext
    | error herror => exact .error herror

end Output.Reprefixed

/-! ### Compiling under two prefixes -/

/-- **The prefix only renames.**  Under any two prefixes a custom type compiles, or fails with the
same error but for the prefix of a type name; and what it compiles to has the same declarations,
fields, paths and kinds in the same order. Scalars, and fields that refer to them, are kept; all
other names have their prefix replaced. -/
theorem compile_reprefixed (p q id : String) (type : CustomType) :
    BothOrNeither (SchemaError.Reprefixed p q) (CompiledType.Reprefixed p q)
      (compile ⟨p⟩ id type) (compile ⟨q⟩ id type) := by
  have hempty : Output.empty.Reprefixed p q .empty := ⟨.nil, .nil⟩
  have hrun := Output.Reprefixed.run (reprefixed_emissions p q id type) hempty
  rw [compile, compile]
  generalize Output.empty.run (emissions ⟨p⟩ id type) = output at hrun ⊢
  generalize Output.empty.run (emissions ⟨q⟩ id type) = counterpart at hrun ⊢
  cases hrun with
  | ok h => exact .ok ⟨rfl, h.declarations, h.entries⟩
  | error h => exact .error h

end ContentGraph
