import ContentGraph.Proofs.Compilation.References
import ContentGraph.Proofs.Sdl.Printed
import ContentGraph.Proofs.Text.Words
import ContentGraph.Settings

/-!
# What compiled declarations are printed as

Under a usable prefix, and when the id and all names of a custom type are identifiers, a compilation
mentions names of the language only, and gives no type a keyword for a name.  What it declares has
fields or members exactly when what it was compiled from has: every group, every half of a choice
and the data a field, every slice zone a choice.

* `IsIdentifier` — a letter, then letters, digits and underscores;
* `CustomType.allNames` — the names of fields, choices and thumbnails at any depth;
* `PlainlyNamed` — a usable prefix and identifiers throughout;
* `printable_compile`, `not_mem_keywords_compile` — the names that a compilation mentions and those
  that it declares;
* `CustomType.Filled` with `filled_compile_iff` — when all that is declared has fields or members.
-/

namespace ContentGraph

variable {naming : TypeNaming} {id : String} {type : CustomType} {compiled : CompiledType}

/-! ### Identifiers -/

/-- An ASCII letter in upper case. -/
def Text.isAsciiCapital (c : Char) : Bool := 'A' ≤ c && c ≤ 'Z'

/-- An ASCII letter. -/
def Text.isAsciiLetter (c : Char) : Bool := ('a' ≤ c && c ≤ 'z') || Text.isAsciiCapital c

/-- A letter, then letters, digits and underscores. -/
def IsIdentifier (name : String) : Prop :=
  TypeRef.IsName name.toList ∧ name.toList.head?.all Text.isAsciiLetter = true

instance (name : String) : Decidable (IsIdentifier name) := inferInstanceAs (Decidable (_ ∧ _))

/-- Letters are no digits, and have capitals. -/
theorem Text.isAsciiLetter_apart {c : Char} (h : isAsciiLetter c = true) :
    isAsciiDigit c = false ∧ isAsciiAlphanumeric c = true ∧ isAsciiCapital c.toUpper = true := by
  have halphanumeric : isAsciiAlphanumeric c = true := by
    rw [isAsciiLetter, isAsciiCapital] at h
    rw [isAsciiAlphanumeric, h, Bool.true_or]
  have hascii : c.toNat < 128 :=
    Nat.lt_of_lt_of_le (toNat_lt_of_isAsciiAlphanumeric halphanumeric).2 (by decide)
  revert h halphanumeric
  refine forall_ascii (P := fun c => isAsciiLetter c = true → isAsciiAlphanumeric c = true →
    isAsciiDigit c = false ∧ isAsciiAlphanumeric c = true ∧
      isAsciiCapital c.toUpper = true) ?_ hascii
  decide

namespace IsIdentifier

variable {name : String}

theorem isName (h : IsIdentifier name) : Sdl.IsName name.toList := by
  obtain ⟨hname, hletter⟩ := h
  refine ⟨hname, ?_⟩
  cases htext : name.toList with
  | nil => rfl
  | cons c rest =>
    rw [htext, List.head?_cons, Option.all_some] at hletter
    exact (Text.isAsciiLetter_apart hletter).1

theorem isWordChar (h : IsIdentifier name) : ∀ c ∈ name.toList, Text.isWordChar c = true := by
  intro c hc
  have hchar := h.1.2 c hc
  rw [TypeRef.isNameChar] at hchar
  rw [Text.isWordChar, hchar, Bool.true_or, Bool.true_or]

/-- In capitalized words, an identifier has a capital. -/
theorem any_capital (h : IsIdentifier name) :
    (Text.pascalCase name).toList.any Text.isAsciiCapital = true := by
  have hwords := h.isWordChar
  obtain ⟨hname, hletter⟩ := h
  cases htext : name.toList with
  | nil => exact absurd htext hname.1
  | cons c rest =>
    rw [htext, List.forall_mem_cons] at hwords
    rw [htext, List.head?_cons, Option.all_some] at hletter
    obtain ⟨-, halphanumeric, hcapital⟩ := Text.isAsciiLetter_apart hletter
    obtain ⟨tail, heq⟩ := Text.exists_toList_pascalCase htext halphanumeric hwords.2
    rw [heq, List.any_cons, hcapital, Bool.true_or]

end IsIdentifier

/-! ### All names of a custom type -/

/-- The names of the thumbnails, fields and choices that a field holds, one level inside. -/
def Field.heldNames : Field → List String
  | .leaf _ _ => []
  | .image thumbnails _ => thumbnails.map ThumbnailSpec.name
  | .group fields _ => fields.map Prod.fst
  | .slices choices _ => choices.flatMap fun choice =>
    choice.1 :: (choice.2.primary.map Prod.fst ++ choice.2.items.map Prod.fst)

/-- The names of fields, choices and thumbnails at any depth. -/
def CustomType.allNames (type : CustomType) : List String :=
  type.fields.map Prod.fst ++ type.nested.flatMap Field.heldNames

/-- The segments that stand in the paths of every custom type. -/
def structuralSegments : List String := ["data", "primary", "items", "thumbnails"]

/-- **The segments of a part's path** are those above its field, structural segments, and names
inside. -/
theorem forall_segments_of_mem_field {P : String → Prop}
    (hstructural : ∀ text ∈ structuralSegments, P text) {field : Field} :
    ∀ {address : Address}, (∀ segment ∈ address.path, P segment) →
      (∀ inner ∈ field.nested, ∀ name ∈ inner.heldNames, P name) →
        ∀ part ∈ field.parts address, ∀ segment ∈ part.path, P segment := by
  have down : ∀ {address : Address} (segment : Segment), (∀ found ∈ address.path, P found) →
      P segment.text → ∀ found ∈ Address.path (address ++ [segment]), P found := by
    intro address segment habove hown
    rw [Address.path_append, List.forall_mem_append]
    exact ⟨habove, List.forall_mem_singleton.mpr hown⟩
  -- the same for the fields of a record, given each
  have lift : ∀ {address : Address} {fields : FieldMap},
      (∀ field ∈ fields, ∀ {address : Address}, (∀ segment ∈ address.path, P segment) →
        (∀ inner ∈ field.2.nested, ∀ name ∈ inner.heldNames, P name) →
          ∀ part ∈ field.2.parts address, ∀ segment ∈ part.path, P segment) →
      (∀ segment ∈ address.path, P segment) → (∀ name ∈ fields.map Prod.fst, P name) →
      (∀ inner ∈ nestedFields fields, ∀ name ∈ inner.heldNames, P name) →
        ∀ part ∈ partsOfFields address fields, ∀ segment ∈ part.path, P segment := by
    intro address fields ih habove hnames hinner part hpart
    obtain ⟨field, hfield, hmem⟩ := mem_partsOfFields.mp hpart
    exact ih field hfield (down (.named field.1) habove (hnames _ (List.mem_map_of_mem hfield)))
      (forall_mem_nestedFields.mp hinner field hfield) part hmem
  induction field using Field.induction with
  | leaf kind extra =>
    intro address habove _ part hpart
    rw [Field.parts, List.mem_singleton] at hpart
    subst hpart
    exact habove
  | image thumbnails extra =>
    intro address habove hinner part hpart
    rw [Field.nested, List.forall_mem_singleton] at hinner
    rw [Field.parts, List.mem_cons, List.mem_map] at hpart
    rcases hpart with rfl | ⟨spec, hspec, rfl⟩
    · exact habove
    · have hthumbnails : P "thumbnails" := hstructural _ (by decide)
      have hname : P spec.name := hinner _ (List.mem_map_of_mem hspec)
      rw [Part.path_mk, Address.path_append, List.forall_mem_append]
      exact ⟨habove, List.forall_mem_cons.mpr ⟨hthumbnails, List.forall_mem_singleton.mpr hname⟩⟩
  | group fields extra ih =>
    intro address habove hinner part hpart
    rw [Field.nested, List.forall_mem_cons] at hinner
    rw [Field.parts, List.mem_append, List.mem_singleton] at hpart
    rcases hpart with hmem | rfl
    · exact lift ih habove hinner.1 hinner.2 part hmem
    · exact habove
  | slices choices extra ih =>
    intro address habove hinner part hpart
    rw [Field.nested, List.forall_mem_cons, forall_mem_nestedChoices] at hinner
    rw [Field.parts, List.mem_append, List.mem_singleton] at hpart
    rcases hpart with hmem | rfl
    · obtain ⟨choice, hchoice, hmem⟩ := mem_partsOfChoices.mp hmem
      have hown := List.forall_mem_flatMap.mp hinner.1 choice hchoice
      rw [List.forall_mem_cons, List.forall_mem_append] at hown
      have hchoiceSegments := down (.named choice.1) habove hown.1
      have hprimary := down (.structural "primary") hchoiceSegments (hstructural _ (by decide))
      have hitems := down (.structural "items") hchoiceSegments (hstructural _ (by decide))
      rcases mem_partsOfChoice.mp hmem with (hmem | rfl) | (hmem | rfl) | rfl
      · exact lift (ih choice hchoice).1 hprimary hown.2.1 (hinner.2 choice hchoice).1 part hmem
      · exact hprimary
      · exact lift (ih choice hchoice).2 hitems hown.2.2 (hinner.2 choice hchoice).2 part hmem
      · exact hitems
      · exact hchoiceSegments
    · exact habove

/-- **The segments of all paths** are the id, structural segments and names of the custom type. -/
theorem forall_segments_of_mem_parts {P : String → Prop}
    (hstructural : ∀ text ∈ structuralSegments, P text) (hid : P id)
    (hnames : ∀ name ∈ type.allNames, P name) :
    ∀ part ∈ type.parts id, ∀ segment ∈ part.path, P segment := by
  intro part hpart
  have hdata : P "data" := hstructural _ (by decide)
  rw [CustomType.allNames, List.forall_mem_append, List.forall_mem_map, List.forall_mem_flatMap,
    CustomType.nested, forall_mem_nestedFields] at hnames
  rw [CustomType.parts, List.mem_append, List.mem_flatMap] at hpart
  rcases hpart with ⟨field, hfield, hmem⟩ | hmem
  · refine forall_segments_of_mem_field hstructural ?_ (hnames.2 field hfield) part hmem
    have hname : P field.1 := hnames.1 field hfield
    rw [topAddress]
    split
    · exact List.forall_mem_cons.mpr ⟨hid, List.forall_mem_singleton.mpr hname⟩
    · exact List.forall_mem_cons.mpr ⟨hid,
        List.forall_mem_cons.mpr ⟨hdata, List.forall_mem_singleton.mpr hname⟩⟩
  · rw [List.mem_cons, List.mem_singleton] at hmem
    rcases hmem with rfl | rfl
    · exact List.forall_mem_cons.mpr ⟨hid, List.forall_mem_singleton.mpr hdata⟩
    · exact List.forall_mem_singleton.mpr hid

/-- The named segments of an address stand in its path. -/
theorem Address.names_subset_path (address : Address) : address.names ⊆ address.path := by
  intro name hname
  obtain ⟨segment, hsegment, heq⟩ := List.mem_filterMap.mp hname
  cases segment with
  | named found =>
    cases heq
    exact List.mem_map_of_mem hsegment
  | structural text => cases heq

/-! ### Names that are mentioned -/

/-- A usable prefix that is not empty, and identifiers for the id and all names. -/
structure PlainlyNamed (naming : TypeNaming) (id : String) (type : CustomType) : Prop where
  usable : typePrefixFault? naming.typePrefix = none
  nonempty : naming.typePrefix ≠ ""
  names : ∀ name ∈ id :: type.allNames, IsIdentifier name

namespace PlainlyNamed

/-- A usable prefix makes a name of whatever name characters follow it. -/
theorem isName_append (h : PlainlyNamed naming id type) {rest : String}
    (hrest : ∀ c ∈ rest.toList, TypeRef.isNameChar c = true) : Sdl.IsName
      (naming.typePrefix ++ rest).toList := by
  have hvalid := (typePrefixFault?_eq_none_iff _).mp h.usable
  have hown : ∀ c ∈ naming.typePrefix.toList, TypeRef.isNameChar c = true := by
    intro c hc
    rw [TypeRef.isNameChar, List.all_eq_true.mp hvalid.1 c hc, Bool.true_or]
  rw [Sdl.IsName, TypeRef.IsName, String.toList_append, List.forall_mem_append]
  cases htext : naming.typePrefix.toList with
  | nil => exact absurd (String.toList_eq_nil_iff.mp htext) h.nonempty
  | cons c tail =>
    have hdigit := hvalid.2
    rw [htext, List.head?_cons, Option.any_some] at hdigit
    rw [htext] at hown
    exact ⟨⟨List.cons_ne_nil _ _, hown, hrest⟩, hdigit⟩

theorem isName_shared (h : PlainlyNamed naming id type) (shared : SharedType) :
    Sdl.IsName (naming.shared shared).toList := by
  refine h.isName_append (List.all_eq_true.mp ?_)
  cases shared <;> decide

/-- Generated names are names, when the segments that they are made of are words. -/
theorem isName_namespaced (h : PlainlyNamed naming id type) {names : List String}
    (hnames : ∀ name ∈ names, IsIdentifier name)
    (role : TypeRole) : Sdl.IsName (naming.namespaced names role).toList := by
  refine h.isName_append ?_
  rw [String.toList_append, List.forall_mem_append]
  constructor
  · intro c hc
    have hwords :=
      Text.isAsciiAlphanumeric_of_mem_join fun name hname => (hnames name hname).isWordChar
    rw [TypeRef.isNameChar, hwords c hc, Bool.true_or]
  · refine List.all_eq_true.mp ?_
    cases role <;> decide

/-- All segments of paths are identifiers. -/
theorem isIdentifier_of_mem_path (h : PlainlyNamed naming id type) :
    ∀ part ∈ type.parts id, ∀ segment ∈ part.path, IsIdentifier segment := by
  have hnames := h.names
  rw [List.forall_mem_cons] at hnames
  exact forall_segments_of_mem_parts (by decide) hnames.1 hnames.2

/-- All named segments are identifiers. -/
theorem isIdentifier_of_mem_names (h : PlainlyNamed naming id type) {part : Part}
    (hpart : part ∈ type.parts id) :
    ∀ name ∈ part.address.names, IsIdentifier name :=
  fun name hname => h.isIdentifier_of_mem_path part hpart name
    (part.address.names_subset_path hname)

end PlainlyNamed

/-- A declared field can be printed. -/
theorem printable_declare (h : PlainlyNamed naming id type) {name : String}
    (hname : IsIdentifier name) {names : List String} (hnames : ∀ name ∈ names, IsIdentifier name)
    (field : Field) :
    PrintableField (name, field.declare naming names) := by
  have hboth : Sdl.IsName (field.typeRef naming names).baseName.toList ∧
      (field.typeRef naming names).Single := by
    cases field with
    | leaf kind extra =>
      cases kind with
      | geoPoint => exact ⟨h.isName_shared .geoPoint, trivial⟩
      | embed => exact ⟨h.isName_shared .embed, trivial⟩
      | structuredText => exact ⟨h.isName_shared .structuredText, trivial⟩
      | link => exact ⟨h.isName_shared .link, trivial⟩
      | _ =>
        refine ⟨?_, trivial⟩
        simp only [Field.typeRef, LeafKind.typeRef, TypeRef.baseName]
        decide
    | image thumbnails extra => exact ⟨h.isName_shared .image, trivial⟩
    | group fields extra => exact ⟨h.isName_namespaced hnames .group, trivial⟩
    | slices choices extra => exact ⟨h.isName_namespaced hnames .slices, trivial⟩
  exact
    { name := hname.isName
      base := by rw [typeRef_declare]; exact hboth.1
      single := by rw [typeRef_declare]; exact hboth.2 }

/-- The fields of a record can be printed, when its parts are among those of the custom type. -/
theorem printable_declareFields (h : PlainlyNamed naming id type) {address : Address}
    {fields : FieldMap} (subset : partsOfFields address fields ⊆ type.parts id) :
    ∀ field ∈ declareFields naming address.names fields, PrintableField field := by
  intro found hfound
  obtain ⟨field, hfield, rfl⟩ := List.mem_map.mp hfound
  have hpart : ⟨address ++ [Segment.named field.1], field.2.shape⟩ ∈ type.parts id :=
    subset (mem_partsOfFields.mpr ⟨field, hfield, own_mem_parts _ field.2⟩)
  have hnames := h.isIdentifier_of_mem_names hpart
  rw [Address.names_append, Address.names_named, Address.names_nil] at hnames
  have hown : IsIdentifier field.1 := hnames _ (List.mem_append_right _ List.mem_cons_self)
  exact printable_declare h hown hnames field.2

theorem printable_objectType (h : PlainlyNamed naming id type) {address : Address}
    {fields : FieldMap} (role : TypeRole) (hnames : ∀ name ∈ address.names, IsIdentifier name)
    (subset : partsOfFields address fields ⊆ type.parts id) :
    (Part.objectType naming address.names role fields).Printable :=
  { name := h.isName_namespaced hnames role
    listed := fun _ habsurd => absurd habsurd List.not_mem_nil
    fields := printable_declareFields h subset }

/-- A field that is named by a fixed text and refers to a name of the language. -/
theorem printable_fixed {name : String} {ref : TypeRef} (hname : Sdl.IsName name.toList)
    (hbase : Sdl.IsName ref.baseName.toList) (single : ref.Single) :
    PrintableField (name, .ofRef ref) :=
  ⟨hname, hbase, single⟩

theorem printable_sliceType (h : PlainlyNamed naming id type) {names : List String}
    (hnames : ∀ name ∈ names, IsIdentifier name) :
    (TypeDeclaration.object (sliceType (naming.namespaced names .slice)
      (naming.namespaced names .slicePrimary)
      (naming.namespaced names .sliceItem))).Printable where
  name := h.isName_namespaced hnames .slice
  listed := List.forall_mem_singleton.mpr (by decide)
  fields := by
    rw [TypeDeclaration.fields, sliceType, List.forall_mem_cons, List.forall_mem_cons,
      List.forall_mem_cons, List.forall_mem_singleton]
    have hprimary := h.isName_namespaced hnames .slicePrimary
    have hitem := h.isName_namespaced hnames .sliceItem
    exact ⟨printable_fixed (by decide) (by decide) trivial,
      printable_fixed (by decide) (by decide) trivial, printable_fixed (by decide) hprimary trivial,
      printable_fixed (by decide) hitem trivial⟩

/-- **A compilation mentions names of the language only.** -/
theorem printable_compile (hplain : PlainlyNamed naming id type)
    (h : compile naming id type = .ok compiled) :
    ∀ declaration ∈ compiled.declarations, declaration.Printable := by
  intro declaration hmem
  rw [(compile_ok h).1, List.mem_filterMap] at hmem
  obtain ⟨part, hpart, hdeclaration⟩ := hmem
  have hsubtree := subtree_subset hpart
  have hnames := hplain.isIdentifier_of_mem_names hpart
  obtain ⟨address, shape⟩ := part
  cases shape with
  | leaf kind => cases hdeclaration
  | image thumbnails => cases hdeclaration
  | thumbnail => cases hdeclaration
  | group fields =>
    cases hdeclaration
    exact printable_objectType hplain .group hnames (partsOfFields_subset_of_mem hpart rfl)
  | primary fields =>
    cases hdeclaration
    exact printable_objectType hplain .slicePrimary hnames (partsOfFields_subset_of_mem hpart rfl)
  | items fields =>
    cases hdeclaration
    exact printable_objectType hplain .sliceItem hnames (partsOfFields_subset_of_mem hpart rfl)
  | data fields =>
    cases hdeclaration
    exact printable_objectType hplain .data hnames (partsOfFields_subset_of_mem hpart rfl)
  | choice choice =>
    cases hdeclaration
    exact printable_sliceType hplain hnames
  | slices choices =>
    cases hdeclaration
    refine
      { name := hplain.isName_namespaced hnames .slices
        listed := fun name hname => ?_
        fields := fun _ habsurd => absurd habsurd List.not_mem_nil }
    obtain ⟨choice, hchoice, rfl⟩ := List.mem_map.mp hname
    have hown :
        (⟨address ++ [Segment.named choice.1], .choice choice.2⟩ : Part) ∈ type.parts id := by
      refine hsubtree (List.mem_append_left _ (mem_partsOfChoices.mpr ⟨choice, hchoice, ?_⟩))
      exact mem_partsOfChoice.mpr (Or.inr (Or.inr rfl))
    have hchoiceNames := hplain.isIdentifier_of_mem_names hown
    rw [Address.names_append, Address.names_named, Address.names_nil] at hchoiceNames
    exact hplain.isName_namespaced hchoiceNames .slice
  | document uid =>
    obtain ⟨rfl, rfl⟩ : address = [.named id] ∧ uid = type.uid? := document_of_mem_parts hpart
    cases hdeclaration
    refine
      { name := hplain.isName_namespaced hnames .document
        listed :=
          List.forall_mem_cons.mpr ⟨by decide,
            List.forall_mem_singleton.mpr (hplain.isName_shared .document)⟩
        fields := ?_ }
    rw [TypeDeclaration.fields, List.forall_mem_append, List.forall_mem_singleton]
    refine ⟨fun field hfield => ?_,
      printable_fixed (by decide) (hplain.isName_namespaced hnames .data) trivial⟩
    rw [Option.mem_toList, Option.map_eq_some_iff] at hfield
    obtain ⟨found, huid, rfl⟩ := hfield
    have hfound : found ∈ type.fields := List.mem_of_find?_eq_some huid
    have hown : IsIdentifier found.1 :=
      hplain.names _ (List.mem_cons_of_mem _ (List.mem_append_left _ (List.mem_map_of_mem hfound)))
    exact printable_declare hplain hown hnames found.2

/-! ### Names that are declared -/

/-- Keywords have no capitals. -/
theorem not_mem_keywords_of_capital {text : List Char} (h : text.any Text.isAsciiCapital = true) :
    text ∉ Sdl.keywords := by
  have hsmall : ∀ keyword ∈ Sdl.keywords, keyword.any Text.isAsciiCapital = false := by decide
  intro hmem
  rw [hsmall text hmem] at h
  exact Bool.false_ne_true h

/-- No shared type is named by a keyword. -/
theorem shared_not_mem_keywords (naming : TypeNaming) (shared : SharedType) :
    (naming.shared shared).toList ∉ Sdl.keywords := by
  have hcapital : shared.baseName.toList.any Text.isAsciiCapital = true := by
    cases shared <;> decide
  refine not_mem_keywords_of_capital ?_
  rw [TypeNaming.shared, String.toList_append, List.any_append, hcapital, Bool.or_true]

/-- The ending of a type that is no root has a capital. -/
theorem Shape.any_capital_ending {shape : Shape} {ending : String}
    (h : shape.ending? = some ending) :
    (∃ uid, shape = .document uid) ∨ ending.toList.any Text.isAsciiCapital = true := by
  cases shape with
  | leaf kind => cases h
  | image thumbnails => cases h
  | thumbnail => cases h
  | document uid => exact Or.inl ⟨uid, rfl⟩
  | _ =>
    cases h
    exact Or.inr (by decide)

/-- **No type is named by a keyword**: the endings of generated names have capitals, and a root has
those of the id. -/
theorem not_mem_keywords_compile (hid : IsIdentifier id)
    (h : compile naming id type = .ok compiled) :
    ∀ declaration ∈ compiled.declarations, declaration.name.toList ∉ Sdl.keywords := by
  intro declaration hmem
  rw [(compile_ok h).1, List.mem_filterMap] at hmem
  obtain ⟨part, hpart, hdeclaration⟩ := hmem
  have hname := part.name_declaration? naming
  rw [hdeclaration, Option.map_some, Part.generated?] at hname
  obtain ⟨ending, hending, htypeName⟩ := Option.map_eq_some_iff.mp hname.symm
  refine not_mem_keywords_of_capital ?_
  rw [← htypeName, Address.typeName, String.toList_append, String.toList_append, List.any_append,
    List.any_append]
  rcases Shape.any_capital_ending hending with ⟨uid, hroot⟩ | hcapital
  · obtain ⟨address, shape⟩ := part
    subst hroot
    obtain ⟨rfl, -⟩ := document_of_mem_parts hpart
    have hown : (String.join ([id].map Text.pascalCase)).toList.any Text.isAsciiCapital = true := by
      rw [String.toList_join, List.map_singleton, List.flatMap_singleton]
      exact hid.any_capital
    rw [show Address.names [.named id] = [id] from rfl, hown, Bool.or_true, Bool.true_or]
  · rw [hcapital, Bool.or_true]

/-! ### Fields and members that are declared -/

/-- A group has a field, a slice zone has choices with fields in both halves. -/
def Field.Filled : Field → Prop
  | .leaf _ _ | .image _ _ => True
  | .group fields _ => fields ≠ []
  | .slices choices _ =>
    choices ≠ [] ∧ ∀ choice ∈ choices, choice.2.primary ≠ [] ∧ choice.2.items ≠ []

/-- The data has a field, and so has every group and every half of a choice; every slice zone has a
choice. -/
def CustomType.Filled (type : CustomType) : Prop :=
  type.dataFields ≠ [] ∧ ∀ field ∈ type.nested, field.Filled

instance : (field : Field) → Decidable field.Filled
  | .leaf _ _ => inferInstanceAs (Decidable True)
  | .image _ _ => inferInstanceAs (Decidable True)
  | .group fields _ => inferInstanceAs (Decidable (fields ≠ []))
  | .slices choices _ =>
    inferInstanceAs (Decidable (choices ≠ [] ∧ ∀ choice ∈ choices, choice.2.primary ≠ [] ∧
      choice.2.items ≠ []))

instance (type : CustomType) : Decidable type.Filled := inferInstanceAs (Decidable (_ ∧ _))

/-- A record has a field, a slice zone has a choice. -/
def Shape.Filled : Shape → Prop
  | .group fields | .primary fields | .items fields | .data fields => fields ≠ []
  | .slices choices => choices ≠ []
  | .leaf _ | .image _ | .thumbnail | .choice _ | .document _ => True

/-- What a part declares has fields or members when the part has. -/
theorem Part.filled_declaration_iff {part : Part} {declaration : TypeDeclaration}
    (h : part.declaration? naming = some declaration) : declaration.Filled ↔ part.shape.Filled := by
  have hrecord : ∀ (names : List String) (fields : FieldMap),
    declareFields naming names fields ≠ [] ↔ fields ≠ [] :=
    fun _ _ => not_congr List.map_eq_nil_iff
  obtain ⟨address, shape⟩ := part
  cases shape with
  | leaf kind => cases h
  | image thumbnails => cases h
  | thumbnail => cases h
  | group fields =>
    cases h
    exact hrecord _ fields
  | primary fields =>
    cases h
    exact hrecord _ fields
  | items fields =>
    cases h
    exact hrecord _ fields
  | data fields =>
    cases h
    exact hrecord _ fields
  | choice choice =>
    cases h
    exact iff_of_true (List.cons_ne_nil _ _) trivial
  | slices choices =>
    cases h
    exact not_congr List.map_eq_nil_iff
  | document uid =>
    cases h
    exact iff_of_true (List.append_ne_nil_of_right_ne_nil _ (List.cons_ne_nil _ _)) trivial

/-- A part without a declaration has nothing to fill. -/
theorem Part.filled_of_declaration?_eq_none {part : Part} (h : part.declaration? naming = none) :
    part.shape.Filled := by
  obtain ⟨address, shape⟩ := part
  cases shape with
  | leaf kind => trivial
  | image thumbnails => trivial
  | thumbnail => trivial
  | _ => cases h

/-- The parts of a field are filled when the fields inside are. -/
theorem Field.filled_parts_iff {field : Field} : ∀ {address : Address},
    (∀ part ∈ field.parts address, part.shape.Filled) ↔ ∀ inner ∈ field.nested, inner.Filled := by
  -- the same for the fields of a record, given each
  have lift : ∀ {address : Address} {fields : FieldMap},
      (∀ field ∈ fields, ∀ {address : Address},
        (∀ part ∈ field.2.parts address, part.shape.Filled) ↔
          ∀ inner ∈ field.2.nested, inner.Filled) →
      ((∀ part ∈ partsOfFields address fields, part.shape.Filled) ↔
        ∀ inner ∈ nestedFields fields, inner.Filled) := by
    intro address fields ih
    rw [partsOfFields_eq, List.forall_mem_flatMap, forall_mem_nestedFields]
    exact forall₂_congr fun field hfield => ih field hfield
  induction field using Field.induction with
  | leaf kind extra =>
    intro address
    rw [Field.parts, Field.nested, List.forall_mem_singleton, List.forall_mem_singleton]
    rfl
  | image thumbnails extra =>
    intro address
    have hthumbnails : ∀ part ∈ thumbnails.map fun spec : ThumbnailSpec =>
        (⟨address ++ [Segment.structural "thumbnails", .named spec.name], .thumbnail⟩ : Part),
          part.shape.Filled :=
      List.forall_mem_map.mpr fun _ _ => trivial
    rw [Field.parts, Field.nested, List.forall_mem_cons, List.forall_mem_singleton,
      and_iff_left hthumbnails]
    rfl
  | group fields extra ih =>
    intro address
    rw [Field.parts, Field.nested, List.forall_mem_append, List.forall_mem_singleton,
      List.forall_mem_cons, lift ih, and_comm]
    rfl
  | slices choices extra ih =>
    intro address
    have hchoice : ∀ choice ∈ choices,
        (∀ part ∈ partsOfChoice (address ++ [Segment.named choice.1]) choice.2, part.shape.Filled) ↔
          (choice.2.primary ≠ [] ∧ choice.2.items ≠ []) ∧
          (∀ inner ∈ nestedFields choice.2.primary, inner.Filled) ∧
            ∀ inner ∈ nestedFields choice.2.items, inner.Filled := by
      intro choice hmem
      obtain ⟨name, primary, items, more⟩ := choice
      rw [partsOfChoice, List.forall_mem_append, List.forall_mem_append, List.forall_mem_append,
        List.forall_mem_singleton, List.forall_mem_cons, List.forall_mem_singleton,
        lift (ih _ hmem).1,
        lift (ih _ hmem).2]
      simp only [Shape.Filled, and_true]
      tauto
    rw [Field.parts, Field.nested, List.forall_mem_append, List.forall_mem_singleton,
      List.forall_mem_cons, partsOfChoices_eq, List.forall_mem_flatMap, forall_mem_nestedChoices,
      forall₂_congr hchoice, forall₂_and,
      Field.Filled, and_comm, and_assoc]
    rfl

/-- **What a compilation declares has fields and members** exactly when the custom type has. -/
theorem filled_compile_iff (h : compile naming id type = .ok compiled) :
    (∀ declaration ∈ compiled.declarations, declaration.Filled) ↔ type.Filled := by
  have hparts : (∀ declaration ∈ compiled.declarations, declaration.Filled) ↔
      ∀ part ∈ type.parts id, part.shape.Filled := by
    rw [(compile_ok h).1]
    constructor
    · intro hall part hpart
      cases hdeclaration : part.declaration? naming with
      | none => exact Part.filled_of_declaration?_eq_none hdeclaration
      | some declaration =>
        exact (Part.filled_declaration_iff hdeclaration).mp
          (hall _ (List.mem_filterMap.mpr ⟨part, hpart, hdeclaration⟩))
    · intro hall declaration hmem
      obtain ⟨part, hpart, hdeclaration⟩ := List.mem_filterMap.mp hmem
      exact (Part.filled_declaration_iff hdeclaration).mpr (hall part hpart)
  rw [hparts, CustomType.parts, List.forall_mem_append, List.forall_mem_flatMap,
    List.forall_mem_cons, List.forall_mem_singleton, CustomType.Filled, CustomType.nested,
    forall_mem_nestedFields,
    forall₂_congr fun field _ => Field.filled_parts_iff, and_comm]
  exact and_congr_left' (and_iff_left trivial)

end ContentGraph
