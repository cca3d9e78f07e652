import ContentGraph.Proofs.Compilation.Children
import ContentGraph.Proofs.Schema.Reordered

/-!
# Compiling a custom type in another order

What a part compiles to depends on its address and its shape; the order of what stands inside it
shows in the order of declared fields and union members only.  Whether a custom type compiles is a
matter of how many identifiers, paths and names there are, and no order changes their number.

* `TypeDeclaration.SameUpToOrder` — the same type but for the order of its fields or members;
* `Part.CompilesAlike` — two parts with the same registration and the same declaration, up to that
  order;
* `rel_parts` — the parts of a custom type in another order compile alike, one to one;
* `compile_reordered` — reordering a custom type does not change what it means.
-/

namespace ContentGraph

/-- The same type but for the order of fields or of union members. -/
inductive TypeDeclaration.SameUpToOrder : TypeDeclaration → TypeDeclaration → Prop
  | object {type other : ObjectType} (name : type.name = other.name)
      (fields : type.fields.Perm other.fields)
      (interfaces : type.interfaces = other.interfaces) :
      SameUpToOrder (.object type) (.object other)
  | union {type other : UnionType} (name : type.name = other.name)
      (members : type.members.Perm other.members) :
      SameUpToOrder (.union type) (.union other)

theorem TypeDeclaration.SameUpToOrder.name_eq {declaration other : TypeDeclaration}
    (h : declaration.SameUpToOrder other) : declaration.name = other.name := by
  cases h with
  | object name fields interfaces => exact name
  | union name members => exact name

/-- Two parts with the same registration that declare the same type, up to the order inside it. -/
structure Part.CompilesAlike (naming : TypeNaming) (part other : Part) : Prop where
  entry : part.entry naming.typePrefix = other.entry naming.typePrefix
  declaration : Option.Rel TypeDeclaration.SameUpToOrder (part.declaration? naming)
    (other.declaration? naming)

variable {naming : TypeNaming}

namespace Part.CompilesAlike

variable {part other : Part}

/-- Parts that declare nothing compile alike when they register alike. -/
theorem of_entry (h : part.entry naming.typePrefix = other.entry naming.typePrefix)
    (hpart : part.declaration? naming = none) (hother : other.declaration? naming = none) :
    part.CompilesAlike naming other := by
  refine ⟨h, ?_⟩
  rw [hpart, hother]
  exact .none

theorem path_eq (h : part.CompilesAlike naming other) : part.path = other.path :=
  congrArg PathEntry.path h.entry

/-- The same name is generated. -/
theorem generated?_eq (h : part.CompilesAlike naming other) :
    part.generated? naming.typePrefix = other.generated? naming.typePrefix := by
  rw [← name_declaration?, ← name_declaration?]
  exact map_eq_of_rel h.declaration fun _ _ hsame => hsame.name_eq

end Part.CompilesAlike

/-! ### Fields in another order -/

/-- Two fields that are declared alike and whose parts compile alike, one to one, wherever they
stand. -/
structure Field.CompilesAlike (naming : TypeNaming) (field other : Field) : Prop where
  declare : ∀ names, field.declare naming names = other.declare naming names
  parts : ∀ address, Multiset.Rel (Part.CompilesAlike naming) (field.parts address)
    (other.parts address)

variable {fields others : FieldMap}

/-- The same fields are declared for a record. -/
theorem perm_declareFields
    (h : Multiset.Rel (Keyed.Alike (Field.CompilesAlike naming)) fields others)
    (names : List String) :
    (declareFields naming names fields).Perm (declareFields naming names others) := by
  apply perm_map_of_rel h
  rintro _ _ ⟨key, hfield⟩
  show (key, _) = (key, _)
  rw [hfield.declare]

theorem rel_partsOfFields
    (h : Multiset.Rel (Keyed.Alike (Field.CompilesAlike naming)) fields others)
    (address : Address) :
    Multiset.Rel (Part.CompilesAlike naming) (partsOfFields address fields)
      (partsOfFields address others) := by
  rw [partsOfFields_eq, partsOfFields_eq]
  apply rel_flatMap h
  rintro _ _ ⟨key, hfield⟩
  exact hfield.parts _

/-- The fields of a record, with the record itself in the end. -/
theorem rel_container {address : Address} {shape other : Shape}
    (h : Multiset.Rel (Keyed.Alike (Field.CompilesAlike naming)) fields others)
    (hown : Part.CompilesAlike naming ⟨address, shape⟩ ⟨address, other⟩) :
    Multiset.Rel (Part.CompilesAlike naming) (partsOfFields address fields ++
      [⟨address, shape⟩] : List Part)
      (partsOfFields address others ++ [⟨address, other⟩] : List Part) := by
  rw [← Multiset.coe_add, ← Multiset.coe_add]
  exact (rel_partsOfFields h address).add (.cons hown .zero)

/-- A record with its fields in another order compiles alike. -/
theorem compilesAlike_record {address : Address} {shape other : Shape} (role : TypeRole)
    (h : Multiset.Rel (Keyed.Alike (Field.CompilesAlike naming)) fields others)
    (hentry : Part.entry naming.typePrefix ⟨address,
      shape⟩ = Part.entry naming.typePrefix ⟨address, other⟩)
    (hshape : Part.declaration? naming ⟨address, shape⟩ =
      some (Part.objectType naming address.names role fields))
    (hother : Part.declaration? naming ⟨address, other⟩ =
      some (Part.objectType naming address.names role others)) :
    Part.CompilesAlike naming ⟨address, shape⟩ ⟨address, other⟩ := by
  refine ⟨hentry, ?_⟩
  rw [hshape, hother]
  exact .some (.object rfl (perm_declareFields h _) rfl)

/-- A choice with the fields of its halves in another order. -/
theorem rel_partsOfChoice {choice other : Choice Field}
    (h : Choice.Reordered (Field.CompilesAlike naming) choice other) (address : Address) :
    Multiset.Rel (Part.CompilesAlike naming) (partsOfChoice address choice)
      (partsOfChoice address other) := by
  cases h with
  | intro extra hprimary hitems =>
    have hchoice : ∀ choice other : Choice Field,
        Part.CompilesAlike naming ⟨address, .choice choice⟩ ⟨address, .choice other⟩ := by
      intro choice other
      exact ⟨rfl, .some (.object rfl (List.Perm.refl _) rfl)⟩
    rw [partsOfChoice_eq, partsOfChoice_eq, halves, halves]
    simp only [List.flatMap_cons, List.flatMap_nil, List.append_nil, ← Multiset.coe_add]
    refine Multiset.Rel.add (Multiset.Rel.add ?_ ?_) (.cons (hchoice _ _) .zero)
    · exact rel_container hprimary (compilesAlike_record .slicePrimary hprimary rfl rfl rfl)
    · exact rel_container hitems (compilesAlike_record .sliceItem hitems rfl rfl rfl)

/-- **A field in another order** is declared alike and its parts compile alike, one to one. -/
theorem compilesAlike_of_reordered (naming : TypeNaming) {field other : Field}
    (h : field.Reordered other) :
    field.CompilesAlike naming other := by
  refine Field.Reordered.induction (motive := Field.CompilesAlike naming) ?_ ?_ ?_ ?_ h
  · intro kind extra
    refine ⟨fun _ => rfl, fun address => ?_⟩
    exact .cons (.of_entry rfl rfl rfl) .zero
  · intro thumbnails others extra perm
    refine ⟨fun _ => rfl, fun address => ?_⟩
    rw [Field.parts, Field.parts, ← Multiset.cons_coe, ← Multiset.cons_coe]
    refine .cons (.of_entry rfl rfl rfl) ?_
    rw [← Multiset.map_coe, ← Multiset.map_coe, Multiset.coe_eq_coe.mpr perm]
    apply Multiset.rel_refl_of_refl_on
    intro part hpart
    obtain ⟨spec, _, rfl⟩ := Multiset.mem_map.mp hpart
    exact .of_entry rfl rfl rfl
  · intro fields others extra hfields
    refine ⟨fun _ => rfl, fun address => ?_⟩
    rw [Field.parts, Field.parts]
    exact rel_container hfields (compilesAlike_record .group hfields rfl rfl rfl)
  · intro choices others extra hchoices
    refine ⟨fun _ => rfl, fun address => ?_⟩
    rw [Field.parts, Field.parts, ← Multiset.coe_add, ← Multiset.coe_add, partsOfChoices_eq,
      partsOfChoices_eq]
    refine Multiset.Rel.add (rel_flatMap hchoices ?_) (.cons ⟨rfl, .some (.union rfl ?_)⟩ .zero)
    · rintro _ _ ⟨key, hchoice⟩
      exact rel_partsOfChoice hchoice _
    · apply perm_map_of_rel hchoices
      rintro _ _ ⟨key, hchoice⟩
      rfl

/-! ### Custom types in another order -/

/-- Fields in another order compile alike. -/
theorem rel_compilesAlike (naming : TypeNaming)
    (h : Multiset.Rel (Keyed.Alike Field.Reordered) fields others) :
    Multiset.Rel (Keyed.Alike (Field.CompilesAlike naming)) fields others := by
  refine h.mono ?_
  rintro _ _ _ _ ⟨key, hfield⟩
  exact .intro key (compilesAlike_of_reordered naming hfield)

variable {type other : CustomType}

/-- Where there is one identifier at most, it is declared alike. -/
theorem declare_uid?_eq (naming : TypeNaming) (names : List String) (h : type.Reordered other)
    (hone : type.OneUid) :
    (type.uid?.map fun field => (field.1, field.2.declare naming names)) =
      other.uid?.map fun field => (field.1, field.2.declare naming names) := by
  apply eq_of_perm_toList
  rw [Option.toList_map, Option.toList_map, ← filter_isUid hone,
    ← filter_isUid (h.oneUid_iff.mp hone)]
  apply perm_map_of_rel (rel_compilesAlike naming h.rel_uidFields)
  rintro _ _ ⟨key, hfield⟩
  show (key, _) = (key, _)
  rw [hfield.declare]

/-- **The parts of a custom type in another order** compile alike, one to one. -/
theorem rel_parts (naming : TypeNaming) (id : String) (h : type.Reordered other)
    (hone : type.OneUid) :
    Multiset.Rel (Part.CompilesAlike naming) (type.parts id) (other.parts id) := by
  rw [CustomType.parts, CustomType.parts, ← Multiset.coe_add, ← Multiset.coe_add]
  refine Multiset.Rel.add (rel_flatMap h ?_) (.cons ?_ (.cons ⟨rfl, ?_⟩ .zero))
  · rintro _ _ ⟨key, hfield⟩
    rw [topAddress, topAddress, hfield.isUid_eq]
    exact (compilesAlike_of_reordered naming hfield).parts _
  · exact compilesAlike_record .data (rel_compilesAlike naming h.rel_dataFields) rfl rfl rfl
  · refine .some (.object rfl ?_ rfl)
    show ((type.uid?.map fun field => (field.1, field.2.declare naming [id])).toList ++ _).Perm
      ((other.uid?.map fun field => (field.1, field.2.declare naming [id])).toList ++ _)
    rw [declare_uid?_eq naming [id] h hone]

/-- **Both compile or neither does.** -/
theorem exists_compile_iff_of_reordered (naming : TypeNaming) (id : String)
    (h : type.Reordered other) :
    (∃ compiled, compile naming id type = .ok compiled) ↔
      ∃ found, compile naming id other = .ok found := by
  rw [exists_compile_iff, exists_compile_iff, h.oneUid_iff]
  refine and_congr_right fun hother => ?_
  have hparts := rel_parts naming id h (h.oneUid_iff.mpr hother)
  have hnames := perm_filterMap_of_rel hparts fun _ _ hpart => hpart.generated?_eq
  have hpaths := perm_map_of_rel hparts fun _ _ hpart => hpart.path_eq
  rw [hnames.nodup_iff, hpaths.nodup_iff]

/-- Registries with the same entries in any order know the same of every path. -/
theorem Registry.get?_eq_of_perm {registry other : Registry}
    (h : registry.entries.Perm other.entries) (path : Path) :
    registry.get? path = other.get? path := by
  ext entry
  rw [get?_eq_some_iff, get?_eq_some_iff, h.mem_iff]

/-- **Reordering a custom type does not change what it means.**  Of two custom types that are the
same but for the order of what they hold, at any depth, and for the tabs of top-level fields, both
compile or neither does; their registries know the same type and kind of every path, and they
declare the same types up to the order of declarations, of fields and of union members. -/
theorem compile_reordered (naming : TypeNaming) (id : String) (h : type.Reordered other) :
    ((∃ compiled, compile naming id type = .ok compiled) ↔
      ∃ found, compile naming id other = .ok found) ∧
      ∀ compiled found, compile naming id type = .ok compiled →
      compile naming id other = .ok found →
        (∀ path, compiled.paths.get? path = found.paths.get? path) ∧
          Multiset.Rel TypeDeclaration.SameUpToOrder compiled.declarations found.declarations := by
  refine ⟨exists_compile_iff_of_reordered naming id h, ?_⟩
  intro compiled found hcompiled hfound
  have hone : type.OneUid := (exists_compile_iff.mp ⟨compiled, hcompiled⟩).1
  have hparts := rel_parts naming id h hone
  obtain ⟨hdeclarations, hentries⟩ := compile_ok hcompiled
  obtain ⟨hfoundDeclarations, hfoundEntries⟩ := compile_ok hfound
  constructor
  · apply Registry.get?_eq_of_perm
    rw [hentries, hfoundEntries]
    exact perm_map_of_rel hparts fun _ _ hpart => hpart.entry
  · rw [hdeclarations, hfoundDeclarations, List.filterMap_eq_flatMap_toList,
      List.filterMap_eq_flatMap_toList]
    apply rel_flatMap hparts
    intro part counterpart hpart
    exact rel_toList hpart.declaration

/-- A custom type with a group, a slice zone and an image, each of which holds two members. -/
def CustomType.gallery : CustomType :=
  ⟨[("Main", [("uid", .plain .uid),
      ("rows", .group [("date", .plain .date),
        ("photo", .image [{ name := "small" }, { name := "large" }] [])] [])]),
    ("More", [("zone", .slices
      [("quote", {
          primary := [("text", .plain .structuredText), ("by", .plain .link)]
          items := []
          extra := [] }),
        ("break", { primary := [], items := [], extra := [] })] [])])]⟩

/-- The same with its tabs exchanged, the identifier moved to the other tab, and every pair turned
around. -/
def CustomType.galleryTurned : CustomType :=
  ⟨[("More", [("zone", .slices
      [("break", { primary := [], items := [], extra := [] }),
        ("quote", {
          primary := [("by", .plain .link), ("text", .plain .structuredText)]
          items := []
          extra := [] })] []),
      ("uid", .plain .uid)]),
    ("Main", [
      ("rows", .group [("photo", .image [{ name := "large" }, { name := "small" }] []),
        ("date", .plain .date)] [])])]⟩

theorem reordered_gallery : CustomType.gallery.Reordered CustomType.galleryTurned := by
  have same (kind : LeafKind) : (Field.plain kind).Reordered (.plain kind) := .leaf kind []
  have hrows :
      (Field.group [("date", .plain .date),
        ("photo", .image [{ name := "small" }, { name := "large" }] [])]
      []).Reordered (.group [("photo", .image [{ name := "large" }, { name := "small" }] []),
        ("date", .plain .date)] []) :=
    .group [] (rel_swap (.intro "date" (same .date)) (.intro "photo" (.image [] (.swap _ _ _))))
  have hquote :
      Choice.Reordered Field.Reordered
        ⟨[("text", .plain .structuredText), ("by", .plain .link)], [], []⟩
        ⟨[("by", .plain .link), ("text", .plain .structuredText)], [], []⟩ :=
    .intro [] (rel_swap (.intro "text" (same .structuredText)) (.intro "by" (same .link))) .zero
  have hbreak : Choice.Reordered Field.Reordered ⟨[], [], []⟩ ⟨[], [], []⟩ := .intro [] .zero .zero
  have hzone := Field.Reordered.slices [] (rel_swap (.intro "quote" hquote) (.intro "break" hbreak))
  apply rel_of_forall₂_perm
  · exact .cons (.intro "uid" (same .uid)) (.cons (.intro "rows" hrows)
      (.cons (.intro "zone" hzone) .nil))
  · exact @List.perm_append_comm _ [_, _] [_]

/-- The gallery and its turned form: both compile, to registries that list their paths in another
order. -/
theorem compile_reordered_gallery :
    CustomType.gallery.Reordered CustomType.galleryTurned ∧
      ∃ compiled found, compile {} "page" .gallery = .ok compiled ∧
      compile {} "page" .galleryTurned = .ok found ∧
        (∀ path, compiled.paths.get? path = found.paths.get? path) ∧
        Multiset.Rel TypeDeclaration.SameUpToOrder compiled.declarations found.declarations := by
  have h := compile_reordered {} "page" reordered_gallery
  obtain ⟨compiled, hcompiled⟩ : ∃ compiled, compile {} "page" .gallery = .ok compiled :=
    exists_compile_iff.mpr (by decide)
  obtain ⟨found, hfound⟩ := h.1.mp ⟨compiled, hcompiled⟩
  exact ⟨reordered_gallery, compiled, found, hcompiled, hfound, h.2 compiled found hcompiled hfound⟩

end ContentGraph
