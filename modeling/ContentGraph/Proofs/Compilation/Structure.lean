import ContentGraph.Compilation
import ContentGraph.Proofs.Schema.Reordered
import Mathlib.Data.List.Forall2

/-!
# What a compilation looks at

A custom type says more than is compiled: labels, placeholders and other members that are kept as
they are, the sizes of thumbnails, the tabs that an editor shows, and kinds of leaves that have one
type.  Two custom types that differ in these alone are walked side by side, with the same emissions
at every depth, so they compile to the same or fail alike.

* `LeafKind.SameType` — kinds of leaves that have one type;
* `Field.SameStructure`, `Choice.SameStructure`, `CustomType.SameStructure` — the same but for what
  is not looked at;
* `Field.SameStructure.induction` — the induction that follows groups and slice zones on both sides;
* `Field.EmitsAlike` with `emitsAlike_of_sameStructure` — such fields emit the same wherever they
  stand;
* `emissions_eq_of_sameStructure` — so do custom types, whatever their tabs are;
* `compile_eq_of_sameStructure` — they have one result.
-/

namespace ContentGraph

/-! ### The same structure -/

/-- The kinds of leaves that hold a text. -/
def textKinds : List LeafKind := [.color, .select, .text]

/-- The kinds of leaves that hold a date. -/
def dateKinds : List LeafKind := [.date, .timestamp]

/-- Two kinds of leaves that have one type: a kind and itself, two that hold a text, two that hold a
date. -/
inductive LeafKind.SameType : LeafKind → LeafKind → Prop
  | same (kind : LeafKind) : SameType kind kind
  | text {kind other : LeafKind} (hkind : kind ∈ textKinds) (hother : other ∈ textKinds) :
      SameType kind other
  | date {kind other : LeafKind} (hkind : kind ∈ dateKinds) (hother : other ∈ dateKinds) :
      SameType kind other

/-- The same choice but for its extra members and for what its fields may differ in. -/
inductive Choice.SameStructure {F : Type} (R : F → F → Prop) : Choice F → Choice F → Prop
  | intro {primary otherPrimary items otherItems : List (String × F)}
      (extra otherExtra : ExtraMembers)
      (hprimary : List.Forall₂ (Keyed.Alike R) primary otherPrimary)
      (hitems : List.Forall₂ (Keyed.Alike R) items otherItems) :
      SameStructure R ⟨primary, items, extra⟩ ⟨otherPrimary, otherItems, otherExtra⟩

/-- The same field but for extra members, for the sizes of thumbnails and for kinds of leaves that
have one type, at any depth.  Names and their order are the same. -/
inductive Field.SameStructure : Field → Field → Prop
  | leaf {kind other : LeafKind} (extra otherExtra : ExtraMembers) (h : kind.SameType other) :
      SameStructure (.leaf kind extra) (.leaf other otherExtra)
  | image {thumbnails others : List ThumbnailSpec} (extra otherExtra : ExtraMembers)
      (h : thumbnails.map ThumbnailSpec.name = others.map ThumbnailSpec.name) :
      SameStructure (.image thumbnails extra) (.image others otherExtra)
  | group {fields others : FieldMap} (extra otherExtra : ExtraMembers)
      (h : List.Forall₂ (Keyed.Alike Field.SameStructure) fields others) :
      SameStructure (.group fields extra) (.group others otherExtra)
  | slices {choices others : List (String × Choice Field)} (extra otherExtra : ExtraMembers)
      (h : List.Forall₂ (Keyed.Alike (Choice.SameStructure Field.SameStructure)) choices others) :
      SameStructure (.slices choices extra) (.slices others otherExtra)

/-- The same fields one after another over all tabs, however they are spread over tabs, and but for
what fields may differ in. -/
def CustomType.SameStructure (type other : CustomType) : Prop :=
  List.Forall₂ (Keyed.Alike Field.SameStructure) type.fields other.fields

/-- A relation of fields of one structure: of leaves of one type, of images with thumbnails of the
same names, of groups whose fields it relates one by one, of slice zones whose choices' fields it
relates one by one. -/
theorem Field.SameStructure.induction {motive : Field → Field → Prop}
    (leaf : ∀ (kind other : LeafKind) extra otherExtra, kind.SameType other →
      motive (.leaf kind extra) (.leaf other otherExtra))
    (image : ∀ (thumbnails others : List ThumbnailSpec) extra otherExtra,
      thumbnails.map ThumbnailSpec.name = others.map ThumbnailSpec.name →
        motive (.image thumbnails extra) (.image others otherExtra))
    (group : ∀ (fields others : FieldMap) extra otherExtra,
      List.Forall₂ (Keyed.Alike motive) fields others →
      motive (.group fields extra) (.group others otherExtra))
    (slices : ∀ (choices others : List (String × Choice Field)) extra otherExtra,
      List.Forall₂ (Keyed.Alike (Choice.SameStructure motive)) choices others →
        motive (.slices choices extra) (.slices others otherExtra))
    {field other : Field} (h : field.SameStructure other) : motive field other := by
  refine Field.SameStructure.rec (motive_1 := fun field other _ => motive field other)
    (motive_2 := fun fields others _ => List.Forall₂ (Keyed.Alike motive) fields others)
    (motive_3 := fun choices others _ => List.Forall₂
      (Keyed.Alike (Choice.SameStructure motive)) choices others)
    (motive_4 := fun field other _ => Keyed.Alike motive field other)
    (motive_5 := fun choice other _ => Keyed.Alike (Choice.SameStructure motive) choice other)
    (motive_6 := fun choice other _ => Choice.SameStructure motive choice other)
    (fun extra otherExtra hkinds => leaf _ _ extra otherExtra hkinds)
    (fun extra otherExtra hnames => image _ _ extra otherExtra hnames)
    (fun extra otherExtra _ ih => group _ _ extra otherExtra ih)
    (fun extra otherExtra _ ih => slices _ _ extra otherExtra ih) ?_ ?_ ?_ ?_ ?_ ?_ ?_ h
  · exact .nil
  · exact fun _ _ hhead htail => .cons hhead htail
  · exact .nil
  · exact fun _ _ hhead htail => .cons hhead htail
  · exact fun key _ _ _ ih => .intro key ih
  · exact fun key _ _ _ ih => .intro key ih
  · exact fun extra otherExtra _ _ hprimary hitems => .intro extra otherExtra hprimary hitems

/-! ### Lists side by side -/

section

variable {α β γ : Type} {R : α → β → Prop} {items : List α} {others : List β}

/-- What is read alike off related members is the same list. -/
theorem map_eq_of_forall₂ {f : α → γ} {g : β → γ} (h : List.Forall₂ R items others)
    (hread : ∀ a b, R a b → f a = g b) : items.map f = others.map g := by
  induction h with
  | nil => rfl
  | cons hab _ ih => rw [List.map_cons, List.map_cons, hread _ _ hab, ih]

/-- What is read alike off the first members that are kept is the same. -/
theorem map_find?_eq_of_forall₂ {p : α → Bool} {q : β → Bool} {f : α → γ} {g : β → γ}
    (h : List.Forall₂ R items others) (hkept : ∀ a b, R a b → p a = q b)
    (hread : ∀ a b, R a b → f a = g b) :
    (items.find? p).map f = (others.find? q).map g := by
  induction h with
  | nil => rfl
  | @cons a b _ _ hab _ ih =>
    rw [List.find?_cons, List.find?_cons, hkept a b hab]
    cases q b with
    | true => exact congrArg some (hread a b hab)
    | false => exact ih

end

/-! ### Fields that emit the same -/

/-- Two fields of one type and one kind that emit the same at every address. -/
structure Field.EmitsAlike (naming : TypeNaming) (field other : Field) : Prop where
  typeRef : ∀ names, field.typeRef naming names = other.typeRef naming names
  pathKind : field.pathKind = other.pathKind
  emit : ∀ path names, emitField naming path names field = emitField naming path names other

variable {naming : TypeNaming} {fields others : FieldMap}

namespace Field.EmitsAlike

variable {field other : Field}

/-- They are declared alike. -/
theorem declare_eq (h : field.EmitsAlike naming other) (names : List String) :
    field.declare naming names = other.declare naming names := by
  rw [Field.declare, Field.declare, h.typeRef, h.pathKind]

/-- Both or neither of them are identifiers. -/
theorem isUid_eq (h : field.EmitsAlike naming other) : field.isUid = other.isUid := by
  have huid (field : Field) : field.isUid = decide (field.pathKind = .uid) := by
    cases field with
    | leaf kind extra => cases kind <;> rfl
    | _ => rfl
  rw [huid, huid, h.pathKind]

end Field.EmitsAlike

/-- The fields of a record are declared alike. -/
theorem declareFields_eq_of_forall₂
    (h : List.Forall₂ (Keyed.Alike (Field.EmitsAlike naming)) fields others) (names : List String) :
    declareFields naming names fields = declareFields naming names others := by
  apply map_eq_of_forall₂ h
  rintro _ _ ⟨key, hfield⟩
  show (key, _) = (key, _)
  rw [hfield.declare_eq]

theorem declareObject_eq_of_forall₂
    (h : List.Forall₂ (Keyed.Alike (Field.EmitsAlike naming)) fields others) (path : Path)
    (names : List String) (role : TypeRole) :
    declareObject naming path names role fields = declareObject naming path names role others := by
  rw [declareObject, declareObject, declareFields_eq_of_forall₂ h]

/-- The fields of a record emit the same. -/
theorem emitFields_eq_of_forall₂
    (h : List.Forall₂ (Keyed.Alike (Field.EmitsAlike naming)) fields others) (path : Path)
    (names : List String) :
    emitFields naming path names fields = emitFields naming path names others := by
  induction h with
  | nil => rfl
  | cons hfield _ ih =>
    obtain ⟨key, hfield⟩ := hfield
    rw [emitFields, emitFields, hfield.emit, ih]

/-- Choices whose fields emit the same do so themselves. -/
theorem emitChoice_eq_of_sameStructure {choice other : Choice Field}
    (h : choice.SameStructure (Field.EmitsAlike naming) other) (path : Path) (names : List String) :
    emitChoice naming path names choice = emitChoice naming path names other := by
  obtain ⟨extra, otherExtra, hprimary, hitems⟩ := h
  simp only [emitChoice, emitFields_eq_of_forall₂ hprimary, emitFields_eq_of_forall₂ hitems,
    declareObject_eq_of_forall₂ hprimary, declareObject_eq_of_forall₂ hitems]

theorem emitChoices_eq_of_forall₂ {choices others : List (String × Choice Field)}
    (h : List.Forall₂ (Keyed.Alike (Choice.SameStructure (Field.EmitsAlike naming))) choices others)
    (path : Path) (names : List String) :
    emitChoices naming path names choices = emitChoices naming path names others := by
  induction h with
  | nil => rfl
  | cons hchoice _ ih =>
    obtain ⟨key, hchoice⟩ := hchoice
    rw [emitChoices, emitChoices, emitChoice_eq_of_sameStructure hchoice, ih]

/-- Leaves of one type emit the same. -/
theorem emitsAlike_leaf {kind other : LeafKind} (naming : TypeNaming) (h : kind.SameType other)
    (extra otherExtra : ExtraMembers) :
    (Field.leaf kind extra).EmitsAlike naming (.leaf other otherExtra) := by
  have htype : kind.typeRef naming = other.typeRef naming ∧ kind.pathKind = other.pathKind := by
    cases h with
    | same => exact ⟨rfl, rfl⟩
    | text hkind hother =>
      have htext : ∀ kind ∈ textKinds, kind.typeRef naming = .named "String" ∧
          kind.pathKind = .string := by
        simp [textKinds, LeafKind.typeRef, LeafKind.pathKind]
      obtain ⟨hfirst, hsecond⟩ := htext _ hkind
      obtain ⟨hfirst', hsecond'⟩ := htext _ hother
      exact ⟨hfirst.trans hfirst'.symm, hsecond.trans hsecond'.symm⟩
    | date hkind hother =>
      have hdate : ∀ kind ∈ dateKinds, kind.typeRef naming = .named "Date" ∧
          kind.pathKind = .date := by
        simp [dateKinds, LeafKind.typeRef, LeafKind.pathKind]
      obtain ⟨hfirst, hsecond⟩ := hdate _ hkind
      obtain ⟨hfirst', hsecond'⟩ := hdate _ hother
      exact ⟨hfirst.trans hfirst'.symm, hsecond.trans hsecond'.symm⟩
  refine ⟨fun _ => htype.1, htype.2, fun path names => ?_⟩
  rw [emitField, emitField]
  show [Emission.register ⟨path, (kind.typeRef naming).render, kind.pathKind⟩] =
    [.register ⟨path, (other.typeRef naming).render, other.pathKind⟩]
  rw [htype.1, htype.2]

/-- **Fields of one structure emit the same**, wherever they stand. -/
theorem emitsAlike_of_sameStructure (naming : TypeNaming) {field other : Field}
    (h : field.SameStructure other) :
    field.EmitsAlike naming other := by
  refine Field.SameStructure.induction (motive := Field.EmitsAlike naming) ?_ ?_ ?_ ?_ h
  · intro kind other extra otherExtra hkinds
    exact emitsAlike_leaf naming hkinds extra otherExtra
  · intro thumbnails others extra otherExtra hnames
    refine ⟨fun _ => rfl, rfl, fun path segments => ?_⟩
    -- a thumbnail is registered by its name
    have hspecs (specs : List ThumbnailSpec) : registerThumbnails naming path specs =
        (specs.map ThumbnailSpec.name).map fun name =>
          .register ⟨path ++ [Registry.thumbnailsSegment, name], naming.shared .imageThumbnail,
            .imageThumbnail⟩ := by
      rw [List.map_map]
      rfl
    rw [emitField, emitField, hspecs, hspecs, hnames]
    rfl
  · intro fields others extra otherExtra hfields
    refine ⟨fun _ => rfl, rfl, fun path names => ?_⟩
    rw [emitField, emitField, emitFields_eq_of_forall₂ hfields, declareObject_eq_of_forall₂ hfields]
    rfl
  · intro choices others extra otherExtra hchoices
    refine ⟨fun _ => rfl, rfl, fun path names => ?_⟩
    have hmembers : (choices.map fun choice => naming.namespaced (names ++ [choice.1]) .slice) =
        others.map fun choice => naming.namespaced (names ++ [choice.1]) .slice := by
      apply map_eq_of_forall₂ hchoices
      rintro _ _ ⟨key, -⟩
      rfl
    rw [emitField, emitField, emitChoices_eq_of_forall₂ hchoices, hmembers]
    rfl

/-! ### Custom types of one structure -/

/-- The fields of all tabs emit the same, a second identifier included. -/
theorem emitTopLevel_eq_of_forall₂ (id : String)
    (h : List.Forall₂ (Keyed.Alike (Field.EmitsAlike naming)) fields others) :
    ∀ uid, emitTopLevel naming id uid fields = emitTopLevel naming id uid others := by
  induction h with
  | nil =>
    intro uid
    rfl
  | cons hfield _ ih =>
    intro uid
    obtain ⟨key, hfield⟩ := hfield
    cases uid <;> simp only [emitTopLevel, hfield.isUid_eq, hfield.emit, ih]

/-- The data is declared alike. -/
theorem dataType_eq_of_forall₂ (id : String)
    (h : List.Forall₂ (Keyed.Alike (Field.EmitsAlike naming)) fields others) :
    dataType naming id fields = dataType naming id others := by
  have hdata : List.Forall₂ (Keyed.Alike (Field.EmitsAlike naming))
      (fields.filter fun field => !field.2.isUid)
      (others.filter fun field => !field.2.isUid) := by
    refine List.rel_filter ?_ h
    rintro _ _ ⟨key, hfield⟩
    show (!_) = true ↔ (!_) = true
    rw [hfield.isUid_eq]
  rw [dataType, dataType, declareFields_eq_of_forall₂ hdata]

/-- The root is declared alike. -/
theorem rootType_eq_of_forall₂ (id : String)
    (h : List.Forall₂ (Keyed.Alike (Field.EmitsAlike naming)) fields others) :
    rootType naming id fields = rootType naming id others := by
  have huid :
      (fields.find? fun field => field.2.isUid).map
        (fun field => (field.1, field.2.declare naming [id])) =
      (others.find? fun field => field.2.isUid).map fun field =>
        (field.1, field.2.declare naming [id]) := by
    apply map_find?_eq_of_forall₂ h
    · rintro _ _ ⟨key, hfield⟩
      exact hfield.isUid_eq
    · rintro _ _ ⟨key, hfield⟩
      show (key, _) = (key, _)
      rw [hfield.declare_eq]
  simp only [rootType, huid]

variable {type other : CustomType}

/-- **Custom types of one structure emit the same.** -/
theorem emissions_eq_of_sameStructure (naming : TypeNaming) (id : String)
    (h : type.SameStructure other) :
    emissions naming id type = emissions naming id other := by
  have hfields : List.Forall₂ (Keyed.Alike (Field.EmitsAlike naming)) type.fields other.fields := by
    refine h.imp ?_
    rintro _ _ ⟨key, hfield⟩
    exact .intro key (emitsAlike_of_sameStructure naming hfield)
  simp only [emissions, emitTopLevel_eq_of_forall₂ id hfields, dataType_eq_of_forall₂ id hfields,
    rootType_eq_of_forall₂ id hfields]

/-- **Only structure is compiled.**  Two custom types with the same fields one after another,
however tabs divide them, and but for extra members, sizes of thumbnails and kinds of leaves that
have one type, at any depth, have the same declarations and the same registry, or the same error. -/
theorem compile_eq_of_sameStructure (naming : TypeNaming) (id : String)
    (h : type.SameStructure other) :
    compile naming id type = compile naming id other := by
  rw [compile, compile, emissions_eq_of_sameStructure naming id h]

/-- A custom type with every kind of container, in one tab. -/
def CustomType.bare : CustomType :=
  ⟨[("Main", [("uid", .plain .uid), ("tone", .plain .color), ("day", .plain .date),
    ("photo", .image [{ name := "small" }] []), ("rows", .group [("state", .plain .select)] []),
    ("zone", .slices
      [("quote", {
        primary := [("at", .plain .timestamp)]
        items := [("by", .plain .text)]
        extra := [] })]
      [])])]⟩

/-- The same in two tabs of other names with an empty one between them, and with labels, sizes and
other kinds of texts and dates. -/
def CustomType.labelled : CustomType :=
  ⟨[("Head", [("uid", .leaf .uid [("label", .string "Address")]),
    ("tone", .leaf .select [("options", .array [])])]), ("Empty", []),
    ("Body", [("day", .leaf .timestamp [("label", .string "Day")]),
      ("photo", .image [{ name := "small", width := some 400, height := some 300 }]
        [("constraint", .null)]),
      ("rows", .group [("state", .leaf .text [("label", .string "State")])]
        [("label", .string "Rows")]),
      ("zone", .slices
        [("quote", {
          primary := [("at", .plain .date)]
          items := [("by", .plain .color)]
          extra := [("type", .string "Slice")] })]
        [("labels", .null)])])]⟩

theorem sameStructure_labelled : CustomType.bare.SameStructure CustomType.labelled := by
  have text {kind other : LeafKind} (extra : ExtraMembers) (hkind : kind ∈ textKinds)
      (hother : other ∈ textKinds) :
      (Field.plain kind).SameStructure (.leaf other extra) := .leaf [] extra (.text hkind hother)
  have date {kind other : LeafKind} (extra : ExtraMembers) (hkind : kind ∈ dateKinds)
      (hother : other ∈ dateKinds) :
      (Field.plain kind).SameStructure (.leaf other extra) := .leaf [] extra (.date hkind hother)
  have hrows := Field.SameStructure.group [] [("label", .string "Rows")]
    (.cons (.intro "state" (text [("label", .string "State")] (by decide : .select ∈ textKinds)
      (by decide : .text ∈ textKinds))) .nil)
  have hquote := Choice.SameStructure.intro [] [("type", .string "Slice")]
    (.cons (.intro "at" (date [] (by decide : .timestamp ∈ dateKinds)
      (by decide : .date ∈ dateKinds))) .nil)
    (.cons (.intro "by" (text [] (by decide : .text ∈ textKinds) (by decide : .color ∈ textKinds)))
      .nil)
  refine .cons (.intro "uid" (.leaf _ _ (.same _)))
    (.cons (.intro "tone" (text _ (by decide) (by decide))) ?_)
  refine .cons (.intro "day" (date _ (by decide) (by decide)))
    (.cons (.intro "photo" (.image _ _ rfl)) ?_)
  exact .cons (.intro "rows" hrows)
    (.cons (.intro "zone" (.slices _ _ (.cons (.intro "quote" hquote) .nil))) .nil)

/-- Both compile, to the same. -/
theorem compile_eq_of_sameStructure_labelled :
    CustomType.bare.SameStructure CustomType.labelled ∧
      compile {} "page" .bare = compile {} "page" .labelled ∧
      ∃ compiled, compile {} "page" .bare = .ok compiled := by
  refine ⟨sameStructure_labelled, compile_eq_of_sameStructure {} "page" sameStructure_labelled, ?_⟩
  have hok : (compile {} "page" .bare).isOk = true := by decide
  cases hresult : compile {} "page" .bare with
  | ok compiled => exact ⟨compiled, rfl⟩
  | error e =>
    rw [hresult] at hok
    cases hok

end ContentGraph
