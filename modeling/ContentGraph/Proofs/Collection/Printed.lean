import ContentGraph.Proofs.Collection.Names
import ContentGraph.Proofs.Compilation.Printed
import ContentGraph.Proofs.Json.Text
import ContentGraph.Proofs.Schema.Published

/-!
# When a printed compilation is a document

The declarations that serving a compiled type needs are printed without a check.  The shared types
are always what they should be, the union of documents has the root for a member, and the type of
thumbnails becomes a scalar rather than an object without fields.  The types that are generated for
records and slice zones have no such care taken of them: one empty record, or one slice zone without
choices, and what is printed is no document.

* `printable_shared`, `filled_shared` — the shared types;
* `filled_documentUnion`, `filled_thumbnailsType` — the collected types, filled for every
  compilation;
* `CommandLine.isDocument_served_iff` — a plainly named compilation is printed as a document exactly
  when it is filled;
* `CommandLine.printed_document_iff` — the same of the text that the command prints;
* `CommandLine.empty_type_prints_no_document` — a custom type without fields.
-/

namespace ContentGraph

variable {naming : TypeNaming} {id : String} {type : CustomType} {compiled : CompiledType}

/-! ### Shared types -/

theorem printable_fieldsOfType {type : String} (htype : Sdl.IsName type.toList)
    {names : List String} (hnames : ∀ name ∈ names, Sdl.IsName name.toList) : ∀ field ∈
      fieldsOfType type names, PrintableField field :=
  List.forall_mem_map.mpr fun name hname => ⟨hnames name hname, htype, trivial⟩

theorem printable_documentInterface (h : PlainlyNamed naming id type) :
    (TypeDeclaration.interface (documentInterfaceType naming)).Printable where
  name := h.isName_shared .document
  listed := fun _ habsurd => absurd habsurd List.not_mem_nil
  fields := by
    intro field hfield
    simp only [TypeDeclaration.fields, documentInterfaceType, List.mem_cons, List.not_mem_nil,
      or_false] at hfield
    rcases hfield with rfl | rfl | rfl | rfl | rfl | rfl | rfl | rfl <;>
        exact ⟨by decide, by decide, trivial⟩

/-- **The shared types** mention names of the language only. -/
theorem printable_shared (h : PlainlyNamed naming id type) :
    ∀ declaration ∈ sharedDeclarations naming, declaration.Printable := by
  have alone : ∀ {object : ObjectType} (shared : SharedType), object.name = naming.shared shared →
      object.interfaces = [] → (∀ field ∈ object.fields, PrintableField field) →
        (TypeDeclaration.object object).Printable := by
    intro object shared hname hinterfaces hfields
    refine { name := ?_, listed := ?_, fields := hfields }
    · rw [TypeDeclaration.name, hname]
      exact h.isName_shared shared
    · intro name hlisted
      rw [TypeDeclaration.listed, hinterfaces] at hlisted
      exact absurd hlisted List.not_mem_nil
  have append : ∀ {fields more : List (String × FieldDecl)},
    (∀ field ∈ fields, PrintableField field) →
      (∀ field ∈ more, PrintableField field) → ∀ field ∈ fields ++ more, PrintableField field :=
    fun hfields hmore => List.forall_mem_append.mpr ⟨hfields, hmore⟩
  have builtin : ∀ {type : String}, Sdl.IsName type.toList → ∀ {names : List String},
      (∀ name ∈ names, Sdl.IsName name.toList) → ∀ field ∈ fieldsOfType type names,
        PrintableField field :=
    fun htype _ hnames => printable_fieldsOfType htype hnames
  have string : ∀ {names : List String}, (∀ name ∈ names, Sdl.IsName name.toList) →
      ∀ field ∈ fieldsOfType "String" names, PrintableField field := builtin (by decide)
  have int : ∀ {names : List String}, (∀ name ∈ names, Sdl.IsName name.toList) →
      ∀ field ∈ fieldsOfType "Int" names, PrintableField field := builtin (by decide)
  have json : ∀ field ∈ fieldsOfType "JSON" ["raw"], PrintableField field :=
    builtin (by decide) (by decide)
  have hdimensions := printable_fieldsOfType (h.isName_shared .imageDimensions)
    (by decide : ∀ name ∈ ["dimensions"], Sdl.IsName name.toList)
  have hrendition : ∀ field ∈ renditionFields naming, PrintableField field :=
    append (append (append (string (by decide)) hdimensions) (string (by decide)))
      (builtin (by decide) (by decide))
  intro declaration hmem
  simp only [sharedDeclarations, List.map_cons, List.map_nil, List.mem_cons, List.not_mem_nil,
    or_false] at hmem
  rcases hmem with rfl | rfl | rfl | rfl | rfl | rfl | rfl | rfl
  · exact printable_documentInterface h
  · exact alone .structuredText rfl rfl (append (string (by decide)) json)
  · exact alone .geoPoint rfl rfl (builtin (by decide) (by decide))
  · exact alone .embed rfl rfl (append (string (by decide)) (int (by decide)))
  · exact alone .imageDimensions rfl rfl (int (by decide))
  · exact alone .imageThumbnail rfl rfl hrendition
  · have hname : Sdl.IsName "thumbnails".toList := by decide
    have hthumbnails : PrintableField
        ("thumbnails", (FieldDecl.named (naming.shared .imageThumbnails)).withResolver
          .imageThumbnails) :=
      ⟨hname, h.isName_shared .imageThumbnails, trivial⟩
    exact alone .image rfl rfl (append hrendition (List.forall_mem_singleton.mpr hthumbnails))
  · have htags : PrintableField ("tags", .ofRef (.list (.named "String"))) :=
      ⟨by decide, by decide, trivial⟩
    have hdocument := printable_fieldsOfType (h.isName_shared .allDocumentTypes)
      (by decide : ∀ name ∈ ["document"], Sdl.IsName name.toList)
    refine alone .link rfl rfl ?_
    simp only [linkType, List.forall_mem_append, List.forall_mem_singleton, and_assoc]
    exact ⟨string (by decide), builtin (by decide) (by decide), string (by decide), int (by decide),
      builtin (by decide) (by decide), string (by decide), htags, string (by decide),
      hdocument, json⟩

/-- The shared types have fields. -/
theorem filled_shared (naming : TypeNaming) :
    ∀ declaration ∈ sharedDeclarations naming, declaration.Filled := by
  intro declaration hmem
  simp only [sharedDeclarations, List.map_cons, List.map_nil, List.mem_cons, List.not_mem_nil,
    or_false] at hmem
  rcases hmem with rfl | rfl | rfl | rfl | rfl | rfl | rfl | rfl <;> exact List.cons_ne_nil _ _

/-! ### Collected types -/

/-- Members of the union of documents are names of objects. -/
theorem exists_of_mem_documentUnion {declarations : List TypeDeclaration} {name : String}
    (h : name ∈ (documentUnion naming declarations).members) :
    ∃ object, TypeDeclaration.object object ∈ declarations ∧ name = object.name := by
  obtain ⟨object, hobject, rfl⟩ := List.mem_map.mp h
  obtain ⟨declaration, hdeclaration, hasObject⟩ :=
    List.mem_filterMap.mp (List.mem_of_mem_filter hobject)
  cases declaration with
  | object found =>
    cases hasObject
    exact ⟨object, hdeclaration, rfl⟩
  | _ => cases hasObject

theorem printable_documentUnion (hplain : PlainlyNamed naming id type)
    {declarations : List TypeDeclaration}
    (h : ∀ declaration ∈ declarations, declaration.Printable) :
    (TypeDeclaration.union (documentUnion naming declarations)).Printable where
  name := hplain.isName_shared .allDocumentTypes
  listed := by
    intro name hname
    obtain ⟨object, hobject, rfl⟩ := exists_of_mem_documentUnion hname
    exact (h _ hobject).name
  fields := fun _ habsurd => absurd habsurd List.not_mem_nil

/-- **The root of a compiled type** is a member of the union of documents. -/
theorem filled_documentUnion (h : compile naming id type = .ok compiled)
    {declarations : List TypeDeclaration} (subset : compiled.declarations ⊆ declarations) :
    (TypeDeclaration.union (documentUnion naming declarations)).Filled := by
  have hroot : (⟨[.named id], .document type.uid?⟩ : Part) ∈ type.parts id := by
    rw [CustomType.parts]
    simp
  obtain ⟨root, hdeclaration, hinterfaces⟩ : ∃ root : ObjectType,
      Part.declaration? naming ⟨[.named id], .document type.uid?⟩ = some (.object root) ∧
        root.interfaces = [nodeInterface, naming.documentInterface] := ⟨_, rfl, rfl⟩
  have hmem : TypeDeclaration.object root ∈ compiled.declarations := by
    rw [(compile_ok h).1]
    exact List.mem_filterMap.mpr ⟨_, hroot, hdeclaration⟩
  have hmember : root.name ∈ (documentUnion naming declarations).members := by
    refine List.mem_map_of_mem (List.mem_filter.mpr
      ⟨List.mem_filterMap.mpr ⟨_, subset hmem, rfl⟩, ?_⟩)
    simp [ObjectType.hasInterface, hinterfaces]
  exact List.ne_nil_of_mem hmember

/-- First occurrences occur. -/
theorem mem_of_mem_firstOccurrences {texts : List String} {text : String}
    (h : text ∈ firstOccurrences texts) :
    text ∈ texts := by
  have hfold : ∀ (texts found : List String), text ∈ texts.foldl (fun found text =>
      if found.contains text then found else found ++ [text]) found →
        text ∈ found ∨ text ∈ texts := by
    intro texts
    induction texts with
    | nil => exact fun found hmem => Or.inl hmem
    | cons first rest ih =>
      intro found hmem
      rcases ih _ hmem with hfound | hrest
      · dsimp only at hfound
        split at hfound
        · exact Or.inl hfound
        · rw [List.mem_append, List.mem_singleton] at hfound
          rcases hfound with hfound | rfl
          · exact Or.inl hfound
          · exact Or.inr List.mem_cons_self
      · exact Or.inr (List.mem_cons_of_mem _ hrest)
  exact (hfold texts [] h).resolve_left List.not_mem_nil

theorem printable_thumbnailsType (hplain : PlainlyNamed naming id type)
    (h : compile naming id type = .ok compiled) :
    (thumbnailsType naming compiled.paths.entries).Printable := by
  have hnames : ∀ name ∈ firstOccurrences (registeredThumbnails compiled.paths.entries),
    Sdl.IsName name.toList := by
    intro name hname
    obtain ⟨entry, hentry, hlast⟩ := List.mem_filterMap.mp (mem_of_mem_firstOccurrences hname)
    rw [(compile_ok h).2] at hentry
    obtain ⟨part, hpart, rfl⟩ := List.mem_map.mp hentry
    split at hlast
    · exact (hplain.isIdentifier_of_mem_path part hpart name (List.mem_of_getLast? hlast)).isName
    · cases hlast
  rw [thumbnailsType]
  split
  · exact
      { name := hplain.isName_shared .imageThumbnails
        listed := fun _ habsurd => absurd habsurd List.not_mem_nil
        fields := fun _ habsurd => absurd habsurd List.not_mem_nil }
  · refine
      { name := hplain.isName_shared .imageThumbnails
        listed := fun _ habsurd => absurd habsurd List.not_mem_nil
        fields := List.forall_mem_map.mpr fun name hname => ?_ }
    exact ⟨hnames name hname, hplain.isName_shared .imageThumbnail, trivial⟩

/-- The type of thumbnails has fields, or is a scalar. -/
theorem filled_thumbnailsType (naming : TypeNaming) (entries : List PathEntry) :
    (thumbnailsType naming entries).Filled := by
  rw [thumbnailsType]
  split
  · trivial
  · next hsome => exact fun hnil => hsome (List.map_eq_nil_iff.mp hnil)

namespace CommandLine

/-! ### Served declarations -/

theorem forall_mem_served {P : TypeDeclaration → Prop} :
    (∀ declaration ∈ servedDeclarations naming compiled, P declaration) ↔
      ((∀ declaration ∈ sharedDeclarations naming, P declaration) ∧
        ∀ declaration ∈ compiled.declarations, P declaration) ∧
        P (.union (documentUnion naming (sharedDeclarations naming ++ compiled.declarations))) ∧
          P (thumbnailsType naming compiled.paths.entries) := by
  rw [servedDeclarations, List.forall_mem_append, List.forall_mem_append, List.forall_mem_cons,
    List.forall_mem_singleton]

/-- Served declarations mention names of the language only. -/
theorem printable_served (hplain : PlainlyNamed naming id type)
    (h : compile naming id type = .ok compiled) :
    ∀ declaration ∈ servedDeclarations naming compiled, declaration.Printable := by
  have hown : ∀ declaration ∈ sharedDeclarations naming ++ compiled.declarations,
    declaration.Printable :=
    List.forall_mem_append.mpr ⟨printable_shared hplain, printable_compile hplain h⟩
  rw [forall_mem_served]
  exact ⟨List.forall_mem_append.mp hown, printable_documentUnion hplain hown,
    printable_thumbnailsType hplain h⟩

/-- No served declaration is named by a keyword. -/
theorem not_mem_keywords_served (hid : IsIdentifier id)
    (h : compile naming id type = .ok compiled) :
    ∀ declaration ∈ servedDeclarations naming compiled, declaration.name.toList ∉ Sdl.keywords := by
  rw [forall_mem_served]
  refine ⟨⟨?_, not_mem_keywords_compile hid h⟩,
    shared_not_mem_keywords naming .allDocumentTypes, ?_⟩
  · intro declaration hmem
    simp only [sharedDeclarations, List.map_cons, List.map_nil, List.mem_cons, List.not_mem_nil,
      or_false] at hmem
    rcases hmem with rfl | rfl | rfl | rfl | rfl | rfl | rfl | rfl <;>
        exact shared_not_mem_keywords naming _
  · rw [name_thumbnailsType]
    exact shared_not_mem_keywords naming .imageThumbnails

/-- Served declarations have fields and members when the custom type has. -/
theorem filled_served_iff (h : compile naming id type = .ok compiled) :
    (∀ declaration ∈ servedDeclarations naming compiled, declaration.Filled) ↔ type.Filled := by
  have hunion :=
    filled_documentUnion h (List.subset_append_right
      (sharedDeclarations naming) compiled.declarations)
  have hthumbnails := filled_thumbnailsType naming compiled.paths.entries
  rw [forall_mem_served, filled_compile_iff h, and_iff_right (filled_shared naming)]
  exact and_iff_left ⟨hunion, hthumbnails⟩

/-- **A plainly named compilation is printed as a document** exactly when it is filled. -/
theorem isDocument_served_iff (hplain : PlainlyNamed naming id type)
    (h : compile naming id type = .ok compiled) :
    Sdl.IsDocument (renderAll (servedDeclarations naming compiled)) ↔ type.Filled := by
  have hid : IsIdentifier id := hplain.names id List.mem_cons_self
  have hsome : servedDeclarations naming compiled ≠ [] :=
    List.append_ne_nil_of_right_ne_nil _ (List.cons_ne_nil _ _)
  rw [isDocument_renderAll_iff hsome (printable_served hplain h) (not_mem_keywords_served hid h),
    filled_served_iff h]

/-- **When the printed text is a document.**  For a text that compiles under a prefix that is not
empty, and whose id and names of fields, choices and thumbnails are identifiers, every name that is
printed is a name of the language, and what is printed is a document exactly when the data, every
group and every half of a choice has a field and every slice zone has a choice. -/
theorem printed_document_iff {typePrefix source : String} {command : CompileCommand}
    (hread : (Json.parse source).bind CustomType.ofJson? = some type)
    (h : compileSource typePrefix command source = .ok compiled) (nonempty : typePrefix ≠ "")
    (names : ∀ name ∈ command.id :: type.allNames, IsIdentifier name) :
    (∀ declaration ∈ servedDeclarations ⟨typePrefix⟩ compiled,
        ∀ name ∈ declaration.mentions, Sdl.IsName name.toList) ∧
      (Sdl.IsDocument (renderCompiled typePrefix .sdl compiled) ↔ type.Filled) := by
  obtain ⟨usable, hcompile⟩ := (compileSource_eq_ok_iff hread).mp h
  have hplain : PlainlyNamed ⟨typePrefix⟩ command.id type := { usable, nonempty, names }
  refine ⟨fun declaration hmem => ?_, isDocument_served_iff hplain hcompile⟩
  exact (printable_served hplain hcompile declaration hmem).isName_of_mem_mentions

/-- The sample type is of the form that reading leaves. -/
theorem published_sample : CustomType.sample.Published := by
  have hkeys : ∀ field ∈ CustomType.sample.nested, field.KeysDistinct := by decide
  have hconfigured : ∀ field ∈ CustomType.sample.nested, field.Configured := by
    intro field hfield
    simp only [CustomType.nested, CustomType.sample, CustomType.fields, List.flatMap_cons,
      List.flatMap_nil, List.cons_append, List.nil_append, nestedFields, Field.nested,
      nestedChoices, nestedChoice, Field.plain,
      List.append_nil, List.mem_cons, List.not_mem_nil, or_false] at hfield
    rcases hfield with rfl | rfl | rfl | rfl | rfl | rfl <;>
      simp [Field.Configured, Json.isExtra_nil, ThumbnailSpec.Fits]
  exact ⟨by decide, by decide, fun field hfield => ⟨hkeys field hfield, hconfigured field hfield⟩⟩

/-- The text of the sample type holds it. -/
theorem read_sample :
    (Json.parse CustomType.sample.toJson.compact).bind CustomType.ofJson? = some .sample := by
  have plain : Json.PlainWithin Json.maxDepth CustomType.sample.toJson := by
    simp [CustomType.sample, CustomType.toJson, Field.mapToMembers, Field.toJson,
      Field.choicesToMembers, Field.plain, ThumbnailSpec.toJson, ThumbnailSpec.sizeMember,
      Json.PlainWithin, Json.PlainWithinMembers,
      Json.PlainWithinElements, Json.maxDepth]
  rw [Json.parse_compact plain, Option.bind_some, CustomType.ofJson?_toJson published_sample]

/-- The sample type has fields and choices everywhere: its text compiles, and what is printed is a
document. -/
theorem printed_document_iff_sample :
    let command : CompileCommand := { schema := "s.json", id := "page" }
    ∃ compiled, compileSource "Prismic" command CustomType.sample.toJson.compact = .ok compiled ∧
      Sdl.IsDocument (renderCompiled "Prismic" .sdl compiled) := by
  intro command
  obtain ⟨compiled, hcompile⟩ := exists_compile_sample
  have h : compileSource "Prismic" command CustomType.sample.toJson.compact = .ok compiled :=
    (compileSource_eq_ok_iff read_sample).mpr ⟨by decide, hcompile⟩
  exact ⟨compiled, h, (printed_document_iff read_sample h (by decide) (by decide)).2.mpr
    (by decide)⟩

/-- A custom type without fields: its data has no field, and what is printed is no document. -/
theorem empty_type_prints_no_document :
    let command : CompileCommand := { schema := "s.json", id := "page" }
    (∀ name ∈ command.id :: CustomType.empty.allNames, IsIdentifier name) ∧
      ∃ compiled, compileSource "Prismic" command "\x7b\x7d" = .ok compiled ∧
        ¬Sdl.IsDocument (renderCompiled "Prismic" .sdl compiled) := by
  intro command
  have names : ∀ name ∈ command.id :: CustomType.empty.allNames, IsIdentifier name := by decide
  have usable : typePrefixFault? "Prismic" = none := by decide
  obtain ⟨compiled, hcompile⟩ : ∃ compiled, compile ⟨"Prismic"⟩ command.id .empty = .ok compiled :=
    exists_compile_iff.mpr (by decide)
  refine ⟨names, compiled, (compileSource_eq_ok_iff read_empty).mpr ⟨usable, hcompile⟩,
    fun document => ?_⟩
  have hfilled :=
    (isDocument_served_iff { usable, nonempty := by decide, names } hcompile).mp document
  exact hfilled.1 rfl

end CommandLine

end ContentGraph
