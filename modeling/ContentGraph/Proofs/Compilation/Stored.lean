import ContentGraph.Compilation.Stored
import ContentGraph.Proofs.Compilation.References
import ContentGraph.Proofs.Registry.Stored
import ContentGraph.Proofs.Text.Words
import ContentGraph.Settings

/-!
# Stored compilations read back

A compiled custom type is stored as JSON and read again.  Its id and its registry always come back
as they were; whether its declarations do depends on the names that their fields refer to, which are
written as texts and parsed again.  A generated name ends in the ending of its role, so only what
stands before the ending can go wrong: white space at the start of the type prefix is lost, and any
other character that is no letter, digit or underscore is refused.

* `storable_compile` — compiled declarations can be stored;
* `CompiledType.ofJson?_toJson` — what becomes of a stored compilation;
* `CompiledType.parse_toJson` — its text holds it;
* `isName_of_refers` — the names referred to under a usable prefix, when the names of the custom
  type are plain words;
* `CompiledType.compiled_reads_back` — all of it together.
-/

namespace ContentGraph

variable {naming : TypeNaming} {id : String} {type : CustomType} {compiled : CompiledType}

/-! ### Names that are referred to -/

namespace TypeRef

theorem endsInName_append (front : String) {name : String} (h : EndsInName name.toList) :
    EndsInName (front ++ name).toList := by
  obtain ⟨before, c, heq, hc⟩ := h
  exact ⟨front.toList ++ before, c, by rw [String.toList_append, heq, List.append_assoc], hc⟩

theorem isName_append {front name : String} (hfront : ∀ c ∈ front.toList, isNameChar c = true)
    (h : IsName name.toList) : IsName (front ++ name).toList := by
  rw [IsName, String.toList_append, List.forall_mem_append]
  exact ⟨List.append_ne_nil_of_right_ne_nil _ h.1, hfront, h.2⟩

end TypeRef

/-- The base name of a shared type is a name. -/
theorem SharedType.isName_baseName
    (shared : SharedType) : TypeRef.IsName shared.baseName.toList := by
  cases shared <;> decide

/-- The ending of a generated type that is no root is a name. -/
theorem Shape.isName_ending {shape : Shape} {ending : String} (h : shape.ending? = some ending)
    (hne : ending ≠ "") :
    TypeRef.IsName ending.toList := by
  cases shape with
  | leaf kind => cases h
  | image thumbnails => cases h
  | thumbnail => cases h
  | document uid => exact absurd (Option.some.inj h).symm hne
  | _ =>
    cases h
    decide

/-- A name that is referred to ends in a name, after the prefix and capitalized segments if
anything. -/
theorem exists_of_refers {parts : List Part} {name : String} (h : Refers naming parts name) :
    ∃ front ending, name = front ++ ending ∧ TypeRef.IsName ending.toList ∧
      (front = "" ∨ front = naming.typePrefix ∨ ∃ part ∈ parts, part.shape.ending? ≠ none ∧
        front = naming.typePrefix ++ String.join (part.address.names.map Text.pascalCase)) := by
  rcases h with hbuiltin | ⟨shared, rfl⟩ | ⟨part, hpart, hroot, hname⟩
  · refine ⟨"", name, String.empty_append.symm, ?_, Or.inl rfl⟩
    revert hbuiltin name
    decide
  · exact ⟨naming.typePrefix, shared.baseName, rfl, shared.isName_baseName, Or.inr (Or.inl rfl)⟩
  · rw [Part.generated?, Option.map_eq_some_iff] at hname
    obtain ⟨ending, hending, rfl⟩ := hname
    refine ⟨_, ending, rfl, Shape.isName_ending hending ?_, Or.inr (Or.inr ⟨part, hpart, ?_, rfl⟩)⟩
    · rintro rfl
      exact hroot hending
    · rw [hending]
      exact Option.some_ne_none ending

/-- Every name that is referred to ends in a name character. -/
theorem endsInName_of_refers {parts : List Part} {name : String} (h : Refers naming parts name) :
    TypeRef.EndsInName name.toList := by
  obtain ⟨front, ending, rfl, hending, -⟩ := exists_of_refers h
  exact TypeRef.endsInName_append front hending.endsInName

/-- A usable prefix is made of letters and digits. -/
theorem isAsciiAlphanumeric_of_mem_prefix (husable : typePrefixFault? naming.typePrefix = none) :
    ∀ c ∈ naming.typePrefix.toList, Text.isAsciiAlphanumeric c = true :=
  List.all_eq_true.mp ((typePrefixFault?_eq_none_iff _).mp husable).1

/-- **The names referred to under a usable prefix** are made of letters, digits and underscores,
when the segments they are made of are words. -/
theorem isName_of_refers {parts : List Part} {name : String}
    (husable : typePrefixFault? naming.typePrefix = none)
    (hwords : ∀ part ∈ parts, part.shape.ending? ≠ none →
      ∀ segment ∈ part.address.names, ∀ c ∈ segment.toList, Text.isWordChar c = true)
    (h : Refers naming parts name) : TypeRef.IsName name.toList := by
  have alphanumeric : ∀ {text : List Char}, (∀ c ∈ text, Text.isAsciiAlphanumeric c = true) →
      ∀ c ∈ text, TypeRef.isNameChar c = true := by
    intro text htext c hc
    rw [TypeRef.isNameChar, htext c hc, Bool.true_or]
  have hown := isAsciiAlphanumeric_of_mem_prefix husable
  obtain ⟨front, ending, rfl, hending, rfl | rfl | ⟨part, hpart, hgenerated, rfl⟩⟩ :=
    exists_of_refers h
  · rwa [String.empty_append]
  · exact TypeRef.isName_append (alphanumeric hown) hending
  · refine TypeRef.isName_append (alphanumeric ?_) hending
    rw [String.toList_append, List.forall_mem_append]
    exact ⟨hown, Text.isAsciiAlphanumeric_of_mem_join (hwords part hpart hgenerated)⟩

/-- **Compiled declarations can be stored**: the fields of each have distinct names, and refer to
names that end in a name character. -/
theorem storable_compile (h : compile naming id type = .ok compiled) :
    ∀ declaration ∈ compiled.declarations, declaration.Storable :=
  fun declaration hmem =>
    { distinct := distinct_compile h declaration hmem
      ending := fun ref href => endsInName_of_refers (refers_compile h declaration hmem ref href) }

/-! ### Reading a stored compilation -/

namespace CompiledType

/-- The compiled type with its declarations' type references as they are read. -/
def trimmed (compiled : CompiledType) : CompiledType :=
  { compiled with declarations := compiled.declarations.map TypeDeclaration.trimmed }

/-- A stored compilation is read back with the declarations that are read. -/
theorem ofJson?_toJson_eq_map (compiled : CompiledType) :
    ofJson? compiled.toJson =
      (TypeDeclaration.listOfJson? (TypeDeclaration.listToJson compiled.declarations)).map
        fun declarations =>
        { compiled with declarations } := by
  obtain ⟨customTypeId, declarations, paths⟩ := compiled
  let members := [("custom_type_id", .string customTypeId),
    ("type_declarations", TypeDeclaration.listToJson declarations), ("type_paths", paths.toJson)]
  have hjson : toJson ⟨customTypeId, declarations, paths⟩ = .object members := rfl
  have hrecord : (Json.object members).record? ["custom_type_id", "type_declarations",
      "type_paths"] = some members :=
    Json.record?_of_known (by simp [members, Keyed.Distinct, Keyed.keys]) (by simp [members])
  have hid : Keyed.get? "custom_type_id" members = some (.string customTypeId) := rfl
  have hdeclarations :
      Keyed.get? "type_declarations" members = some (TypeDeclaration.listToJson declarations) := rfl
  have hpaths : Keyed.get? "type_paths" members = some paths.toJson := rfl
  rw [hjson, ofJson?]
  simp only [hrecord, hid, hdeclarations, hpaths, Json.asString?, Registry.ofJson?_toJson,
    Option.bind_eq_bind, Option.bind_some]
  cases TypeDeclaration.listOfJson? (TypeDeclaration.listToJson declarations) with
  | none => rfl
  | some read => rfl

/-- **What becomes of a stored compilation**: it is read back, its type references as they are read,
when all of them can be read. -/
theorem ofJson?_toJson (h : ∀ declaration ∈ compiled.declarations, declaration.Storable) :
    ofJson? compiled.toJson =
      if ∀ declaration ∈ compiled.declarations, ∀ ref ∈ declaration.typeRefs, ref.Readable then
        some compiled.trimmed
      else none := by
  rw [ofJson?_toJson_eq_map, TypeDeclaration.listOfJson?_listToJson h]
  split
  · rfl
  · rfl

/-- **A stored compilation is read back as it was** when every type reference has a name of letters,
digits and underscores, and only then. -/
theorem ofJson?_toJson_eq_self_iff
    (h : ∀ declaration ∈ compiled.declarations, declaration.Storable) :
    ofJson? compiled.toJson = some compiled ↔
      ∀ declaration ∈ compiled.declarations, ∀ ref ∈ declaration.typeRefs,
      TypeRef.IsName ref.baseName.toList := by
  rw [ofJson?_toJson_eq_map, ← TypeDeclaration.listOfJson?_eq_self_iff h, Option.map_eq_some_iff]
  obtain ⟨customTypeId, declarations, paths⟩ := compiled
  constructor
  · rintro ⟨read, hread, heq⟩
    cases heq
    exact hread
  · intro hread
    exact ⟨declarations, hread, rfl⟩

theorem plainWithin_toJson (compiled : CompiledType) : Json.PlainWithin 6 compiled.toJson := by
  refine ⟨Nat.zero_lt_succ 5, Json.plainWithinMembers_iff.mpr ?_⟩
  rw [List.forall_mem_cons, List.forall_mem_cons, List.forall_mem_singleton]
  exact ⟨trivial, TypeDeclaration.plainWithin_listToJson compiled.declarations,
    Json.PlainWithin.mono _ (by decide) compiled.paths.plainWithin_toJson⟩

/-- **The text of a stored compilation holds it**, compact or indented. -/
theorem parse_toJson (compiled : CompiledType) {text : String}
    (htext : text ∈ [compiled.toJson.compact, compiled.toJson.pretty]) :
    Json.parse text = some compiled.toJson := by
  have plain : Json.PlainWithin Json.maxDepth compiled.toJson :=
    Json.PlainWithin.mono _ (by decide) compiled.plainWithin_toJson
  rw [List.mem_cons, List.mem_singleton] at htext
  rcases htext with rfl | rfl
  · exact Json.parse_compact plain
  · exact Json.parse_pretty plain

/-- The compiled type that a text stores. -/
def ofText? (text : String) : Option CompiledType := (Json.parse text).bind ofJson?

/-- **Stored compilations read back.**  The text of a stored compilation, compact or indented, is
read exactly when every type reference in its declarations has a base name of one or more letters,
digits and underscores, white space at its start apart; what is read then differs from what was
stored in that white space only.  So it is equal exactly when every base name is such a name as it
stands, which is so whenever the prefix can be used and the id and the names of groups, slice zones
and choices are made of letters, digits, underscores, hyphens and spaces. -/
theorem compiled_reads_back (h : compile naming id type = .ok compiled) {text : String}
    (htext : text ∈ [compiled.toJson.compact, compiled.toJson.pretty]) :
    (ofText? text =
      if ∀ declaration ∈ compiled.declarations, ∀ ref ∈ declaration.typeRefs, ref.Readable then
        some compiled.trimmed
      else none) ∧
    (ofText? text = some compiled ↔
      ∀ declaration ∈ compiled.declarations, ∀ ref ∈ declaration.typeRefs,
        TypeRef.IsName ref.baseName.toList) ∧
    (typePrefixFault? naming.typePrefix = none →
      (∀ name ∈ id :: type.containerNames, ∀ c ∈ name.toList, Text.isWordChar c = true) →
        ofText? text = some compiled) := by
  have hstorable := storable_compile h
  have hread : ofText? text = ofJson? compiled.toJson := by
    rw [ofText?, compiled.parse_toJson htext, Option.bind_some]
  have hself := ofJson?_toJson_eq_self_iff hstorable
  rw [hread]
  refine ⟨ofJson?_toJson hstorable, hself, fun husable hwords => hself.mpr ?_⟩
  rw [List.forall_mem_cons] at hwords
  intro declaration hmem ref href
  exact isName_of_refers husable (forall_names_of_mem_parts hwords.1 hwords.2)
    (refers_compile h declaration hmem ref href)

/-- The sample type's names are words. -/
theorem compiled_reads_back_sample : ∃ compiled, compile {} "page" .sample = .ok compiled ∧
    ofText? compiled.toJson.compact = some compiled := by
  obtain ⟨compiled, h⟩ := exists_compile_sample
  have hwords : ∀ name ∈ "page" :: CustomType.sample.containerNames,
    name.toList.all Text.isWordChar = true := by
    decide
  exact ⟨compiled, h, (compiled_reads_back h (by simp)).2.2 (by decide) fun name hname =>
    List.all_eq_true.mp (hwords name hname)⟩

/-- Under a blank prefix the name of the data type starts with a blank: it is no name, and is read
back without the blank, as part of another compilation. -/
theorem blank_prefix_is_trimmed : ∃ compiled, compile ⟨" "⟩ "page" .empty = .ok compiled ∧
    (∃ declaration ∈ compiled.declarations, ∃ ref ∈ declaration.typeRefs,
      ¬TypeRef.IsName ref.baseName.toList) ∧
    ∃ again, ofText? compiled.toJson.compact = some again ∧ again ≠ compiled := by
  obtain ⟨compiled, h⟩ : ∃ compiled, compile ⟨" "⟩ "page" .empty = .ok compiled :=
    exists_compile_iff.mpr (by decide)
  have hdeclarations := (compile_ok h).1
  have hreadable : ∀ declaration ∈ compiled.declarations, ∀ ref ∈ declaration.typeRefs,
    ref.Readable := by
    rw [hdeclarations]
    decide
  have hblank : ∃ declaration ∈ compiled.declarations, ∃ ref ∈ declaration.typeRefs,
      ¬TypeRef.IsName ref.baseName.toList := by
    rw [hdeclarations]
    decide
  have hread := ofJson?_toJson (storable_compile h)
  rw [if_pos hreadable] at hread
  refine ⟨compiled, h, hblank, compiled.trimmed, ?_, fun hsame => ?_⟩
  · rw [ofText?, compiled.parse_toJson (by simp), Option.bind_some, hread]
  · rw [hsame, ofJson?_toJson_eq_self_iff (storable_compile h)] at hread
    obtain ⟨declaration, hmem, ref, href, hname⟩ := hblank
    exact hname (hread declaration hmem ref href)

end CompiledType

end ContentGraph
