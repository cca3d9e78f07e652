import ContentGraph.Proofs.Collection.Resolution

/-!
# Which served names coincide

A compilation keeps the names that it generates apart from each other.  The shared types stand
beside them under names of the same prefix, and nothing compares the two.  Endings keep them apart
for every role but that of the root, whose name is the prefix and the id alone.

* `generated_eq_shared_iff` — a generated name is a shared one only at the root, when the id spells
  the shared name;
* `CommandLine.served_names_distinct_iff` — the names that are served are distinct unless it does;
* `CommandLine.served_name_repeats` — an id that does.
-/

namespace ContentGraph

/-! ### Roots and endings -/

/-- No shared name ends as the name of a type that is generated below a root. -/
theorem not_isSuffix_baseName {shape : Shape} {ending : String}
    (below : ∀ uid, shape ≠ .document uid) (h : shape.ending? = some ending) (shared : SharedType) :
    ¬ending.toList <:+ shared.baseName.toList := by
  cases shape with
  | document uid => exact absurd rfl (below uid)
  | leaf kind => cases h
  | image thumbnails => cases h
  | thumbnail => cases h
  | _ => cases h; cases shared <;> decide

/-! ### Generated names and shared names -/

theorem SharedType.mem_all (shared : SharedType) : shared ∈ SharedType.all := by
  cases shared <;> decide

theorem TypeNaming.shared_injective (naming : TypeNaming) : Function.Injective naming.shared := by
  intro a b h
  have hname : a.baseName = b.baseName := (String.append_right_inj naming.typePrefix).mp h
  have hapart : (SharedType.all.map SharedType.baseName).Nodup := by decide
  exact List.inj_on_of_nodup_map hapart (SharedType.mem_all a) (SharedType.mem_all b) hname

theorem documentType_eq_shared_iff (naming : TypeNaming) (id : String) (shared : SharedType) :
    naming.documentType id = naming.shared shared ↔ Text.pascalCase id = shared.baseName := by
  simp [TypeNaming.documentType, TypeNaming.namespaced, TypeNaming.shared, TypeRole.suffix]

variable {naming : TypeNaming} {id : String} {type : CustomType} {compiled : CompiledType}

/-- The name of a part that is no root is no shared name. -/
theorem generated_ne_shared {part : Part} {name : String}
    (below : ∀ uid, part.shape ≠ .document uid) (h : part.generated? naming.typePrefix = some name)
    (shared : SharedType) :
    name ≠ naming.shared shared := by
  obtain ⟨ending, hending, rfl⟩ := Option.map_eq_some_iff.mp h
  intro heq
  rw [Address.typeName, TypeNaming.shared, String.append_assoc, String.append_right_inj] at heq
  refine not_isSuffix_baseName below hending shared
    ⟨(String.join (part.address.names.map Text.pascalCase)).toList, ?_⟩
  rw [← heq, String.toList_append]

theorem mem_generated_root (naming : TypeNaming) (id : String) (type : CustomType) :
    naming.documentType id ∈ (type.parts id).filterMap (Part.generated? naming.typePrefix) := by
  have hroot : (⟨[.named id], .document type.uid?⟩ : Part) ∈ type.parts id := by
    rw [CustomType.parts]
    simp
  refine List.mem_filterMap.mpr ⟨_, hroot, ?_⟩
  exact congrArg some (typeName_eq naming [.named id] .document)

/-- The names that a compilation declares are those generated for the parts. -/
theorem mem_names_compile (h : compile naming id type = .ok compiled) {name : String} :
    name ∈ compiled.declarations.map TypeDeclaration.name ↔
      ∃ part ∈ type.parts id, part.generated? naming.typePrefix = some name := by
  rw [(compile_ok h).1, map_name_filterMap, List.mem_filterMap]

theorem nodup_names_compile (h : compile naming id type = .ok compiled) :
    (compiled.declarations.map TypeDeclaration.name).Nodup := by
  rw [(compile_ok h).1, map_name_filterMap]
  exact (exists_compile_iff.mp ⟨compiled, h⟩).2.1

/-- **Only the root can take a shared name**, and it does when the id spells it. -/
theorem generated_eq_shared_iff (h : compile naming id type = .ok compiled) (shared : SharedType) :
    naming.shared shared ∈ compiled.declarations.map TypeDeclaration.name ↔
      Text.pascalCase id = shared.baseName := by
  rw [mem_names_compile h]
  constructor
  · rintro ⟨part, hpart, hgenerated⟩
    rcases eq_root_or_shape_ne hpart with rfl | below
    · have hroot : naming.documentType id = naming.shared shared := by
        rw [← Option.some_inj, ← hgenerated]
        exact congrArg some (typeName_eq naming [.named id] .document).symm
      exact (documentType_eq_shared_iff naming id shared).mp hroot
    · exact absurd rfl (generated_ne_shared below hgenerated shared)
  · intro hspells
    rw [← List.mem_filterMap, ← (documentType_eq_shared_iff naming id shared).mpr hspells]
    exact mem_generated_root naming id type

namespace CommandLine

/-! ### Served names -/

/-- The names that are served: those of all shared types, and those of the compiled type. -/
theorem names_served_perm (naming : TypeNaming) (compiled : CompiledType) :
    ((servedDeclarations naming compiled).map TypeDeclaration.name).Perm
      (SharedType.all.map naming.shared ++ compiled.declarations.map TypeDeclaration.name) := by
  let early :=
    [SharedType.document, .structuredText, .geoPoint, .embed, .imageDimensions, .imageThumbnail,
      .image, .link]
  let late := [SharedType.allDocumentTypes, .imageThumbnails]
  have hshared : (sharedDeclarations naming).map TypeDeclaration.name = early.map naming.shared :=
    rfl
  have hlate : ([.union (documentUnion naming (sharedDeclarations naming ++ compiled.declarations)),
      thumbnailsType naming compiled.paths.entries].map TypeDeclaration.name) =
        late.map naming.shared := by
    rw [List.map_cons, List.map_singleton, name_thumbnailsType]
    rfl
  have horder : (early ++ late).Perm SharedType.all := by decide
  rw [servedDeclarations, List.map_append, List.map_append, hshared, hlate, List.append_assoc]
  refine ((List.perm_append_comm).append_left (early.map naming.shared)).trans ?_
  rw [← List.append_assoc, ← List.map_append]
  exact (horder.map naming.shared).append_right _

theorem nodup_names_served_iff {type : CustomType} (h : compile naming id type = .ok compiled) :
    ((servedDeclarations naming compiled).map TypeDeclaration.name).Nodup ↔
      ∀ shared : SharedType, Text.pascalCase id ≠ shared.baseName := by
  have hall : (SharedType.all.map naming.shared).Nodup :=
    List.Nodup.map naming.shared_injective (by decide)
  rw [(names_served_perm naming compiled).nodup_iff, List.nodup_append]
  constructor
  · rintro ⟨-, -, hapart⟩ shared hspells
    exact hapart _ (List.mem_map_of_mem shared.mem_all) _
      ((generated_eq_shared_iff h shared).mpr hspells) rfl
  · intro hspells
    refine ⟨hall, nodup_names_compile h, ?_⟩
    intro name hname other hother heq
    obtain ⟨shared, _, rfl⟩ := List.mem_map.mp hname
    exact hspells shared ((generated_eq_shared_iff h shared).mp (heq ▸ hother))

/-- A text compiles when the custom type that it holds does, under a prefix that can be used. -/
theorem compileSource_eq_ok_iff {typePrefix source : String} {command : CompileCommand}
    {type : CustomType}
    (hread : (Json.parse source).bind CustomType.ofJson? = some type) :
    compileSource typePrefix command source = .ok compiled ↔
      typePrefixFault? typePrefix = none ∧ compile ⟨typePrefix⟩ command.id type = .ok compiled := by
  rw [compileSource, hread]
  dsimp only
  cases typePrefixFault? typePrefix with
  | some fault => simp
  | none =>
    cases compile ⟨typePrefix⟩ command.id type with
    | error e => simp [Except.mapError]
    | ok found => simp [Except.mapError]

/-- A text that compiles is a custom type that compiles, under a prefix that can be used. -/
theorem exists_of_compileSource {typePrefix source : String} {command : CompileCommand}
    (h : compileSource typePrefix command source = .ok compiled) :
    ValidTypePrefix typePrefix ∧ ∃ type, compile ⟨typePrefix⟩ command.id type = .ok compiled := by
  cases hread : (Json.parse source).bind CustomType.ofJson? with
  | none =>
    rw [compileSource, hread] at h
    cases h
  | some type =>
    obtain ⟨usable, hcompile⟩ := (compileSource_eq_ok_iff hread).mp h
    exact ⟨(typePrefixFault?_eq_none_iff typePrefix).mp usable, type, hcompile⟩

/-- **When served names are distinct.**  The declarations that are printed for a text that compiles
have distinct names exactly when the id, in capitalized words, is the name of no shared type.  Only
the root type can take a shared name. -/
theorem served_names_distinct_iff {typePrefix source : String} {command : CompileCommand}
    (h : compileSource typePrefix command source = .ok compiled) :
    (((servedDeclarations ⟨typePrefix⟩ compiled).map TypeDeclaration.name).Nodup ↔
        ∀ shared : SharedType, Text.pascalCase command.id ≠ shared.baseName) ∧
      ∀ declaration ∈ compiled.declarations, ∀ shared,
        declaration.name = (⟨typePrefix⟩ : TypeNaming).shared shared →
          declaration.name = (⟨typePrefix⟩ : TypeNaming).documentType command.id := by
  obtain ⟨-, type, hcompile⟩ := exists_of_compileSource h
  refine ⟨nodup_names_served_iff hcompile, ?_⟩
  intro declaration hdeclaration shared hname
  have hmem := List.mem_map_of_mem (f := TypeDeclaration.name) hdeclaration
  rw [hname] at hmem ⊢
  exact ((documentType_eq_shared_iff _ _ shared).mpr
    ((generated_eq_shared_iff hcompile shared).mp hmem)).symm

/-- An empty object is read as the custom type without fields. -/
theorem read_empty : (Json.parse "\x7b\x7d").bind CustomType.ofJson? = some .empty := by
  have hparse : Json.parse "\x7b\x7d" = some (.object []) := by decide
  rw [hparse]
  rfl

/-- The text of a custom type without fields compiles when the custom type does. -/
theorem exists_compileSource_empty {typePrefix : String} {command : CompileCommand}
    (hvalid : typePrefixFault? typePrefix = none)
    (h : ∃ compiled, compile ⟨typePrefix⟩ command.id .empty = .ok compiled) :
    ∃ compiled, compileSource typePrefix command "\x7b\x7d" = .ok compiled := by
  obtain ⟨compiled, h⟩ := h
  exact ⟨compiled, (compileSource_eq_ok_iff read_empty).mpr ⟨hvalid, h⟩⟩

/-- A custom type without fields under the id `page`: all names are distinct. -/
theorem served_names_distinct_page :
    let command : CompileCommand := { schema := "s.json", id := "page" }
    ∃ compiled, compileSource "Prismic" command "\x7b\x7d" = .ok compiled ∧
      ((servedDeclarations ⟨"Prismic"⟩ compiled).map TypeDeclaration.name).Nodup := by
  intro command
  obtain ⟨compiled, h⟩ : ∃ compiled, compileSource "Prismic" command "\x7b\x7d" = .ok compiled :=
    exists_compileSource_empty (by decide) (exists_compile_iff.mpr (by decide))
  refine ⟨compiled, h, (served_names_distinct_iff h).1.mpr ?_⟩
  intro shared
  cases shared <;> decide

/-- Under the id `document` the root type is named as the interface of documents. -/
theorem served_name_repeats :
    let command : CompileCommand := { schema := "s.json", id := "document" }
    ValidTypePrefix "Prismic" ∧
      ∃ compiled, compileSource "Prismic" command "\x7b\x7d" = .ok compiled ∧
      ¬((servedDeclarations ⟨"Prismic"⟩ compiled).map TypeDeclaration.name).Nodup := by
  intro command
  obtain ⟨compiled, h⟩ : ∃ compiled, compileSource "Prismic" command "\x7b\x7d" = .ok compiled :=
    exists_compileSource_empty (by decide) (exists_compile_iff.mpr (by decide))
  obtain ⟨valid, type, hcompile⟩ := exists_of_compileSource h
  refine ⟨valid, compiled, h, fun hnodup => ?_⟩
  exact (nodup_names_served_iff hcompile).mp hnodup .document (by decide)

end CommandLine

end ContentGraph
