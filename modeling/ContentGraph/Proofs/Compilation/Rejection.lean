import ContentGraph.Proofs.Compilation.Acceptance
import ContentGraph.Proofs.Schema.Repeated

/-!
# Why a custom type is rejected

A compilation adds the parts of a custom type one by one.  Each adds the name generated for it, if
there is one, and then its path; the first that repeats either one stops the compilation.  So a
container that repeats both is reported by its name, a leaf by its path.

* `Clash`, `FirstClash` — why a part cannot be added after others, and the first part of a list that
  cannot;
* `Output.Holds` with `run_part` and `run_parts` — one part, and a list of parts;
* `compile_error`, `compile_error_iff` — a rejection reports the first clash or the first two
  identifiers;
* `compile_error_explained` — what each error says about the custom type, and what is reported when
  nothing but a name in two tabs is wrong.
-/

namespace ContentGraph

variable {naming : TypeNaming} {id : String} {type : CustomType}

/-! ### Clashes -/

/-- Other parts do not generate the name that is generated for a part, if there is one. -/
def Part.NameFree (typePrefix : String) (before : List Part) (part : Part) : Prop :=
  ∀ name, part.generated? typePrefix = some name →
    name ∉ before.filterMap (Part.generated? typePrefix)

/-- Why a part cannot be added after others.  Its name is compared first. -/
inductive Clash (typePrefix : String) (before : List Part) (part : Part) : SchemaError → Prop
  | typeName {name : String} (own : part.generated? typePrefix = some name)
      (taken : name ∈ before.filterMap (Part.generated? typePrefix)) :
      Clash typePrefix before part (.duplicateTypeName name part.path)
  | path (free : part.NameFree typePrefix before) (taken : part.path ∈ before.map Part.path) :
      Clash typePrefix before part (.duplicatePath part.path)

/-- Parts that can be added one after another: no name is generated twice, no path is taken
twice. -/
structure Part.Apart (typePrefix : String) (parts : List Part) : Prop where
  names : (parts.filterMap (Part.generated? typePrefix)).Nodup
  paths : (parts.map Part.path).Nodup

section

variable {typePrefix : String} {parts before : List Part} {part : Part} {e e' : SchemaError}

/-- A part without a clash can be added. -/
theorem Part.Apart.concat (h : Apart typePrefix before) (free : part.NameFree typePrefix before)
    (fresh : part.path ∉ before.map Part.path) : Apart typePrefix (before ++ [part]) := by
  constructor
  · rw [List.filterMap_append, List.nodup_append]
    refine ⟨h.names, ?_, ?_⟩
    · cases hown : part.generated? typePrefix <;> simp [hown]
    · rintro name hname other hother rfl
      exact free name (by simpa using hother) hname
  · rw [List.map_append, List.nodup_append]
    refine ⟨h.paths, List.nodup_singleton _, ?_⟩
    rintro path hpath other hother rfl
    obtain rfl : path = part.path := by simpa using hother
    exact fresh hpath

/-- The first part of a list that cannot be added clashes with those before it. -/
def FirstClash (typePrefix : String) (parts : List Part) (e : SchemaError) : Prop :=
  ∃ before part, before ++ [part] <+: parts ∧ Part.Apart typePrefix before ∧
    Clash typePrefix before part e

/-- What clashes in a prefix clashes in the list. -/
theorem FirstClash.mono {front : List Part} (h : FirstClash typePrefix front e)
    (hfront : front <+: parts) : FirstClash typePrefix parts e := by
  obtain ⟨before, part, hbefore, hapart, hclash⟩ := h
  exact ⟨before, part, hbefore.trans hfront, hapart, hclash⟩

/-- Parts that are apart have no first clash. -/
theorem Part.Apart.not_firstClash
    (h : Apart typePrefix parts) : ¬FirstClash typePrefix parts e := by
  rintro ⟨before, part, ⟨after, rfl⟩, -, hclash⟩
  obtain ⟨hnames, hpaths⟩ := h
  rw [List.append_assoc, List.filterMap_append, List.nodup_append] at hnames
  rw [List.append_assoc, List.map_append, List.nodup_append] at hpaths
  cases hclash with
  | typeName own taken => exact hnames.2.2 _ taken _ (by simp [own]) rfl
  | path _ taken => exact hpaths.2.2 _ taken _ (by simp) rfl

/-- A part clashes in one way. -/
theorem Clash.unique (h : Clash typePrefix before part e) (h' : Clash typePrefix before part e') :
    e = e' := by
  cases h with
  | typeName own taken =>
    cases h' with
    | typeName own' _ => rw [Option.some_inj.mp (own.symm.trans own')]
    | path free _ => exact absurd taken (free _ own)
  | path free _ =>
    cases h' with
    | typeName own taken => exact absurd taken (free _ own)
    | path _ _ => rfl

/-- Of two first clashes neither stands before the other. -/
theorem FirstClash.length_le {before' : List Part} {part' : Part} (h : before ++ [part] <+: parts)
    (h' : before' ++ [part'] <+: parts) (hclash : Clash typePrefix before part e)
    (hbefore : Part.Apart typePrefix before) (hapart : Part.Apart typePrefix before') :
    before'.length ≤ before.length := by
  by_contra hlonger
  have hinside : before ++ [part] <+: before' :=
    List.prefix_of_prefix_length_le h ((List.prefix_append before' [part']).trans h') (by
      rw [List.length_append, List.length_singleton]
      omega)
  exact hapart.not_firstClash ⟨before, part, hinside, hbefore, hclash⟩

/-- A list has one first clash. -/
theorem FirstClash.unique (h : FirstClash typePrefix parts e)
    (h' : FirstClash typePrefix parts e') :
    e = e' := by
  obtain ⟨before, part, hprefix, hapart, hclash⟩ := h
  obtain ⟨before', part', hprefix', hapart', hclash'⟩ := h'
  have hlength : before.length = before'.length :=
    Nat.le_antisymm (length_le hprefix' hprefix hclash' hapart' hapart)
      (length_le hprefix hprefix' hclash hapart hapart')
  have hsame : before ++ [part] = before' ++ [part'] :=
    (List.prefix_of_prefix_length_le hprefix hprefix' (by simp [hlength])).eq_of_length
      (by simp [hlength])
  obtain ⟨rfl, hlast⟩ := List.append_inj hsame hlength
  obtain rfl : part = part' := by simpa using hlast
  exact hclash.unique hclash'

end

/-! ### Adding parts -/

namespace Output

variable {output : Output} {before : List Part} {part : Part}

/-- An output holds parts: their names are declared and their paths registered. -/
structure Holds (typePrefix : String) (output : Output) (parts : List Part) : Prop where
  names : output.declarations.map TypeDeclaration.name =
    parts.filterMap (Part.generated? typePrefix)
  paths : output.paths.paths = parts.map Part.path
  apart : Part.Apart typePrefix parts

theorem holds_empty (typePrefix : String) : Holds typePrefix empty [] :=
  ⟨rfl, rfl, List.nodup_nil, List.nodup_nil⟩

/-- The declaration of a part is refused when its name is taken. -/
theorem run_part_of_taken {name : String} (h : output.Holds naming.typePrefix before)
    (own : part.generated? naming.typePrefix = some name)
    (taken : name ∈ before.filterMap (Part.generated? naming.typePrefix)) (more : List Emission) :
    output.run (part.emissions naming ++ more) = .error (.duplicateTypeName name part.path) := by
  rw [← Part.name_declaration?, Option.map_eq_some_iff] at own
  obtain ⟨declaration, hdeclaration, rfl⟩ := own
  have hrefused : ¬output.Admits (.declare part.path declaration) := by
    rw [Admits, h.names, not_not]
    exact taken
  rw [Part.emissions, hdeclaration]
  exact run_cons_of_error _ (step_of_not_admits hrefused)

/-- The declaration of a part is taken otherwise; its path comes next. -/
theorem exists_run_part (h : output.Holds naming.typePrefix before)
    (free : part.NameFree naming.typePrefix before) (more : List Emission) :
    ∃ next : Output, next.declarations.map TypeDeclaration.name =
        (before ++ [part]).filterMap (Part.generated? naming.typePrefix) ∧
      next.paths.paths = before.map Part.path ∧
      output.run (part.emissions naming ++ more) =
        next.run (.register (part.entry naming.typePrefix) :: more) := by
  have hname := Part.name_declaration? naming part
  rw [Part.emissions]
  cases hdeclaration : part.declaration? naming with
  | none =>
    rw [hdeclaration, Option.map_none] at hname
    refine ⟨output, ?_, h.paths, rfl⟩
    rw [h.names, List.filterMap_append, List.filterMap_cons_none hname.symm, List.filterMap_nil,
      List.append_nil]
  | some declaration =>
    rw [hdeclaration, Option.map_some] at hname
    have hadmits : output.Admits (.declare part.path declaration) := by
      rw [Admits, h.names]
      exact free _ hname.symm
    obtain ⟨next, hstep, hdeclarations, hentries⟩ := exists_step hadmits
    refine ⟨next, ?_, ?_, run_cons_of_ok _ hstep⟩
    · rw [hdeclarations, List.map_append, h.names, List.filterMap_append,
        List.filterMap_cons_some hname.symm]
      rfl
    · rw [← h.paths, Registry.paths, hentries]
      exact congrArg _ (List.append_nil _)

/-- **One part** is added to an output, or clashes with what the output holds. -/
theorem run_part (h : output.Holds naming.typePrefix before) (part : Part) (more : List Emission) :
    (∃ next : Output, next.Holds naming.typePrefix (before ++ [part]) ∧
        output.run (part.emissions naming ++ more) = next.run more) ∨
      ∃ e, Clash naming.typePrefix before part e ∧
        output.run (part.emissions naming ++ more) = .error e := by
  by_cases free : part.NameFree naming.typePrefix before
  · obtain ⟨declared, hnames, hpaths, hrun⟩ := exists_run_part h free more
    rw [hrun]
    by_cases taken : part.path ∈ before.map Part.path
    · right
      have hrefused : ¬declared.Admits (.register (part.entry naming.typePrefix)) := by
        rw [Admits, hpaths, not_not]
        exact taken
      exact ⟨_, .path free taken, run_cons_of_error _ (step_of_not_admits hrefused)⟩
    · left
      have hadmits : declared.Admits (.register (part.entry naming.typePrefix)) := by
        rw [Admits, hpaths]
        exact taken
      obtain ⟨next, hstep, hdeclarations, hentries⟩ := exists_step hadmits
      refine ⟨next, ⟨?_, ?_, h.apart.concat free taken⟩, run_cons_of_ok _ hstep⟩
      · rw [hdeclarations, ← hnames]
        exact congrArg _ (List.append_nil _)
      · rw [Registry.paths, hentries, List.map_append, ← Registry.paths, hpaths, List.map_append]
        rfl
  · right
    rw [Part.NameFree] at free
    push Not at free
    obtain ⟨name, own, taken⟩ := free
    exact ⟨_, .typeName own taken, run_part_of_taken h own taken more⟩

/-- **Parts** are added one by one, up to the first that clashes. -/
theorem run_parts (h : output.Holds naming.typePrefix before) (parts : List Part)
    (more : List Emission) :
    (∃ next : Output, next.Holds naming.typePrefix (before ++ parts) ∧
        output.run (parts.flatMap (Part.emissions naming) ++ more) = next.run more) ∨
      ∃ e, FirstClash naming.typePrefix (before ++ parts) e ∧
        output.run (parts.flatMap (Part.emissions naming) ++ more) = .error e := by
  induction parts generalizing output before with
  | nil =>
    left
    exact ⟨output, by rwa [List.append_nil], rfl⟩
  | cons part rest ih =>
    rw [List.flatMap_cons, List.append_assoc]
    rcases run_part h part (rest.flatMap (Part.emissions naming) ++ more) with
      ⟨next, hnext, hrun⟩ | ⟨e, hclash, hrun⟩
    · rw [hrun, List.append_cons]
      exact ih hnext
    · right
      refine ⟨e, ⟨before, part, ?_, h.apart, hclash⟩, hrun⟩
      exact (List.prefix_append_right_inj _).mpr (by simp)

end Output

/-! ### Rejections -/

/-- **A rejection reports the first clash**, unless a second identifier is met before it. -/
theorem compile_error {e : SchemaError} (h : compile naming id type = .error e) :
    FirstClash naming.typePrefix (type.parts id) e ∨
      ∃ first second others, type.uidNames = first :: second :: others ∧
        e = .multipleUids first second := by
  have hrun : Output.empty.run (emissions naming id type) = .error e := by
    rw [compile] at h
    cases houtput : Output.empty.run (emissions naming id type) <;> simp_all
  have hempty := Output.holds_empty naming.typePrefix
  by_cases hone : type.OneUid
  · left
    rw [emissions_eq naming id hone] at hrun
    rcases Output.run_parts hempty (type.parts id) [] with ⟨next, -, hnext⟩ | ⟨e', hclash, herror⟩
    · rw [List.append_nil, hrun, Output.run] at hnext
      cases hnext
    · rw [List.append_nil, hrun, Except.error.injEq] at herror
      rw [herror]
      exact hclash
  · obtain ⟨first, second, others, hnames⟩ := CustomType.not_oneUid_iff.mp hone
    obtain ⟨front, more, hfront, hemissions⟩ := emissions_cut naming id hnames
    rw [hemissions] at hrun
    rcases Output.run_parts hempty front (.secondUid first second :: more) with
      ⟨next, -, hnext⟩ | ⟨e', hclash, herror⟩
    · right
      rw [hrun, Output.run_cons_of_error more rfl, Except.error.injEq] at hnext
      exact ⟨first, second, others, hnames, hnext⟩
    · left
      rw [hrun, Except.error.injEq] at herror
      rw [herror]
      exact hclash.mono hfront

/-- **With one identifier at most the first clash decides:** it is what is reported. -/
theorem compile_error_iff (hone : type.OneUid) {e : SchemaError} :
    compile naming id type = .error e ↔ FirstClash naming.typePrefix (type.parts id) e := by
  have hclash {e : SchemaError} (h : compile naming id type = .error e) :
      FirstClash naming.typePrefix (type.parts id) e := by
    rcases compile_error h with hclash | ⟨first, second, others, hnames, -⟩
    · exact hclash
    · exact absurd hone (CustomType.not_oneUid_iff.mpr ⟨first, second, others, hnames⟩)
  refine ⟨hclash, fun h => ?_⟩
  cases hresult : compile naming id type with
  | ok compiled =>
    obtain ⟨-, hnames, hpaths⟩ := exists_compile_iff.mp ⟨compiled, hresult⟩
    exact absurd h (Part.Apart.not_firstClash ⟨hnames, hpaths⟩)
  | error e' => rw [(hclash hresult).unique h]

/-! ### What the errors say -/

/-- What an error says about a custom type. -/
inductive SchemaError.Explained (naming : TypeNaming) (id : String) (type : CustomType) :
    SchemaError → Prop
  /-- The type name is generated twice, at different paths or at one path in two tabs. -/
  | typeName {earlier later : Part} {name : String}
    (order : [earlier, later].Sublist (type.parts id))
    (first : earlier.generated? naming.typePrefix = some name)
    (second : later.generated? naming.typePrefix = some name)
    (places : earlier.path ≠ later.path ∨ InTwoTabs id type earlier later) :
    Explained naming id type (.duplicateTypeName name later.path)
  /-- Two parts stand at the path. -/
  | path {earlier later : Part} (order : [earlier, later].Sublist (type.parts id))
    (same : earlier.path = later.path) : Explained naming id type (.duplicatePath later.path)
  /-- The first two identifiers, in tab order. -/
  | uids {first second : String} {others : List String}
    (names : type.uidNames = first :: second :: others) :
    Explained naming id type (.multipleUids first second)

/-- A name is generated for containers only. -/
theorem Part.ending?_ne_none {typePrefix name : String} {part : Part}
    (h : part.generated? typePrefix = some name) : part.shape.ending? ≠ none := by
  intro hnone
  rw [generated?, hnone] at h
  cases h

/-- A part stands before the one that follows its list. -/
theorem pair_sublist {before parts : List Part} {earlier later : Part} (h : earlier ∈ before)
    (hbefore : before ++ [later] <+: parts) : [earlier, later].Sublist parts :=
  (List.Sublist.append (List.singleton_sublist.mpr h) (List.Sublist.refl [later])).trans
    hbefore.sublist

/-- The first clash of the parts is what its error says. -/
theorem FirstClash.explained (hkeys : type.KeysDistinct) {e : SchemaError}
    (h : FirstClash naming.typePrefix (type.parts id) e) : e.Explained naming id type := by
  obtain ⟨before, part, hbefore, -, hclash⟩ := h
  cases hclash with
  | typeName own taken =>
    obtain ⟨earlier, hearlier, hname⟩ := List.mem_filterMap.mp taken
    have horder := pair_sublist hearlier hbefore
    refine .typeName horder hname own ?_
    have htabs := List.pairwise_iff_forall_sublist.mp (inTwoTabs_of_path_eq hkeys) horder
      (Part.ending?_ne_none hname) (Part.ending?_ne_none own)
    exact or_iff_not_imp_left.mpr fun hsame => htabs (not_not.mp hsame)
  | path _ taken =>
    obtain ⟨earlier, hearlier, hpath⟩ := List.mem_map.mp taken
    exact .path (pair_sublist hearlier hbefore) hpath

/-- Nothing is wrong with a custom type but names that tabs share. -/
structure CustomType.OnlyTabsClash (naming : TypeNaming) (id : String)
    (type : CustomType) : Prop where
  oneUid : type.OneUid
  uidApart : type.UidApart
  thumbnailsApart : type.ThumbnailsApart
  namesApart : ∀ part ∈ type.parts id, ∀ other ∈ type.parts id,
    part.generated? naming.typePrefix ≠ none →
      part.generated? naming.typePrefix = other.generated? naming.typePrefix →
      part.path = other.path
  shared : ¬type.TabsApart

/-- **Names that tabs share are reported** at the first part that repeats a path. -/
theorem CustomType.OnlyTabsClash.compile_error (h : type.OnlyTabsClash naming id)
    (hkeys : type.KeysDistinct) :
    ∃ before part e, before ++ [part] <+: type.parts id ∧ Part.Apart naming.typePrefix before ∧
      part.path ∈ before.map Part.path ∧ Clash naming.typePrefix before part e ∧
      compile naming id type = .error e := by
  cases hresult : compile naming id type with
  | ok compiled =>
    have hcompilable := (compile_completes_iff hkeys).mp ⟨compiled, hresult⟩
    exact absurd hcompilable.tabsApart h.shared
  | error e =>
    obtain ⟨before, part, hbefore, hapart, hclash⟩ := (compile_error_iff h.oneUid).mp hresult
    refine ⟨before, part, e, hbefore, hapart, ?_, hclash, rfl⟩
    cases hclash with
    | typeName own taken =>
      -- the name was generated before, and names are generated at one path only
      obtain ⟨earlier, hearlier, hname⟩ := List.mem_filterMap.mp taken
      have hmem : earlier ∈ type.parts id := hbefore.subset (List.mem_append_left _ hearlier)
      have hpart : part ∈ type.parts id := hbefore.subset (by simp)
      have hpath : earlier.path = part.path :=
        h.namesApart earlier hmem part hpart (by simp [hname]) (hname.trans own.symm)
      exact hpath ▸ List.mem_map_of_mem hearlier
    | path _ taken => exact taken

/-- **Every error means what it says, up to containers in two tabs.**  A type name that is reported
is generated at two paths, or by two containers that different tabs put at one path; a path that is
reported is taken twice; identifiers that are reported are the first two.  When only names in
different tabs coincide, the first part that repeats a path is reported: by its type name if an
earlier part has generated that, and by its path otherwise, so always by its path when no type name
is generated twice. -/
theorem compile_error_explained (hkeys : type.KeysDistinct) :
    (∀ e, compile naming id type = .error e → e.Explained naming id type) ∧
    (type.OnlyTabsClash naming id →
      (∃ before part e, before ++ [part] <+: type.parts id ∧ Part.Apart naming.typePrefix before ∧
        part.path ∈ before.map Part.path ∧ Clash naming.typePrefix before part e ∧
        compile naming id type = .error e) ∧
      ((type.generatedNames naming id).Nodup →
        ∃ path, compile naming id type = .error (.duplicatePath path))) := by
  refine ⟨fun e he => ?_, fun honly => ⟨honly.compile_error hkeys, fun hnodup => ?_⟩⟩
  · rcases compile_error he with hclash | ⟨first, second, others, hnames, rfl⟩
    · exact hclash.explained hkeys
    · exact .uids hnames
  · obtain ⟨before, part, e, hbefore, -, -, hclash, he⟩ := honly.compile_error hkeys
    cases hclash with
    | typeName own taken =>
      -- the two parts with the name would repeat it in the list
      have hnames := (hbefore.sublist.filterMap (Part.generated? naming.typePrefix)).nodup hnodup
      rw [List.filterMap_append, List.nodup_append] at hnames
      exact absurd rfl (hnames.2.2 _ taken _ (by simp [own]))
    | path _ _ => exact ⟨_, he⟩

/-- A text field of one name in two tabs. -/
def CustomType.sharedText : CustomType :=
  ⟨[("Main", [("title", .plain .text)]), ("More", [("title", .plain .text)])]⟩

/-- It is reported by its path. -/
theorem compile_error_explained_sharedText :
    CustomType.sharedText.KeysDistinct ∧ CustomType.sharedText.OnlyTabsClash {} "page" ∧
      (CustomType.sharedText.generatedNames {} "page").Nodup ∧
      ∃ path, compile {} "page" .sharedText = .error (.duplicatePath path) := by
  have hkeys : CustomType.sharedText.KeysDistinct := by decide
  have honly : CustomType.sharedText.OnlyTabsClash {} "page" :=
    ⟨by decide, by decide, by decide, by decide, by decide⟩
  have hnames : (CustomType.sharedText.generatedNames {} "page").Nodup := by decide
  exact ⟨hkeys, honly, hnames, ((compile_error_explained hkeys).2 honly).2 hnames⟩

/-- A group of one name in two tabs. -/
def CustomType.sharedGroup : CustomType :=
  ⟨[("Main", [("g", .group [] [])]), ("More", [("g", .group [] [])])]⟩

/-- **A group in two tabs is reported by its type name**, though that is generated at one path
only. -/
theorem sharedGroup_reported_by_name :
    CustomType.sharedGroup.KeysDistinct ∧ CustomType.sharedGroup.OnlyTabsClash {} "page" ∧
      compile {} "page" .sharedGroup =
        .error (.duplicateTypeName "PrismicPageGGroupType" ["page", "data", "g"]) ∧
      ∀ part ∈ CustomType.sharedGroup.parts "page",
        part.generated? "Prismic" = some "PrismicPageGGroupType" →
        part.path = ["page", "data", "g"] := by
  refine ⟨by decide, ⟨by decide, by decide, by decide, by decide, by decide⟩, ?_, ?_⟩
  · decide
  · decide

end ContentGraph
