import ContentGraph.Proofs.Compilation.Rejection

/-!
# Types that share a name share a role

A generated name runs the capitalized names of a path together and adds the ending of a role.
Nothing stands between the two, and a name may itself look like an ending.  Still no ending is the
end of another one, so two equal names have the same ending, whatever stands before it; and the name
of the root, which has none, is too short for any other type.

* `TypeNaming.role_eq_of_namespaced_eq` — equal names belong to one role;
* `Shape.role?` — the role of what stands at an address;
* `declarationsOf_walk` — the walk declares the types of the parts, however many identifiers there
  are;
* `pairwise_clashesWithinRole` — two parts with one name have one role, and neither is the data or
  the root;
* `names_collide_within_role` — so a name that is reported as repeated is that of two types of one
  role.
-/

namespace ContentGraph

/-! ### Endings -/

/-- No ending is the end of another one, the empty one of roots apart. -/
theorem TypeRole.eq_of_isSuffix {role other : TypeRole} (hrole : role ≠ .document)
    (hother : other ≠ .document) (h : role.suffix.toList <:+ other.suffix.toList) :
    role = other := by
  cases role with
  | document => exact absurd rfl hrole
  | _ =>
    cases other with
    | document => exact absurd rfl hother
    | _ => first | rfl | exact absurd h (by decide)

/-- Below a root every type has an ending. -/
theorem TypeRole.length_suffix_pos {role : TypeRole} (hrole : role ≠ .document) :
    0 < role.suffix.length := by
  cases role with
  | document => exact absurd rfl hrole
  | _ => decide

namespace TypeNaming

theorem isSuffix_namespaced (naming : TypeNaming) (names : List String) (role : TypeRole) :
    role.suffix.toList <:+ (naming.namespaced names role).toList := by
  rw [namespaced, String.toList_append, String.toList_append, ← List.append_assoc]
  exact List.suffix_append _ _

/-- **Equal names belong to one role.** -/
theorem role_eq_of_namespaced_eq (naming : TypeNaming) {names others : List String}
    {role other : TypeRole} (hrole : role ≠ .document) (hother : other ≠ .document)
    (h : naming.namespaced names role = naming.namespaced others other) : role = other := by
  -- the two endings end the same name, so one of them ends the other
  have hfirst := naming.isSuffix_namespaced names role
  have hsecond := naming.isSuffix_namespaced others other
  rw [← h] at hsecond
  rcases List.suffix_or_suffix_of_suffix hfirst hsecond with hends | hends
  · exact TypeRole.eq_of_isSuffix hrole hother hends
  · exact (TypeRole.eq_of_isSuffix hother hrole hends).symm

/-- **No other type is named as the root**: every name starts as the root's does, and goes on. -/
theorem namespaced_ne_documentType (naming : TypeNaming) (id : String) (names : List String)
    {role : TypeRole} (hrole : role ≠ .document) :
    naming.namespaced (id :: names) role ≠ naming.documentType id := by
  intro h
  have hlength := congrArg String.length h
  have hending := TypeRole.length_suffix_pos hrole
  have hempty : TypeRole.document.suffix.length = 0 := rfl
  simp only [documentType, namespaced, List.map_cons, List.map_nil, String.join_cons,
    String.join_nil, String.length_append, String.length_empty] at hlength
  omega

end TypeNaming

/-! ### The roles of parts -/

/-- The role of the type that is generated for a shape, if one is. -/
def Shape.role? : Shape → Option TypeRole
  | .group _ => some .group
  | .slices _ => some .slices
  | .primary _ => some .slicePrimary
  | .items _ => some .sliceItem
  | .choice _ => some .slice
  | .data _ => some .data
  | .document _ => some .document
  | .leaf _ | .image _ | .thumbnail => none

/-- The roles of types that a custom type may have several of. -/
def repeatableRoles : List TypeRole := [.group, .slices, .slice, .slicePrimary, .sliceItem]

/-- What stands inside a field has one of these roles, or none. -/
theorem Shape.role?_mem_repeatableRoles {shape : Shape} {role : TypeRole}
    (hinner : shape.isInner = true) (h : shape.role? = some role) : role ∈ repeatableRoles := by
  cases shape with
  | data fields => cases hinner
  | document uid => cases hinner
  | leaf kind => cases h
  | image thumbnails => cases h
  | thumbnail => cases h
  | _ =>
    cases h
    decide

/-- So it is no root. -/
theorem Shape.role_ne_document {shape : Shape} {role : TypeRole} (hinner : shape.isInner = true)
    (h : shape.role? = some role) : role ≠ .document := by
  rintro rfl
  exact absurd (role?_mem_repeatableRoles hinner h) (by decide)

variable {naming : TypeNaming} {id : String} {type : CustomType}

/-- The name generated for a part is that of its role. -/
theorem Part.generated?_eq_role (naming : TypeNaming) (part : Part) :
    part.generated? naming.typePrefix = part.shape.role?.map
      (naming.namespaced part.address.names) := by
  obtain ⟨address, shape⟩ := part
  have hname (role : TypeRole) :
      some (address.typeName naming.typePrefix role.suffix) =
        some (naming.namespaced address.names role) :=
    congrArg some (typeName_eq naming address role)
  cases shape with
  | leaf kind => rfl
  | image thumbnails => rfl
  | thumbnail => rfl
  | group fields => exact hname .group
  | slices choices => exact hname .slices
  | primary fields => exact hname .slicePrimary
  | items fields => exact hname .sliceItem
  | choice choice => exact hname .slice
  | data fields => exact hname .data
  | document uid => exact hname .document

/-- A part with a name has a role, and its name is that of the role. -/
theorem Part.exists_role {part : Part} {name : String}
    (h : part.generated? naming.typePrefix = some name) :
    ∃ role, part.shape.role? = some role ∧ naming.namespaced part.address.names role = name := by
  rw [Part.generated?_eq_role] at h
  exact Option.map_eq_some_iff.mp h

/-- The names of a top-level field's parts start with the id. -/
theorem exists_names_of_mem_topParts {field : String × Field} {part : Part}
    (h : part ∈ topParts id field) :
    ∃ names, part.address.names = id :: names := by
  have hid : [Segment.named id] <+: part.address := by
    refine List.IsPrefix.trans ?_ (prefix_of_mem_parts h)
    unfold topAddress
    split
    · exact ⟨_, rfl⟩
    · exact ⟨_, rfl⟩
  obtain ⟨rest, hrest⟩ := hid
  exact ⟨Address.names rest, by rw [← hrest, Address.names_append]; rfl⟩

/-- No part of a top-level field has the name of the root. -/
theorem generated_ne_documentType {field : String × Field} {part : Part} {name : String}
    (hpart : part ∈ topParts id field) (h : part.generated? naming.typePrefix = some name) :
    name ≠ naming.documentType id := by
  obtain ⟨role, hrole, rfl⟩ := Part.exists_role h
  obtain ⟨names, hnames⟩ := exists_names_of_mem_topParts hpart
  rw [hnames]
  exact naming.namespaced_ne_documentType id names
    (Shape.role_ne_document (isInner_of_mem_parts hpart) hrole)

/-! ### What the walk declares -/

/-- The top-level fields declare what their parts do.  Identifiers declare nothing, so a second one
changes nothing. -/
theorem declarationsOf_emitTopLevel (naming : TypeNaming) (id : String) (fields : FieldMap) :
    ∀ uid, declarationsOf (emitTopLevel naming id uid fields) =
      (fields.flatMap (topParts id)).filterMap (Part.declaration? naming) := by
  have happend (a b : List Emission) :
      declarationsOf (a ++ b) = declarationsOf a ++ declarationsOf b :=
    List.filterMap_append
  induction fields with
  | nil =>
    intro uid
    rfl
  | cons field rest ih =>
    intro uid
    obtain ⟨name, field⟩ := field
    rw [List.flatMap_cons, List.filterMap_append]
    by_cases huid : field.isUid = true
    · obtain ⟨extra, rfl⟩ := Field.exists_of_isUid huid
      have hnothing :
          (topParts id (name, Field.leaf .uid extra)).filterMap (Part.declaration? naming) =
            [] := by
        rw [topParts, Field.parts]
        rfl
      rw [hnothing, List.nil_append]
      cases uid with
      | some first =>
        rw [emitTopLevel_second naming id first name rest huid, declarationsOf_cons, ih]
        rfl
      | none =>
        rw [emitTopLevel_first naming id name rest huid, happend, ih, emitField]
        rfl
    · have haddress : topAddress id (name, field) = [.named id, .structural "data", .named name] :=
        if_neg huid
      have hfield : emitField naming [id, dataSegment, name] [id, name] field =
          (topParts id (name, field)).flatMap (Part.emissions naming) := by
        rw [topParts, haddress]
        exact emitField_eq naming field [.named id, .structural "data", .named name]
      rw [emitTopLevel_inner naming id name rest uid huid, happend, ih, hfield,
        declarationsOf_flatMap]

/-- **The walk declares the types of the parts**, in order. -/
theorem declarationsOf_walk (naming : TypeNaming) (id : String) (type : CustomType) :
    declarationsOf (emissions naming id type) = (type.parts id).filterMap
      (Part.declaration? naming) := by
  have htop := declarationsOf_emitTopLevel naming id type.fields none
  rw [declarationsOf] at htop
  rw [emissions, declarationsOf, List.filterMap_append, htop, CustomType.parts,
    List.filterMap_append]
  rfl

/-- **The root is declared last, and its name is its own.** -/
theorem exists_names_walk (naming : TypeNaming) (id : String) (type : CustomType) :
    ∃ others, (declarationsOf (emissions naming id type)).map TypeDeclaration.name =
        others ++ [naming.documentType id] ∧ naming.documentType id ∉ others := by
  have hdata : naming.namespaced [id] .data ≠ naming.documentType id :=
    naming.namespaced_ne_documentType id [] (by decide)
  refine ⟨(type.fields.flatMap (topParts id)).filterMap (Part.generated? naming.typePrefix) ++
    [naming.namespaced [id] .data], ?_, ?_⟩
  · rw [declarationsOf_walk, CustomType.parts, List.filterMap_append, List.map_append,
      map_name_filterMap, List.append_assoc]
    rfl
  · rw [List.mem_append, List.mem_singleton, List.mem_filterMap, not_or]
    refine ⟨?_, hdata.symm⟩
    rintro ⟨part, hpart, hname⟩
    obtain ⟨field, _, hmem⟩ := List.mem_flatMap.mp hpart
    exact generated_ne_documentType hmem hname rfl

/-! ### Which parts can share a name -/

/-- Two parts share a name only if they have one role, and one that a custom type may have several
types of. -/
def Part.ClashesWithinRole (naming : TypeNaming) (earlier later : Part) : Prop :=
  ∀ name, earlier.generated? naming.typePrefix = some name →
    later.generated? naming.typePrefix = some name →
    ∃ role ∈ repeatableRoles, earlier.shape.role? = some role ∧ later.shape.role? = some role

/-- A part of a field shares its name with parts of its own role, roots apart. -/
theorem clashesWithinRole_of_isInner {earlier later : Part}
    (hearlier : earlier.shape.isInner = true) (hlater : later.shape.role? ≠ some .document) :
    earlier.ClashesWithinRole naming later := by
  intro name hfirst hsecond
  obtain ⟨role, hrole, hname⟩ := Part.exists_role hfirst
  obtain ⟨other, hother, hsame⟩ := Part.exists_role hsecond
  have hne : other ≠ .document := fun hroot => hlater (hroot ▸ hother)
  obtain rfl : role = other :=
    naming.role_eq_of_namespaced_eq (Shape.role_ne_document hearlier hrole) hne
      (hname.trans hsame.symm)
  exact ⟨role, Shape.role?_mem_repeatableRoles hearlier hrole, hrole, hother⟩

/-- **Of the parts of a custom type** only two of one role share a name. -/
theorem pairwise_clashesWithinRole (naming : TypeNaming) (id : String) (type : CustomType) :
    (type.parts id).Pairwise (Part.ClashesWithinRole naming) := by
  have hroot (uid : Option (String × Field)) {name : String}
      (h : Part.generated? naming.typePrefix ⟨[.named id], .document uid⟩ = some name) :
      name = naming.documentType id := by
    rw [Part.generated?_eq_role] at h
    exact (Option.some_inj.mp h).symm
  have hinner : ∀ part ∈ type.fields.flatMap (topParts id), part.shape.isInner = true := by
    intro part hpart
    obtain ⟨field, _, hmem⟩ := List.mem_flatMap.mp hpart
    exact isInner_of_mem_parts hmem
  change (type.fields.flatMap (topParts id) ++ [_, _]).Pairwise _
  rw [List.pairwise_append]
  refine ⟨?_, ?_, ?_⟩
  · apply List.pairwise_of_forall_mem_list
    intro earlier hearlier later hlater
    refine clashesWithinRole_of_isInner (hinner earlier hearlier) fun hdocument => ?_
    exact Shape.role_ne_document (hinner later hlater) hdocument rfl
  · refine List.pairwise_pair.mpr fun name hfirst hsecond => ?_
    rw [hroot _ hsecond, Part.generated?_eq_role] at hfirst
    exact absurd (Option.some_inj.mp hfirst) (naming.namespaced_ne_documentType id [] (by decide))
  · intro earlier hearlier later hlater
    rw [List.mem_cons, List.mem_singleton] at hlater
    rcases hlater with rfl | rfl
    · exact clashesWithinRole_of_isInner (hinner earlier hearlier) (by simp [Shape.role?])
    · intro name hfirst hsecond
      obtain ⟨field, _, hmem⟩ := List.mem_flatMap.mp hearlier
      exact absurd (hroot _ hsecond) (generated_ne_documentType hmem hfirst)

/-- **Names collide within a role only.**  Two types of different roles, neither of them a root,
never have one name, whatever segments the names are made of.  What is declared last for a custom
type is its root, under a name that no other of its types has.  So a type name that is reported as
repeated is that of two groups, two slice zones, two choices, two halves that stand once or two that
repeat, the later of them at the reported path. -/
theorem names_collide_within_role (naming : TypeNaming) :
    (∀ (names others : List String) (role other : TypeRole), role ≠ .document → other ≠ .document →
      role ≠ other →
      naming.namespaced names role ≠ naming.namespaced others other) ∧
    ∀ (id : String) (type : CustomType),
      (∃ others, (declarationsOf (emissions naming id type)).map TypeDeclaration.name =
        others ++ [naming.documentType id] ∧ naming.documentType id ∉ others) ∧
      ∀ name path, compile naming id type = .error (.duplicateTypeName name path) →
        ∃ role ∈ repeatableRoles, ∃ earlier later, [earlier, later].Sublist (type.parts id) ∧
          earlier.shape.role? = some role ∧ later.shape.role? = some role ∧
          earlier.generated? naming.typePrefix = some name ∧
          later.generated? naming.typePrefix = some name ∧
          later.path = path := by
  constructor
  · intro names others role other hrole hother hne h
    exact hne (naming.role_eq_of_namespaced_eq hrole hother h)
  intro id type
  refine ⟨exists_names_walk naming id type, ?_⟩
  intro name path herror
  rcases compile_error herror with ⟨before, part, hbefore, -, hclash⟩ | ⟨_, _, _, -, huids⟩
  · cases hclash with
    | typeName own taken =>
      obtain ⟨earlier, hearlier, hname⟩ := List.mem_filterMap.mp taken
      have horder := pair_sublist hearlier hbefore
      have hwithin :=
        List.pairwise_iff_forall_sublist.mp (pairwise_clashesWithinRole naming id type) horder
      obtain ⟨role, hmem, hrole, hother⟩ := hwithin name hname own
      exact ⟨role, hmem, earlier, part, horder, hrole, hother, hname, own, rfl⟩
  · cases huids

/-- Two groups whose names differ but are capitalized alike, the first of which holds a group named
as an ending. -/
def CustomType.homonyms : CustomType :=
  ⟨[("Main", [("a_b", .group [("data-type", .group [] [])] []), ("aB", .group [] [])])]⟩

/-- They are reported, as two groups. -/
theorem names_collide_within_role_homonyms :
    compile {} "page" .homonyms =
      .error (.duplicateTypeName "PrismicPageABGroupType" ["page", "data", "aB"]) ∧
      ∃ role ∈ repeatableRoles, ∃ earlier later, [earlier,
        later].Sublist (CustomType.homonyms.parts "page") ∧
        earlier.shape.role? = some role ∧ later.shape.role? = some role ∧
        earlier.generated? "Prismic" = some "PrismicPageABGroupType" ∧
        later.generated? "Prismic" = some "PrismicPageABGroupType" ∧
        later.path = ["page", "data", "aB"] := by
  have herror : compile {} "page" .homonyms =
      .error (.duplicateTypeName "PrismicPageABGroupType" ["page", "data", "aB"]) := by decide
  exact ⟨herror, ((names_collide_within_role {}).2 "page" .homonyms).2 _ _ herror⟩

end ContentGraph
