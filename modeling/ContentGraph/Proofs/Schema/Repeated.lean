import ContentGraph.Proofs.Schema.Distinct

/-!
# Where a path is repeated

A path can be repeated by two thumbnails of one image, by the identifiers, or by fields of one name
in different tabs. A type is generated for none of the first two.  So a container that stands at the
path of another one comes from a second tab.

* `Part.OnlyBare` — the earlier of two parts at one path generates no type;
* `onlyBare_parts` — so it is inside every field whose maps have distinct keys;
* `InTwoTabs` — two parts that stand inside fields of one name in different tabs;
* `inTwoTabs_of_path_eq` — containers at one path are such parts.
-/

namespace ContentGraph

/-- Two parts are at one path only if no type is generated for the earlier one. -/
def Part.OnlyBare (earlier later : Part) : Prop :=
  earlier.path = later.path → earlier.shape.ending? = none

/-! ### Inside a field -/

/-- Branches under an address stand apart, and from what holds them, so that only a branch repeats a
path of its own. -/
theorem onlyBare_branches {α : Type} {address : Address} {items : List (String × α)}
    {family : String × α → List Part} (segment : String → Segment)
    (htext : ∀ name, (segment name).text = name) (shape : Shape)
    (rooted : ∀ item ∈ items, ∃ root, Rooted (address ++ [segment item.1]) root (family item))
    (distinct : Keyed.Distinct items)
    (h : ∀ item ∈ items, (family item).Pairwise Part.OnlyBare) :
    (items.flatMap family ++ [(⟨address, shape⟩ : Part)]).Pairwise Part.OnlyBare := by
  have hunder : ∀ item ∈ items, ∀ part ∈ family item,
    address ++ [segment item.1] <+: part.address := by
    intro item hitem part hpart
    obtain ⟨root, hrooted⟩ := rooted item hitem
    exact hrooted.isPrefix hpart
  rw [List.pairwise_append, List.pairwise_flatMap]
  refine ⟨⟨h, ?_⟩, List.pairwise_singleton _ _, ?_⟩
  · rw [Keyed.Distinct, Keyed.keys, List.nodup_iff_pairwise_ne, List.pairwise_map] at distinct
    refine distinct.imp_of_mem fun {item other} hitem hother hne => ?_
    intro earlier hearlier later hlater hpath
    have hfirst := Part.isPrefix_path (hunder item hitem earlier hearlier)
    have hsecond := Part.isPrefix_path (hunder other hother later hlater)
    rw [Address.path_branch htext] at hfirst hsecond
    exact absurd (segment_unique (hpath ▸ hfirst) hsecond) hne
  · intro earlier hearlier later hlater hpath
    obtain ⟨item, hitem, hmem⟩ := List.mem_flatMap.mp hearlier
    obtain rfl : later = ⟨address, shape⟩ := List.mem_singleton.mp hlater
    have hlt := length_lt_of_isPrefix (hunder item hitem earlier hmem)
    rw [hpath] at hlt
    exact absurd hlt (Nat.lt_irrefl _)

/-- The fields of a container. -/
theorem onlyBare_container {address : Address} {fields : FieldMap} (shape : Shape)
    (distinct : Keyed.Distinct fields)
    (h : ∀ field ∈ fields, ∀ address, (field.2.parts address).Pairwise Part.OnlyBare) :
    (partsOfFields address fields ++ [(⟨address, shape⟩ : Part)]).Pairwise Part.OnlyBare := by
  rw [partsOfFields_eq]
  exact onlyBare_branches .named (fun _ => rfl) shape (fun field _ => ⟨_, rooted_parts _ field.2⟩)
    distinct fun field hfield => h field hfield _

/-- The halves of a choice. -/
theorem onlyBare_partsOfChoice {address : Address} {choice : Choice Field}
    (h : ∀ half ∈ halves address choice, half.2.Pairwise Part.OnlyBare) :
    (partsOfChoice address choice).Pairwise Part.OnlyBare := by
  have hapart : Keyed.Distinct (halves address choice) := by
    simp [halves, Keyed.Distinct, Keyed.keys]
  rw [partsOfChoice_eq]
  exact onlyBare_branches .structural (fun _ => rfl) _ (fun _ => rooted_halves) hapart h

/-- **Inside a field only thumbnails share a path**, for its maps have distinct keys. -/
theorem onlyBare_parts (field : Field) :
    (∀ inner ∈ field.nested, inner.KeysDistinct) →
      ∀ address : Address, (field.parts address).Pairwise Part.OnlyBare := by
  induction field using Field.induction with
  | leaf kind extra =>
    intro _ address
    rw [Field.parts]
    exact List.pairwise_singleton _ _
  | image thumbnails extra =>
    intro _ address
    -- no type is generated for any of these parts
    refine List.pairwise_of_forall_mem_list fun earlier hearlier _ _ _ => ?_
    rw [Field.parts, List.mem_cons, List.mem_map] at hearlier
    rcases hearlier with rfl | ⟨spec, _, rfl⟩ <;> rfl
  | group fields extra ih =>
    intro hkeys address
    rw [Field.nested, List.forall_mem_cons, forall_mem_nestedFields] at hkeys
    rw [Field.parts]
    exact onlyBare_container _ hkeys.1 fun field hfield => ih field hfield (hkeys.2 field hfield)
  | slices choices extra ih =>
    intro hkeys address
    rw [Field.nested, List.forall_mem_cons, forall_mem_nestedChoices] at hkeys
    obtain ⟨⟨hdistinct, hmaps⟩, hinner⟩ := hkeys
    rw [Field.parts, partsOfChoices_eq]
    refine onlyBare_branches .named (fun _ => rfl) _
      (fun choice _ => ⟨_, rooted_partsOfChoice _ choice.2⟩) hdistinct fun choice hchoice => ?_
    obtain ⟨hprimary, hitems⟩ := hinner choice hchoice
    rw [forall_mem_nestedFields] at hprimary hitems
    apply onlyBare_partsOfChoice
    rw [halves, List.forall_mem_cons, List.forall_mem_singleton]
    exact ⟨onlyBare_container _ (hmaps choice hchoice).1 fun field hfield =>
        (ih choice hchoice).1 field hfield (hprimary field hfield),
      onlyBare_container _ (hmaps choice hchoice).2 fun field hfield =>
        (ih choice hchoice).2 field hfield (hitems field hfield)⟩

/-! ### At the top level -/

/-- The parts of a top-level field. -/
def topParts (id : String) (field : String × Field) : List Part :=
  field.2.parts (topAddress id field)

/-- Two parts stand inside fields of one name that different tabs put in the data. -/
def InTwoTabs (id : String) (type : CustomType) (earlier later : Part) : Prop :=
  ∃ first second name field other, [first, second].Sublist type.tabs ∧
    (name, field) ∈ first.2 ∧ field.isUid = false ∧ earlier ∈ topParts id (name, field) ∧
    (name, other) ∈ second.2 ∧ other.isUid = false ∧ later ∈ topParts id (name, other)

/-- A part for which a type is generated does not come from an identifier. -/
theorem isUid_of_mem_topParts {id : String} {field : String × Field} {part : Part}
    (hpart : part ∈ topParts id field) (h : part.shape.ending? ≠ none) : field.2.isUid = false := by
  rw [← Bool.not_eq_true]
  intro huid
  obtain ⟨extra, hleaf⟩ := Field.exists_of_isUid huid
  rw [topParts, hleaf, Field.parts, List.mem_singleton] at hpart
  rw [hpart] at h
  exact h rfl

/-- A top-level container stands in the data under the name of its field. -/
theorem prefix_of_mem_topParts {id : String} {field : String × Field} {part : Part}
    (hpart : part ∈ topParts id field) (h : part.shape.ending? ≠ none) :
    [id, "data"] ++ [field.1] <+: part.path :=
  prefix_of_mem_topPaths (isUid_of_mem_topParts hpart h)
    (List.mem_map_of_mem (f := Part.path) hpart)

/-- Two top-level containers at one path belong to fields of one name. -/
theorem name_eq_of_path_eq {id : String} {field other : String × Field} {earlier later : Part}
    (hearlier : earlier ∈ topParts id field) (hlater : later ∈ topParts id other)
    (hfirst : earlier.shape.ending? ≠ none) (hsecond : later.shape.ending? ≠ none)
    (hpath : earlier.path = later.path) : field.1 = other.1 :=
  segment_unique (hpath ▸ prefix_of_mem_topParts hearlier hfirst)
    (prefix_of_mem_topParts hlater hsecond)

/-- Inside one tab containers stand apart. -/
theorem path_ne_of_tab {id : String} {tab : FieldMap} (distinct : Keyed.Distinct tab)
    (hkeys : ∀ field ∈ tab, ∀ inner ∈ field.2.nested, inner.KeysDistinct) :
    (tab.flatMap (topParts id)).Pairwise fun earlier later =>
      earlier.shape.ending? ≠ none → later.shape.ending? ≠ none → earlier.path ≠ later.path := by
  rw [List.pairwise_flatMap]
  constructor
  · intro field hfield
    exact (onlyBare_parts field.2 (hkeys field hfield) _).imp
      fun hbare hfirst _ hpath => hfirst (hbare hpath)
  · rw [Keyed.Distinct, Keyed.keys, List.nodup_iff_pairwise_ne, List.pairwise_map] at distinct
    refine distinct.imp fun hne earlier hearlier later hlater hfirst hsecond hpath => ?_
    exact hne (name_eq_of_path_eq hearlier hlater hfirst hsecond hpath)

/-- The top-level parts, tab by tab. -/
theorem topParts_tabs (id : String) (type : CustomType) :
    type.fields.flatMap (topParts id) = type.tabs.flatMap fun tab =>
      tab.2.flatMap (topParts id) := by
  rw [CustomType.fields, List.flatMap_assoc]

/-- **Containers at one path come from two tabs.** -/
theorem inTwoTabs_of_path_eq {id : String} {type : CustomType} (hkeys : type.KeysDistinct) :
    (type.parts id).Pairwise fun earlier later => earlier.shape.ending? ≠ none →
      later.shape.ending? ≠ none → earlier.path = later.path → InTwoTabs id type earlier later := by
  have hnested := hkeys.2
  rw [CustomType.nested, forall_mem_nestedFields] at hnested
  change (type.fields.flatMap (topParts id) ++ [_, _]).Pairwise _
  rw [List.pairwise_append]
  refine ⟨?_, ?_, ?_⟩
  · rw [topParts_tabs, List.pairwise_flatMap]
    constructor
    · intro tab htab
      have hfields : ∀ field ∈ tab.2, ∀ inner ∈ field.2.nested, inner.KeysDistinct :=
        fun field hfield => hnested field (List.mem_flatMap.mpr ⟨tab, htab, hfield⟩)
      exact (path_ne_of_tab (hkeys.1 tab htab) hfields).imp
        fun hne hfirst hsecond hpath => absurd hpath (hne hfirst hsecond)
    · rw [List.pairwise_iff_forall_sublist]
      intro first second htabs earlier hearlier later hlater hfirst hsecond hpath
      obtain ⟨⟨name, field⟩, hfield, hmem⟩ := List.mem_flatMap.mp hearlier
      obtain ⟨⟨otherName, other⟩, hother, hmem'⟩ := List.mem_flatMap.mp hlater
      obtain rfl : name = otherName := name_eq_of_path_eq hmem hmem' hfirst hsecond hpath
      exact ⟨first, second, name, field, other, htabs, hfield, isUid_of_mem_topParts hmem hfirst,
        hmem, hother, isUid_of_mem_topParts hmem' hsecond, hmem'⟩
  · refine List.pairwise_pair.mpr fun _ _ hpath => ?_
    exact absurd hpath (by simp)
  · intro earlier hearlier later hlater hfirst _ hpath
    obtain ⟨field, _, hmem⟩ := List.mem_flatMap.mp hearlier
    have hlength := (prefix_of_mem_topParts hmem hfirst).length_le
    rw [hpath] at hlength
    rw [List.mem_cons, List.mem_singleton] at hlater
    rcases hlater with rfl | rfl <;> simp at hlength

end ContentGraph
