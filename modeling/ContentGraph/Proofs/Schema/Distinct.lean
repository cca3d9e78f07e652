import ContentGraph.Proofs.Registry.Below
import ContentGraph.Proofs.Schema.Parts

/-!
# When the parts of a custom type stand apart

Field maps have distinct keys.  Below a field that is enough to keep all paths apart, whatever the
names are, except that an image may list one thumbnail twice.  Only the top level, where tabs share
one record and the identifier stands beside the data, can repeat a path otherwise.

* `Field.nested`, `CustomType.nested` — the fields at every depth;
* `CustomType.KeysDistinct` — every field map and every choice map has distinct keys;
* `nodup_parts_iff` — the paths of a field's parts are distinct exactly when its images' thumbnails
  are;
* `nodup_customType_iff` — the same for a custom type, with what the top level adds.
-/

namespace ContentGraph

/-! ### Fields at every depth -/

mutual
/-- The field and all fields inside it. -/
def Field.nested : Field → List Field
  | .leaf kind extra => [.leaf kind extra]
  | .image thumbnails extra => [.image thumbnails extra]
  | .group fields extra => .group fields extra :: nestedFields fields
  | .slices choices extra => .slices choices extra :: nestedChoices choices
/-- The fields of a field map at every depth. -/
def nestedFields : List (String × Field) → List Field
  | [] => []
  | (_, field) :: rest => field.nested ++ nestedFields rest
/-- The fields of choices at every depth. -/
def nestedChoices : List (String × Choice Field) → List Field
  | [] => []
  | (_, choice) :: rest => nestedChoice choice ++ nestedChoices rest
/-- The fields of a choice at every depth. -/
def nestedChoice : Choice Field → List Field
  | ⟨primary, items, _⟩ => nestedFields primary ++ nestedFields items
end

/-- The fields of a custom type at every depth. -/
def CustomType.nested (type : CustomType) : List Field := nestedFields type.fields

/-- The thumbnails of an image; other fields have none. -/
def Field.thumbnails : Field → List ThumbnailSpec
  | .image thumbnails _ => thumbnails
  | _ => []

/-- Whether the maps that a field itself holds have distinct keys. -/
def Field.KeysDistinct : Field → Prop
  | .leaf _ _ | .image _ _ => True
  | .group fields _ => Keyed.Distinct fields
  | .slices choices _ =>
    Keyed.Distinct choices ∧
      ∀ choice ∈ choices, Keyed.Distinct choice.2.primary ∧ Keyed.Distinct choice.2.items

instance : (field : Field) → Decidable field.KeysDistinct
  | .leaf _ _ | .image _ _ => inferInstanceAs (Decidable True)
  | .group fields _ => inferInstanceAs (Decidable (Keyed.Distinct fields))
  | .slices choices _ =>
    inferInstanceAs (Decidable (Keyed.Distinct choices ∧
      ∀ choice ∈ choices, Keyed.Distinct choice.2.primary ∧ Keyed.Distinct choice.2.items))

/-- Every field map and every choice map of a custom type has distinct keys. -/
def CustomType.KeysDistinct (type : CustomType) : Prop :=
  (∀ tab ∈ type.tabs, Keyed.Distinct tab.2) ∧ ∀ field ∈ type.nested, field.KeysDistinct

instance (type : CustomType) : Decidable type.KeysDistinct :=
  inferInstanceAs (Decidable (_ ∧ _))

theorem forall_mem_nestedFields {P : Field → Prop} {fields : FieldMap} :
    (∀ inner ∈ nestedFields fields, P inner) ↔
      ∀ field ∈ fields, ∀ inner ∈ field.2.nested, P inner := by
  induction fields with
  | nil => simp [nestedFields]
  | cons field rest ih => rw [nestedFields, List.forall_mem_append, ih, List.forall_mem_cons]

theorem forall_mem_nestedChoices {P : Field → Prop} {choices : List (String × Choice Field)} :
    (∀ inner ∈ nestedChoices choices, P inner) ↔
      ∀ choice ∈ choices, (∀ inner ∈ nestedFields choice.2.primary, P inner) ∧
        ∀ inner ∈ nestedFields choice.2.items, P inner := by
  induction choices with
  | nil => simp [nestedChoices]
  | cons choice rest ih =>
    obtain ⟨name, primary, items, extra⟩ := choice
    rw [nestedChoices, nestedChoice, List.forall_mem_append, List.forall_mem_append, ih,
      List.forall_mem_cons]

/-! ### Paths strictly below -/

/-- Paths that continue under a segment are longer. -/
theorem length_lt_of_isPrefix {address : Address} {segment : Segment} {part : Part}
    (h : address ++ [segment] <+: part.address) : address.path.length < part.path.length := by
  have hlength := (Part.isPrefix_path h).length_le
  rw [Address.path_append, List.length_append] at hlength
  exact hlength

/-- A part that stands above all others adds no repetition. -/
theorem nodup_append_own {address : Address} {parts : List Part} (shape : Shape)
    (h : ∀ part ∈ parts, address.path.length < part.path.length) :
    ((parts ++ [(⟨address, shape⟩ : Part)]).map Part.path).Nodup ↔ (parts.map Part.path).Nodup := by
  rw [List.map_append, List.nodup_append]
  constructor
  · exact fun hnodup => hnodup.1
  · intro hnodup
    refine ⟨hnodup, List.nodup_singleton _, ?_⟩
    intro path hpath own hown heq
    obtain ⟨part, hpart, rfl⟩ := List.mem_map.mp hpath
    obtain rfl : own = address.path := by simpa using hown
    have hlt := h part hpart
    rw [heq] at hlt
    exact Nat.lt_irrefl _ hlt

/-! ### Inside a field -/

/-- **Branches under an address** stand apart when their keys differ and each stands apart from
itself; so does what holds them. -/
theorem nodup_branches_iff {α : Type} {address : Address} {items : List (String × α)}
    {family : String × α → List Part} (segment : String → Segment)
    (htext : ∀ name, (segment name).text = name) (shape : Shape)
    (rooted : ∀ item ∈ items, ∃ root, Rooted (address ++ [segment item.1]) root (family item)) :
    ((items.flatMap family ++ [(⟨address, shape⟩ : Part)]).map Part.path).Nodup ↔
      Keyed.Distinct items ∧ ∀ item ∈ items, ((family item).map Part.path).Nodup := by
  have hlonger : ∀ part ∈ items.flatMap family, address.path.length < part.path.length := by
    intro part hpart
    obtain ⟨item, hitem, hmem⟩ := List.mem_flatMap.mp hpart
    obtain ⟨root, hrooted⟩ := rooted item hitem
    exact length_lt_of_isPrefix (hrooted.isPrefix hmem)
  rw [nodup_append_own shape hlonger, List.map_flatMap]
  refine nodup_families address.path ?_ ?_
  · intro item hitem path hmem
    obtain ⟨part, hpart, rfl⟩ := List.mem_map.mp hmem
    obtain ⟨root, hrooted⟩ := rooted item hitem
    rw [← Address.path_branch htext]
    exact Part.isPrefix_path (hrooted.isPrefix hpart)
  · intro item hitem
    obtain ⟨root, hrooted⟩ := rooted item hitem
    rw [← Address.path_branch htext]
    exact List.mem_map_of_mem (f := Part.path) hrooted.own_mem

/-- Fields stand apart when their names differ and each stands apart from itself. -/
theorem nodup_container_iff {address : Address} {fields : FieldMap} (shape : Shape) :
    ((partsOfFields address fields ++ [(⟨address, shape⟩ : Part)]).map Part.path).Nodup ↔
      Keyed.Distinct fields ∧
        ∀ field ∈ fields,
        ((field.2.parts (address ++ [Segment.named field.1])).map Part.path).Nodup := by
  rw [partsOfFields_eq]
  exact nodup_branches_iff .named (fun _ => rfl) shape fun field _ => ⟨_, rooted_parts _ field.2⟩

/-- The halves of a choice stand apart, for their segments differ. -/
theorem nodup_partsOfChoice_iff {address : Address} {choice : Choice Field} :
    ((partsOfChoice address choice).map Part.path).Nodup ↔
      ∀ half ∈ halves address choice, (half.2.map Part.path).Nodup := by
  have hapart : Keyed.Distinct (halves address choice) := by
    simp [halves, Keyed.Distinct, Keyed.keys]
  rw [partsOfChoice_eq, nodup_branches_iff .structural (fun _ => rfl) _ fun _ => rooted_halves]
  exact and_iff_right hapart

/-- Choices stand apart when their names differ and each stands apart from itself. -/
theorem nodup_zone_iff {address : Address} {choices : List (String × Choice Field)}
    (shape : Shape) :
    ((partsOfChoices address choices ++ [(⟨address, shape⟩ : Part)]).map Part.path).Nodup ↔
      Keyed.Distinct choices ∧ ∀ choice ∈ choices,
        ((partsOfChoice (address ++ [Segment.named choice.1]) choice.2).map Part.path).Nodup := by
  rw [partsOfChoices_eq]
  exact nodup_branches_iff .named (fun _ => rfl) shape
    fun choice _ => ⟨_, rooted_partsOfChoice _ choice.2⟩

/-- An image stands apart from itself when its thumbnails have different names. -/
theorem nodup_image_iff {address : Address} {thumbnails : List ThumbnailSpec}
    {extra : ExtraMembers} :
    (((Field.image thumbnails extra).parts address).map Part.path).Nodup ↔
      (thumbnails.map ThumbnailSpec.name).Nodup := by
  have hpaths : ((Field.image thumbnails extra).parts address).map Part.path =
      address.path :: (thumbnails.map ThumbnailSpec.name).map fun name =>
        address.path ++ ["thumbnails", name] := by
    simp [Field.parts, Part.path, Function.comp_def]
  rw [hpaths, List.nodup_cons, List.nodup_map_iff]
  · refine and_iff_right ?_
    intro hmem
    obtain ⟨name, _, heq⟩ := List.mem_map.mp hmem
    simp at heq
  · intro a b hab
    simpa using hab

/-- **Only thumbnails can repeat a path below a field** whose maps have distinct keys. -/
theorem nodup_parts_iff (field : Field) :
    ∀ address : Address, (∀ inner ∈ field.nested, inner.KeysDistinct) →
      (((field.parts address).map Part.path).Nodup ↔
        ∀ inner ∈ field.nested, (inner.thumbnails.map ThumbnailSpec.name).Nodup) := by
  induction field using Field.induction with
  | leaf kind extra =>
    intro address _
    simp [Field.parts, Field.nested, Field.thumbnails]
  | image thumbnails extra =>
    intro address _
    rw [nodup_image_iff, Field.nested, List.forall_mem_singleton]
    rfl
  | group fields extra ih =>
    intro address hkeys
    rw [Field.nested, List.forall_mem_cons, forall_mem_nestedFields] at hkeys
    rw [Field.parts, nodup_container_iff, Field.nested, List.forall_mem_cons,
      forall_mem_nestedFields]
    have hfields : Keyed.Distinct fields := hkeys.1
    have hthumbnails : ((Field.group fields extra).thumbnails.map ThumbnailSpec.name).Nodup :=
      List.nodup_nil
    rw [and_iff_right hfields, and_iff_right hthumbnails]
    exact forall₂_congr fun field hfield => ih field hfield _ (hkeys.2 field hfield)
  | slices choices extra ih =>
    intro address hkeys
    rw [Field.nested, List.forall_mem_cons, forall_mem_nestedChoices] at hkeys
    rw [Field.parts, nodup_zone_iff, Field.nested, List.forall_mem_cons, forall_mem_nestedChoices]
    have hmaps : Keyed.Distinct choices ∧
        ∀ choice ∈ choices, Keyed.Distinct choice.2.primary ∧ Keyed.Distinct choice.2.items :=
      hkeys.1
    have hthumbnails : ((Field.slices choices extra).thumbnails.map ThumbnailSpec.name).Nodup :=
      List.nodup_nil
    rw [and_iff_right hmaps.1, and_iff_right hthumbnails]
    refine forall₂_congr fun choice hchoice => ?_
    obtain ⟨hprimary, hitems⟩ := hkeys.2 choice hchoice
    rw [forall_mem_nestedFields] at hprimary hitems
    rw [nodup_partsOfChoice_iff, halves, List.forall_mem_cons, List.forall_mem_singleton,
      nodup_container_iff, nodup_container_iff, forall_mem_nestedFields, forall_mem_nestedFields,
      and_iff_right (hmaps.2 choice hchoice).1, and_iff_right (hmaps.2 choice hchoice).2]
    refine and_congr ?_ ?_
    · exact forall₂_congr fun field hfield =>
        (ih choice hchoice).1 field hfield _ (hprimary field hfield)
    · exact forall₂_congr fun field hfield =>
        (ih choice hchoice).2 field hfield _ (hitems field hfield)

/-! ### The top level -/

namespace CustomType

/-- Different tabs share no name, the identifier's apart. -/
def TabsApart (type : CustomType) : Prop :=
  type.tabs.Pairwise fun earlier later => ∀ field ∈ earlier.2, ∀ other ∈ later.2,
    field.2.isUid = false → other.2.isUid = false → field.1 ≠ other.1

/-- The identifier is not named as the segment beside which it stands. -/
def UidApart (type : CustomType) : Prop :=
  ∀ field ∈ type.fields, field.2.isUid = true → field.1 ≠ "data"

/-- No image lists two thumbnails of one name. -/
def ThumbnailsApart (type : CustomType) : Prop :=
  ∀ field ∈ type.nested, (field.thumbnails.map ThumbnailSpec.name).Nodup

instance (type : CustomType) : Decidable type.TabsApart :=
  inferInstanceAs (Decidable (List.Pairwise _ _))

instance (type : CustomType) : Decidable type.UidApart :=
  inferInstanceAs (Decidable (∀ _ ∈ _, _))

instance (type : CustomType) : Decidable type.ThumbnailsApart :=
  inferInstanceAs (Decidable (∀ _ ∈ _, _))

end CustomType

/-- The paths that a top-level field takes. -/
def topPaths (id : String) (field : String × Field) : List Path :=
  (field.2.parts (topAddress id field)).map Part.path

theorem topPaths_of_isUid (id : String) {field : String × Field} (h : field.2.isUid = true) :
    topPaths id field = [[id, field.1]] := by
  obtain ⟨extra, hleaf⟩ := Field.exists_of_isUid h
  rw [topPaths, topAddress, if_pos h, hleaf, Field.parts]
  rfl

theorem prefix_of_mem_topPaths {id : String} {field : String × Field} {path : Path}
    (h : field.2.isUid = false) (hpath : path ∈ topPaths id field) :
    [id, "data"] ++ [field.1] <+: path := by
  obtain ⟨part, hpart, rfl⟩ := List.mem_map.mp hpath
  have := Part.isPrefix_path (prefix_of_mem_parts hpart)
  simpa [topAddress, h] using this

theorem own_mem_topPaths (id : String) {field : String × Field} (h : field.2.isUid = false) :
    [id, "data"] ++ [field.1] ∈ topPaths id field := by
  have := List.mem_map_of_mem (f := Part.path) (own_mem_parts (topAddress id field) field.2)
  simpa [topPaths, topAddress, h] using this

/-- Two top-level fields stand apart unless both stand in the data under one name. -/
theorem disjoint_topPaths_iff {id : String} {field other : String × Field}
    (h : ¬(field.2.isUid = true ∧ other.2.isUid = true)) :
    List.Disjoint (topPaths id field) (topPaths id other) ↔
      (field.2.isUid = false → other.2.isUid = false → field.1 ≠ other.1) := by
  -- the identifier's path is too short for the data
  have hshort {uid inner : String × Field} (huid : uid.2.isUid = true)
      (hinner : inner.2.isUid = false)
      {path : Path} (hp : path ∈ topPaths id uid) (hq : path ∈ topPaths id inner) : False := by
    rw [topPaths_of_isUid id huid, List.mem_singleton] at hp
    have := (prefix_of_mem_topPaths hinner hq).length_le
    rw [hp] at this
    simp at this
  cases hfield : field.2.isUid with
  | true =>
    have hother : other.2.isUid = false := by
      rw [← Bool.not_eq_true]
      exact fun hother => h ⟨hfield, hother⟩
    simp only [Bool.true_eq_false, false_implies, iff_true]
    exact fun path hp hq => hshort hfield hother hp hq
  | false =>
    cases hother : other.2.isUid with
    | true =>
      simp only [Bool.true_eq_false, false_implies, implies_true, iff_true]
      exact fun path hp hq => hshort hother hfield hq hp
    | false =>
      simp only [true_implies]
      constructor
      · intro hdisjoint heq
        have hown := own_mem_topPaths id hother
        rw [← heq] at hown
        exact hdisjoint (own_mem_topPaths id hfield) hown
      · intro hne path hp hq
        exact hne (segment_unique (prefix_of_mem_topPaths hfield hp)
          (prefix_of_mem_topPaths hother hq))

/-- A top-level field stands apart from the data and the root unless it is an identifier named as
the data. -/
theorem topPaths_ne_iff {id : String} {field : String × Field} :
    (∀ path ∈ topPaths id field, ∀ other ∈ [[id, "data"], [id]], path ≠ other) ↔
      (field.2.isUid = true → field.1 ≠ "data") := by
  cases hfield : field.2.isUid with
  | true =>
    rw [topPaths_of_isUid id hfield]
    simp
  | false =>
    simp only [Bool.false_eq_true, false_implies, iff_true]
    intro path hpath other hother heq
    have hlength := (prefix_of_mem_topPaths hfield hpath).length_le
    rw [heq] at hlength
    rw [List.mem_cons, List.mem_singleton] at hother
    rcases hother with rfl | rfl <;> simp at hlength

/-- Of a list with one identifier at most, no two members are identifiers. -/
theorem pairwise_of_oneUid {fields : FieldMap}
    (h : fields.countP (fun field => field.2.isUid) ≤ 1) :
    fields.Pairwise fun field other => ¬(field.2.isUid = true ∧ other.2.isUid = true) := by
  induction fields with
  | nil => exact List.Pairwise.nil
  | cons field rest ih =>
    rw [List.countP_cons] at h
    refine List.pairwise_cons.mpr ⟨?_, ih (by omega)⟩
    rintro other hother ⟨hfield, huid⟩
    have hpos : 0 < rest.countP fun field => field.2.isUid :=
      List.countP_pos_iff.mpr ⟨other, hother, huid⟩
    rw [if_pos hfield] at h
    omega

/-- Fields that stand in the data pairwise under different names. -/
def NamesApart (fields : FieldMap) : Prop :=
  fields.Pairwise fun field other =>
    field.2.isUid = false → other.2.isUid = false → field.1 ≠ other.1

/-- Names within one tab are distinct, so only different tabs can share one. -/
theorem namesApart_iff {type : CustomType} (h : ∀ tab ∈ type.tabs, Keyed.Distinct tab.2) :
    NamesApart type.fields ↔ type.TabsApart := by
  rw [NamesApart, CustomType.fields, List.pairwise_flatMap]
  refine and_iff_right fun tab htab => ?_
  have hdistinct := h tab htab
  rw [Keyed.Distinct, Keyed.keys, List.nodup_iff_pairwise_ne, List.pairwise_map] at hdistinct
  exact hdistinct.imp fun hne _ _ => hne

/-- A custom type repeats no path when its fields do not and the identifier stands apart from the
data. -/
theorem nodup_top_iff {id : String} {type : CustomType} :
    ((type.parts id).map Part.path).Nodup ↔
      (type.fields.flatMap (topPaths id)).Nodup ∧ type.UidApart := by
  have hpaths : (type.parts id).map Part.path =
      type.fields.flatMap (topPaths id) ++ [[id, "data"], [id]] := by
    rw [CustomType.parts, List.map_append, List.map_flatMap]
    rfl
  have hends : (∀ path ∈ type.fields.flatMap (topPaths id), ∀ other ∈ [[id, "data"], [id]],
      path ≠ other) ↔ type.UidApart := by
    rw [List.forall_mem_flatMap]
    exact forall₂_congr fun field _ => topPaths_ne_iff
  have hlast : ([[id, "data"], [id]] : List Path).Nodup := by simp
  rw [hpaths, List.nodup_append, hends, and_iff_right hlast]

/-- **When a custom type with one identifier at most repeats no path.** -/
theorem nodup_customType_iff {id : String} {type : CustomType} (hone : type.OneUid)
    (hkeys : type.KeysDistinct) :
    ((type.parts id).map Part.path).Nodup ↔
      type.TabsApart ∧ type.UidApart ∧ type.ThumbnailsApart := by
  have hinside : (∀ field ∈ type.fields, (topPaths id field).Nodup) ↔ type.ThumbnailsApart := by
    have hnested := hkeys.2
    rw [CustomType.nested, forall_mem_nestedFields] at hnested
    rw [CustomType.ThumbnailsApart, CustomType.nested, forall_mem_nestedFields]
    exact forall₂_congr fun field hfield => nodup_parts_iff field.2 _ (hnested field hfield)
  have hbetween : type.fields.Pairwise (fun field other =>
      List.Disjoint (topPaths id field) (topPaths id other)) ↔ type.TabsApart := by
    rw [← namesApart_iff hkeys.1, NamesApart]
    have hone := pairwise_of_oneUid hone
    constructor
    · exact fun h => (hone.and h).imp fun hab => (disjoint_topPaths_iff hab.1).mp hab.2
    · exact fun h => (hone.and h).imp fun hab => (disjoint_topPaths_iff hab.1).mpr hab.2
  rw [nodup_top_iff, List.nodup_flatMap, hinside, hbetween]
  constructor
  · rintro ⟨⟨hthumbnails, htabs⟩, huid⟩
    exact ⟨htabs, huid, hthumbnails⟩
  · rintro ⟨htabs, huid, hthumbnails⟩
    exact ⟨⟨hthumbnails, htabs⟩, huid⟩

end ContentGraph
