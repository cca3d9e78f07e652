import ContentGraph.Proofs.Compilation.Emitted
import ContentGraph.Proofs.Schema.Distinct

/-!
# Looking up a compiled registry

A compiled registry is a list of all parts.  Below the address of a field it holds the parts of that
field and nothing else, and this passes from a container to whatever its keys name, so that a
look-up can be followed down the schema.

* `Registry.Holds` — below an address, a registry holds exactly certain parts;
* `Holds.field`, `Holds.choice`, `Holds.half` — the same one segment further down;
* `holds_subtree` — the same for every part inside a field;
* `kindAt?_eq`, `thumbnailNames_eq` — what look-ups find at the address of a field;
* `holds_data` — the data of a compiled custom type, where every descent starts;
* `kindAt?_top` — what stands beside the data.
-/

namespace ContentGraph

variable {registry : Registry} {typePrefix : String} {address : Address} {parts : List Part}

/-- Below the address the registry holds the entries of `parts`, in order, and no others. -/
def Registry.Holds (registry : Registry) (typePrefix : String) (address : Address)
    (parts : List Part) : Prop :=
  registry.below address.path = parts.map (Part.entry typePrefix)

namespace Registry.Holds

/-- Parts that a registry holds stand apart. -/
theorem nodup (h : registry.Holds typePrefix address parts) : (parts.map Part.path).Nodup := by
  have hsublist : (registry.below address.path).Sublist registry.entries := List.filter_sublist
  have hdistinct := registry.distinct.sublist (hsublist.map PathEntry.path)
  rw [h, List.map_map] at hdistinct
  exact hdistinct

/-- The part at the address is found there. -/
theorem get?_eq {shape : Shape} (h : registry.Holds typePrefix address parts)
    (hroot : Rooted address shape parts) :
    registry.get? address.path = some (Part.entry typePrefix ⟨address, shape⟩) := by
  have hmem : Part.entry typePrefix ⟨address, shape⟩ ∈ registry.below address.path := by
    rw [h]
    exact List.mem_map_of_mem hroot.own_mem
  exact get?_of_mem_below hmem

/-- Where nothing is held, nothing is held further down. -/
theorem nil (h : registry.Holds typePrefix address []) (more : Address) :
    registry.Holds typePrefix (address ++ more) [] := by
  rw [Holds, Address.path_append]
  exact below_append_of_nil h _

/-- **One segment down.**  Of branches under an address, the one whose key the segment is
remains. -/
theorem child {α : Type} {items : List (String × α)} {family : String × α → List Part}
    {shape : Shape}
    (h : registry.Holds typePrefix address (items.flatMap family ++ [⟨address, shape⟩]))
    (segment : String → Segment) (htext : ∀ name, (segment name).text = name)
    (rooted : ∀ item ∈ items, ∃ root, Rooted (address ++ [segment item.1]) root (family item))
    (distinct : Keyed.Distinct items) (name : String) :
    registry.Holds typePrefix (address ++ [segment name])
      (((Keyed.get? name items).map fun value => family (name, value)).getD []) := by
  have hown : ¬address.path ++ [name] <+: address.path := by
    intro hunder
    have := hunder.length_le
    rw [List.length_append, List.length_singleton] at this
    omega
  have hbranches : ∀ item ∈ items, ∀ entry ∈ (family item).map (Part.entry typePrefix),
      address.path ++ [item.1] <+: entry.path := by
    intro item hitem entry hentry
    obtain ⟨part, hpart, rfl⟩ := List.mem_map.mp hentry
    obtain ⟨root, hrooted⟩ := rooted item hitem
    rw [← Address.path_branch htext]
    exact Part.isPrefix_path (hrooted.isPrefix hpart)
  have hfamilies := filter_families address.path name hbranches distinct
  rw [Holds, Address.path_branch htext, below_append, h, List.map_append, List.filter_append,
    List.map_flatMap, hfamilies]
  rw [List.map_singleton, List.filter_singleton, Part.entry_path, Part.path_mk,
    decide_eq_false hown]
  cases Keyed.get? name items with
  | none => rfl
  | some value => simp

/-- From a record to one of its fields. -/
theorem field {fields : FieldMap} {shape : Shape}
    (h : registry.Holds typePrefix address (partsOfFields address fields ++ [⟨address, shape⟩]))
    (name : String) :
    registry.Holds typePrefix (address ++ [Segment.named name])
      (partsOfField? (address ++ [Segment.named name]) (Keyed.get? name fields)) := by
  have distinct : Keyed.Distinct fields := ((nodup_container_iff shape).mp h.nodup).1
  rw [partsOfFields_eq] at h
  exact h.child .named (fun _ => rfl) (fun field _ => ⟨_, rooted_parts _ field.2⟩) distinct name

/-- From a slice zone to one of its choices. -/
theorem choice {choices : List (String × Choice Field)} {shape : Shape}
    (h : registry.Holds typePrefix address (partsOfChoices address choices ++ [⟨address, shape⟩]))
    (name : String) :
    registry.Holds typePrefix (address ++ [Segment.named name])
      (partsOfChoice? (address ++ [Segment.named name]) (Keyed.get? name choices)) := by
  have distinct : Keyed.Distinct choices := ((nodup_zone_iff shape).mp h.nodup).1
  rw [partsOfChoices_eq] at h
  exact h.child .named (fun _ => rfl) (fun choice _ =>
    ⟨_, rooted_partsOfChoice _ choice.2⟩) distinct
    name

theorem field_of_mem {fields : FieldMap} {shape : Shape}
    (h : registry.Holds typePrefix address (partsOfFields address fields ++ [⟨address, shape⟩]))
    {field : String × Field} (hmem : field ∈ fields) :
    registry.Holds typePrefix (address ++ [Segment.named field.1])
      (field.2.parts (address ++ [Segment.named field.1])) := by
  have distinct : Keyed.Distinct fields := ((nodup_container_iff shape).mp h.nodup).1
  have hfield := h.field field.1
  rw [Keyed.get?_of_mem distinct hmem] at hfield
  exact hfield

theorem choice_of_mem {choices : List (String × Choice Field)} {shape : Shape}
    (h : registry.Holds typePrefix address (partsOfChoices address choices ++ [⟨address, shape⟩]))
    {choice : String × Choice Field} (hmem : choice ∈ choices) :
    registry.Holds typePrefix (address ++ [Segment.named choice.1])
      (partsOfChoice (address ++ [Segment.named choice.1]) choice.2) := by
  have distinct : Keyed.Distinct choices := ((nodup_zone_iff shape).mp h.nodup).1
  have hchoice := h.choice choice.1
  rw [Keyed.get?_of_mem distinct hmem] at hchoice
  exact hchoice

/-- From a choice to one of its halves. -/
theorem half {choice : Choice Field}
    (h : registry.Holds typePrefix address (partsOfChoice address choice))
    (half : String × List Part) (hhalf : half ∈ halves address choice) :
    registry.Holds typePrefix (address ++ [Segment.structural half.1]) half.2 := by
  have distinct : Keyed.Distinct (halves address choice) := by
    simp [halves, Keyed.Distinct, Keyed.keys]
  rw [partsOfChoice_eq] at h
  have hchild := h.child .structural (fun _ => rfl) (fun _ => rooted_halves) distinct half.1
  rw [Keyed.get?_of_mem distinct hhalf] at hchild
  exact hchild

theorem primary {choice : Choice Field}
    (h : registry.Holds typePrefix address (partsOfChoice address choice)) :
    registry.Holds typePrefix (address ++ [Segment.structural "primary"])
      (partsOfFields (address ++ [Segment.structural "primary"]) choice.primary
        ++ [⟨address ++ [Segment.structural "primary"], .primary choice.primary⟩]) :=
  h.half ("primary", _) List.mem_cons_self

theorem items {choice : Choice Field}
    (h : registry.Holds typePrefix address (partsOfChoice address choice)) :
    registry.Holds typePrefix (address ++ [Segment.structural "items"])
      (partsOfFields (address ++ [Segment.structural "items"]) choice.items
        ++ [⟨address ++ [Segment.structural "items"], .items choice.items⟩]) :=
  h.half ("items", _) (List.mem_cons_of_mem _ List.mem_cons_self)

/-- A thumbnail of an image is held alone. -/
theorem thumbnail {thumbnails : List ThumbnailSpec} {extra : ExtraMembers}
    (h : registry.Holds typePrefix address ((Field.image thumbnails extra).parts address))
    {spec : ThumbnailSpec} (hspec : spec ∈ thumbnails) :
    registry.Holds typePrefix (address ++ [Segment.structural "thumbnails", .named spec.name])
      [⟨address ++ [Segment.structural "thumbnails", .named spec.name], .thumbnail⟩] := by
  have hpath : Address.path (address ++ [Segment.structural "thumbnails", .named spec.name]) =
      address.path ++ ["thumbnails", spec.name] := Address.path_append _ _
  have hmem : Part.entry typePrefix
      ⟨address ++ [Segment.structural "thumbnails", .named spec.name],
        .thumbnail⟩ ∈ registry.entries := by
    have hparts := List.mem_map_of_mem
      (f := fun spec : ThumbnailSpec =>
        (⟨address ++ [Segment.structural "thumbnails", .named spec.name], .thumbnail⟩ : Part)) hspec
    have hbelow := List.mem_map_of_mem (f := Part.entry typePrefix)
      (List.mem_cons_of_mem ⟨address, .image thumbnails⟩ hparts)
    rw [Holds, Field.parts] at h
    rw [← h] at hbelow
    exact (mem_below.mp hbelow).1
  rw [Holds, List.map_singleton, ← filter_path_of_mem hmem, below]
  refine List.filter_congr fun entry hentry => ?_
  rw [Part.entry_path, Part.path_mk, hpath, decide_eq_decide]
  constructor
  · intro hunder
    have hbelow : entry ∈ registry.below address.path :=
      mem_below.mpr ⟨hentry, (List.prefix_append _ _).trans hunder⟩
    -- what stands below the image is the image, too short, or a thumbnail, of the same length
    rw [h, Field.parts, List.map_cons, List.mem_cons, List.map_map, List.mem_map] at hbelow
    rcases hbelow with rfl | ⟨other, _, rfl⟩
    · have := hunder.length_le
      rw [List.length_append, Part.entry_path, Part.path_mk, List.length_cons] at this
      omega
    · have hlength : ((Part.entry typePrefix ∘ fun spec : ThumbnailSpec =>
          ⟨address ++ [Segment.structural "thumbnails", .named spec.name], .thumbnail⟩)
            other).path =
            address.path ++ ["thumbnails", other.name] := Address.path_append _ _
      rw [hlength] at hunder ⊢
      exact (hunder.eq_of_length (by simp)).symm
  · intro heq
    exact ⟨[], by rw [List.append_nil, heq]⟩

end Registry.Holds

/-! ### What look-ups find -/

/-- A field is registered with its kind. -/
theorem kind_entry (typePrefix : String) (address : Address) (field : Field) :
    (Part.entry typePrefix ⟨address, field.shape⟩).kind = field.pathKind := by
  have h := registerField_eq ⟨typePrefix⟩ address field
  rw [registerField, Emission.register.injEq] at h
  exact (congrArg PathEntry.kind h).symm

namespace Registry.Holds

/-- **The kind at the address of a field** is the field's kind, and none where there is no field. -/
theorem kindAt?_eq {field : Option Field}
    (h : registry.Holds typePrefix address (partsOfField? address field)) :
    registry.kindAt? address.path = field.map Field.pathKind := by
  cases field with
  | none =>
    rw [kindAt?, get?_eq_none_of_below h]
    rfl
  | some field =>
    have hget : registry.get? address.path = some (Part.entry typePrefix ⟨address, field.shape⟩) :=
      h.get?_eq (rooted_parts address field)
    rw [kindAt?, hget, Option.map_some, kind_entry, Option.map_some]

/-- **The thumbnails found for an image** are those it lists. -/
theorem thumbnailNames_eq {thumbnails : List ThumbnailSpec} {extra : ExtraMembers}
    (h : registry.Holds typePrefix address ((Field.image thumbnails extra).parts address)) :
    registry.thumbnailNames address.path = thumbnails.map ThumbnailSpec.name := by
  have hown :
      thumbnailName? address.path (Part.entry typePrefix ⟨address, .image thumbnails⟩) = none := by
    rw [Option.eq_none_iff_forall_ne_some]
    intro name hname
    cases (thumbnailName?_eq_some_iff.mp hname).1
  have hspec : ∀ spec : ThumbnailSpec, thumbnailName? address.path (Part.entry typePrefix
      ⟨address ++ [Segment.structural "thumbnails", .named spec.name], .thumbnail⟩) =
        some spec.name :=
    fun spec => thumbnailName?_eq_some_iff.mpr ⟨rfl, Address.path_append _ _⟩
  rw [thumbnailNames, filterMap_below _ _ _ fun _ => thumbnailName?_eq_none, h, Field.parts,
    List.map_cons, List.filterMap_cons_none hown, List.map_map, List.filterMap_map,
    ← List.filterMap_eq_map]
  exact List.filterMap_congr fun spec _ => hspec spec

end Registry.Holds

/-! ### Every part is held -/

/-- The parts at and below a part that lies inside a field, where no root does. -/
def Part.subtree (part : Part) : List Part :=
  match part.shape with
  | .document _ => []
  | .leaf _ | .thumbnail => [part]
  | .image thumbnails => (Field.image thumbnails []).parts part.address
  | .group fields | .primary fields | .items fields | .data fields =>
    partsOfFields part.address fields ++ [part]
  | .slices choices => partsOfChoices part.address choices ++ [part]
  | .choice choice => partsOfChoice part.address choice

/-- **A field that is held is held part by part.** -/
theorem holds_subtree {field : Field} :
    ∀ {address : Address}, registry.Holds typePrefix address (field.parts address) →
      ∀ part ∈ field.parts address, registry.Holds typePrefix part.address part.subtree := by
  -- the same for a record, given its fields
  have lift : ∀ {address : Address} {fields : FieldMap} {shape : Shape},
      (∀ field ∈ fields, ∀ {address : Address},
        registry.Holds typePrefix address (field.2.parts address) →
          ∀ part ∈ field.2.parts address, registry.Holds typePrefix part.address part.subtree) →
      registry.Holds typePrefix address (partsOfFields address fields ++ [⟨address, shape⟩]) →
        ∀ part ∈ partsOfFields address fields,
          registry.Holds typePrefix part.address part.subtree := by
    intro address fields shape ih h part hpart
    obtain ⟨field, hfield, hmem⟩ := mem_partsOfFields.mp hpart
    exact ih field hfield (h.field_of_mem hfield) part hmem
  induction field using Field.induction with
  | leaf kind extra =>
    intro address h part hpart
    rw [Field.parts, List.mem_singleton] at hpart
    subst hpart
    rwa [Field.parts] at h
  | image thumbnails extra =>
    intro address h part hpart
    rw [Field.parts, List.mem_cons, List.mem_map] at hpart
    rcases hpart with rfl | ⟨spec, hspec, rfl⟩
    · change registry.Holds typePrefix address ((Field.image thumbnails []).parts address)
      rw [Field.parts] at h ⊢
      exact h
    · exact h.thumbnail hspec
  | group fields extra ih =>
    intro address h part hpart
    rw [Field.parts] at h hpart
    rcases List.mem_append.mp hpart with hpart | hpart
    · exact lift ih h part hpart
    · rw [List.mem_singleton] at hpart
      subst hpart
      exact h
  | slices choices extra ih =>
    intro address h part hpart
    rw [Field.parts] at h hpart
    rcases List.mem_append.mp hpart with hpart | hpart
    · obtain ⟨choice, hchoice, hmem⟩ := mem_partsOfChoices.mp hpart
      have hheld := h.choice_of_mem hchoice
      rcases mem_partsOfChoice.mp hmem with (hmem | rfl) | (hmem | rfl) | rfl
      · exact lift (ih choice hchoice).1 hheld.primary part hmem
      · exact hheld.primary
      · exact lift (ih choice hchoice).2 hheld.items part hmem
      · exact hheld.items
      · exact hheld
    · rw [List.mem_singleton] at hpart
      subst hpart
      exact h

/-! ### The top of a compiled registry -/

variable {naming : TypeNaming} {id : String} {type : CustomType} {compiled : CompiledType}

/-- The identifier of a compiled custom type is not named as the data. -/
theorem uidApart_of_compile (h : compile naming id type = .ok compiled) : type.UidApart :=
  (nodup_top_iff.mp (exists_compile_iff.mp ⟨compiled, h⟩).2.2).2

/-- Of the top-level fields, those inside the data stand below it. -/
theorem filter_topFields (typePrefix id : String) {fields : FieldMap}
    (h : ∀ field ∈ fields, field.2.isUid = true → field.1 ≠ "data") :
    ((fields.flatMap fun field => field.2.parts (topAddress id field)).map
        (Part.entry typePrefix)).filter (fun entry => [id, "data"] <+: entry.path) =
      (partsOfFields [.named id, .structural "data"]
        (fields.filter fun field => !field.2.isUid)).map (Part.entry typePrefix) := by
  induction fields with
  | nil => rfl
  | cons field rest ih =>
    have hrest := ih fun field hfield => h field (List.mem_cons_of_mem _ hfield)
    rw [List.flatMap_cons, List.map_append, List.filter_append, hrest]
    cases huid : field.2.isUid with
    | true =>
      have hne := h field List.mem_cons_self huid
      rw [List.filter_cons_of_neg (by simp [huid]), List.filter_eq_nil_iff.mpr, List.nil_append]
      intro entry hentry hunder
      obtain ⟨part, hpart, rfl⟩ := List.mem_map.mp hentry
      have hpath : part.path = [id, field.1] := by
        have := List.mem_map_of_mem (f := Part.path) hpart
        rw [← topPaths, topPaths_of_isUid id huid, List.mem_singleton] at this
        exact this
      rw [Part.entry_path, hpath] at hunder
      have heq := (of_decide_eq_true hunder).eq_of_length rfl
      simp only [List.cons.injEq, and_true, true_and] at heq
      exact hne heq.symm
    | false =>
      rw [List.filter_cons_of_pos (by simp [huid]), partsOfFields, List.map_append,
        List.filter_eq_self.mpr]
      · simp [topAddress, huid]
      · intro entry hentry
        obtain ⟨part, hpart, rfl⟩ := List.mem_map.mp hentry
        have hunder := prefix_of_mem_topPaths huid (List.mem_map_of_mem (f := Part.path) hpart)
        exact decide_eq_true ((List.prefix_append _ _).trans hunder)

/-- **The data of a compiled custom type** is held as the fields of all tabs but the identifier. -/
theorem holds_data (h : compile naming id type = .ok compiled) :
    compiled.paths.Holds naming.typePrefix [.named id, .structural "data"]
      (partsOfFields [.named id, .structural "data"] type.dataFields
        ++ [⟨[.named id, .structural "data"], .data type.dataFields⟩]) := by
  have htop := filter_topFields naming.typePrefix id (uidApart_of_compile h)
  -- of the two containers at the top, only the data stands below its own path
  have hlast : ([(⟨[.named id, .structural "data"], .data type.dataFields⟩ : Part),
      ⟨[.named id], .document type.uid?⟩].map (Part.entry naming.typePrefix)).filter
        (fun entry => [id, "data"] <+: entry.path) =
      [(⟨[.named id, .structural "data"], .data type.dataFields⟩ : Part)].map
        (Part.entry naming.typePrefix) := by simp
  rw [Registry.Holds, Registry.below, (compile_ok h).2, CustomType.parts, List.map_append,
    List.filter_append, List.map_append]
  exact congrArg₂ (· ++ ·) htop hlast

/-- A kind found at a path is registered for a part that stands there. -/
theorem exists_part_of_kindAt? (h : compile naming id type = .ok compiled) {path : Path}
    {kind : PathKind} (hkind : compiled.paths.kindAt? path = some kind) :
    ∃ part ∈ type.parts id, part.path = path ∧ (part.entry naming.typePrefix).kind = kind := by
  rw [Registry.kindAt?, Option.map_eq_some_iff] at hkind
  obtain ⟨entry, hget, rfl⟩ := hkind
  obtain ⟨hentry, rfl⟩ := Registry.get?_eq_some_iff.mp hget
  rw [(compile_ok h).2] at hentry
  obtain ⟨part, hpart, rfl⟩ := List.mem_map.mp hentry
  exact ⟨part, hpart, (Part.entry_path _ part).symm, rfl⟩

/-- **Beside the data** there is only the identifier, and nothing stands under another type. -/
theorem kindAt?_top (h : compile naming id type = .ok compiled) {found key : String}
    {kind : PathKind} (hkind : compiled.paths.kindAt? [found, key] = some kind) :
    found = id ∧ (key = "data" ∨ kind = .uid) := by
  obtain ⟨part, hpart, hpath, rfl⟩ := exists_part_of_kindAt? h hkind
  rcases CustomType.mem_parts_cases hpart with ⟨name, rfl⟩ | ⟨field, -, hmem⟩ | rfl | rfl
  · cases hpath
    exact ⟨rfl, Or.inr rfl⟩
  · -- inside the data paths are longer
    have hlength := (Part.isPrefix_path (prefix_of_mem_parts hmem)).length_le
    rw [hpath] at hlength
    simp at hlength
  · cases hpath
    exact ⟨rfl, Or.inl rfl⟩
  · cases hpath

end ContentGraph
