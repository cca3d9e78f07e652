import ContentGraph.Proofs.Materialization.Images
import ContentGraph.Proofs.Materialization.Walked

/-!
# The records inside of a value

The field records directly inside of a walked value, in the order in which the walk comes to them:
the value itself, the elements of a group, the halves of slices.  They lie apart from each other,
and their fields are smaller than the value.

* `InnerRecord`, `Registry.recordsIn` — the records, with `mem_recordsIn` to tell which they are;
* `Location.Apart`, `Registry.pairwise_recordsIn` — no two of them share a part;
* `sizeOf_lt_of_mem_recordsIn` — their fields are smaller.
-/

namespace ContentGraph

/-! ### Locations apart -/

/-- Nothing lies below both locations. -/
def Location.Apart (a b : Location) : Prop := ∀ location, a <+: location → ¬b <+: location

/-- Locations that take different steps are apart. -/
theorem Location.apart_of_step (outer : Location) {a b : Location} {s t : Step} (hne : s ≠ t)
    (ha : outer ++ [s] <+: a) (hb : outer ++ [t] <+: b) : a.Apart b := by
  intro location hfirst hsecond
  have hle : (outer ++ [s]).length ≤ (outer ++ [t]).length := by simp
  have hprefix := List.prefix_of_prefix_length_le (ha.trans hfirst) (hb.trans hsecond) hle
  have heq : outer ++ [s] = outer ++ [t] := hprefix.eq_of_length (by simp)
  exact hne (by simpa using heq)

/-! ### Records -/

/-- A field record inside of a value: where it stands, what the paths of its fields start with, and
its members. -/
structure InnerRecord where
  location : Location
  below : Path
  members : List (String × Json)

/-- The records among elements that stand at a location. -/
def elementRecords (location : Location) (below : Path) (elements : List Json) : List InnerRecord :=
  elements.zipIdx.filterMap fun element =>
    element.1.members?.map fun members => ⟨location ++ [Step.element element.2], below, members⟩

/-- The records in a member of a slice. -/
def halfRecords (location : Location) (choice : Path) (name : String) : Json → List InnerRecord
  | .object members =>
    if name = "primary" then [⟨location ++ [Step.member name], choice ++ [name], members⟩] else []
  | .array items =>
    if name = "items" then elementRecords (location ++ [Step.member name]) (choice ++ [name]) items
      else []
  | _ => []

/-- The records in a slice of the zone at a path. -/
def sliceRecords (location : Location) (zone : Path) : Json → List InnerRecord
  | .object slice =>
    match (Keyed.get? "slice_type" slice).bind Json.asString? with
    | some choice =>
      slice.flatMap fun member => halfRecords location (zone ++ [choice]) member.1 member.2
    | none => []
  | _ => []

/-- The records directly inside of the value at a path. -/
def Registry.recordsIn (registry : Registry) (path : Path) : Json → List InnerRecord
  | .object members => if registry.kindAt? path = some .data then [⟨[], path, members⟩] else []
  | .array elements =>
    if registry.kindAt? path = some .group then elementRecords [] path elements
    else if registry.kindAt? path = some .slices then
      elements.zipIdx.flatMap fun element => sliceRecords [.element element.2] path element.1
    else []
  | _ => []

variable {registry : Registry} {path choice zone below : Path} {value half element : Json}
  {location : Location}
  {elements : List Json} {members slice : List (String × Json)} {record : InnerRecord}
  {name key : String}

/-! ### Which records there are -/

theorem Json.members?_eq_some_iff : value.members? = some members ↔ value = .object members := by
  cases value with
  | object found => simp [members?]
  | _ => simp [members?]

theorem mem_elementRecords :
    record ∈ elementRecords location below elements ↔
      ∃ index, elements[index]? = some (.object record.members) ∧
        record.location = location ++ [Step.element index] ∧ record.below = below := by
  obtain ⟨place, path, members⟩ := record
  simp only [elementRecords, List.mem_filterMap, Option.map_eq_some_iff, Json.members?_eq_some_iff,
    InnerRecord.mk.injEq]
  constructor
  · rintro ⟨⟨element, index⟩, hmem, found, rfl, rfl, rfl, rfl⟩
    exact ⟨index, List.mk_mem_zipIdx_iff_getElem?.mp hmem, rfl, rfl⟩
  · rintro ⟨index, hindex, rfl, rfl⟩
    exact ⟨(_, index), List.mk_mem_zipIdx_iff_getElem?.mpr hindex, members, rfl, rfl, rfl, rfl⟩

theorem mem_halfRecords :
    record ∈ halfRecords location choice name half ↔
      (name = "primary" ∧ half = .object record.members ∧
        record.location = location ++ [Step.member name] ∧
        record.below = choice ++ [name]) ∨
      name = "items" ∧ ∃ items, half = .array items ∧
        record ∈ elementRecords (location ++ [Step.member name]) (choice ++ [name]) items := by
  obtain ⟨place, path, members⟩ := record
  cases half with
  | object found =>
    by_cases hname : name = "primary"
    · simp only [halfRecords, hname, ↓reduceIte, List.mem_singleton, InnerRecord.mk.injEq,
        Json.object.injEq]
      grind
    · simp [halfRecords, hname]
  | array items =>
    by_cases hname : name = "items"
    · simp [halfRecords, hname]
    · simp [halfRecords, hname]
  | _ => simp [halfRecords]

theorem mem_sliceRecords :
    record ∈ sliceRecords location zone element ↔
      ∃ slice choice name half, element = .object slice ∧
        (Keyed.get? "slice_type" slice).bind Json.asString? = some choice ∧ (name, half) ∈ slice ∧
        record ∈ halfRecords location (zone ++ [choice]) name half := by
  constructor
  · intro h
    cases element with
    | object slice =>
      rw [sliceRecords] at h
      split at h
      · next choice type =>
        obtain ⟨⟨name, half⟩, hmember, hrecord⟩ := List.mem_flatMap.mp h
        exact ⟨slice, choice, name, half, rfl, type, hmember, hrecord⟩
      · cases h
    | _ => cases h
  · rintro ⟨slice, choice, name, half, rfl, type, hmember, hrecord⟩
    simp only [sliceRecords, type]
    exact List.mem_flatMap.mpr ⟨(name, half), hmember, hrecord⟩

/-- The records that are listed, by the kind of the path. -/
theorem mem_recordsIn_iff :
    record ∈ registry.recordsIn path value ↔
      (registry.kindAt? path = some .data ∧ value = .object record.members ∧ record.location = [] ∧
        record.below = path) ∨
      (registry.kindAt? path = some .group ∧ ∃ elements, value = .array elements ∧
        record ∈ elementRecords [] path elements) ∨
      registry.kindAt? path = some .slices ∧ ∃ elements index element, value = .array elements ∧
        elements[index]? = some element ∧ record ∈ sliceRecords [.element index] path element := by
  obtain ⟨place, below, members⟩ := record
  cases value with
  | object found =>
    by_cases hkind : registry.kindAt? path = some .data
    · simp only [Registry.recordsIn, hkind, ↓reduceIte, List.mem_singleton, InnerRecord.mk.injEq,
        Json.object.injEq]
      grind
    · simp [Registry.recordsIn, hkind]
  | array elements =>
    by_cases hgroup : registry.kindAt? path = some .group
    · simp [Registry.recordsIn, hgroup]
    · by_cases hslices : registry.kindAt? path = some .slices
      · simp [Registry.recordsIn, hslices, List.mem_flatMap, List.mk_mem_zipIdx_iff_getElem?]
        grind
      · simp [Registry.recordsIn, hgroup, hslices]
  | _ => simp [Registry.recordsIn]

/-- Records that are said to be inside of a value are listed. -/
theorem Registry.RecordIn.mem_recordsIn {inner : Location}
    (h : registry.RecordIn path value inner below members) :
    ⟨inner, below, members⟩ ∈ registry.recordsIn path value := by
  rw [mem_recordsIn_iff]
  cases h with
  | data kind => exact .inl ⟨kind, rfl, rfl, rfl⟩
  | element kind element =>
    exact .inr (.inl ⟨kind, _, rfl, mem_elementRecords.mpr ⟨_, element, rfl, rfl⟩⟩)
  | @primary elements index slice members choice kind element type half =>
    refine .inr (.inr ⟨kind, elements, index, _, rfl, element, ?_⟩)
    have hmember : ("primary", Json.object members) ∈ slice := Keyed.mem_of_get? half
    exact mem_sliceRecords.mpr
      ⟨slice, choice, _, _, rfl, type, hmember, mem_halfRecords.mpr (.inl ⟨rfl, rfl, rfl, rfl⟩)⟩
  | @item elements items index place slice members choice kind element type half item =>
    refine .inr (.inr ⟨kind, elements, index, _, rfl, element, ?_⟩)
    have hmember : ("items", Json.array items) ∈ slice := Keyed.mem_of_get? half
    have hitem :
        (⟨[.element index, .member "items", .element place],
          path ++ [choice] ++ ["items"], members⟩ :
        InnerRecord) ∈ elementRecords [.element index,
          .member "items"] (path ++ [choice] ++ ["items"]) items :=
      mem_elementRecords.mpr ⟨place, item, rfl, rfl⟩
    exact mem_sliceRecords.mpr
      ⟨slice, choice, _, _, rfl, type, hmember, mem_halfRecords.mpr (.inr ⟨rfl, items, rfl, hitem⟩)⟩

/-- **Which records are listed**: those that are said to be inside of the value. -/
theorem mem_recordsIn (wf : value.WellFormed) :
    record ∈ registry.recordsIn path value ↔
      registry.RecordIn path value record.location record.below record.members := by
  refine ⟨?_, fun h => h.mem_recordsIn⟩
  obtain ⟨place, below, members⟩ := record
  intro h
  rcases mem_recordsIn_iff.mp h with ⟨kind, rfl, rfl, rfl⟩ | ⟨kind, elements, rfl, hrecord⟩ |
    ⟨kind, elements, index, element, rfl, helement, hrecord⟩
  · exact .data kind
  · obtain ⟨index, helement, rfl, rfl⟩ := mem_elementRecords.mp hrecord
    exact .element kind helement
  · obtain ⟨slice, choice, name, half, rfl, type, hmember, hrecord⟩ := mem_sliceRecords.mp hrecord
    have hslice : (Json.object slice).WellFormed := wf.element (List.mem_of_getElem? helement)
    have hhalf : Keyed.get? name slice = some half := Keyed.get?_of_mem hslice.distinct hmember
    rcases mem_halfRecords.mp hrecord with ⟨rfl, rfl, rfl, rfl⟩ | ⟨rfl, items, rfl, hlisted⟩
    · exact .primary kind helement type hhalf
    · obtain ⟨index, hitem, rfl, rfl⟩ := mem_elementRecords.mp hlisted
      exact .item kind helement type hhalf hitem

/-- The records in a member of a slice stand below that member. -/
theorem prefix_of_mem_halfRecords (h : record ∈ halfRecords location choice name half) :
    location ++ [Step.member name] <+: record.location := by
  rcases mem_halfRecords.mp h with ⟨-, -, hlocation, -⟩ | ⟨-, items, -, hrecord⟩
  · exact hlocation ▸ List.prefix_refl _
  · obtain ⟨index, -, hlocation, -⟩ := mem_elementRecords.mp hrecord
    rw [hlocation]
    exact List.prefix_append _ _

/-- The records of a slice stand below it. -/
theorem prefix_of_mem_sliceRecords (h : record ∈ sliceRecords location zone element) :
    location <+: record.location := by
  obtain ⟨_, _, _, _, _, _, _, hrecord⟩ := mem_sliceRecords.mp h
  exact (List.prefix_append _ _).trans (prefix_of_mem_halfRecords hrecord)

/-! ### Records lie apart -/

/-- The indices of elements are distinct. -/
theorem pairwise_zipIdx {α : Type} (elements : List α) (start : Nat) :
    (elements.zipIdx start).Pairwise fun a b => a.2 ≠ b.2 := by
  have hnodup : ((elements.zipIdx start).map Prod.snd).Nodup := by
    rw [List.zipIdx_map_snd]
    exact List.nodup_range'
  exact List.pairwise_map.mp hnodup

theorem pairwise_elementRecords (location : Location) (below : Path) (elements : List Json) :
    (elementRecords location below elements).Pairwise fun a b => a.location.Apart b.location := by
  rw [elementRecords, List.pairwise_filterMap]
  refine (pairwise_zipIdx elements 0).imp ?_
  rintro ⟨a, i⟩ ⟨b, j⟩ hne record hrecord other hother
  obtain ⟨_, -, rfl⟩ := Option.map_eq_some_iff.mp hrecord
  obtain ⟨_, -, rfl⟩ := Option.map_eq_some_iff.mp hother
  have hstep : Step.element i ≠ Step.element j := by simpa using hne
  exact Location.apart_of_step location hstep (List.prefix_refl _) (List.prefix_refl _)

theorem pairwise_halfRecords (location : Location) (choice : Path) (name : String) (half : Json) :
    (halfRecords location choice name half).Pairwise fun a b => a.location.Apart b.location := by
  cases half with
  | object members =>
    rw [halfRecords]
    split
    · exact List.pairwise_singleton _ _
    · exact List.Pairwise.nil
  | array items =>
    rw [halfRecords]
    split
    · exact pairwise_elementRecords _ _ _
    · exact List.Pairwise.nil
  | _ => exact List.Pairwise.nil

theorem pairwise_sliceRecords (wf : element.WellFormed) :
    (sliceRecords location zone element).Pairwise fun a b => a.location.Apart b.location := by
  cases element with
  | object slice =>
    rw [sliceRecords]
    split
    · rw [List.pairwise_flatMap]
      refine ⟨fun member _ => pairwise_halfRecords _ _ _ _, ?_⟩
      have hdistinct : slice.Pairwise fun a b => a.1 ≠ b.1 := List.pairwise_map.mp wf.distinct
      refine hdistinct.imp ?_
      intro a b hne record hrecord other hother
      have hstep : Step.member a.1 ≠ Step.member b.1 := by simpa using hne
      exact Location.apart_of_step location hstep (prefix_of_mem_halfRecords hrecord)
        (prefix_of_mem_halfRecords hother)
    · exact List.Pairwise.nil
  | _ => exact List.Pairwise.nil

/-- **Records lie apart** from each other. -/
theorem Registry.pairwise_recordsIn (registry : Registry) (path : Path) (wf : value.WellFormed) :
    (registry.recordsIn path value).Pairwise fun a b => a.location.Apart b.location := by
  cases value with
  | object members =>
    rw [recordsIn]
    split
    · exact List.pairwise_singleton _ _
    · exact List.Pairwise.nil
  | array elements =>
    rw [recordsIn]
    split
    · exact pairwise_elementRecords _ _ _
    · split
      · rw [List.pairwise_flatMap]
        constructor
        · rintro ⟨element, index⟩ hmem
          exact pairwise_sliceRecords (wf.element (List.mem_of_getElem?
            (List.mk_mem_zipIdx_iff_getElem?.mp hmem)))
        · refine (pairwise_zipIdx elements 0).imp ?_
          rintro ⟨a, i⟩ ⟨b, j⟩ hne record hrecord other hother
          have hstep : Step.element i ≠ Step.element j := by simpa using hne
          exact Location.apart_of_step [] hstep (prefix_of_mem_sliceRecords hrecord)
            (prefix_of_mem_sliceRecords hother)
      · exact List.Pairwise.nil
  | _ => exact List.Pairwise.nil

/-! ### Fields are smaller -/

theorem sizeOf_lt_of_mem_members {field : String × Json} (h : field ∈ members) :
    sizeOf field.2 < sizeOf (Json.object members) := by
  have hpair := List.sizeOf_lt_of_mem h
  obtain ⟨name, field⟩ := field
  simp only [Prod.mk.sizeOf_spec, Json.object.sizeOf_spec] at hpair ⊢
  omega

theorem sizeOf_lt_of_mem_elements (h : element ∈ elements) :
    sizeOf element < sizeOf (Json.array elements) := by
  have helement := List.sizeOf_lt_of_mem h
  simp only [Json.array.sizeOf_spec]
  omega

theorem sizeOf_lt_of_mem_elementRecords (h : record ∈ elementRecords location below elements) :
    sizeOf (Json.object record.members) < sizeOf (Json.array elements) := by
  obtain ⟨index, helement, -, -⟩ := mem_elementRecords.mp h
  exact sizeOf_lt_of_mem_elements (List.mem_of_getElem? helement)

/-- **Fields are smaller** than the value whose record they are in. -/
theorem sizeOf_lt_of_mem_recordsIn (h : record ∈ registry.recordsIn path value)
    {field : String × Json} (hfield : field ∈ record.members) : sizeOf field.2 < sizeOf value := by
  have hsize := sizeOf_lt_of_mem_members hfield
  rcases mem_recordsIn_iff.mp h with ⟨-, rfl, -, -⟩ | ⟨-, elements, rfl, hrecord⟩ |
    ⟨-, elements, index, element, rfl, helement, hrecord⟩
  · exact hsize
  · have helements := sizeOf_lt_of_mem_elementRecords hrecord
    omega
  · obtain ⟨slice, choice, name, half, rfl, -, hmember, hrecord⟩ := mem_sliceRecords.mp hrecord
    have hslice := sizeOf_lt_of_mem_elements (List.mem_of_getElem? helement)
    have hhalf := sizeOf_lt_of_mem_members hmember
    rcases mem_halfRecords.mp hrecord with ⟨-, rfl, -, -⟩ | ⟨-, items, rfl, hitem⟩
    · simp only at hhalf
      omega
    · have hitems := sizeOf_lt_of_mem_elementRecords hitem
      simp only at hhalf
      omega

end ContentGraph
