import ContentGraph.Proofs.Compilation.Lookup
import Mathlib.Data.List.Basic

/-!
# What is registered one segment down

The fields of a declared object are to be compared with the entries one segment below a container.
Those are its children, read off the registry in order of registration.

* `Registry.children` — the segments and the types one segment below a path;
* `children_record`, `children_zone`, `children_choice` — the children of each container that a
  registry holds;
* `children_document` — those of the root of a compiled custom type.
-/

namespace ContentGraph

namespace Registry

/-- The segment and the type of an entry one segment below a path. -/
def childOf? (path : Path) (entry : PathEntry) : Option (String × String) :=
  match path.isPrefixOf? entry.path with
  | some [key] => some (key, entry.typeName)
  | _ => none

/-- The segments and the types one segment below a path, in order of registration. -/
def children (registry : Registry) (path : Path) : List (String × String) :=
  registry.entries.filterMap (childOf? path)

theorem childOf?_eq_some_iff {path : Path} {entry : PathEntry} {child : String × String} :
    childOf? path entry = some child ↔
      entry.path = path ++ [child.1] ∧ entry.typeName = child.2 := by
  obtain ⟨key, typeName⟩ := child
  rw [childOf?]
  constructor
  · intro h
    split at h
    · next hunder =>
      cases h
      exact ⟨(List.isPrefixOf?_eq_some_iff_append_eq.mp hunder).symm, rfl⟩
    · cases h
  · rintro ⟨hpath, rfl⟩
    rw [List.isPrefixOf?_eq_some_iff_append_eq.mpr hpath.symm]

/-- An entry that is not one segment below a path is no child. -/
theorem childOf?_eq_none {path : Path} {entry : PathEntry}
    (h : entry.path.length ≠ path.length + 1) : childOf? path entry = none := by
  rw [Option.eq_none_iff_forall_ne_some]
  intro child hchild
  rw [(childOf?_eq_some_iff.mp hchild).1, List.length_append, List.length_singleton] at h
  exact h rfl

end Registry

/-! ### Children of held parts -/

variable {registry : Registry} {typePrefix : String} {address : Address}

/-- The child that a part one segment down is. -/
def Part.child (typePrefix : String) (address : Address) (segment : Segment) (shape : Shape) :
    String × String :=
  (segment.text, (registered typePrefix ⟨address ++ [segment], shape⟩).1)

/-- Of parts rooted one segment down, the root alone is a child. -/
theorem children_rooted {segment : Segment} {shape : Shape} {parts : List Part}
    (h : Rooted (address ++ [segment]) shape parts) :
    (parts.map (Part.entry typePrefix)).filterMap (Registry.childOf? address.path) =
      [Part.child typePrefix address segment shape] := by
  obtain ⟨before, after, rfl, hbelow⟩ := h
  have hnone : ∀ part ∈ before ++ after,
      Registry.childOf? address.path (part.entry typePrefix) = none := by
    intro part hpart
    obtain ⟨next, hunder⟩ := hbelow part hpart
    have hlength := hunder.length_le
    refine Registry.childOf?_eq_none ?_
    simp only [List.length_append, List.length_singleton] at hlength
    simp only [Part.entry_path, Part.path, Address.path, List.length_map]
    omega
  have hown : Registry.childOf? address.path (Part.entry typePrefix ⟨address ++ [segment], shape⟩) =
      some (Part.child typePrefix address segment shape) :=
    Registry.childOf?_eq_some_iff.mpr ⟨Address.path_append _ _, rfl⟩
  have hbefore :
      (before.map (Part.entry typePrefix)).filterMap (Registry.childOf? address.path) = [] := by
    rw [List.filterMap_map, List.filterMap_eq_nil_iff]
    exact fun part hpart => hnone part (List.mem_append_left _ hpart)
  have hafter :
      (after.map (Part.entry typePrefix)).filterMap (Registry.childOf? address.path) = [] := by
    rw [List.filterMap_map, List.filterMap_eq_nil_iff]
    exact fun part hpart => hnone part (List.mem_append_right _ hpart)
  rw [List.map_append, List.map_cons, List.filterMap_append, List.filterMap_cons_some hown, hbefore,
    hafter, List.nil_append]

/-- The children of a container are the roots of its branches. -/
theorem children_branches {α : Type} {items : List α} {family : α → List Part} {shape : Shape}
    (segment : α → Segment) (root : α → Shape)
    (h : registry.Holds typePrefix address (items.flatMap family ++ [⟨address, shape⟩]))
    (rooted : ∀ item ∈ items, Rooted (address ++ [segment item]) (root item) (family item)) :
    registry.children address.path =
      items.map fun item => Part.child typePrefix address (segment item) (root item) := by
  have hbelow : ∀ entry : PathEntry, ¬address.path <+: entry.path →
      Registry.childOf? address.path entry = none := by
    intro entry hentry
    rw [Option.eq_none_iff_forall_ne_some]
    intro child hchild
    exact hentry ⟨[child.1], (Registry.childOf?_eq_some_iff.mp hchild).1.symm⟩
  have hown : Registry.childOf? address.path (Part.entry typePrefix ⟨address, shape⟩) = none := by
    refine Registry.childOf?_eq_none ?_
    rw [Part.entry_path, Part.path_mk]
    omega
  rw [Registry.children, Registry.filterMap_below _ _ _ hbelow, h, List.map_append,
    List.filterMap_append, List.map_singleton, List.filterMap_cons_none hown, List.filterMap_nil,
    List.append_nil, List.map_flatMap, List.filterMap_flatMap, List.map_eq_flatMap]
  exact List.flatMap_congr fun item hitem => children_rooted (rooted item hitem)

/-- The children of a record are its fields. -/
theorem children_record {fields : FieldMap} {shape : Shape}
    (h : registry.Holds typePrefix address (partsOfFields address fields ++ [⟨address, shape⟩])) :
    registry.children address.path =
      fields.map fun field => Part.child typePrefix address (.named field.1) field.2.shape := by
  rw [partsOfFields_eq] at h
  exact children_branches (fun field => .named field.1) (fun field => field.2.shape) h
    fun field _ => rooted_parts _ field.2

/-- The children of a slice zone are its choices. -/
theorem children_zone {choices : List (String × Choice Field)} {shape : Shape}
    (h : registry.Holds typePrefix address (partsOfChoices address choices ++ [⟨address, shape⟩])) :
    registry.children address.path =
      choices.map fun choice => Part.child typePrefix address (.named choice.1)
        (.choice choice.2) := by
  rw [partsOfChoices_eq] at h
  exact children_branches (fun choice => .named choice.1) (fun choice => .choice choice.2) h
    fun choice _ => rooted_partsOfChoice _ choice.2

/-- The children of a choice are its halves. -/
theorem children_choice {choice : Choice Field}
    (h : registry.Holds typePrefix address (partsOfChoice address choice)) :
    registry.children address.path =
      [Part.child typePrefix address (.structural "primary") (.primary choice.primary),
        Part.child typePrefix address (.structural "items") (.items choice.items)] := by
  obtain ⟨primary, items, extra⟩ := choice
  have hhalves : partsOfChoice address ⟨primary, items, extra⟩ =
      [(Segment.structural "primary", Shape.primary primary, primary),
          (.structural "items", .items items, items)].flatMap (fun half =>
        partsOfFields (address ++ [half.1]) half.2.2 ++ [⟨address ++ [half.1], half.2.1⟩])
        ++ [⟨address, .choice ⟨primary, items, extra⟩⟩] := by
    simp [partsOfChoice]
  rw [hhalves] at h
  exact children_branches (fun half => half.1) (fun half => half.2.1) h
    fun half _ => rooted_container _ half.2.1 half.2.2

/-! ### Children of the root -/

variable {naming : TypeNaming} {id : String} {type : CustomType} {compiled : CompiledType}

/-- One identifier at most is what a search finds. -/
theorem filter_isUid (h : type.OneUid) :
    type.fields.filter (fun field => field.2.isUid) = type.uid?.toList := by
  have hlength : (type.fields.filter fun field => field.2.isUid).length ≤ 1 := by
    rwa [← List.countP_eq_length_filter]
  rw [CustomType.uid?, ← List.head?_filter]
  generalize type.fields.filter (fun field => field.2.isUid) = uids at hlength
  cases uids with
  | nil => rfl
  | cons uid rest =>
    have hrest : rest = [] := by
      rw [List.length_cons] at hlength
      exact List.length_eq_zero_iff.mp (by omega)
    rw [hrest]
    rfl

/-- Of a top-level field, the root sees the identifier alone. -/
theorem children_topField (typePrefix id : String) (field : String × Field) :
    ((field.2.parts (topAddress id field)).map (Part.entry typePrefix)).filterMap
        (Registry.childOf? (Address.path [.named id])) =
      if field.2.isUid then [Part.child typePrefix [.named id] (.named field.1) field.2.shape]
      else [] := by
  cases huid : field.2.isUid with
  | true =>
    rw [topAddress, if_pos huid, if_pos rfl]
    have hrooted : Rooted ([Segment.named id] ++ [Segment.named field.1]) field.2.shape
        (field.2.parts [.named id, .named field.1]) := rooted_parts _ field.2
    exact children_rooted hrooted
  | false =>
    rw [if_neg Bool.false_ne_true, List.filterMap_map, List.filterMap_eq_nil_iff]
    intro part hpart
    have hunder := prefix_of_mem_topPaths huid (List.mem_map_of_mem (f := Part.path) hpart)
    have hlength := hunder.length_le
    refine Registry.childOf?_eq_none ?_
    simp only [Part.entry_path, Address.path, List.length_map, List.length_append, List.length_cons,
      List.length_nil] at hlength ⊢
    omega

theorem children_topFields (typePrefix id : String) (fields : FieldMap) :
    ((fields.flatMap fun field => field.2.parts (topAddress id field)).map
        (Part.entry typePrefix)).filterMap (Registry.childOf? [id]) =
      (fields.filter fun field => field.2.isUid).map fun field =>
        Part.child typePrefix [.named id] (.named field.1) field.2.shape := by
  induction fields with
  | nil => rfl
  | cons field rest ih =>
    have hfield := children_topField typePrefix id field
    rw [Address.path_named, Address.path_nil] at hfield
    rw [List.flatMap_cons, List.map_append, List.filterMap_append, ih, hfield]
    cases huid : field.2.isUid with
    | true => simp [huid]
    | false => simp [huid]

/-- **The children of the root** are the identifier, if there is one, and the data. -/
theorem children_document (h : compile naming id type = .ok compiled) :
    compiled.paths.children [id] =
      type.uid?.toList.map (fun field =>
        Part.child naming.typePrefix [.named id] (.named field.1) field.2.shape)
      ++ [Part.child naming.typePrefix [.named id] (.structural "data")
        (.data type.dataFields)] := by
  have hone : type.OneUid := (exists_compile_iff.mp ⟨compiled, h⟩).1
  have htop : ((type.fields.flatMap fun field => field.2.parts (topAddress id field)).map
      (Part.entry naming.typePrefix)).filterMap (Registry.childOf? [id]) =
        type.uid?.toList.map fun field =>
          Part.child naming.typePrefix [.named id] (.named field.1) field.2.shape := by
    rw [children_topFields, filter_isUid hone]
  have hdata : Registry.childOf? [id]
      (Part.entry naming.typePrefix ⟨[.named id, .structural "data"], .data type.dataFields⟩) =
        some (Part.child naming.typePrefix [.named id] (.structural "data")
          (.data type.dataFields)) := Registry.childOf?_eq_some_iff.mpr ⟨rfl, rfl⟩
  have hown : Registry.childOf? [id]
      (Part.entry naming.typePrefix ⟨[.named id], .document type.uid?⟩) = none :=
    Registry.childOf?_eq_none (by simp)
  rw [Registry.children, (compile_ok h).2, CustomType.parts, List.map_append, List.filterMap_append,
    htop, List.map_cons, List.map_singleton, List.filterMap_cons_some hdata,
    List.filterMap_cons_none hown, List.filterMap_nil]

end ContentGraph
