import ContentGraph.Json.Record
import ContentGraph.Proofs.Json.Location

/-!
# Reading records back

What is stored as a JSON value is read back member by member.  Three facts carry every reader: a
record that was written with its own members only is found as it was written; members beside the
fixed ones come back as a map holds them, without repetitions at any depth; and a list is read back
when each of its elements is.

* `wellFormed_merged`, `merged_of_wellFormed` — merging leaves no repetition, and nothing else to
  do;
* `IsExtra` with `isExtra_of_openRecord?`, `openRecord?_append` — the members beside fixed ones;
* `record?_of_known`, `tagged?_object`, `strings?_ofStrings` — the other readers on what writers
  produce;
* `mapM_map_ite`, `mem_of_mapM` — a list of written elements is read back exactly when all of them
  are, element by element.
-/

namespace ContentGraph

/-! ### Lists of written elements -/

/-- A list of written elements is read back when each of them is, and refused when one is not. -/
theorem mapM_map_ite {α β γ : Type} {write : α → β} {read : β → Option γ} {value : α → γ}
    {good : α → Prop} [DecidablePred good] {items : List α}
    (each : ∀ item ∈ items, read (write item) = if good item then some (value item) else none) :
    (items.map write).mapM read =
      if ∀ item ∈ items, good item then some (items.map value) else none := by
  induction items with
  | nil => simp
  | cons item rest ih =>
    have hitem := each item List.mem_cons_self
    have hrest := ih fun other hother => each other (List.mem_cons_of_mem _ hother)
    rw [List.map_cons, List.mapM_cons, hitem, hrest]
    by_cases hgood : good item
    · by_cases hall : ∀ other ∈ rest, good other
      · rw [if_pos hgood, if_pos hall, if_pos (List.forall_mem_cons.mpr ⟨hgood, hall⟩)]
        rfl
      · rw [if_pos hgood, if_neg hall, if_neg fun h => hall (List.forall_mem_cons.mp h).2]
        rfl
    · rw [if_neg hgood, if_neg fun h => hgood (List.forall_mem_cons.mp h).1]
      rfl

/-- A list of written elements is read back when each of them is. -/
theorem mapM_map_of_forall {α β γ : Type} {write : α → β} {read : β → Option γ} {value : α → γ}
    {items : List α} (each : ∀ item ∈ items, read (write item) = some (value item)) :
    (items.map write).mapM read = some (items.map value) := by
  have h : (items.map write).mapM read =
      if ∀ item ∈ items, True then some (items.map value) else none :=
    mapM_map_ite fun item hitem => (each item hitem).trans (if_pos trivial).symm
  rwa [if_pos fun _ _ => trivial] at h

/-- What is read of a list is read of its elements. -/
theorem mem_of_mapM {α β : Type} {f : α → Option β} {items : List α} {results : List β}
    (h : items.mapM f = some results) {result : β} (hresult : result ∈ results) :
    ∃ item ∈ items, f item = some result := by
  induction items generalizing results with
  | nil =>
    cases h
    exact absurd hresult List.not_mem_nil
  | cons item rest ih =>
    rw [List.mapM_cons] at h
    obtain ⟨first, hfirst, h⟩ := Option.bind_eq_some_iff.mp h
    obtain ⟨others, hothers, h⟩ := Option.bind_eq_some_iff.mp h
    cases h
    rcases List.mem_cons.mp hresult with rfl | hmem
    · exact ⟨item, List.mem_cons_self, hfirst⟩
    · obtain ⟨other, hother, hread⟩ := ih hothers hmem
      exact ⟨other, List.mem_cons_of_mem _ hother, hread⟩

/-! ### What a map holds -/

namespace Keyed

variable {α : Type}

/-- Every value of a map is one of the entries' values. -/
theorem mem_of_mem_set {key : String} {value : α} {entries : List (String × α)} {entry : String × α}
    (h : entry ∈ set key value entries) : entry = (key, value) ∨ entry ∈ entries := by
  induction entries with
  | nil => exact Or.inl (List.mem_singleton.mp h)
  | cons first rest ih =>
    obtain ⟨k, v⟩ := first
    rw [set] at h
    split at h
    · next hk =>
      rcases List.mem_cons.mp h with rfl | hrest
      · exact Or.inl (by rw [hk])
      · exact Or.inr (List.mem_cons_of_mem _ hrest)
    · rcases List.mem_cons.mp h with rfl | hrest
      · exact Or.inr List.mem_cons_self
      · exact (ih hrest).imp_right (List.mem_cons_of_mem _)

theorem mem_of_mem_setAll {values entries : List (String × α)} {entry : String × α}
    (h : entry ∈ setAll values entries) : entry ∈ values ∨ entry ∈ entries := by
  induction values generalizing entries with
  | nil => exact Or.inr h
  | cons value rest ih =>
    rcases ih h with hrest | hset
    · exact Or.inl (List.mem_cons_of_mem _ hrest)
    · rcases mem_of_mem_set hset with rfl | hentries
      · exact Or.inl List.mem_cons_self
      · exact Or.inr hentries

theorem mem_of_mem_merge {entries : List (String × α)} {entry : String × α}
    (h : entry ∈ merge entries) :
    entry ∈ entries := (mem_of_mem_setAll h).resolve_right List.not_mem_nil

end Keyed

namespace Json

/-! ### Merging -/

theorem mergedMembers_eq (members : List (String × Json)) :
    mergedMembers members = members.map fun member => (member.1, merged member.2) := by
  induction members with
  | nil => rw [mergedMembers, List.map_nil]
  | cons member rest ih => rw [mergedMembers, List.map_cons, ih]

mutual
/-- **Merging leaves no repetition**, at any depth. -/
theorem wellFormed_merged : (value : Json) → value.merged.WellFormed
  | .null | .bool _ | .number _ | .string _ => by simp [merged, WellFormed]
  | .array elements => by
    rw [merged, WellFormed]
    exact wellFormed_mergedElements elements
  | .object members => by
    rw [merged, WellFormed, wellFormedMembers_iff]
    refine ⟨Keyed.distinct_merge _, fun member hmember => ?_⟩
    exact wellFormedMembers_iff.mp (wellFormed_mergedMembers members) member
      (Keyed.mem_of_mem_merge hmember)
theorem wellFormed_mergedElements :
    (elements : List Json) → WellFormedElements (mergedElements elements)
  | [] => by simp [mergedElements, WellFormedElements]
  | value :: rest => by
    rw [mergedElements, WellFormedElements]
    exact ⟨wellFormed_merged value, wellFormed_mergedElements rest⟩
theorem wellFormed_mergedMembers :
    (members : List (String × Json)) → WellFormedMembers (mergedMembers members)
  | [] => by simp [mergedMembers, WellFormedMembers]
  | (_, value) :: rest => by
    rw [mergedMembers, WellFormedMembers]
    exact ⟨wellFormed_merged value, wellFormed_mergedMembers rest⟩
end

mutual
/-- **Nothing is merged** where nothing is repeated. -/
theorem merged_of_wellFormed : (value : Json) → value.WellFormed → value.merged = value
  | .null, _ | .bool _, _ | .number _, _ | .string _, _ => by rw [merged]
  | .array elements, h => by
    rw [WellFormed] at h
    rw [merged, mergedElements_of_wellFormed elements h]
  | .object members, h => by
    rw [WellFormed] at h
    rw [merged, mergedMembers_of_wellFormed members h.2, Keyed.merge_of_distinct h.1]
theorem mergedElements_of_wellFormed :
    (elements : List Json) → WellFormedElements elements → mergedElements elements = elements
  | [], _ => by rw [mergedElements]
  | value :: rest, h => by
    rw [WellFormedElements] at h
    rw [mergedElements, merged_of_wellFormed value h.1, mergedElements_of_wellFormed rest h.2]
theorem mergedMembers_of_wellFormed :
    (members : List (String × Json)) → WellFormedMembers members → mergedMembers members = members
  | [], _ => by rw [mergedMembers]
  | (_, value) :: rest, h => by
    rw [WellFormedMembers] at h
    rw [mergedMembers, merged_of_wellFormed value h.1, mergedMembers_of_wellFormed rest h.2]
end

/-! ### Fixed members -/

theorem knownMembers_append (names : List String) (a b : List (String × Json)) :
    knownMembers names (a ++ b) = knownMembers names a ++ knownMembers names b :=
  List.filter_append _ _

theorem knownMembers_of_known {names : List String} {members : List (String × Json)}
    (known : ∀ key ∈ Keyed.keys members, key ∈ names) : knownMembers names members = members := by
  refine List.filter_eq_self.mpr fun member hmember => ?_
  exact List.contains_iff_mem.mpr (known member.1 (List.mem_map_of_mem hmember))

theorem knownMembers_of_unknown {names : List String} {members : List (String × Json)}
    (unknown : ∀ key ∈ Keyed.keys members, key ∉ names) : knownMembers names members = [] := by
  refine List.filter_eq_nil_iff.mpr fun member hmember hcontains => ?_
  exact unknown member.1 (List.mem_map_of_mem hmember) (List.contains_iff_mem.mp hcontains)

theorem otherMembers_append (names : List String) (a b : List (String × Json)) :
    otherMembers names (a ++ b) = otherMembers names a ++ otherMembers names b :=
  List.filter_append _ _

theorem otherMembers_of_known {names : List String} {members : List (String × Json)}
    (known : ∀ key ∈ Keyed.keys members, key ∈ names) : otherMembers names members = [] := by
  refine List.filter_eq_nil_iff.mpr fun member hmember hother => ?_
  rw [List.contains_iff_mem.mpr (known member.1 (List.mem_map_of_mem hmember))] at hother
  exact Bool.noConfusion hother

theorem otherMembers_of_unknown {names : List String} {members : List (String × Json)}
    (unknown : ∀ key ∈ Keyed.keys members, key ∉ names) : otherMembers names members = members := by
  refine List.filter_eq_self.mpr fun member hmember => ?_
  have hnot : ¬names.contains member.1 = true :=
    fun hcontains => unknown member.1 (List.mem_map_of_mem hmember)
      (List.contains_iff_mem.mp hcontains)
  rw [Bool.not_eq_true] at hnot
  rw [hnot]
  rfl

/-- A record of fixed members is found as it was written. -/
theorem record?_of_known {names : List String} {members : List (String × Json)}
    (distinct : Keyed.Distinct members) (known : ∀ key ∈ Keyed.keys members, key ∈ names) :
    (Json.object members).record? names = some members := by
  simp only [record?, knownMembers_of_known known, if_pos distinct]

/-- A tagged record is found as it was written, when the rest has no member named as the tag. -/
theorem tagged?_object {tag kind : String} {rest : List (String × Json)} (numbered : List String)
    (absent : tag ∉ Keyed.keys rest) :
    (Json.object ((tag, .string kind) :: rest)).tagged? tag numbered =
      some (kind, .object rest) := by
  have hunknown : ∀ key ∈ Keyed.keys rest, key ∉ [tag] := by
    intro key hkey hmem
    rw [List.mem_singleton] at hmem
    exact absent (hmem ▸ hkey)
  have hsplit : (tag, Json.string kind) :: rest = [(tag, .string kind)] ++ rest := rfl
  have hknown : knownMembers [tag] ((tag, .string kind) :: rest) = [(tag, .string kind)] := by
    rw [hsplit, knownMembers_append, knownMembers_of_unknown hunknown,
      knownMembers_of_known (by simp), List.append_nil]
  have hother : otherMembers [tag] ((tag, Json.string kind) :: rest) = rest := by
    rw [hsplit, otherMembers_append, otherMembers_of_unknown hunknown,
      otherMembers_of_known (by simp), List.nil_append]
  simp only [tagged?, hknown, hother, kind?, Option.map_some]

/-- A list of strings is read back. -/
theorem strings?_ofStrings (texts : List String) : (ofStrings texts).strings? = some texts := by
  have h : (texts.map Json.string).mapM asString? = some (texts.map id) :=
    mapM_map_of_forall fun _ _ => rfl
  rw [ofStrings, strings?, asArray?, Option.bind_some, h, List.map_id]

/-! ### Members beside the fixed ones -/

/-- Members that an open record can hold beside those in `names`: none of them has such a name, and
no object among them repeats a member. -/
structure IsExtra (names : List String) (extra : List (String × Json)) : Prop where
  apart : ∀ key ∈ Keyed.keys extra, key ∉ names
  wellFormed : (Json.object extra).WellFormed

theorem isExtra_nil (names : List String) : IsExtra names [] :=
  ⟨by simp, by simp [WellFormed, Keyed.Distinct, WellFormedMembers]⟩

/-- What an open record holds beside its fixed members is extra. -/
theorem isExtra_of_openRecord? {names : List String} {value : Json}
    {record : List (String × Json) × List (String × Json)}
    (h : value.openRecord? names = some record) :
    IsExtra names record.2 := by
  unfold openRecord? at h
  split at h
  · next members =>
    simp only at h
    split at h
    · cases h
      constructor
      · intro key hkey hmem
        obtain ⟨member, hmember, rfl⟩ := List.mem_map.mp hkey
        have hmember := Keyed.mem_of_mem_merge hmember
        rw [mergedMembers_eq] at hmember
        obtain ⟨other, hother, rfl⟩ := List.mem_map.mp hmember
        have hunlisted := List.of_mem_filter hother
        rw [List.contains_iff_mem.mpr hmem] at hunlisted
        exact Bool.noConfusion hunlisted
      · have hmerged := wellFormed_merged (.object (otherMembers names members))
        rwa [merged] at hmerged
    · cases h
  · cases h

/-- An open record is found as it was written: its fixed members, then what it holds beside them. -/
theorem openRecord?_append {names : List String} {known extra : List (String × Json)}
    (distinct : Keyed.Distinct known) (hknown : ∀ key ∈ Keyed.keys known, key ∈ names)
    (h : IsExtra names extra) :
    (Json.object (known ++ extra)).openRecord? names = some (known, extra) := by
  have hmerged := merged_of_wellFormed (.object extra) h.wellFormed
  rw [merged, Json.object.injEq] at hmerged
  simp only [openRecord?, knownMembers_append, otherMembers_append, knownMembers_of_known hknown,
    knownMembers_of_unknown h.apart, otherMembers_of_known hknown, otherMembers_of_unknown h.apart,
    List.append_nil, List.nil_append, if_pos distinct, hmerged]

end Json

end ContentGraph
