import ContentGraph.Proofs.Compilation.Run
import ContentGraph.Proofs.Json.Records
import ContentGraph.Proofs.Json.Text
import ContentGraph.Registry.Stored

/-!
# Stored registries read back

A stored list may repeat a path; what is read keeps the first entry of each.  A registry repeats
none, so that it is read back as it was stored, from its JSON value and from either text of it.

* `firstOfEach` with `entries_ofEntries` — the entries that are kept;
* `firstOfEach_of_nodup` — all of them, when no path repeats;
* `Registry.ofJson?_toJson`, `Registry.parse_compact`, `Registry.parse_pretty` — a stored registry
  is read back.
-/

namespace ContentGraph

/-! ### The first entry of each path -/

/-- The entries without those whose path an earlier entry has. -/
def firstOfEach : List PathEntry → List PathEntry
  | [] => []
  | entry :: rest => entry :: (firstOfEach rest).filter fun later => later.path ≠ entry.path

/-- Nothing is left out where no path repeats. -/
theorem firstOfEach_of_nodup {entries : List PathEntry}
    (distinct : (entries.map PathEntry.path).Nodup) :
    firstOfEach entries = entries := by
  induction entries with
  | nil => rfl
  | cons entry rest ih =>
    rw [List.map_cons, List.nodup_cons] at distinct
    rw [firstOfEach, ih distinct.2, List.filter_eq_self.mpr]
    intro later hlater
    simp only [ne_eq, decide_eq_true_eq]
    exact fun heq => distinct.1 (List.mem_map.mpr ⟨later, hlater, heq⟩)

namespace Registry

/-- An entry is added when its path is free. -/
theorem entries_add (registry : Registry) (entry : PathEntry) :
    (registry.add entry).entries =
      if entry.path ∈ registry.paths then registry.entries else registry.entries ++ [entry] := by
  rw [add]
  split
  · next h => rw [register?_of_mem h, Option.getD_none]
  · next h =>
    obtain ⟨next, hnext, hentries⟩ := register?_of_not_mem h
    rw [hnext, Option.getD_some, hentries]

/-- Entries are added one after the other: the first of each path that is still free. -/
theorem entries_foldl_add (entries : List PathEntry) (registry : Registry) :
    (entries.foldl add registry).entries =
      registry.entries ++ (firstOfEach entries).filter fun entry =>
        entry.path ∉ registry.paths := by
  induction entries generalizing registry with
  | nil => simp [firstOfEach]
  | cons entry rest ih =>
    rw [List.foldl_cons, ih, firstOfEach, List.filter_cons]
    by_cases htaken : entry.path ∈ registry.paths
    · -- what has the path of the entry is left out on account of the registry already
      have hpaths : (registry.add entry).paths = registry.paths := by
        rw [paths, entries_add, if_pos htaken, paths]
      rw [hpaths, entries_add, if_pos htaken, if_neg (by simpa using htaken), List.filter_filter]
      refine congrArg _ (List.filter_congr fun later _ => ?_)
      by_cases heq : later.path = entry.path
      · simp [heq, htaken]
      · simp [heq]
    · have hpaths : (registry.add entry).paths = registry.paths ++ [entry.path] := by
        rw [paths, entries_add, if_neg htaken, List.map_append, paths]
        rfl
      rw [hpaths, entries_add, if_neg htaken, if_pos (by simpa using htaken), List.append_assoc,
        List.singleton_append, List.filter_filter]
      refine congrArg _ (congrArg _ (List.filter_congr fun later _ => ?_))
      simp [List.mem_append]

/-- **A stored list is read** as the first entry of each path, in order. -/
theorem entries_ofEntries (entries : List PathEntry) :
    (ofEntries entries).entries = firstOfEach entries := by
  rw [ofEntries, entries_foldl_add]
  have hall : ∀ entry ∈ firstOfEach entries, decide (entry.path ∉ empty.paths) = true := by
    simp [empty, paths]
  rw [List.filter_eq_self.mpr hall]
  rfl

/-- The entries of a registry make up that registry. -/
theorem ofEntries_entries (registry : Registry) : ofEntries registry.entries = registry := by
  refine Registry.ext ?_
  rw [entries_ofEntries, firstOfEach_of_nodup registry.distinct]

end Registry

/-! ### Entries -/

theorem PathKind.ofName?_name (kind : PathKind) : ofName? kind.name = some kind := by
  cases kind <;> decide

namespace PathEntry

/-- **An entry is read back** as it was stored. -/
theorem ofJson?_toJson (entry : PathEntry) : ofJson? entry.toJson = some entry := by
  obtain ⟨path, typeName, kind⟩ := entry
  let members :=
    [("path", Json.ofStrings path), ("type", .string typeName), ("kind", .string kind.name)]
  have hrecord : (Json.object members).record? ["path", "type", "kind"] = some members :=
    Json.record?_of_known (by simp [members, Keyed.Distinct, Keyed.keys]) (by simp [members])
  have hpath : Keyed.get? "path" members = some (Json.ofStrings path) := rfl
  have htype : Keyed.get? "type" members = some (.string typeName) := rfl
  have hkind : Keyed.get? "kind" members = some (.string kind.name) := rfl
  show (do
    let record ← (Json.object members).record? ["path", "type", "kind"]
    let path ← (← Keyed.get? "path" record).strings?
    let typeName ← (← Keyed.get? "type" record).asString?
    let kind ← (← Keyed.get? "kind" record).unitName?.bind PathKind.ofName?
    some (PathEntry.mk path typeName kind)) = _
  simp only [hrecord, hpath, htype, hkind, Json.strings?_ofStrings, Json.asString?, Json.unitName?,
    PathKind.ofName?_name, Option.bind_eq_bind, Option.bind_some]

/-- A stored entry is an object of strings and one array of strings. -/
theorem plainWithin_toJson (entry : PathEntry) : Json.PlainWithin 2 entry.toJson := by
  refine ⟨Nat.zero_lt_two, Json.plainWithinMembers_iff.mpr fun member hmember => ?_⟩
  simp only [List.mem_cons, List.not_mem_nil, or_false] at hmember
  rcases hmember with rfl | rfl | rfl
  · exact Json.plainWithin_ofStrings Nat.zero_lt_one entry.path
  · trivial
  · trivial

theorem listOfJson?_map (entries : List PathEntry) :
    listOfJson? (.array (entries.map toJson)) = some entries := by
  have hread : (entries.map toJson).mapM ofJson? = some (entries.map id) :=
    mapM_map_of_forall fun entry _ => ofJson?_toJson entry
  rwa [List.map_id] at hread

end PathEntry

/-! ### Registries -/

namespace Registry

/-- **A registry is read back** as it was stored. -/
theorem ofJson?_toJson (registry : Registry) : ofJson? registry.toJson = some registry := by
  rw [ofJson?, toJson, PathEntry.listOfJson?_map, Option.map_some, ofEntries_entries]

theorem plainWithin_toJson (registry : Registry) : Json.PlainWithin 3 registry.toJson := by
  refine ⟨Nat.zero_lt_succ 2, Json.plainWithinElements_iff.mpr fun value hvalue => ?_⟩
  obtain ⟨entry, -, rfl⟩ := List.mem_map.mp hvalue
  exact entry.plainWithin_toJson

/-- The compact text of a stored registry is read back. -/
theorem parse_compact (registry : Registry) :
    Json.parse registry.toJson.compact = some registry.toJson :=
  Json.parse_compact (Json.PlainWithin.mono _ (by decide) registry.plainWithin_toJson)

/-- The indented text of a stored registry is read back. -/
theorem parse_pretty (registry : Registry) :
    Json.parse registry.toJson.pretty = some registry.toJson :=
  Json.parse_pretty (Json.PlainWithin.mono _ (by decide) registry.plainWithin_toJson)

end Registry

end ContentGraph
