import ContentGraph.Proofs.Registry.Below
import ContentGraph.Proofs.Registry.Stored
import ContentGraph.Registry.Indexed

/-!
# The index is in step with the list

An indexed registry is looked up through its index, while what is stored and compared is the list of
its entries.  One invariant ties the two: the index holds, for each path of the list and for no
other, the place of its entry.  Every operation keeps it, those that fail as well, so that an
indexed registry is a list with distinct paths under all operations and all look-ups.

* `Tracks` — the index is in step with the list, which repeats no path;
* `tracks_push`, `tracks_ofEntries` — the two places where the index grows;
* `perform_register`, `perform_load`, `perform_reload` — what each operation answers and leaves;
* `tracks_perform`, `tracks_after` — one operation, and any sequence of them;
* `BehavesAsList` with `after_behavesAsList` — what a registry does after any sequence of
  operations.
-/

namespace ContentGraph

/-! ### Look-ups in the list -/

namespace Registry

theorem get?_eq_none_iff {registry : Registry} {path : Path} :
    registry.get? path = none ↔ path ∉ registry.paths := by
  rw [get?, List.find?_eq_none, paths, List.mem_map]
  simp

/-- An entry that is appended is found at its path; what is found at other paths stays. -/
theorem get?_of_append {registry next : Registry} {entry : PathEntry}
    (fresh : entry.path ∉ registry.paths) (hnext : next.entries = registry.entries ++ [entry])
    (path : Path) :
    next.get? path = if path = entry.path then some entry else registry.get? path := by
  have hsplit : next.get? path = (registry.get? path).or (if entry.path = path then some entry
      else none) := by
    rw [get?, hnext, List.find?_append, get?, List.find?_cons]
    by_cases heq : entry.path = path
    · simp [heq]
    · simp [heq]
  by_cases heq : path = entry.path
  · subst heq
    rw [hsplit, get?_eq_none_iff.mpr fresh, if_pos rfl, Option.none_or]
  · rw [hsplit, if_neg heq, if_neg (Ne.symm heq), Option.or_none]

end Registry

namespace IndexedRegistry

variable {indexed : IndexedRegistry} {registry : Registry}

/-! ### In step -/

/-- The list is that of a registry, and the index holds the place of each path's entry. -/
structure Tracks (indexed : IndexedRegistry) (registry : Registry) : Prop where
  entries : indexed.entries = registry.entries
  index : ∀ path, indexed.index[path]? = registry.entries.findIdx? fun entry => entry.path = path

theorem tracks_empty : empty.Tracks .empty := by
  refine ⟨rfl, fun path => ?_⟩
  rw [empty, Std.HashMap.getElem?_empty]
  rfl

namespace Tracks

/-- The index knows the paths of the list. -/
theorem contains_eq (h : indexed.Tracks registry) (path : Path) :
    indexed.contains path = registry.contains path := by
  rw [contains, Std.HashMap.contains_eq_isSome_getElem?, h.index, List.findIdx?_isSome,
    Registry.contains]

/-- A look-up through the index finds what a search of the list finds. -/
theorem get?_eq (h : indexed.Tracks registry) (path : Path) :
    indexed.get? path = registry.get? path := by
  rw [get?, Registry.get?, h.index, h.entries]
  exact List.find?_eq_bind_findIdx?_getElem?.symm

theorem thumbnailNames_eq (h : indexed.Tracks registry) (image : Path) :
    indexed.thumbnailNames image = registry.thumbnailNames image := by
  rw [thumbnailNames, Registry.thumbnailNames, h.entries]

theorem toJson_eq (h : indexed.Tracks registry) : indexed.toJson = registry.toJson := by
  rw [toJson, Registry.toJson, h.entries]

end Tracks

/-! ### Growing -/

/-- **One more entry** at a free path keeps the index in step. -/
theorem tracks_push (h : indexed.Tracks registry) {entry : PathEntry} {next : Registry}
    (fresh : entry.path ∉ registry.paths) (hnext : next.entries = registry.entries ++ [entry]) :
    (indexed.push entry).Tracks next := by
  have hlist : (indexed.push entry).entries = indexed.entries ++ [entry] := rfl
  have hindex :
      (indexed.push entry).index = indexed.index.insert entry.path indexed.entries.length := rfl
  refine ⟨by rw [hlist, hnext, h.entries], fun path => ?_⟩
  rw [hindex, hnext, Std.HashMap.getElem?_insert, h.index, h.entries, List.findIdx?_append]
  by_cases heq : entry.path = path
  · -- the new path: nothing in the list has it before
    subst heq
    have hnone : (registry.entries.findIdx? fun other => other.path = entry.path) = none := by
      rw [← Option.not_isSome_iff_eq_none, List.findIdx?_isSome]
      exact fun htaken => fresh ((Registry.contains_iff registry entry.path).mp htaken)
    simp [hnone]
  · simp [heq]

/-- An entry that is put where its path is free keeps the index in step. -/
theorem tracks_add (h : indexed.Tracks registry) (entry : PathEntry) :
    (if indexed.contains entry.path then indexed else indexed.push entry).Tracks
      (registry.add entry) := by
  have hadd := Registry.entries_add registry entry
  rw [h.contains_eq]
  by_cases htaken : entry.path ∈ registry.paths
  · have hsame : registry.add entry = registry := by
      rw [if_pos htaken] at hadd
      exact Registry.ext hadd
    rwa [if_pos ((Registry.contains_iff _ _).mpr htaken), hsame]
  · rw [if_neg htaken] at hadd
    rw [if_neg fun hcontains => htaken ((Registry.contains_iff _ _).mp hcontains)]
    exact tracks_push h htaken hadd

/-- **The index built anew** is in step with the list that is kept. -/
theorem tracks_ofEntries (entries : List PathEntry) :
    (ofEntries entries).Tracks (.ofEntries entries) := by
  have hfold : ∀ {indexed : IndexedRegistry} {registry : Registry}, indexed.Tracks registry →
      (entries.foldl (fun indexed entry => if indexed.contains entry.path then indexed
        else indexed.push entry)
        indexed).Tracks (entries.foldl Registry.add registry) := by
    induction entries with
    | nil => exact id
    | cons entry rest ih => exact fun h => ih (tracks_add h entry)
  exact hfold tracks_empty

/-! ### What each operation answers and leaves -/

theorem perform_register (entry : PathEntry) (indexed : IndexedRegistry) :
    (RegistryOperation.register entry).perform indexed =
      if indexed.contains entry.path then (.error (.duplicatePath entry.path), indexed)
      else (.ok (), indexed.push entry) := by
  show ((if indexed.contains entry.path = true then throw (.duplicatePath entry.path)
    else set (indexed.push entry)) : Step).run.run indexed = _
  split
  · rfl
  · rfl

theorem perform_load (value : Json) (indexed : IndexedRegistry) :
    (RegistryOperation.load value).perform indexed =
      match PathEntry.listOfJson? value with
      | none => (.error .malformed, indexed)
      | some entries => (.ok (), ofEntries entries) := by
  show (load value).run.run indexed = _
  unfold load ofJson?
  cases PathEntry.listOfJson? value with
  | none => rfl
  | some entries => rfl

/-- **What is stored is loaded** again. -/
theorem perform_reload (indexed : IndexedRegistry) :
    RegistryOperation.reload.perform indexed = (.ok (), ofEntries indexed.entries) := by
  have hload : RegistryOperation.reload.perform indexed =
      (RegistryOperation.load indexed.toJson).perform indexed := rfl
  rw [hload, perform_load, toJson, PathEntry.listOfJson?_map]

/-- A free path is registered, in step. -/
theorem perform_register_of_not_mem (h : indexed.Tracks registry) {entry : PathEntry}
    (fresh : entry.path ∉ registry.paths) :
    (RegistryOperation.register entry).perform indexed = (.ok (), indexed.push entry) := by
  rw [perform_register, h.contains_eq, if_neg]
  exact fun htaken => fresh ((Registry.contains_iff _ _).mp htaken)

/-- A path that is taken is refused. -/
theorem perform_register_of_mem (h : indexed.Tracks registry) {entry : PathEntry}
    (taken : entry.path ∈ registry.paths) :
    (RegistryOperation.register entry).perform indexed = (.error (.duplicatePath entry.path),
      indexed) := by
  rw [perform_register, h.contains_eq, if_pos]
  exact (Registry.contains_iff _ _).mpr taken

/-! ### All operations -/

/-- **Every operation keeps the index in step**, and fails where it fails on the list. -/
theorem tracks_perform (h : indexed.Tracks registry) (operation : RegistryOperation) :
    (operation.perform indexed).2.Tracks ((operation.onList? registry).getD registry) ∧
      ((operation.perform indexed).1 = .ok () ↔ (operation.onList? registry).isSome) := by
  cases operation with
  | register entry =>
    rw [RegistryOperation.onList?]
    by_cases htaken : entry.path ∈ registry.paths
    · rw [perform_register_of_mem h htaken, Registry.register?_of_mem htaken]
      exact ⟨h, by simp⟩
    · obtain ⟨next, hregister, hnext⟩ := Registry.register?_of_not_mem htaken
      rw [perform_register_of_not_mem h htaken, hregister]
      exact ⟨tracks_push h htaken hnext, by simp⟩
  | load value =>
    rw [perform_load, RegistryOperation.onList?, Registry.ofJson?]
    cases PathEntry.listOfJson? value with
    | none => exact ⟨h, by simp⟩
    | some entries => exact ⟨tracks_ofEntries entries, by simp⟩
  | reload =>
    have hagain := tracks_ofEntries indexed.entries
    rw [h.entries, Registry.ofEntries_entries, ← h.entries] at hagain
    rw [perform_reload, RegistryOperation.onList?, Registry.ofJson?_toJson]
    exact ⟨hagain, by simp⟩

/-- **The index is in step** after all operations. -/
theorem tracks_after (operations : List RegistryOperation) :
    (after operations).Tracks (.after operations) := by
  have hfold : ∀ {indexed : IndexedRegistry} {registry : Registry}, indexed.Tracks registry →
      (operations.foldl (fun indexed operation => (operation.perform indexed).2) indexed).Tracks
        (operations.foldl (fun registry operation => (operation.onList? registry).getD registry)
          registry) := by
    induction operations with
    | nil => exact id
    | cons operation rest ih => exact fun h => ih (tracks_perform h operation).1
  exact hfold tracks_empty

/-- Registering entries one by one, and passing over what fails, builds the registry of the list. -/
theorem after_register (entries : List PathEntry) :
    after (entries.map RegistryOperation.register) = ofEntries entries := by
  rw [after, ofEntries, List.foldl_map]
  congr 1
  funext indexed entry
  rw [perform_register]
  split
  · rfl
  · rfl

/-! ### A list with distinct paths -/

/-- The registry answers and changes as the list of its entries does, no path of which repeats. -/
structure BehavesAsList (indexed : IndexedRegistry) : Prop where
  /-- No path repeats. -/
  distinct : (indexed.entries.map PathEntry.path).Nodup
  /-- The index holds the place of each path's entry, and no other path. -/
  index : ∀ path, indexed.index[path]? = indexed.entries.findIdx? fun entry => entry.path = path
  /-- A look-up finds the entry of the list that has the path. -/
  found : ∀ path entry, indexed.get? path = some entry ↔ entry ∈ indexed.entries ∧ entry.path = path
  /-- A look-up finds nothing where the list has no entry with the path. -/
  missing : ∀ path, indexed.get? path = none ↔ path ∉ indexed.entries.map PathEntry.path
  /-- An entry at a free path is appended, and no other look-up changes. -/
  registered : ∀ entry, entry.path ∉ indexed.entries.map PathEntry.path →
    ∃ next, (RegistryOperation.register entry).perform indexed = (.ok (), next) ∧
      next.entries = indexed.entries ++ [entry] ∧
      ∀ path, next.get? path = if path = entry.path then some entry else indexed.get? path
  /-- An entry at a path that is taken is refused, and nothing changes. -/
  refused : ∀ entry, entry.path ∈ indexed.entries.map PathEntry.path →
    (RegistryOperation.register entry).perform indexed =
      (.error (.duplicatePath entry.path), indexed)
  /-- What is loaded is the first entry of each path, as registering the entries one by one leaves
  it. -/
  loaded : ∀ value entries, PathEntry.listOfJson? value = some entries →
    ∃ next, (RegistryOperation.load value).perform indexed = (.ok (), next) ∧
      next.entries = firstOfEach entries ∧ next = after (entries.map RegistryOperation.register)
  /-- What is no list of entries is refused, and nothing changes. -/
  malformed : ∀ value, PathEntry.listOfJson? value = none →
    (RegistryOperation.load value).perform indexed = (.error .malformed, indexed)
  /-- What is stored is loaded again, with the same entries and the same answers. -/
  reloaded : ∃ next, RegistryOperation.reload.perform indexed = (.ok (), next) ∧
    next.entries = indexed.entries ∧
    (∀ path, next.get? path = indexed.get? path) ∧
    ∀ image, next.thumbnailNames image = indexed.thumbnailNames image
  /-- Both texts of what is stored hold the stored value. -/
  texts : Json.parse indexed.toJson.compact = some indexed.toJson ∧
    Json.parse indexed.toJson.pretty = some indexed.toJson

namespace Tracks

/-- A registry in step appends an entry at a free path. -/
theorem exists_registered (h : indexed.Tracks registry) {entry : PathEntry}
    (fresh : entry.path ∉ registry.paths) :
    ∃ next, (RegistryOperation.register entry).perform indexed = (.ok (), next) ∧
      next.entries = indexed.entries ++ [entry] ∧
      ∀ path, next.get? path = if path = entry.path then some entry else indexed.get? path := by
  obtain ⟨next, -, hnext⟩ := Registry.register?_of_not_mem fresh
  have hpush := tracks_push h fresh hnext
  refine ⟨_, perform_register_of_not_mem h fresh, by rw [hpush.entries, hnext, h.entries],
    fun path => ?_⟩
  rw [hpush.get?_eq, h.get?_eq, Registry.get?_of_append fresh hnext]

/-- A registry in step loads what it stores. -/
theorem exists_reloaded (h : indexed.Tracks registry) :
    ∃ next, RegistryOperation.reload.perform indexed = (.ok (), next) ∧
      next.entries = indexed.entries ∧
      (∀ path, next.get? path = indexed.get? path) ∧
      ∀ image, next.thumbnailNames image = indexed.thumbnailNames image := by
  have hagain : (ofEntries indexed.entries).Tracks registry := by
    have htracks := tracks_ofEntries indexed.entries
    rw [h.entries, Registry.ofEntries_entries] at htracks
    rwa [h.entries]
  refine ⟨_, perform_reload indexed, by rw [hagain.entries, h.entries], fun path => ?_,
    fun image => ?_⟩
  · rw [hagain.get?_eq, h.get?_eq]
  · rw [hagain.thumbnailNames_eq, h.thumbnailNames_eq]

/-- **A registry in step** behaves as its list. -/
theorem behavesAsList (h : indexed.Tracks registry) : indexed.BehavesAsList := by
  have hpaths : indexed.entries.map PathEntry.path = registry.paths := by
    rw [h.entries, Registry.paths]
  constructor
  case distinct => rw [hpaths]; exact registry.distinct
  case index =>
    intro path
    rw [h.index, h.entries]
  case found =>
    intro path entry
    rw [h.get?_eq, h.entries, Registry.get?_eq_some_iff]
  case missing =>
    intro path
    rw [hpaths, h.get?_eq, Registry.get?_eq_none_iff]
  case registered =>
    intro entry hfresh
    exact h.exists_registered (hpaths ▸ hfresh)
  case refused =>
    intro entry htaken
    exact perform_register_of_mem h (hpaths ▸ htaken)
  case loaded =>
    intro value entries hread
    refine ⟨ofEntries entries, by rw [perform_load, hread], ?_, (after_register entries).symm⟩
    rw [(tracks_ofEntries entries).entries, Registry.entries_ofEntries]
  case malformed =>
    intro value hread
    rw [perform_load, hread]
  case reloaded => exact h.exists_reloaded
  case texts =>
    rw [h.toJson_eq]
    exact ⟨registry.parse_compact, registry.parse_pretty⟩

end Tracks

/-- **An indexed registry is a list with distinct paths**: after any sequence of operations on the
registry without entries it is in step with the list that the same operations leave, and behaves as
that list. -/
theorem after_behavesAsList (operations : List RegistryOperation) :
    (after operations).Tracks (.after operations) ∧ (after operations).BehavesAsList :=
  ⟨tracks_after operations, (tracks_after operations).behavesAsList⟩

end IndexedRegistry

end ContentGraph
