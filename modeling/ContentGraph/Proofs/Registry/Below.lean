import ContentGraph.Keyed
import ContentGraph.Registry
import Mathlib.Data.List.Basic
import Mathlib.Data.List.Nodup

/-!
# What is registered below a path

A walk from the root of a document to a field sees less and less of the registry.  What is left at a
path is the list of the entries below it; a look-up at the path, or anywhere under it, reads nothing
else.

* `nodup_families` — paths that branch off a base under different segments are distinct as soon as
  each branch is;
* `filter_families` — narrowing a list of branches to one segment leaves the branch of that segment;
* `Registry.below` with `below_append`, `get?_of_mem_below`, `get?_eq_none_of_below`: the entries
  below a path and the look-ups they decide;
* `thumbnailName?_eq_some_iff`, `mem_thumbnailNames`, `nodup_thumbnailNames` — which entries name a
  thumbnail of an image, and which names there are.
-/

namespace ContentGraph

variable {α : Type}

/-! ### Distinct keys -/

/-- In a list whose keys are distinct, a member is found under its key. -/
theorem find?_of_mem {β : Type} [DecidableEq β] {key : α → β} {list : List α} {a : α}
    (distinct : (list.map key).Nodup) (h : a ∈ list) :
    (list.find? fun b => key b = key a) = some a := by
  cases hfind : list.find? fun b => key b = key a with
  | none =>
    rw [List.find?_eq_none] at hfind
    simpa using hfind a h
  | some found =>
    have hmem : found ∈ list := List.mem_of_find?_eq_some hfind
    have hkey : key found = key a := by simpa using List.find?_some hfind
    rw [List.inj_on_of_nodup_map distinct hmem h hkey]

/-! ### Branches under a base -/

/-- A path has one segment after a base. -/
theorem segment_unique {base path : Path} {a b : String} (ha : base ++ [a] <+: path)
    (hb : base ++ [b] <+: path) : a = b := by
  have hab : base ++ [a] <+: base ++ [b] :=
    List.prefix_of_prefix_length_le ha hb (by simp)
  have heq : base ++ [a] = base ++ [b] := hab.eq_of_length (by simp)
  simpa using heq

/-- **Branches are apart.**  Branches that start with the keys of a list repeat no path exactly when
no key repeats and no branch repeats a path. -/
theorem nodup_families (base : Path) {items : List (String × α)} {family : String × α → List Path}
    (under : ∀ item ∈ items, ∀ path ∈ family item, base ++ [item.1] <+: path)
    (own : ∀ item ∈ items, base ++ [item.1] ∈ family item) :
    (items.flatMap family).Nodup ↔
      Keyed.Distinct items ∧ ∀ item ∈ items, (family item).Nodup := by
  have apart : items.Pairwise (fun a b => List.Disjoint (family a) (family b)) ↔
      Keyed.Distinct items := by
    rw [Keyed.Distinct, Keyed.keys, List.nodup_iff_pairwise_ne, List.pairwise_map]
    constructor
    · intro h
      refine h.imp_of_mem fun {a b} ha hb hdisjoint heq => ?_
      exact hdisjoint (own a ha) (heq ▸ own b hb)
    · intro h
      refine h.imp_of_mem fun {a b} ha hb hne path hpa hpb => ?_
      exact hne (segment_unique (under a ha path hpa) (under b hb path hpb))
  rw [List.nodup_flatMap, and_comm]
  exact and_congr_left fun _ => apart

/-- A list of branches narrowed to one segment is the branch of that segment. -/
theorem filter_families (base : Path) {items : List (String × α)}
    {family : String × α → List PathEntry} (key : String)
    (under : ∀ item ∈ items, ∀ entry ∈ family item, base ++ [item.1] <+: entry.path)
    (distinct : Keyed.Distinct items) :
    (items.flatMap family).filter (fun entry => base ++ [key] <+: entry.path) =
      ((Keyed.get? key items).map fun value => family (key, value)).getD [] := by
  induction items with
  | nil => rfl
  | cons item rest ih =>
    obtain ⟨name, value⟩ := item
    rw [Keyed.Distinct, Keyed.keys, List.map_cons, List.nodup_cons] at distinct
    have underRest : ∀ item ∈ rest, ∀ entry ∈ family item, base ++ [item.1] <+: entry.path :=
      fun item hitem => under item (List.mem_cons_of_mem _ hitem)
    have hname : ∀ entry ∈ family (name, value), base ++ [name] <+: entry.path :=
      under (name, value) List.mem_cons_self
    rw [List.flatMap_cons, List.filter_append, ih underRest distinct.2, Keyed.get?_cons]
    by_cases hkey : name = key
    · subst hkey
      -- no other branch has the segment, so the rest contributes nothing
      have habsent : Keyed.get? name rest = none := by
        rw [Keyed.get?_eq_none_iff]
        exact distinct.1
      rw [if_pos rfl, habsent, List.filter_eq_self.mpr fun entry h => by simpa using hname entry h]
      simp
    · rw [if_neg hkey, List.filter_eq_nil_iff.mpr, List.nil_append]
      intro entry hentry hunder
      exact hkey (segment_unique (hname entry hentry) (by simpa using hunder))

/-! ### The entries below a path -/

namespace Registry

/-- The entries at a path and under it, in order. -/
def below (registry : Registry) (path : Path) : List PathEntry :=
  registry.entries.filter fun entry => path <+: entry.path

theorem mem_below {registry : Registry} {path : Path} {entry : PathEntry} :
    entry ∈ registry.below path ↔ entry ∈ registry.entries ∧ path <+: entry.path := by
  simp [below]

/-- Narrowing in two steps. -/
theorem below_append (registry : Registry) (path more : Path) :
    registry.below (path ++ more) =
      (registry.below path).filter fun entry => path ++ more <+: entry.path := by
  rw [below, below, List.filter_filter]
  congr 1
  funext entry
  have himp : path ++ more <+: entry.path → path <+: entry.path :=
    (List.prefix_append path more).trans
  by_cases h : path ++ more <+: entry.path
  · simp [h, himp h]
  · simp [h]

/-- Nothing below a path, nothing below its extensions. -/
theorem below_append_of_nil {registry : Registry} {path : Path} (h : registry.below path = [])
    (more : Path) : registry.below (path ++ more) = [] := by
  rw [below_append, h, List.filter_nil]

/-- What is read off entries under a path only can be read off the entries below it. -/
theorem filterMap_below {β : Type} (registry : Registry) (path : Path) (f : PathEntry → Option β)
    (h : ∀ entry : PathEntry, ¬path <+: entry.path → f entry = none) :
    registry.entries.filterMap f = (registry.below path).filterMap f := by
  rw [below, List.filterMap_filter]
  congr 1
  funext entry
  by_cases hentry : path <+: entry.path
  · simp [hentry]
  · simp [hentry, h entry hentry]

/-- An entry is found at its own path. -/
theorem get?_of_mem {registry : Registry} {entry : PathEntry} (h : entry ∈ registry.entries) :
    registry.get? entry.path = some entry := find?_of_mem registry.distinct h

theorem get?_eq_some_iff {registry : Registry} {path : Path} {entry : PathEntry} :
    registry.get? path = some entry ↔ entry ∈ registry.entries ∧ entry.path = path := by
  constructor
  · intro h
    rw [get?] at h
    exact ⟨List.mem_of_find?_eq_some h, by simpa using List.find?_some h⟩
  · rintro ⟨hmem, rfl⟩
    exact get?_of_mem hmem

/-- An entry is the only one at its path. -/
theorem filter_path_of_mem {registry : Registry} {entry : PathEntry}
    (h : entry ∈ registry.entries) :
    (registry.entries.filter fun other => other.path = entry.path) = [entry] := by
  obtain ⟨before, after, hsplit⟩ := List.append_of_mem h
  have hdistinct := registry.distinct
  rw [hsplit, List.map_append, List.map_cons, List.nodup_middle, List.nodup_cons, List.mem_append,
    not_or, List.mem_map, List.mem_map] at hdistinct
  have hbefore : ∀ other ∈ before, ¬decide (other.path = entry.path) = true :=
    fun other hmem hpath => hdistinct.1.1 ⟨other, hmem, of_decide_eq_true hpath⟩
  have hafter : ∀ other ∈ after, ¬decide (other.path = entry.path) = true :=
    fun other hmem hpath => hdistinct.1.2 ⟨other, hmem, of_decide_eq_true hpath⟩
  have hown : decide (entry.path = entry.path) = true := decide_eq_true rfl
  rw [hsplit, List.filter_append, List.filter_eq_nil_iff.mpr hbefore, List.filter_cons, if_pos hown,
    List.filter_eq_nil_iff.mpr hafter, List.nil_append]

theorem get?_of_mem_below {registry : Registry} {path : Path} {entry : PathEntry}
    (h : entry ∈ registry.below path) : registry.get? entry.path = some entry :=
  get?_of_mem (mem_below.mp h).1

/-- Nothing is found where nothing is registered below. -/
theorem get?_eq_none_of_below {registry : Registry} {path : Path} (h : registry.below path = []) :
    registry.get? path = none := by
  rw [get?, List.find?_eq_none]
  intro entry hentry hpath
  have hmem : entry ∈ registry.below path :=
    mem_below.mpr ⟨hentry, by simp_all⟩
  rw [h] at hmem
  exact List.not_mem_nil hmem

/-! ### Thumbnails -/

theorem thumbnailName?_eq_some_iff {image : Path} {entry : PathEntry} {name : String} :
    thumbnailName? image entry = some name ↔
      entry.kind = .imageThumbnail ∧ entry.path = image ++ [thumbnailsSegment, name] := by
  rw [thumbnailName?]
  constructor
  · intro h
    split at h
    · next hkind =>
      split at h
      · next segment found hunder =>
        split at h
        · next hsegment =>
          cases h
          rw [← hsegment]
          exact ⟨hkind, (List.isPrefixOf?_eq_some_iff_append_eq.mp hunder).symm⟩
        · cases h
      · cases h
    · cases h
  · rintro ⟨hkind, hpath⟩
    rw [if_pos hkind, List.isPrefixOf?_eq_some_iff_append_eq.mpr hpath.symm]
    exact if_pos rfl

/-- The thumbnails of an image are the names under which thumbnails are registered below it. -/
theorem mem_thumbnailNames {registry : Registry} {image : Path} {name : String} :
    name ∈ registry.thumbnailNames image ↔
      registry.kindAt? (image ++ [thumbnailsSegment, name]) = some .imageThumbnail := by
  rw [thumbnailNames, List.mem_filterMap, kindAt?, Option.map_eq_some_iff]
  refine exists_congr fun entry => ?_
  rw [thumbnailName?_eq_some_iff, get?_eq_some_iff]
  tauto

/-- No thumbnail of an image is named twice. -/
theorem nodup_thumbnailNames (registry : Registry) (image : Path) :
    (registry.thumbnailNames image).Nodup := by
  have hdistinct := registry.distinct
  rw [List.nodup_iff_pairwise_ne, List.pairwise_map] at hdistinct
  rw [thumbnailNames, List.nodup_iff_pairwise_ne, List.pairwise_filterMap]
  refine hdistinct.imp ?_
  intro a b hpath name hname other hother heq
  subst heq
  have ha := (thumbnailName?_eq_some_iff.mp hname).2
  have hb := (thumbnailName?_eq_some_iff.mp hother).2
  exact hpath (ha.trans hb.symm)

theorem thumbnailName?_eq_none {image : Path} {entry : PathEntry} (h : ¬image <+: entry.path) :
    thumbnailName? image entry = none := by
  rw [Option.eq_none_iff_forall_ne_some]
  intro name hname
  exact h ⟨[thumbnailsSegment, name], (thumbnailName?_eq_some_iff.mp hname).2.symm⟩

end Registry

end ContentGraph
