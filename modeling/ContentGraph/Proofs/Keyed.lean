import ContentGraph.Keyed
import Mathlib.Data.List.Dedup
import Mathlib.Data.List.Nodup
import Mathlib.Data.List.Perm.Basic

/-!
# Laws of keyed entries

What putting values under keys, one after the other, does to the order of the keys and to the values
that are found.

* `keys_set`, `get?_set` — one value put under a key;
* `setAll` with `keys_setAll`, `get?_setAll`, `setAll_perm` — values put one after the other: under
  keys that are already there the order of the keys stays, and the order in which the values are put
  does not matter;
* `length_merge`, `merge_of_distinct` — the entries as a map holds them: one for each key;
* `get?_eq_some_iff`, `get?_middle_of_ne` — the entry that a look-up finds, and those that it passes
  over;
* `get?_merge_eq_some_iff` — the entry that a map shows under a key: the last one.
-/

namespace ContentGraph.Keyed

universe u
variable {α : Type u}

@[simp] theorem keys_nil : keys ([] : List (String × α)) = [] := rfl

@[simp] theorem keys_cons (entry : String × α) (rest : List (String × α)) :
    keys (entry :: rest) = entry.1 :: keys rest := rfl

@[simp] theorem keys_append (a b : List (String × α)) : keys (a ++ b) = keys a ++ keys b :=
  List.map_append

/-! ### One value put under a key -/

/-- A key keeps its place; a new one comes last. -/
theorem keys_set (key : String) (value : α) (entries : List (String × α)) :
    keys (set key value entries) =
      if key ∈ keys entries then keys entries else keys entries ++ [key] := by
  induction entries with
  | nil => rfl
  | cons entry rest ih =>
    obtain ⟨k, v⟩ := entry
    by_cases h : k = key
    · simp [set, h]
    · rw [set, if_neg h, keys_cons, ih]
      by_cases hrest : key ∈ keys rest
      · simp [hrest]
      · simp [hrest, Ne.symm h]

theorem keys_set_of_mem {key : String} {entries : List (String × α)} (h : key ∈ keys entries)
    (value : α) : keys (set key value entries) = keys entries := by
  rw [keys_set, if_pos h]

theorem mem_keys_set {key other : String} {value : α} {entries : List (String × α)} :
    other ∈ keys (set key value entries) ↔ other ∈ keys entries ∨ other = key := by
  rw [keys_set]
  split
  · next hmem => exact ⟨Or.inl, fun h => h.elim id fun e => e ▸ hmem⟩
  · simp

/-- A new entry comes last. -/
theorem set_of_not_mem {key : String} {entries : List (String × α)} (h : key ∉ keys entries)
    (value : α) : set key value entries = entries ++ [(key, value)] := by
  induction entries with
  | nil => rfl
  | cons entry rest ih =>
    obtain ⟨k, v⟩ := entry
    rw [keys_cons, List.mem_cons, not_or] at h
    rw [set, if_neg (Ne.symm h.1), ih h.2, List.cons_append]

theorem get?_set (key other : String) (value : α) (entries : List (String × α)) :
    get? other (set key value entries) = if other = key then some value
      else get? other entries := by
  by_cases h : other = key
  · subst h
    rw [if_pos rfl, get?_set_self]
  · rw [if_neg h, get?_set_of_ne h]

/-- Values put under two different keys, one of which is there, can be put in either order. -/
theorem set_set_comm {a b : String} (hne : a ≠ b) {entries : List (String × α)}
    (ha : a ∈ keys entries) (x y : α) : set a x (set b y entries) = set b y (set a x entries) := by
  induction entries with
  | nil => simp at ha
  | cons entry rest ih =>
    obtain ⟨k, v⟩ := entry
    by_cases hka : k = a
    · subst hka
      simp [set, hne]
    · by_cases hkb : k = b
      · subst hkb
        simp [set, hka]
      · rw [keys_cons, List.mem_cons] at ha
        have hrest := ih (ha.resolve_left (Ne.symm hka))
        simp [set, hka, hkb, hrest]

/-! ### Values put one after the other -/

/-- Values put under their keys, one after the other. -/
def setAll (values entries : List (String × α)) : List (String × α) :=
  values.foldl (fun entries value => set value.1 value.2 entries) entries

@[simp] theorem setAll_nil (entries : List (String × α)) : setAll [] entries = entries := rfl

@[simp] theorem setAll_cons (value : String × α) (rest entries : List (String × α)) :
    setAll (value :: rest) entries = setAll rest (set value.1 value.2 entries) := rfl

theorem mem_keys_setAll {key : String} {values entries : List (String × α)} :
    key ∈ keys (setAll values entries) ↔ key ∈ keys entries ∨ key ∈ keys values := by
  induction values generalizing entries with
  | nil => simp
  | cons value rest ih => rw [setAll_cons, ih, mem_keys_set, keys_cons, List.mem_cons, or_assoc]

/-- Keys that do not repeat do not come to repeat. -/
theorem distinct_set (key : String) (value : α) {entries : List (String × α)}
    (h : Distinct entries) :
    Distinct (set key value entries) := by
  rw [Distinct, keys_set]
  split
  · exact h
  · next habsent => exact List.nodup_append_comm.mp (List.nodup_cons.mpr ⟨habsent, h⟩)

theorem nodup_keys_setAll {values entries : List (String × α)} (h : (keys entries).Nodup) :
    (keys (setAll values entries)).Nodup := by
  induction values generalizing entries with
  | nil => exact h
  | cons value rest ih => exact ih (distinct_set value.1 value.2 h)

/-- Values under keys that are there leave the keys as they are. -/
theorem keys_setAll {values entries : List (String × α)}
    (there : ∀ key ∈ keys values, key ∈ keys entries) :
    keys (setAll values entries) = keys entries := by
  induction values generalizing entries with
  | nil => rfl
  | cons value rest ih =>
    have hkeys : keys (set value.1 value.2 entries) = keys entries :=
      keys_set_of_mem (there _ List.mem_cons_self) _
    rw [setAll_cons, ih, hkeys]
    intro key hkey
    rw [hkeys]
    exact there key (List.mem_cons_of_mem _ hkey)

theorem get?_setAll {values : List (String × α)} (distinct : Distinct values)
    (entries : List (String × α)) (key : String) :
    get? key (setAll values entries) = (get? key values).or (get? key entries) := by
  induction values generalizing entries with
  | nil => rfl
  | cons value rest ih =>
    obtain ⟨name, value⟩ := value
    rw [Distinct, keys_cons, List.nodup_cons] at distinct
    rw [setAll_cons, ih distinct.2, get?_set, get?_cons]
    by_cases h : key = name
    · subst h
      rw [get?_eq_none_iff.mpr distinct.1, if_pos rfl, if_pos rfl]
      rfl
    · rw [if_neg h, if_neg (Ne.symm h)]

/-- **The order in which values are put does not matter** when their keys are different and all
there. -/
theorem setAll_perm {values others : List (String × α)} (perm : values.Perm others)
    (distinct : Distinct values) {entries : List (String × α)}
    (there : ∀ key ∈ keys values, key ∈ keys entries) :
    setAll values entries = setAll others entries := by
  induction perm generalizing entries with
  | nil => rfl
  | cons value _ ih =>
    rw [Distinct, keys_cons, List.nodup_cons] at distinct
    refine ih distinct.2 fun key hkey => ?_
    rw [keys_set_of_mem (there _ List.mem_cons_self)]
    exact there key (List.mem_cons_of_mem _ hkey)
  | swap x y rest =>
    have hne : x.1 ≠ y.1 := by
      rw [Distinct, keys_cons, keys_cons, List.nodup_cons, List.mem_cons, not_or] at distinct
      exact Ne.symm distinct.1.1
    have hx : x.1 ∈ keys entries := there _ (by simp)
    exact congrArg (setAll rest) (set_set_comm hne hx x.2 y.2)
  | trans hfirst _ ihfirst ihsecond =>
    have hkeys := hfirst.map Prod.fst
    refine (ihfirst distinct there).trans (ihsecond (hkeys.nodup_iff.mp distinct) ?_)
    exact fun key hkey => there key (hkeys.mem_iff.mpr hkey)

/-- New entries with distinct keys come last. -/
theorem setAll_of_distinct {values entries : List (String × α)} (h : Distinct (entries ++ values)) :
    setAll values entries = entries ++ values := by
  induction values generalizing entries with
  | nil => simp
  | cons value rest ih =>
    have habsent : value.1 ∉ keys entries := by
      rw [Distinct, keys_append, keys_cons, List.nodup_middle, List.nodup_cons, List.mem_append,
        not_or] at h
      exact h.1.1
    have hsplit : entries ++ value :: rest = entries ++ [value] ++ rest := by simp
    rw [setAll_cons, set_of_not_mem habsent, ih (hsplit ▸ h), hsplit]

/-! ### The entries as a map holds them

A map is filled by putting the values one after the other, so that `merge entries` is `setAll
entries []`. -/

/-- Entries with distinct keys are what a map holds. -/
theorem merge_of_distinct {entries : List (String × α)} (distinct : Distinct entries) :
    merge entries = entries := setAll_of_distinct distinct

/-- A map has as many entries as there are different keys. -/
theorem length_merge (entries : List (String × α)) :
    (merge entries).length = (keys entries).dedup.length := by
  have hempty : (keys ([] : List (String × α))).Nodup := List.nodup_nil
  have hperm : (keys (merge entries)).Perm (keys entries).dedup := by
    refine (List.perm_ext_iff_of_nodup (nodup_keys_setAll hempty) (List.nodup_dedup _)).mpr ?_
    intro key
    rw [List.mem_dedup, mem_keys_setAll]
    simp
  rw [← hperm.length_eq, keys, List.length_map]

/-! ### The entry that a look-up finds -/

/-- An entry under another key may have any value. -/
theorem get?_middle_of_ne {key other : String} (hne : other ≠ key)
    (before after : List (String × α)) (x y : α) :
    get? other (before ++ (key, x) :: after) = get? other (before ++ (key, y) :: after) := by
  induction before with
  | nil =>
    rw [List.nil_append, List.nil_append, get?_cons, get?_cons, if_neg (Ne.symm hne),
      if_neg (Ne.symm hne)]
  | cons entry rest ih => rw [List.cons_append, List.cons_append, get?_cons, get?_cons, ih]

/-- Values made from those that are there are found where those are found. -/
theorem get?_map {β : Type u} (f : String → α → β) (key : String) (entries : List (String × α)) :
    get? key (entries.map fun entry => (entry.1, f entry.1 entry.2)) =
      (get? key entries).map (f key) := by
  induction entries with
  | nil => rfl
  | cons entry rest ih =>
    obtain ⟨k, v⟩ := entry
    rw [List.map_cons, get?_cons, get?_cons, ih]
    split
    · next hk => rw [hk]; rfl
    · rfl

/-- The first entry with a key is the one that is found. -/
theorem get?_eq_some_iff {key : String} {value : α} {entries : List (String × α)} :
    get? key entries = some value ↔
      ∃ before after, key ∉ keys before ∧ entries = before ++ (key, value) :: after := by
  induction entries with
  | nil => simp
  | cons entry rest ih =>
    obtain ⟨k, v⟩ := entry
    rw [get?_cons]
    constructor
    · intro h
      split at h
      · next hk =>
        cases h
        exact ⟨[], rest, by simp, by rw [hk]; rfl⟩
      · next hk =>
        obtain ⟨before, after, habsent, rfl⟩ := ih.mp h
        exact ⟨(k, v) :: before, after, by simpa [Ne.symm hk] using habsent, rfl⟩
    · rintro ⟨before, after, habsent, heq⟩
      cases before with
      | nil =>
        cases heq
        exact if_pos rfl
      | cons first before =>
        cases heq
        rw [keys_cons, List.mem_cons, not_or] at habsent
        rw [if_neg (Ne.symm habsent.1)]
        exact ih.mpr ⟨before, after, habsent.2, rfl⟩

theorem mem_of_get? {key : String} {value : α} {entries : List (String × α)}
    (h : get? key entries = some value) :
    (key, value) ∈ entries := by
  obtain ⟨before, after, -, rfl⟩ := get?_eq_some_iff.mp h
  simp

/-! ### The entry that a map shows -/

theorem get?_append (key : String) (a b : List (String × α)) :
    get? key (a ++ b) = (get? key a).or (get? key b) := by
  induction a with
  | nil => rfl
  | cons entry rest ih =>
    obtain ⟨k, v⟩ := entry
    rw [List.cons_append, get?_cons, get?_cons, ih]
    split
    · rfl
    · rfl

/-- Of values put one after the other, the last one under a key is found. -/
theorem get?_setAll_reverse (key : String) (values entries : List (String × α)) :
    get? key (setAll values entries) = (get? key values.reverse).or (get? key entries) := by
  induction values generalizing entries with
  | nil => rfl
  | cons value rest ih =>
    obtain ⟨name, value⟩ := value
    rw [setAll_cons, ih, List.reverse_cons, get?_append, Option.or_assoc, get?_set, get?_cons]
    congr 1
    by_cases h : key = name
    · rw [if_pos h, if_pos h.symm]
      rfl
    · rw [if_neg h, if_neg (Ne.symm h)]
      rfl

/-- **A map shows the last entry** with a key. -/
theorem get?_merge_eq_some_iff {key : String} {value : α} {entries : List (String × α)} :
    get? key (merge entries) = some value ↔
      ∃ before after, entries = before ++ (key, value) :: after ∧ key ∉ keys after := by
  have hlast : get? key (merge entries) = get? key entries.reverse := by
    rw [merge, ← setAll, get?_setAll_reverse, get?_nil, Option.or_none]
  rw [hlast, get?_eq_some_iff]
  constructor
  · rintro ⟨before, after, habsent, heq⟩
    refine ⟨after.reverse, before.reverse, ?_, ?_⟩
    · rw [← List.reverse_inj, heq]
      simp
    · rwa [keys, List.map_reverse, List.mem_reverse]
  · rintro ⟨before, after, rfl, habsent⟩
    refine ⟨after.reverse, before.reverse, ?_, by simp⟩
    rwa [keys, List.map_reverse, List.mem_reverse]

theorem distinct_merge (entries : List (String × α)) : Distinct (merge entries) :=
  nodup_keys_setAll List.nodup_nil

/-- The keys of values put one after the other depend on keys only. -/
theorem keys_setAll_congr {values others entries entries' : List (String × α)}
    (hvalues : keys values = keys others) (hentries : keys entries = keys entries') :
    keys (setAll values entries) = keys (setAll others entries') := by
  induction values generalizing others entries entries' with
  | nil =>
    have hnil : others = [] := List.map_eq_nil_iff.mp hvalues.symm
    rw [hnil]
    exact hentries
  | cons value rest ih =>
    cases others with
    | nil => cases hvalues
    | cons other others =>
      obtain ⟨hkey, hrest⟩ := List.cons.inj hvalues
      rw [setAll_cons, setAll_cons]
      refine ih hrest ?_
      rw [keys_set, keys_set, hentries, hkey]

end ContentGraph.Keyed
