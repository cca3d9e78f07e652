/-!
# Keyed entries

Members of a record, fields of a group and choices of a slice zone are all lists of keyed entries
whose order matters.  This module holds the few operations on such lists:

* `get?` — the value under a key (the first one, should the key repeat);
* `set` — a value put under a key: in place when the key is there, at the end when it is not;
* `merge` — the list as a map reads it: a repeated key keeps its first position and its last value.
-/

namespace ContentGraph.Keyed

universe u
variable {α : Type u}

/-- The keys in order. -/
def keys (entries : List (String × α)) : List String := entries.map Prod.fst

/-- The value under `key`, if there is one. -/
def get? (key : String) : List (String × α) → Option α
  | [] => none
  | (k, v) :: rest => if k = key then some v else get? key rest

/-- `value` under `key`: in place of the old value, or at the end. -/
def set (key : String) (value : α) : List (String × α) → List (String × α)
  | [] => [(key, value)]
  | (k, v) :: rest => if k = key then (k, value) :: rest else (k, v) :: set key value rest

/-- The entries as a map holds them: each key once, at its first position, with its last value. -/
def merge (entries : List (String × α)) : List (String × α) :=
  entries.foldl (fun merged entry => set entry.1 entry.2 merged) []

/-- No key occurs twice. -/
def Distinct (entries : List (String × α)) : Prop := (keys entries).Nodup

instance (entries : List (String × α)) : Decidable (Distinct entries) :=
  inferInstanceAs (Decidable (List.Nodup _))

/-! ### What each operation does to a look-up -/

@[simp] theorem get?_nil (key : String) : get? key ([] : List (String × α)) = none := rfl

theorem get?_cons (key k : String) (v : α) (rest : List (String × α)) :
    get? key ((k, v) :: rest) = if k = key then some v else get? key rest := rfl

/-- Nothing is found under a key that is not there. -/
theorem get?_eq_none_iff {key : String} {entries : List (String × α)} :
    get? key entries = none ↔ key ∉ keys entries := by
  induction entries with
  | nil => simp [keys]
  | cons entry rest ih =>
    rcases entry with ⟨k, v⟩
    by_cases h : k = key
    · simp [get?, keys, h]
    · simpa [get?, keys, h, Ne.symm h] using ih

/-- Where keys are distinct, what is there is found. -/
theorem get?_of_mem {key : String} {value : α} {entries : List (String × α)}
    (distinct : Distinct entries) (h : (key, value) ∈ entries) : get? key entries = some value := by
  induction entries with
  | nil => simp at h
  | cons entry rest ih =>
    rcases entry with ⟨k, v⟩
    rw [Distinct, keys, List.map_cons, List.nodup_cons] at distinct
    rw [get?_cons]
    rcases List.mem_cons.mp h with heq | hrest
    · cases heq
      exact if_pos rfl
    · have hne : k ≠ key := by
        intro hk
        exact distinct.1 (List.mem_map.mpr ⟨(key, value), hrest, hk.symm⟩)
      rw [if_neg hne]
      exact ih distinct.2 hrest

/-- The value just put under a key is found there. -/
@[simp] theorem get?_set_self (key : String) (value : α) (entries : List (String × α)) :
    get? key (set key value entries) = some value := by
  induction entries with
  | nil => simp [set, get?]
  | cons entry rest ih =>
    rcases entry with ⟨k, v⟩
    by_cases h : k = key <;> simp [set, get?, h, ih]

/-- Other keys are not touched. -/
theorem get?_set_of_ne {key other : String} (h : other ≠ key) (value : α)
    (entries : List (String × α)) : get? other (set key value entries) = get? other entries := by
  induction entries with
  | nil => simp [set, get?, Ne.symm h]
  | cons entry rest ih =>
    rcases entry with ⟨k, v⟩
    by_cases hk : k = key
    · subst hk
      simp [set, get?, Ne.symm h]
    · by_cases ho : k = other
      · subst ho
        simp [set, get?, hk]
      · simp [set, get?, hk, ho, ih]

end ContentGraph.Keyed
