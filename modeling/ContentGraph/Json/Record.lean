import ContentGraph.Json

/-!
# Records inside JSON

How stored records are recognized in a JSON value.  A record with fixed members is an object, other
members being ignored, or an array of the members in declared order, from which trailing ones may be
missing.  A tagged record names its kind in one of its members, or as the first element of an array;
some readers also know kinds by number.  Naming a fixed member twice is refused.

* `record?` — the fixed members that are present;
* `openRecord?` — fixed members and all others, of an object that keeps what it does not know;
* `tagged?` — the kind and the rest of a tagged record;
* `unitName?` — the name of a constant.
-/

namespace ContentGraph.Json

/-- The members whose names are listed, in written order. -/
def knownMembers (names : List String) (members : List (String × Json)) : List (String × Json) :=
  members.filter fun member => names.contains member.1

/-- The members whose names are not listed, in written order. -/
def otherMembers (names : List String) (members : List (String × Json)) : List (String × Json) :=
  members.filter fun member => !names.contains member.1

/-- The fixed members of a record, present ones only. -/
def record? (names : List String) : Json → Option (List (String × Json))
  | .object members =>
    let known := knownMembers names members
    if Keyed.Distinct known then some known else none
  | .array elements => if elements.length ≤ names.length then some (names.zip elements) else none
  | _ => none

/-- The fixed members of a record, and the others as a map. -/
def openRecord? (names : List String) : Json → Option (List (String × Json) × List (String × Json))
  | .object members =>
    let known := knownMembers names members
    if Keyed.Distinct known then
      some (known, Keyed.merge (mergedMembers (otherMembers names members)))
    else none
  | _ => none

/-- The kind that a value names: by its name, or by its place among the `numbered` kinds. -/
def kind? (numbered : List String) : Json → Option String
  | .string kind => some kind
  | .number (.integer place) => if 0 ≤ place then numbered[place.toNat]? else none
  | _ => none

/-- The kind that the member `tag` or the first element names, and the rest of the record. -/
def tagged? (tag : String) (numbered : List String) : Json → Option (String × Json)
  | .object members =>
    match knownMembers [tag] members with
    | [(_, value)] =>
      (value.kind? numbered).map fun kind => (kind, .object (otherMembers [tag] members))
    | _ => none
  | .array (first :: rest) => (first.kind? numbered).map fun kind => (kind, .array rest)
  | _ => none

/-- The name of a constant: a string, or an object whose only member has that name and the value
`null`. -/
def unitName? : Json → Option String
  | .string name => some name
  | .object [(name, .null)] => some name
  | _ => none

/-- The name of a constant inside a tagged record, where an empty object may stand for `null`. -/
def innerUnitName? : Json → Option String
  | .object [(name, .object [])] => some name
  | value => unitName? value

/-! ### Parts are smaller

Readers of nested records recurse on the parts that the functions above return. -/

theorem sizeOf_filter_le (p : String × Json → Bool) (members : List (String × Json)) :
    sizeOf (members.filter p) ≤ sizeOf members := by
  induction members with
  | nil => simp
  | cons member rest ih =>
    by_cases h : p member
    · simp only [List.filter_cons_of_pos h, List.cons.sizeOf_spec]
      omega
    · simp only [List.filter_cons_of_neg h, List.cons.sizeOf_spec]
      omega

/-- A value found under a key is smaller than the members. -/
theorem sizeOf_get?_lt {key : String} {value : Json} :
    ∀ {members : List (String × Json)}, Keyed.get? key members = some value →
      sizeOf value < sizeOf members
  | [], h => by simp at h
  | (k, v) :: rest, h => by
    rw [Keyed.get?_cons] at h
    split at h
    · cases h
      simp only [List.cons.sizeOf_spec, Prod.mk.sizeOf_spec]
      omega
    · have := sizeOf_get?_lt h
      simp only [List.cons.sizeOf_spec, Prod.mk.sizeOf_spec]
      omega

/-- A value found in a list of names and elements is smaller than the elements. -/
theorem sizeOf_get?_zip_lt {key : String} {value : Json} :
    ∀ {names : List String} {elements : List Json},
      Keyed.get? key (names.zip elements) = some value → sizeOf value < sizeOf elements
  | [], _, h => by simp at h
  | _ :: _, [], h => by simp at h
  | name :: names, element :: elements, h => by
    rw [List.zip_cons_cons, Keyed.get?_cons] at h
    split at h
    · cases h
      simp only [List.cons.sizeOf_spec]
      omega
    · have := sizeOf_get?_zip_lt h
      simp only [List.cons.sizeOf_spec]
      omega

/-- A member of a record is smaller than the record. -/
theorem sizeOf_record?_lt {names : List String} {value : Json} {record : List (String × Json)}
    {key : String} {part : Json} (h : value.record? names = some record)
    (hk : Keyed.get? key record = some part) : sizeOf part < sizeOf value := by
  unfold record? at h
  split at h
  · rename_i members
    simp only at h
    split at h
    · cases h
      have hlt := sizeOf_get?_lt hk
      have hle := sizeOf_filter_le (fun member => names.contains member.1) members
      simp only [knownMembers] at hlt
      simp only [Json.object.sizeOf_spec]
      omega
    · simp at h
  · split at h
    · cases h
      have := sizeOf_get?_zip_lt hk
      simp only [Json.array.sizeOf_spec]
      omega
    · simp at h
  · simp at h

/-- A fixed member of an open record is smaller than the record. -/
theorem sizeOf_openRecord?_lt {names : List String} {value : Json}
    {record : List (String × Json) × List (String × Json)} {key : String} {part : Json}
    (h : value.openRecord? names = some record) (hk : Keyed.get? key record.1 = some part) :
    sizeOf part < sizeOf value := by
  unfold openRecord? at h
  split at h
  · rename_i members
    simp only at h
    split at h
    · cases h
      have hlt := sizeOf_get?_lt hk
      have hle := sizeOf_filter_le (fun member => names.contains member.1) members
      simp only [knownMembers] at hlt
      simp only [Json.object.sizeOf_spec]
      omega
    · simp at h
  · simp at h

/-- The rest of a tagged record is no larger than the record. -/
theorem sizeOf_tagged?_le {tag : String} {numbered : List String} {value rest : Json}
    {kind : String} (h : value.tagged? tag numbered = some (kind, rest)) :
    sizeOf rest ≤ sizeOf value := by
  unfold tagged? at h
  split at h
  · rename_i members
    split at h
    · obtain ⟨_, _, heq⟩ := Option.map_eq_some_iff.1 h
      cases heq
      have := sizeOf_filter_le (fun member => !([tag].contains member.1)) members
      simp only [Json.object.sizeOf_spec, otherMembers]
      omega
    · simp at h
  · obtain ⟨_, _, heq⟩ := Option.map_eq_some_iff.1 h
    cases heq
    simp only [Json.array.sizeOf_spec, List.cons.sizeOf_spec]
    omega
  · simp at h

/-! ### Lists of strings -/

/-- All strings of an array. -/
def strings? (value : Json) : Option (List String) :=
  value.asArray?.bind fun elements => elements.mapM asString?

/-- An array of strings. -/
def ofStrings (texts : List String) : Json := .array (texts.map .string)

end ContentGraph.Json
