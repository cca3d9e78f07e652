import ContentGraph.Json
import ContentGraph.Proofs.Keyed

/-!
# Locations inside a value

A location leads from a value to one of its parts, through members of objects and elements of
arrays.  Members come in two sorts: those of a field record may be exposed under another name, all
others keep theirs.

* `Json.at?` — the part at a location;
* `exposedNames`, `Location.exposed` — the names of a record's fields, and a location with them, as
  they are exposed;
* `get?_merge_exposed` — the field that is shown under an exposed name: the last one;
* `Location.Differ` — two values that are the same everywhere but at one location, with
  `differ_append`, `at?_of_differ` and `differ_refl`.
-/

namespace ContentGraph

/-! ### Well-formed parts -/

namespace Json

theorem wellFormedElements_iff {elements : List Json} :
    WellFormedElements elements ↔ ∀ element ∈ elements, element.WellFormed := by
  induction elements with
  | nil => simp [WellFormedElements]
  | cons element rest ih => rw [WellFormedElements, ih, List.forall_mem_cons]

theorem wellFormedMembers_iff {members : List (String × Json)} :
    WellFormedMembers members ↔ ∀ member ∈ members, member.2.WellFormed := by
  induction members with
  | nil => simp [WellFormedMembers]
  | cons member rest ih => rw [WellFormedMembers, ih, List.forall_mem_cons]

theorem WellFormed.element {elements : List Json} (h : (Json.array elements).WellFormed)
    {element : Json} (helement : element ∈ elements) : element.WellFormed := by
  rw [WellFormed, wellFormedElements_iff] at h
  exact h element helement

theorem WellFormed.distinct {members : List (String × Json)}
    (h : (Json.object members).WellFormed) :
    Keyed.Distinct members := by
  rw [WellFormed] at h
  exact h.1

theorem WellFormed.get? {value part : Json} (h : value.WellFormed) {key : String}
    (hpart : value.get? key = some part) : part.WellFormed := by
  cases value with
  | object members =>
    rw [WellFormed, wellFormedMembers_iff] at h
    obtain ⟨before, after, -, rfl⟩ := Keyed.get?_eq_some_iff.mp hpart
    exact h.2 (key, part) (by simp)
  | _ => cases hpart

end Json

/-! ### Steps -/

/-- A step from a value to a part of it. -/
inductive Step
  /-- To a member of an object, under a name that stays. -/
  | member (key : String)
  /-- To a field of a record, under a name that may be exposed as another. -/
  | field (key : String)
  /-- To an element of an array. -/
  | element (index : Nat)
  deriving DecidableEq, Repr

/-- Steps from a value to a part of it, outermost first. -/
abbrev Location := List Step

/-! ### Fields under their exposed names -/

/-- The names of the fields of a record as they are exposed, in order. -/
def exposedNames (rename : String → String) (members : List (String × Json)) : List String :=
  members.map fun member => rename member.1

theorem keys_exposed (rename : String → String) (f : String → Json → Json)
    (members : List (String × Json)) :
    Keyed.keys (members.map fun member => (rename member.1, f member.1 member.2)) =
      exposedNames rename members := by
  rw [Keyed.keys, List.map_map]
  rfl

/-- The last field that is exposed under a name is the one that is shown. -/
theorem get?_merge_exposed {rename : String → String} (f : String → Json → Json)
    {members before after : List (String × Json)} {name : String} {field : Json}
    (split : members = before ++ (name, field) :: after)
    (last : rename name ∉ exposedNames rename after) :
    Keyed.get? (rename name) (Keyed.merge
      (members.map fun member => (rename member.1, f member.1 member.2))) =
        some (f name field) := by
  subst split
  rw [List.map_append, List.map_cons]
  refine Keyed.get?_merge_eq_some_iff.mpr ⟨_, _, rfl, ?_⟩
  rwa [keys_exposed]

/-! ### Steps and parts -/

namespace Step

/-- The part of a value that a step leads to. -/
def part? : Step → Json → Option Json
  | .member key, value => value.get? key
  | .field key, value => value.get? key
  | .element index, value => value.asArray?.bind fun elements => elements[index]?

/-- The step with the name of a field as it is exposed. -/
def exposed (rename : String → String) : Step → Step
  | .field key => .field (rename key)
  | .member key => .member key
  | .element index => .element index

/-- Two values are the same but for the part that a step leads to, which is `u` in the one and `v`
in the other. -/
def Differ (step : Step) (a b u v : Json) : Prop :=
  match step with
  | .member key | .field key =>
    ∃ before after, key ∉ Keyed.keys before ∧
      a = .object (before ++ (key, u) :: after) ∧ b = .object (before ++ (key, v) :: after)
  | .element index =>
    ∃ before after, before.length = index ∧
      a = .array (before ++ u :: after) ∧ b = .array (before ++ v :: after)

variable {step : Step} {a b u v : Json}

/-- Parts of a well-formed value are well-formed. -/
theorem wellFormed_part (h : a.WellFormed) (hpart : step.part? a = some u) : u.WellFormed := by
  cases step with
  | member key => exact h.get? hpart
  | field key => exact h.get? hpart
  | element index =>
    obtain ⟨elements, helements, hu⟩ := Option.bind_eq_some_iff.mp hpart
    cases a with
    | array found =>
      cases helements
      exact h.element (List.mem_of_getElem? hu)
    | _ => cases helements

theorem part?_of_differ (h : step.Differ a b u v) : step.part? a = some u := by
  cases step with
  | member key =>
    obtain ⟨before, after, habsent, rfl, -⟩ := h
    exact Keyed.get?_eq_some_iff.mpr ⟨before, after, habsent, rfl⟩
  | field key =>
    obtain ⟨before, after, habsent, rfl, -⟩ := h
    exact Keyed.get?_eq_some_iff.mpr ⟨before, after, habsent, rfl⟩
  | element index =>
    obtain ⟨before, after, rfl, rfl, -⟩ := h
    simp [part?, Json.asArray?]

/-- A value does not differ from itself. -/
theorem differ_refl (h : step.part? a = some u) : step.Differ a a u u := by
  have hmember {key : String} (hkey : a.get? key = some u) :
      ∃ before after, key ∉ Keyed.keys before ∧
        a = .object (before ++ (key, u) :: after) ∧ a = .object (before ++ (key, u) :: after) := by
    cases a with
    | object members =>
      obtain ⟨before, after, habsent, rfl⟩ := Keyed.get?_eq_some_iff.mp hkey
      exact ⟨before, after, habsent, rfl, rfl⟩
    | _ => cases hkey
  cases step with
  | member key => exact hmember h
  | field key => exact hmember h
  | element index =>
    cases a with
    | array elements =>
      obtain ⟨hindex, hu⟩ := List.getElem?_eq_some_iff.mp h
      have hsplit : elements = elements.take index ++ u :: elements.drop (index + 1) := by
        rw [← hu, List.getElem_cons_drop, List.take_append_drop]
      refine ⟨elements.take index, elements.drop (index + 1), ?_, ?_, ?_⟩
      · rw [List.length_take, Nat.min_eq_left (Nat.le_of_lt hindex)]
      · exact congrArg Json.array hsplit
      · exact congrArg Json.array hsplit
    | _ => cases h

/-- A value with parts is no text. -/
theorem asString?_of_differ (h : step.Differ a b u v) : a.asString? = none ∧
    b.asString? = none := by
  cases step with
  | member key =>
    obtain ⟨before, after, -, rfl, rfl⟩ := h
    exact ⟨rfl, rfl⟩
  | field key =>
    obtain ⟨before, after, -, rfl, rfl⟩ := h
    exact ⟨rfl, rfl⟩
  | element index =>
    obtain ⟨before, after, -, rfl, rfl⟩ := h
    exact ⟨rfl, rfl⟩

/-! ### Values made part by part -/

/-- Arrays that differ in one element still do so when a function is applied to every element. -/
theorem differ_elements {index : Nat} {elements : List Json} (f : Json → Json)
    (h : (element index).Differ (.array elements) b u v) :
    ∃ others, b = .array others ∧
      (element index).Differ (.array (elements.map f)) (.array (others.map f)) (f u) (f v) := by
  obtain ⟨before, after, hlength, ha, rfl⟩ := h
  cases ha
  refine ⟨_, rfl, before.map f, after.map f, ?_, ?_, ?_⟩
  · rw [List.length_map, hlength]
  · rw [List.map_append, List.map_cons]
  · rw [List.map_append, List.map_cons]

/-- Objects that differ in one member still do so when a function is applied to every member's
value. -/
theorem differ_members {key : String} {members : List (String × Json)} (f : String → Json → Json)
    (h : (member key).Differ (.object members) b u v) :
    ∃ others, b = .object others ∧
      (∀ name, name ≠ key → Keyed.get? name others = Keyed.get? name members) ∧
      (member key).Differ (.object (members.map fun member => (member.1, f member.1 member.2)))
        (.object (others.map fun member => (member.1, f member.1 member.2)))
        (f key u) (f key v) := by
  obtain ⟨before, after, habsent, ha, rfl⟩ := h
  cases ha
  refine ⟨_, rfl, fun name hname => Keyed.get?_middle_of_ne hname before after v u, ?_⟩
  refine ⟨before.map fun member => (member.1, f member.1 member.2),
    after.map fun member => (member.1, f member.1 member.2), ?_, ?_, ?_⟩
  · rw [Keyed.keys, List.map_map]
    exact habsent
  · rw [List.map_append, List.map_cons]
  · rw [List.map_append, List.map_cons]

/-- Records that differ in one field still do so when a function is applied to every field's value
and the fields are exposed under names that are kept apart. -/
theorem differ_fields {key : String} {members : List (String × Json)} {rename : String → String}
    (apart : (exposedNames rename members).Nodup) (f : String → Json → Json)
    (h : (field key).Differ (.object members) b u v) :
    ∃ others, b = .object others ∧
      exposedNames rename others = exposedNames rename members ∧
      (field (rename key)).Differ
        (.object (members.map fun member => (rename member.1, f member.1 member.2)))
        (.object (others.map fun member => (rename member.1, f member.1 member.2)))
        (f key u) (f key v) := by
  obtain ⟨before, after, -, ha, rfl⟩ := h
  cases ha
  refine ⟨_, rfl, by simp only [exposedNames, List.map_append, List.map_cons], ?_⟩
  refine ⟨before.map fun member => (rename member.1, f member.1 member.2),
    after.map fun member => (rename member.1, f member.1 member.2), ?_, ?_, ?_⟩
  · rw [exposedNames, List.map_append, List.map_cons, List.nodup_middle, List.nodup_cons,
      List.mem_append, not_or] at apart
    rw [Keyed.keys, List.map_map]
    exact apart.1.1
  · rw [List.map_append, List.map_cons]
  · rw [List.map_append, List.map_cons]

end Step

/-- The part of a value at a location. -/
def Json.at? (value : Json) : Location → Option Json
  | [] => some value
  | step :: rest => (step.part? value).bind fun part => part.at? rest

theorem Json.WellFormed.at? {value part : Json} (h : value.WellFormed) {location : Location}
    (hpart : value.at? location = some part) : part.WellFormed := by
  induction location generalizing value with
  | nil =>
    cases hpart
    exact h
  | cons step rest ih =>
    obtain ⟨u, hu, hrest⟩ := Option.bind_eq_some_iff.mp hpart
    exact ih (Step.wellFormed_part h hu) hrest

/-! ### Locations -/

namespace Location

/-- The location with the names of fields as they are exposed. -/
def exposed (rename : String → String) (location : Location) : Location :=
  location.map (Step.exposed rename)

/-- Two values are the same everywhere but at a location, where the one has `x` and the other has
`y`. -/
def Differ : Location → (a b x y : Json) → Prop
  | [], a, b, x, y => a = x ∧ b = y
  | step :: rest, a, b, x, y => ∃ u v, step.Differ a b u v ∧ Differ rest u v x y

/-- Two values are the same everywhere but at a location that both have. -/
def SameBut (location : Location) (a b : Json) : Prop := ∃ x y, location.Differ a b x y

variable {location more : Location} {a b x y : Json}

/-- To differ at a location inside of a part is to differ at that part, and there at the inner
location. -/
theorem differ_append :
    (location ++ more).Differ a b x y ↔ ∃ u v, location.Differ a b u v ∧ more.Differ u v x y := by
  induction location generalizing a b with
  | nil => exact ⟨fun h => ⟨a, b, ⟨rfl, rfl⟩, h⟩, fun ⟨_, _, ⟨hu, hv⟩, h⟩ => hu ▸ hv ▸ h⟩
  | cons step rest ih =>
    constructor
    · rintro ⟨s, t, hstep, hrest⟩
      obtain ⟨u, v, houter, hinner⟩ := ih.mp hrest
      exact ⟨u, v, ⟨s, t, hstep, houter⟩, hinner⟩
    · rintro ⟨u, v, ⟨s, t, hstep, houter⟩, hinner⟩
      exact ⟨s, t, hstep, ih.mpr ⟨u, v, houter, hinner⟩⟩

theorem differ_singleton {step : Step} : Differ [step] a b x y ↔ step.Differ a b x y := by
  constructor
  · rintro ⟨_, _, h, rfl, rfl⟩
    exact h
  · exact fun h => ⟨x, y, h, rfl, rfl⟩

theorem at?_of_differ (h : location.Differ a b x y) : a.at? location = some x := by
  induction location generalizing a b with
  | nil => exact congrArg some h.1
  | cons step rest ih =>
    obtain ⟨u, v, hstep, hrest⟩ := h
    rw [Json.at?, Step.part?_of_differ hstep]
    exact ih hrest

theorem differ_refl (h : a.at? location = some x) : location.Differ a a x x := by
  induction location generalizing a with
  | nil => exact ⟨Option.some.inj h, Option.some.inj h⟩
  | cons step rest ih =>
    obtain ⟨u, hu, hrest⟩ := Option.bind_eq_some_iff.mp h
    exact ⟨u, u, Step.differ_refl hu, ih hrest⟩

theorem at?_append (value : Json) (location more : Location) :
    value.at? (location ++ more) = (value.at? location).bind fun part => part.at? more := by
  induction location generalizing value with
  | nil => rfl
  | cons step rest ih =>
    rw [List.cons_append, Json.at?, Json.at?]
    cases step.part? value with
    | none => rfl
    | some part => exact ih part

@[simp] theorem exposed_append (rename : String → String) (location more : Location) :
    (location ++ more).exposed rename = location.exposed rename ++ more.exposed rename :=
  List.map_append

end Location

end ContentGraph
