import ContentGraph.Proofs.Json.Location

/-!
# Values that are the same but for some parts

Two values are compared part by part, from a location downwards.  They have the same shape, and the
same in it, except where a relation on locations allows them to have different parts.

* `Json.EqualBut` — two values at a location that are the same but for parts that may differ;
* `EqualBut.eq` — values without such parts are equal;
* `EqualBut.map_elements`, `EqualBut.map_members`, `EqualBut.fields` — arrays, objects and field
  records that are made part by part by two functions;
* `EqualBut.of_get?`, `EqualBut.set` — objects name by name.
-/

namespace ContentGraph.Json

/-- Two values at a location are the same but for parts that may differ. -/
inductive EqualBut (differ : Location → Json → Json → Prop) : Location → Json → Json → Prop
  /-- Equal values. -/
  | same (location : Location) (a : Json) : EqualBut differ location a a
  /-- Parts that may differ. -/
  | differ {location : Location} {a b : Json} (h : differ location a b) :
      EqualBut differ location a b
  /-- Arrays of one length, element by element. -/
  | array {location : Location} {as bs : List Json} (length : as.length = bs.length)
      (elements : ∀ (index : Nat) x y, as[index]? = some x → bs[index]? = some y →
        EqualBut differ (location ++ [Step.element index]) x y) :
      EqualBut differ location (.array as) (.array bs)
  /-- Objects or field records with the same names in the same order, member by member. -/
  | object {location : Location} {as bs : List (String × Json)} (step : String → Step)
      (named : step = Step.member ∨ step = Step.field) (names : Keyed.keys as = Keyed.keys bs)
      (members : ∀ (index : Nat) name x y, as[index]? = some (name, x) →
        bs[index]? = some (name, y) →
        EqualBut differ (location ++ [step name]) x y) :
      EqualBut differ location (.object as) (.object bs)

namespace EqualBut

variable {differ : Location → Json → Json → Prop} {location : Location} {a b : Json}

/-- Values whose parts may not differ are equal. -/
theorem eq (h : EqualBut differ location a b)
    (never : ∀ location x y, differ location x y → x = y) :
    a = b := by
  induction h with
  | same location a => rfl
  | differ h => exact never _ _ _ h
  | @array location as bs length elements ih =>
    refine congrArg Json.array (List.ext_getElem length ?_)
    intro index hx hy
    exact ih index _ _ (List.getElem?_eq_getElem hx) (List.getElem?_eq_getElem hy)
  | @object location as bs step named names members ih =>
    have hlength : as.length = bs.length := by simpa [Keyed.keys] using congrArg List.length names
    refine congrArg Json.object (List.ext_getElem hlength ?_)
    intro index hx hy
    have hname : as[index].1 = bs[index].1 := by
      have hindex := congrArg (fun names => names[index]?) names
      simpa [Keyed.keys, hx, hy] using hindex
    refine Prod.ext hname (ih index as[index].1 _ _ (List.getElem?_eq_getElem hx) ?_)
    rw [hname]
    exact List.getElem?_eq_getElem hy

/-- Arrays that two functions make element by element. -/
theorem map_elements {elements : List Json} (f g : Json → Json)
    (h : ∀ (index : Nat) element, elements[index]? = some element →
      EqualBut differ (location ++ [Step.element index]) (f element) (g element)) :
    EqualBut differ location (.array (elements.map f)) (.array (elements.map g)) := by
  refine .array (by rw [List.length_map, List.length_map]) ?_
  intro index x y hx hy
  rw [List.getElem?_map, Option.map_eq_some_iff] at hx hy
  obtain ⟨element, helement, rfl⟩ := hx
  obtain ⟨_, hother, rfl⟩ := hy
  cases helement.symm.trans hother
  exact h index element helement

/-- Objects that two functions make member by member. -/
theorem map_members {members : List (String × Json)} (f g : String → Json → Json)
    (h : ∀ name value, (name, value) ∈ members →
      EqualBut differ (location ++ [Step.member name]) (f name value) (g name value)) :
    EqualBut differ location (.object (members.map fun member => (member.1, f member.1 member.2)))
      (.object (members.map fun member => (member.1, g member.1 member.2))) := by
  have hkeys : Keyed.keys (members.map fun member => (member.1, f member.1 member.2)) =
      Keyed.keys (members.map fun member => (member.1, g member.1 member.2)) := by
    rw [Keyed.keys, Keyed.keys, List.map_map, List.map_map]
    rfl
  refine .object .member (.inl rfl) hkeys ?_
  intro index name x y hx hy
  rw [List.getElem?_map, Option.map_eq_some_iff] at hx hy
  obtain ⟨⟨_, value⟩, hmember, hx⟩ := hx
  obtain ⟨_, hother, hy⟩ := hy
  cases hmember.symm.trans hother
  cases hx
  cases hy
  exact h _ value (List.mem_of_getElem? hmember)

/-- Objects with the same names, none of which repeats, name by name. -/
theorem of_get? {as bs : List (String × Json)} (step : String → Step)
    (named : step = Step.member ∨ step = Step.field) (names : Keyed.keys as = Keyed.keys bs)
    (distinct : Keyed.Distinct as)
    (h : ∀ name x y, Keyed.get? name as = some x → Keyed.get? name bs = some y →
      EqualBut differ (location ++ [step name]) x y) :
    EqualBut differ location (.object as) (.object bs) := by
  have hdistinct : Keyed.Distinct bs := by rwa [Keyed.Distinct, ← names]
  refine .object step named names ?_
  intro index name x y hx hy
  exact h name x y (Keyed.get?_of_mem distinct (List.mem_of_getElem? hx))
    (Keyed.get?_of_mem hdistinct (List.mem_of_getElem? hy))

/-- Objects with different values put under a name. -/
theorem set {members : List (String × Json)} {name : String} {x y : Json}
    (distinct : Keyed.Distinct members) (h : EqualBut differ (location ++ [Step.member name]) x y) :
    EqualBut differ location (.object (Keyed.set name x members))
      (.object (Keyed.set name y members)) := by
  have hkeys : Keyed.keys (Keyed.set name x members) = Keyed.keys (Keyed.set name y members) := by
    rw [Keyed.keys_set, Keyed.keys_set]
  have hdistinct : Keyed.Distinct (Keyed.set name x members) :=
    Keyed.distinct_set name x distinct
  refine of_get? .member (.inl rfl) hkeys hdistinct ?_
  intro other u v hu hv
  rw [Keyed.get?_set] at hu hv
  by_cases hother : other = name
  · rw [if_pos hother] at hu hv
    cases hu
    cases hv
    exact hother ▸ h
  · rw [if_neg hother] at hu hv
    cases hu.symm.trans hv
    exact .same _ _

/-- **Field records** that two functions make field by field: of fields that are exposed under one
name the last one is shown in both. -/
theorem fields {members : List (String × Json)} {rename : String → String}
    (f g : String → Json → Json)
    (h : ∀ before name field after, members = before ++ (name, field) :: after →
      rename name ∉ exposedNames rename after →
        EqualBut differ (location ++ [Step.field (rename name)]) (f name field) (g name field)) :
    EqualBut differ location
      (.object (Keyed.merge (members.map fun member => (rename member.1, f member.1 member.2))))
      (.object (Keyed.merge (members.map fun member => (rename member.1,
        g member.1 member.2)))) := by
  have hkeys :
      Keyed.keys (Keyed.merge (members.map fun member => (rename member.1, f member.1 member.2))) =
      Keyed.keys (Keyed.merge (members.map fun member => (rename member.1, g member.1 member.2))) :=
    Keyed.keys_setAll_congr (by rw [keys_exposed, keys_exposed]) rfl
  refine of_get? .field (.inr rfl) hkeys (Keyed.distinct_merge _) ?_
  intro key x y hx hy
  obtain ⟨before, after, hsplit, habsent⟩ := Keyed.get?_merge_eq_some_iff.mp hx
  obtain ⟨shown, rest, rfl, -, hrest⟩ := List.map_eq_append_iff.mp hsplit
  obtain ⟨⟨name, field⟩, later, rfl, hfield, rfl⟩ := List.map_eq_cons_iff.mp hrest
  cases hfield
  rw [keys_exposed] at habsent
  -- the same field is the last one under its name for the other function
  cases (get?_merge_exposed g rfl habsent).symm.trans hy
  exact h shown name field later rfl habsent

end EqualBut

end ContentGraph.Json
