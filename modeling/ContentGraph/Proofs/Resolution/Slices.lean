import ContentGraph.Resolution

/-!
# Slices in place of their node ids

A slice zone holds node ids among inline slices.  The ids are read off in one pass and asked for in
one batch; the answers are put back in a second pass, which takes one answer for each id.  The two
passes stay in step, however ids, inline slices and `null`s are mixed and however many answers come.

* `nodeIds`, `idsBefore`, `answerAt` — the ids of a zone, the number of an id among them, the answer
  of that number;
* `FilledWith` with `filledWith_fillNodes` — the elements with every id replaced by the answer of
  its number;
* `fillNodes_map` — answers that are aligned with the ids put its own node in place of every id;
* `sliceNodes_aligned` — what a slice zone resolves to, and what the store is asked for.
-/

namespace ContentGraph

/-! ### Ids by number -/

/-- The node ids among the elements of a slice zone, in order and with repetitions. -/
def nodeIds (elements : List Json) : List String := elements.filterMap Json.asString?

/-- The number of the ids that stand before an index. -/
def idsBefore (elements : List Json) (index : Nat) : Nat := (nodeIds (elements.take index)).length

/-- The answer of a number: `null` when there is none, or when it says that the node is missing. -/
def answerAt (answers : List (Option Json)) (number : Nat) : Json :=
  answers[number]?.join.getD .null

theorem nodeIds_cons_inline {element : Json} (h : element.asString? = none) (rest : List Json) :
    nodeIds (element :: rest) = nodeIds rest := List.filterMap_cons_none h

theorem idsBefore_cons_id (id : String) (rest : List Json) (index : Nat) :
    idsBefore (.string id :: rest) (index + 1) = idsBefore rest index + 1 := rfl

theorem idsBefore_cons_inline {element : Json} (h : element.asString? = none) (rest : List Json)
    (index : Nat) :
    idsBefore (element :: rest) (index + 1) = idsBefore rest index := by
  rw [idsBefore, List.take_succ_cons, nodeIds_cons_inline h, idsBefore]

theorem answerAt_zero (answers : List (Option Json)) :
    answerAt answers 0 = answers.head?.join.getD .null := by
  rw [answerAt, List.head?_eq_getElem?]

theorem answerAt_succ (answers : List (Option Json)) (number : Nat) :
    answerAt answers (number + 1) = answerAt answers.tail number := by
  rw [answerAt, answerAt, List.getElem?_tail]

/-! ### Filling in -/

theorem fillNodes_cons_id (id : String) (rest : List Json) (answers : List (Option Json)) :
    fillNodes (.string id :: rest) answers = answerAt answers 0 :: fillNodes rest answers.tail := by
  rw [fillNodes, answerAt_zero]

theorem fillNodes_cons_inline {element : Json} (h : element.asString? = none) (rest : List Json)
    (answers : List (Option Json)) :
    fillNodes (element :: rest) answers = element :: fillNodes rest answers := by
  cases element with
  | string id => cases h
  | _ => rfl

/-- The elements with every id replaced by the answer of its number, and nothing else changed. -/
structure FilledWith (elements : List Json) (answers : List (Option Json))
    (values : List Json) : Prop where
  length : values.length = elements.length
  inline : ∀ (index : Nat) (element : Json), elements[index]? = some element →
    element.asString? = none →
    values[index]? = some element
  ids : ∀ (index : Nat) (id : String), elements[index]? = some (.string id) →
    values[index]? = some (answerAt answers (idsBefore elements index))

/-- **An id takes one answer**, an inline element takes none. -/
theorem filledWith_fillNodes (elements : List Json) (answers : List (Option Json)) :
    FilledWith elements answers (fillNodes elements answers) := by
  induction elements generalizing answers with
  | nil =>
    have hnone (index : Nat) (element : Json) : ([] : List Json)[index]? ≠ some element := by simp
    exact ⟨rfl, fun index element h => absurd h (hnone index element),
      fun index id h => absurd h (hnone index _)⟩
  | cons first rest ih =>
    cases hfirst : first.asString? with
    | some id =>
      obtain rfl : first = .string id := by
        cases first <;> cases hfirst
        rfl
      obtain ⟨hlength, hinline, hids⟩ := ih answers.tail
      rw [fillNodes_cons_id]
      refine ⟨congrArg Nat.succ hlength, ?_, ?_⟩
      · rintro (_ | index) element helement hkind
        · cases helement
          cases hkind
        · exact hinline index element helement hkind
      · rintro (_ | index) other helement
        · rfl
        · rw [idsBefore_cons_id, answerAt_succ]
          exact hids index other helement
    | none =>
      obtain ⟨hlength, hinline, hids⟩ := ih answers
      rw [fillNodes_cons_inline hfirst]
      refine ⟨congrArg Nat.succ hlength, ?_, ?_⟩
      · rintro (_ | index) element helement hkind
        · exact helement
        · exact hinline index element helement hkind
      · rintro (_ | index) other helement
        · cases helement
          cases hfirst
        · rw [idsBefore_cons_inline hfirst]
          exact hids index other helement

/-- Without ids there is nothing to fill in. -/
theorem fillNodes_of_no_ids {elements : List Json} (h : nodeIds elements = [])
    (answers : List (Option Json)) :
    fillNodes elements answers = elements := by
  induction elements with
  | nil => rfl
  | cons first rest ih =>
    rw [nodeIds, List.filterMap_eq_nil_iff, List.forall_mem_cons] at h
    rw [fillNodes_cons_inline h.1, ih (List.filterMap_eq_nil_iff.mpr h.2)]

/-- An element with its node in place of an id. -/
def withOwnNode (node? : String → Option Json) : Json → Json
  | .string id => (node? id).getD .null
  | inline => inline

/-- **Aligned answers** put its own node in place of every id. -/
theorem fillNodes_map (node? : String → Option Json) (elements : List Json) :
    fillNodes elements ((nodeIds elements).map node?) = elements.map (withOwnNode node?) := by
  induction elements with
  | nil => rfl
  | cons first rest ih =>
    cases first with
    | string id =>
      rw [fillNodes_cons_id, List.map_cons, ← ih]
      rfl
    | _ =>
      rw [nodeIds_cons_inline rfl, fillNodes_cons_inline rfl, ih]
      rfl

/-! ### Slice zones -/

/-- The store is asked for all ids at once, and not at all when there are none. -/
theorem resolveSliceNodes_array (context : ResolveContext) (elements : List Json) :
    resolveSliceNodes context (some (.array elements)) =
      { value := .array (fillNodes elements (context.store.nodes (nodeIds elements)))
        lookups := if nodeIds elements = [] then [] else [.nodes (nodeIds elements)] } := by
  have hids : elements.filterMap Json.asString? = nodeIds elements := rfl
  simp only [resolveSliceNodes, hids, List.isEmpty_iff]
  by_cases hnone : nodeIds elements = []
  · rw [if_pos hnone, if_pos hnone, fillNodes_of_no_ids hnone, fillNodes_of_no_ids hnone]
  · rw [if_neg hnone, if_neg hnone]

/-- **Slices stay aligned with their ids.**  A list of elements resolves to a list of the same
length.  Whatever is no string stays where it is; a string is replaced by the answer of its number
among the strings, by `null` when that is missing.  The store is asked once, for the strings in
order, and not at all when there are none.  If it answers id by id, every string is replaced by its
own node. -/
theorem sliceNodes_aligned (context : ResolveContext) {parent : Json} {field : String}
    {elements : List Json} (h : parent.get? field = some (.array elements)) :
    let resolved := FieldResolver.sliceNodes.resolve context parent field
    (∃ values, resolved.value = .array values ∧
      FilledWith elements (context.store.nodes (nodeIds elements)) values) ∧
      resolved.lookups = (if nodeIds elements = [] then [] else [.nodes (nodeIds elements)]) ∧
      ∀ node?, context.store.nodes (nodeIds elements) = (nodeIds elements).map node? →
        resolved.value = .array (elements.map (withOwnNode node?)) := by
  intro resolved
  have hresolved : resolved =
      { value := .array (fillNodes elements (context.store.nodes (nodeIds elements)))
        lookups := if nodeIds elements = [] then [] else [.nodes (nodeIds elements)] } := by
    show FieldResolver.sliceNodes.resolve context parent field = _
    rw [FieldResolver.resolve, h, resolveSliceNodes_array]
  rw [hresolved]
  refine ⟨⟨_, rfl, filledWith_fillNodes elements _⟩, rfl, ?_⟩
  intro node? haligned
  rw [haligned, fillNodes_map]

/-- Three ids, one of them twice, among an inline slice and a `null`; the store answers for two of
them, the second time that the node is missing. -/
theorem sliceNodes_aligned_short :
    let elements : List Json := [.string "a", .object [], .string "b", .null, .string "a"]
    let store : NodeStore := ⟨fun _ _ => none, fun _ => [some (.bool true), none]⟩
    let parent : Json := .object [("body", .array elements)]
    let resolved :=
      FieldResolver.sliceNodes.resolve ⟨store, fun type id => type ++ id, {}⟩ parent "body"
    parent.get? "body" = some (.array elements) ∧ resolved.lookups = [.nodes ["a", "b", "a"]] ∧
      ∃ values, resolved.value = .array values ∧ values.length = 5 ∧
        values[0]? = some (.bool true) ∧ values[1]? = some (.object []) ∧ values[2]? = some .null ∧
        values[3]? = some .null ∧ values[4]? = some .null := by
  intro elements store parent resolved
  have hparent : parent.get? "body" = some (.array elements) := rfl
  obtain ⟨⟨values, hvalue, hfilled⟩, hlookups, -⟩ :=
    sliceNodes_aligned ⟨store, fun type id => type ++ id, {}⟩ hparent
  exact ⟨hparent, hlookups, values, hvalue, hfilled.length, hfilled.ids 0 "a" rfl,
    hfilled.inline 1 _ rfl rfl, hfilled.ids 2 "b" rfl, hfilled.inline 3 _ rfl rfl,
    hfilled.ids 4 "a" rfl⟩

end ContentGraph
