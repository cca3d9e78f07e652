import ContentGraph.Proofs.RichText.Markup
import Mathlib.Data.List.Chain
import Mathlib.Logic.ExistsUnique

/-!
# Blocks in maximal runs

A rich text is rendered run by run: a block by itself, or neighbouring list items of one kind
together in one list. The runs are as long as they can be, and there is only one way to cut blocks
into such runs.  So a text may be rendered in two parts wherever no list is cut, and a list is one
element around its items.

* `Renderer.runs_append`, `Renderer.blocks_eq_mapM`, `Renderer.runs_eq_mapM` — sequences of blocks
  and of runs;
* `runs_append_of_apart`, `runs_of_items` — the runs of two texts, and of items of one kind;
* `MaximalRuns` with `maximalRuns_iff` — what the runs of a text are, said without the grouping;
* `asHtml_by_maximal_runs` — the markup of two texts, of a list and of any text.
-/

namespace ContentGraph.RichText

/-! ### Sequences of runs -/

namespace Renderer

variable (r : Renderer)

/-- **Runs after runs** are rendered one after the other. -/
theorem runs_append (a b : List Run) : r.runs (a ++ b) = followedBy (r.runs a) (r.runs b) := by
  induction a with
  | nil => exact (empty_followedBy _).symm
  | cons first rest ih => rw [List.cons_append, runs_cons, runs_cons, ih, followedBy_assoc]

end Renderer

/-- One more rendering in front of several that are joined. -/
theorem followedBy_map_join (first : Except FieldError String)
    (rest : Except FieldError (List String)) :
    followedBy first (rest.map String.join) = (do return String.join ((← first) :: (← rest))) := by
  cases first with
  | error e => rfl
  | ok html =>
    cases rest with
    | error e => rfl
    | ok more => exact congrArg Except.ok String.join_cons.symm

namespace Renderer

variable (r : Renderer)

/-- **Blocks** are their own renderings, joined in order. -/
theorem blocks_eq_mapM (items : List Json) :
    r.blocks items = (items.mapM r.block).map String.join := by
  induction items with
  | nil => rfl
  | cons first rest ih =>
    rw [blocks_cons, ih, followedBy_map_join, List.mapM_cons]
    cases r.block first with
    | error e => rfl
    | ok html => cases rest.mapM r.block <;> rfl

/-- **Runs** are their own renderings, joined in order. -/
theorem runs_eq_mapM (split : List Run) : r.runs split = (split.mapM r.run).map String.join := by
  induction split with
  | nil => rfl
  | cons first rest ih =>
    rw [runs_cons, ih, followedBy_map_join, List.mapM_cons]
    cases r.run first with
    | error e => rfl
    | ok html => cases rest.mapM r.run <;> rfl

end Renderer

/-! ### Items of lists -/

/-- The type of the blocks that are items of a kind of list. -/
def ListKind.itemType : ListKind → String
  | .unordered => "list-item"
  | .ordered => "o-list-item"

/-- A block is an item of a kind of list by its type. -/
theorem listKind?_eq_some_iff {block : Json} {kind : ListKind} :
    listKind? block = some kind ↔ block.getText "type" = kind.itemType := by
  unfold listKind?
  cases kind with
  | unordered =>
    by_cases h : block.getText "type" = "list-item"
    · simp [h, ListKind.itemType]
    · by_cases ho : block.getText "type" = "o-list-item" <;> simp [h, ho, ListKind.itemType]
  | ordered =>
    by_cases h : block.getText "type" = "list-item"
    · simp [h, ListKind.itemType]
    · by_cases ho : block.getText "type" = "o-list-item" <;> simp [ho, ListKind.itemType]

/-- The kind of list that a run is. -/
def Run.kind? : Run → Option ListKind
  | .single _ => none
  | .list kind _ => some kind

/-- No list goes on from one block, or run, to the next: they do not belong to one kind of list. -/
def Apart (last first : Option ListKind) : Prop := ∀ kind, last = some kind → first ≠ some kind

/-! ### Runs of two texts -/

/-- A block does not see what follows the first run. -/
theorem consRun_append (block : Json) {a : List Run} (h : a ≠ []) (b : List Run) :
    consRun block (a ++ b) = consRun block a ++ b := by
  cases a with
  | nil => exact absurd rfl h
  | cons first rest =>
    unfold consRun
    cases listKind? block with
    | none => rfl
    | some kind =>
      cases first with
      | single other => rfl
      | list next items =>
        by_cases hkind : kind = next <;> simp [hkind]

/-- A block that cannot be in one list with the first run is a run of its own. -/
theorem consRun_of_apart {block : Json} {rest : List Run}
    (h : Apart (listKind? block) (rest.head?.bind Run.kind?)) :
    consRun block rest = consRun block [] ++ rest := by
  unfold consRun
  cases hblock : listKind? block with
  | none => rfl
  | some kind =>
    cases rest with
    | nil => rfl
    | cons first others =>
      cases first with
      | single other => rfl
      | list next items =>
        have hne : kind ≠ next := by
          rintro rfl
          exact h kind hblock rfl
        simp [hne]

/-- The first run is of the kind of the first block. -/
theorem kind?_head?_consRun (block : Json) (rest : List Run) :
    (consRun block rest).head?.bind Run.kind? = listKind? block := by
  fun_cases consRun block rest with
  | case1 rest h => exact h.symm
  | case2 kind items others h => exact h.symm
  | case3 kind h next items others hne => exact h.symm
  | case4 rest kind h hlist => exact h.symm

theorem kind?_head?_runs (blocks : List Json) :
    (runs blocks).head?.bind Run.kind? = blocks.head?.bind listKind? := by
  cases blocks with
  | nil => rfl
  | cons block rest => exact kind?_head?_consRun block (runs rest)

theorem runs_ne_nil {blocks : List Json} (h : blocks ≠ []) : runs blocks ≠ [] := by
  intro hruns
  have hblocks := flatMap_runs blocks
  rw [hruns] at hblocks
  exact h hblocks.symm

/-- **The runs of two texts** are the runs of each, unless the first ends within a list that the
second goes on with. -/
theorem runs_append_of_apart {a b : List Json}
    (h : Apart (a.getLast?.bind listKind?) (b.head?.bind listKind?)) :
    runs (a ++ b) = runs a ++ runs b := by
  induction a with
  | nil => rfl
  | cons block rest ih =>
    rw [List.cons_append, runs, runs]
    by_cases hrest : rest = []
    · subst hrest
      rw [List.nil_append]
      apply consRun_of_apart
      rwa [kind?_head?_runs]
    · rw [ih (by rwa [List.getLast?_cons_of_ne_nil hrest] at h),
        consRun_append block (runs_ne_nil hrest)]

/-- **Items of one kind** are one run. -/
theorem runs_of_items {kind : ListKind} {items : List Json} (hsome : items ≠ [])
    (hitems : ∀ block ∈ items, listKind? block = some kind) : runs items = [.list kind items] := by
  induction items with
  | nil => exact absurd rfl hsome
  | cons block rest ih =>
    rw [List.forall_mem_cons] at hitems
    rw [runs]
    by_cases hrest : rest = []
    · subst hrest
      simp [runs, consRun, hitems.1]
    · rw [ih hrest hitems.2]
      simp [consRun, hitems.1]

/-! ### Maximal runs -/

/-- What a run is made of: a block that is no list item, or one item or more of one kind. -/
def Run.Uniform : Run → Prop
  | .single block => listKind? block = none
  | .list kind items => items ≠ [] ∧ ∀ block ∈ items, listKind? block = some kind

/-- Blocks cut into runs, none of which could be longer. -/
structure MaximalRuns (blocks : List Json) (split : List Run) : Prop where
  /-- Every block stands in one run, in order. -/
  complete : split.flatMap Run.blocks = blocks
  uniform : ∀ run ∈ split, run.Uniform
  /-- No two neighbours are lists of one kind. -/
  maximal : split.IsChain fun run next => Apart run.kind? next.kind?

theorem uniform_consRun {block : Json} {rest : List Run} (h : ∀ run ∈ rest, run.Uniform) :
    ∀ run ∈ consRun block rest, run.Uniform := by
  fun_cases consRun block rest with
  | case1 rest hblock => exact List.forall_mem_cons.mpr ⟨hblock, h⟩
  | case2 kind items others hblock =>
    obtain ⟨hitems, hothers⟩ := List.forall_mem_cons.mp h
    refine List.forall_mem_cons.mpr ⟨⟨List.cons_ne_nil _ _, ?_⟩, hothers⟩
    exact List.forall_mem_cons.mpr ⟨hblock, hitems.2⟩
  | case3 kind hblock next items others hne =>
    refine List.forall_mem_cons.mpr ⟨⟨List.cons_ne_nil _ _, ?_⟩, h⟩
    exact List.forall_mem_singleton.mpr hblock
  | case4 rest kind hblock hlist =>
    refine List.forall_mem_cons.mpr ⟨⟨List.cons_ne_nil _ _, ?_⟩, h⟩
    exact List.forall_mem_singleton.mpr hblock

theorem maximal_consRun {block : Json} {rest : List Run}
    (h : rest.IsChain fun run next => Apart run.kind? next.kind?) :
    (consRun block rest).IsChain fun run next => Apart run.kind? next.kind? := by
  fun_cases consRun block rest with
  | case1 rest hblock =>
    refine List.isChain_cons.mpr ⟨?_, h⟩
    intro next _ kind hkind
    cases hkind
  | case2 kind items others hblock =>
    obtain ⟨hnext, hothers⟩ := List.isChain_cons.mp h
    exact List.isChain_cons.mpr ⟨hnext, hothers⟩
  | case3 kind hblock next items others hne =>
    refine List.isChain_cons.mpr ⟨?_, h⟩
    intro run hrun other hkind hother
    cases hrun
    cases hkind
    cases hother
    exact hne rfl
  | case4 rest kind hblock hlist =>
    refine List.isChain_cons.mpr ⟨?_, h⟩
    intro run hrun other hkind hother
    cases rest with
    | nil => cases hrun
    | cons first others =>
      cases hrun
      cases run with
      | single block => cases hother
      | list next items => exact hlist next items others rfl

/-- **The runs of a text** are maximal. -/
theorem maximalRuns_runs (blocks : List Json) : MaximalRuns blocks (runs blocks) where
  complete := flatMap_runs blocks
  uniform := by
    induction blocks with
    | nil => exact List.forall_mem_nil _
    | cons block rest ih => exact uniform_consRun ih
  maximal := by
    induction blocks with
    | nil => exact .nil
    | cons block rest ih => exact maximal_consRun ih

variable {run : Run}

theorem Run.Uniform.blocks_ne_nil (h : run.Uniform) : run.blocks ≠ [] := by
  cases run with
  | single block => exact List.cons_ne_nil _ _
  | list kind items => exact h.1

/-- All blocks of a run are of its kind. -/
theorem Run.Uniform.listKind?_eq (h : run.Uniform) :
    ∀ block ∈ run.blocks, listKind? block = run.kind? := by
  cases run with
  | single block => exact List.forall_mem_singleton.mpr h
  | list kind items => exact h.2

/-- A run is cut out of its own blocks. -/
theorem Run.Uniform.runs_blocks (h : run.Uniform) : runs run.blocks = [run] := by
  cases run with
  | single block =>
    have hblock : listKind? block = none := h
    simp [Run.blocks, runs, consRun, hblock]
  | list kind items => exact runs_of_items h.1 h.2

theorem Run.Uniform.listKind?_head? (h : run.Uniform) (rest : List Json) :
    (run.blocks ++ rest).head?.bind listKind? = run.kind? := by
  cases hblocks : run.blocks with
  | nil => exact absurd hblocks h.blocks_ne_nil
  | cons block others => exact h.listKind?_eq block (hblocks ▸ List.mem_cons_self)

theorem Run.Uniform.listKind?_getLast? (h : run.Uniform) :
    run.blocks.getLast?.bind listKind? = run.kind? := by
  rw [List.getLast?_eq_some_getLast h.blocks_ne_nil]
  exact h.listKind?_eq _ (List.getLast_mem _)

/-- **There is one way** to cut blocks into maximal runs. -/
theorem maximalRuns_iff {blocks : List Json} {split : List Run} :
    MaximalRuns blocks split ↔ split = runs blocks := by
  constructor
  · rintro ⟨rfl, huniform, hmaximal⟩
    induction split with
    | nil => rfl
    | cons run rest ih =>
      rw [List.forall_mem_cons] at huniform
      rw [List.isChain_cons] at hmaximal
      have hapart :
          Apart (run.blocks.getLast?.bind listKind?)
            ((rest.flatMap Run.blocks).head?.bind listKind?) := by
        rw [huniform.1.listKind?_getLast?]
        cases rest with
        | nil =>
          intro kind _ hnone
          cases hnone
        | cons next others =>
          rw [List.flatMap_cons, (huniform.2 next List.mem_cons_self).listKind?_head?]
          exact hmaximal.1 next rfl
      rw [List.flatMap_cons, runs_append_of_apart hapart, huniform.1.runs_blocks,
        ← ih huniform.2 hmaximal.2]
      rfl
  · rintro rfl
    exact maximalRuns_runs blocks

/-! ### Rich texts -/

/-- **Rich texts are rendered in maximal runs.**  Two texts one after the other give the markup of
both, or the first failure, unless a list would be cut between them; items of one kind are one list
element around their own renderings, in order, that is offered to the serializer as a whole; and
every text is the renderings of its only maximal runs. -/
theorem asHtml_by_maximal_runs (field : FieldContext) (resolveLink : LinkResolver)
    (serializeHtml : HtmlSerializer) :
    (∀ a b : List Json,
      (∀ kind : ListKind, ∀ last ∈ a.getLast?, ∀ first ∈ b.head?,
        ¬ (last.getText "type" = kind.itemType ∧ first.getText "type" = kind.itemType)) →
      asHtml field resolveLink serializeHtml (a ++ b) =
        followedBy (asHtml field resolveLink serializeHtml a)
          (asHtml field resolveLink serializeHtml b)) ∧
    (∀ (kind : ListKind) (items : List Json), items ≠ [] →
      (∀ block ∈ items, block.getText "type" = kind.itemType) →
      asHtml field resolveLink serializeHtml items = do
        let inner := String.join (← items.mapM (Renderer.block ⟨field, resolveLink, serializeHtml⟩))
        match serializeHtml field ⟨"group-" ++ kind.itemType, .null, ""⟩ inner with
        | .error cause => .error (.htmlSerializer cause)
        | .ok none => .ok ("<" ++ kind.tag ++ ">" ++ inner ++ "</" ++ kind.tag ++ ">")
        | .ok (some html) => .ok html) ∧
    ∀ blocks : List Json, ∃! split, MaximalRuns blocks split ∧
      asHtml field resolveLink serializeHtml blocks =
        (split.mapM (Renderer.run ⟨field, resolveLink, serializeHtml⟩)).map String.join := by
  refine ⟨?_, ?_, ?_⟩
  · intro a b happart
    have hruns : runs (a ++ b) = runs a ++ runs b := by
      apply runs_append_of_apart
      intro kind hlast hfirst
      obtain ⟨last, hmem, hlast⟩ := Option.bind_eq_some_iff.mp hlast
      obtain ⟨first, hmem', hfirst⟩ := Option.bind_eq_some_iff.mp hfirst
      exact happart kind last hmem first hmem' ⟨listKind?_eq_some_iff.mp hlast,
        listKind?_eq_some_iff.mp hfirst⟩
    rw [asHtml, hruns, Renderer.runs_append]
    rfl
  · intro kind items hsome hitems
    have hruns : runs items = [.list kind items] :=
      runs_of_items hsome fun block hblock => listKind?_eq_some_iff.mpr (hitems block hblock)
    have htype : kind.elementType = "group-" ++ kind.itemType := by cases kind <;> rfl
    rw [asHtml, hruns, Renderer.runs_cons, Renderer.runs, followedBy_empty, Renderer.run,
      Renderer.blocks_eq_mapM, htype]
    cases items.mapM (Renderer.block ⟨field, resolveLink, serializeHtml⟩) with
    | error e => rfl
    | ok htmls => rfl
  · intro blocks
    refine ⟨runs blocks, ⟨maximalRuns_runs blocks, Renderer.runs_eq_mapM _ _⟩, ?_⟩
    rintro split ⟨hmaximal, -⟩
    exact maximalRuns_iff.mp hmaximal

/-- An item of a list with its text. -/
def itemBlock (kind : ListKind) (text : String) : Json :=
  .object [("type", .string kind.itemType), ("text", .string text)]

/-- Lists are menus; all other elements have their default markup. -/
def menuMarkup : HtmlSerializer := fun _ element children =>
  .ok (if element.type = "group-list-item" then some ("<menu>" ++ children ++ "</menu>") else none)

/-- A list of the other kind starts a run of its own, so that the text may be cut there; the two
items before it stand in one element, which the serializer writes. -/
theorem asHtml_by_maximal_runs_menu :
    asHtml ⟨"body", .null, .null⟩ noLinks menuMarkup
        ([itemBlock .unordered "a", itemBlock .unordered "b"] ++ [itemBlock .ordered "c"]) =
      followedBy (asHtml ⟨"body", .null, .null⟩ noLinks menuMarkup [itemBlock .unordered "a",
        itemBlock .unordered "b"])
        (asHtml ⟨"body", .null, .null⟩ noLinks menuMarkup [itemBlock .ordered "c"]) ∧
    (asHtml ⟨"body", .null, .null⟩ noLinks menuMarkup
        [itemBlock .unordered "a", itemBlock .unordered "b", itemBlock .ordered "c"]).toOption =
      some "<menu><li>a</li><li>b</li></menu><ol><li>c</li></ol>" := by
  refine ⟨?_, by decide +kernel⟩
  apply (asHtml_by_maximal_runs _ _ _).1
  intro kind last hlast first hfirst
  cases hlast
  cases hfirst
  cases kind <;> decide

end ContentGraph.RichText
