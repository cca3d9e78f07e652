import ContentGraph.Proofs.RichText.Sequence
import Mathlib.Tactic.SplitIfs

/-!
# When the markup of a rich text fails

Rendering never fails by itself.  It asks its collaborators questions: the resolver for the address
of a link, the serializer for the markup of an element around its rendered children.  The first
question that fails is the failure of the whole text, and a text whose questions do not fail has
markup.

* `Question`, `Renderer.failureOf?` — a question, and how its answer fails;
* `Renderer.nodeQuestions`, `Renderer.blockQuestions`, `Renderer.questions` — what is asked, in
  order;
* `errorOf?_nodes`, `errorOf?_block`, `errorOf?_runs` — each part fails as the first of its
  questions that fails;
* `asHtml_eq_error_iff`, `exists_asHtml_error_iff` — so does a whole text;
* `Renderer.Fails` with `fails_of_asHtml` — a failure names the collaborator that failed.
-/

namespace ContentGraph.RichText

/-! ### Questions -/

/-- A question to a collaborator: the address of a link, or the markup of an element around its
rendered children. -/
inductive Question
  | address (link : Json)
  | markup (element : TextElement) (children : String)

namespace Renderer

/-- The failure of an answer, if it fails.  Only document links are resolved. -/
def failureOf? (r : Renderer) : Question → Option FieldError
  | .address link =>
    if Link.isDocumentLink link then (errorOf? (r.resolveLink r.field link)).map .linkResolver
      else none
  | .markup element children =>
    (errorOf? (r.serializeHtml r.field element children)).map .htmlSerializer

/-- The markup that a rendering gives; what stands in it matters only if there is one. -/
def markupOf (rendering : Except FieldError String) : String :=
  match rendering with
  | .ok html => html
  | .error _ => ""

/-- A span asks for the address of a hyperlink, and for its own markup. -/
def spanQuestions (span : Span) (text children : String) : List Question :=
  (if span.type = "hyperlink" then [.address ((span.node.get? "data").getD .null)] else []) ++
    [Question.markup ⟨span.type, span.node, text⟩ children]

mutual
/-- A node asks what its children ask, and then for itself. -/
def nodeQuestions (r : Renderer) (units : List UInt16) : SpanNode → List Question
  | .text _ _ => []
  | .span span children =>
    nodesQuestions r units children ++
      spanQuestions span (Text.ofUnits (Text.slice units span.start span.stop))
        (markupOf (r.nodes units children))
/-- Nodes ask one after the other. -/
def nodesQuestions (r : Renderer) (units : List UInt16) : List SpanNode → List Question
  | [] => []
  | first :: rest => nodeQuestions r units first ++ nodesQuestions r units rest
end

/-- A block asks what its spans ask, or for the address of its image's link, and then for itself. -/
def blockQuestions (r : Renderer) (block : Json) : List Question :=
  let type := block.getText "type"
  let text := block.getText "text"
  let own (children : String) : Question := .markup ⟨type, block, text⟩ children
  if type = "image" then (imageLink? block).toList.map .address ++ [own ""]
  else if type = "embed" then [own ""]
  else
    let units := Text.units text
    r.nodesQuestions units (buildTree 0 units.length (blockSpans block units.length)) ++
      [own (markupOf (r.spans block text))]

/-- A run asks what its blocks ask, and a list then for its group. -/
def runQuestions (r : Renderer) : Run → List Question
  | .single block => r.blockQuestions block
  | .list kind items =>
    items.flatMap r.blockQuestions ++
      [Question.markup ⟨kind.elementType, .null, ""⟩ (markupOf (r.blocks items))]

/-- What a text asks, in order. -/
def questions (r : Renderer) (blocks : List Json) : List Question :=
  (RichText.runs blocks).flatMap r.runQuestions

variable (r : Renderer)

/-! ### Elements and spans -/

/-- An element asks for its own markup. -/
theorem errorOf?_element (element : TextElement) (children default : String) :
    errorOf? (r.element element children default) =
      [Question.markup element children].findSome? r.failureOf? := by
  rw [Renderer.element, List.findSome?_singleton, failureOf?]
  cases r.serializeHtml r.field element children with
  | error cause => rfl
  | ok answer => cases answer <;> rfl

theorem errorOf?_href (link : Json) : errorOf? (r.href link) = r.failureOf? (.address link) := by
  rw [href, Link.url, failureOf?]
  split
  · cases r.resolveLink r.field link <;> rfl
  · rfl

/-- An element around the address of a link asks for both. -/
theorem errorOf?_linked (link : Json) (element : TextElement) (children : String)
    (default : String → String) :
    errorOf? (match r.href link with
        | .error e => .error e
        | .ok href => r.element element children (default href)) =
      [Question.address link, .markup element children].findSome? r.failureOf? := by
  have haddress := r.errorOf?_href link
  rw [List.findSome?_cons, ← haddress]
  cases r.href link with
  | error e => rfl
  | ok href => exact r.errorOf?_element element children (default href)

theorem errorOf?_span (span : Span) (text children : String) :
    errorOf? (r.span span text children) =
      (spanQuestions span text children).findSome? r.failureOf? := by
  simp only [Renderer.span, spanQuestions]
  by_cases hlink : span.type = "hyperlink"
  · simp only [hlink]
    exact r.errorOf?_linked _ _ _ _
  · simp only [if_neg hlink, List.nil_append]
    split_ifs <;> exact r.errorOf?_element _ _ _

mutual
/-- **A node** fails as the first of its questions that fails. -/
theorem errorOf?_node (units : List UInt16) :
    (node : SpanNode) → errorOf? (r.node units node) =
      (r.nodeQuestions units node).findSome? r.failureOf?
  | .text _ _ => rfl
  | .span span children => by
    have hchildren := errorOf?_nodes units children
    rw [node, nodeQuestions, List.findSome?_append, ← hchildren]
    cases r.nodes units children with
    | error e => rfl
    | ok inner => exact r.errorOf?_span span _ inner
theorem errorOf?_nodes (units : List UInt16) :
    (nodes : List SpanNode) →
      errorOf? (r.nodes units nodes) = (r.nodesQuestions units nodes).findSome? r.failureOf?
  | [] => rfl
  | first :: rest => by
    rw [nodes_cons, errorOf?_followedBy, nodesQuestions, List.findSome?_append,
      errorOf?_node units first, errorOf?_nodes units rest]
end

/-! ### Blocks and runs -/

/-- **A block** fails as the first of its questions that fails. -/
theorem errorOf?_block (block : Json) :
    errorOf? (r.block block) = (r.blockQuestions block).findSome? r.failureOf? := by
  simp only [Renderer.block, blockQuestions]
  split_ifs with himage hembed
  · rw [imageBlock]
    cases imageLink? block with
    | none => exact r.errorOf?_element _ _ _
    | some link => exact r.errorOf?_linked link _ _ _
  · exact r.errorOf?_element _ _ _
  · have hspans : errorOf? (r.spans block (block.getText "text")) = _ := r.errorOf?_nodes _ _
    rw [List.findSome?_append, ← hspans]
    cases r.spans block (block.getText "text") with
    | error e => rfl
    | ok children => exact r.errorOf?_element _ _ _

theorem errorOf?_blocks (blocks : List Json) :
    errorOf? (r.blocks blocks) = (blocks.flatMap r.blockQuestions).findSome? r.failureOf? := by
  induction blocks with
  | nil => rfl
  | cons first rest ih =>
    rw [blocks_cons, errorOf?_followedBy, List.flatMap_cons, List.findSome?_append, ih,
      errorOf?_block]

theorem errorOf?_run (run : Run) :
    errorOf? (r.run run) = (r.runQuestions run).findSome? r.failureOf? := by
  cases run with
  | single block => exact r.errorOf?_block block
  | list kind items =>
    rw [Renderer.run, runQuestions, List.findSome?_append, ← errorOf?_blocks]
    cases r.blocks items with
    | error e => rfl
    | ok inner => exact r.errorOf?_element _ _ _

/-- **Runs of blocks** fail as the first of their questions that fails. -/
theorem errorOf?_runs (runs : List Run) :
    errorOf? (r.runs runs) = (runs.flatMap r.runQuestions).findSome? r.failureOf? := by
  induction runs with
  | nil => rfl
  | cons first rest ih =>
    rw [runs_cons, errorOf?_followedBy, List.flatMap_cons, List.findSome?_append, ih, errorOf?_run]

/-! ### Collaborators that fail -/

/-- A collaborator of the renderer fails: the resolver on a document link, or the serializer on an
element. -/
inductive Fails (r : Renderer) : FieldError → Prop
  | link {link : Json} {cause : String} (document : Link.isDocumentLink link = true)
      (failed : r.resolveLink r.field link = .error cause) : Fails r (.linkResolver cause)
  | element {element : TextElement} {children cause : String}
      (failed : r.serializeHtml r.field element children = .error cause) :
      Fails r (.htmlSerializer cause)

variable {r} {e : FieldError}

theorem failureOf?_address_eq_some_iff {link : Json} :
    r.failureOf? (.address link) = some e ↔ Link.isDocumentLink link = true ∧
      ∃ cause, r.resolveLink r.field link = .error cause ∧ .linkResolver cause = e := by
  rw [failureOf?]
  by_cases hdocument : Link.isDocumentLink link = true
  · simp only [hdocument, if_true, true_and, Option.map_eq_some_iff, errorOf?_eq_some_iff]
  · simp [hdocument]

theorem failureOf?_markup_eq_some_iff {element : TextElement} {children : String} :
    r.failureOf? (.markup element children) = some e ↔
      ∃ cause, r.serializeHtml r.field element children = .error cause ∧
      .htmlSerializer cause = e := by
  simp only [failureOf?, Option.map_eq_some_iff, errorOf?_eq_some_iff]

/-- A question that fails is one on which a collaborator does. -/
theorem fails_of_failureOf? {question : Question} (h : r.failureOf? question = some e) :
    r.Fails e := by
  cases question with
  | address link =>
    obtain ⟨document, cause, failed, rfl⟩ := failureOf?_address_eq_some_iff.mp h
    exact .link document failed
  | markup element children =>
    obtain ⟨cause, failed, rfl⟩ := failureOf?_markup_eq_some_iff.mp h
    exact .element failed

end Renderer

/-! ### Rich texts -/

variable {field : FieldContext} {resolveLink : LinkResolver} {serializeHtml : HtmlSerializer}
  {blocks : List Json} {e : FieldError}

/-- **The markup of a text fails** as the first of its questions that fails. -/
theorem asHtml_eq_error_iff :
    asHtml field resolveLink serializeHtml blocks = .error e ↔
      (Renderer.questions ⟨field, resolveLink, serializeHtml⟩ blocks).findSome?
        (Renderer.failureOf? ⟨field, resolveLink, serializeHtml⟩) = some e := by
  rw [Renderer.questions, ← Renderer.errorOf?_runs]
  exact errorOf?_eq_some_iff.symm

/-- **A text has no markup** exactly when the resolver fails on one of the document links whose
addresses it asks for, or the serializer on one of the elements that it offers. -/
theorem exists_asHtml_error_iff :
    let questions := Renderer.questions ⟨field, resolveLink, serializeHtml⟩ blocks
    (∃ e, asHtml field resolveLink serializeHtml blocks = .error e) ↔
      (∃ link cause, .address link ∈ questions ∧ Link.isDocumentLink link = true ∧
        resolveLink field link = .error cause) ∨
      ∃ element children cause, .markup element children ∈ questions ∧
        serializeHtml field element children = .error cause := by
  intro questions
  simp only [asHtml_eq_error_iff]
  rw [← Option.isSome_iff_exists, List.findSome?_isSome_iff]
  constructor
  · rintro ⟨question, hasked, hfails⟩
    obtain ⟨e, he⟩ := Option.isSome_iff_exists.mp hfails
    cases question with
    | address link =>
      obtain ⟨document, cause, failed, -⟩ := Renderer.failureOf?_address_eq_some_iff.mp he
      exact .inl ⟨link, cause, hasked, document, failed⟩
    | markup element children =>
      obtain ⟨cause, failed, -⟩ := Renderer.failureOf?_markup_eq_some_iff.mp he
      exact .inr ⟨element, children, cause, hasked, failed⟩
  · rintro (⟨link, cause, hasked, document, failed⟩ | ⟨element, children, cause, hasked, failed⟩)
    · exact ⟨_, hasked, Option.isSome_iff_exists.mpr
        ⟨_, Renderer.failureOf?_address_eq_some_iff.mpr ⟨document, cause, failed, rfl⟩⟩⟩
    · exact ⟨_, hasked, Option.isSome_iff_exists.mpr
        ⟨_, Renderer.failureOf?_markup_eq_some_iff.mpr ⟨cause, failed, rfl⟩⟩⟩

/-- The markup of a text fails when a collaborator does. -/
theorem fails_of_asHtml (h : asHtml field resolveLink serializeHtml blocks = .error e) :
    Renderer.Fails ⟨field, resolveLink, serializeHtml⟩ e := by
  obtain ⟨question, -, hfails⟩ := List.exists_of_findSome?_eq_some (asHtml_eq_error_iff.mp h)
  exact Renderer.fails_of_failureOf? hfails

end ContentGraph.RichText
