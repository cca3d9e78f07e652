import ContentGraph.RichText

/-!
# What the markup of a rich text depends on

A renderer asks its collaborators in two places only: an element is offered to the serializer, and a
link is given an address.  Renderers that give the same answers there give the same markup, whatever
else they differ in.

* `Renderer.Agree` — the same elements and the same addresses;
* `Renderer.Agree.block`, `Renderer.Agree.runs` — the same blocks and the same markup.
-/

namespace ContentGraph.RichText.Renderer

/-- Two renderers write every element alike and give every link the same address. -/
structure Agree (r s : Renderer) : Prop where
  element : ∀ element children default, r.element element children default =
    s.element element children default
  href : ∀ link, r.href link = s.href link

namespace Agree

variable {r s : Renderer}

theorem span (h : Agree r s) (span : Span) (text children : String) :
    r.span span text children = s.span span text children := by
  simp only [Renderer.span, h.element, h.href]

mutual
/-- A node of the tree of spans is written alike. -/
theorem node (h : Agree r s) (units : List UInt16) :
    (node : SpanNode) → r.node units node = s.node units node
  | .text _ _ => rfl
  | .span span children => by
    rw [Renderer.node, Renderer.node, nodes h units children]
    simp only [h.span]
theorem nodes (h : Agree r s) (units : List UInt16) :
    (nodes : List SpanNode) → r.nodes units nodes = s.nodes units nodes
  | [] => rfl
  | first :: rest => by
    rw [Renderer.nodes, Renderer.nodes, node h units first, nodes h units rest]
end

/-- **A block** is written alike: images, media and texts with spans. -/
theorem block (h : Agree r s) (block : Json) : r.block block = s.block block := by
  simp only [Renderer.block, Renderer.imageBlock, Renderer.embedBlock, Renderer.spans,
    h.element, h.href, h.nodes]

theorem blocks (h : Agree r s) (blocks : List Json) : r.blocks blocks = s.blocks blocks := by
  induction blocks with
  | nil => rfl
  | cons first rest ih => rw [Renderer.blocks, Renderer.blocks, h.block, ih]

theorem run (h : Agree r s) (run : Run) : r.run run = s.run run := by
  cases run with
  | single block => exact h.block block
  | list kind items =>
    rw [Renderer.run, Renderer.run, h.blocks]
    simp only [h.element]

/-- **Runs of blocks** are written alike. -/
theorem runs (h : Agree r s) (runs : List Run) : r.runs runs = s.runs runs := by
  induction runs with
  | nil => rfl
  | cons first rest ih => rw [Renderer.runs, Renderer.runs, h.run, ih]

end Agree

end ContentGraph.RichText.Renderer
