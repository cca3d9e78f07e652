import ContentGraph.RichText
import Mathlib.Data.List.TakeWhile
import Mathlib.Order.MinMax

/-!
# Nested spans

Spans that are sorted by their start become a tree by taking the first one, nesting in it what
starts inside, and going on after its end.  What starts inside a span is cut off where the span
ends, so that nothing is covered twice, and every span still stands in the tree.

* `Nestable` with `Nestable.inside`, `Nestable.after` — the invariant of the nesting: spans in order
  within a range;
* `Tiles` with `tiles_buildTree` — the nodes of the tree cover the range without gaps and overlaps;
* `spansOf` with `sources_buildTree` — the spans of the tree, read in order, are those that were
  given;
* `nestable_sortSpans` — raw spans, once they are sorted, are in order within their text.
-/

namespace ContentGraph

/-! ### Spans in order -/

/-- Spans in the order of nesting, none of which leaves the range from `cursor` to `stop`.  All
their ends are offsets at which the text may be `cut`. -/
structure Nestable (cut : Nat → Prop) (cursor stop : Nat) (spans : List Span) : Prop where
  le : cursor ≤ stop
  cut_stop : cut stop
  sorted : spans.Pairwise fun a b => a.start ≤ b.start
  starts : ∀ span ∈ spans, cursor ≤ span.start
  ordered : ∀ span ∈ spans, span.start ≤ span.stop
  stops : ∀ span ∈ spans, span.stop ≤ stop
  cuts : ∀ span ∈ spans, cut span.start ∧ cut span.stop

namespace Nestable

variable {cut : Nat → Prop} {cursor stop : Nat} {span : Span} {rest : List Span}

/-- The spans that start inside the first one, cut off at its end, are in order within it. -/
theorem inside (h : Nestable cut cursor stop (span :: rest)) :
    Nestable cut span.start span.stop
      ((rest.takeWhile fun other => other.start < span.stop).map (Span.clip span.stop)) := by
  have hspan : span ∈ span :: rest := List.mem_cons_self
  have hsorted := List.pairwise_cons.mp h.sorted
  have hinside : ∀ other ∈ rest.takeWhile (fun other => other.start < span.stop),
      other ∈ span :: rest ∧ span.start ≤ other.start ∧ other.start < span.stop := by
    intro other hother
    have hmem : other ∈ rest := (List.takeWhile_sublist _).subset hother
    have hstart := List.mem_takeWhile_imp hother
    exact ⟨List.mem_cons_of_mem _ hmem, hsorted.1 other hmem, of_decide_eq_true hstart⟩
  refine ⟨h.ordered span hspan, (h.cuts span hspan).2, ?_, ?_, ?_, ?_, ?_⟩
  · exact List.pairwise_map.mpr (hsorted.2.sublist (List.takeWhile_sublist _))
  · rw [List.forall_mem_map]
    intro other hother
    exact (hinside other hother).2.1
  · rw [List.forall_mem_map]
    intro other hother
    obtain ⟨hmem, -, hstart⟩ := hinside other hother
    exact le_min (h.ordered other hmem) hstart.le
  · rw [List.forall_mem_map]
    intro other _
    exact min_le_right _ _
  · rw [List.forall_mem_map]
    intro other hother
    obtain ⟨hmem, -, -⟩ := hinside other hother
    refine ⟨(h.cuts other hmem).1, ?_⟩
    show cut (min other.stop span.stop)
    rcases min_choice other.stop span.stop with hmin | hmin
    · rw [hmin]
      exact (h.cuts other hmem).2
    · rw [hmin]
      exact (h.cuts span hspan).2

/-- The first span starts behind the cursor and ends before the range does. -/
theorem head (h : Nestable cut cursor stop (span :: rest)) :
    cursor ≤ span.start ∧ span.start ≤ span.stop ∧ span.stop ≤ stop :=
  ⟨h.starts span List.mem_cons_self, h.ordered span List.mem_cons_self,
    h.stops span List.mem_cons_self⟩

/-- The spans that do not start inside the first one are in order behind it. -/
theorem after (h : Nestable cut cursor stop (span :: rest)) :
    Nestable cut span.stop stop (rest.dropWhile fun other => other.start < span.stop) := by
  have hsublist : (rest.dropWhile fun other => other.start < span.stop).Sublist rest :=
    List.dropWhile_sublist _
  have hsorted := (List.pairwise_cons.mp h.sorted).2.sublist hsublist
  have hmem : ∀ other ∈ rest.dropWhile (fun other => other.start < span.stop),
    other ∈ span :: rest :=
    fun other hother => List.mem_cons_of_mem _ (hsublist.subset hother)
  refine ⟨h.head.2.2, h.cut_stop, hsorted, ?_,
    fun other hother => h.ordered other (hmem other hother),
    fun other hother => h.stops other (hmem other hother),
    fun other hother => h.cuts other (hmem other hother)⟩
  -- The first of them does not start inside the span, and the others start where it does or later.
  cases hrest : rest.dropWhile fun other => other.start < span.stop with
  | nil => exact List.forall_mem_nil _
  | cons first others =>
    have hfirst : span.stop ≤ first.start := by
      have hnot := List.head?_dropWhile_not (fun other : Span => other.start < span.stop) rest
      rw [hrest] at hnot
      exact not_lt.mp (of_decide_eq_false hnot)
    rw [hrest] at hsorted
    refine List.forall_mem_cons.mpr ⟨hfirst, fun other hother => ?_⟩
    exact hfirst.trans ((List.pairwise_cons.mp hsorted).1 other hother)

end Nestable

/-! ### The tree covers its range -/

/-- Nodes that cover the range from `start` to `stop` one after the other: runs of text that are not
empty, and spans whose children cover what the span does.  Every node ends at an offset at which the
text may be `cut`. -/
inductive Tiles (cut : Nat → Prop) : (start stop : Nat) → List SpanNode → Prop
  | nil {stop : Nat} : Tiles cut stop stop []
  | text {start middle stop : Nat} {rest : List SpanNode} (some : start < middle)
      (allowed : cut middle)
      (more : Tiles cut middle stop rest) : Tiles cut start stop (.text start middle :: rest)
  | span {span : Span} {stop : Nat} {children rest : List SpanNode} (allowed : cut span.stop)
      (nested : Tiles cut span.start span.stop children) (more : Tiles cut span.stop stop rest) :
      Tiles cut span.start stop (.span span children :: rest)

section

variable {cut : Nat → Prop} {start middle stop : Nat} {nodes : List SpanNode}

theorem Tiles.le (h : Tiles cut start stop nodes) : start ≤ stop := by
  induction h with
  | nil => exact Nat.le_refl _
  | text some _ _ ih => exact some.le.trans ih
  | span _ _ _ ihnested ihmore => exact ihnested.trans ihmore

/-- A run of text in front of nodes, if there is text in front of them. -/
theorem Tiles.textRun_append (hle : start ≤ middle) (allowed : cut middle)
    (h : Tiles cut middle stop nodes) :
    Tiles cut start stop (textRun start middle ++ nodes) := by
  unfold textRun
  split
  · next some => exact .text some allowed h
  · next hempty =>
    obtain rfl : start = middle := by omega
    exact h

end

/-- **The tree covers its range**: spans in order leave no gap, and cover nothing twice. -/
theorem tiles_buildTree {cut : Nat → Prop} {cursor stop : Nat} {spans : List Span}
    (h : Nestable cut cursor stop spans) : Tiles cut cursor stop (buildTree cursor stop spans) := by
  fun_induction buildTree cursor stop spans with
  | case1 cursor stop =>
    have htext := Tiles.textRun_append h.le h.cut_stop .nil
    rwa [List.append_nil] at htext
  | case2 cursor stop span rest inside after ihinside ihafter =>
    obtain ⟨hstart, hordered, -⟩ := h.head
    have hcuts := h.cuts span List.mem_cons_self
    have hcursor : max cursor span.stop = span.stop := max_eq_right (hstart.trans hordered)
    rw [hcursor] at ihafter ⊢
    exact Tiles.textRun_append hstart hcuts.1 (.span hcuts.2 (ihinside h.inside) (ihafter h.after))

/-! ### The tree keeps every span -/

mutual
/-- The spans of a node, each before those inside it. -/
def SpanNode.spans : SpanNode → List Span
  | .text _ _ => []
  | .span span children => span :: spansOf children
/-- The spans of nodes in order. -/
def spansOf : List SpanNode → List Span
  | [] => []
  | first :: rest => first.spans ++ spansOf rest
end

theorem spansOf_append (a b : List SpanNode) : spansOf (a ++ b) = spansOf a ++ spansOf b := by
  induction a with
  | nil => rfl
  | cons first rest ih => rw [List.cons_append, spansOf, spansOf, ih, List.append_assoc]

@[simp] theorem spansOf_textRun (start stop : Nat) : spansOf (textRun start stop) = [] := by
  unfold textRun
  split <;> rfl

/-- What a span says about its text, wherever it is cut off. -/
def Span.source (span : Span) : String × Json := (span.type, span.node)

theorem map_source_clip (stop : Nat) (spans : List Span) :
    (spans.map (Span.clip stop)).map Span.source = spans.map Span.source := by
  rw [List.map_map]
  rfl

/-- **The spans of the tree** are those that were given, in their order. -/
theorem sources_buildTree (cursor stop : Nat) (spans : List Span) :
    (spansOf (buildTree cursor stop spans)).map Span.source = spans.map Span.source := by
  fun_induction buildTree cursor stop spans with
  | case1 cursor stop => rw [spansOf_textRun]
  | case2 cursor stop span rest inside after ihinside ihafter =>
    have hrest : inside ++ after = rest := List.takeWhile_append_dropWhile
    rw [spansOf_append, spansOf_textRun, List.nil_append, spansOf, SpanNode.spans, List.cons_append,
      List.map_cons, List.map_append, ihinside, ihafter, map_source_clip, ← List.map_append, hrest,
      List.map_cons]

/-! ### The spans of a text -/

theorem Span.precedes_trans (a b c : Span) (hab : a.precedes b = true) (hbc : b.precedes c = true) :
    a.precedes c = true := by
  simp only [precedes, Bool.or_eq_true, Bool.and_eq_true, decide_eq_true_eq] at *
  omega

theorem Span.precedes_total (a b : Span) : (a.precedes b || b.precedes a) = true := by
  simp only [precedes, Bool.or_eq_true, Bool.and_eq_true, decide_eq_true_eq]
  omega

theorem Span.start_le_of_precedes {a b : Span} (h : a.precedes b = true) : a.start ≤ b.start := by
  simp only [precedes, Bool.or_eq_true, Bool.and_eq_true, decide_eq_true_eq] at h
  omega

/-- A raw span applies to a range of the text. -/
theorem Span.range_of_ofJson? {length : Nat} {raw : Json} {span : Span}
    (h : Span.ofJson? length raw = some span) :
    span.start ≤ span.stop ∧ span.stop ≤ length := by
  unfold ofJson? at h
  split at h
  · cases h
    simp only
    omega
  · cases h

/-- **The raw spans of a text**, sorted, are in order within it. -/
theorem nestable_sortSpans {cut : Nat → Prop} {length : Nat} {raw : List Json} (hstop : cut length)
    (hcuts : ∀ span ∈ raw.filterMap (Span.ofJson? length), cut span.start ∧ cut span.stop) :
    Nestable cut 0 length (sortSpans (raw.filterMap (Span.ofJson? length))) := by
  have hmem : ∀ span ∈ sortSpans (raw.filterMap (Span.ofJson? length)),
    span ∈ raw.filterMap (Span.ofJson? length) :=
    fun span hspan => List.mem_mergeSort.mp hspan
  have hrange : ∀ span ∈ sortSpans (raw.filterMap (Span.ofJson? length)),
      span.start ≤ span.stop ∧ span.stop ≤ length := by
    intro span hspan
    obtain ⟨found, -, hfound⟩ := List.mem_filterMap.mp (hmem span hspan)
    exact Span.range_of_ofJson? hfound
  refine ⟨Nat.zero_le _, hstop, ?_, fun _ _ => Nat.zero_le _,
    fun span hspan => (hrange span hspan).1, fun span hspan => (hrange span hspan).2,
    fun span hspan => hcuts span (hmem span hspan)⟩
  exact (List.pairwise_mergeSort Span.precedes_trans Span.precedes_total _).imp
    Span.start_le_of_precedes

/-- The spans of a block are in order within its text. -/
theorem RichText.Renderer.nestable_blockSpans {cut : Nat → Prop} {block : Json} {length : Nat}
    (hstop : cut length)
    (hcuts : ∀ span ∈ blockSpans block length, cut span.start ∧ cut span.stop) :
    Nestable cut 0 length (blockSpans block length) :=
  nestable_sortSpans hstop fun span hspan => hcuts span (List.mem_mergeSort.mpr hspan)

end ContentGraph
