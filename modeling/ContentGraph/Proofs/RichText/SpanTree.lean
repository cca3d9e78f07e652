import ContentGraph.Proofs.RichText.SpanOrder
import ContentGraph.Proofs.Text.Units
import Mathlib.Data.List.Sigma
import Mathlib.Order.Bounds.Basic

/-!
# The tree of a text's spans

Spans may cross, repeat one another, be empty, overrun the text or be turned around.  Whatever they
are, the runs of text in their tree make up the text, every span that applies stands in the tree
once, in the order of nesting, and a span is cut off where the first of the spans around it ends and
nowhere else.

* `textRuns`, `placedSpans` — the runs of text and the spans of a tree, in document order;
* `SpansNest` — what is said of the tree of raw spans over a text;
* `Tiles.flatMap_textRuns` — what is read off a range piece by piece is read off the runs of text in
  it;
* `forall_placed_buildTree` — what cutting off keeps is so for every span and the spans around it;
* `exists_listed_sortSpans` — the order of nesting, ties and all;
* `spansNest_textTree` — the tree that is rendered is of this kind.
-/

namespace ContentGraph

/-! ### Reading a tree -/

mutual
/-- The runs of text of a node, by their offsets. -/
def SpanNode.runs : SpanNode → List (Nat × Nat)
  | .text start stop => [(start, stop)]
  | .span _ children => textRuns children
/-- The runs of text of nodes in order. -/
def textRuns : List SpanNode → List (Nat × Nat)
  | [] => []
  | first :: rest => first.runs ++ textRuns rest
end

/-- A span of a tree with the spans around it, the innermost first, and the nodes inside it. -/
structure PlacedSpan where
  around : List Span
  span : Span
  children : List SpanNode

mutual
/-- The spans of a node that stands inside others, each before those inside it. -/
def SpanNode.placed (around : List Span) : SpanNode → List PlacedSpan
  | .text _ _ => []
  | .span span children => ⟨around, span, children⟩ :: placedSpans (span :: around) children
/-- The spans of nodes in order. -/
def placedSpans (around : List Span) : List SpanNode → List PlacedSpan
  | [] => []
  | first :: rest => first.placed around ++ placedSpans around rest
end

/-- The range that a node covers. -/
def SpanNode.range : SpanNode → Nat × Nat
  | .text start stop => (start, stop)
  | .span outer _ => outer.range

/-! ### What is said of a tree -/

/-- Nodes that lie in a range one after the other. -/
structure InOrder (start stop : Nat) (nodes : List SpanNode) : Prop where
  within : ∀ node ∈ nodes, start ≤ node.range.1 ∧ node.range.1 ≤ node.range.2 ∧ node.range.2 ≤ stop
  apart : nodes.Pairwise fun a b => a.range.2 ≤ b.range.1

namespace Span

/-- The span before it was cut off, as it applies to a text of `length` units. -/
def given? (length : Nat) (span : Span) : Option Span := ofJson? length span.node

/-- The ends of spans before they were cut off. -/
def givenStops (length : Nat) (spans : List Span) : Set Nat :=
  {stop | ∃ span ∈ spans, (span.given? length).map Span.stop = some stop}

/-- The order of nesting, with the places at which spans are listed: by start, then the longest
first, then by place. -/
def ListedBefore (a b : Span × Nat) : Prop :=
  a.1.start < b.1.start ∨ a.1.start = b.1.start ∧
    (b.1.stop < a.1.stop ∨ a.1.stop = b.1.stop ∧ a.2 < b.2)

end Span

/-- The span is as it was given, but for its end: that is the first end of the span and the spans
around it, as they were given. -/
def PlacedSpan.CutOff (length : Nat) (placed : PlacedSpan) : Prop :=
  ∃ given, placed.span.given? length = some given ∧
    placed.span = { given with stop := placed.span.stop } ∧
    IsLeast (Span.givenStops length (placed.span :: placed.around)) placed.span.stop

/-- Nodes are a tree of raw spans over the units of a text. -/
structure SpansNest (units : List UInt16) (raw : List Json) (nodes : List SpanNode) : Prop where
  /-- No run of text is empty or leaves the text. -/
  runs_within : ∀ run ∈ textRuns nodes, run.1 < run.2 ∧ run.2 ≤ units.length
  /-- Every offset into the text is in one run, and the runs are in order. -/
  runs_offsets : ((textRuns nodes).flatMap fun run => List.range' run.1 (run.2 - run.1)) =
    List.range units.length
  /-- The spans are those that apply to the text, each once and in the order of nesting. -/
  spans_listed : ∃ listed : List (Span × Nat),
    listed.Perm (raw.filterMap (Span.ofJson? units.length)).zipIdx ∧
    listed.Pairwise Span.ListedBefore ∧
      (placedSpans [] nodes).map (fun placed => placed.span.given? units.length) =
      listed.map fun entry => some entry.1
  /-- Every span is cut off where the first of those around it ends, if it has not ended before. -/
  spans_cutOff : ∀ placed ∈ placedSpans [] nodes, placed.CutOff units.length
  /-- No span leaves the text. -/
  spans_within : ∀ placed ∈ placedSpans [] nodes,
    placed.span.start ≤ placed.span.stop ∧ placed.span.stop ≤ units.length
  /-- What is inside a span lies in its range, one node after the other. -/
  children_inOrder : ∀ placed ∈ placedSpans [] nodes,
    InOrder placed.span.start placed.span.stop placed.children
  /-- The text of a span is that of the runs inside it, one after the other. -/
  text_runs : ∀ placed ∈ placedSpans [] nodes, Text.slice units placed.span.start placed.span.stop =
    (textRuns placed.children).flatMap fun run => Text.slice units run.1 run.2
  /-- So it is for characters, where no span that applies starts or ends inside a surrogate pair. -/
  text_decoded : (∀ span ∈ raw.filterMap (Span.ofJson? units.length),
      ¬ Text.SplitsPair units span.start ∧ ¬ Text.SplitsPair units span.stop) →
    ∀ placed ∈ placedSpans [] nodes,
      Text.ofUnits (Text.slice units placed.span.start placed.span.stop) =
      String.join ((textRuns placed.children).map fun run =>
        Text.ofUnits (Text.slice units run.1 run.2))

/-! ### Runs and ranges -/

namespace Tiles

variable {cut : Nat → Prop} {start stop : Nat} {nodes : List SpanNode}

/-- No run is empty, and none leaves the range. -/
theorem textRuns_within (h : Tiles cut start stop nodes) :
    ∀ run ∈ textRuns nodes, start ≤ run.1 ∧ run.1 < run.2 ∧ run.2 ≤ stop := by
  induction h with
  | nil => exact List.forall_mem_nil _
  | @text start middle stop rest some _ more ih =>
    refine List.forall_mem_cons.mpr ⟨⟨Nat.le_refl _, some, more.le⟩, fun run hrun => ?_⟩
    obtain ⟨hstart, hsome, hstop⟩ := ih run hrun
    exact ⟨some.le.trans hstart, hsome, hstop⟩
  | @span span stop children rest _ nested more ihnested ihmore =>
    refine List.forall_mem_append.mpr ⟨fun run hrun => ?_, fun run hrun => ?_⟩
    · obtain ⟨hstart, hsome, hstop⟩ := ihnested run hrun
      exact ⟨hstart, hsome, hstop.trans more.le⟩
    · obtain ⟨hstart, hsome, hstop⟩ := ihmore run hrun
      exact ⟨nested.le.trans hstart, hsome, hstop⟩

/-- **What is read off a range** is read off the runs of text in it, if reading can stop and go on
at a `cut`. -/
theorem flatMap_textRuns {α : Type} (h : Tiles cut start stop nodes) (read : Nat → Nat → List α)
    (hempty : ∀ offset, read offset offset = [])
    (hgo : ∀ {start middle stop : Nat}, start ≤ middle → middle ≤ stop → cut middle →
      read start middle ++ read middle stop = read start stop) :
    ((textRuns nodes).flatMap fun run => read run.1 run.2) = read start stop := by
  induction h with
  | @nil stop => exact (hempty stop).symm
  | @text start middle stop rest some allowed more ih =>
    rw [textRuns, SpanNode.runs, List.singleton_append, List.flatMap_cons, ih]
    exact hgo some.le more.le allowed
  | @span span stop children rest allowed nested more ihnested ihmore =>
    rw [textRuns, SpanNode.runs, List.flatMap_append, ihnested, ihmore]
    exact hgo nested.le more.le allowed

theorem offsets_textRuns (h : Tiles cut start stop nodes) :
    ((textRuns nodes).flatMap fun run => List.range' run.1 (run.2 - run.1)) =
      List.range' start (stop - start) := by
  refine h.flatMap_textRuns (fun start stop => List.range' start (stop - start)) ?_ ?_
  · intro offset
    rw [Nat.sub_self, List.range'_zero]
  · intro start middle stop hstart hstop _
    have hmiddle : middle = start + (middle - start) := by omega
    have hlength : stop - start = (middle - start) + (stop - middle) := by omega
    rw [hlength, ← List.range'_append_1, ← hmiddle]

theorem slice_textRuns (h : Tiles cut start stop nodes) (units : List UInt16) :
    ((textRuns nodes).flatMap fun run => Text.slice units run.1 run.2) =
      Text.slice units start stop :=
  h.flatMap_textRuns (Text.slice units) (Text.slice_self units) fun hstart hstop _ =>
    Text.slice_append units hstart hstop

/-- The text of a range whose runs do not cut a surrogate pair is that of the runs. -/
theorem ofUnits_textRuns {units : List UInt16}
    (h : Tiles (fun offset => ¬ Text.SplitsPair units offset) start stop nodes) :
    String.join ((textRuns nodes).map fun run => Text.ofUnits (Text.slice units run.1 run.2)) =
      Text.ofUnits (Text.slice units start stop) := by
  have hchars :=
    h.flatMap_textRuns (fun start stop => Text.charsOfUnits (Text.slice units start stop))
    (fun offset => by rw [Text.slice_self]; rfl) Text.charsOfUnits_slice_append
  rw [← String.toList_inj, String.toList_join, List.flatMap_map, Text.ofUnits,
    String.toList_ofList, ← hchars]
  simp only [Text.ofUnits, String.toList_ofList]

/-- The nodes lie in the range one after the other. -/
theorem inOrder (h : Tiles cut start stop nodes) : InOrder start stop nodes := by
  induction h with
  | nil => exact ⟨List.forall_mem_nil _, .nil⟩
  | @text start middle stop rest some _ more ih =>
    refine ⟨List.forall_mem_cons.mpr ⟨⟨Nat.le_refl _, some.le, more.le⟩, fun node hnode => ?_⟩,
      .cons (fun node hnode => (ih.within node hnode).1) ih.apart⟩
    obtain ⟨hstart, hrange⟩ := ih.within node hnode
    exact ⟨some.le.trans hstart, hrange⟩
  | @span span stop children rest _ nested more _ ih =>
    refine ⟨List.forall_mem_cons.mpr ⟨⟨Nat.le_refl _, nested.le, more.le⟩, fun node hnode => ?_⟩,
      .cons (fun node hnode => (ih.within node hnode).1) ih.apart⟩
    obtain ⟨hstart, hrange⟩ := ih.within node hnode
    exact ⟨nested.le.trans hstart, hrange⟩

/-- What is inside a span covers what the span does, at any depth. -/
theorem of_placed (h : Tiles cut start stop nodes) {around : List Span} :
    ∀ placed ∈ placedSpans around nodes,
      placed.span.stop ≤ stop ∧ Tiles cut placed.span.start placed.span.stop placed.children := by
  induction h generalizing around with
  | nil => exact List.forall_mem_nil _
  | text _ _ _ ih => exact ih
  | @span span stop children rest _ nested more ihnested ihmore =>
    refine List.forall_mem_append.mpr ⟨List.forall_mem_cons.mpr ⟨⟨more.le, nested⟩,
      fun placed hplaced => ?_⟩, ihmore⟩
    obtain ⟨hstop, hinside⟩ := ihnested placed hplaced
    exact ⟨hstop.trans more.le, hinside⟩

end Tiles

/-! ### Spans and the spans around them -/

theorem placedSpans_append (around : List Span) (a b : List SpanNode) :
    placedSpans around (a ++ b) = placedSpans around a ++ placedSpans around b := by
  induction a with
  | nil => rfl
  | cons first rest ih => rw [List.cons_append, placedSpans, placedSpans, ih, List.append_assoc]

@[simp] theorem placedSpans_textRun (around : List Span) (start stop : Nat) :
    placedSpans around (textRun start stop) = [] := by
  unfold textRun
  split <;> rfl

mutual
theorem SpanNode.map_span_placed (around : List Span) :
    (node : SpanNode) → (node.placed around).map PlacedSpan.span = node.spans
  | .text _ _ => rfl
  | .span span
    children => by rw [SpanNode.placed, List.map_cons, map_span_placedSpans, SpanNode.spans]
/-- The spans with those around them are the spans of the tree, in order. -/
theorem map_span_placedSpans (around : List Span) :
    (nodes : List SpanNode) → (placedSpans around nodes).map PlacedSpan.span = spansOf nodes
  | [] => rfl
  | first :: rest => by
    rw [placedSpans, List.map_append, first.map_span_placed, map_span_placedSpans, spansOf]
end

/-- **What cutting off keeps**: if a property of a span and the spans around it passes to every span
that is cut off where it ends, it is so for all spans of the tree. -/
theorem forall_placed_buildTree {motive : List Span → Span → Prop}
    (clip : ∀ around span other, motive around span → motive around other →
      motive (span :: around) (other.clip span.stop))
    (cursor stop : Nat) (spans : List Span) : ∀ around, (∀ span ∈ spans, motive around span) →
      ∀ placed ∈ placedSpans around (buildTree cursor stop spans),
      motive placed.around placed.span := by
  fun_induction buildTree cursor stop spans with
  | case1 cursor stop =>
    intro around _
    rw [placedSpans_textRun]
    exact List.forall_mem_nil _
  | case2 cursor stop span rest inside after ihinside ihafter =>
    intro around h
    obtain ⟨hspan, hrest⟩ := List.forall_mem_cons.mp h
    have hinside : ∀ other ∈ inside.map (Span.clip span.stop), motive (span :: around) other := by
      rw [List.forall_mem_map]
      intro other hother
      exact clip around span other hspan (hrest other ((List.takeWhile_sublist _).subset hother))
    have hafter : ∀ other ∈ after, motive around other :=
      fun other hother => hrest other ((List.dropWhile_sublist _).subset hother)
    rw [placedSpans_append, placedSpans_textRun, List.nil_append]
    exact List.forall_mem_append.mpr
      ⟨List.forall_mem_cons.mpr ⟨hspan, ihinside _ hinside⟩, ihafter _ hafter⟩

theorem Span.given?_of_ofJson? {length : Nat} {raw : Json} {span : Span}
    (h : ofJson? length raw = some span) :
    span.given? length = some span := by
  have hnode : span.node = raw := by
    unfold ofJson? at h
    split at h
    · cases h
      rfl
    · cases h
  rw [given?, hnode, h]

/-- The first end of a span that is cut off is the earlier one of two first ends. -/
theorem Span.givenStops_clip (length stop : Nat) (span other : Span) (around : List Span) :
    givenStops length (other.clip stop :: span :: around) =
      givenStops length (other :: around) ∪ givenStops length (span :: around) := by
  have hgiven : (other.clip stop).given? length = other.given? length := rfl
  ext offset
  simp only [givenStops, Set.mem_ofPred_eq, Set.mem_union, List.exists_mem_cons_iff, hgiven]
  tauto

/-- **Every span of the tree** is cut off at the first end of the spans that it stands in. -/
theorem cutOff_of_placed_buildTree {length cursor stop : Nat} {spans : List Span}
    (h : ∀ span ∈ spans, span.given? length = some span) :
    ∀ placed ∈ placedSpans [] (buildTree cursor stop spans), placed.CutOff length := by
  refine forall_placed_buildTree
    (motive := fun around span => PlacedSpan.CutOff length ⟨around, span, []⟩) ?_ cursor stop
    spans [] ?_
  · rintro around span other ⟨-, -, -, hspan⟩ ⟨given, hgiven, hother, hleast⟩
    refine ⟨given, hgiven, ?_, ?_⟩
    · exact congrArg (Span.clip span.stop) hother
    · show IsLeast (Span.givenStops length (other.clip span.stop :: span :: around))
        (min other.stop span.stop)
      rw [Span.givenStops_clip]
      exact hleast.union hspan
  · intro span hspan
    have hstops : Span.givenStops length [span] = {span.stop} := by
      ext offset
      simp [Span.givenStops, h span hspan, eq_comm]
    refine ⟨span, h span hspan, rfl, ?_⟩
    show IsLeast (Span.givenStops length [span]) span.stop
    rw [hstops]
    exact isLeast_singleton

/-! ### The order of nesting -/

/-- Two listed spans that a stable sort leaves in their order. -/
theorem Span.listedBefore_of_zipIdxLE {a b : Span × Nat} (h : List.zipIdxLE precedes a b = true)
    (hne : a.2 ≠ b.2) :
    ListedBefore a b := by
  have hab : a.1.precedes b.1 = true := by
    unfold List.zipIdxLE at h
    split at h
    · assumption
    · cases h
  by_cases hba : b.1.precedes a.1 = true
  · have hplace : a.2 ≤ b.2 := by simpa [List.zipIdxLE, hab, hba] using h
    have hrange := range_eq_of_precedes hab hba
    rw [range, range, Prod.mk.injEq] at hrange
    exact .inr ⟨hrange.1, .inr ⟨hrange.2, by omega⟩⟩
  · simp only [precedes, Bool.or_eq_true, Bool.and_eq_true, decide_eq_true_eq] at hab hba
    unfold ListedBefore
    omega

/-- **Sorted spans** are the listed ones in the order of nesting. -/
theorem exists_listed_sortSpans (spans : List Span) :
    ∃ listed : List (Span × Nat), listed.Perm spans.zipIdx ∧
    listed.Pairwise Span.ListedBefore ∧ sortSpans spans = listed.map Prod.fst := by
  have hperm := spans.zipIdx.mergeSort_perm (List.zipIdxLE Span.precedes)
  refine ⟨spans.zipIdx.mergeSort (List.zipIdxLE Span.precedes), hperm, ?_,
    List.mergeSort_zipIdx.symm⟩
  -- no place is listed twice, so that of two equal ranges one comes first
  have hplaces : (spans.zipIdx.mergeSort (List.zipIdxLE Span.precedes)).Pairwise fun a b =>
      a.2 ≠ b.2 :=
    List.pairwise_map.mp ((hperm.map Prod.snd).nodup_iff.mpr (List.nodup_zipIdx_map_snd spans))
  have hsorted := List.pairwise_mergeSort (List.zipIdxLE_trans Span.precedes_trans)
    (List.zipIdxLE_total Span.precedes_total) spans.zipIdx
  exact hsorted.imp₂ (fun _ _ => Span.listedBefore_of_zipIdxLE) hplaces

/-! ### The tree of a text -/

open RichText (rawSpan Renderer)

/-- The tree of raw spans over a text. -/
def textTree (text : String) (raw : List Json) : List SpanNode :=
  let length := (Text.units text).length
  buildTree 0 length (sortSpans (raw.filterMap (Span.ofJson? length)))

/-- The raw spans that a block lists. -/
def listedSpans (block : Json) : List Json := ((block.get? "spans").bind Json.asArray?).getD []

variable (text : String) (raw : List Json)

/-- The nodes of the tree cover the text, and end where it may be `cut` if the spans that apply
do. -/
theorem tiles_textTree {cut : Nat → Prop} (hstop : cut (Text.units text).length)
    (hcuts : ∀ span ∈ raw.filterMap (Span.ofJson? (Text.units text).length), cut span.start ∧
      cut span.stop) :
    Tiles cut 0 (Text.units text).length (textTree text raw) :=
  tiles_buildTree (nestable_sortSpans hstop hcuts)

theorem given?_of_mem_sortSpans {length : Nat} {raw : List Json} :
    ∀ span ∈ sortSpans (raw.filterMap (Span.ofJson? length)), span.given? length = some span := by
  intro span hspan
  obtain ⟨found, -, hfound⟩ := List.mem_filterMap.mp (List.mem_mergeSort.mp hspan)
  exact Span.given?_of_ofJson? hfound

/-- The spans of the tree, as they were given, are those that apply to the text in the order of
nesting. -/
theorem given?_textTree :
    (placedSpans [] (textTree text raw)).map (fun placed =>
      placed.span.given? (Text.units text).length) =
      (sortSpans (raw.filterMap (Span.ofJson? (Text.units text).length))).map some := by
  have hread (spans : List Span) : spans.map (Span.given? (Text.units text).length) =
      (spans.map Span.source).map fun source => Span.ofJson? (Text.units text).length source.2 := by
    rw [List.map_map]
    rfl
  have hspans :
      (placedSpans [] (textTree text raw)).map (fun placed =>
        placed.span.given? (Text.units text).length) =
      (spansOf (textTree text raw)).map (Span.given? (Text.units text).length) := by
    rw [← map_span_placedSpans [], List.map_map]
    rfl
  rw [hspans, hread, textTree, sources_buildTree, ← hread]
  exact List.map_congr_left given?_of_mem_sortSpans

/-- **The spans of a text nest**, whatever the text and the raw spans are, and the tree that is
spoken of is the one that is rendered for a block that lists these spans. -/
theorem spansNest_textTree : SpansNest (Text.units text) raw (textTree text raw) ∧
    ∀ (r : Renderer) (block : Json), listedSpans block = raw →
      r.spans block text = r.nodes (Text.units text) (textTree text raw) := by
  have htiles : Tiles (fun _ => True) 0 (Text.units text).length (textTree text raw) :=
    tiles_textTree text raw trivial fun _ _ => ⟨trivial, trivial⟩
  constructor
  · refine
      { runs_within := fun run hrun => (htiles.textRuns_within run hrun).2
        runs_offsets := by rw [htiles.offsets_textRuns, Nat.sub_zero, List.range_eq_range']
        spans_listed := ?_
        spans_cutOff := cutOff_of_placed_buildTree given?_of_mem_sortSpans
        spans_within := fun placed hplaced =>
          ⟨(htiles.of_placed placed hplaced).2.le, (htiles.of_placed placed hplaced).1⟩
        children_inOrder := fun placed hplaced => (htiles.of_placed placed hplaced).2.inOrder
        text_runs :=
          fun placed hplaced => ((htiles.of_placed placed hplaced).2.slice_textRuns _).symm
        text_decoded := ?_ }
    · obtain ⟨listed, hperm, hordered, hsorted⟩ :=
        exists_listed_sortSpans (raw.filterMap (Span.ofJson? (Text.units text).length))
      refine ⟨listed, hperm, hordered, ?_⟩
      rw [given?_textTree, hsorted, List.map_map]
      rfl
    · intro hpairs placed hplaced
      have hkept :
          Tiles (fun offset => ¬ Text.SplitsPair (Text.units text) offset) 0
            (Text.units text).length
          (textTree text raw) := tiles_textTree text raw (Text.not_splitsPair_length _) hpairs
      exact (hkept.of_placed placed hplaced).2.ofUnits_textRuns.symm
  · rintro r block rfl
    rfl

/-- Spans of a text of five units: one that crosses the first and overruns the text, one that
applies nowhere, and one that is turned around and so is empty. -/
def crossingSpans : List Json :=
  [rawSpan 1 4 "strong", rawSpan 3 9 "em", .null, rawSpan 4 2 "label"]

/-- A text that lists them. -/
def crossingBlock : Json :=
  .object [("type", .string "paragraph"), ("text", .string "a😀bc"), ("spans", .array crossingSpans)]

theorem textTree_crossing : textTree "a😀bc" crossingSpans =
    [.text 0 1,
      .span ⟨1, 4, "strong", rawSpan 1 4 "strong"⟩
        [.text 1 3, .span ⟨3, 4, "em", rawSpan 3 9 "em"⟩ [.text 3 4]],
      .span ⟨4, 4, "label", rawSpan 4 2 "label"⟩ [],
      .text 4 5] := by
  have hlength : (Text.units "a😀bc").length = 5 := by decide
  have hspans : crossingSpans.filterMap (Span.ofJson? 5) = [⟨1, 4, "strong", rawSpan 1 4 "strong"⟩,
      ⟨3, 5, "em", rawSpan 3 9 "em"⟩, ⟨4, 4, "label", rawSpan 4 2 "label"⟩] := by decide
  have hsorted : (crossingSpans.filterMap (Span.ofJson? 5)).Pairwise fun a b => a.precedes b := by
    decide
  rw [textTree, hlength, sortSpans, List.mergeSort_of_pairwise hsorted, hspans]
  simp [buildTree, textRun, Span.clip]

/-- The second span is cut off where the first one ends, and the empty one stands behind it. -/
theorem spansNest_textTree_crossing :
    listedSpans crossingBlock = crossingSpans ∧
      SpansNest (Text.units "a😀bc") crossingSpans (textTree "a😀bc" crossingSpans) ∧
      textRuns (textTree "a😀bc" crossingSpans) = [(0, 1), (1, 3), (3, 4), (4, 5)] ∧
      ∀ r : Renderer,
        r.spans crossingBlock "a😀bc" = r.nodes (Text.units "a😀bc")
          (textTree "a😀bc" crossingSpans) := by
  obtain ⟨hnest, hrender⟩ := spansNest_textTree "a😀bc" crossingSpans
  refine ⟨rfl, hnest, ?_, fun r => hrender r crossingBlock rfl⟩
  rw [textTree_crossing]
  rfl

end ContentGraph
