import ContentGraph.Proofs.RichText.Nesting
import Mathlib.Data.List.Perm.Basic

/-!
# The order in which spans are given

The spans of a block are brought into its text, sorted and only then nested.  The sort is stable,
and spans that it leaves in their given order have the same range.  So the order in which a block
lists its spans is not seen, as long as spans of one range keep theirs; raw spans that apply nowhere
may stand anywhere.

* `eq_of_sorted_of_filter_eq`, `filter_mergeSort` — a stable sort is told by the members of each
  key, in order;
* `SpansReordered` with `sortSpans_eq` — spans listed in another order are the same spans once they
  are sorted;
* `IgnoresSpans` — a serializer that does not look at the spans a block lists;
* `asHtml_reordered_spans` — the block has the same markup, or the same failure.
-/

namespace ContentGraph

/-! ### Stable sorting -/

section

variable {α κ : Type} [DecidableEq κ] {key : α → κ}

/-- Two sorted lists that have the same members of each key, in the same order, are the same when
only members of one key stand in either order. -/
theorem eq_of_sorted_of_filter_eq {le : α → α → Prop}
    (antisymm : ∀ x y, le x y → le y x → key x = key y) {a b : List α} (ha : a.Pairwise le)
    (hb : b.Pairwise le) (h : ∀ k, a.filter (fun x => key x = k) = b.filter fun x =>
      key x = k) : a = b := by
  induction a generalizing b with
  | nil =>
    cases b with
    | nil => rfl
    | cons y ys => simpa using h (key y)
  | cons x xs ih =>
    cases b with
    | nil => simpa using h (key x)
    | cons y ys =>
      rw [List.pairwise_cons] at ha hb
      have hmem (z : α) : z ∈ x :: xs ↔ z ∈ y :: ys := by
        have hfilter : z ∈ (x :: xs).filter (fun x => key x = key z) ↔
            z ∈ (y :: ys).filter fun x => key x = key z := by
          rw [h]
        simpa using hfilter
      -- each head stands somewhere in the other list, so neither comes strictly after the other
      have hkey : key x = key y := by
        rcases List.mem_cons.mp ((hmem x).mp List.mem_cons_self) with rfl | hx
        · rfl
        rcases List.mem_cons.mp ((hmem y).mpr List.mem_cons_self) with rfl | hy
        · rfl
        exact antisymm x y (ha.1 y hy) (hb.1 x hx)
      have hheads := h (key x)
      rw [List.filter_cons_of_pos (by simp), List.filter_cons_of_pos (by simp [hkey]),
        List.cons.injEq] at hheads
      obtain ⟨rfl, -⟩ := hheads
      refine congrArg (x :: ·) (ih ha.2 hb.2 fun k => ?_)
      have hk := h k
      rw [List.filter_cons, List.filter_cons] at hk
      split at hk
      · exact (List.cons.inj hk).2
      · exact hk

/-- **A stable sort** leaves the members of one key in their order. -/
theorem filter_mergeSort {le : α → α → Bool}
    (trans : ∀ x y z, le x y = true → le y z = true → le x z = true)
    (total : ∀ x y, (le x y || le y x) = true) (ties : ∀ x y, key x = key y → le x y = true)
    (list : List α) (k : κ) :
    (list.mergeSort le).filter (fun x => key x = k) = list.filter fun x => key x = k := by
  have hsorted : (list.filter fun x => key x = k).Pairwise fun x y => le x y = true := by
    refine List.pairwise_of_forall_mem_list fun x hx y hy => ties x y ?_
    rw [of_decide_eq_true (List.mem_filter.mp hx).2, of_decide_eq_true (List.mem_filter.mp hy).2]
  have hsublist :=
    (List.sublist_mergeSort trans total hsorted List.filter_sublist).filter fun x => key x = k
  rw [List.filter_filter] at hsublist
  simp only [Bool.and_self] at hsublist
  exact (hsublist.eq_of_length ((List.mergeSort_perm list le).filter _).length_eq.symm).symm

end

/-! ### Spans in another order -/

namespace Span

/-- The range that a span covers. -/
def range (span : Span) : Nat × Nat := (span.start, span.stop)

/-- The range of a text of `length` units that a raw span covers, if it applies anywhere. -/
def range? (length : Nat) (raw : Json) : Option (Nat × Nat) := (ofJson? length raw).map range

theorem range_eq_of_precedes {a b : Span} (hab : a.precedes b = true) (hba : b.precedes a = true) :
    a.range = b.range := by
  simp only [precedes, Bool.or_eq_true, Bool.and_eq_true, decide_eq_true_eq] at hab hba
  rw [range, range, Prod.mk.injEq]
  omega

theorem precedes_of_range_eq {a b : Span} (h : a.range = b.range) : a.precedes b = true := by
  rw [range, range, Prod.mk.injEq] at h
  simp only [precedes, Bool.or_eq_true, Bool.and_eq_true, decide_eq_true_eq]
  omega

end Span

/-- Raw spans of a text of `length` units listed in another order, in which those that cover one
range keep their order. -/
structure SpansReordered (length : Nat) (raw other : List Json) : Prop where
  perm : other.Perm raw
  ties : ∀ range, (other.filter fun span => Span.range? length span = some range) =
    raw.filter fun span => Span.range? length span = some range

/-- The spans that cover a range come from the raw spans that cover it. -/
theorem filter_filterMap_ofJson? (length : Nat) (raw : List Json) (range : Nat × Nat) :
    (raw.filterMap (Span.ofJson? length)).filter (fun span => span.range = range) =
      (raw.filter fun span => Span.range? length span = some range).filterMap
        (Span.ofJson? length) := by
  rw [List.filter_filterMap, List.filterMap_filter]
  refine List.filterMap_congr fun span _ => ?_
  rw [Span.range?]
  cases Span.ofJson? length span with
  | none => simp
  | some found => by_cases hrange : found.range = range <;> simp [hrange]

/-- **Spans listed in another order** are the same once they are sorted. -/
theorem SpansReordered.sortSpans_eq {length : Nat} {raw other : List Json}
    (h : SpansReordered length raw other) :
    sortSpans (other.filterMap (Span.ofJson? length)) =
      sortSpans (raw.filterMap (Span.ofJson? length)) := by
  have hsorted (spans : List Span) : (sortSpans spans).Pairwise fun a b => a.precedes b = true :=
    List.pairwise_mergeSort Span.precedes_trans Span.precedes_total spans
  have hkept (spans : List Span) (range : Nat × Nat) :
      (sortSpans spans).filter (fun span => span.range = range) = spans.filter fun span =>
        span.range = range :=
    filter_mergeSort Span.precedes_trans Span.precedes_total
      (fun _ _ => Span.precedes_of_range_eq) spans range
  have hantisymm : ∀ a b : Span, a.precedes b = true → b.precedes a = true → a.range = b.range :=
    fun _ _ => Span.range_eq_of_precedes
  refine eq_of_sorted_of_filter_eq hantisymm (hsorted _) (hsorted _) fun range => ?_
  rw [hkept, hkept, filter_filterMap_ofJson?, filter_filterMap_ofJson?, h.ties]

namespace RichText

/-! ### Blocks -/

/-- A block that lists other spans. -/
def withSpans (block : Json) (spans : List Json) : Json :=
  match block with
  | .object members => .object (Keyed.set "spans" (.array spans) members)
  | other => other

theorem get?_withSpans_of_ne {block : Json} {spans : List Json} {name : String}
    (h : name ≠ "spans") :
    (withSpans block spans).get? name = block.get? name := by
  cases block with
  | object members => exact Keyed.get?_set_of_ne h _ _
  | _ => rfl

theorem get?_withSpans {block : Json} {spans : List Json} (h : (block.get? "spans").isSome) :
    (withSpans block spans).get? "spans" = some (.array spans) := by
  cases block with
  | object members => exact Keyed.get?_set_self _ _ _
  | _ => cases h

theorem getString?_withSpans {block : Json} {spans : List Json} {name : String}
    (h : name ≠ "spans") :
    (withSpans block spans).getString? name = block.getString? name := by
  rw [Json.getString?, get?_withSpans_of_ne h, Json.getString?]

theorem getText_withSpans {block : Json} {spans : List Json} {name : String} (h : name ≠ "spans") :
    (withSpans block spans).getText name = block.getText name := by
  rw [Json.getText, getString?_withSpans h, Json.getText]

/-- The serializer does not look at the spans that a block lists: it gives the block the same answer
whatever they are. -/
def IgnoresSpans (field : FieldContext) (serializeHtml : HtmlSerializer) (block : Json) : Prop :=
  ∀ spans text children,
    serializeHtml field ⟨block.getText "type", withSpans block spans, text⟩ children =
      serializeHtml field ⟨block.getText "type", block, text⟩ children

/-- The default markup does not look at them. -/
theorem ignoresSpans_defaultMarkup (field : FieldContext) (block : Json) :
    IgnoresSpans field defaultMarkup block :=
  fun _ _ _ => rfl

namespace Renderer

variable {field : FieldContext} {resolveLink : LinkResolver} {serializeHtml : HtmlSerializer}
  {block : Json} {raw other : List Json}

theorem element_withSpans (h : IgnoresSpans field serializeHtml block)
    (text children default : String) :
    element ⟨field, resolveLink, serializeHtml⟩
        ⟨block.getText "type", withSpans block other, text⟩ children default =
      element ⟨field, resolveLink, serializeHtml⟩
        ⟨block.getText "type", block, text⟩ children default := by
  simp only [element]
  rw [h]

/-- The spans of a block in the order of nesting do not tell the order in which it lists them. -/
theorem blockSpans_withSpans {length : Nat} (hspans : block.get? "spans" = some (.array raw))
    (h : SpansReordered length raw other) :
    blockSpans (withSpans block other) length = blockSpans block length := by
  have hother : (withSpans block other).get? "spans" = some (.array other) :=
    get?_withSpans (by rw [hspans]; rfl)
  rw [blockSpans, blockSpans, hother, hspans]
  exact h.sortSpans_eq

theorem classAttribute_withSpans (block : Json) (spans : List Json) :
    classAttribute (withSpans block spans) = classAttribute block := by
  rw [classAttribute, getString?_withSpans (by decide), classAttribute]

theorem classSuffix_withSpans (block : Json) (spans : List Json) :
    classSuffix (withSpans block spans) = classSuffix block := by
  rw [classSuffix, getString?_withSpans (by decide), classSuffix]

theorem imageMarkup_withSpans (block : Json) (spans : List Json) :
    imageMarkup (withSpans block spans) = imageMarkup block := by
  unfold imageMarkup
  rw [getText_withSpans (by decide), getText_withSpans (by decide), getText_withSpans (by decide)]

theorem imageLink?_withSpans (block : Json) (spans : List Json) :
    imageLink? (withSpans block spans) = imageLink? block := by
  rw [imageLink?, get?_withSpans_of_ne (by decide), imageLink?]

theorem imageBlock_withSpans (h : IgnoresSpans field serializeHtml block) (text : String) :
    imageBlock ⟨field, resolveLink, serializeHtml⟩ (withSpans block other)
        ⟨block.getText "type", withSpans block other, text⟩ =
      imageBlock ⟨field, resolveLink, serializeHtml⟩ block ⟨block.getText "type", block, text⟩ := by
  simp only [imageBlock, imageLink?_withSpans, imageMarkup_withSpans, classSuffix_withSpans,
    element_withSpans h]

theorem embedBlock_withSpans (h : IgnoresSpans field serializeHtml block) (text : String) :
    embedBlock ⟨field, resolveLink, serializeHtml⟩ (withSpans block other)
        ⟨block.getText "type", withSpans block other, text⟩ =
      embedBlock ⟨field, resolveLink, serializeHtml⟩ block ⟨block.getText "type", block, text⟩ := by
  have hmedia : (withSpans block other).get? "oembed" = block.get? "oembed" :=
    get?_withSpans_of_ne (by decide)
  simp only [embedBlock, hmedia, classAttribute_withSpans, element_withSpans h]

/-- **A block** that lists its spans in another order is rendered alike. -/
theorem block_withSpans (hspans : block.get? "spans" = some (.array raw))
    (h : SpansReordered (Text.units (block.getText "text")).length raw other)
    (hserializer : IgnoresSpans field serializeHtml block) :
    Renderer.block ⟨field, resolveLink, serializeHtml⟩ (withSpans block other) =
      Renderer.block ⟨field, resolveLink, serializeHtml⟩ block := by
  have htype : (withSpans block other).getText "type" = block.getText "type" :=
    getText_withSpans (by decide)
  have htext : (withSpans block other).getText "text" = block.getText "text" :=
    getText_withSpans (by decide)
  have hblockSpans := blockSpans_withSpans hspans h
  simp only [Renderer.block, Renderer.spans, htype, htext, hblockSpans, classAttribute_withSpans,
    imageBlock_withSpans hserializer, embedBlock_withSpans hserializer,
    element_withSpans hserializer]

end Renderer

/-- **The order of spans is not seen.**  A block that lists its spans in another order, in which
those that cover one range of its text keep theirs, has the same markup or the same failure under
every link resolver and every serializer that does not look at the list. -/
theorem asHtml_reordered_spans (field : FieldContext) (resolveLink : LinkResolver)
    (serializeHtml : HtmlSerializer) {block : Json} {raw other : List Json}
    (hspans : block.get? "spans" = some (.array raw))
    (hreordered : SpansReordered (Text.units (block.getText "text")).length raw other)
    (hserializer : IgnoresSpans field serializeHtml block) :
    asHtml field resolveLink serializeHtml [withSpans block other] =
      asHtml field resolveLink serializeHtml [block] := by
  have hblock : Renderer.block ⟨field, resolveLink, serializeHtml⟩ (withSpans block other) =
      Renderer.block ⟨field, resolveLink, serializeHtml⟩ block :=
    Renderer.block_withSpans hspans hreordered hserializer
  have hkind : listKind? (withSpans block other) = listKind? block := by
    rw [listKind?, getText_withSpans (by decide), listKind?]
  simp only [asHtml, runs, consRun, hkind]
  cases listKind? block with
  | none => simp only [Renderer.runs, Renderer.run, hblock]
  | some kind => simp only [Renderer.runs, Renderer.run, Renderer.blocks, hblock]

/-- A raw span. -/
def rawSpan (start stop : Nat) (type : String) : Json :=
  .object [("start", .ofNat start), ("end", .ofNat stop), ("type", .string type)]

/-- Four spans of a text of four units: two that cover all of it once they are cut to its length,
one that applies nowhere, and one inside the others. -/
def coveringSpans : List Json :=
  [rawSpan 0 4 "strong", .null, rawSpan 0 9 "em", rawSpan 1 2 "label"]

/-- The same spans with the inner one first and the void one last. -/
def movedSpans : List Json := [rawSpan 1 2 "label", rawSpan 0 4 "strong", rawSpan 0 9 "em", .null]

/-- A text that lists the four spans. -/
def coveredBlock : Json :=
  .object [("type", .string "paragraph"), ("text", .string "abcd"), ("spans", .array coveringSpans)]

theorem spansReordered_movedSpans : SpansReordered 4 coveringSpans movedSpans := by
  have hstrong : Span.range? 4 (rawSpan 0 4 "strong") = some (0, 4) := by decide
  have hem : Span.range? 4 (rawSpan 0 9 "em") = some (0, 4) := by decide
  have hlabel : Span.range? 4 (rawSpan 1 2 "label") = some (1, 2) := by decide
  have hnull : Span.range? 4 .null = none := by decide
  refine ⟨by decide, fun range => ?_⟩
  simp only [coveringSpans, movedSpans, List.filter_cons, List.filter_nil, hstrong, hem,
    hlabel, hnull]
  by_cases hrange : (0, 4) = range
  · subst hrange
    simp
  · simp [hrange]

/-- Listed in that order the spans have the same markup. -/
theorem asHtml_reordered_spans_covered :
    coveredBlock.get? "spans" = some (.array coveringSpans) ∧
      SpansReordered 4 coveringSpans movedSpans ∧
      IgnoresSpans ⟨"body", .null, .null⟩ defaultMarkup coveredBlock ∧
      asHtml ⟨"body", .null, .null⟩ noLinks defaultMarkup [withSpans coveredBlock movedSpans] =
        asHtml ⟨"body", .null, .null⟩ noLinks defaultMarkup [coveredBlock] :=
  ⟨rfl, spansReordered_movedSpans, ignoresSpans_defaultMarkup _ _,
    asHtml_reordered_spans _ _ _ rfl spansReordered_movedSpans (ignoresSpans_defaultMarkup _ _)⟩

end RichText

end ContentGraph
