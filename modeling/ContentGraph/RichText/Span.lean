import ContentGraph.Json

/-!
# Spans of a text

Formatting covers ranges of a text by offset.  Raw spans may overlap, overrun the text or be turned
around; here they become a tree in which every span lies inside the one it starts in.

* `Span.ofJson?` — a raw span with its offsets brought into the text;
* `sortSpans` — spans by start, the longest first, otherwise in their given order;
* `buildTree` — runs of text and nested spans, a span that overruns the span it starts in cut off at
  its end.
-/

namespace ContentGraph

/-- A span with offsets inside the text. -/
structure Span where
  start : Nat
  stop : Nat
  type : String
  node : Json
  deriving DecidableEq

/-- A run of text, or a span around further nodes. -/
inductive SpanNode
  | text (start stop : Nat)
  | span (span : Span) (children : List SpanNode)

namespace Span

/-- The raw span as it applies to a text of `length` units.  One without whole offsets applies
nowhere. -/
def ofJson? (length : Nat) (raw : Json) : Option Span :=
  match (raw.get? "start").bind Json.asNat?, (raw.get? "end").bind Json.asNat? with
  | some start, some stop =>
    let start := min start length
    some { start, stop := max (min stop length) start, type := raw.getText "type", node := raw }
  | _, _ => none

/-- The order of nesting: by start, then the longest first. -/
def precedes (a b : Span) : Bool := a.start < b.start || (a.start = b.start && b.stop ≤ a.stop)

/-- The span cut off at `stop`. -/
def clip (stop : Nat) (span : Span) : Span := { span with stop := min span.stop stop }

end Span

/-- Spans in the order of nesting; equal ranges stay in their given order. -/
def sortSpans (spans : List Span) : List Span := spans.mergeSort Span.precedes

/-- The run of text from `start` to `stop`, if it is not empty. -/
def textRun (start stop : Nat) : List SpanNode := if start < stop then [.text start stop] else []

/-- The nodes between `cursor` and `stop` over spans in the order of nesting.  The spans that start
inside the first one become its children. -/
def buildTree (cursor stop : Nat) : List Span → List SpanNode
  | [] => textRun cursor stop
  | span :: rest =>
    let inside := rest.takeWhile fun other => other.start < span.stop
    let after := rest.dropWhile fun other => other.start < span.stop
    textRun cursor span.start
      ++ .span span (buildTree span.start span.stop (inside.map (Span.clip span.stop)))
      :: buildTree (max cursor span.stop) stop after
termination_by spans => spans.length
decreasing_by
  · simp only [List.length_map, List.length_cons]
    exact Nat.lt_succ_of_le (List.takeWhile_sublist _).length_le
  · simp only [List.length_cons]
    exact Nat.lt_succ_of_le (List.dropWhile_sublist _).length_le

end ContentGraph
