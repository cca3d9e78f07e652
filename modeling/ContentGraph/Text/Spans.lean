import ContentGraph.Text.Escape
import ContentGraph.Text.Split

/-!
# Properties of code points

A property of characters is stored as a sorted array of disjoint ranges; a property that has more
than two values is stored as sorted spans, each with the value that its code points share.  Either
is looked up by halving.  Long properties are written as lines of items between blanks, such as
`41-5A=61`: a code point or the first and the last one of a span, and the text of the value, all
numbers hexadecimal.

* `inRanges` — whether a code point has a property;
* `Spans.at?` — the span of a code point;
* `Spans.ofLines` — the spans that lines write;
* `Span.images` — the code points that a code point of a span is mapped to.
-/

namespace ContentGraph.Text

/-! ### Ranges -/

/-- Whether `n` lies in one of the sorted `ranges` between the positions `low` and `high`. -/
def searchRanges (ranges : Array (Nat × Nat)) (n : Nat) : (fuel low high : Nat) → Bool
  | 0, _, _ => false
  | fuel + 1, low, high =>
    if low < high then
      let middle := (low + high) / 2
      match ranges[middle]? with
      | none => false
      | some (first, last) =>
        if n < first then searchRanges ranges n fuel low middle
        else if last < n then searchRanges ranges n fuel (middle + 1) high
        else true
    else false

/-- Whether `n` lies in one of the sorted `ranges`.  Every step halves what is left. -/
def inRanges (ranges : Array (Nat × Nat)) (n : Nat) : Bool :=
  searchRanges ranges n (ranges.size.log2 + 2) 0 ranges.size

/-! ### Spans -/

/-- Code points from `first` to `last` that share a value. -/
structure Span (α : Type) where
  first : Nat
  last : Nat
  value : α
  deriving Repr

/-- Disjoint spans, the least first. -/
abbrev Spans (α : Type) := Array (Span α)

variable {α : Type}

/-- The span with `n` between the positions `low` and `high`. -/
def searchSpans (spans : Spans α) (n : Nat) : (fuel low high : Nat) → Option (Span α)
  | 0, _, _ => none
  | fuel + 1, low, high =>
    if low < high then
      let middle := (low + high) / 2
      match spans[middle]? with
      | none => none
      | some span =>
        if n < span.first then searchSpans spans n fuel low middle
        else if span.last < n then searchSpans spans n fuel (middle + 1) high
        else some span
    else none

/-- The span with `n`, if there is one.  Every step halves what is left. -/
def Spans.at? (spans : Spans α) (n : Nat) : Option (Span α) :=
  searchSpans spans n (spans.size.log2 + 2) 0 spans.size

/-- The value of `n`, if it has one. -/
def Spans.value? (spans : Spans α) (n : Nat) : Option α := (spans.at? n).map Span.value

/-- The code points that `n` is mapped to by the value of its span: a single one moves along with
`n`. -/
def Span.images (span : Span (List Nat)) (n : Nat) : List Nat :=
  match span.value with
  | [code] => [code + (n - span.first)]
  | codes => codes

/-! ### Written spans -/

/-- The numbers between plus signs. -/
def hexNumbers? (text : List Char) : Option (List Nat) := (splitChars '+' text).mapM (hexNumber? 0)

/-- The span that an item writes, when its value can be read. -/
def Span.ofItem? (read? : List Char → Option α) (item : List Char) : Option (Span α) := do
  let codes := item.takeWhile (· ≠ '=')
  let start := codes.takeWhile (· ≠ '-')
  let first ← hexNumber? 0 start
  let last ← if start = codes then some first else hexNumber? 0 (codes.drop (start.length + 1))
  let value ← read? (item.drop (codes.length + 1))
  some { first, last, value }

/-- The spans that lines write. -/
def Spans.ofLines (read? : List Char → Option α) (lines : List String) : Spans α :=
  (lines.flatMap fun line => (splitChars ' ' line.toList).filterMap (Span.ofItem? read?)).toArray

end ContentGraph.Text
