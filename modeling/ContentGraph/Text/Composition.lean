import ContentGraph.Text.CompositionTable
import ContentGraph.Text.Spans

/-!
# Composed form

One text may be spelled in several ways: a letter with its marks or one character for both, and
marks in several orders.  `composed` gives the one spelling that all of them have in common:
characters are decomposed, marks on one letter are sorted by their classes, and what can be composed
is composed.

* `decompose` — the parts of a character, in full;
* `orderMarks` — marks sorted by class;
* `compose` — parts joined again;
* `composed` — the composed form of a text.

Everything here is about code points.  Syllables of Hangul are computed from their letters.
-/

namespace ContentGraph.Text

/-! ### Properties of characters -/

/-- The classes of marks. -/
def combiningClasses : Spans Nat := .ofLines (hexNumber? 0) combiningClassLines

/-- Composed characters with their two parts. -/
def compositions : Spans (List Nat) := .ofLines hexNumbers? compositionLines

/-- Characters that are decomposed and never composed. -/
def decompositions : Spans (List Nat) := .ofLines hexNumbers? decompositionLines

/-- The class of a mark; zero for any other character. -/
def combiningClass (n : Nat) : Nat := (combiningClasses.value? n).getD 0

/-! ### Hangul -/

/-- The letters of a syllable. -/
def hangulParts? (n : Nat) : Option (List Nat) :=
  if 0xAC00 ≤ n && n ≤ 0xD7A3 then
    let index := n - 0xAC00
    let letters := [0x1100 + index / 588, 0x1161 + index % 588 / 28]
    some (if index % 28 = 0 then letters else letters ++ [0x11A7 + index % 28])
  else none

/-- The syllable of two letters, or of an open syllable and a closing letter. -/
def hangulWhole? (a b : Nat) : Option Nat :=
  if 0x1100 ≤ a && a ≤ 0x1112 && 0x1161 ≤ b && b ≤ 0x1175 then
    some (0xAC00 + (a - 0x1100) * 588 + (b - 0x1161) * 28)
  else if 0xAC00 ≤ a && a ≤ 0xD7A3 && (a - 0xAC00) % 28 = 0 && 0x11A8 ≤ b && b ≤ 0x11C2 then
    some (a + (b - 0x11A7))
  else none

/-! ### Decomposing and composing -/

/-- The next parts of a character that has any. -/
def parts? (n : Nat) : Option (List Nat) :=
  match hangulParts? n with
  | some letters => some letters
  | none =>
    match compositions.at? n with
    | some span => some (span.images n)
    | none => (decompositions.at? n).map fun span => span.images n

/-- The parts of a character; `fuel` bounds how deep they are taken apart. -/
def decomposeWith : (fuel n : Nat) → List Nat
  | 0, n => [n]
  | fuel + 1, n =>
    match parts? n with
    | none => [n]
    | some parts => parts.flatMap (decomposeWith fuel)

/-- The parts of a character, in full: no character is composed in more than four steps. -/
def decompose (n : Nat) : List Nat := if n < 0xC0 then [n] else decomposeWith 4 n

/-- A character moved behind the marks of lower classes, if it is a mark. -/
def placeMark (c : Nat) : List Nat → List Nat
  | [] => [c]
  | d :: rest =>
    if combiningClass d ≠ 0 && combiningClass d < combiningClass c then d :: placeMark c rest
      else c :: d :: rest

/-- Marks on one character sorted by class; marks of one class keep their order. -/
def orderMarks : List Nat → List Nat
  | [] => []
  | c :: rest => placeMark c (orderMarks rest)

/-- The character that is composed of two parts. -/
def whole? (a b : Nat) : Option Nat :=
  match hangulWhole? a b with
  | some syllable => some syllable
  | none => (compositions.find? fun span => span.value = [a, b]).map Span.first

/-- What becomes of a character with marks that are not composed with it, the last one first, before
a text.  A character joins the first one unless a mark of its class or a higher one stands
between. -/
def composeAfter (start : Nat) (marks : List Nat) : List Nat → List Nat
  | [] => start :: marks.reverse
  | c :: rest =>
    let blocked := match marks with
      | [] => false
      | mark :: _ => combiningClass c ≤ combiningClass mark
    match if blocked then none else whole? start c with
    | some whole => composeAfter whole marks rest
    | none =>
      if combiningClass c = 0 then start :: (marks.reverse ++ composeAfter c [] rest)
      else composeAfter start (c :: marks) rest

/-- Parts joined where they can be. -/
def compose : List Nat → List Nat
  | [] => []
  | c :: rest => composeAfter c [] rest

/-- The composed form of a text. -/
def composed (text : List Char) : List Char :=
  if text.all fun c => c.toNat < 0x300 then text
  else (compose (orderMarks (text.flatMap fun c => decompose c.toNat))).map Char.ofNat

end ContentGraph.Text
