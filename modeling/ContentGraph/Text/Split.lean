/-!
# White space and cutting

* `isBlank` — the property White_Space, which `trim` takes off both ends of a text;
* `splitAt` — the parts of a text between occurrences of a character, one more than the occurrences.
-/

namespace ContentGraph.Text

/-! ### White space -/

/-- White space, in and beyond ASCII. -/
def isBlank (c : Char) : Bool :=
  let n := c.toNat
  (9 ≤ n && n ≤ 13) || n = 0x20 || n = 0x85 || n = 0xA0 || n = 0x1680 || (0x2000 ≤ n && n ≤ 0x200A)
    || n = 0x2028 || n = 0x2029 || n = 0x202F || n = 0x205F || n = 0x3000

/-- The text without white space at its end. -/
def trimEnd (text : List Char) : List Char := (text.reverse.dropWhile isBlank).reverse

/-- The text without white space at either end. -/
def trim (text : List Char) : List Char := trimEnd (text.dropWhile isBlank)

/-! ### Parts -/

/-- The parts of characters between occurrences of `mark`. -/
def splitChars (mark : Char) : List Char → List (List Char)
  | [] => [[]]
  | c :: rest =>
    if c = mark then [] :: splitChars mark rest
    else match splitChars mark rest with
      | [] => [[c]]
      | part :: parts => (c :: part) :: parts

/-- The parts of a text between occurrences of `mark`. -/
def splitAt (mark : Char) (text : String) : List String :=
  (splitChars mark text.toList).map String.ofList

end ContentGraph.Text
