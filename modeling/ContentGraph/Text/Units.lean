/-!
# UTF-16 code units

Offsets into rich texts count UTF-16 code units.

* `units` — the code units of a text;
* `ofUnits` — the text of code units, U+FFFD in place of half a surrogate pair;
* `slice` — the code units between two offsets.
-/

namespace ContentGraph.Text

/-- The code units of one character. -/
def unitsOfChar (c : Char) : List UInt16 :=
  if c.toNat < 0x10000 then [UInt16.ofNat c.toNat]
  else
    let rest := c.toNat - 0x10000
    [UInt16.ofNat (0xD800 + rest / 0x400), UInt16.ofNat (0xDC00 + rest % 0x400)]

/-- The code units of a text. -/
def units (text : String) : List UInt16 := text.toList.flatMap unitsOfChar

/-- Whether a unit opens a surrogate pair. -/
def isHigh (unit : UInt16) : Bool := 0xD800 ≤ unit && unit < 0xDC00

/-- Whether a unit closes a surrogate pair. -/
def isLow (unit : UInt16) : Bool := 0xDC00 ≤ unit && unit < 0xE000

/-- The character that stands for half a pair. -/
def replacementChar : Char := Char.ofNat 0xFFFD

/-- The character of a surrogate pair. -/
def pairChar (high low : UInt16) : Char :=
  Char.ofNat (0x10000 + (high.toNat - 0xD800) * 0x400 + (low.toNat - 0xDC00))

/-- The characters of code units. -/
def charsOfUnits : List UInt16 → List Char
  | [] => []
  | [unit] => [if isHigh unit || isLow unit then replacementChar else Char.ofNat unit.toNat]
  | unit :: next :: rest =>
    if isHigh unit then
      if isLow next then pairChar unit next :: charsOfUnits rest
      else replacementChar :: charsOfUnits (next :: rest)
    else if isLow unit then replacementChar :: charsOfUnits (next :: rest)
    else Char.ofNat unit.toNat :: charsOfUnits (next :: rest)

/-- The text of code units. -/
def ofUnits (units : List UInt16) : String := String.ofList (charsOfUnits units)

/-- The code units from `start` up to `stop`. -/
def slice (units : List UInt16) (start stop : Nat) : List UInt16 :=
  (units.drop start).take (stop - start)

end ContentGraph.Text
