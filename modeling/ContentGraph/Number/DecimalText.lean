import ContentGraph.Text.Case

/-!
# Decimals as text

A decimal is an optional sign, digits with at most one point among or around them, and an optional
power of ten.

* `DecimalText.read?` — the parts of a text that is a decimal as a whole;
* `DecimalText.isFinite` — whether its size is within the doubles.
-/

namespace ContentGraph

/-- The parts of a decimal. -/
structure DecimalText where
  negative : Bool
  whole : List Char
  fraction : List Char
  power : Int
  deriving DecidableEq, Repr

namespace DecimalText

/-- The number that decimal digits write after `high`. -/
def number (high : Nat) : List Char → Nat
  | [] => high
  | c :: rest => number (high * 10 + (c.toNat - 48)) rest

/-- A sign, if there is one, and the text after it: whether it is a minus. -/
def splitSign : List Char → Bool × List Char
  | '-' :: rest => (true, rest)
  | '+' :: rest => (false, rest)
  | text => (false, text)

/-- The power of ten that a whole text writes: nothing, or `e`, an optional sign and digits. -/
def readPower? : List Char → Option Int
  | [] => some 0
  | c :: rest =>
    if c = 'e' || c = 'E' then
      let (negative, digits) := splitSign rest
      if digits = [] || !digits.all Text.isAsciiDigit then none
      else
        let size : Int := number 0 digits
        some (if negative then -size else size)
    else none

/-- The parts of a text that is a decimal as a whole. -/
def read? (text : List Char) : Option DecimalText :=
  let (negative, text) := splitSign text
  let whole := text.takeWhile Text.isAsciiDigit
  let rest := text.dropWhile Text.isAsciiDigit
  let (fraction, rest) := match rest with
    | '.' :: digits => (digits.takeWhile Text.isAsciiDigit, digits.dropWhile Text.isAsciiDigit)
    | rest => ([], rest)
  if whole = [] && fraction = [] then none
  else (readPower? rest).map fun power => ⟨negative, whole, fraction, power⟩

/-- The least size that rounds to no double: half a unit above the greatest one. -/
def overflowSize : Nat := Nat.pow 2 1024 - Nat.pow 2 970

/-- Whether a decimal is within the range of doubles.  A number other than zero with more than 309
digits before its point is not, and one whose digits all stand behind its point is. -/
def isFinite (decimal : DecimalText) : Bool :=
  let digits := (decimal.whole ++ decimal.fraction).dropWhile (· = '0')
  let exponent := decimal.power - decimal.fraction.length
  let size := number 0 digits
  if digits = [] || digits.length + exponent ≤ 0 then true
  else if 309 < digits.length + exponent then false
  else if 0 ≤ exponent then size * Nat.pow 10 exponent.toNat < overflowSize
  else size < overflowSize * Nat.pow 10 exponent.natAbs

end DecimalText

end ContentGraph
