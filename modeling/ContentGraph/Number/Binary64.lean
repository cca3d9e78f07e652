/-!
# Binary floating point numbers of 64 bits

A finite double is a sign, a whole mantissa below `2 ^ 53` and a power of two.  Arithmetic here is
exact on whole numbers and rounds once per operation, to the nearest double and to the even one of
two equally near:

* `Magnitude.round?` — the double nearest to a quotient of whole numbers, or nothing beyond the
  largest double;
* `Magnitude.mul?`, `Magnitude.div?` — product and quotient of two doubles;
* `ofDecimal?` — the double that a decimal significand and a power of ten are read as.
-/

namespace ContentGraph

/-- The size of a finite double: `mantissa * 2 ^ exponent`. -/
structure Magnitude where
  mantissa : Nat
  exponent : Int
  deriving DecidableEq, Repr, Inhabited

/-- A finite double. -/
structure Binary64 where
  negative : Bool
  magnitude : Magnitude
  deriving DecidableEq, Repr, Inhabited

namespace Magnitude

/-- Zero, written with the least exponent. -/
def zero : Magnitude := ⟨0, -1074⟩

/-- The number of binary digits of `n`. -/
def bitLength (n : Nat) : Nat := if n = 0 then 0 else n.log2 + 1

/-- `num / den` in units of `2 ^ exponent`, as a quotient of whole numbers. -/
def inUnits (num den : Nat) (exponent : Int) : Nat × Nat :=
  if exponent < 0 then (num <<< exponent.natAbs, den) else (num, den <<< exponent.natAbs)

/-- The whole number nearest to `num / den`, the even one of two equally near. -/
def nearest (num den : Nat) : Nat :=
  let quotient := num / den
  let rest := 2 * (num % den)
  if rest > den || (rest = den && quotient % 2 = 1) then quotient + 1 else quotient

/-- The double nearest to `num / den`, or nothing when that is beyond the largest double. -/
def round? (num den : Nat) : Option Magnitude :=
  if num = 0 then some zero
  else
    let guess : Int := max ((bitLength num : Int) - bitLength den - 53) (-1074)
    let scaled := inUnits num den guess
    let exponent := if scaled.1 / scaled.2 < Nat.pow 2 53 then guess else guess + 1
    let scaled := inUnits num den exponent
    let mantissa := nearest scaled.1 scaled.2
    let rounded : Magnitude :=
      if mantissa = Nat.pow 2 53 then ⟨Nat.pow 2 52, exponent + 1⟩ else ⟨mantissa, exponent⟩
    if rounded.exponent ≤ 971 then some rounded else none

/-- The exact value as a quotient of whole numbers. -/
def toQuotient (m : Magnitude) : Nat × Nat :=
  if m.exponent < 0 then (m.mantissa, Nat.pow 2 m.exponent.natAbs)
  else (m.mantissa * Nat.pow 2 m.exponent.natAbs, 1)

/-- The product, rounded. -/
def mul? (a b : Magnitude) : Option Magnitude :=
  round? (a.toQuotient.1 * b.toQuotient.1) (a.toQuotient.2 * b.toQuotient.2)

/-- The quotient by a number other than zero, rounded. -/
def div? (a b : Magnitude) : Option Magnitude :=
  round? (a.toQuotient.1 * b.toQuotient.2) (a.toQuotient.2 * b.toQuotient.1)

/-- The whole number `n` as a double. -/
def ofNat? (n : Nat) : Option Magnitude := round? n 1

end Magnitude

namespace Binary64

open Magnitude in
/-- The size that `significand * 10 ^ exponent` is read as.  The significand and the power of ten
are each rounded to a double first; their product or quotient is rounded again.  A power below `10 ^
-308` is divided out in two steps, and below that nothing is left of a significand of twenty
digits. -/
def magnitudeOfDecimal? (significand : Nat) (exponent : Int) : Option Magnitude := do
  let whole ← ofNat? significand
  let power := exponent.natAbs
  if 0 ≤ exponent then
    if power ≤ 308 then mul? whole (← ofNat? (Nat.pow 10 power))
    else if significand = 0 then some zero
    else none
  else if power ≤ 308 then div? whole (← ofNat? (Nat.pow 10 power))
  else if power ≤ 616 then
    let reduced ← div? whole (← ofNat? (Nat.pow 10 308))
    div? reduced (← ofNat? (Nat.pow 10 (power - 308)))
  else some zero

/-- The double that a decimal is read as, or nothing when it is beyond the largest double. -/
def ofDecimal? (negative : Bool) (significand : Nat) (exponent : Int) : Option Binary64 :=
  (magnitudeOfDecimal? significand exponent).map fun magnitude => ⟨negative, magnitude⟩

end Binary64

end ContentGraph
