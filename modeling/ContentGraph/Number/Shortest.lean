import ContentGraph.Number.Binary64

/-!
# The shortest decimal that reads back

A double stands for every real number that rounds to it.  `shortest?` looks for the decimal of
fewest digits in that interval, digit count by digit count; of the two neighbours of the value on
one decimal grid it takes the nearer, and the even one of two equally near.
-/

namespace ContentGraph.Magnitude

/-- A decimal: `digits * 10 ^ exponent`. -/
structure Decimal where
  digits : Nat
  exponent : Int
  deriving DecidableEq, Repr, Inhabited

/-- The reals that round to a double, as three whole numbers over one denominator: the lower end,
the value and the upper end.  Both ends round to the double when its mantissa is even. -/
structure Interval where
  low : Nat
  value : Nat
  high : Nat
  denominator : Nat
  closed : Bool

/-- The reals that round to `m`.  Below a power of two the neighbours are twice as dense. -/
def interval (m : Magnitude) : Interval :=
  let below := if m.mantissa = Nat.pow 2 52 && m.exponent > -1074 then 1 else 2
  let scale := Nat.pow 2 (m.exponent - 2).natAbs
  let up := if m.exponent - 2 < 0 then 1 else scale
  let down := if m.exponent - 2 < 0 then scale else 1
  { low := (4 * m.mantissa - below) * up
    value := 4 * m.mantissa * up
    high := (4 * m.mantissa + 2) * up
    denominator := down
    closed := m.mantissa % 2 = 0 }

namespace Interval

/-- Whether `numerator / denominator` lies in the interval. -/
def contains (i : Interval) (numerator denominator : Nat) : Bool :=
  let point := numerator * i.denominator
  let low := i.low * denominator
  let high := i.high * denominator
  if i.closed then low ≤ point && point ≤ high else low < point && point < high

/-- The power of ten of the value's first digit; `fuel` bounds the search below one. -/
def leadingExponent (i : Interval) : Int :=
  if i.denominator ≤ i.value then (Nat.toDigits 10 (i.value / i.denominator)).length - 1
  else below 400 1 i.value
where
  /-- How often the value has to be multiplied by ten to reach one. -/
  below : Nat → Nat → Nat → Int
    | 0, count, _ => -(count : Int)
    | fuel + 1, count, value =>
      if i.denominator ≤ 10 * value then -(count : Int) else below fuel (count + 1) (10 * value)

/-- The value's nearest neighbour on the grid of multiples of `10 ^ exponent`, if it lies in the
interval. -/
def onGrid? (i : Interval) (exponent : Int) : Option Decimal :=
  let unit := Nat.pow 10 exponent.natAbs
  let num := if exponent < 0 then i.value * unit else i.value
  let den := if exponent < 0 then i.denominator else i.denominator * unit
  let lower := num / den
  let hits (digits : Nat) : Bool :=
    if exponent < 0 then i.contains digits unit else i.contains (digits * unit) 1
  let near := nearest num den
  let far := if near = lower then lower + 1 else lower
  if hits near then some ⟨near, exponent⟩ else if hits far then some ⟨far, exponent⟩ else none

/-- The first grid from `count` digits on that meets the interval. -/
def search (i : Interval) (leading : Int) : Nat → Nat → Option Decimal
  | 0, _ => none
  | fuel + 1, count =>
    match i.onGrid? (leading + 1 - count) with
    | some decimal => some decimal
    | none => search i leading fuel (count + 1)

end Interval

/-- Zeros at the end of the digits, moved into the exponent. -/
def Decimal.trimZeros : Nat → Decimal → Decimal
  | 0, d => d
  | fuel + 1, d =>
    if d.digits % 10 = 0 && d.digits ≠ 0 then trimZeros fuel ⟨d.digits / 10, d.exponent + 1⟩ else d

/-- The shortest decimal that reads back as `m`. -/
def shortest (m : Magnitude) : Decimal :=
  if m.mantissa = 0 then ⟨0, 0⟩
  else
    let i := m.interval
    match i.search i.leadingExponent 17 1 with
    | some decimal => decimal.trimZeros 20
    | none => ⟨0, 0⟩

end ContentGraph.Magnitude
