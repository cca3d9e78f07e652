import ContentGraph.Json
import ContentGraph.Number.Shortest
import ContentGraph.Text.Escape

/-!
# JSON text

Two layouts of one value: `compact`, without any white space, and `pretty`, one member or element a
line, indented by two spaces.  Strings escape the quote, the backslash and the control characters
below U+0020; everything else is written as it is.  A double is written with its shortest digits,
positionally while its first digit stands between `10 ^ -5` and `10 ^ 15`, and always with a
fraction or an exponent.
-/

namespace ContentGraph.Json

/-! ### Numbers -/

/-- Which doubles are written positionally: those whose first digit's power of ten lies between the
two bounds. -/
structure NumberFormat where
  leastPositional : Int
  greatestPositional : Int

/-- Doubles from `0.00001` up to sixteen whole digits are positional. -/
def numberFormat : NumberFormat := ⟨-5, 15⟩

/-- Digits with a point after the first and the signed power of ten, such as `1.5e+29` or `1e-7`. -/
def scientific (digits : List Char) (leading : Int) : List Char :=
  let fraction := match digits.drop 1 with
    | [] => []
    | rest => '.' :: rest
  let sign := if leading < 0 then '-' else '+'
  digits.take 1 ++ fraction ++ 'e' :: sign :: Nat.toDigits 10 leading.natAbs

/-- Digits in place, `point` of them before the decimal point, at least one digit on each side of
it. -/
def positional (digits : List Char) (point : Int) : List Char :=
  if point ≤ 0 then '0' :: '.' :: (List.replicate point.natAbs '0' ++ digits)
  else
    let whole := point.toNat
    if digits.length ≤ whole then
      digits ++ List.replicate (whole - digits.length) '0' ++ ['.', '0']
    else digits.take whole ++ '.' :: digits.drop whole

/-- The text of a double's size. -/
def writeMagnitude (m : Magnitude) : List Char :=
  if m.mantissa = 0 then ['0', '.', '0']
  else
    let decimal := m.shortest
    let digits := Nat.toDigits 10 decimal.digits
    let point := decimal.exponent + digits.length
    let leading := point - 1
    if numberFormat.leastPositional ≤ leading && leading ≤ numberFormat.greatestPositional then
      positional digits point
    else scientific digits leading

/-- The text of a number. -/
def writeNumber : Number → List Char
  | .integer value =>
    if value < 0 then '-' :: Nat.toDigits 10 value.natAbs else Nat.toDigits 10 value.natAbs
  | .double value =>
    if value.negative then '-' :: writeMagnitude value.magnitude else writeMagnitude value.magnitude

/-! ### Strings -/

/-- One character of a string. -/
def escape (c : Char) : List Char :=
  if c = '"' then ['\\', '"']
  else if c = '\\' then ['\\', '\\']
  else if c = '\n' then ['\\', 'n']
  else if c = '\r' then ['\\', 'r']
  else if c = '\t' then ['\\', 't']
  else if c = Char.ofNat 8 then ['\\', 'b']
  else if c = Char.ofNat 12 then ['\\', 'f']
  else if c.toNat < 32 then ['\\', 'u', '0', '0', Text.hexDigit (c.toNat / 16),
    Text.hexDigit (c.toNat % 16)]
  else [c]

/-- A string between quotes. -/
def quote (text : String) : List Char := '"' :: (text.toList.flatMap escape ++ ['"'])

/-! ### Compact text -/

mutual
/-- A value without white space. -/
def compactChars : Json → List Char
  | .null => ['n', 'u', 'l', 'l']
  | .bool true => ['t', 'r', 'u', 'e']
  | .bool false => ['f', 'a', 'l', 's', 'e']
  | .number value => writeNumber value
  | .string text => quote text
  | .array elements => '[' :: (compactElements elements ++ [']'])
  | .object members => '\x7b' :: (compactMembers members ++ ['\x7d'])
/-- Elements between commas. -/
def compactElements : List Json → List Char
  | [] => []
  | [value] => compactChars value
  | value :: rest => compactChars value ++ ',' :: compactElements rest
/-- Members between commas. -/
def compactMembers : List (String × Json) → List Char
  | [] => []
  | [(key, value)] => quote key ++ ':' :: compactChars value
  | (key, value) :: rest => quote key ++ ':' :: (compactChars value ++ ',' :: compactMembers rest)
end

/-- A value on one line, without white space. -/
def compact (value : Json) : String := String.ofList (compactChars value)

/-! ### Indented text -/

/-- A line break and the indentation of `depth` levels. -/
def lineBreak (depth : Nat) : List Char := '\n' :: List.replicate (2 * depth) ' '

mutual
/-- A value whose further lines are indented by `depth` levels. -/
def prettyChars (depth : Nat) : Json → List Char
  | .null => ['n', 'u', 'l', 'l']
  | .bool true => ['t', 'r', 'u', 'e']
  | .bool false => ['f', 'a', 'l', 's', 'e']
  | .number value => writeNumber value
  | .string text => quote text
  | .array [] => ['[', ']']
  | .array (value :: rest) =>
    '[' :: (lineBreak (depth + 1) ++ prettyElements (depth + 1) (value :: rest) ++
      lineBreak depth ++ [']'])
  | .object [] => ['\x7b', '\x7d']
  | .object (entry :: rest) =>
    '\x7b' :: (lineBreak (depth + 1) ++ prettyMembers (depth + 1) (entry :: rest)
      ++ lineBreak depth ++ ['\x7d'])
/-- Elements, one a line. -/
def prettyElements (depth : Nat) : List Json → List Char
  | [] => []
  | [value] => prettyChars depth value
  | value :: rest =>
    prettyChars depth value ++ ',' :: (lineBreak depth ++ prettyElements depth rest)
/-- Members, one a line. -/
def prettyMembers (depth : Nat) : List (String × Json) → List Char
  | [] => []
  | [(key, value)] => quote key ++ ':' :: ' ' :: prettyChars depth value
  | (key, value) :: rest =>
    quote key ++ ':' :: ' ' :: (prettyChars depth value
      ++ ',' :: (lineBreak depth ++ prettyMembers depth rest))
end

/-- A value on several lines, indented by two spaces. -/
def pretty (value : Json) : String := String.ofList (prettyChars 0 value)

end ContentGraph.Json
