import ContentGraph.Json
import ContentGraph.Text.Escape

/-!
# Reading JSON text

`parse` reads a text that holds exactly one value, strictly: no comments, no trailing commas, no
leading zeros, no raw control characters and no half of a surrogate pair.  Arrays and objects nest
`maxDepth` deep at most.  Members are kept as written, repetitions included; `parseValue` merges
them.

* `readString` — the rest of a string after its opening quote;
* `readNumber` — a number, with the double a long or fractional one stands for;
* `readValue` — a value and what follows it.
-/

namespace ContentGraph.Json

/-- How deep arrays and objects nest. -/
def maxDepth : Nat := 127

/-- The blanks between tokens. -/
def isBlank (c : Char) : Bool := c = ' ' || c = '\n' || c = '\t' || c = '\r'

/-- The text after leading blanks. -/
def skipBlanks (text : List Char) : List Char := text.dropWhile isBlank

/-! ### Strings -/

/-- The number that four hexadecimal digits write. -/
def hexUnit? (a b c d : Char) : Option Nat := Text.hexNumber? 0 [a, b, c, d]

/-- The character of a letter after a backslash. -/
def simpleEscape? (c : Char) : Option Char :=
  if c = '"' || c = '\\' || c = '/' then some c
  else if c = 'n' then some '\n'
  else if c = 'r' then some '\r'
  else if c = 't' then some '\t'
  else if c = 'b' then some (Char.ofNat 8)
  else if c = 'f' then some (Char.ofNat 12)
  else none

/-- Whether a code unit opens a surrogate pair. -/
def isHighSurrogate (unit : Nat) : Bool := 0xD800 ≤ unit && unit < 0xDC00

/-- Whether a code unit closes a surrogate pair. -/
def isLowSurrogate (unit : Nat) : Bool := 0xDC00 ≤ unit && unit < 0xE000

/-- The rest of a string after its opening quote, and what follows the closing one. -/
def readString : List Char → Option (List Char × List Char)
  | [] => none
  | '"' :: rest => some ([], rest)
  | '\\' :: 'u' :: a :: b :: c :: d :: rest =>
    match hexUnit? a b c d with
    | none => none
    | some unit =>
      if isHighSurrogate unit then
        match rest with
        | '\\' :: 'u' :: e :: f :: g :: h :: rest =>
          match hexUnit? e f g h with
          | none => none
          | some low =>
            if isLowSurrogate low then
              (readString rest).map fun (text, after) =>
                (Char.ofNat (0x10000 + (unit - 0xD800) * 0x400 + (low - 0xDC00)) :: text, after)
            else none
        | _ => none
      else if isLowSurrogate unit then none
      else (readString rest).map fun (text, after) => (Char.ofNat unit :: text, after)
  | '\\' :: c :: rest =>
    match simpleEscape? c with
    | none => none
    | some plain => (readString rest).map fun (text, after) => (plain :: text, after)
  | c :: rest =>
    if c.toNat < 32 || c = '\\' then none
    else (readString rest).map fun (text, after) => (c :: text, after)

/-! ### Numbers -/

/-- Whether `c` is an ASCII digit. -/
def isDigit (c : Char) : Bool := '0' ≤ c && c ≤ '9'

/-- The largest significand that is kept exactly. -/
def maxSignificand : Nat := Nat.pow 2 64 - 1

/-- The digits appended to `significand` while it stays within `maxSignificand`, and how many are
left over. -/
def accumulate (significand : Nat) : List Char → Nat × Nat
  | [] => (significand, 0)
  | c :: rest =>
    let next := significand * 10 + (c.toNat - 48)
    if next ≤ maxSignificand then accumulate next rest else (significand, rest.length + 1)

/-- A number's parts as written. -/
structure NumberText where
  negative : Bool
  whole : List Char
  fraction : Option (List Char)
  exponent : Option (Bool × List Char)

/-- The number that the parts write.  Without fraction and exponent it is a whole number if that
fits; otherwise it is a double: the first digits that fit a significand, scaled by the power of ten
of the last of them. -/
def NumberText.toNumber? (t : NumberText) : Option Number :=
  let (whole, dropped) := accumulate 0 t.whole
  let double (significand : Nat) (exponent : Int) :=
    (Binary64.ofDecimal? t.negative significand exponent).map Number.double
  match t.fraction, t.exponent with
  | none, none =>
    if dropped = 0 && !t.negative then some (.integer whole)
    else if dropped = 0 && whole ≠ 0 && whole ≤ Nat.pow 2 63 then some (.integer (-(whole : Int)))
    else double whole dropped
  | fraction, exponent =>
    let digits := fraction.getD []
    let (significand, ignored) := accumulate whole digits
    let point : Int := (dropped : Int) - ((digits.length : Int) - ignored)
    let power : Int := match exponent with
      | none => 0
      | some (negative, digits) =>
        let size : Int := digits.foldl (fun n c => n * 10 + (c.toNat - 48)) 0
        if negative then -size else size
    double significand (point + power)

/-- The exponent of a number, if one follows; `none` when it has no digits. -/
def readExponent (text : List Char) : Option (Option (Bool × List Char) × List Char) :=
  match text with
  | c :: rest =>
    if c = 'e' || c = 'E' then
      let (negative, rest) := match rest with
        | '+' :: rest => (false, rest)
        | '-' :: rest => (true, rest)
        | rest => (false, rest)
      let digits := rest.takeWhile isDigit
      if digits = [] then none else some (some (negative, digits), rest.dropWhile isDigit)
    else some (none, text)
  | [] => some (none, text)

/-- The fraction of a number, if one follows; `none` when it has no digits. -/
def readFraction (text : List Char) : Option (Option (List Char) × List Char) :=
  match text with
  | '.' :: rest =>
    let digits := rest.takeWhile isDigit
    if digits = [] then none else some (some digits, rest.dropWhile isDigit)
  | _ => some (none, text)

/-- A number and what follows it. -/
def readNumber (text : List Char) : Option (Number × List Char) := do
  let (negative, text) := match text with
    | '-' :: rest => (true, rest)
    | rest => (false, rest)
  let whole := text.takeWhile isDigit
  if whole = [] || (whole.head? = some '0' && whole.length > 1) then none
  let (fraction, rest) ← readFraction (text.dropWhile isDigit)
  let (exponent, rest) ← readExponent rest
  let number ← NumberText.toNumber? ⟨negative, whole, fraction, exponent⟩
  some (number, rest)

/-! ### Values

Every step either reads a character or moves from a value to its first element, so twice the length
of the text bounds the steps. -/

mutual
/-- A value and what follows it; `depth` levels of nesting are left. -/
def readValue : (fuel depth : Nat) → List Char → Option (Json × List Char)
  | 0, _, _ => none
  | fuel + 1, depth, text =>
    match skipBlanks text with
    | 'n' :: 'u' :: 'l' :: 'l' :: rest => some (.null, rest)
    | 't' :: 'r' :: 'u' :: 'e' :: rest => some (.bool true, rest)
    | 'f' :: 'a' :: 'l' :: 's' :: 'e' :: rest => some (.bool false, rest)
    | '"' :: rest =>
      (readString rest).map fun (text, after) => (.string (String.ofList text), after)
    | '[' :: rest =>
      match depth with
      | 0 => none
      | depth + 1 =>
        match skipBlanks rest with
        | ']' :: after => some (.array [], after)
        | rest =>
          (readElements fuel depth rest).map fun (elements, after) => (.array elements, after)
    | '\x7b' :: rest =>
      match depth with
      | 0 => none
      | depth + 1 =>
        match skipBlanks rest with
        | '\x7d' :: after => some (.object [], after)
        | rest => (readMembers fuel depth rest).map fun (members, after) => (.object members, after)
    | rest => (readNumber rest).map fun (value, after) => (.number value, after)
/-- The elements of an array up to its closing bracket. -/
def readElements : (fuel depth : Nat) → List Char → Option (List Json × List Char)
  | 0, _, _ => none
  | fuel + 1, depth, text =>
    match readValue fuel depth text with
    | none => none
    | some (value, rest) =>
      match skipBlanks rest with
      | ']' :: after => some ([value], after)
      | ',' :: rest =>
        (readElements fuel depth rest).map fun (values, after) => (value :: values, after)
      | _ => none
/-- The members of an object up to its closing brace. -/
def readMembers : (fuel depth : Nat) → List Char → Option (List (String × Json) × List Char)
  | 0, _, _ => none
  | fuel + 1, depth, text =>
    match skipBlanks text with
    | '"' :: rest =>
      match readString rest with
      | none => none
      | some (key, rest) =>
        match skipBlanks rest with
        | ':' :: rest =>
          match readValue fuel depth rest with
          | none => none
          | some (value, rest) =>
            match skipBlanks rest with
            | '\x7d' :: after => some ([(String.ofList key, value)], after)
            | ',' :: rest =>
              (readMembers fuel depth rest).map fun (members, after) =>
                ((String.ofList key, value) :: members, after)
            | _ => none
        | _ => none
    | _ => none
end

/-- The value that a text holds, members as written. -/
def parse (text : String) : Option Json :=
  let chars := text.toList
  match readValue (2 * chars.length + 2) maxDepth chars with
  | some (value, rest) => if skipBlanks rest = [] then some value else none
  | none => none

/-- The value that a text holds, repeated members merged. -/
def parseValue (text : String) : Option Json := (parse text).map merged

end ContentGraph.Json
