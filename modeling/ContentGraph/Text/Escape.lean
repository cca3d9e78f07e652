/-!
# Escapes

Characters are written by others in several ways: after a backslash, by hexadecimal digits, by
percent signs in addresses, and by entities in HTML.

* `hexDigit`, `hexValue?`, `hexNumber?` — hexadecimal digits and the numbers that they write;
* `readEscape?` — what stands after a backslash in a quoted text;
* `percentBytes`, `percentDecode` — the bytes and the text that an encoded text stands for;
* `escapeTextChar`, `attributeValue` — text and attribute values of HTML.
-/

namespace ContentGraph.Text

/-! ### Hexadecimal digits -/

/-- The lower-case hexadecimal digit of a number below sixteen. -/
def hexDigit (n : Nat) : Char := if n < 10 then Char.ofNat (48 + n) else Char.ofNat (87 + n)

/-- The value of a hexadecimal digit. -/
def hexValue? (c : Char) : Option Nat :=
  if '0' ≤ c && c ≤ '9' then some (c.toNat - 48)
  else if 'a' ≤ c && c ≤ 'f' then some (c.toNat - 87)
  else if 'A' ≤ c && c ≤ 'F' then some (c.toNat - 55)
  else none

/-- The number that hexadecimal digits write after `high`. -/
def hexNumber? (high : Nat) : List Char → Option Nat
  | [] => some high
  | c :: rest =>
    match hexValue? c with
    | none => none
    | some digit => hexNumber? (high * 16 + digit) rest

/-- The character whose code point hexadecimal digits write. -/
def hexChar? (digits : List Char) : Option Char :=
  match hexNumber? 0 digits with
  | none => none
  | some code => if code.isValidChar then some (Char.ofNat code) else none

/-! ### Escapes after a backslash -/

/-- The character that the text after a backslash stands for, and what follows it.  Some letters are
followed by hexadecimal digits, `digits` tells how many; the others stand for what `letter?`
tells. -/
def readEscape? (digits : Char → Nat) (letter? : Char → Option Char) :
    List Char → Option (Char × List Char)
  | [] => none
  | c :: rest =>
    if 0 < digits c && digits c ≤ rest.length then
      (hexChar? (rest.take (digits c))).map fun char => (char, rest.drop (digits c))
    else (letter? c).map fun char => (char, rest)

/-- An escape is read from the front of the text. -/
theorem length_readEscape?_lt {digits : Char → Nat} {letter? : Char → Option Char}
    {text rest : List Char} {c : Char} (h : readEscape? digits letter? text = some (c, rest)) :
    rest.length < text.length := by
  cases text with
  | nil => cases h
  | cons first after =>
    rw [readEscape?] at h
    rw [List.length_cons]
    split at h
    · obtain ⟨_, -, hpair⟩ := Option.map_eq_some_iff.mp h
      cases hpair
      rw [List.length_drop]
      omega
    · obtain ⟨_, -, hpair⟩ := Option.map_eq_some_iff.mp h
      cases hpair
      exact Nat.lt_succ_self _

/-! ### Percent encoding

A percent sign with two hexadecimal digits stands for a byte; any other percent sign stands for
itself. -/

/-- The value of a byte that is a hexadecimal digit. -/
def hexByte? (byte : UInt8) : Option UInt8 :=
  (hexValue? (Char.ofNat byte.toNat)).map UInt8.ofNat

/-- The bytes that encoded bytes stand for. -/
def percentBytes : List UInt8 → List UInt8
  | 37 :: high :: low :: rest =>
    match hexByte? high, hexByte? low with
    | some h, some l => (h * 16 + l) :: percentBytes rest
    | _, _ => 37 :: percentBytes (high :: low :: rest)
  | byte :: rest => byte :: percentBytes rest
  | [] => []

/-- The decoded text, or nothing when its bytes are not UTF-8. -/
def percentDecode? (text : String) : Option String :=
  String.fromUTF8? ⟨(percentBytes text.toUTF8.toList).toArray⟩

/-- The decoded text, or the text itself when its bytes are not UTF-8. -/
def percentDecode (text : String) : String := (percentDecode? text).getD text

/-! ### HTML

Text escapes `&`, `<` and `>`; the value of an attribute between double quotes escapes the quote as
well. -/

/-- A character of a text. -/
def escapeTextChar (c : Char) : List Char :=
  if c = '&' then ['&', 'a', 'm', 'p', ';']
  else if c = '<' then ['&', 'l', 't', ';']
  else if c = '>' then ['&', 'g', 't', ';']
  else [c]

/-- A character of an attribute's value. -/
def escapeAttributeChar (c : Char) : List Char :=
  if c = '"' then ['&', 'q', 'u', 'o', 't', ';'] else escapeTextChar c

/-- The value of an attribute. -/
def attributeValue (value : String) : String :=
  String.ofList (value.toList.flatMap escapeAttributeChar)

end ContentGraph.Text
