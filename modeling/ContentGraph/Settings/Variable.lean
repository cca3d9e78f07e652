import ContentGraph.Number.DecimalText
import ContentGraph.Settings.Value
import ContentGraph.Text.Escape
import ContentGraph.Text.Split

/-!
# Settings from variables

A variable of the environment whose name starts with `SLICEGRAPH_` sets one value; two underscores
in the rest of its name lead into a table.  Its text is a flag, a number, a quoted text, a list or a
table when it can be read so as a whole; any other text stands for itself, blanks included.

* `valueOfText` — the value of a variable's text;
* `keysOfVariable?` — the keys that a variable's name leads along;
* `tableOfVariables` — the table of all variables, later ones over earlier ones.
-/

namespace ContentGraph.Settings

/-! ### Texts of variables -/

/-- The blanks that are passed over between parts of a value. -/
def isVariableBlank (c : Char) : Bool :=
  c = ' ' || c = '\t' || c = '\n' || c = '\r' || c = Char.ofNat 12

/-- Whether a character ends a plain text. -/
def isVariableSeparator (c : Char) : Bool :=
  c = ',' || c = '\x7b' || c = '\x7d' || c = '[' || c = ']'

/-- Whether a character may stand in a plain key. -/
def isVariableKeyChar (c : Char) : Bool := Text.isAsciiAlphanumeric c || c = '_' || c = '-'

/-- The text after leading blanks. -/
def skipVariableBlanks (text : List Char) : List Char := text.dropWhile isVariableBlank

/-- The characters of a quoted text after its opening quote, and what follows the closing one.
Escapes name a character by a letter or by its code point. -/
def readVariableChars : List Char → Option (List Char × List Char)
  | [] => none
  | '"' :: rest => some ([], rest)
  | '\\' :: 'u' :: a :: b :: c :: d :: rest =>
    match Text.hexChar? [a, b, c, d] with
    | none => none
    | some char => (readVariableChars rest).map fun (text, after) => (char :: text, after)
  | '\\' :: 'U' :: a :: b :: c :: d :: e :: f :: g :: h :: rest =>
    match Text.hexChar? [a, b, c, d, e, f, g, h] with
    | none => none
    | some char => (readVariableChars rest).map fun (text, after) => (char :: text, after)
  | '\\' :: c :: rest =>
    let escaped : Option Char :=
      if c = '"' || c = '\\' then some c
      else if c = 'b' then some (Char.ofNat 8)
      else if c = 't' then some '\t'
      else if c = 'n' then some '\n'
      else if c = 'f' then some (Char.ofNat 12)
      else if c = 'r' then some '\r'
      else none
    match escaped with
    | none => none
    | some char => (readVariableChars rest).map fun (text, after) => (char :: text, after)
  | c :: rest =>
    if c = '\\' || (c.toNat < 32 && c ≠ '\t') || c.toNat = 127 then none
    else (readVariableChars rest).map fun (text, after) => (c :: text, after)

/-- The first `size` bytes of a text, or nothing when they end within a character. -/
def takeBytes? : (size : Nat) → List Char → Option (List Char)
  | 0, _ => some []
  | _, [] => none
  | size, c :: rest =>
    if c.utf8Size ≤ size then (takeBytes? (size - c.utf8Size) rest).map (c :: ·) else none

/-- A quoted text after its opening quote, and what follows the closing one.  Of `n` characters
before the first escape the first `n` bytes count. -/
def readVariableQuoted (text : List Char) : Option (List Char × List Char) :=
  let before := text.takeWhile fun c => c ≠ '\\' && c ≠ '"'
  match readVariableChars text, text.drop before.length with
  | none, _ => none
  | some (chars, after), '\\' :: _ =>
    (takeBytes? before.length before).map fun kept => (kept ++ chars.drop before.length, after)
  | some (chars, after), _ => some (chars, after)

/-- The value of a text without quotes: a number with a point, a whole number between `-2 ^ 63` and
`2 ^ 64 - 1`, or the text itself. -/
def plainVariable (text : List Char) : Value :=
  if text.contains '.' && (DecimalText.read? text).isSome then .real
  else
    let (negative, digits) := DecimalText.splitSign text
    let size := DecimalText.number 0 digits
    if digits = [] || !digits.all Text.isAsciiDigit then .text (String.ofList text)
    else if negative then
      if size ≤ Nat.pow 2 63 then .whole (-(size : Int)) else .text (String.ofList text)
    else if size < Nat.pow 2 64 then .whole size
    else .text (String.ofList text)

/-- A key of a table and what follows it. -/
def readVariableKey (text : List Char) : Option (String × List Char) :=
  match text with
  | '"' :: rest => (readVariableQuoted rest).map fun (key, after) => (String.ofList key, after)
  | text =>
    let key := text.takeWhile isVariableKeyChar
    if key = [] then none else some (String.ofList key, text.dropWhile isVariableKeyChar)

mutual
/-- A value and what follows it; `fuel` bounds the steps. -/
def readVariable : (fuel : Nat) → List Char → Option (Value × List Char)
  | 0, _ => none
  | fuel + 1, text =>
    let read : Option (Value × List Char) := match skipVariableBlanks text with
      | 't' :: 'r' :: 'u' :: 'e' :: rest => some (.flag true, rest)
      | 'f' :: 'a' :: 'l' :: 's' :: 'e' :: rest => some (.flag false, rest)
      | '\x7b' :: rest => (readVariableEntries fuel rest).map fun (entries, after) =>
        (.table (Keyed.merge entries), after)
      | '[' :: rest =>
        (readVariableElements fuel rest).map fun (elements, after) => (.list elements, after)
      | '"' :: rest =>
        (readVariableQuoted rest).map fun (text, after) => (.text (String.ofList text), after)
      | '\'' :: c :: '\'' :: rest => some (.text (String.singleton c), rest)
      | '\'' :: _ => none
      | rest =>
        let plain := rest.takeWhile fun c => !isVariableSeparator c
        some (plainVariable (Text.trim plain), rest.dropWhile fun c => !isVariableSeparator c)
    read.map fun (value, rest) => (value, skipVariableBlanks rest)
/-- The elements of a list up to its closing bracket. -/
def readVariableElements : (fuel : Nat) → List Char → Option (List Value × List Char)
  | 0, _ => none
  | fuel + 1, text =>
    match text with
    | ']' :: rest => some ([], rest)
    | text =>
      match readVariable fuel text with
      | none => none
      | some (value, ',' :: rest) =>
        (readVariableElements fuel rest).map fun (values, after) => (value :: values, after)
      | some (value, ']' :: rest) => some ([value], rest)
      | some _ => none
/-- The entries of a table up to its closing brace. -/
def readVariableEntries : (fuel : Nat) → List Char → Option (Table × List Char)
  | 0, _ => none
  | fuel + 1, text =>
    match text with
    | '\x7d' :: rest => some ([], rest)
    | text =>
      match readVariableKey (skipVariableBlanks text) with
      | none => none
      | some (key, rest) =>
        match skipVariableBlanks rest with
        | '=' :: rest =>
          match readVariable fuel rest with
          | none => none
          | some (value, ',' :: rest) =>
            (readVariableEntries fuel rest).map fun (entries, after) =>
              ((key, value) :: entries, after)
          | some (value, '\x7d' :: rest) => some ([(key, value)], rest)
          | some _ => none
        | _ => none
end

/-- The value of a variable's text. -/
def valueOfText (text : String) : Value :=
  let chars := text.toList
  match readVariable (2 * chars.length + 2) chars with
  | some (value, []) => value
  | _ => .text text

/-! ### Names of variables -/

/-- How the names of variables begin, in either case. -/
def variableStart : String := "SLICEGRAPH_"

/-- The text after `start`, which a text begins with in either case. -/
def dropStart? : (start text : List Char) → Option (List Char)
  | [], text => some text
  | _ :: _, [] => none
  | s :: start, c :: text => if s.toLower = c.toLower then dropStart? start text else none

/-- The parts of a name between points and pairs of underscores, `current` being the part read so
far in reverse. -/
def splitKeys (current : List Char) : List Char → List String
  | [] => [String.ofList current.reverse]
  | '_' :: '_' :: rest => String.ofList current.reverse :: splitKeys [] rest
  | '.' :: rest => String.ofList current.reverse :: splitKeys [] rest
  | c :: rest => splitKeys (c :: current) rest

/-- The keys that a variable's name leads along, in lower case; nothing for names of other variables
and names with an empty part. -/
def keysOfVariable? (name : String) : Option (List String) :=
  match dropStart? variableStart.toList (Text.trim name.toList) with
  | none => none
  | some rest =>
    let keys := splitKeys [] ((Text.trim rest).map Char.toLower)
    if keys.contains "" then none else some keys

/-- A value in tables along keys. -/
def nest (value : Value) : List String → Value
  | [] => value
  | key :: rest => .table [(key, nest value rest)]

/-- The table of one variable. -/
def tableOfVariable (name text : String) : Table :=
  match keysOfVariable? name with
  | some (key :: rest) => [(key, nest (valueOfText text) rest)]
  | _ => []

/-- The table of variables, later ones laid over earlier ones. -/
def tableOfVariables (vars : List (String × String)) : Table :=
  vars.foldl (fun table entry => overlayTable table (tableOfVariable entry.1 entry.2)) []

end ContentGraph.Settings
