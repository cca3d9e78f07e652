import ContentGraph.Settings.Toml.Scalar
import ContentGraph.Settings.Toml.Tree

/-!
# Settings in TOML

`parse` reads a whole document: lines that are empty or hold a comment, a key with a value, or the
header of a table.

* `readKey?` — a key, dotted or not;
* `readValue?` — a value and what follows it;
* `parse` — the table of a document.
-/

namespace ContentGraph.Settings.Toml

/-! ### Keys -/

/-- Whether a character may stand in a key without quotes. -/
def isKeyChar (c : Char) : Bool := Text.isAsciiAlphanumeric c || c = '_' || c = '-'

/-- One part of a key and what follows it. -/
def readKeyPart? (text : List Char) : Option (String × List Char) :=
  match text with
  | '"' :: rest => (readBasic rest).map fun (key, after) => (String.ofList key, after)
  | '\'' :: rest => (readLiteral rest).map fun (key, after) => (String.ofList key, after)
  | text =>
    let key := text.takeWhile isKeyChar
    if key = [] then none else some (String.ofList key, text.dropWhile isKeyChar)

/-- How deep collections may be nested within a value, and how many parts a key may have. -/
def maxDepth : Nat := 79

/-- A key's parts before its last one, its last one, and what follows the key and blanks; `room`
bounds the number of parts. -/
def readParts? : (room : Nat) → List Char → Option (List String × String × List Char)
  | 0, _ => none
  | room + 1, text =>
    match readKeyPart? (skipBlanks text) with
    | none => none
    | some (key, rest) =>
      match skipBlanks rest with
      | '.' :: rest =>
        (readParts? room rest).map fun (path, last, after) => (key :: path, last, after)
      | rest => some ([], key, rest)

/-- A key: its parts before its last one, its last one, and what follows the key and blanks. -/
def readKey? (text : List Char) : Option (List String × String × List Char) :=
  readParts? maxDepth text

/-! ### Values -/

/-- The text after a comment, or `none` when the comment has a control character. -/
def skipComment? (text : List Char) : Option (List Char) :=
  let comment := text.takeWhile fun c => c ≠ '\n' && c ≠ '\r'
  if comment.all isPrintable then some (text.drop comment.length) else none

/-- The text after blanks, comments and line breaks. -/
def skipLayout? : (fuel : Nat) → List Char → Option (List Char)
  | 0, _ => none
  | fuel + 1, text =>
    match skipBlanks text with
    | '#' :: rest =>
      match skipComment? rest with
      | none => none
      | some rest => skipLayout? fuel rest
    | rest =>
      match lineBreak? rest with
      | some rest => skipLayout? fuel rest
      | none => some rest

mutual
/-- A value and what follows it, in which `room` collections may be nested; `fuel` bounds the
steps. -/
def readValue? : (fuel room : Nat) → List Char → Option (Value × List Char)
  | 0, _, _ => none
  | fuel + 1, room, text =>
    match text with
    | '"' :: _ | '\'' :: _ =>
      (readString? text).map fun (text, after) => (.text (String.ofList text), after)
    | '[' :: rest =>
      if room = 0 then none
      else (readElements? fuel (room - 1) rest).map fun (elements, after) => (.list elements, after)
    | '\x7b' :: rest =>
      if room = 0 then none
      else match skipBlanks rest with
        | '\x7d' :: after => some (.table [], after)
        | rest => (readInline? fuel (room - 1) [] rest).map fun (entries, after) =>
          (.table (toTable entries), after)
    | text => readScalar? text
/-- The elements of an array up to its closing bracket; the last one may be followed by a comma. -/
def readElements? : (fuel room : Nat) → List Char → Option (List Value × List Char)
  | 0, _, _ => none
  | fuel + 1, room, text =>
    match skipLayout? (text.length + 1) text with
    | none => none
    | some (']' :: after) => some ([], after)
    | some text =>
      match readValue? fuel room text with
      | none => none
      | some (value, rest) =>
        match skipLayout? (rest.length + 1) rest with
        | some (']' :: after) => some ([value], after)
        | some (',' :: rest) =>
          (readElements? fuel room rest).map fun (values, after) => (value :: values, after)
        | _ => none
/-- The entries of an inline table up to its closing brace, added to those before them. -/
def readInline? : (fuel room : Nat) → Entries → List Char → Option (Entries × List Char)
  | 0, _, _, _ => none
  | fuel + 1, room, entries, text =>
    match readEntry? fuel room entries text with
    | none => none
    | some (entries, rest) =>
      match skipBlanks rest with
      | '\x7d' :: after => some (entries, after)
      | ',' :: rest => readInline? fuel room entries rest
      | _ => none
/-- A key with its value, added to the entries before it, and what follows. -/
def readEntry? : (fuel room : Nat) → Entries → List Char → Option (Entries × List Char)
  | 0, _, _, _ => none
  | fuel + 1, room, entries, text =>
    match readKey? text with
    | some (path, key, '=' :: rest) =>
      match readValue? fuel room (skipBlanks rest) with
      | none => none
      | some (value, rest) =>
        (insertDotted? path key value entries).map fun entries => (entries, rest)
    | _ => none
end

/-! ### Documents -/

/-- A document that is being read: its tables, and the path of the one that keys are added to. -/
structure Reading where
  root : Entries
  current : List String

/-- The text after the end of a line: blanks, perhaps a comment, and a line break or the end of the
document. -/
def endOfLine? (text : List Char) : Option (List Char) :=
  match skipBlanks text with
  | [] => some []
  | '#' :: rest =>
    match skipComment? rest with
    | none => none
    | some [] => some []
    | some rest => lineBreak? rest
  | rest => lineBreak? rest

/-- The document after a header, and what follows its closing brackets. -/
def readHeader? (reading : Reading) (text : List Char) : Option (Reading × List Char) :=
  match text with
  | '[' :: rest =>
    match readKey? rest with
    | some (path, key, ']' :: ']' :: rest) =>
      (openElement? path key reading.root).map fun root => (⟨root, path ++ [key]⟩, rest)
    | _ => none
  | rest =>
    match readKey? rest with
    | some (path, key, ']' :: rest) =>
      (openTable? path key reading.root).map fun root => (⟨root, path ++ [key]⟩, rest)
    | _ => none

/-- The document after a key with its value in the current table, and what follows. -/
def readAssignment? (reading : Reading) (text : List Char) : Option (Reading × List Char) :=
  match readKey? text with
  | some (path, key, '=' :: rest) =>
    match readValue? (2 * rest.length + 2) maxDepth (skipBlanks rest) with
    | none => none
    | some (value, rest) =>
      (descend? false (fun _ entries => insertDotted? path key value entries) .header
        reading.current
        reading.root).map fun root => ({ reading with root }, rest)
  | _ => none

/-- The document after all lines; `fuel` bounds their number. -/
def readLines? : (fuel : Nat) → Reading → List Char → Option Reading
  | 0, _, _ => none
  | fuel + 1, reading, text =>
    let line : Option (Reading × List Char) := match skipBlanks text with
      | [] => some (reading, [])
      | '[' :: rest => readHeader? reading rest
      | '#' :: rest => some (reading, '#' :: rest)
      | c :: rest =>
        if c = '\n' || c = '\r' then some (reading, c :: rest)
          else readAssignment? reading (c :: rest)
    match line with
    | none => none
    | some (reading, rest) =>
      match endOfLine? rest with
      | none => none
      | some [] => some reading
      | some rest => readLines? fuel reading rest

/-- The table of a document. -/
def parse (text : String) : Option Table :=
  let chars := match text.toList with
    | '\uFEFF' :: rest => rest
    | chars => chars
  (readLines? (chars.length + 1) ⟨[], []⟩ chars).map fun reading => toTable reading.root

end ContentGraph.Settings.Toml
