import ContentGraph.Text.Case

/-!
# Places in a YAML text

YAML tells structures apart by lines and columns.  A `Cursor` is a place in a text whose ordinary
line breaks are all line feeds.

* `unifyBreaks` — a text with one kind of ordinary line breaks;
* `Cursor.skipLayout` — the next place with something to read;
* `atMarker` — whether a line between documents starts.
-/

namespace ContentGraph.Settings.Yaml

/-! ### Characters -/

/-- Whether `c` may stand in a document. -/
def isPrintable (c : Char) : Bool :=
  let n := c.toNat
  n = 9 || n = 10 || n = 13 || (0x20 ≤ n && n ≤ 0x7E) || n = 0x85 ||
    (0xA0 ≤ n && n ≤ 0xFFFD) || 0x10000 ≤ n

/-- A text whose ordinary line breaks are line feeds. -/
def unifyBreaks : List Char → List Char
  | '\r' :: '\n' :: rest => '\n' :: unifyBreaks rest
  | c :: rest => (if c = '\r' || c = '\u0085' then '\n' else c) :: unifyBreaks rest
  | [] => []

/-- Whether `c` is a blank within a line. -/
def isBlank (c : Char) : Bool := c = ' ' || c = '\t'

/-- Whether `c` ends a line: an ordinary break, or a separator of lines or paragraphs. -/
def isBreak (c : Char) : Bool := c = '\n' || c = '\u2028' || c = '\u2029'

/-- The mark of byte order. -/
def byteOrderMark : Char := '\uFEFF'

/-- Whether a text starts with a blank, a line break, or not at all. -/
def startsBlank : List Char → Bool
  | [] => true
  | c :: _ => isBlank c || isBreak c

/-- Whether `c` may stand in the names of anchors, handles and directives. -/
def isNameChar (c : Char) : Bool := Text.isAsciiAlphanumeric c || c = '_' || c = '-'

/-- Whether a text at a column starts a line between documents. -/
def atMarker (column : Nat) (text : List Char) : Bool :=
  column = 0 &&
    match text with
    | '-' :: '-' :: '-' :: rest => startsBlank rest
    | '.' :: '.' :: '.' :: rest => startsBlank rest
    | _ => false

/-! ### Places -/

/-- A place in a text. -/
structure Cursor where
  /-- What follows. -/
  rest : List Char
  /-- How many lines stand before. -/
  line : Nat
  /-- How many characters of the line stand before. -/
  column : Nat
  deriving Repr

/-- The place before a text. -/
def Cursor.start (text : List Char) : Cursor := ⟨text, 0, 0⟩

/-- The place `count` characters further on the line. -/
def Cursor.drop (cursor : Cursor) (count : Nat) : Cursor :=
  ⟨cursor.rest.drop count, cursor.line, cursor.column + count⟩

/-- The place after the characters of a line that stand before `rest`. -/
def Cursor.to (cursor : Cursor) (rest : List Char) : Cursor :=
  ⟨rest, cursor.line, cursor.column + (cursor.rest.length - rest.length)⟩

/-- The next place with something other than blanks, comments and line breaks, and whether a key may
start there. Outside brackets a key may start on each new line, and a tab is no blank where one may
start. -/
def skipLayoutFrom (flow : Bool) :
    (keyAllowed comment : Bool) → (line column : Nat) → List Char → Bool × Cursor
  | keyAllowed, _, line, column, [] => (keyAllowed, ⟨[], line, column⟩)
  | keyAllowed, comment, line, column, c :: rest =>
    if isBreak c then skipLayoutFrom flow (keyAllowed || !flow) false (line + 1) 0 rest
    else if comment then skipLayoutFrom flow keyAllowed true line (column + 1) rest
    else if c = ' ' || (c = '\t' && (flow || !keyAllowed)) || (c = byteOrderMark && column = 0) then
      skipLayoutFrom flow keyAllowed false line (column + 1) rest
    else if c = '#' then skipLayoutFrom flow keyAllowed true line (column + 1) rest
    else (keyAllowed, ⟨c :: rest, line, column⟩)

/-- The next place with something to read, and whether a key may start there. -/
def Cursor.skipLayout (cursor : Cursor) (flow keyAllowed : Bool) : Bool × Cursor :=
  skipLayoutFrom flow keyAllowed false cursor.line cursor.column cursor.rest

end ContentGraph.Settings.Yaml
