import ContentGraph.Settings.Yaml.Cursor
import ContentGraph.Text.Escape

/-!
# Scalars of YAML

Plain, quoted and block scalars.  Scalars fold: a line break inside them is a space, and further
empty lines are line breaks.

* `Folding` — a text that is being folded;
* `readPlain?`, `readQuoted?`, `readBlock?` — a scalar and the place after it.
-/

namespace ContentGraph.Settings.Yaml

/-! ### Folding -/

/-- A text that is read line by line, and what stands after its last character.  All lists have the
last character first. -/
structure Folding where
  /-- What was read. -/
  text : List Char := []
  /-- Blanks after that on the same line. -/
  blanks : List Char := []
  /-- Whether the line has ended. -/
  broken : Bool := false
  /-- The break at its end, unless that was escaped. -/
  first : Option Char := none
  /-- Further breaks. -/
  more : List Char := []

namespace Folding

/-- The text with what stands after its last character: one ordinary break is a space and disappears
before others, any other break stays. -/
def joined (folding : Folding) : List Char :=
  if folding.broken then
    match folding.first with
    | some '\n' => if folding.more = [] then ' ' :: folding.text else folding.more ++ folding.text
    | some c => folding.more ++ c :: folding.text
    | none => folding.more ++ folding.text
  else folding.blanks ++ folding.text

/-- One more character of the text. -/
def addChar (folding : Folding) (c : Char) : Folding := { text := c :: folding.joined }

/-- One more blank; blanks at the start of a line do not count. -/
def addBlank (folding : Folding) (c : Char) : Folding :=
  if folding.broken then folding else { folding with blanks := c :: folding.blanks }

/-- One more break; blanks at the end of a line do not count. -/
def addBreak (folding : Folding) (c : Char) : Folding :=
  if folding.broken then { folding with more := c :: folding.more }
  else { folding with blanks := [], broken := true, first := some c }

/-- An escaped break, which does not count. -/
def escapeBreak (folding : Folding) : Folding := { text := folding.joined, broken := true }

end Folding

/-! ### Plain scalars -/

/-- Whether `c` ends a plain scalar between brackets. -/
def isFlowIndicator (c : Char) : Bool :=
  c = ',' || c = '[' || c = ']' || c = '\x7b' || c = '\x7d'

/-- Whether a plain scalar may start with a text. -/
def startsPlain (flow : Bool) : List Char → Bool
  | [] => false
  | c :: rest =>
    if c = '-' then !startsBlank rest
    else if c = '?' || c = ':' then !flow && !startsBlank rest
    else !("#&*!|>'\"%@\x60".toList.contains c) && !isFlowIndicator c && !isBlank c && !isBreak c

/-- A plain scalar and the place after it; below something indented by less than `least` columns.
`afterBlank` says whether blanks or breaks were read last. -/
def readPlainFrom? (flow : Bool) (least : Nat) :
    (afterBlank : Bool) → Folding → (line column : Nat) →
    List Char → Option (Folding × Cursor)
  | _, folding, line, column, [] => some (folding, ⟨[], line, column⟩)
  | afterBlank, folding, line, column, c :: rest =>
    if isBreak c then readPlainFrom? flow least true (folding.addBreak c) (line + 1) 0 rest
    else if isBlank c then
      if folding.broken && c = '\t' && column < least then none
      else readPlainFrom? flow least true (folding.addBlank c) line (column + 1) rest
    else
      let outside := (!flow && column < least) || atMarker column (c :: rest) || c = '#'
      let ends := (c = ':' && startsBlank rest) || (flow && isFlowIndicator c)
      if afterBlank && outside then some (folding, ⟨c :: rest, line, column⟩)
      else if flow && c = ':' && rest.head?.any (fun next => next = '?' || isFlowIndicator next)
        then none
      else if ends then some (folding, ⟨c :: rest, line, column⟩)
      else readPlainFrom? flow least false (folding.addChar c) line (column + 1) rest

/-- A plain scalar, whether a line ended after it, and the place after it. -/
def readPlain? (flow : Bool) (least : Nat) (cursor : Cursor) : Option (List Char × Bool × Cursor) :=
  (readPlainFrom? flow least false {} cursor.line cursor.column cursor.rest).map
    fun (folding, after) => (folding.text.reverse, folding.broken, after)

/-! ### Quoted scalars -/

/-- The character of a letter after a backslash. -/
def escapeLetter? (c : Char) : Option Char :=
  match c with
  | '0' => some '\x00'
  | 'a' => some '\x07'
  | 'b' => some '\x08'
  | 't' | '\t' => some '\t'
  | 'n' => some '\n'
  | 'v' => some '\x0b'
  | 'f' => some '\x0c'
  | 'r' => some '\r'
  | 'e' => some '\x1b'
  | ' ' | '"' | '/' | '\\' => some c
  | 'N' => some '\u0085'
  | '_' => some '\u00A0'
  | 'L' => some '\u2028'
  | 'P' => some '\u2029'
  | _ => none

/-- How many hexadecimal digits follow a letter after a backslash. -/
def escapeDigits (c : Char) : Nat :=
  if c = 'x' then 2 else if c = 'u' then 4 else if c = 'U' then 8 else 0

/-- The character that the text after a backslash stands for, and what follows it. -/
def readEscape? : List Char → Option (Char × List Char) :=
  Text.readEscape? escapeDigits escapeLetter?

/-- The rest of a quoted scalar, and the place after its closing quote.  A double quote allows
escapes; between single quotes two of them stand for one. -/
def readQuotedFrom? (quote : Char) (folding : Folding) (line column : Nat) (text : List Char) :
    Option (List Char × Cursor) :=
  match text with
  | [] => none
  | c :: rest =>
    if isBreak c then readQuotedFrom? quote (folding.addBreak c) (line + 1) 0 rest
    else if isBlank c then readQuotedFrom? quote (folding.addBlank c) line (column + 1) rest
    else if atMarker column (c :: rest) then none
    else if c = quote then
      match quote, rest with
      | '\'', '\'' :: rest => readQuotedFrom? quote (folding.addChar '\'') line (column + 2) rest
      | _, rest => some (folding.joined.reverse, ⟨rest, line, column + 1⟩)
    else if c = '\\' && quote = '"' then
      match rest with
      | [] => none
      | next :: after =>
        if isBreak next then readQuotedFrom? quote folding.escapeBreak (line + 1) 0 after
        else
          match _escape : readEscape? (next :: after) with
          | none => none
          | some (char, rest) =>
            let read := after.length + 2 - rest.length
            readQuotedFrom? quote (folding.addChar char) line (column + read) rest
    else readQuotedFrom? quote (folding.addChar c) line (column + 1) rest
termination_by text.length
decreasing_by
  all_goals simp only [List.length_cons]
  · omega
  · omega
  · omega
  · omega
  · have shorter := Text.length_readEscape?_lt _escape
    simp only [List.length_cons] at shorter
    omega
  · omega

/-- A quoted scalar, and the place after it. -/
def readQuoted? (cursor : Cursor) : Option (List Char × Cursor) :=
  match cursor.rest with
  | quote :: rest => readQuotedFrom? quote {} cursor.line (cursor.column + 1) rest
  | [] => none

/-! ### Block scalars -/

/-- What is kept of the line breaks at the end of a block scalar. -/
inductive Chomping
  | strip | clip | keep
  deriving DecidableEq, Repr

/-- How a plus or a minus chomps. -/
def Chomping.ofChar? (c : Char) : Option Chomping :=
  if c = '+' then some .keep else if c = '-' then some .strip else none

/-- The chomping after a block's mark, its indentation, which is zero when it is to be found out,
and what follows: both in any order. -/
def readBlockMarks? (text : List Char) : Option (Chomping × Nat × List Char) :=
  let readIndent (text : List Char) : Nat × List Char := match text with
    | c :: rest => if Text.isAsciiDigit c then (c.toNat - 48, rest) else (0, text)
    | [] => (0, [])
  let readChomping (text : List Char) : Chomping × List Char := match text with
    | c :: rest => match Chomping.ofChar? c with
      | some chomping => (chomping, rest)
      | none => (.clip, text)
    | [] => (.clip, [])
  let (chomping, afterChomping) := readChomping text
  let (indent, rest) := readIndent afterChomping
  if indent = 0 && rest.length < afterChomping.length then none
  else if afterChomping.length < text.length then some (chomping, indent, rest)
  else
    let (chomping, rest) := if rest.length < text.length then readChomping rest else (.clip, rest)
    some (chomping, indent, rest)

/-- The text after blanks, perhaps a comment, and the end of a line. -/
def endOfLine? (text : List Char) : Option (List Char) :=
  let text := text.dropWhile isBlank
  let text := if text.head? = some '#' then text.dropWhile fun c => !isBreak c else text
  match text with
  | [] => some []
  | c :: rest => if isBreak c then some rest else none

/-- The line breaks and the indentation at the front of a text: the breaks, the last one first, the
widest indentation, and the place after them.  An indentation of zero takes all spaces; a tab may
not stand within it. -/
def readIndentation? (indent : Nat) :
    (widest : Nat) → (breaks : List Char) → (line column : Nat) → List Char →
    Option (List Char × Nat × Cursor)
  | widest, breaks, line, column, [] => some (breaks, max widest column, ⟨[], line, column⟩)
  | widest, breaks, line, column, c :: rest =>
    let inside := indent = 0 || column < indent
    if c = ' ' && inside then readIndentation? indent widest breaks line (column + 1) rest
    else if c = '\t' && inside then none
    else if isBreak c then readIndentation? indent (max widest column) (c :: breaks)
      (line + 1) 0 rest
    else some (breaks, max widest column, ⟨c :: rest, line, column⟩)

/-- A block scalar that is being read; all lists have the last character first. -/
structure Block where
  text : List Char := []
  /-- The break after the last line that is not empty. -/
  first : List Char := []
  /-- The breaks after that. -/
  more : List Char := []
  /-- Whether the last line starts with a blank. -/
  leading : Bool := false

/-- The block before its next line, which may start with a blank.  In a folded block a break between
two lines that do not start with blanks is a space. -/
def Block.joined (block : Block) (folds trailing : Bool) : List Char :=
  if folds && block.first = ['\n'] && !block.leading && !trailing then
    if block.more = [] then ' ' :: block.text else block.more ++ block.text
  else block.more ++ block.first ++ block.text

/-- The lines of a block, and the place after them; `fuel` bounds their number. -/
def readBlockLines? (folds : Bool) (indent : Nat) :
    (fuel : Nat) → Block → Cursor → Option (Block × Cursor)
  | 0, _, _ => none
  | fuel + 1, block, cursor =>
    if cursor.column ≠ indent || cursor.rest = [] then some (block, cursor)
    else
      let blank := cursor.rest.head?.any isBlank
      let content := cursor.rest.takeWhile fun c => !isBreak c
      let text := content.reverse ++ block.joined folds blank
      match cursor.rest.drop content.length with
      | [] => some ({ text, leading := blank }, cursor.drop content.length)
      | c :: rest =>
        match readIndentation? indent 0 [] (cursor.line + 1) 0 rest with
        | none => none
        | some (more, _, after) =>
          readBlockLines? folds indent fuel { text, first := [c], more, leading := blank } after

/-- A block scalar and the place after it; `least` is the least column that its lines may start
at. -/
def readBlock? (least : Nat) (cursor : Cursor) : Option (List Char × Cursor) :=
  let folds := cursor.rest.head? = some '>'
  match readBlockMarks? (cursor.rest.drop 1) with
  | none => none
  | some (chomping, amount, text) =>
    match endOfLine? text with
    | none => none
    | some [] => some ([], cursor.to [])
    | some rest =>
      let known := if amount = 0 then 0 else (least - 1) + amount
      match readIndentation? known 0 [] (cursor.line + 1) 0 rest with
      | none => none
      | some (more, widest, start) =>
        let indent := if known = 0 then max (max widest least) 1 else known
        (readBlockLines? folds indent (rest.length + 1) { more } start).map fun (block, after) =>
          let text := match chomping with
            | .strip => block.text
            | .clip => block.first ++ block.text
            | .keep => block.more ++ block.first ++ block.text
          (text.reverse, after)

end ContentGraph.Settings.Yaml
