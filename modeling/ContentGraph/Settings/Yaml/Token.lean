import ContentGraph.Settings.Yaml.Scalar
import ContentGraph.Settings.Yaml.Tag

/-!
# Tokens of YAML

A text is a sequence of tokens: scalars with their properties, the marks of collections, and the
starts and ends of blocks, which are not written but follow from columns.  A key without a mark is
recognized by the colon after it, so its token comes before those that were read already.

* `Token` — the tokens;
* `Outline` — what is known while a text is read;
* `Token.ofText?` — the tokens of a text.
-/

namespace ContentGraph.Settings.Yaml

/-- A token. -/
inductive Token
  | directive (directive : Directive)
  | documentStart
  | documentEnd
  | blockListStart
  | blockTableStart
  | blockEnd
  | flowListStart
  | flowListEnd
  | flowTableStart
  | flowTableEnd
  | element
  | comma
  | key
  | value
  | alias (name : String)
  | anchor (name : String)
  | tag (name : TagName)
  | scalar (plain : Bool) (text : String)
  deriving DecidableEq, Repr

/-! ### What is known while a text is read -/

/-- A place at which a key without a mark may have started. -/
structure KeyStart where
  /-- Whether nothing else may stand there. -/
  required : Bool
  /-- The number of tokens before it. -/
  tokens : Nat
  line : Nat
  column : Nat
  deriving Repr

/-- The most characters of a key without a mark. -/
def maxKeySize : Nat := 1024

/-- What is known while a text is read. -/
structure Outline where
  cursor : Cursor
  /-- The tokens read so far, the last one first. -/
  tokens : List Token := []
  /-- The columns of the blocks around the cursor, the innermost first. -/
  blocks : List Nat := []
  /-- Where a key may have started: outside all brackets, and within those around the cursor, the
  innermost first. -/
  keys : List (Option KeyStart) := [none]
  /-- Whether a key without a mark may start at the next token. -/
  keyAllowed : Bool := true

namespace Outline

/-- Whether brackets are around the cursor. -/
def inFlow (outline : Outline) : Bool := 1 < outline.keys.length

/-- The least column of what belongs to the innermost block. -/
def least (outline : Outline) : Nat :=
  match outline.blocks with
  | [] => 0
  | column :: _ => column + 1

/-- The outline with one more token. -/
def add (outline : Outline) (token : Token) : Outline :=
  { outline with tokens := token :: outline.tokens }

/-- The outline with a token after the first `count` ones. -/
def insert (outline : Outline) (count : Nat) (token : Token) : Outline :=
  let later := outline.tokens.length - count
  { outline with tokens := outline.tokens.take later ++ token :: outline.tokens.drop later }

/-- The outline with the cursor behind `count` characters. -/
def skip (outline : Outline) (count : Nat) : Outline :=
  { outline with cursor := outline.cursor.drop count }

/-! ### Blocks -/

/-- The outline within a block at a column, whose token stands after the first `count` ones. -/
def openBlock (outline : Outline) (column count : Nat) (token : Token) : Outline :=
  if outline.inFlow || column < outline.least then outline
  else { outline with blocks := column :: outline.blocks }.insert count token

/-- The outline after the ends of all blocks that `ends` tells by their columns. -/
def closeBlocks (outline : Outline) (ends : Nat → Bool) : Outline :=
  if outline.inFlow then outline
  else
    let closed := outline.blocks.takeWhile ends
    { outline with
      blocks := outline.blocks.drop closed.length
      tokens := closed.map (fun _ => Token.blockEnd) ++ outline.tokens }

/-! ### Keys without a mark -/

/-- The outline without the possible key of the innermost level, which must not be a required
one. -/
def dropKey? (outline : Outline) : Option Outline :=
  match outline.keys with
  | some key :: rest => if key.required then none else some { outline with keys := none :: rest }
  | _ => some outline

/-- The outline with a possible key at the cursor, if one may start there. -/
def markKey? (outline : Outline) : Option Outline :=
  if !outline.keyAllowed then some outline
  else
    (dropKey? outline).map fun outline =>
      let required := !outline.inFlow && outline.blocks.head? = some outline.cursor.column
      let start := ⟨required, outline.tokens.length, outline.cursor.line, outline.cursor.column⟩
      { outline with keys := some start :: outline.keys.drop 1 }

/-- Whether a possible key is too far from a cursor. -/
def isStale (cursor : Cursor) (key : KeyStart) : Bool :=
  key.line ≠ cursor.line || key.column + maxKeySize < cursor.column

/-- The outline without keys that are too far from the cursor; none of them may be required. -/
def dropStale? (outline : Outline) : Option Outline :=
  let stale (key : Option KeyStart) : Bool := key.any (isStale outline.cursor)
  if outline.keys.any fun key => stale key && key.any KeyStart.required then none
  else some { outline with keys := outline.keys.map fun key => if stale key then none else key }

/-! ### Reading tokens -/

/-- The outline after a mark of one character, and whether a key may follow. -/
def readMark (outline : Outline) (token : Token) (keyAllowed : Bool) : Outline :=
  { (outline.add token).skip 1 with keyAllowed }

/-- The outline after a line between documents or a directive, before which all blocks end. -/
def endDocument? (outline : Outline) : Option Outline :=
  (outline.closeBlocks fun _ => true).dropKey?.map fun outline =>
    { outline with keyAllowed := false }

/-- The outline after a directive. -/
def readDirective? (outline : Outline) : Option Outline := do
  let outline ← outline.endDocument?
  let (directive, rest) ← Directive.read? (outline.cursor.rest.drop 1)
  let text ← endOfLine? rest
  let next : Cursor := ⟨text, outline.cursor.line + 1, 0⟩
  some { outline.add (.directive directive) with cursor := next }

/-- The outline after an opening bracket. -/
def readOpening? (outline : Outline) (token : Token) : Option Outline :=
  outline.markKey?.map fun outline =>
    { outline.readMark token true with keys := none :: outline.keys }

/-- The outline after a closing bracket. -/
def readClosing? (outline : Outline) (token : Token) : Option Outline :=
  outline.dropKey?.map fun outline =>
    { outline.readMark token false with keys := if outline.inFlow then outline.keys.drop 1
      else outline.keys }

/-- The outline after the dash of an element or the mark of a key.  Outside brackets it may open a
block. -/
def readEntry? (outline : Outline) (block token : Token) (keyAllowed : Bool) : Option Outline :=
  if !outline.inFlow && !outline.keyAllowed then none
  else
    (outline.openBlock outline.cursor.column outline.tokens.length block).dropKey?.map
      fun outline =>
      outline.readMark token keyAllowed

/-- The outline after the colon of a key. -/
def readColon? (outline : Outline) : Option Outline :=
  match outline.keys with
  | some key :: rest =>
    let outline := { outline with keys := none :: rest }.insert key.tokens .key
    some ((outline.openBlock key.column key.tokens .blockTableStart).readMark .value false)
  | _ =>
    if !outline.inFlow && !outline.keyAllowed then none
    else
      let outline := outline.openBlock outline.cursor.column outline.tokens.length .blockTableStart
      some (outline.readMark .value !outline.inFlow)

/-- The outline after a property of a value, whose text starts with a mark. -/
def readProperty? {α : Type} (outline : Outline) (read? : List Char → Option (α × List Char))
    (token : α → Token) : Option Outline := do
  let outline ← outline.markKey?
  let (property, rest) ← read? (outline.cursor.rest.drop 1)
  some { outline.add (token property) with cursor := outline.cursor.to rest, keyAllowed := false }

/-- The outline after a tag, which blanks end, or between brackets a comma. -/
def readTag? (outline : Outline) : Option Outline :=
  (outline.readProperty? TagName.read? .tag).filter fun after =>
    startsBlank after.cursor.rest || (outline.inFlow && after.cursor.rest.head? = some ',')

/-- The outline after a scalar between quotes. -/
def readQuotedToken? (outline : Outline) : Option Outline := do
  let outline ← outline.markKey?
  let (text, after) ← readQuoted? outline.cursor
  some { outline.add (.scalar false (String.ofList text)) with
    cursor := after, keyAllowed := false }

/-- The outline after a block scalar. -/
def readBlockToken? (outline : Outline) : Option Outline := do
  let outline ← outline.dropKey?
  let (text, after) ← readBlock? outline.least outline.cursor
  some { outline.add (.scalar false (String.ofList text)) with cursor := after, keyAllowed := true }

/-- The outline after a plain scalar.  A key may follow when its line has ended. -/
def readPlainToken? (outline : Outline) : Option Outline := do
  let outline ← outline.markKey?
  let (text, broken, after) ← readPlain? outline.inFlow outline.least outline.cursor
  some { outline.add (.scalar true (String.ofList text)) with
    cursor := after, keyAllowed := broken }

/-- The outline after the token at the cursor. -/
def readToken? (outline : Outline) : Option Outline :=
  let flow := outline.inFlow
  let column := outline.cursor.column
  match outline.cursor.rest with
  | [] => none
  | c :: rest =>
    if column = 0 && c = '%' then outline.readDirective?
    else if atMarker column (c :: rest) then
      outline.endDocument?.map fun outline =>
        (outline.add (if c = '-' then .documentStart else .documentEnd)).skip 3
    else if c = '[' then outline.readOpening? .flowListStart
    else if c = '\x7b' then outline.readOpening? .flowTableStart
    else if c = ']' then outline.readClosing? .flowListEnd
    else if c = '\x7d' then outline.readClosing? .flowTableEnd
    else if c = ',' then outline.dropKey?.map fun outline => outline.readMark .comma true
    else if c = '-' && startsBlank rest then outline.readEntry? .blockListStart .element true
    else if c = '?' && (flow || startsBlank rest) then
      outline.readEntry? .blockTableStart .key !flow
    else if c = ':' && (flow || startsBlank rest) then outline.readColon?
    else if c = '*' then outline.readProperty? readAnchor? .alias
    else if c = '&' then outline.readProperty? readAnchor? .anchor
    else if c = '!' then outline.readTag?
    else if (c = '|' || c = '>') && !flow then outline.readBlockToken?
    else if c = '\'' || c = '"' then outline.readQuotedToken?
    else if startsPlain flow (c :: rest) then outline.readPlainToken?
    else none

/-- The outline before the next token: behind layout, without keys that are too far away, and
outside of blocks that have ended. -/
def advance? (outline : Outline) : Option Outline :=
  let (keyAllowed, cursor) := outline.cursor.skipLayout outline.inFlow outline.keyAllowed
  let moved : Outline := { outline with cursor, keyAllowed }
  moved.dropStale?.map fun outline => outline.closeBlocks fun column => cursor.column < column

/-- The tokens up to the end of the text; `fuel` bounds their number. -/
def readAll? : (fuel : Nat) → Outline → Option (List Token)
  | 0, _ => none
  | fuel + 1, outline =>
    match outline.advance? with
    | none => none
    | some outline =>
      if outline.cursor.rest = [] then outline.endDocument?.map fun outline =>
        outline.tokens.reverse
      else
        match outline.readToken? with
        | none => none
        | some outline => readAll? fuel outline

end Outline

/-- The tokens of a text: each of them but the ends and starts of blocks takes at least one
character. -/
def Token.ofText? (text : List Char) : Option (List Token) :=
  Outline.readAll? (text.length + 1) { cursor := .start text }

end ContentGraph.Settings.Yaml
