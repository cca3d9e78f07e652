import ContentGraph.Download.NameTable
import ContentGraph.Text.Direction
import ContentGraph.Text.Joining
import ContentGraph.Text.Punycode

/-!
# Names of hosts

A host's name is written in any script and looked up in ASCII.  Its characters are first brought to
the form that names have: lower case, one spelling of each letter, points between labels.  Each
label is then a text in that form or an ASCII spelling of one, and has to follow the rules that keep
names apart from each other.

* `HostName.normalize?` — a text in the form that names have;
* `HostName.Label.ofText?` — a label with its ASCII spelling;
* `HostName.ofText?` — a name in ASCII.
-/

namespace ContentGraph.HostName

/-! ### The form of names -/

/-- What becomes of a character in a name. -/
inductive CharRule
  /-- No name has it. -/
  | refused
  /-- It is left out. -/
  | dropped
  /-- Others stand in its place; between two such characters of a span `stride - 1` others stay. -/
  | replaced (stride : Nat) (codes : List Nat)
  deriving DecidableEq, Repr

/-- The rule that the value of a span writes. -/
def CharRule.ofText? (text : List Char) : Option CharRule :=
  match text with
  | ['!'] => some .refused
  | ['-'] => some .dropped
  | text =>
    let codes := text.takeWhile (· ≠ '/')
    (Text.hexNumbers? codes).map fun numbers => .replaced (if codes = text then 1 else 2) numbers

/-- The rules of characters that do not stay as they are. -/
def charRules : Text.Spans CharRule := .ofLines CharRule.ofText? nameLines

/-- What stands for a character in names, or nothing when no name has it. -/
def mapChar? (c : Char) : Option (List Char) :=
  match charRules.at? c.toNat with
  | none => some [c]
  | some ⟨_, _, .refused⟩ => none
  | some ⟨_, _, .dropped⟩ => some []
  | some ⟨first, last, .replaced stride codes⟩ =>
    if (c.toNat - first) % stride ≠ 0 then some [c]
    else some (((⟨first, last, codes⟩ : Text.Span (List Nat)).images c.toNat).map Char.ofNat)

/-- A text in the form that names have. -/
def normalize? (text : List Char) : Option (List Char) :=
  (text.mapM mapChar?).map fun parts => Text.composed parts.flatten

/-! ### Labels -/

/-- Whether a text is ASCII. -/
def isAscii (text : List Char) : Bool := text.all fun c => c.toNat < 128

/-- How many characters a label beyond ASCII may have. -/
def maxLabelSize : Nat := 1000

/-- How many characters the spelling of a label may have after its mark. -/
def maxSpellingSize : Nat := 2000

/-- Whether a text in the form of names may be a label: it starts with no mark, and its joiners
fit. -/
def isLabel (text : List Char) : Bool :=
  isAscii text || (!text.head?.any Text.isMark && Text.joinersFit text &&
    text.length ≤ maxLabelSize)

/-- A label: its text and its spelling in ASCII. -/
structure Label where
  text : List Char
  ascii : List Char
  deriving DecidableEq, Repr

/-- What the spelling of a label beyond ASCII starts with. -/
def spellingMark : List Char := ['x', 'n', '-', '-']

/-- The text that a spelling without its mark stands for: a label beyond ASCII in the form of
names. -/
def readSpelling? (spelling : List Char) : Option (List Char) :=
  if maxSpellingSize < spelling.length then none
  else (Text.punycodeDecode? spelling).filter fun text =>
    !isAscii text && normalize? text = some text && isLabel text

/-- The label that a text in the form of names is, as itself or as a spelling. -/
def Label.ofText? (text : List Char) : Option Label :=
  match spellingMark.isPrefixOf? text with
  | some spelling =>
    if isAscii text then (readSpelling? spelling).map fun plain => ⟨plain, text⟩ else none
  | none =>
    if !isLabel text then none
    else some ⟨text, if isAscii text then text else spellingMark ++ Text.punycode text⟩

/-! ### Names -/

/-- Whether labels may stand in one name: when one of them has something that is written from right
to left, each of them keeps to one direction. -/
def labelsFit (labels : List Label) : Bool :=
  !labels.any (fun label => Text.hasRightToLeft label.text) ||
    labels.all fun label => Text.keepsDirection label.text

/-- The name in ASCII that a text is, whatever its ASCII characters. -/
def ofText? (text : List Char) : Option (List Char) :=
  match normalize? text with
  | none => none
  | some name =>
    match (Text.splitChars '.' name).mapM Label.ofText? with
    | none => none
    | some labels =>
      if labelsFit labels then some (List.intercalate ['.'] (labels.map Label.ascii)) else none

end ContentGraph.HostName
