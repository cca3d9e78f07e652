import ContentGraph.Text.CaseTable
import ContentGraph.Text.Spans

/-!
# Upper and lower case

Full case mappings: a character may become several (`ß` to `SS`), and a sigma at the end of a word
has a lower-case form of its own.

* `upperChar`, `lowerChar` — one character, whatever stands around it;
* `upper`, `lower` — a text, the final sigma taken into account;
* `asciiUpper` — the ASCII letters only.
-/

namespace ContentGraph.Text

/-- The code point that the first matching run maps `n` to. -/
def applyRuns (runs : List CaseRun) (n : Nat) : Option Nat :=
  (runs.find? fun run => run.first ≤ n && n ≤ run.last &&
    (n - run.first) % run.stride = 0).map fun run =>
    run.target + (n - run.first)

/-- The mapping of `c` by a list of runs and a list of exceptions. -/
def mapCase (runs : List CaseRun) (special : List (Nat × List Nat)) (c : Char) : List Char :=
  match special.find? fun entry => entry.1 = c.toNat with
  | some (_, codes) => codes.map Char.ofNat
  | none =>
    match applyRuns runs c.toNat with
    | some code => [Char.ofNat code]
    | none => [c]

/-- A character in upper case. -/
def upperChar (c : Char) : List Char :=
  if c.toNat < 128 then [c.toUpper] else mapCase upperRuns upperSpecial c

/-- A character in lower case. -/
def lowerChar (c : Char) : List Char :=
  if c.toNat < 128 then [c.toLower] else mapCase lowerRuns lowerSpecial c

/-- A text in upper case. -/
def upper (text : List Char) : List Char := text.flatMap upperChar

/-! ### The final sigma -/

/-- Whether `c` has case. -/
def isCased (c : Char) : Bool := inRanges casedRanges c.toNat

/-- Whether `c` is passed over in the search for a letter. -/
def isCaseIgnorable (c : Char) : Bool := inRanges caseIgnorableRanges c.toNat

/-- Whether the first character that counts is a letter with case. -/
def startsCased (text : List Char) : Bool :=
  match text.dropWhile isCaseIgnorable with
  | [] => false
  | c :: _ => isCased c

/-- Lower case of `text` after the characters `before`, nearest first. -/
def lowerAfter (before : List Char) : List Char → List Char
  | [] => []
  | c :: rest =>
    let mapped :=
      if c = 'Σ' then [if startsCased before && !startsCased rest then 'ς' else 'σ']
        else lowerChar c
    mapped ++ lowerAfter (c :: before) rest

/-- A text in lower case; a sigma after a letter and before none is final. -/
def lower (text : List Char) : List Char := lowerAfter [] text

/-! ### ASCII letters -/

/-- The text with ASCII letters in upper case. -/
def asciiUpper (text : String) : String := text.map Char.toUpper

/-- Whether `c` is an ASCII letter or digit. -/
def isAsciiAlphanumeric (c : Char) : Bool :=
  ('a' ≤ c && c ≤ 'z') || ('A' ≤ c && c ≤ 'Z') || ('0' ≤ c && c ≤ '9')

/-- Whether `c` is an ASCII digit. -/
def isAsciiDigit (c : Char) : Bool := '0' ≤ c && c ≤ '9'

end ContentGraph.Text
