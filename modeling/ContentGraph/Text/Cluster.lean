import ContentGraph.Text.ClusterTable
import ContentGraph.Text.Spans

/-!
# Extended grapheme clusters

`clusters` cuts a text into what a reader sees as characters: a letter with its marks, a line break
of two characters, a syllable of Hangul letters, a flag, a sequence of joined pictographs.
Conjuncts of Indic scripts are not joined beyond their marks: their letters have neither case nor
digits, and clusters are used here for nothing else.
-/

namespace ContentGraph.Text

/-- The role of a character at the border of two clusters. -/
inductive ClusterClass
  | carriageReturn | lineFeed | control | extend | joiner | spacingMark | prepend | pictograph
  | hangulLeading | hangulVowel | hangulTrailing | hangulOpen | hangulClosed | regional | other
  deriving DecidableEq, Repr

namespace ClusterClass

/-- The role of `c`.  A precomposed Hangul syllable is open when it has no trailing consonant. -/
def ofChar (c : Char) : ClusterClass :=
  let n := c.toNat
  if n = 13 then .carriageReturn
  else if n = 10 then .lineFeed
  else if n < 32 || n = 127 then .control
  else if n < 128 then .other
  else if n = 0x200D then .joiner
  else if inRanges extendRanges n then .extend
  else if inRanges spacingMarkRanges n then .spacingMark
  else if inRanges prependRanges n then .prepend
  else if inRanges controlRanges n then .control
  else if inRanges pictographicRanges n then .pictograph
  else if 0x1F1E6 ≤ n && n ≤ 0x1F1FF then .regional
  else if 0xAC00 ≤ n && n ≤ 0xD7A3 then
    if (n - 0xAC00) % 28 = 0 then .hangulOpen else .hangulClosed
  else if inRanges hangulLeadingRanges n then .hangulLeading
  else if inRanges hangulVowelRanges n then .hangulVowel
  else if inRanges hangulTrailingRanges n then .hangulTrailing
  else .other

/-- Whether the character stands alone. -/
def isControl : ClusterClass → Bool
  | .carriageReturn | .lineFeed | .control => true
  | _ => false

end ClusterClass

/-- What the end of a cluster remembers: the last character's role, whether the cluster ends in a
pictograph and its marks, whether a joiner follows those, and whether its flag letters are odd in
number. -/
structure ClusterEnd where
  last : ClusterClass
  pictograph : Bool
  joined : Bool
  oddRegional : Bool

namespace ClusterEnd

/-- The end of a cluster of one character. -/
def start (c : ClusterClass) : ClusterEnd := ⟨c, c = .pictograph, false, c = .regional⟩

/-- The end after one more character. -/
def extend (e : ClusterEnd) (c : ClusterClass) : ClusterEnd :=
  { last := c
    pictograph := c = .pictograph || (e.pictograph && c = .extend)
    joined := e.pictograph && c = .joiner
    oddRegional := c = .regional && !e.oddRegional }

/-- Whether a character of role `c` belongs to the cluster. -/
def accepts (e : ClusterEnd) (c : ClusterClass) : Bool :=
  if e.last = .carriageReturn && c = .lineFeed then true
  else if e.last.isControl || c.isControl then false
  else match e.last, c with
    | _, .extend | _, .joiner | _, .spacingMark => true
    | .prepend, _ => true
    | .hangulLeading, .hangulLeading | .hangulLeading, .hangulVowel
    | .hangulLeading, .hangulOpen | .hangulLeading, .hangulClosed
    | .hangulOpen, .hangulVowel | .hangulOpen, .hangulTrailing
    | .hangulVowel, .hangulVowel | .hangulVowel, .hangulTrailing
    | .hangulClosed, .hangulTrailing | .hangulTrailing, .hangulTrailing => true
    | .joiner, .pictograph => e.joined
    | .regional, .regional => e.oddRegional
    | _, _ => false

end ClusterEnd

/-- The characters that complete a cluster, and the clusters after it. -/
def clustersAfter (state : ClusterEnd) : List Char → List Char × List (List Char)
  | [] => ([], [])
  | c :: rest =>
    let role := ClusterClass.ofChar c
    if state.accepts role then
      let (same, others) := clustersAfter (state.extend role) rest
      (c :: same, others)
    else
      let (same, others) := clustersAfter (.start role) rest
      ([], (c :: same) :: others)

/-- The clusters of a text, in order. -/
def clusters : List Char → List (List Char)
  | [] => []
  | c :: rest =>
    let (same, others) := clustersAfter (.start (.ofChar c)) rest
    (c :: same) :: others

end ContentGraph.Text
