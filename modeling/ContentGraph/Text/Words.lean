import ContentGraph.Text.Case
import ContentGraph.Text.Cluster

/-!
# Words of a name

Names of fields and types are cut into words at underscores, hyphens and spaces, and wherever case
or digits change: before an upper-case letter after a lower-case one, between letters and digits,
and before the last capital of a run of capitals that a lower-case letter follows (`HTMLParser` is
`HTML`, `Parser`).  Two separators in a row leave an empty word between them.

* `splitWords` — the words;
* `pascalCase` — every word capitalized, joined (`custom_type` becomes `CustomType`);
* `camelCase` — the same with the first word in lower case (`customType`).
-/

namespace ContentGraph.Text

/-- What a cluster is to the border of two words. -/
inductive ClusterKind
  | separator | upper | lower | digit | other
  deriving DecidableEq, Repr

/-- The kind of a cluster.  A cluster has case when its upper- and lower-case forms differ and it is
one of them. -/
def ClusterKind.ofCluster (cluster : List Char) : ClusterKind :=
  if cluster = ['_'] || cluster = ['-'] || cluster = [' '] then .separator
  else if cluster.all isAsciiDigit then .digit
  else
    let up := Text.upper cluster
    let low := Text.lower cluster
    if up = low then .other
    else if cluster = up then .upper
    else if cluster = low then .lower
    else .other

/-- Whether a word ends between two neighbouring clusters; `after` is the cluster after both. -/
def wordEndsBetween (left right : ClusterKind) (after : Option ClusterKind) : Bool :=
  match left, right with
  | .lower, .upper | .lower, .digit | .upper, .digit | .digit, .lower | .digit, .upper => true
  | .upper, .upper => after = some .lower
  | _, _ => false

/-- `cluster` put in front of the first word. -/
def consFirst (cluster : List Char) : List (List Char) → List (List Char)
  | [] => [cluster]
  | word :: rest => (cluster ++ word) :: rest

/-- The words of a sequence of clusters of known kinds. -/
def splitKinds : List (List Char × ClusterKind) → List (List Char)
  | [] => [[]]
  | (cluster, kind) :: rest =>
    if kind = .separator then [] :: splitKinds rest
    else
      let ends := match rest with
        | [] => false
        | (_, next) :: later => wordEndsBetween kind next (later.head?.map Prod.snd)
      if ends then cluster :: splitKinds rest else consFirst cluster (splitKinds rest)

/-- The words of a text; empty ones stay. -/
def splitWords (text : List Char) : List (List Char) :=
  splitKinds ((clusters text).map fun cluster => (cluster, ClusterKind.ofCluster cluster))

/-- A word with its first character in upper case and the rest in lower case. -/
def capitalize : List Char → List Char
  | [] => []
  | c :: rest => upperChar c ++ lower rest

/-- Every word capitalized, joined. -/
def pascalCase (text : String) : String :=
  String.ofList ((splitWords text.toList).flatMap capitalize)

/-- The first word in lower case, every other capitalized, joined. -/
def camelCase (text : String) : String :=
  match splitWords text.toList with
  | [] => ""
  | first :: rest => String.ofList (lower first ++ rest.flatMap capitalize)

end ContentGraph.Text
