import ContentGraph.Settings.Yaml.Node
import ContentGraph.Settings.Yaml.ScalarValue

/-!
# Settings in YAML

`parse` reads a text with at most one document, which is a table or nothing at all.  Of a repeated
key the last value counts; a local tag puts a value into a table of its own.

Aliases stand for nodes as if these were written there, so nodes may be nested without end or be
many more than were written; both are bounded.

* `valueOf` — the value of a node;
* `parse` — the table of a text.
-/

namespace ContentGraph.Settings.Yaml

/-- How deep collections may be nested. -/
def maxDepth : Nat := 128

/-- How often aliases may be followed, for each part of a document. -/
def aliasesPerPart : Nat := 100

/-- Readings of nodes that know how many aliases may still be followed. -/
abbrev Following := StateT Nat Option

/-- The node that a node stands for among anchored ones, the last one first. -/
def follow (anchored : List (Nat × Node)) (node : Node) : Following Node :=
  match node with
  | .alias number => fun left =>
    if left = 0 then none
    else (anchored.find? fun entry => entry.1 = number).map fun entry => (entry.2, left - 1)
  | node => pure node

/-- The text of a key, which is a scalar. -/
def keyOf (anchored : List (Nat × Node)) (node : Node) : Following String := do
  match ← follow anchored node with
  | .scalar _ _ text => pure text
  | _ => failure

/-- The value of a node in which collections may be nested `depth` deep. -/
def valueOf (anchored : List (Nat × Node)) : (depth : Nat) → Node → Following Value
  | 0, node => do
    match ← follow anchored node with
    | .scalar properties plain text => (scalarValue? properties.tag plain text : Option Value)
    | _ => failure
  | depth + 1, node => do
    match ← follow anchored node with
    | .scalar properties plain text => (scalarValue? properties.tag plain text : Option Value)
    | .list properties elements => do
      let values ← elements.mapM (valueOf anchored depth)
      pure (underTag properties.tag (.list values))
    | .table properties entries => do
      let members ← entries.mapM fun (key, value) => do
        pure (← keyOf anchored key, ← valueOf anchored depth value)
      pure (underTag properties.tag (.table (Keyed.merge members)))
    | .alias _ => failure

/-- The table that the node of a document is, whatever its tag; a plain scalar without text is an
empty one. -/
def tableOf? (node : Node) : Option Table :=
  match node with
  | .scalar _ true "" => some []
  | .table _ entries =>
    match valueOf node.anchored.reverse maxDepth (.table {} entries)
      (aliasesPerPart * node.size) with
    | some (.table members, _) => some members
    | _ => none
  | _ => none

/-- The table of a text. -/
def parse (text : String) : Option Table :=
  if !text.toList.all isPrintable then none
  else
    match (Token.ofText? (unifyBreaks text.toList)).bind Node.ofTokens? with
    | none => none
    | some none => some []
    | some (some node) => tableOf? node

end ContentGraph.Settings.Yaml
