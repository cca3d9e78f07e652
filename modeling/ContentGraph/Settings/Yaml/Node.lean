import ContentGraph.Keyed
import ContentGraph.Settings.Yaml.Token

/-!
# Nodes of YAML

A document is one node: a scalar, a list, a table whose keys are nodes too, or an alias for a node
elsewhere.

* `Node` — the nodes;
* `Node.ofTokens?` — the node of the only document that tokens write;
* `Node.anchored` — the nodes that aliases may stand for.

Anchors have numbers.  A name that was used before gets the number that the next new name will get
too, and of nodes with one number the last one counts.
-/

namespace ContentGraph.Settings.Yaml

/-- What stands before a node: the number of its anchor, and its tag. -/
structure NodeProperties where
  anchor : Option Nat := none
  tag : Option String := none
  deriving Repr, DecidableEq, Inhabited

/-- A node. -/
inductive Node
  | alias (anchor : Nat)
  | scalar (properties : NodeProperties) (plain : Bool) (text : String)
  | list (properties : NodeProperties) (elements : List Node)
  | table (properties : NodeProperties) (entries : List (Node × Node))
  deriving Repr, Inhabited

/-- A scalar that is not written. -/
def Node.missing : Node := .scalar {} true ""

/-! ### Anchored nodes -/

mutual
/-- The nodes with anchors, by number, in written order. -/
def Node.anchored : Node → List (Nat × Node)
  | .alias _ => []
  | .scalar properties plain text =>
    properties.anchor.toList.map fun n => (n, .scalar properties plain text)
  | .list properties elements =>
    properties.anchor.toList.map (fun n => (n, .list properties elements)) ++
      anchoredElements elements
  | .table properties entries =>
    properties.anchor.toList.map (fun n => (n, .table properties entries)) ++
      anchoredEntries entries
/-- The nodes with anchors in elements. -/
def anchoredElements : List Node → List (Nat × Node)
  | [] => []
  | element :: rest => element.anchored ++ anchoredElements rest
/-- The nodes with anchors in entries. -/
def anchoredEntries : List (Node × Node) → List (Nat × Node)
  | [] => []
  | (key, value) :: rest => key.anchored ++ value.anchored ++ anchoredEntries rest
end

mutual
/-- The number of scalars, aliases, and starts and ends of collections. -/
def Node.size : Node → Nat
  | .alias _ => 1
  | .scalar _ _ _ => 1
  | .list _ elements => sizeOfElements elements + 2
  | .table _ entries => sizeOfEntries entries + 2
/-- The size of elements. -/
def sizeOfElements : List Node → Nat
  | [] => 0
  | element :: rest => element.size + sizeOfElements rest
/-- The size of entries. -/
def sizeOfEntries : List (Node × Node) → Nat
  | [] => 0
  | (key, value) :: rest => key.size + value.size + sizeOfEntries rest
end

/-! ### Reading tokens -/

/-- What is known while nodes are read: the tokens that follow, and the numbers of anchors by
name. -/
structure NodeReading where
  rest : List Token
  anchors : List (String × Nat) := []

/-- The reading behind the next token. -/
def NodeReading.next (reading : NodeReading) : NodeReading :=
  { reading with rest := reading.rest.drop 1 }

/-- What handles stand for. -/
abbrev Handles := List (String × String)

/-- The handles that every document knows, unless its directives say something else about them. -/
def usualHandles : Handles := [(tagMark, tagMark), ("!!", "tag:yaml.org,2002:")]

/-- A tag with what its handle stands for. -/
def TagName.expand? (handles : Handles) (name : TagName) : Option String :=
  if name.handle = "" then some name.suffix
  else ((Keyed.get? name.handle handles).orElse fun _ => Keyed.get? name.handle usualHandles).map
    (· ++ name.suffix)

/-- An anchor with its number, unless there is none. -/
def NodeReading.nameAnchor (reading : NodeReading) :
    (name : Option String) → NodeReading × Option Nat
  | none => (reading, none)
  | some name =>
    let number := reading.anchors.length
    ({ reading with anchors := Keyed.set name number reading.anchors }, some number)

/-- The properties before a node, in either order: the name of its anchor and its tag, and whether
there are any. -/
def NodeReading.properties (reading : NodeReading) : Option String × Option TagName × NodeReading :=
  match reading.rest with
  | .anchor name :: .tag tag :: rest => (some name, some tag, { reading with rest })
  | .tag tag :: .anchor name :: rest => (some name, some tag, { reading with rest })
  | .anchor name :: rest => (some name, none, { reading with rest })
  | .tag tag :: rest => (none, some tag, { reading with rest })
  | _ => (none, none, reading)

/-- Whether no value follows the key or the colon of a block. -/
def endsBlockPart (rest : List Token) : Bool :=
  match rest with
  | .key :: _ | .value :: _ | .blockEnd :: _ => true
  | _ => false

/-- Whether no value follows a dash; `loose` elements also end before keys and values. -/
def endsElement (loose : Bool) (rest : List Token) : Bool :=
  match rest with
  | .element :: _ | .blockEnd :: _ => true
  | .key :: _ | .value :: _ => loose
  | _ => false

mutual
/-- A node; `fuel` bounds the steps.  Blocks may start only where `block` allows it; after a key or
a value, where `loose` is set, a list may start without a block of its own. -/
def readNode? (handles : Handles) : (fuel : Nat) → (block loose : Bool) → NodeReading →
    Option (Node × NodeReading)
  | 0, _, _, _ => none
  | fuel + 1, block, loose, reading =>
    match reading.rest with
    | .alias name :: _ =>
      (Keyed.get? name reading.anchors).map fun number => (.alias number, reading.next)
    | _ =>
      let (name, tagName, reading) := reading.properties
      let tag? : Option (Option String) := match tagName with
        | none => some none
        | some tagName => (tagName.expand? handles).map some
      match tag? with
      | none => none
      | some tag =>
        let bare := name = none && tag = none
        let (reading, anchor) := reading.nameAnchor name
        let properties : NodeProperties := { anchor, tag }
        match reading.rest with
        | .scalar plain text :: _ =>
          let tag := if tag = some tagMark then none else tag
          some (.scalar { anchor, tag } plain text, reading.next)
        | .flowListStart :: _ =>
          (readFlowElements? handles fuel true reading.next).map fun (elements, after) =>
          (.list properties elements, after)
        | .flowTableStart :: _ =>
          (readFlowEntries? handles fuel true reading.next).map fun (entries, after) =>
          (.table properties entries, after)
        | .blockListStart :: _ =>
          if block then (readElements? handles fuel reading.next).map fun (elements, after) =>
            (.list properties elements, after)
          else if bare then none else some (.scalar properties true "", reading)
        | .blockTableStart :: _ =>
          if block then (readEntries? handles fuel reading.next).map fun (entries, after) =>
            (.table properties entries, after)
          else if bare then none else some (.scalar properties true "", reading)
        | rest =>
          if loose && rest.head? = some .element then
            (readLooseElements? handles fuel reading).map fun (elements, after) =>
              (.list properties elements, after)
          else if bare then none
          else some (.scalar properties true "", reading)
/-- The elements of a list with a block of its own. -/
def readElements? (handles : Handles) :
    (fuel : Nat) → NodeReading → Option (List Node × NodeReading)
  | 0, _ => none
  | fuel + 1, reading =>
    match reading.rest with
    | .blockEnd :: _ => some ([], reading.next)
    | .element :: rest =>
      let element? : Option (Node × NodeReading) :=
        if endsElement false rest then some (.missing, reading.next)
        else readNode? handles fuel true false reading.next
      match element? with
      | none => none
      | some (element, after) => (readElements? handles fuel after).map fun (elements, after) =>
        (element :: elements, after)
    | _ => none
/-- The elements of a list at the column of the key before it. -/
def readLooseElements? (handles : Handles) :
    (fuel : Nat) → NodeReading → Option (List Node × NodeReading)
  | 0, _ => none
  | fuel + 1, reading =>
    match reading.rest with
    | .element :: rest =>
      let element? : Option (Node × NodeReading) :=
        if endsElement true rest then some (.missing, reading.next)
        else readNode? handles fuel true false reading.next
      match element? with
      | none => none
      | some (element, after) =>
        (readLooseElements? handles fuel after).map fun (elements, after) =>
        (element :: elements, after)
    | _ => some ([], reading)
/-- The entries of a block table. -/
def readEntries? (handles : Handles) :
    (fuel : Nat) → NodeReading → Option (List (Node × Node) × NodeReading)
  | 0, _ => none
  | fuel + 1, reading =>
    match reading.rest with
    | .blockEnd :: _ => some ([], reading.next)
    | .key :: rest =>
      let key? : Option (Node × NodeReading) :=
        if endsBlockPart rest then some (.missing, reading.next)
        else readNode? handles fuel true true reading.next
      match key? with
      | none => none
      | some (key, after) =>
        match readBlockValue? handles fuel after with
        | none => none
        | some (value, after) => (readEntries? handles fuel after).map fun (entries, after) =>
          ((key, value) :: entries, after)
    | _ => none
/-- The value of a block table's key. -/
def readBlockValue? (handles : Handles) : (fuel : Nat) → NodeReading → Option (Node × NodeReading)
  | 0, _ => none
  | fuel + 1, reading =>
    match reading.rest with
    | .value :: rest =>
      if endsBlockPart rest then some (.missing, reading.next)
        else readNode? handles fuel true true reading.next
    | _ => some (.missing, reading)
/-- The elements of a list between brackets; the first one has no comma before it. -/
def readFlowElements? (handles : Handles) : (fuel : Nat) → (first : Bool) → NodeReading →
    Option (List Node × NodeReading)
  | 0, _, _ => none
  | fuel + 1, first, reading =>
    match reading.rest with
    | .flowListEnd :: _ => some ([], reading.next)
    | token :: _ =>
      if !first && token ≠ .comma then none
      else
        let reading := if first then reading else reading.next
        match reading.rest with
        | .flowListEnd :: _ => some ([], reading.next)
        | .key :: _ =>
          match readFlowPair? handles fuel reading.next with
          | none => none
          | some (pair, after) =>
            (readFlowElements? handles fuel false after).map fun (elements, after) =>
            (.table {} [pair] :: elements, after)
        | _ =>
          match readNode? handles fuel false false reading with
          | none => none
          | some (element, after) =>
            (readFlowElements? handles fuel false after).map fun (elements, after) =>
            (element :: elements, after)
    | [] => none
/-- An element that is a key with a value.  Where the key is missing, the token after its mark is
passed over. -/
def readFlowPair? (handles : Handles) :
    (fuel : Nat) → NodeReading → Option ((Node × Node) × NodeReading)
  | 0, _ => none
  | fuel + 1, reading =>
    let key? : Option (Node × NodeReading) := match reading.rest with
      | .value :: _ | .comma :: _ | .flowListEnd :: _ => some (.missing, reading.next)
      | _ => readNode? handles fuel false false reading
    match key? with
    | none => none
    | some (key, after) =>
      match after.rest with
      | .value :: .comma :: _ | .value :: .flowListEnd :: _ => some ((key, .missing), after.next)
      | .value :: _ =>
        (readNode? handles fuel false false after.next).map fun (value, after) =>
          ((key, value), after)
      | _ => some ((key, .missing), after)
/-- The entries of a table between braces; the first one has no comma before it. -/
def readFlowEntries? (handles : Handles) : (fuel : Nat) → (first : Bool) → NodeReading →
    Option (List (Node × Node) × NodeReading)
  | 0, _, _ => none
  | fuel + 1, first, reading =>
    match reading.rest with
    | .flowTableEnd :: _ => some ([], reading.next)
    | token :: _ =>
      if !first && token ≠ .comma then none
      else
        let reading := if first then reading else reading.next
        match reading.rest with
        | .flowTableEnd :: _ => some ([], reading.next)
        | .key :: _ =>
          match readFlowEntry? handles fuel reading.next with
          | none => none
          | some (entry, after) =>
            (readFlowEntries? handles fuel false after).map fun (entries, after) =>
            (entry :: entries, after)
        | _ =>
          match readNode? handles fuel false false reading with
          | none => none
          | some (key, after) =>
            (readFlowEntries? handles fuel false after).map fun (entries, after) =>
            ((key, .missing) :: entries, after)
    | [] => none
/-- A key with a value between braces. -/
def readFlowEntry? (handles : Handles) :
    (fuel : Nat) → NodeReading → Option ((Node × Node) × NodeReading)
  | 0, _ => none
  | fuel + 1, reading =>
    let key? : Option (Node × NodeReading) := match reading.rest with
      | .value :: _ | .comma :: _ | .flowTableEnd :: _ => some (.missing, reading)
      | _ => readNode? handles fuel false false reading
    match key? with
    | none => none
    | some (key, after) =>
      match after.rest with
      | .value :: .comma :: _ | .value :: .flowTableEnd :: _ => some ((key, .missing), after.next)
      | .value :: _ =>
        (readNode? handles fuel false false after.next).map fun (value, after) =>
          ((key, value), after)
      | _ => some ((key, .missing), after)
end

/-! ### Documents -/

/-- The directives at the front of tokens, and what follows them. -/
def splitDirectives : List Token → List Directive × List Token
  | .directive directive :: rest =>
    (directive :: (splitDirectives rest).1, (splitDirectives rest).2)
  | rest => ([], rest)

/-- The versions that can be read. -/
def knownVersions : List Directive := [.version 1 1, .version 1 2]

/-- The handles that directives explain, none of them twice.  At most one directive names a version,
a known one. -/
def handlesOf? (directives : List Directive) : Option Handles :=
  let handles := directives.filterMap fun directive => match directive with
    | .handle name start => some (name, start)
    | .version _ _ => none
  let versions := directives.filter fun directive => match directive with
    | .version _ _ => true
    | .handle _ _ => false
  let distinct := (handles.map Prod.fst).eraseDups.length = handles.length
  if versions.length ≤ 1 && versions.all knownVersions.contains && distinct then some handles
    else none

/-- The node of the only document that tokens write; no node when there is no document. -/
def Node.ofTokens? (tokens : List Token) : Option (Option Node) :=
  let fuel := 2 * tokens.length + 2
  let node? : Option (Option Node × List Token) :=
    match splitDirectives tokens with
    | ([], []) => some (none, [])
    | (directives, .documentStart :: rest) =>
      match handlesOf? directives, rest with
      | none, _ => none
      | some _, [] | some _, .directive _ :: _ | some _, .documentStart :: _
      | some _, .documentEnd :: _ => some (some .missing, rest)
      | some handles, rest =>
        (readNode? handles fuel true false { rest }).map fun (node, after) =>
          (some node, after.rest)
    | ([], rest) =>
      (readNode? [] fuel true false { rest }).map fun (node, after) => (some node, after.rest)
    | _ => none
  match node? with
  | some (node, rest) => if rest.all (· = .documentEnd) then some node else none
  | none => none

end ContentGraph.Settings.Yaml
