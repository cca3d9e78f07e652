import ContentGraph.Settings.Value

/-!
# Tables of a TOML document

A document names its tables by headers and dotted keys, in any order, and names none of them twice.
While it is read each table remembers how it came to be, because that decides what may still be
added to it:

* a table that a header implied on the way to another one may get its own header once;
* a table that dotted keys made may get more dotted keys, but no header;
* a table that had its header gets neither.

The main definitions are `openTable?`, `openElement?` (headers) and `insertDotted?` (keys with
values).
-/

namespace ContentGraph.Settings.Toml

/-- How a table came to be. -/
inductive Origin
  | header | implied | dotted
  deriving DecidableEq, Repr

/-- What stands under a key of a document that is being read. -/
inductive Node
  /-- A finished value. -/
  | value (value : Value)
  /-- A table with its entries. -/
  | table (origin : Origin) (entries : List (String × Node))
  /-- The tables of an array of tables, the latest first. -/
  | tables (latest : List (String × Node)) (earlier : List (List (String × Node)))
  deriving Inhabited

/-- The entries of a table. -/
abbrev Entries := List (String × Node)

/-- The table at the end of `path` changed by `change`, which is told how that table came to be.
Missing tables on the way are made; an array of tables is entered at its latest table.  Dotted keys
do not enter tables that had a header. -/
def descend? (dotted : Bool) (change : Origin → Entries → Option Entries) (origin : Origin) :
    (path : List String) → Entries → Option Entries
  | [], entries => change origin entries
  | key :: rest, entries =>
    let made : Origin := if dotted then .dotted else .implied
    match Keyed.get? key entries with
    | none =>
      (descend? dotted change made rest []).map fun inner =>
        Keyed.set key (.table made inner) entries
    | some (.value _) => none
    | some (.tables latest earlier) =>
      (descend? dotted change .header rest latest).map fun inner =>
        Keyed.set key (.tables inner earlier) entries
    | some (.table old inner) =>
      if dotted && old = .header then none
      else (descend? dotted change old rest inner).map fun inner =>
        Keyed.set key (.table old inner) entries

/-- The document with a table opened by its header: a new one, or one that was only implied so
far. -/
def openTable? (path : List String) (key : String) (root : Entries) : Option Entries :=
  descend? false (fun _ entries =>
    match Keyed.get? key entries with
    | none => some (Keyed.set key (.table .header []) entries)
    | some (.table .implied inner) => some (Keyed.set key (.table .header inner) entries)
    | some _ => none) .header path root

/-- The document with one more table in an array of tables. -/
def openElement? (path : List String) (key : String) (root : Entries) : Option Entries :=
  descend? false (fun _ entries =>
    match Keyed.get? key entries with
    | none => some (Keyed.set key (.tables [] []) entries)
    | some (.tables latest earlier) => some (Keyed.set key (.tables [] (latest :: earlier)) entries)
    | some _ => none) .header path root

/-- The entries with a value under a dotted key.  No key is set twice, and only tables that dotted
keys made are reached through dots. -/
def insertDotted? (path : List String) (key : String) (value : Value) (entries : Entries) :
    Option Entries :=
  descend? true (fun origin entries =>
    if path ≠ [] && origin ≠ .dotted then none
    else match Keyed.get? key entries with
      | none => some (Keyed.set key (.value value) entries)
      | some _ => none) .header path entries

mutual
/-- The value of a node. -/
def Node.toValue : Node → Value
  | .value value => value
  | .table _ entries => .table (toTable entries)
  | .tables latest earlier => .list ((.table (toTable latest) :: toTables earlier).reverse)
/-- The table of entries. -/
def toTable : List (String × Node) → Table
  | [] => []
  | (key, node) :: rest => (key, node.toValue) :: toTable rest
/-- The values of tables. -/
def toTables : List (List (String × Node)) → List Value
  | [] => []
  | entries :: rest => .table (toTable entries) :: toTables rest
end

end ContentGraph.Settings.Toml
