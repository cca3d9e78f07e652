import ContentGraph.Json

/-!
# Values of settings

Files and variables are read into tables of values before it is known which of them count.  Tables
are laid over each other key by key; any other value covers what lies below it as a whole.

* `Value.overlay` — one value over another;
* `overlayTable` — one table over another;
* `Value.ofJson` — the value that a JSON value stands for.
-/

namespace ContentGraph.Settings

/-- A value as a source writes it.  No setting is a number with a fraction, so such numbers are not
told apart. -/
inductive Value
  | empty
  | flag (value : Bool)
  | whole (value : Int)
  | real
  | text (value : String)
  | list (elements : List Value)
  | table (entries : List (String × Value))
  deriving Repr, Inhabited

/-- Values under keys. -/
abbrev Table := List (String × Value)

/-! ### Layers -/

mutual
/-- A value laid over another: tables entry by entry, anything else as a whole. -/
def Value.overlay (below : Value) : (above : Value) → Value
  | .table entries =>
    match below with
    | .table old => .table (overlayTable old entries)
    | _ => .table entries
  | .empty => .empty
  | .flag value => .flag value
  | .whole value => .whole value
  | .real => .real
  | .text value => .text value
  | .list elements => .list elements
/-- A table laid over another, entry by entry. -/
def overlayTable (below : Table) : (above : Table) → Table
  | [] => below
  | (key, value) :: rest =>
    let merged := match Keyed.get? key below with
      | some old => Value.overlay old value
      | none => value
    overlayTable (Keyed.set key merged below) rest
end

/-! ### JSON -/

mutual
/-- The value that a JSON value stands for. -/
def Value.ofJson : Json → Value
  | .null => .empty
  | .bool value => .flag value
  | .number (.integer value) => .whole value
  | .number (.double _) => .real
  | .string text => .text text
  | .array elements => .list (listOfJson elements)
  | .object members => .table (tableOfJson members)
/-- The values that JSON elements stand for. -/
def listOfJson : List Json → List Value
  | [] => []
  | element :: rest => Value.ofJson element :: listOfJson rest
/-- The values that JSON members stand for. -/
def tableOfJson : List (String × Json) → Table
  | [] => []
  | (key, member) :: rest => (key, Value.ofJson member) :: tableOfJson rest
end

end ContentGraph.Settings
