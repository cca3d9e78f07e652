import ContentGraph.Keyed
import ContentGraph.Text.Split

/-!
# Files and directories

Commands reach files through a few operations, whatever holds the files.  `FileTree` is the holder
that is a value: it knows a working directory, from which relative paths lead, and a path is
followed name by name, through directories only.

* `FileAccess` — reading, writing and asking for files in a monad;
* `FileTree.locate?` — where a path leads;
* `FileTree.readText?`, `FileTree.writeText?` — the operations on a tree, which `StateM FileTree`
  offers.
-/

namespace ContentGraph

/-- A holder of text files.  Paths are written with slashes. -/
class FileAccess (m : Type → Type) where
  /-- The text of a file, or nothing when there is no such file. -/
  readText : (path : String) → m (Option String)
  /-- Puts a text into a file; whether that was possible. -/
  writeText : (path content : String) → m Bool
  /-- Whether there is a file at a path. -/
  isFile : (path : String) → m Bool
  /-- Whether there is a directory at a path. -/
  isDirectory : (path : String) → m Bool

/-- A path below a directory. -/
def joinPath (directory path : String) : String :=
  if path.toList.head? = some '/' || directory = "" then path
  else if directory.toList.getLast? = some '/' then directory ++ path
  else directory ++ "/" ++ path

/-- What stands under a name. -/
inductive FileTree.Entry
  | directory
  | file (content : String)
  deriving DecidableEq, Repr

/-- Files and directories, by their names from the root with slashes between them. -/
structure FileTree where
  entries : List (String × FileTree.Entry) := []
  /-- The names that lead from the root to the working directory. -/
  workingDirectory : List String := []
  deriving DecidableEq, Repr

namespace FileTree

/-! ### Places -/

/-- The key of the place that names lead to. -/
def keyOf (names : List String) : String := String.intercalate "/" names

/-- What stands where names lead from the root. -/
def entryAt? (tree : FileTree) (names : List String) : Option Entry :=
  if names = [] then some .directory else Keyed.get? (keyOf names) tree.entries

/-- Where components lead from `here`.  Every step starts in a directory; the place at the end may
be free. -/
def walk (tree : FileTree) (here : List String) : (components : List String) → Option (List String)
  | [] => some here
  | component :: rest =>
    if tree.entryAt? here ≠ some .directory then none
    else if component = "" || component = "." then tree.walk here rest
    else if component = ".." then tree.walk here.dropLast rest
    else tree.walk (here ++ [component]) rest

/-- The number of bytes that a path may have. -/
def maxPathSize : Nat := 4095

/-- Where a path leads; the empty path and paths of too many bytes lead nowhere. -/
def locate? (tree : FileTree) (path : String) : Option (List String) :=
  if path = "" || maxPathSize < path.utf8ByteSize then none
  else if path.toList.head? = some '/' then tree.walk [] (Text.splitAt '/' path)
  else tree.walk tree.workingDirectory (Text.splitAt '/' path)

/-- What stands at a path. -/
def lookup? (tree : FileTree) (path : String) : Option Entry :=
  (tree.locate? path).bind tree.entryAt?

/-! ### Reading and writing -/

/-- The text of a file. -/
def readText? (tree : FileTree) (path : String) : Option String :=
  match tree.lookup? path with
  | some (.file content) => some content
  | _ => none

/-- Whether a new file may have a name: at most 255 bytes, none of them zero. -/
def isFileName (name : String) : Bool :=
  name.utf8ByteSize ≤ 255 && !name.toList.contains (Char.ofNat 0)

/-- The tree with a text in a file, which must not be a directory and whose directory must be
there. -/
def writeText? (tree : FileTree) (path content : String) : Option FileTree :=
  match tree.locate? path with
  | none => none
  | some names =>
    if tree.entryAt? names = some .directory || !isFileName (names.getLastD "") then none
    else some { tree with entries := Keyed.set (keyOf names) (.file content) tree.entries }

instance : FileAccess (StateM FileTree) where
  readText path := do return (← get).readText? path
  writeText path content := fun tree =>
    match tree.writeText? path content with
    | some next => (true, next)
    | none => (false, tree)
  isFile path := do return ((← get).readText? path).isSome
  isDirectory path := do return (← get).lookup? path = some .directory

/-! ### Building trees -/

/-- The tree with an entry where names lead from the root, and directories on the way. -/
def place (tree : FileTree) (names : List String) (entry : Entry) : FileTree :=
  let parents := (List.range names.length).filterMap fun count =>
    if count = 0 then none else some (keyOf (names.take count), Entry.directory)
  let set (entries : List (String × Entry)) (item : String × Entry) :=
    Keyed.set item.1 item.2 entries
  { tree with entries := (parents ++ [(keyOf names, entry)]).foldl set tree.entries }

/-- The entries directly below the place that names lead to, by name. -/
def children (tree : FileTree) (names : List String) : List (String × Entry) :=
  let found := tree.entries.filterMap fun (key, entry) =>
    match names.isPrefixOf? (Text.splitAt '/' key) with
    | some [name] => some (name, entry)
    | _ => none
  found.mergeSort fun a b => decide (a.1 ≤ b.1)

end FileTree

end ContentGraph
