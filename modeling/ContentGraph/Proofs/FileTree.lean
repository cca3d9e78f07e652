import ContentGraph.FileTree
import ContentGraph.Proofs.Keyed

/-!
# Files after a write

A write changes one entry of a tree, and that entry was no directory.  Directories are all that a
path leads through, so every path leads where it led before, and the file just written is found with
its new text.

* `FileTree.withText` with `walk_withText`, `locate?_withText` — paths lead where they led;
* `FileTree.exists_writeText?` — when a file can be written;
* `FileTree.readText?_of_writeText?`, `FileTree.run_readText` — what was written is read;
* `RecordedTree` — a tree together with the writes that were made in it, another holder of files,
  with `run_readText` and `run_writeText`.
-/

namespace ContentGraph

namespace FileTree

/-- The tree with a text where names lead. -/
def withText (tree : FileTree) (names : List String) (content : String) : FileTree :=
  { tree with entries := Keyed.set (keyOf names) (.file content) tree.entries }

variable {tree next : FileTree} {path content : String} {names here found : List String}

/-- **What a write does**: a text takes the place of what is no directory. -/
theorem exists_of_writeText? (h : tree.writeText? path content = some next) :
    ∃ names, tree.locate? path = some names ∧ tree.entryAt? names ≠ some .directory ∧
      next = tree.withText names content := by
  rw [writeText?] at h
  split at h
  · cases h
  · next names hnames =>
    split at h
    · cases h
    · next hfree =>
      cases h
      refine ⟨names, hnames, fun hdirectory => hfree ?_, rfl⟩
      simp [hdirectory]

/-- A file can be written where its path leads to no directory and its name is one of a file. -/
theorem exists_writeText? (hnames : tree.locate? path = some names)
    (hfree : tree.entryAt? names ≠ some .directory) (hname : isFileName (names.getLastD "") = true)
    (content : String) :
    ∃ next, tree.writeText? path content = some next := by
  have hallowed :
      (tree.entryAt? names = some .directory || !isFileName (names.getLastD "")) = false := by
    rw [hname, decide_eq_false hfree]
    rfl
  refine ⟨tree.withText names content, ?_⟩
  simp only [writeText?, hnames, hallowed]
  rfl

/-- Directories stay directories. -/
theorem entryAt?_withText (hfree : tree.entryAt? names ≠ some .directory)
    (hhere : tree.entryAt? here = some .directory) :
    (tree.withText names content).entryAt? here = some .directory := by
  rw [entryAt?] at hhere hfree ⊢
  by_cases hroot : here = []
  · rw [if_pos hroot]
  · rw [if_neg hroot] at hhere ⊢
    have hkey : keyOf here ≠ keyOf names := by
      intro hkey
      by_cases hnames : names = []
      · exact hfree (if_pos hnames)
      · rw [if_neg hnames, ← hkey] at hfree
        exact hfree hhere
    show Keyed.get? (keyOf here) (Keyed.set (keyOf names) (.file content) tree.entries) =
      some .directory
    rw [Keyed.get?_set_of_ne hkey]
    exact hhere

/-- Steps lead where they led, since each one starts in a directory. -/
theorem walk_withText (hfree : tree.entryAt? names ≠ some .directory) {components : List String}
    (h : tree.walk here components = some found) :
    (tree.withText names content).walk here components = some found := by
  induction components generalizing here with
  | nil => exact h
  | cons component rest ih =>
    rw [walk] at h ⊢
    by_cases hhere : tree.entryAt? here = some .directory
    · rw [if_neg (not_not.mpr hhere)] at h
      rw [if_neg (not_not.mpr (entryAt?_withText hfree hhere))]
      by_cases hstay : (component = "" || component = ".") = true
      · rw [if_pos hstay] at h ⊢
        exact ih h
      · rw [if_neg hstay] at h ⊢
        by_cases hup : component = ".."
        · rw [if_pos hup] at h ⊢
          exact ih h
        · rw [if_neg hup] at h ⊢
          exact ih h
    · rw [if_pos hhere] at h
      cases h

theorem locate?_withText (hfree : tree.entryAt? names ≠ some .directory)
    (h : tree.locate? path = some found) :
    (tree.withText names content).locate? path = some found := by
  rw [locate?] at h ⊢
  split
  · next hnowhere =>
    rw [if_pos hnowhere] at h
    cases h
  · next hsomewhere =>
    rw [if_neg hsomewhere] at h
    split
    · next habsolute =>
      rw [if_pos habsolute] at h
      exact walk_withText hfree h
    · next hrelative =>
      rw [if_neg hrelative] at h
      exact walk_withText hfree h

/-- **What was written is read.** -/
theorem readText?_of_writeText? (h : tree.writeText? path content = some next) :
    next.readText? path = some content := by
  obtain ⟨names, hnames, hfree, rfl⟩ := exists_of_writeText? h
  have hsome : names ≠ [] := by
    rintro rfl
    exact hfree rfl
  have hentry : (tree.withText names content).entryAt? names = some (.file content) := by
    rw [entryAt?, if_neg hsome]
    exact Keyed.get?_set_self _ _ _
  rw [readText?, lookup?, locate?_withText hfree hnames, Option.bind_some, hentry]

/-- Reading changes nothing. -/
theorem run_readText {α : Type} (path : String) (next : Option String → StateM FileTree α)
    (tree : FileTree) :
    (FileAccess.readText path >>= next).run tree = (next (tree.readText? path)).run tree := rfl

end FileTree

/-! ### Recorded writes -/

/-- A tree of files and the writes that were made in it: paths and texts, in order. -/
structure RecordedTree where
  tree : FileTree
  writes : List (String × String) := []
  deriving DecidableEq, Repr

instance : FileAccess (StateM RecordedTree) where
  readText path := do return (← get).tree.readText? path
  writeText path content := fun recorded =>
    match recorded.tree.writeText? path content with
    | some next => (true, ⟨next, recorded.writes ++ [(path, content)]⟩)
    | none => (false, recorded)
  isFile path := do return ((← get).tree.readText? path).isSome
  isDirectory path := do return (← get).tree.lookup? path = some .directory

namespace RecordedTree

variable {α : Type}

/-- Reading changes nothing. -/
theorem run_readText (path : String) (next : Option String → StateM RecordedTree α)
    (recorded : RecordedTree) :
    (FileAccess.readText path >>= next).run recorded =
      (next (recorded.tree.readText? path)).run recorded := rfl

/-- A write that succeeds is recorded, and one that fails changes nothing. -/
theorem run_writeText (path content : String) (next : Bool → StateM RecordedTree α)
    (recorded : RecordedTree) :
    (FileAccess.writeText path content >>= next).run recorded =
      match recorded.tree.writeText? path content with
      | some tree => (next true).run ⟨tree, recorded.writes ++ [(path, content)]⟩
      | none => (next false).run recorded := by
  show (match (match recorded.tree.writeText? path content with
    | some tree => (true, (⟨tree, recorded.writes ++ [(path, content)]⟩ : RecordedTree))
    | none => (false, recorded)) with | (done, after) => (next done).run after) = _
  cases recorded.tree.writeText? path content <;> rfl

end RecordedTree

end ContentGraph
