import ContentGraph.Settings.Layers
import ContentGraph.Proofs.FileTree

/-!
# What loading reads

Loading asks a tree of files which configuration files there are and reads those.  It only ever
looks, so its result is a function of the texts that stand under the four names in the two
directories.

* `textsIn`, `configTexts` — the texts of configuration files, in order;
* `run_discover`, `run_readLayers?` — the two steps on a tree;
* `run_load` — the settings that are loaded, and the tree as it was.
-/

namespace ContentGraph.Settings

/-- The texts of the configuration files in a directory, with their formats: those under the four
names, as far as there are such files. -/
def textsIn (tree : FileTree) (directory : String) : List (ConfigFormat × String) :=
  if tree.lookup? directory = some .directory then
    [("slicegraph.toml", ConfigFormat.toml), ("slicegraph.yaml", .yaml), ("slicegraph.yml", .yaml),
      ("slicegraph.json", .json)].filterMap fun (name, format) =>
        (tree.readText? (joinPath directory name)).map fun text => (format, text)
  else []

/-- The texts of all configuration files: those of the user, then those of the project. -/
def configTexts (tree : FileTree) (places : ConfigPlaces) : List (ConfigFormat × String) :=
  let userDir? := places.globalDir <|> places.home.map fun home => joinPath home ".slicegraph"
  let projectDir := places.projectDir.getD (joinPath places.workingDirectory ".slicegraph")
  userDir?.elim [] (textsIn tree) ++ textsIn tree projectDir

variable (tree : FileTree)

/-! ### Finding files -/

theorem run_filterInOrder {α : Type} {test : α → StateM FileTree Bool} {passes : α → Bool}
    (h : ∀ a, (test a).run tree = (passes a, tree)) (items : List α) :
    (filterInOrder test items).run tree = (items.filter passes, tree) := by
  induction items with
  | nil => rfl
  | cons item rest ih =>
    rw [filterInOrder, StateT.run_bind, h]
    show (filterInOrder test rest >>= fun others =>
      pure (if passes item then item :: others else others)).run tree = _
    rw [StateT.run_bind, ih, List.filter_cons]
    rfl

/-- The configuration files that are in a directory. -/
def filesAt (directory : String) (scope : ConfigScope) : List ConfigFile :=
  if tree.lookup? directory = some .directory then
    (configFileNames.map fun (name, format) =>
      (⟨joinPath directory name, format, scope⟩ : ConfigFile)).filter
      fun file => (tree.readText? file.path).isSome
  else []

theorem run_configFilesIn (directory : String) (scope : ConfigScope) :
    (configFilesIn directory scope : StateM FileTree _).run tree =
      (filesAt tree directory scope, tree) := by
  rw [configFilesIn, StateT.run_bind]
  show (if decide (tree.lookup? directory = some .directory) = true then _
    else _ : StateM FileTree _).run tree = _
  rw [filesAt]
  by_cases h : tree.lookup? directory = some .directory
  · have htest : ∀ file :
        ConfigFile, (FileAccess.isFile file.path : StateM FileTree Bool).run tree =
        ((tree.readText? file.path).isSome, tree) := fun _ => rfl
    rw [if_pos (decide_eq_true h), if_pos h]
    exact run_filterInOrder tree htest _
  · rw [if_neg (by simpa using h), if_neg h]
    rfl

/-- The files of a chosen directory, or of the usual one below `base`. -/
theorem run_configFilesOf (chosen base : Option String) (scope : ConfigScope) :
    (configFilesOf chosen base scope : StateM FileTree _).run tree =
      ((chosen <|> base.map fun base => joinPath base configDirectory).elim []
        (filesAt tree · scope), tree) := by
  cases chosen with
  | some directory => exact run_configFilesIn tree directory scope
  | none =>
    cases base with
    | some base => exact run_configFilesIn tree (joinPath base configDirectory) scope
    | none => rfl

/-- The user's files are found before the project's. -/
theorem run_discover (places : ConfigPlaces) :
    (discover places : StateM FileTree _).run tree =
      ((places.globalDir <|> places.home.map fun home => joinPath home configDirectory).elim []
          (filesAt tree · .global) ++
        filesAt tree (places.projectDir.getD (joinPath places.workingDirectory configDirectory))
          .project, tree) := by
  rw [discover, StateT.run_bind, run_configFilesOf]
  show (configFilesOf places.projectDir (some places.workingDirectory) .project >>= fun project =>
    pure (_ ++ project) : StateM FileTree _).run tree = _
  rw [StateT.run_bind, run_configFilesOf]
  cases places.projectDir <;> rfl

/-! ### Reading them -/

/-- Files are read one after the other, and one that cannot be read leaves nothing. -/
theorem run_readLayers? (files : List ConfigFile) :
    (readLayers? files : StateM FileTree _).run tree =
      (files.mapM fun file => (tree.readText? file.path).bind file.format.read?, tree) := by
  induction files with
  | nil => rfl
  | cons file rest ih =>
    rw [readLayers?, FileTree.run_readText, StateT.run_bind, ih, List.mapM_cons]
    cases (tree.readText? file.path).bind file.format.read? with
    | none => rfl
    | some table =>
      cases rest.mapM fun file => (tree.readText? file.path).bind file.format.read? <;> rfl

/-- The texts of the files that are there are what is read of them. -/
theorem mapM_read?_of_filter (files : List ConfigFile) :
    ((files.filter fun file => (tree.readText? file.path).isSome).mapM fun file =>
        (tree.readText? file.path).bind file.format.read?) =
      (files.filterMap fun file => (tree.readText? file.path).map fun text =>
        (file.format, text)).mapM
        fun entry => entry.1.read? entry.2 := by
  induction files with
  | nil => rfl
  | cons file rest ih =>
    cases htext : tree.readText? file.path with
    | none => simpa [List.filter_cons, htext] using ih
    | some text => simp [htext, ih]

theorem mapM_read?_filesAt (directory : String) (scope : ConfigScope) :
    ((filesAt tree directory scope).mapM fun file =>
      (tree.readText? file.path).bind file.format.read?) =
      (textsIn tree directory).mapM fun entry => entry.1.read? entry.2 := by
  rw [filesAt, textsIn]
  split
  · rw [mapM_read?_of_filter, List.filterMap_map]
    rfl
  · rfl

/-- What the found files hold, in order, is what the texts under the four names hold. -/
theorem mapM_read?_found (chosen : Option String) (directory : String) :
    (chosen.elim [] (filesAt tree · .global) ++ filesAt tree directory .project).mapM
        (fun file => (tree.readText? file.path).bind file.format.read?) =
      (chosen.elim [] (textsIn tree) ++ textsIn tree directory).mapM fun entry =>
        entry.1.read? entry.2 := by
  rw [List.mapM_append, List.mapM_append, mapM_read?_filesAt]
  cases chosen with
  | none => rfl
  | some chosen => rw [Option.elim_some, Option.elim_some, mapM_read?_filesAt]

/-- **Loading reads the texts under the four names**, first the user's and then the project's.
Their tables are laid over the defaults, the environment over all of them, and the tree stays as it
was. -/
theorem run_load (places : ConfigPlaces) (vars : List (String × String)) :
    (load places vars : StateM FileTree _).run tree =
      (match (configTexts tree places).mapM fun entry => entry.1.read? entry.2 with
        | none => .error .unreadable
        | some layers => ofLayers (layers ++ [tableOfVariables vars]), tree) := by
  rw [load, StateT.run_bind, run_discover]
  show (readLayers? _ >>= fun layers => pure _ : StateM FileTree _).run tree = _
  rw [StateT.run_bind, run_readLayers?, mapM_read?_found]
  rfl

end ContentGraph.Settings
